import AgentHarness.Lib.Marker

/-!
Finding a marker in a text: the first occurrence, the number of occurrences, and what a cut at an
occurrence leaves.
-/

namespace Text

-- `str::find`: the parts around the first occurrence of the needle
def splitFirst (needle s : String) : Option (String × String) :=
  (go s.toList).map fun parts => (String.ofList parts.1, String.ofList parts.2)
where
  go : List Char → Option (List Char × List Char)
    | [] => if needle.toList.isPrefixOf [] then some ([], []) else none
    | ch :: rest =>
      if needle.toList.isPrefixOf (ch :: rest) then
        some ([], (ch :: rest).drop needle.toList.length)
      else
        (go rest).map fun parts => (ch :: parts.1, parts.2)

-- `str::matches(..).count()`: occurrences that do not overlap, from the left
def matchCount (needle s : String) : Nat :=
  go 0 s.toList
where
  go : Nat → List Char → Nat
    | _, [] => 0
    | skip + 1, _ :: rest => go skip rest
    | 0, ch :: rest =>
      if needle.toList.isPrefixOf (ch :: rest) then
        go (needle.toList.length - 1) rest + 1
      else
        go 0 rest

section

variable {needle s : String}

theorem splitFirst_go_some {chars before after : List Char}
    (h : splitFirst.go needle chars = some (before, after))
    : chars = before ++ needle.toList ++ after
      ∧ (needle.toList ≠ [] → ¬needle.toList <:+: before) := by
  induction chars generalizing before with
  | nil =>
    unfold splitFirst.go at h
    rw [Option.ite_none_right_eq_some, List.isPrefixOf_iff_prefix, List.prefix_nil] at h
    obtain ⟨hneedle, hparts⟩ := h
    obtain ⟨rfl, rfl⟩ := Prod.mk.inj (Option.some.inj hparts)
    simp [hneedle]
  | cons ch rest ih =>
    unfold splitFirst.go at h
    split at h
    . next hlead =>
      rw [List.isPrefixOf_iff_prefix] at hlead
      obtain ⟨rfl, rfl⟩ := Prod.mk.inj (Option.some.inj h)
      refine ⟨(List.prefix_iff_eq_append.mp hlead).symm, ?_⟩
      intro hne hmarked
      exact hne (List.infix_nil.mp hmarked)
    . next hlead =>
      rw [Option.map_eq_some_iff] at h
      obtain ⟨⟨left, right⟩, hgo, hparts⟩ := h
      obtain ⟨rfl, rfl⟩ := Prod.mk.inj hparts
      obtain ⟨hrest, hfirst⟩ := ih hgo
      refine ⟨by rw [hrest]; simp, ?_⟩
      intro hne hmarked
      rw [List.infix_cons_iff] at hmarked
      cases hmarked with
      | inr hmarked => exact hfirst hne hmarked
      | inl hstart =>
        apply hlead
        rw [List.isPrefixOf_iff_prefix, hrest, List.append_assoc, ← List.cons_append]
        exact hstart.trans (List.prefix_append _ _)

theorem splitFirst_go_eq_none {chars : List Char}
    : splitFirst.go needle chars = none ↔ ¬needle.toList <:+: chars := by
  induction chars with
  | nil =>
    unfold splitFirst.go
    rw [List.infix_nil]
    simp
  | cons ch rest ih =>
    unfold splitFirst.go
    rw [List.infix_cons_iff, not_or, ← ih, ← List.isPrefixOf_iff_prefix]
    split <;> simp_all

theorem splitFirst_eq_none : splitFirst needle s = none ↔ ¬contains s needle := by
  unfold splitFirst
  rw [Option.map_eq_none_iff, splitFirst_go_eq_none, contains_iff]

theorem splitFirst_eq_some {before after : String} (hne : needle ≠ "")
    (h : splitFirst needle s = some (before, after))
    : s = before ++ needle ++ after ∧ ¬contains before needle := by
  unfold splitFirst at h
  rw [Option.map_eq_some_iff] at h
  obtain ⟨⟨left, right⟩, hgo, hparts⟩ := h
  obtain ⟨rfl, rfl⟩ := Prod.mk.inj hparts
  obtain ⟨hchars, hfirst⟩ := splitFirst_go_some hgo
  constructor
  . rw [← String.toList_inj, hchars]
    simp
  . rw [contains_iff, String.toList_ofList]
    apply hfirst
    rwa [Ne, String.toList_eq_nil_iff]

theorem matchCount_go_eq_zero {chars : List Char} (hne : needle.toList ≠ [])
    : matchCount.go needle 0 chars = 0 ↔ ¬needle.toList <:+: chars := by
  induction chars with
  | nil => simpa [matchCount.go] using hne
  | cons ch rest ih =>
    unfold matchCount.go
    rw [List.infix_cons_iff, not_or, ← ih, ← List.isPrefixOf_iff_prefix]
    split <;> simp_all

theorem matchCount_eq_zero (hne : needle ≠ "") : matchCount needle s = 0 ↔ ¬contains s needle := by
  unfold matchCount
  rw [matchCount_go_eq_zero (by rwa [Ne, String.toList_eq_nil_iff]), contains_iff]

theorem rsplitOnce_go_last {chars before after : List Char} (hne : needle.toList ≠ [])
    (h : rsplitOnce.go needle chars = some (before, after))
    : ¬needle.toList <:+: after := by
  induction chars generalizing before with
  | nil => cases h
  | cons ch rest ih =>
    unfold rsplitOnce.go at h
    split at h
    . next left right hgo =>
      obtain ⟨_, rfl⟩ := Prod.mk.inj (Option.some.inj h)
      apply ih hgo
    . next hgo =>
      split at h
      . next hlead =>
        obtain ⟨_, rfl⟩ := Prod.mk.inj (Option.some.inj h)
        rw [rsplitOnce_go_eq_none hne] at hgo
        intro hmarked
        apply hgo
        cases hchars : needle.toList with
        | nil => exact absurd hchars hne
        | cons first others =>
          rw [hchars, List.length_cons, List.drop_succ_cons] at hmarked
          exact hmarked.trans (List.drop_suffix _ _).isInfix
      . cases h

theorem rsplitOnce_last {before after : String} (hne : needle ≠ "")
    (h : rsplitOnce needle s = some (before, after))
    : ¬contains after needle := by
  unfold rsplitOnce at h
  rw [Option.map_eq_some_iff] at h
  obtain ⟨⟨left, right⟩, hgo, hparts⟩ := h
  obtain ⟨_, rfl⟩ := Prod.mk.inj hparts
  rw [contains_iff, String.toList_ofList]
  apply rsplitOnce_go_last _ hgo
  rwa [Ne, String.toList_eq_nil_iff]

end

section

variable {needle : List Char}

theorem infix_of_space_append {space chars : List Char} (hne : needle ≠ [])
    (hneedle : ∀ ch ∈ needle, ¬isWhitespace ch) (hspace : ∀ ch ∈ space, isWhitespace ch)
    (h : needle <:+: space ++ chars)
    : needle <:+: chars := by
  rw [List.infix_append_iff_ne_nil] at h
  obtain h | h | ⟨before, after, hbefore, _, rfl, hend, _⟩ := h
  . obtain ⟨ch, hch⟩ := List.exists_mem_of_ne_nil _ hne
    exact absurd (hspace ch (h.subset hch)) (hneedle ch hch)
  . exact h
  . obtain ⟨ch, hch⟩ := List.exists_mem_of_ne_nil _ hbefore
    have hmem : ch ∈ before ++ after := List.mem_append_left _ hch
    exact absurd (hspace ch (hend.subset hch)) (hneedle ch hmem)

theorem infix_dropWhile_iff {chars : List Char} (hne : needle ≠ [])
    (hneedle : ∀ ch ∈ needle, ¬isWhitespace ch)
    : needle <:+: chars.dropWhile isWhitespace ↔ needle <:+: chars := by
  constructor
  . intro h
    exact h.trans (List.dropWhile_suffix _).isInfix
  . intro h
    rw [← List.takeWhile_append_dropWhile (p := isWhitespace) (l := chars)] at h
    apply infix_of_space_append hne hneedle _ h
    intro ch hch
    exact List.all_eq_true.mp List.all_takeWhile ch hch

theorem contains_trim {s needle : String} (hne : needle ≠ "")
    (hneedle : ∀ ch ∈ needle.toList, ¬isWhitespace ch)
    : contains (trim s) needle ↔ contains s needle := by
  have hlist : needle.toList ≠ [] := by rwa [Ne, String.toList_eq_nil_iff]
  have hreverse : needle.toList.reverse ≠ [] := by simpa using hne
  unfold trim
  rw [contains_iff, contains_iff, String.toList_ofList, ← List.reverse_infix, List.reverse_reverse,
    infix_dropWhile_iff hreverse (by simpa using hneedle), List.reverse_infix,
    infix_dropWhile_iff hlist hneedle]

end

/-
A nonempty end of the left part and a nonempty start of the right part make up the needle.
-/
def Straddles (needle left right : String) : Prop :=
  ∃ head tail, head ≠ [] ∧ tail ≠ [] ∧ needle.toList = head ++ tail
    ∧ head <:+ left.toList ∧ tail <+: right.toList

theorem contains_of_starts_before {c : Char} {tail : List Char} {marker other : String}
    {left left' right right' : String} (hmarker : marker.toList = c :: tail) (htail : c ∉ tail)
    (hother : other.toList.head? = some c)
    (h : left' ++ marker ++ right' = left ++ other ++ right)
    (hlt : left'.utf8ByteSize < left.utf8ByteSize)
    : contains left marker := by
  obtain ⟨others, hother⟩ : ∃ others, other.toList = c :: others := by
    cases hchars : other.toList with
    | nil => simp [hchars] at hother
    | cons first others =>
      obtain rfl : first = c := by simpa [hchars] using hother
      exact ⟨others, rfl⟩
  have h := congrArg String.toList h
  simp only [String.toList_append, List.append_assoc, hmarker, hother] at h
  rw [List.append_eq_append_iff] at h
  obtain ⟨gap, hleft, hgap⟩ | ⟨gap, hleft, _⟩ := h
  . rw [contains_iff, hleft, hmarker]
    cases gap with
    | nil =>
      rw [List.append_nil, String.toList_inj] at hleft
      rw [hleft] at hlt
      exact absurd hlt (lt_irrefl _)
    | cons first gap =>
      -- the other marker starts with `c`, so it does not start inside the tail
      rw [List.cons_append, List.cons_append, List.cons.injEq] at hgap
      obtain ⟨rfl, hgap⟩ := hgap
      rw [List.append_eq_append_iff] at hgap
      obtain ⟨rest, hgap, _⟩ | ⟨rest, htail', hrest⟩ := hgap
      . rw [hgap]
        exact ((List.prefix_append (c :: tail) rest).isInfix).trans (List.suffix_append _ _).isInfix
      . cases rest with
        | nil =>
          rw [List.append_nil] at htail'
          rw [htail']
          exact (List.suffix_append _ _).isInfix
        | cons first rest =>
          obtain rfl : c = first := (List.cons.inj hrest).1
          rw [htail'] at htail
          exact absurd (List.mem_append_right _ List.mem_cons_self) htail
  . have hsize : left'.utf8ByteSize = left.utf8ByteSize + (String.ofList gap).utf8ByteSize := by
      rw [← String.utf8ByteSize_append]
      congr 1
      rw [← String.toList_inj, hleft]
      simp
    omega

theorem contains_append {needle left right : String}
    : contains (left ++ right) needle
        ↔ contains left needle ∨ contains right needle ∨ Straddles needle left right := by
  simp only [contains_iff, String.toList_append, List.infix_append_iff_ne_nil, Straddles]

end Text
