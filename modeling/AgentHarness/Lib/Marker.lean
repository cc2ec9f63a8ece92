import AgentHarness.Lib.Text

/-!
Splitting at markers. A marker is a separator whose first character does not occur in the rest of
it, so two occurrences never overlap and no occurrence straddles the start of another one.
-/

namespace Text

section

variable {c : Char} {tail left right : List Char}

theorem marker_infix_append (htail : c ∉ tail)
    : (c :: tail) <:+: left ++ c :: right
        ↔ (c :: tail) <:+: left ∨ (c :: tail) <:+: c :: right := by
  rw [List.infix_append_iff_ne_nil]
  constructor
  . intro h
    obtain h | h | ⟨before, after, hbefore, hafter, hsplit, _, hstart⟩ := h
    . exact .inl h
    . exact .inr h
    . -- what lies in `right` would start with the first character and be part of the rest
      exfalso
      cases before with
      | nil => exact hbefore rfl
      | cons b before =>
        cases after with
        | nil => exact hafter rfl
        | cons a after =>
          have ha : a = c := (List.cons_prefix_cons.mp hstart).1
          have hsplit : tail = before ++ a :: after := (List.cons.inj hsplit).2
          apply htail
          rw [hsplit, ha]
          simp
  . intro h
    cases h with
    | inl h => exact .inl h
    | inr h => exact .inr (.inl h)

theorem not_marker_infix (h : c ∉ right) : ¬(c :: tail) <:+: right := by
  intro hmarked
  exact h (hmarked.subset List.mem_cons_self)

theorem not_marker_infix_segment (h : c ∉ right) (hlead : ¬tail <+: right)
    : ¬(c :: tail) <:+: c :: right := by
  rw [List.infix_cons_iff, List.cons_prefix_cons]
  intro hmarked
  cases hmarked with
  | inl hstart => exact hlead hstart.2
  | inr hmarked => exact not_marker_infix h hmarked

theorem marker_infix_tail_append (htail : c ∉ tail) (h : ¬(c :: tail) <:+: right)
    : ¬(c :: tail) <:+: tail ++ right := by
  rw [List.infix_append_iff_ne_nil]
  intro hmarked
  obtain hmarked | hmarked | ⟨before, after, hbefore, _, hsplit, hend, _⟩ := hmarked
  . exact not_marker_infix htail hmarked
  . exact h hmarked
  . cases before with
    | nil => exact hbefore rfl
    | cons b before =>
      have hb : c = b := (List.cons.inj hsplit).1
      apply htail
      rw [hb]
      exact hend.subset List.mem_cons_self

end

section

variable {separator s left right : String}

theorem contains_iff (s needle : String) : contains s needle ↔ needle.toList <:+: s.toList := by
  simp [contains]

theorem rsplitOnce_go_eq_none {chars : List Char} (hseparator : separator.toList ≠ [])
    : rsplitOnce.go separator chars = none ↔ ¬separator.toList <:+: chars := by
  induction chars with
  | nil => simpa [rsplitOnce.go] using hseparator
  | cons ch rest ih =>
    rw [List.infix_cons_iff]
    unfold rsplitOnce.go
    cases hgo : rsplitOnce.go separator rest with
    | some parts =>
      rw [hgo] at ih
      have hmarked : separator.toList <:+: rest := by simpa using ih
      simp [hmarked]
    | none =>
      rw [hgo] at ih
      have hmarked : ¬separator.toList <:+: rest := by simpa using ih
      simp [hmarked]

theorem rsplitOnce_go_some {chars before after : List Char}
    (h : rsplitOnce.go separator chars = some (before, after))
    : chars = before ++ separator.toList ++ after := by
  induction chars generalizing before with
  | nil => cases h
  | cons ch rest ih =>
    unfold rsplitOnce.go at h
    split at h
    . next left right hgo =>
      obtain ⟨rfl, rfl⟩ := Prod.mk.inj (Option.some.inj h)
      rw [ih hgo]
      simp
    . next hgo =>
      split at h
      . next hlead =>
        obtain ⟨rfl, rfl⟩ := Prod.mk.inj (Option.some.inj h)
        rw [List.isPrefixOf_iff_prefix] at hlead
        rw [List.nil_append]
        exact (List.prefix_iff_eq_append.mp hlead).symm
      . cases h

def IsMarker (separator : String) : Prop :=
  ∃ c tail, separator.toList = c :: tail ∧ c ∉ tail

theorem rsplitOnce_go_append (hmarker : IsMarker separator) (before : List Char) {after : List Char}
    (hafter : ¬separator.toList <:+: after)
    : rsplitOnce.go separator (before ++ separator.toList ++ after) = some (before, after) := by
  obtain ⟨c, tail, hseparator, htail⟩ := hmarker
  have hne : separator.toList ≠ [] := by simp [hseparator]
  induction before with
  | nil =>
    have hrest : rsplitOnce.go separator (tail ++ after) = none := by
      rw [rsplitOnce_go_eq_none hne, hseparator]
      rw [hseparator] at hafter
      exact marker_infix_tail_append htail hafter
    rw [List.nil_append, hseparator, List.cons_append]
    unfold rsplitOnce.go
    simp only [hrest, hseparator]
    simp
  | cons ch before ih =>
    rw [List.cons_append, List.cons_append]
    unfold rsplitOnce.go
    rw [ih]

theorem rsplitOnce_eq_none (hmarker : IsMarker separator)
    : rsplitOnce separator s = none ↔ ¬contains s separator := by
  obtain ⟨c, tail, hseparator, _⟩ := hmarker
  have hne : separator.toList ≠ [] := by simp [hseparator]
  unfold rsplitOnce
  rw [Option.map_eq_none_iff, rsplitOnce_go_eq_none hne, contains_iff]

theorem rsplitOnce_append (hmarker : IsMarker separator) (left : String)
    (hright : ¬contains right separator)
    : rsplitOnce separator (left ++ separator ++ right) = some (left, right) := by
  rw [contains_iff] at hright
  unfold rsplitOnce
  rw [String.toList_append, String.toList_append, rsplitOnce_go_append hmarker _ hright]
  simp

theorem rsplitOnce_eq_some (h : rsplitOnce separator s = some (left, right))
    : s = left ++ separator ++ right := by
  unfold rsplitOnce at h
  rw [Option.map_eq_some_iff] at h
  obtain ⟨⟨before, after⟩, hgo, hparts⟩ := h
  obtain ⟨rfl, rfl⟩ := Prod.mk.inj hparts
  rw [← String.toList_inj, rsplitOnce_go_some hgo]
  simp

theorem dropTail_eq_some : dropTail right s = some left ↔ s = left ++ right := by
  unfold dropTail endsWith
  rw [Option.ite_none_right_eq_some, List.isSuffixOf_iff_suffix, List.suffix_iff_eq_append,
    ← String.toList_inj, String.toList_append, Option.some.injEq]
  constructor
  . intro h
    rw [← h.2, String.toList_ofList]
    exact h.1.symm
  . intro h
    simp [h]

theorem segment_inj {c : Char} {before before' after after' : List Char} (hafter : c ∉ after)
    (hafter' : c ∉ after') (h : before ++ c :: after = before' ++ c :: after')
    : before = before' ∧ after = after' := by
  have hmarker : IsMarker (String.ofList [c]) := ⟨c, [], by simp, by simp⟩
  have hlast : ∀ chars : List Char, c ∉ chars → ¬(String.ofList [c]).toList <:+: chars := by
    intro chars hchars
    rw [String.toList_ofList]
    exact not_marker_infix hchars
  have hgo := rsplitOnce_go_append hmarker before (hlast after hafter)
  have hgo' := rsplitOnce_go_append hmarker before' (hlast after' hafter')
  simp only [String.toList_ofList, List.append_assoc, List.singleton_append] at hgo hgo'
  rw [h, hgo', Option.some.injEq, Prod.mk.injEq] at hgo
  exact ⟨hgo.1.symm, hgo.2.symm⟩

end

section

variable {s : String}

theorem head_of_trim (h : trim s = s) : ∀ ch ∈ s.toList.head?, ¬isWhitespace ch := by
  intro ch hch hspace
  have hlength := congrArg String.toList h
  unfold trim at hlength
  rw [String.toList_ofList] at hlength
  cases hs : s.toList with
  | nil => simp [hs] at hch
  | cons first rest =>
    rw [hs] at hch hlength
    obtain rfl : first = ch := by simpa using hch
    have hlength := congrArg List.length hlength
    rw [List.dropWhile_cons_of_pos hspace, List.length_reverse] at hlength
    have hshort : ∀ chars : List Char, (chars.dropWhile isWhitespace).length ≤ chars.length :=
      fun chars => (List.dropWhile_sublist isWhitespace).length_le
    have hright := hshort (rest.dropWhile isWhitespace).reverse
    have hleft := hshort rest
    rw [List.length_reverse] at hright
    rw [List.length_cons] at hlength
    omega

theorem trim_of_ends (hfirst : ∀ ch ∈ s.toList.head?, ¬isWhitespace ch)
    (hlast : ∀ ch ∈ s.toList.getLast?, ¬isWhitespace ch)
    : trim s = s := by
  have hkeep : ∀ chars : List Char, (∀ ch ∈ chars.head?, ¬isWhitespace ch)
      → chars.dropWhile isWhitespace = chars := by
    intro chars hhead
    cases chars with
    | nil => rfl
    | cons ch chars => exact List.dropWhile_cons_of_neg (hhead ch rfl)
  unfold trim
  rw [hkeep _ hfirst, hkeep, List.reverse_reverse, String.ofList_toList]
  rw [List.head?_reverse]
  exact hlast

theorem trim_append_newline (hne : s ≠ "") (h : trim s = s) : trim (s ++ "\n") = s := by
  have hfirst := head_of_trim h
  cases hs : s.toList with
  | nil => exact absurd (String.toList_eq_nil_iff.mp hs) hne
  | cons first rest =>
    have hkeep : ∀ chars, (s.toList ++ chars).dropWhile isWhitespace = s.toList ++ chars := by
      intro chars
      rw [hs, List.cons_append]
      apply List.dropWhile_cons_of_neg
      apply hfirst
      rw [hs]
      rfl
    have hsame := hkeep []
    rw [List.append_nil] at hsame
    unfold trim at h ⊢
    rw [hsame] at h
    rw [String.toList_append, hkeep]
    show String.ofList ((s.toList ++ ['\n']).reverse.dropWhile isWhitespace).reverse = s
    rw [List.reverse_append, List.reverse_singleton, List.singleton_append,
      List.dropWhile_cons_of_pos (by decide)]
    exact h

end

theorem digitsValue_toString (n : Nat) : digitsValue (toString n).toList = n := by
  unfold digitsValue
  rw [Nat.toString_eq_ofList_toDigits, String.toList_ofList]
  calc (Nat.toDigits 10 n).foldl (fun value ch => value * 10 + (ch.toNat - '0'.toNat)) 0
      = Nat.ofDigitChars 10 (Nat.toDigits 10 n) 0 := by
        simp only [Nat.ofDigitChars_eq_foldl, Nat.mul_comm]
    _ = n := Nat.ofDigitChars_ten_toDigits

theorem isDigit_toString {n : Nat} : ∀ ch ∈ (toString n).toList, ch.isDigit := by
  intro ch hch
  rw [Nat.toString_eq_ofList_toDigits, String.toList_ofList] at hch
  exact Nat.isDigit_of_mem_toDigits (by decide) (by decide) hch

theorem toString_ne_empty (n : Nat) : toString n ≠ "" := by
  rw [Nat.toString_eq_ofList_toDigits]
  intro h
  have h := congrArg String.toList h
  rw [String.toList_ofList] at h
  exact Nat.toDigits_ne_nil h

end Text
