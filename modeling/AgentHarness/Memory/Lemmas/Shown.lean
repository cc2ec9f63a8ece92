import AgentHarness.Memory.Lemmas.Skeleton

/-!
What a redacted text shows of the assignments in the text: where a run starts and ends, and what is left
of the key and the value around a separator which is not covered.
-/

namespace Memory

open Text (utf8Bytes)

/-
A run that is the value of an assignment which the redacted text still shows: the skeleton is `front`,
the run and `back`, and `front` ends with the separator, spaces and the quote if there is one.
-/
structure Shown (skeleton : Skeleton) (quote : Option UInt8) (front back : Skeleton) : Prop where
  split : skeleton = front ++ none :: back
  assigned : ∃ key separator space, front = key ++ some separator :: (space ++ quote.toList).map some
    ∧ isSeparator separator ∧ Assigns key.render ∧ ∀ b ∈ space, isAsciiWhitespace b
  quoted : ∀ b ∈ quote, isQuote b

theorem Skeleton.last_run (s : Skeleton)
    : (∃ tail : List UInt8, s = tail.map some)
      ∨ ∃ (front : Skeleton) (tail : List UInt8), s = front ++ none :: tail.map some := by
  induction s using List.reverseRecOn with
  | nil => exact .inl ⟨[], rfl⟩
  | append_singleton s part ih =>
    cases part with
    | none => exact .inr ⟨s, [], rfl⟩
    | some b =>
      rcases ih with ⟨tail, rfl⟩ | ⟨front, tail, rfl⟩
      . exact .inl ⟨tail ++ [b], by simp⟩
      . exact .inr ⟨front, tail ++ [b], by simp⟩

section

variable {bytes p q before value rest : List UInt8} {b c : UInt8}

theorem covered_of_redacts (h : Redacts before value rest) {i : Nat} (hlow : before.length ≤ i)
    (hhigh : i < before.length + value.length)
    : Covered (before ++ value ++ rest) i :=
  ⟨before, value, rest, rfl, h, hlow, hhigh⟩

theorem covered_head (h : Redacts before value rest) : Covered (before ++ value ++ rest) before.length := by
  apply covered_of_redacts h le_rfl
  have hpos := List.length_pos_of_ne_nil h.ne_nil
  omega

theorem ends_behind_run (hcovered : Covered (p ++ c :: b :: q) p.length)
    (hvisible : ¬Covered (p ++ c :: b :: q) (p.length + 1))
    : endsCredential b := by
  obtain ⟨before, value, rest, hbytes, hredacts, hlow, hhigh⟩ := hcovered
  have hend : before.length + value.length = p.length + 1 := by
    by_contra hne
    apply hvisible
    exact ⟨before, value, rest, hbytes, hredacts, by omega, by omega⟩
  have hlength : (p ++ [c]).length = (before ++ value).length := by
    rw [List.length_append, List.length_append, hend]
    rfl
  have hsplit : (p ++ [c]) ++ b :: q = (before ++ value) ++ rest := by
    rw [← hbytes]
    simp
  obtain ⟨_, hrest⟩ := List.append_inj hsplit hlength
  apply hredacts.ends
  rw [← hrest]
  rfl

theorem redacts_of_run (hcovered : Covered (p ++ c :: b :: q) (p.length + 1))
    (hvisible : ¬Covered (p ++ c :: b :: q) p.length)
    : ∃ value rest, b :: q = value ++ rest ∧ Redacts (p ++ [c]) value rest := by
  obtain ⟨before, value, rest, hbytes, hredacts, hlow, hhigh⟩ := hcovered
  have hstart : before.length = p.length + 1 := by
    by_contra hne
    apply hvisible
    exact ⟨before, value, rest, hbytes, hredacts, by omega, by omega⟩
  have hlength : (p ++ [c]).length = before.length := by
    rw [hstart]
    simp
  have hsplit : (p ++ [c]) ++ b :: q = before ++ (value ++ rest) := by
    rw [← List.append_assoc before, ← hbytes]
    simp
  obtain ⟨rfl, hrest⟩ := List.append_inj hsplit hlength
  exact ⟨value, rest, hrest, hredacts⟩

theorem Redacts.quote_before (h : Redacts (p ++ [c]) (b :: value) rest) (hb : endsCredential b)
    : isQuote c ∧ b ≠ c := by
  generalize hbefore : p ++ [c] = before at h
  cases h with
  | @assigned before lead _ _ separator _ hseparator hvalue =>
    cases hvalue with
    | @quoted space _ _ quote _ hquote _ hvalue _ =>
      have hsplit : p ++ [c] = (before ++ separator :: space) ++ [quote] := by
        rw [hbefore]
        simp
      obtain ⟨_, hlast⟩ := List.append_inj' hsplit rfl
      obtain rfl := (List.cons.inj hlast).1
      refine ⟨hquote, ?_⟩
      rintro rfl
      exact hvalue List.mem_cons_self
    | bare _ _ hvalue _ => exact absurd hb (hvalue b List.mem_cons_self)
  | bearer _ _ _ _ hvalue _ _ _ => exact absurd hb (hvalue b List.mem_cons_self)
  | secretKey _ _ hvalue _ => exact absurd hb (hvalue b List.mem_cons_self)

theorem not_covered_delimiter (hvisible : ¬Covered (p ++ c :: b :: q) p.length) (hb : endsCredential b)
    (hquote : isQuote c → b = c)
    : ¬Covered (p ++ c :: b :: q) (p.length + 1) := by
  intro hcovered
  obtain ⟨value, rest, hsplit, hredacts⟩ := redacts_of_run hcovered hvisible
  cases value with
  | nil => exact hredacts.ne_nil rfl
  | cons b' value =>
    obtain ⟨rfl, _⟩ := List.cons.inj hsplit
    obtain ⟨hc, hne⟩ := hredacts.quote_before hb
    exact hne (hquote hc)

end

section

variable {bytes p q : List UInt8} {separator : UInt8}

open Classical in
theorem assigns_of_shown (hbytes : bytes = p ++ separator :: q) (hseparator : isSeparator separator)
    (hvisible : ¬Covered bytes p.length)
    (h : Assigns (skeletonFrom (Covered bytes) false 0 p).render)
    : Assigns p := by
  rcases Skeleton.last_run (skeletonFrom (Covered bytes) false 0 p) with ⟨tail, hs⟩ | ⟨front, tail, hs⟩
  . rw [hs, Skeleton.render_map_some] at h
    rw [← List.append_nil (tail.map some)] at hs
    obtain ⟨rest, rfl, _, hnil⟩ := skeletonFrom_eq_map_append _ hs
    obtain rfl := skeletonFrom_eq_nil _ hnil
    rwa [List.append_nil]
  . rw [hs, Skeleton.render_append, Skeleton.render_cons, Skeleton.render_map_some] at h
    obtain ⟨p, b, rfl, hb, htail, hfront⟩ := skeletonFrom_eq_append_none _ hs
    rw [Nat.zero_add] at hb
    cases tail with
    | nil =>
      exfalso
      apply not_ends_of_separator separator hseparator
      have hnext : bytes = p ++ b :: separator :: q := by
        rw [hbytes]
        simp
      rw [hnext] at hb hvisible
      apply ends_behind_run hb
      rwa [List.length_append] at hvisible
    | cons d tail =>
      have hd : endsCredential d := by
        have hnext : bytes = p ++ b :: d :: (tail ++ separator :: q) := by
          rw [hbytes]
          simp
        have hlength : p.length + 1 < (p ++ b :: d :: tail).length := by simp
        have hfree := htail (p.length + 1) (by omega) (by omega)
        rw [hnext] at hb hfree
        exact ends_behind_run hb hfree
      have hquotes : ∀ quote, isQuote quote → quote ∈ front.render → quote ∈ p ++ [b] := by
        intro quote hquote hmem
        unfold Skeleton.render at hmem
        obtain ⟨part, hpart, hmem⟩ := List.mem_flatMap.mp hmem
        cases part with
        | none => exact absurd hmem (not_quote_of_marker quote hquote)
        | some x =>
          obtain rfl := List.mem_singleton.mp hmem
          exact List.mem_append_left _ (hfront quote hpart)
      rw [← List.append_assoc] at h
      have hkey := assigns_behind_marker hd hquotes h
      simpa using hkey

end

section

variable {lead value rest lead' value' rest' tail space : List UInt8} {quote : UInt8}

theorem assignmentValueAfter_zero {range : Range}
    : assignmentValueAfter tail 0 = some range
        ↔ ∃ lead value rest, tail = lead ++ value ++ rest ∧ ValueAt lead value rest
          ∧ range = (lead.length, lead.length + value.length) := by
  have hread := @assignmentValueAfter_eq_some [] tail range
  simpa using hread

theorem ValueAt.unique (h : ValueAt lead value rest) (h' : ValueAt lead' value' rest')
    (heq : lead ++ value ++ rest = lead' ++ value' ++ rest')
    : lead = lead' ∧ value = value' ∧ rest = rest' := by
  have hread := assignmentValueAfter_zero.mpr ⟨lead, value, rest, rfl, h, rfl⟩
  have hread' := assignmentValueAfter_zero.mpr ⟨lead', value', rest', heq, h', rfl⟩
  obtain ⟨hlead, hvalue⟩ := Prod.mk.inj (Option.some.inj (hread.symm.trans hread'))
  rw [List.append_assoc, List.append_assoc] at heq
  obtain ⟨hleads, hvalues⟩ := List.append_inj heq hlead
  obtain ⟨hvalues, hrests⟩ := List.append_inj hvalues (by omega)
  exact ⟨hleads, hvalues, hrests⟩

theorem not_valueAt_delimiter (hspace : ∀ b ∈ space, isAsciiWhitespace b)
    (htail : ∀ b ∈ tail.head?, endsCredential b ∧ ¬isAsciiWhitespace b ∧ ¬isQuote b)
    (heq : space ++ tail = lead ++ value ++ rest)
    : ¬ValueAt lead value rest := by
  intro h
  have hread := assignmentValueAfter_zero.mpr ⟨lead, value, rest, heq, h, rfl⟩
  have hnone := @assignmentValueAfter_bare [] space tail hspace fun b hb => (htail b hb).2
  have hempty : tail.takeWhile (fun b => !endsCredential b) = [] := by
    cases tail with
    | nil => rfl
    | cons b tail => exact List.takeWhile_cons_of_neg (by simp [(htail b rfl).1])
  rw [if_pos hempty] at hnone
  cases hread.symm.trans hnone

theorem not_valueAt_empty (hspace : ∀ b ∈ space, isAsciiWhitespace b) (hquote : isQuote quote)
    (htail : ∀ b ∈ tail.head?, b = quote) (heq : space ++ quote :: tail = lead ++ value ++ rest)
    : ¬ValueAt lead value rest := by
  intro h
  have hread := assignmentValueAfter_zero.mpr ⟨lead, value, rest, heq, h, rfl⟩
  have hnone := @assignmentValueAfter_quoted [] space tail quote hspace hquote
  have hempty : tail.takeWhile (· ≠ quote) = [] := by
    cases tail with
    | nil => rfl
    | cons b tail => exact List.takeWhile_cons_of_neg (by simp [htail b rfl])
  rw [if_pos hempty] at hnone
  cases hread.symm.trans hnone

end

section

variable {bytes p q : List UInt8} {separator : UInt8}

theorem visible_space {c : UInt8} {space : List UInt8} (hbytes : bytes = p ++ c :: (space ++ q))
    (hvisible : ¬Covered bytes p.length) (hc : ¬isQuote c) (hspace : ∀ b ∈ space, isAsciiWhitespace b)
    : ∀ j, p.length ≤ j → j ≤ p.length + space.length → ¬Covered bytes j := by
  induction space generalizing p c with
  | nil =>
    intro j hlow hhigh
    rw [List.length_nil] at hhigh
    obtain rfl : j = p.length := by omega
    exact hvisible
  | cons b space ih =>
    intro j hlow hhigh
    rcases Nat.eq_or_lt_of_le hlow with rfl | hlt
    . exact hvisible
    . have hb := hspace b List.mem_cons_self
      have hnext : ¬Covered bytes (p.length + 1) := by
        rw [hbytes] at hvisible ⊢
        exact not_covered_delimiter hvisible (endsCredential_of_whitespace b hb) fun h => absurd h hc
      have hbytes' : bytes = (p ++ [c]) ++ b :: (space ++ q) := by
        rw [hbytes]
        simp
      have hlength : (p ++ [c]).length = p.length + 1 := by simp
      rw [List.length_cons] at hhigh
      apply ih hbytes' (by rwa [hlength]) (not_quote_of_whitespace b hb)
        (fun b hb => hspace b (List.mem_cons_of_mem _ hb))
      . rw [hlength]
        omega
      . rw [hlength]
        omega

/-
What is shown behind the spaces after a separator: a run, maybe behind a quote, or no value.
-/
def RunOrNoValue (space : List UInt8) (shown : Skeleton) : Prop :=
  (∃ (quote : Option UInt8) (back : Skeleton), (∀ b ∈ quote, isQuote b)
      ∧ shown = quote.toList.map some ++ none :: back)
    ∨ ∀ lead value rest, Skeleton.render (space.map some ++ shown) = lead ++ value ++ rest
        → ¬ValueAt lead value rest

section

variable {front space tail : List UInt8} {c b : UInt8} (hparts : bytes = front ++ c :: b :: tail)
  (hlast : ¬Covered bytes front.length) (hc : ¬isQuote c)
  (hspace : ∀ b ∈ space, isAsciiWhitespace b)
  (hstart : ∀ {more value rest}, ValueAt (space ++ more) value rest
    → b :: tail = more ++ value ++ rest → Covered bytes (front.length + 1 + more.length))

include hparts hlast hc hspace hstart

open Classical in
theorem run_or_no_value_quote (hquote : isQuote b)
    : RunOrNoValue space (skeletonFrom (Covered bytes) false (front.length + 1) (b :: tail)) := by
  have hb : ¬Covered bytes (front.length + 1) := by
    rw [hparts] at hlast ⊢
    exact not_covered_delimiter hlast (endsCredential_of_quote b hquote) fun h => absurd h hc
  rw [skeletonFrom_visible _ hb]
  cases tail with
  | nil =>
    right
    intro lead value rest heq
    rw [Skeleton.render_append, Skeleton.render_map_some, Skeleton.render_cons] at heq
    exact not_valueAt_empty hspace hquote (by simp [skeletonFrom, Skeleton.render]) heq
  | cons d tail =>
    by_cases hd : d = b
    . right
      intro lead value rest heq
      have hnext : ¬Covered bytes (front.length + 1 + 1) := by
        have hparts' : bytes = (front ++ [c]) ++ b :: d :: tail := by
          rw [hparts]
          simp
        have hlength' : (front ++ [c]).length = front.length + 1 := by simp
        rw [← hlength'] at hb ⊢
        rw [hparts'] at hb ⊢
        rw [hd] at hb ⊢
        exact not_covered_delimiter hb (endsCredential_of_quote b hquote) fun _ => rfl
      rw [skeletonFrom_visible _ hnext, hd, Skeleton.render_append, Skeleton.render_map_some,
        Skeleton.render_cons, Skeleton.render_cons] at heq
      exact not_valueAt_empty hspace hquote (by simp [Skeleton.piece]) heq
    . left
      obtain ⟨more, rest, hsplit, hvalue⟩ := exists_quoted hspace hquote (List.cons_ne_nil d [])
        (by simpa using Ne.symm hd) tail
      have hcovered := hstart hvalue (by rw [hsplit]; simp)
      rw [List.length_singleton] at hcovered
      refine ⟨some b, skeletonFrom (Covered bytes) true (front.length + 1 + 1 + 1) tail,
        by simpa using hquote, ?_⟩
      rw [skeletonFrom_covered _ hcovered]
      simp

open Classical in
theorem run_or_no_value_plain (hquote : ¬isQuote b) (hstop : ¬isAsciiWhitespace b)
    : RunOrNoValue space (skeletonFrom (Covered bytes) false (front.length + 1) (b :: tail)) := by
  by_cases hends : endsCredential b
  . right
    intro lead value rest heq
    have hb : ¬Covered bytes (front.length + 1) := by
      rw [hparts] at hlast ⊢
      exact not_covered_delimiter hlast hends fun h => absurd h hc
    rw [skeletonFrom_visible _ hb, Skeleton.render_append, Skeleton.render_map_some,
      Skeleton.render_cons] at heq
    apply not_valueAt_delimiter hspace _ heq
    rintro x ⟨⟩
    exact ⟨hends, hstop, hquote⟩
  . left
    have hsplit : (b :: tail).takeWhile (fun b => !endsCredential b)
        ++ (b :: tail).dropWhile (fun b => !endsCredential b) = b :: tail :=
      List.takeWhile_append_dropWhile
    have hvalue : ValueAt (space ++ []) ((b :: tail).takeWhile fun b => !endsCredential b)
        ((b :: tail).dropWhile fun b => !endsCredential b) := by
      refine .bare (by simpa using hspace) ?_ ?_ ?_
      . rw [List.takeWhile_cons_of_pos (by simpa using hends)]
        simp
      . intro x hx
        simpa using all_takeWhile x hx
      . intro x hx
        simpa using head_dropWhile x hx
    have hcovered := hstart hvalue hsplit.symm
    rw [List.length_nil, Nat.add_zero] at hcovered
    refine ⟨none, skeletonFrom (Covered bytes) true (front.length + 1 + 1) tail, by simp, ?_⟩
    rw [skeletonFrom_covered _ hcovered]
    simp

end

open Classical in
theorem run_or_no_value (hbytes : bytes = p ++ separator :: q) (hseparator : isSeparator separator)
    (hvisible : ¬Covered bytes p.length) (hassigns : Assigns p)
    : ∃ (space : List UInt8) (shown : Skeleton), (∀ b ∈ space, isAsciiWhitespace b)
        ∧ skeletonFrom (Covered bytes) false (p.length + 1) q = space.map some ++ shown
        ∧ RunOrNoValue space shown := by
  have hplain : ¬isQuote separator := fun h =>
    not_ends_of_separator separator hseparator (endsCredential_of_quote separator h)
  have hspace : ∀ b ∈ q.takeWhile isAsciiWhitespace, isAsciiWhitespace b := all_takeWhile
  have hstop : ∀ b ∈ (q.dropWhile isAsciiWhitespace).head?, ¬isAsciiWhitespace b := head_dropWhile
  have hsplit : q.takeWhile isAsciiWhitespace ++ q.dropWhile isAsciiWhitespace = q :=
    List.takeWhile_append_dropWhile
  generalize q.takeWhile isAsciiWhitespace = space at hspace hsplit
  generalize q.dropWhile isAsciiWhitespace = tail at hstop hsplit
  subst hsplit
  have hfree := visible_space hbytes hvisible hplain hspace
  have hskeleton : skeletonFrom (Covered bytes) false (p.length + 1) (space ++ tail)
      = space.map some ++ skeletonFrom (Covered bytes) false (p.length + 1 + space.length) tail := by
    apply skeletonFrom_kept
    intro j hlow hhigh
    exact hfree j (by omega) (by omega)
  -- the last byte before the tail
  obtain ⟨front, c, hfront, hc, hlast⟩ : ∃ front c, p ++ separator :: space = front ++ [c]
      ∧ ¬isQuote c ∧ ¬Covered bytes front.length := by
    rcases List.eq_nil_or_concat' space with rfl | ⟨space', c, rfl⟩
    . exact ⟨p, separator, rfl, hplain, hvisible⟩
    . refine ⟨p ++ separator :: space', c, by simp, not_quote_of_whitespace c (hspace c (by simp)), ?_⟩
      apply hfree
      . simp
      . simp only [List.length_append, List.length_cons, List.length_nil]
        omega
  have hlength : front.length + 1 = p.length + 1 + space.length := by
    have h := congrArg List.length hfront
    simp only [List.length_append, List.length_cons, List.length_nil] at h
    omega
  have hparts : bytes = front ++ c :: tail := by
    rw [hbytes, ← List.cons_append, ← List.append_assoc, hfront]
    simp
  refine ⟨space, _, hspace, hskeleton, ?_⟩
  rw [← hlength]
  cases tail with
  | nil =>
    right
    intro lead value rest heq
    rw [Skeleton.render_append, Skeleton.render_map_some] at heq
    exact not_valueAt_delimiter hspace (by simp [skeletonFrom, Skeleton.render]) heq
  | cons b tail =>
    have hstart : ∀ {more value rest}, ValueAt (space ++ more) value rest
        → b :: tail = more ++ value ++ rest → Covered bytes (front.length + 1 + more.length) := by
      intro more value rest hvalue heq
      have hall : bytes = (p ++ separator :: (space ++ more)) ++ value ++ rest := by
        rw [hbytes, heq]
        simp
      have hcovered := covered_head (.assigned hassigns hseparator hvalue)
      rw [← hall] at hcovered
      convert hcovered using 1
      simp only [List.length_append, List.length_cons]
      omega
    by_cases hquote : isQuote b
    . exact run_or_no_value_quote hparts hlast hc hspace hstart hquote
    . exact run_or_no_value_plain hparts hlast hc hspace hstart hquote (hstop b rfl)

end

end Memory
