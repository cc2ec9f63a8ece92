import Mathlib.Data.List.Chain
import AgentHarness.Memory.Lemmas.Scan

/-!
The skeleton of a text against the text: where a byte or a run of the skeleton comes from, and what
stands at the two ends of a run.
-/

namespace Memory

open Text (utf8Bytes)

section

variable (covered : Nat → Prop) [DecidablePred covered] {inside : Bool} {i : Nat}
  {bytes tail : List UInt8} {front back : Skeleton}

theorem skeletonFrom_eq_nil (h : skeletonFrom covered false i bytes = []) : bytes = [] := by
  cases bytes with
  | nil => rfl
  | cons b rest =>
    unfold skeletonFrom at h
    split at h <;> simp at h

theorem skeletonFrom_eq_append_some {b : UInt8}
    (h : skeletonFrom covered inside i bytes = front ++ some b :: back)
    : ∃ p q, bytes = p ++ b :: q ∧ ¬covered (i + p.length)
        ∧ skeletonFrom covered inside i p = front
        ∧ skeletonFrom covered false (i + p.length + 1) q = back := by
  induction bytes generalizing inside i front with
  | nil => simp [skeletonFrom] at h
  | cons c rest ih =>
    unfold skeletonFrom at h
    by_cases hcovered : covered i
    . rw [if_pos hcovered] at h
      obtain ⟨front', hfront, hrest⟩ : ∃ front', front = (if inside then [] else [none]) ++ front'
          ∧ skeletonFrom covered true (i + 1) rest = front' ++ some b :: back := by
        cases inside with
        | true => exact ⟨front, rfl, h⟩
        | false =>
          cases front with
          | nil => simp at h
          | cons part front =>
            obtain ⟨rfl, hrest⟩ := List.cons.inj h
            exact ⟨front, rfl, hrest⟩
      obtain ⟨p, q, rfl, hb, hp, hq⟩ := ih hrest
      have hlength : i + (c :: p).length = i + 1 + p.length := by
        rw [List.length_cons]
        omega
      refine ⟨c :: p, q, rfl, by rwa [hlength], ?_, by rwa [hlength]⟩
      unfold skeletonFrom
      rw [if_pos hcovered, hp, hfront]
    . rw [if_neg hcovered] at h
      cases front with
      | nil =>
        obtain ⟨hc, hrest⟩ := List.cons.inj h
        obtain rfl := Option.some.inj hc
        exact ⟨[], rest, rfl, hcovered, rfl, hrest⟩
      | cons part front =>
        obtain ⟨rfl, hrest⟩ := List.cons.inj h
        obtain ⟨p, q, rfl, hb, hp, hq⟩ := ih hrest
        have hlength : i + (c :: p).length = i + 1 + p.length := by
          rw [List.length_cons]
          omega
        refine ⟨c :: p, q, rfl, by rwa [hlength], ?_, by rwa [hlength]⟩
        unfold skeletonFrom
        rw [if_neg hcovered, hp]

theorem skeletonFrom_eq_map_append
    (h : skeletonFrom covered false i bytes = tail.map some ++ back)
    : ∃ rest, bytes = tail ++ rest ∧ (∀ j, i ≤ j → j < i + tail.length → ¬covered j)
        ∧ skeletonFrom covered false (i + tail.length) rest = back := by
  induction tail generalizing i bytes with
  | nil => exact ⟨bytes, rfl, by intro j hlow hhigh; simp at hhigh; omega, h⟩
  | cons b tail ih =>
    have hsplit : skeletonFrom covered false i bytes = [] ++ some b :: (tail.map some ++ back) := h
    obtain ⟨p, q, rfl, hb, hp, hq⟩ := skeletonFrom_eq_append_some covered hsplit
    obtain rfl := skeletonFrom_eq_nil covered hp
    obtain ⟨rest, rfl, htail, hback⟩ := ih hq
    have hlength : i + (b :: tail).length = i + 0 + 1 + tail.length := by
      rw [List.length_cons]
      omega
    refine ⟨rest, rfl, ?_, by rwa [hlength]⟩
    intro j hlow hhigh
    rcases Nat.eq_or_lt_of_le hlow with rfl | hlt
    . exact hb
    . exact htail j hlt (by rwa [hlength] at hhigh)

theorem skeletonFrom_true_eq_map (h : skeletonFrom covered true i bytes = tail.map some)
    : ∃ run, bytes = run ++ tail ∧ (∀ j, i ≤ j → j < i + run.length → covered j)
        ∧ ∀ j, i + run.length ≤ j → j < i + bytes.length → ¬covered j := by
  induction bytes generalizing i with
  | nil =>
    obtain rfl : tail = [] := by
      cases tail with
      | nil => rfl
      | cons b tail => simp [skeletonFrom] at h
    exact ⟨[], rfl, by intro j hlow hhigh; simp at hhigh; omega, by
      intro j hlow hhigh; simp at hhigh; omega⟩
  | cons c rest ih =>
    by_cases hcovered : covered i
    . unfold skeletonFrom at h
      rw [if_pos hcovered, if_pos rfl, List.nil_append] at h
      obtain ⟨run, rfl, hrun, htail⟩ := ih h
      refine ⟨c :: run, rfl, fun j hlow hhigh => ?_, fun j hlow hhigh => ?_⟩
      . rcases Nat.eq_or_lt_of_le hlow with rfl | hlt
        . exact hcovered
        . rw [List.length_cons] at hhigh
          exact hrun j hlt (by omega)
      . rw [List.length_cons] at hlow hhigh
        exact htail j (by omega) (by omega)
    . rw [skeletonFrom_outside covered hcovered, ← List.append_nil (tail.map some)] at h
      obtain ⟨rest', hrest, htail, hnil⟩ := skeletonFrom_eq_map_append covered h
      obtain rfl := skeletonFrom_eq_nil covered hnil
      rw [List.append_nil] at hrest
      rw [← hrest] at htail
      exact ⟨[], hrest, by intro j hlow hhigh; simp at hhigh; omega, htail⟩

theorem skeletonFrom_eq_none_cons (h : skeletonFrom covered false i bytes = none :: back)
    : ∃ run rest, bytes = run ++ rest ∧ run ≠ []
        ∧ (∀ j, i ≤ j → j < i + run.length → covered j)
        ∧ (rest ≠ [] → ¬covered (i + run.length))
        ∧ skeletonFrom covered false (i + run.length) rest = back := by
  have hinside : ∀ bytes i, skeletonFrom covered true i bytes = back →
      ∃ run rest, bytes = run ++ rest ∧ (∀ j, i ≤ j → j < i + run.length → covered j)
        ∧ (rest ≠ [] → ¬covered (i + run.length))
        ∧ skeletonFrom covered false (i + run.length) rest = back := by
    intro bytes
    induction bytes with
    | nil =>
      intro i h
      exact ⟨[], [], rfl, by intro j hlow hhigh; simp at hhigh; omega, by simp, h⟩
    | cons c bytes ih =>
      intro i h
      by_cases hcovered : covered i
      . unfold skeletonFrom at h
        rw [if_pos hcovered, if_pos rfl, List.nil_append] at h
        obtain ⟨run, rest, rfl, hrun, hrest, hback⟩ := ih (i + 1) h
        have hlength : i + (c :: run).length = i + 1 + run.length := by
          rw [List.length_cons]
          omega
        refine ⟨c :: run, rest, rfl, fun j hlow hhigh => ?_, by rwa [hlength], by rwa [hlength]⟩
        rcases Nat.eq_or_lt_of_le hlow with rfl | hlt
        . exact hcovered
        . exact hrun j hlt (by rwa [hlength] at hhigh)
      . rw [skeletonFrom_outside covered hcovered] at h
        exact ⟨[], c :: bytes, rfl, by intro j hlow hhigh; simp at hhigh; omega,
          fun _ => hcovered, h⟩
  cases bytes with
  | nil => simp [skeletonFrom] at h
  | cons c bytes =>
    unfold skeletonFrom at h
    split at h
    . next hcovered =>
      rw [if_neg (by simp), List.singleton_append] at h
      obtain ⟨run, rest, rfl, hrun, hrest, hback⟩ := hinside bytes (i + 1) (List.cons.inj h).2
      have hlength : i + (c :: run).length = i + 1 + run.length := by
        rw [List.length_cons]
        omega
      refine ⟨c :: run, rest, rfl, by simp, fun j hlow hhigh => ?_, by rwa [hlength], by rwa [hlength]⟩
      rcases Nat.eq_or_lt_of_le hlow with rfl | hlt
      . exact hcovered
      . exact hrun j hlt (by rwa [hlength] at hhigh)
    . cases (List.cons.inj h).1

theorem skeletonFrom_eq_append_none
    (h : skeletonFrom covered inside i bytes = front ++ none :: tail.map some)
    : ∃ p b, bytes = p ++ b :: tail ∧ covered (i + p.length)
        ∧ (∀ j, i + p.length < j → j < i + bytes.length → ¬covered j)
        ∧ ∀ x, some x ∈ front → x ∈ p := by
  induction bytes generalizing inside i front with
  | nil => simp [skeletonFrom] at h
  | cons c rest ih =>
    unfold skeletonFrom at h
    have hstep : ∀ inside' front',
        skeletonFrom covered inside' (i + 1) rest = front' ++ none :: tail.map some
          → (∀ x, some x ∈ front → x = c ∨ some x ∈ front')
          → ∃ p b, c :: rest = p ++ b :: tail ∧ covered (i + p.length)
            ∧ (∀ j, i + p.length < j → j < i + (c :: rest).length → ¬covered j)
            ∧ ∀ x, some x ∈ front → x ∈ p := by
      intro inside' front' hrest hfront
      obtain ⟨p, b, rfl, hb, htail, hp⟩ := ih hrest
      refine ⟨c :: p, b, rfl, ?_, fun j hlow hhigh => ?_, fun x hx => ?_⟩
      . rw [List.length_cons, Nat.add_comm p.length, ← Nat.add_assoc]
        exact hb
      . rw [List.length_cons] at hlow hhigh
        exact htail j (by omega) (by omega)
      . rcases hfront x hx with rfl | hx
        . exact List.mem_cons_self
        . exact List.mem_cons_of_mem _ (hp x hx)
    by_cases hcovered : covered i
    . rw [if_pos hcovered] at h
      cases inside with
      | true => exact hstep true front h fun x hx => .inr hx
      | false =>
        cases front with
        | nil =>
          obtain ⟨run, rfl, hrun, htail⟩ := skeletonFrom_true_eq_map covered (List.cons.inj h).2
          have hbehind : ∀ j, i + run.length < j → j < i + (c :: (run ++ tail)).length
              → ¬covered j := by
            intro j hlow hhigh
            rw [List.length_cons] at hhigh
            exact htail j (by omega) (by omega)
          rcases List.eq_nil_or_concat' run with rfl | ⟨run, b, rfl⟩
          . exact ⟨[], c, rfl, hcovered, hbehind, by simp⟩
          . have hlength : (c :: run).length = (run ++ [b]).length := by simp
            refine ⟨c :: run, b, by simp, ?_, by rwa [hlength], by simp⟩
            apply hrun
            . rw [List.length_cons]
              omega
            . simp only [List.length_cons, List.length_append]
              omega
        | cons part front =>
          obtain ⟨rfl, hrest⟩ := List.cons.inj h
          apply hstep true front hrest
          intro x hx
          right
          simpa using hx
    . rw [if_neg hcovered] at h
      cases front with
      | nil => simp at h
      | cons part front =>
        obtain ⟨rfl, hrest⟩ := List.cons.inj h
        exact hstep false front hrest (by simp)

theorem skeletonFrom_sparse
    : (skeletonFrom covered inside i bytes).IsChain (fun left right => left.isSome ∨ right.isSome)
      ∧ (inside = true → ∀ part ∈ (skeletonFrom covered inside i bytes).head?, part.isSome) := by
  induction bytes generalizing inside i with
  | nil => simp [skeletonFrom]
  | cons c rest ih =>
    unfold skeletonFrom
    by_cases hcovered : covered i
    . rw [if_pos hcovered]
      obtain ⟨hchain, hhead⟩ := @ih true (i + 1)
      cases inside with
      | true => exact ⟨hchain, hhead⟩
      | false =>
        refine ⟨?_, by simp⟩
        rw [if_neg (by simp), List.singleton_append, List.isChain_cons]
        exact ⟨fun part hpart => .inr (hhead rfl part hpart), hchain⟩
    . rw [if_neg hcovered]
      refine ⟨?_, by simp⟩
      rw [List.isChain_cons]
      exact ⟨fun part _ => .inl rfl, ih.1⟩

end

end Memory

/-!
The keys of a redacted text. A key that stands in front of a visible separator there is already in the
text: no sensitive word reaches into a marker.
-/

namespace Memory

open Text (utf8Bytes)

theorem marker_eq : utf8Bytes redactedMarker = utf8Bytes "[redacted" ++ [0x5d] := by
  decide

section

variable {p : UInt8 → Bool} {xs ys : List UInt8}

theorem rtakeWhile_append_of_exists (h : ∃ b ∈ ys, ¬p b) : (xs ++ ys).rtakeWhile p = ys.rtakeWhile p := by
  unfold List.rtakeWhile
  rw [List.reverse_append, List.takeWhile_append, if_neg]
  rw [← ne_eq, ← (List.takeWhile_prefix p).length_le.lt_iff_ne]
  apply Nat.lt_of_not_le
  intro hle
  obtain ⟨b, hb, hnot⟩ := h
  have hall : ys.reverse.takeWhile p = ys.reverse :=
    (List.takeWhile_prefix p).eq_of_length_le hle
  rw [List.takeWhile_eq_self_iff] at hall
  exact hnot (hall b (List.mem_reverse.mpr hb))

theorem rtakeWhile_append_of_forall (h : ∀ b ∈ ys, p b)
    : (xs ++ ys).rtakeWhile p = xs.rtakeWhile p ++ ys := by
  unfold List.rtakeWhile
  rw [List.reverse_append, List.takeWhile_append_of_pos, List.reverse_append, List.reverse_reverse]
  intro b hb
  exact h b (List.mem_reverse.mp hb)

theorem rdropWhile_append_of_forall (h : ∀ b ∈ ys, p b)
    : (xs ++ ys).rdropWhile p = xs.rdropWhile p := by
  unfold List.rdropWhile
  rw [List.reverse_append, List.dropWhile_append_of_pos]
  intro b hb
  exact h b (List.mem_reverse.mp hb)

end

section

variable {word space : List UInt8} {b : UInt8}

theorem keyBytes_append_space (h : ∀ b ∈ space, isAsciiWhitespace b)
    : keyBytes (word ++ space) = keyBytes word := by
  unfold keyBytes
  rw [rdropWhile_append_of_forall h]

theorem keyBytes_concat_quote (h : isQuote b)
    : keyBytes (word ++ [b]) = if b ∈ word then some (word.rtakeWhile (· ≠ b)) else none := by
  have hspace : ¬isAsciiWhitespace b := fun hb => not_quote_of_whitespace b hb h
  unfold keyBytes
  rw [List.rdropWhile_concat_neg _ _ _ hspace]
  dsimp only
  rw [List.getLast?_concat]
  dsimp only
  rw [if_pos h, List.dropLast_concat]

theorem keyBytes_concat_bare (hspace : ¬isAsciiWhitespace b) (hquote : ¬isQuote b)
    : keyBytes (word ++ [b])
        = if (word ++ [b]).rtakeWhile isKeyByte = [] then
            none
          else
            some ((word ++ [b]).rtakeWhile isKeyByte) := by
  unfold keyBytes
  rw [List.rdropWhile_concat_neg _ _ _ hspace]
  dsimp only
  rw [List.getLast?_concat]
  dsimp only
  rw [if_neg hquote]

end

theorem sensitiveWord_apart : ∀ word ∈ sensitiveSuffixes, ∀ front ∈ (utf8Bytes word).inits,
    front = [] ∨ ¬front <:+ utf8Bytes "redacted" ∧ ¬utf8Bytes "redacted" <:+ front := by
  decide

theorem normalizedKey_append (left right : List UInt8)
    : normalizedKey (left ++ right) = normalizedKey left ++ normalizedKey right := by
  unfold normalizedKey
  rw [List.filter_append, List.map_append]

theorem normalizedKey_marker : normalizedKey (utf8Bytes redactedMarker) = utf8Bytes "redacted" := by
  decide

theorem sensitiveKey_behind_marker {left right : List UInt8} (other : List UInt8)
    (h : SensitiveKey (left ++ utf8Bytes redactedMarker ++ right))
    : SensitiveKey (other ++ right) := by
  obtain ⟨word, hword, hsuffix⟩ := h
  refine ⟨word, hword, ?_⟩
  rw [normalizedKey_append, normalizedKey_append, normalizedKey_marker] at hsuffix
  rw [normalizedKey_append]
  rcases List.suffix_or_suffix_of_suffix hsuffix (List.suffix_append _ (normalizedKey right))
    with hinside | ⟨front, hfront⟩
  . exact hinside.trans (List.suffix_append _ _)
  . have hmem : front ∈ (utf8Bytes word).inits := by
      rw [List.mem_inits]
      exact ⟨_, hfront⟩
    rw [← hfront, List.suffix_append_self_iff] at hsuffix
    rcases sensitiveWord_apart word hword front hmem with rfl | ⟨hnot, hnot'⟩
    . rw [← hfront]
      exact List.suffix_append _ _
    . rcases List.suffix_or_suffix_of_suffix hsuffix (List.suffix_append (normalizedKey left) _)
        with h | h
      . exact absurd h hnot
      . exact absurd h hnot'

theorem opening_eq
    : utf8Bytes "[redacted" = [0x5b, 0x72, 0x65, 0x64, 0x61, 0x63, 0x74, 0x65, 0x64] := by
  decide

theorem not_quote_of_marker : ∀ b, isQuote b → b ∉ utf8Bytes redactedMarker := by
  grind [marker_eq, opening_eq]

theorem not_ends_of_letter : ∀ b, isAsciiAlphanumeric b → ¬endsCredential b := by
  grind

theorem not_keyByte_of_ends : ∀ b, endsCredential b → ¬isKeyByte b := by
  grind [not_ends_of_letter, -isAsciiAlphanumeric]

theorem not_ends_of_separator : ∀ b, isSeparator b → ¬endsCredential b := by
  grind

section

variable {left right tail : List UInt8} {d : UInt8}

theorem assigns_behind_marker (hd : endsCredential d)
    (hquotes : ∀ quote, isQuote quote → quote ∈ left → quote ∈ right)
    (h : Assigns (left ++ utf8Bytes redactedMarker ++ d :: tail))
    : Assigns (right ++ d :: tail) := by
  obtain ⟨key, hkey, hsensitive⟩ := h
  have hsplit := rdropWhile_append_rtakeWhile isAsciiWhitespace (d :: tail)
  have hspace : ∀ b ∈ (d :: tail).rtakeWhile isAsciiWhitespace, isAsciiWhitespace b :=
    fun b hb => all_rtakeWhile b hb
  have hlast := List.rdropWhile_last_not isAsciiWhitespace (d :: tail)
  generalize (d :: tail).rtakeWhile isAsciiWhitespace = space at hsplit hspace
  generalize (d :: tail).rdropWhile isAsciiWhitespace = word at hsplit hlast
  unfold Assigns
  rw [← hsplit, ← List.append_assoc, keyBytes_append_space hspace] at hkey ⊢
  rcases List.eq_nil_or_concat' word with rfl | ⟨word, last, rfl⟩
  . -- the separator stands behind the marker
    rw [List.append_nil, marker_eq, ← List.append_assoc,
      keyBytes_concat_bare (by decide) (by decide)] at hkey
    have hnil : (left ++ utf8Bytes "[redacted" ++ [0x5d]).rtakeWhile isKeyByte = [] :=
      List.rtakeWhile_concat_neg _ _ _ (by decide)
    rw [if_pos hnil] at hkey
    cases hkey
  . have hlast : ¬isAsciiWhitespace last := by
      have hnot := hlast (by simp)
      rwa [List.getLast_append_singleton] at hnot
    rw [← List.append_assoc] at hkey ⊢
    by_cases hquote : isQuote last
    . rw [keyBytes_concat_quote hquote] at hkey ⊢
      obtain ⟨hmem, hkey⟩ := Option.ite_none_right_eq_some.mp hkey
      have hnone : last ∉ utf8Bytes redactedMarker := not_quote_of_marker last hquote
      by_cases hword : last ∈ word
      . have hexists : ∃ b ∈ word, ¬decide (b ≠ last) := ⟨last, hword, by simp⟩
        rw [if_pos (List.mem_append_right _ hword)]
        rw [rtakeWhile_append_of_exists hexists] at hkey ⊢
        exact ⟨key, hkey, hsensitive⟩
      . have hall : ∀ bytes : List UInt8, last ∉ bytes → ∀ b ∈ bytes, decide (b ≠ last) := by
          intro bytes hbytes b hb
          rw [decide_eq_true_iff]
          rintro rfl
          exact hbytes hb
        have hleft : last ∈ left := by
          simp only [List.mem_append, hword, hnone, or_false] at hmem
          exact hmem
        rw [if_pos (List.mem_append_left _ (hquotes last hquote hleft))]
        rw [rtakeWhile_append_of_forall (hall word hword)] at hkey ⊢
        rw [rtakeWhile_append_of_forall (hall _ hnone)] at hkey
        obtain rfl := Option.some.inj hkey
        exact ⟨_, rfl, sensitiveKey_behind_marker _ hsensitive⟩
    . rw [keyBytes_concat_bare hlast hquote] at hkey ⊢
      have hexists : ∃ b ∈ word ++ [last], ¬isKeyByte b := by
        refine ⟨d, ?_, not_keyByte_of_ends d hd⟩
        cases hcases : word ++ [last] with
        | nil => simp at hcases
        | cons b more =>
          rw [hcases] at hsplit
          rw [← (List.cons.inj hsplit).1]
          exact List.mem_cons_self
      rw [List.append_assoc, rtakeWhile_append_of_exists hexists] at hkey ⊢
      exact ⟨key, hkey, hsensitive⟩

end

end Memory
