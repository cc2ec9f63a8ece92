import AgentHarness.Memory.Lemmas.Again
import Mathlib

/-!
When the redaction of a redacted text leaves it as it is.
-/

namespace Memory

open Text (utf8Bytes)

/-
Where the redacted text still shows an assignment to a sensitive key, the value is in quotes which close
right behind the run.
-/
def Settled (bytes : List UInt8) : Prop :=
  ∀ quote front back, Shown (skeleton bytes) quote front back
    → ∃ b, quote = some b ∧ ∀ part ∈ back.head?, part = some b

section

variable {bytes p run : List UInt8} {y : UInt8}

theorem plain_of_run {rest : List UInt8} (hbytes : bytes = p ++ (run ++ y :: rest))
    (hrun : ∀ j, p.length ≤ j → j < p.length + run.length → Covered bytes j)
    (hvisible : ¬Covered bytes (p.length + run.length)) (hy : ¬isQuote y)
    : ∀ b ∈ run, ¬endsCredential b := by
  induction run generalizing p with
  | nil => simp
  | cons c run ih =>
    have hlength : (p ++ [c]).length + run.length = p.length + (c :: run).length := by
      simp only [List.length_append, List.length_cons, List.length_nil]
      omega
    have hplain : ∀ b ∈ run, ¬endsCredential b := by
      apply @ih (p ++ [c])
      . rw [hbytes]
        simp
      . intro j hlow hhigh
        rw [List.length_append] at hlow
        exact hrun j (by omega) (by omega)
      . rwa [hlength]
    rw [List.forall_mem_cons]
    refine ⟨?_, hplain⟩
    obtain ⟨before, value, rest', hsplit, hredacts, hlow, hhigh⟩ := hrun p.length le_rfl (by simp)
    have hend : before.length + value.length ≤ p.length + (c :: run).length := by
      by_contra hover
      apply hvisible
      exact ⟨before, value, rest', hsplit, hredacts, by omega, by omega⟩
    have hc : c ∈ value := by
      have hget : bytes[p.length]? = some c := by
        rw [hbytes, getElem?_append_head]
        rfl
      rw [hsplit, List.getElem?_append_left (by rwa [List.length_append]),
        List.getElem?_append_right hlow] at hget
      exact List.mem_of_getElem? hget
    cases hredacts with
    | @assigned before lead _ _ separator _ _ hvalue =>
      cases hvalue with
      | @quoted space _ _ quote _ hquote _ _ hclosed =>
        exfalso
        -- the closing quote is in the run or behind it
        obtain ⟨x, hx, hmem⟩ : ∃ x, rest'.head? = some x ∧ x ∈ run ++ [y] := by
          have hhead : bytes[(before ++ separator :: (space ++ [quote])).length + value.length]?
              = rest'.head? := by
            rw [hsplit, ← List.length_append, getElem?_append_head]
          generalize (before ++ separator :: (space ++ [quote])).length + value.length = stop at *
          rw [← hhead, hbytes]
          rw [List.length_cons] at hend
          obtain ⟨n, hn⟩ : ∃ n, stop - p.length = n + 1 := ⟨stop - p.length - 1, by omega⟩
          have hlt : n < (run ++ [y]).length := by
            rw [List.length_append, List.length_singleton]
            omega
          have hshape : c :: run ++ y :: rest = c :: (run ++ [y] ++ rest) := by simp
          rw [List.getElem?_append_right (by omega), hn, hshape, List.getElem?_cons_succ,
            List.getElem?_append_left hlt]
          exact ⟨(run ++ [y])[n], List.getElem?_eq_getElem hlt, List.getElem_mem hlt⟩
        obtain rfl := hclosed x hx
        rcases List.mem_append.mp hmem with hmem | hmem
        . exact hplain x hmem (endsCredential_of_quote x hquote)
        . rw [List.mem_singleton.mp hmem] at hquote
          exact hy hquote
      | bare _ _ hplain _ => exact hplain c hc
    | bearer _ _ _ _ hplain _ _ _ => exact hplain c hc
    | secretKey _ _ hplain _ => exact hplain c hc

theorem Shown.quote_behind {front back : Skeleton} {quote : UInt8}
    (h : Shown (skeleton bytes) (some quote) front (some y :: back))
    : isQuote y := by
  classical
  by_contra hy
  obtain ⟨key, separator, space, hfront, hseparator, hassigns, hspace⟩ := h.assigned
  have hquote := h.quoted quote rfl
  have hsplit : skeleton bytes = key ++ some separator
      :: ((space ++ [quote]).map some ++ none :: some y :: back) := by
    rw [h.split, hfront]
    simp
  obtain ⟨p, q, hbytes, hvisible, rfl, hq⟩ := skeletonFrom_eq_append_some _ hsplit
  obtain ⟨q, rfl, _, hq⟩ := skeletonFrom_eq_map_append _ hq
  obtain ⟨run, tail, rfl, hne, hrun, hstop, htail⟩ := skeletonFrom_eq_none_cons _ hq
  rw [show some y :: back = [] ++ some y :: back from rfl] at htail
  obtain ⟨empty, rest, rfl, _, hempty, _⟩ := skeletonFrom_eq_append_some _ htail
  obtain rfl := skeletonFrom_eq_nil _ hempty
  rw [Nat.zero_add] at hvisible hrun hstop
  have hassigns' := assigns_of_shown hbytes hseparator hvisible hassigns
  have hlength : (p ++ separator :: (space ++ [quote])).length
      = p.length + 1 + (space ++ [quote]).length := by
    rw [List.length_append, List.length_cons]
    omega
  have hparts : bytes = (p ++ separator :: (space ++ [quote])) ++ (run ++ y :: rest) := by
    rw [hbytes]
    simp
  rw [← hlength] at hrun hstop
  have hfree := hstop (by simp)
  have hplain := plain_of_run hparts hrun hfree hy
  -- so the value goes on behind the run
  have hnone : quote ∉ run ++ [y] := by
    rw [List.mem_append, List.mem_singleton]
    rintro (hmem | rfl)
    . exact hplain quote hmem (endsCredential_of_quote quote hquote)
    . exact hy hquote
  obtain ⟨more, after, rfl, hvalue⟩ := exists_quoted hspace hquote (by simp) hnone rest
  apply hfree
  have hall : bytes = (p ++ separator :: (space ++ [quote])) ++ (run ++ [y] ++ more) ++ after := by
    rw [hparts]
    simp
  rw [hall]
  apply covered_of_redacts (.assigned hassigns' hseparator hvalue)
  . omega
  . simp only [List.length_append, List.length_singleton]
    omega

end

section

variable (covered : Nat → Prop) [DecidablePred covered] {s front back : Skeleton} {i n : Nat}

theorem length_marker : (utf8Bytes redactedMarker).length = 10 := by
  decide

theorem render_marker {rest : List UInt8} (hn : n ≤ 10)
    (hcovered : ∀ j < 10, covered (i + j) ↔ j < n) (hrest : rest ≠ [] → n = 10 → ¬covered (i + 10))
    : (skeletonFrom covered false i (utf8Bytes redactedMarker ++ rest)).render
        = utf8Bytes redactedMarker
          ++ (if n = 0 then [] else (utf8Bytes redactedMarker).drop n)
          ++ (skeletonFrom covered false (i + 10) rest).render := by
  have hmarker := length_marker
  generalize hbytes : utf8Bytes redactedMarker = marker at hmarker ⊢
  by_cases hzero : n = 0
  . rw [if_pos hzero, List.append_nil, skeletonFrom_kept, hmarker, Skeleton.render_append,
      Skeleton.render_map_some]
    intro j hlow hhigh hj
    rw [show j = i + (j - i) by omega, hcovered _ (by omega)] at hj
    omega
  . have hsplit : marker ++ rest = marker.take n ++ (marker.drop n ++ rest) := by
      rw [← List.append_assoc, List.take_append_drop]
    have htake : (marker.take n).length = n := by
      rw [List.length_take]
      omega
    have hdrop : (marker.drop n).length = 10 - n := by
      rw [List.length_drop, hmarker]
    have hne : marker.take n ≠ [] := by
      intro hnil
      rw [hnil] at htake
      exact hzero htake.symm
    have hrun : ∀ j, i ≤ j → j < i + (marker.take n).length → covered j := by
      intro j hlow hhigh
      rw [show j = i + (j - i) by omega, hcovered _ (by omega)]
      omega
    have houtside : skeletonFrom covered true (i + n) (marker.drop n ++ rest)
        = skeletonFrom covered false (i + n) (marker.drop n ++ rest) := by
      rcases Nat.lt_or_eq_of_le hn with hlt | rfl
      . apply skeletonFrom_outside
        rw [hcovered n hlt]
        omega
      . cases rest with
        | nil =>
          rw [List.append_nil, List.drop_of_length_le (by omega)]
          rfl
        | cons b rest =>
          apply skeletonFrom_outside
          exact hrest (by simp) rfl
    have hkept : ∀ j, i + n ≤ j → j < i + n + (marker.drop n).length → ¬covered j := by
      intro j hlow hhigh hj
      rw [show j = i + (j - i) by omega, hcovered _ (by omega)] at hj
      omega
    rw [hsplit, skeletonFrom_run _ _ hrun hne, if_neg (by simp), htake, houtside,
      skeletonFrom_kept _ _ hkept, hdrop, show i + n + (10 - n) = i + 10 by omega, if_neg hzero,
      List.singleton_append, Skeleton.render_cons, Skeleton.render_append, Skeleton.render_map_some,
      Skeleton.piece, hbytes, List.append_assoc]

/-
The covered bytes of a rendered skeleton are starts of its markers, each as long as `width` says.
-/
structure Within (s : Skeleton) (width : Skeleton → Nat) : Prop where
  le : ∀ front, width front ≤ 10
  visible : ∀ {front back : Skeleton} {b}, s = front ++ some b :: back → ¬covered front.render.length
  marker : ∀ {front back : Skeleton}, s = front ++ none :: back
    → ∀ j < 10, covered (front.render.length + j) ↔ j < width front
  sparse : ∀ {front back : Skeleton} {part}, s = front ++ none :: part :: back → part.isSome

variable {covered} {width : Skeleton → Nat}

theorem Within.render_none (h : Within covered s width) (hsplit : s = front ++ none :: back)
    : (skeletonFrom covered false front.render.length (Skeleton.render (none :: back))).render
        = utf8Bytes redactedMarker
          ++ (if width front = 0 then [] else (utf8Bytes redactedMarker).drop (width front))
          ++ (skeletonFrom covered false (front ++ [none]).render.length back.render).render := by
  have hlength : (front ++ [none]).render.length = front.render.length + 10 := by
    rw [Skeleton.render_append, List.length_append, ← length_marker]
    rfl
  rw [Skeleton.render_cons, Skeleton.piece, hlength]
  apply render_marker covered (h.le front) (h.marker hsplit)
  intro hback _
  rw [← hlength]
  cases back with
  | nil => exact absurd rfl hback
  | cons part back =>
    obtain ⟨b, rfl⟩ := Option.isSome_iff_exists.mp (h.sparse hsplit)
    have hnext : s = (front ++ [none]) ++ some b :: back := by
      rw [hsplit]
      simp
    exact h.visible hnext

theorem Within.render_some {b : UInt8} (h : Within covered s width) (hsplit : s = front ++ some b :: back)
    : (skeletonFrom covered false front.render.length (Skeleton.render (some b :: back))).render
        = b :: (skeletonFrom covered false (front ++ [some b]).render.length back.render).render := by
  have hlength : (front ++ [some b]).render.length = front.render.length + 1 := by
    rw [Skeleton.render_append, List.length_append]
    rfl
  rw [hlength, Skeleton.render_cons, Skeleton.piece, List.singleton_append,
    skeletonFrom_visible _ (h.visible hsplit), Skeleton.render_cons]
  rfl

theorem Within.render_eq (h : Within covered s width) (hsplit : s = front ++ back)
    (hwidth : ∀ {front back}, s = front ++ none :: back → width front = 0 ∨ width front = 10)
    : (skeletonFrom covered false front.render.length back.render).render = back.render := by
  induction back generalizing front with
  | nil => rfl
  | cons part back ih =>
    have hrest := @ih (front ++ [part]) (by rw [hsplit]; simp)
    cases part with
    | none =>
      rw [h.render_none hsplit, hrest, Skeleton.render_cons]
      rcases hwidth hsplit with hzero | hten
      . rw [if_pos hzero, List.append_nil]
        rfl
      . rw [hten, if_neg (by simp), List.drop_of_length_le length_marker.le, List.append_nil]
        rfl
    | some b =>
      rw [h.render_some hsplit, hrest]
      rfl

theorem Within.length_le (h : Within covered s width) (hsplit : s = front ++ back)
    : back.render.length
        ≤ (skeletonFrom covered false front.render.length back.render).render.length := by
  induction back generalizing front with
  | nil => simp [Skeleton.render]
  | cons part back ih =>
    have hrest := @ih (front ++ [part]) (by rw [hsplit]; simp)
    cases part with
    | none =>
      rw [h.render_none hsplit, Skeleton.render_cons]
      simp only [List.length_append, Skeleton.piece]
      omega
    | some b =>
      rw [h.render_some hsplit, Skeleton.render_cons]
      simp only [List.length_append, List.length_cons, Skeleton.piece, List.length_nil]
      omega

theorem Within.length_lt {middle : Skeleton} (h : Within covered s width)
    (hsplit : s = front ++ (middle ++ none :: back)) (hpos : 0 < width (front ++ middle))
    (hlt : width (front ++ middle) < 10)
    : (middle ++ none :: back).render.length
        < (skeletonFrom covered false front.render.length
            (middle ++ none :: back).render).render.length := by
  induction middle generalizing front with
  | nil =>
    rw [List.append_nil] at hpos hlt
    rw [List.nil_append] at hsplit ⊢
    have hrest := h.length_le (show s = (front ++ [none]) ++ back by rw [hsplit]; simp)
    have hmarker := length_marker
    rw [h.render_none hsplit, if_neg (by omega), Skeleton.render_cons]
    simp only [List.length_append, List.length_drop, Skeleton.piece]
    omega
  | cons part middle ih =>
    have hrest := @ih (front ++ [part]) (by rw [hsplit]; simp) (by simpa using hpos) (by simpa using hlt)
    rw [List.cons_append] at hsplit ⊢
    cases part with
    | none =>
      rw [h.render_none hsplit, Skeleton.render_cons]
      simp only [List.length_append, Skeleton.piece] at hrest ⊢
      omega
    | some b =>
      rw [h.render_some hsplit, Skeleton.render_cons]
      simp only [List.length_append, List.length_cons, Skeleton.piece, List.length_nil] at hrest ⊢
      omega

theorem countP_render_le (p : UInt8 → Bool) {inside : Bool} {bytes : List UInt8}
    (hp : (utf8Bytes redactedMarker).countP p = 0)
    : (skeletonFrom covered inside i bytes).render.countP p ≤ bytes.countP p := by
  induction bytes generalizing inside i with
  | nil => simp [skeletonFrom, Skeleton.render]
  | cons b bytes ih =>
    unfold skeletonFrom
    split
    . have hrest := @ih (i + 1) true
      have hhead : (Skeleton.render (if inside then [] else [none])).countP p = 0 := by
        cases inside with
        | true => rfl
        | false => simpa [Skeleton.render, Skeleton.piece] using hp
      rw [Skeleton.render_append, List.countP_append, hhead, List.countP_cons]
      omega
    . have hrest := @ih (i + 1) false
      rw [Skeleton.render_cons, Skeleton.piece, List.singleton_append, List.countP_cons,
        List.countP_cons]
      omega

theorem countP_render_lt (p : UInt8 → Bool) {inside : Bool} {x y : List UInt8} {b : UInt8}
    (hp : (utf8Bytes redactedMarker).countP p = 0) (hb : p b) (hcovered : covered (i + x.length))
    : (skeletonFrom covered inside i (x ++ b :: y)).render.countP p < (x ++ b :: y).countP p := by
  have hhead : ∀ inside : Bool, (Skeleton.render (if inside then [] else [none])).countP p = 0 := by
    intro inside
    cases inside with
    | true => rfl
    | false => simpa [Skeleton.render, Skeleton.piece] using hp
  induction x generalizing inside i with
  | nil =>
    have hrest := @countP_render_le covered _ (i + 1) p true y hp
    rw [List.nil_append]
    unfold skeletonFrom
    rw [if_pos (show covered i from hcovered), Skeleton.render_append, List.countP_append, hhead,
      List.countP_cons, if_pos hb]
    omega
  | cons c x ih =>
    have hlength : i + (c :: x).length = i + 1 + x.length := by
      rw [List.length_cons]
      omega
    rw [hlength] at hcovered
    rw [List.cons_append]
    unfold skeletonFrom
    split
    . have hrest := @ih (i + 1) true hcovered
      rw [Skeleton.render_append, List.countP_append, hhead, List.countP_cons]
      omega
    . have hrest := @ih (i + 1) false hcovered
      rw [Skeleton.render_cons, Skeleton.piece, List.singleton_append, List.countP_cons,
        List.countP_cons]
      omega

end

section

variable {s front back front' back' : Skeleton} {quote : UInt8} {part : Option UInt8} {k : Nat}

theorem length_piece_none : (Skeleton.piece none).length = 10 := length_marker

theorem Skeleton.split_unique (hsplit : s = front ++ part :: back) (hsplit' : s = front' ++ none :: back')
    (hlow : front.render.length ≤ k) (hhigh : k < front.render.length + (piece part).length)
    (hlow' : front'.render.length ≤ k) (hhigh' : k < front'.render.length + 10)
    : front = front' ∧ part = none := by
  rcases List.append_eq_append_iff.mp (hsplit.symm.trans hsplit')
    with ⟨more, rfl, hmore⟩ | ⟨more, rfl, hmore⟩
  . cases more with
    | nil => exact ⟨(List.append_nil _).symm, (List.cons.inj hmore).1⟩
    | cons part' more =>
      obtain ⟨rfl, _⟩ := List.cons.inj hmore
      rw [render_append, render_cons, List.length_append, List.length_append] at hlow'
      omega
  . cases more with
    | nil => exact ⟨List.append_nil _, (List.cons.inj hmore).1.symm⟩
    | cons part' more =>
      obtain ⟨rfl, _⟩ := List.cons.inj hmore
      rw [render_append, render_cons, List.length_append, List.length_append, length_piece_none] at hlow
      omega

theorem Shown.last_quote (h : Shown s (some quote) front back) : front.getLast? = some (some quote) := by
  obtain ⟨key, separator, space, rfl, _⟩ := h.assigned
  rw [Option.toList_some, List.map_append, ← List.cons_append, ← List.append_assoc]
  exact List.getLast?_concat

theorem Shown.last_plain (h : Shown s none front back) : ∃ b, front.getLast? = some (some b) ∧ ¬isQuote b := by
  obtain ⟨key, separator, space, rfl, hseparator, _, hspace⟩ := h.assigned
  rw [Option.toList_none, List.append_nil]
  rcases List.eq_nil_or_concat' space with rfl | ⟨space, b, rfl⟩
  . refine ⟨separator, List.getLast?_concat, fun hquote => ?_⟩
    exact not_ends_of_separator separator hseparator (endsCredential_of_quote separator hquote)
  . refine ⟨b, ?_, not_quote_of_whitespace b (hspace b (by simp))⟩
    rw [List.map_append, ← List.cons_append, ← List.append_assoc]
    exact List.getLast?_concat

end

open Classical in
noncomputable def width (s front : Skeleton) : Nat :=
  if ∃ back, Shown s none front back then
    9
  else if ∃ quote back, Shown s (some quote) front back then
    10
  else
    0

section

variable {bytes : List UInt8}

structure Exact (bytes : List UInt8) : Prop where
  shown : ∀ {before value rest}, (skeleton bytes).render = before ++ value ++ rest
    → Redacts before value rest
    → ∃ quote front back, Shown (skeleton bytes) quote front back ∧ before = front.render
      ∧ value = again quote back
  closed : ∀ {quote front back}, Shown (skeleton bytes) (some quote) front back
    → again (some quote) back = utf8Bytes redactedMarker

theorem Exact.width_eq {quote : Option UInt8} {front back : Skeleton} (h : Exact bytes)
    (hshown : Shown (skeleton bytes) quote front back)
    : width (skeleton bytes) front = (again quote back).length := by
  unfold width
  cases quote with
  | none =>
    rw [if_pos ⟨back, hshown⟩, again_none]
    decide
  | some quote =>
    rw [if_neg, if_pos ⟨quote, back, hshown⟩, h.closed hshown, length_marker]
    rintro ⟨back', hplain⟩
    obtain ⟨b, hlast, hb⟩ := hplain.last_plain
    rw [hshown.last_quote] at hlast
    obtain rfl := Option.some.inj (Option.some.inj hlast)
    exact hb (hshown.quoted quote rfl)

theorem width_le (s front : Skeleton) : width s front ≤ 10 := by
  unfold width
  split
  . omega
  . split <;> omega

theorem Exact.covered_iff (h : Exact bytes) (k : Nat)
    : Covered (skeleton bytes).render k
      ↔ ∃ quote front back, Shown (skeleton bytes) quote front back ∧ front.render.length ≤ k
        ∧ k < front.render.length + width (skeleton bytes) front := by
  constructor
  . rintro ⟨before, value, rest, heq, hredacts, hlow, hhigh⟩
    obtain ⟨quote, front, back, hshown, rfl, rfl⟩ := h.shown heq hredacts
    refine ⟨quote, front, back, hshown, hlow, ?_⟩
    rwa [h.width_eq hshown]
  . rintro ⟨quote, front, back, hshown, hlow, hhigh⟩
    obtain ⟨rest, hredacts, heq⟩ := hshown.redacts
    rw [h.width_eq hshown] at hhigh
    exact ⟨front.render, again quote back, rest, heq, hredacts, hlow, hhigh⟩

theorem skeleton_sparse {front back : Skeleton} {part : Option UInt8}
    (h : skeleton bytes = front ++ none :: part :: back)
    : part.isSome := by
  classical
  have hchain := (@skeletonFrom_sparse (Covered bytes) _ false 0 bytes).1
  rw [show skeletonFrom (Covered bytes) false 0 bytes = front ++ none :: part :: back from h,
    List.isChain_append_cons_cons] at hchain
  simpa using hchain.2.1

open Classical in
theorem Exact.within (h : Exact bytes)
    : Within (Covered (skeleton bytes).render) (skeleton bytes) (width (skeleton bytes)) where
  le := width_le _
  visible := by
    intro front back b hsplit hcovered
    obtain ⟨quote, front', back', hshown, hlow, hhigh⟩ := (h.covered_iff _).mp hcovered
    have hle := width_le (skeleton bytes) front'
    obtain ⟨_, hpart⟩ := Skeleton.split_unique hsplit hshown.split le_rfl (by simp [Skeleton.piece]) hlow
      (by omega)
    cases hpart
  marker := by
    intro front back hsplit j hj
    rw [h.covered_iff]
    constructor
    . rintro ⟨quote, front', back', hshown, hlow, hhigh⟩
      have hle := width_le (skeleton bytes) front'
      obtain ⟨rfl, _⟩ := Skeleton.split_unique hsplit hshown.split (Nat.le_add_right _ j)
        (by rw [length_piece_none]; omega) hlow (by omega)
      omega
    . intro hwidth
      have hshown : ∃ quote back, Shown (skeleton bytes) quote front back := by
        unfold width at hwidth
        split at hwidth
        . next hshown => exact ⟨none, hshown⟩
        . split at hwidth
          . next hshown =>
            obtain ⟨quote, hshown⟩ := hshown
            exact ⟨some quote, hshown⟩
          . omega
      obtain ⟨quote, back', hshown⟩ := hshown
      exact ⟨quote, front, back', hshown, Nat.le_add_right _ _, by omega⟩
  sparse := skeleton_sparse

theorem Settled.exact (h : Settled bytes) : Exact bytes where
  shown := by
    intro before value rest heq hredacts
    rcases redacts_again hredacts heq with hshown | ⟨_, front, back, hshown⟩
    . exact hshown
    . obtain ⟨b, hquote, _⟩ := h none front back hshown
      cases hquote
  closed := by
    intro quote front back hshown
    obtain ⟨b, hquote, hback⟩ := h (some quote) front back hshown
    obtain rfl := Option.some.inj hquote
    have hnone : back.render.takeWhile (· ≠ quote) = [] := by
      cases back with
      | nil => rfl
      | cons part back =>
        rw [hback part rfl, Skeleton.render_cons]
        exact List.takeWhile_cons_of_neg (by simp)
    rw [again_some, hnone, List.append_nil]

theorem mem_marker_of_stable {before value rest : List UInt8} {b : UInt8}
    (hstable : (skeleton (skeleton bytes).render).render = (skeleton bytes).render)
    (heq : (skeleton bytes).render = before ++ value ++ rest) (hredacts : Redacts before value rest)
    (hb : b ∈ value)
    : b ∈ utf8Bytes redactedMarker := by
  classical
  by_contra hnot
  obtain ⟨left, right, rfl⟩ := List.append_of_mem hb
  have hcovered : Covered (skeleton bytes).render (before ++ left).length := by
    refine ⟨before, left ++ b :: right, rest, heq, hredacts, ?_, ?_⟩
    . simp
    . simp only [List.length_append, List.length_cons]
      omega
  have hsplit : (skeleton bytes).render = (before ++ left) ++ b :: (right ++ rest) := by
    rw [heq]
    simp
  have hmarker : (utf8Bytes redactedMarker).countP (fun b => b ∉ utf8Bytes redactedMarker) = 0 := by
    decide
  have hlost : (skeleton (skeleton bytes).render).render.countP (fun b => b ∉ utf8Bytes redactedMarker)
      < (skeleton bytes).render.countP fun b => b ∉ utf8Bytes redactedMarker := by
    unfold skeleton at hsplit hcovered ⊢
    rw [hsplit] at hcovered ⊢
    apply countP_render_lt _ hmarker (decide_eq_true hnot)
    rwa [Nat.zero_add]
  rw [hstable] at hlost
  exact lt_irrefl _ hlost

theorem exact_of_stable (hstable : (skeleton (skeleton bytes).render).render = (skeleton bytes).render)
    : Exact bytes where
  shown := by
    intro before value rest heq hredacts
    rcases redacts_again hredacts heq with hshown | ⟨⟨b, hb, hseparator⟩, _⟩
    . exact hshown
    . have hmem := mem_marker_of_stable hstable heq hredacts hb
      have hall : ∀ b ∈ utf8Bytes redactedMarker, ¬isSeparator b :=
        Text.forall_mem_of_all (by decide)
      exact absurd hseparator (hall b hmem)
  closed := by
    intro quote front back hshown
    rw [again_some]
    cases back with
    | nil => rfl
    | cons part back =>
      obtain ⟨y, rfl⟩ := Option.isSome_iff_exists.mp (skeleton_sparse hshown.split)
      by_cases hy : y = quote
      . rw [hy, Skeleton.render_cons]
        simp [Skeleton.piece]
      . exfalso
        obtain ⟨rest, hredacts, heq⟩ := hshown.redacts
        apply not_quote_of_marker y hshown.quote_behind
        apply mem_marker_of_stable hstable heq hredacts
        rw [again_some, Skeleton.render_cons, Skeleton.piece, List.singleton_append,
          List.takeWhile_cons_of_pos (by simpa using hy)]
        simp

theorem render_skeleton_eq_iff
    : (skeleton (skeleton bytes).render).render = (skeleton bytes).render ↔ Settled bytes := by
  classical
  constructor
  . intro hstable quote front back hshown
    have hexact := exact_of_stable hstable
    cases quote with
    | none =>
      exfalso
      have hwidth := hexact.width_eq hshown
      have hnine : (again none back).length = 9 := by
        show (utf8Bytes "[redacted").length = 9
        decide
      have hlong := @Within.length_lt _ _ _ [] _ _ front hexact.within hshown.split
        (by rw [List.nil_append]; omega) (by rw [List.nil_append]; omega)
      rw [← hshown.split] at hlong
      have hsame := congrArg List.length hstable
      exact absurd hlong (Nat.not_lt.mpr hsame.le)
    | some quote =>
      refine ⟨quote, rfl, fun part hpart => ?_⟩
      obtain ⟨back, rfl⟩ := List.head?_eq_some_iff.mp hpart
      obtain ⟨y, rfl⟩ := Option.isSome_iff_exists.mp (skeleton_sparse hshown.split)
      have hclosed := hexact.closed hshown
      by_contra hy
      rw [again_some, Skeleton.render_cons, Skeleton.piece, List.singleton_append,
        List.takeWhile_cons_of_pos (by simpa using hy)] at hclosed
      have hlength := congrArg List.length hclosed
      rw [List.length_append, List.length_cons] at hlength
      omega
  . intro h
    apply @Within.render_eq _ _ _ [] _ _ h.exact.within rfl
    intro front back hsplit
    unfold width
    rw [if_neg]
    . split
      . exact .inr rfl
      . exact .inl rfl
    . rintro ⟨back, hshown⟩
      obtain ⟨b, hquote, _⟩ := h none front back hshown
      cases hquote

end

/-
The redaction of a text does not panic; and redacting the result changes nothing exactly for the texts
whose redaction shows no assignment to a sensitive key, but for values in quotes that close behind
their run.
-/
theorem redactSensitive_stable_iff (text : String)
    : (redactSensitive text).isOk
      ∧ ((redactSensitive text >>= redactSensitive) = redactSensitive text ↔ Settled (utf8Bytes text)) := by
  obtain ⟨out, hout, hbytes⟩ := redactSensitive_eq text
  obtain ⟨out', hout', hbytes'⟩ := redactSensitive_eq out
  rw [hout]
  refine ⟨rfl, ?_⟩
  rw [← render_skeleton_eq_iff, ← hbytes, ← hbytes']
  show redactSensitive out = .ok out ↔ _
  rw [hout']
  constructor
  . intro h
    rw [Except.ok.inj h]
  . intro h
    rw [Text.utf8Bytes_injective h]

-- the value `abc` of a token: the second redaction leaves a bracket behind the marker
theorem redactSensitive_unstable
    : redactSensitive "token=abc" = .ok "token=[redacted]"
      ∧ redactSensitive "token=[redacted]" = .ok "token=[redacted]]" := by
  decide +kernel

end Memory
