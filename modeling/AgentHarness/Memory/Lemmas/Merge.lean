import AgentHarness.Memory.Redaction

/-!
What the replacement of ranges leaves of a text.
-/

namespace Memory

open Text (StartsWithChar slice slice_eq_some utf8Bytes utf8Bytes_append)

def Covers (ranges : List Range) (i : Nat) : Prop :=
  ∃ range ∈ ranges, range.1 ≤ i ∧ i < range.2

instance (ranges : List Range) : DecidablePred (Covers ranges) := fun i =>
  inferInstanceAs (Decidable (∃ range ∈ ranges, range.1 ≤ i ∧ i < range.2))

-- A byte of the text, or `none` for a run of covered bytes.
abbrev Skeleton := List (Option UInt8)

namespace Skeleton

def piece (part : Option UInt8) : List UInt8 :=
  match part with
  | none => utf8Bytes redactedMarker
  | some b => [b]

def render (skeleton : Skeleton) : List UInt8 :=
  skeleton.flatMap piece

theorem render_append (left right : Skeleton) : render (left ++ right) = render left ++ render right :=
  List.flatMap_append

theorem render_map_some (bytes : List UInt8) : render (bytes.map some) = bytes := by
  unfold render
  rw [List.flatMap_map]
  exact List.flatMap_singleton' bytes

theorem render_cons (part : Option UInt8) (skeleton : Skeleton)
    : render (part :: skeleton) = piece part ++ render skeleton :=
  List.flatMap_cons

end Skeleton

section

variable (covered : Nat → Prop) [DecidablePred covered]

def skeletonFrom : Bool → Nat → List UInt8 → Skeleton
  | _, _, [] => []
  | inside, i, b :: rest =>
    if covered i then
      (if inside then [] else [none]) ++ skeletonFrom true (i + 1) rest
    else
      some b :: skeletonFrom false (i + 1) rest

variable {inside : Bool} {b : UInt8}

theorem skeletonFrom_cons {i : Nat} {rest : List UInt8}
    : skeletonFrom covered inside i (b :: rest)
        = if covered i then
            (if inside then [] else [none]) ++ skeletonFrom covered true (i + 1) rest
          else
            some b :: skeletonFrom covered false (i + 1) rest := rfl

theorem skeletonFrom_visible {i : Nat} {rest : List UInt8} (h : ¬covered i)
    : skeletonFrom covered false i (b :: rest) = some b :: skeletonFrom covered false (i + 1) rest := by
  conv => lhs; unfold skeletonFrom
  rw [if_neg h]

theorem skeletonFrom_covered {i : Nat} {rest : List UInt8} (h : covered i)
    : skeletonFrom covered false i (b :: rest) = none :: skeletonFrom covered true (i + 1) rest := by
  conv => lhs; unfold skeletonFrom
  rw [if_pos h]
  rfl

theorem skeletonFrom_congr {covered' : Nat → Prop} [DecidablePred covered'] {i i' : Nat}
    {bytes : List UInt8} (h : ∀ j < bytes.length, covered (i + j) ↔ covered' (i' + j))
    : skeletonFrom covered inside i bytes = skeletonFrom covered' inside i' bytes := by
  induction bytes generalizing inside i i' with
  | nil => rfl
  | cons b rest ih =>
    have hrest : ∀ inside, skeletonFrom covered inside (i + 1) rest
        = skeletonFrom covered' inside (i' + 1) rest := by
      intro inside
      apply ih
      intro j hj
      rw [Nat.add_assoc, Nat.add_assoc, Nat.add_comm 1]
      apply h
      rw [List.length_cons]
      omega
    have hfirst : covered i ↔ covered' i' := h 0 (by simp)
    unfold skeletonFrom
    rw [hrest, hrest, if_congr hfirst rfl rfl]

theorem skeletonFrom_kept {i : Nat} {kept : List UInt8} (rest : List UInt8)
    (h : ∀ j, i ≤ j → j < i + kept.length → ¬covered j)
    : skeletonFrom covered false i (kept ++ rest)
        = kept.map some ++ skeletonFrom covered false (i + kept.length) rest := by
  induction kept generalizing i with
  | nil => rfl
  | cons b kept ih =>
    have hfirst : ¬covered i := h i le_rfl (by simp)
    have hkept : skeletonFrom covered false (i + 1) (kept ++ rest)
        = kept.map some ++ skeletonFrom covered false (i + 1 + kept.length) rest := by
      apply ih
      intro j hlow hhigh
      apply h j (by omega)
      rw [List.length_cons]
      omega
    have hlength : i + (b :: kept).length = i + 1 + kept.length := by
      rw [List.length_cons]
      omega
    rw [hlength, List.cons_append, List.map_cons, List.cons_append, ← hkept]
    conv => lhs; unfold skeletonFrom
    rw [if_neg hfirst]

theorem skeletonFrom_run {i : Nat} {run : List UInt8} (rest : List UInt8)
    (h : ∀ j, i ≤ j → j < i + run.length → covered j) (hrun : run ≠ [])
    : skeletonFrom covered inside i (run ++ rest)
        = (if inside then [] else [none]) ++ skeletonFrom covered true (i + run.length) rest := by
  induction run generalizing inside i with
  | nil => exact absurd rfl hrun
  | cons b run ih =>
    have hfirst : covered i := h i le_rfl (by simp)
    rw [List.cons_append]
    conv => lhs; unfold skeletonFrom
    rw [if_pos hfirst, List.length_cons]
    cases run with
    | nil => simp
    | cons b' run =>
      rw [ih _ (by simp)]
      . rw [if_pos rfl, List.nil_append]
        congr 2
        omega
      . intro j hlow hhigh
        apply h j (by omega)
        rw [List.length_cons]
        omega

theorem skeletonFrom_outside {i : Nat} {bytes : List UInt8} (h : ¬covered i)
    : skeletonFrom covered inside i bytes = skeletonFrom covered false i bytes := by
  cases bytes with
  | nil => rfl
  | cons b rest =>
    unfold skeletonFrom
    rw [if_neg h, if_neg h]

end

def Separated (ranges : List Range) : Prop :=
  ranges.Pairwise (fun left right => left.2 < right.1) ∧ ∀ range ∈ ranges, range.1 < range.2

section

variable {ranges rest : List Range} {current : Range} {i : Nat}

theorem covers_cons : Covers (current :: rest) i ↔ (current.1 ≤ i ∧ i < current.2) ∨ Covers rest i := by
  unfold Covers
  simp

theorem covers_go (h : (current :: rest).Pairwise (·.1 ≤ ·.1))
    : Covers (mergeRanges.go current rest) i ↔ Covers (current :: rest) i := by
  induction rest generalizing current with
  | nil => rfl
  | cons next rest ih =>
    obtain ⟨hcurrent, hnext, hrest⟩ : (∀ range ∈ next :: rest, current.1 ≤ range.1)
        ∧ (∀ range ∈ rest, next.1 ≤ range.1) ∧ rest.Pairwise (·.1 ≤ ·.1) := by
      rwa [List.pairwise_cons, List.pairwise_cons] at h
    have hle := hcurrent next List.mem_cons_self
    unfold mergeRanges.go
    split
    . next htouch =>
      rw [ih, covers_cons, covers_cons, covers_cons, ← or_assoc]
      . apply or_congr_left
        dsimp only
        omega
      . rw [List.pairwise_cons]
        exact ⟨fun range hrange => hcurrent range (List.mem_cons_of_mem _ hrange), hrest⟩
    . rw [covers_cons, ih (List.pairwise_cons.mpr ⟨hnext, hrest⟩), ← covers_cons]

theorem mem_go {range : Range} (hrange : range ∈ mergeRanges.go current rest)
    : (∃ first ∈ current :: rest, range.1 = first.1) ∧ ∃ last ∈ current :: rest, range.2 = last.2 := by
  induction rest generalizing current with
  | nil =>
    obtain rfl := List.mem_singleton.mp hrange
    exact ⟨⟨range, List.mem_cons_self, rfl⟩, range, List.mem_cons_self, rfl⟩
  | cons next rest ih =>
    unfold mergeRanges.go at hrange
    split at hrange
    . obtain ⟨⟨first, hfirst, hstart⟩, last, hlast, hstop⟩ := ih hrange
      constructor
      . rw [List.mem_cons] at hfirst
        rcases hfirst with rfl | hfirst
        . exact ⟨current, List.mem_cons_self, hstart⟩
        . exact ⟨first, by simp [hfirst], hstart⟩
      . rw [List.mem_cons] at hlast
        rcases hlast with rfl | hlast
        . rcases Nat.le_total next.2 current.2 with hle | hle
          . exact ⟨current, List.mem_cons_self, hstop.trans (Nat.max_eq_left hle)⟩
          . exact ⟨next, by simp, hstop.trans (Nat.max_eq_right hle)⟩
        . exact ⟨last, by simp [hlast], hstop⟩
    . rw [List.mem_cons] at hrange
      rcases hrange with rfl | hrange
      . exact ⟨⟨range, List.mem_cons_self, rfl⟩, range, List.mem_cons_self, rfl⟩
      . obtain ⟨⟨first, hfirst, hstart⟩, last, hlast, hstop⟩ := ih hrange
        exact ⟨⟨first, List.mem_cons_of_mem _ hfirst, hstart⟩, last,
          List.mem_cons_of_mem _ hlast, hstop⟩

theorem separated_go (h : (current :: rest).Pairwise (·.1 ≤ ·.1))
    (hne : ∀ range ∈ current :: rest, range.1 < range.2)
    : Separated (mergeRanges.go current rest)
      ∧ ∀ range ∈ mergeRanges.go current rest, current.1 ≤ range.1 := by
  induction rest generalizing current with
  | nil =>
    refine ⟨⟨List.pairwise_singleton _ _, hne⟩, ?_⟩
    intro range hrange
    rw [List.mem_singleton.mp hrange]
  | cons next rest ih =>
    obtain ⟨hcurrent, hnext, hrest⟩ : (∀ range ∈ next :: rest, current.1 ≤ range.1)
        ∧ (∀ range ∈ rest, next.1 ≤ range.1) ∧ rest.Pairwise (·.1 ≤ ·.1) := by
      rwa [List.pairwise_cons, List.pairwise_cons] at h
    have hle := hcurrent next List.mem_cons_self
    have hfirst := hne current List.mem_cons_self
    unfold mergeRanges.go
    split
    . apply ih
      . rw [List.pairwise_cons]
        exact ⟨fun range hrange => hcurrent range (List.mem_cons_of_mem _ hrange), hrest⟩
      . intro range hrange
        rw [List.mem_cons] at hrange
        rcases hrange with rfl | hrange
        . exact lt_of_lt_of_le hfirst (le_max_left _ _)
        . exact hne range (by simp [hrange])
    . next hgap =>
      obtain ⟨⟨hsorted, hlong⟩, hstart⟩ := ih (List.pairwise_cons.mpr ⟨hnext, hrest⟩)
        fun range hrange => hne range (List.mem_cons_of_mem _ hrange)
      refine ⟨⟨?_, ?_⟩, ?_⟩
      . rw [List.pairwise_cons]
        refine ⟨fun range hrange => ?_, hsorted⟩
        have hbehind := hstart range hrange
        omega
      . rw [List.forall_mem_cons]
        exact ⟨hfirst, hlong⟩
      . rw [List.forall_mem_cons]
        refine ⟨le_rfl, fun range hrange => ?_⟩
        have hbehind := hstart range hrange
        omega

end

instance : Std.Total Range.le where
  total left right := by
    unfold Range.le
    omega

instance : IsTrans Range Range.le where
  trans left middle right hleft hright := by
    unfold Range.le at *
    omega

section

variable {ranges : List Range}

theorem pairwise_insertionSort (ranges : List Range)
    : (ranges.insertionSort Range.le).Pairwise (·.1 ≤ ·.1) := by
  apply (List.pairwise_insertionSort Range.le ranges).imp
  intro left right hle
  unfold Range.le at hle
  omega

theorem covers_mergeRanges (i : Nat)
    : Covers (mergeRanges (ranges.insertionSort Range.le)) i ↔ Covers ranges i := by
  have hsorted : Covers (ranges.insertionSort Range.le) i ↔ Covers ranges i := by
    unfold Covers
    simp only [List.mem_insertionSort]
  rw [← hsorted]
  have hpairs := pairwise_insertionSort ranges
  cases hsort : ranges.insertionSort Range.le with
  | nil => rfl
  | cons first rest =>
    rw [hsort] at hpairs
    apply covers_go hpairs

theorem mem_mergeRanges {range : Range}
    (h : range ∈ mergeRanges (ranges.insertionSort Range.le))
    : (∃ first ∈ ranges, range.1 = first.1) ∧ ∃ last ∈ ranges, range.2 = last.2 := by
  have hsorted : ∀ range, range ∈ ranges ↔ range ∈ ranges.insertionSort Range.le := fun range =>
    (List.mem_insertionSort Range.le).symm
  simp only [hsorted]
  cases hsort : ranges.insertionSort Range.le with
  | nil =>
    rw [hsort] at h
    cases h
  | cons first rest =>
    rw [hsort] at h
    apply mem_go h

theorem separated_mergeRanges (h : ∀ range ∈ ranges, range.1 < range.2)
    : Separated (mergeRanges (ranges.insertionSort Range.le)) := by
  have hpairs := pairwise_insertionSort ranges
  have hsorted : ∀ range ∈ ranges.insertionSort Range.le, range.1 < range.2 := fun range hrange =>
    h range ((List.mem_insertionSort Range.le).mp hrange)
  cases hsort : ranges.insertionSort Range.le with
  | nil => exact ⟨List.Pairwise.nil, by simp [mergeRanges]⟩
  | cons first rest =>
    rw [hsort] at hpairs hsorted
    exact (separated_go hpairs hsorted).1

end

section

variable {text : String}

def Boundary (bytes : List UInt8) (offset : Nat) : Prop :=
  StartsWithChar (bytes.drop offset)

theorem boundary_zero : Boundary (utf8Bytes text) 0 := by
  unfold Boundary
  rw [List.drop_zero, ← Text.encode_toList]
  cases hchars : text.toList with
  | nil => exact Text.startsWithChar_nil
  | cons ch chars =>
    intro b hb
    obtain ⟨rest, hrest⟩ := List.head?_eq_some_iff.mp hb
    exact Text.isUTF8FirstByte_of_mem_head hrest

variable {bytes : List UInt8}

theorem boundary_length : Boundary bytes bytes.length := by
  unfold Boundary
  rw [List.drop_length]
  exact Text.startsWithChar_nil

theorem drop_take_append {start stop : Nat} (hle : start ≤ stop)
    : (bytes.take stop).drop start ++ bytes.drop stop = bytes.drop start := by
  have hdrop : bytes.drop stop = (bytes.drop start).drop (stop - start) := by
    rw [List.drop_drop]
    congr 1
    omega
  rw [List.drop_take, hdrop, List.take_append_drop]

theorem slice_boundary {start stop : Nat} (hle : start ≤ stop)
    (hstop : stop ≤ (utf8Bytes text).length) (hstart : Boundary (utf8Bytes text) start)
    (hend : Boundary (utf8Bytes text) stop)
    : ∃ middle, slice text start stop = some middle
        ∧ utf8Bytes middle = ((utf8Bytes text).take stop).drop start := by
  generalize hbytes : utf8Bytes text = bytes at hstop hstart hend ⊢
  have hsplit : utf8Bytes text
      = bytes.take start ++ (bytes.take stop).drop start ++ bytes.drop stop := by
    have htake : bytes.take start = (bytes.take stop).take start := by
      rw [List.take_take, Nat.min_eq_left hle]
    rw [htake, List.take_append_drop, List.take_append_drop, hbytes]
  obtain ⟨middle, hslice, hmiddle⟩ := slice_eq_some hsplit (by rw [drop_take_append hle]; exact hstart) hend
  refine ⟨middle, ?_, hmiddle⟩
  rw [List.length_take, List.length_drop, List.length_take] at hslice
  rw [← hslice]
  congr 1 <;> omega

theorem copyAround_eq {ranges : List Range} {copiedTo : Nat} (hsep : Separated ranges)
    (hbounds : ∀ range ∈ ranges, Boundary (utf8Bytes text) range.1
      ∧ Boundary (utf8Bytes text) range.2 ∧ range.2 ≤ (utf8Bytes text).length)
    (hcopied : Boundary (utf8Bytes text) copiedTo) (hle : copiedTo ≤ (utf8Bytes text).length)
    (hfirst : ∀ range ∈ ranges, copiedTo ≤ range.1)
    : ∃ out, copyAround text copiedTo ranges = .ok out
        ∧ utf8Bytes out
          = (skeletonFrom (Covers ranges) false copiedTo ((utf8Bytes text).drop copiedTo)).render := by
  induction ranges generalizing copiedTo with
  | nil =>
    obtain ⟨out, hslice, hout⟩ := slice_boundary hle le_rfl hcopied boundary_length
    refine ⟨out, ?_, ?_⟩
    . unfold copyAround
      rw [← Text.length_utf8Bytes, hslice]
      rfl
    . have hkept : skeletonFrom (Covers []) false copiedTo ((utf8Bytes text).drop copiedTo ++ [])
          = ((utf8Bytes text).drop copiedTo).map some ++ [] := by
        apply skeletonFrom_kept
        simp [Covers]
      rw [List.append_nil, List.append_nil] at hkept
      rw [hout, List.take_length, hkept, Skeleton.render_map_some]
  | cons range rest ih =>
    obtain ⟨start, stop⟩ := range
    obtain ⟨hpairs, hlong⟩ := hsep
    rw [List.pairwise_cons] at hpairs
    obtain ⟨hgap, hpairs⟩ := hpairs
    obtain ⟨hstart, hstop, hlength⟩ := hbounds (start, stop) List.mem_cons_self
    have hlow : copiedTo ≤ start := hfirst (start, stop) List.mem_cons_self
    have hrun : start < stop := hlong (start, stop) List.mem_cons_self
    dsimp only at hgap hstart hstop hlength
    obtain ⟨kept, hslice, hkept⟩ := slice_boundary hlow (by omega) hcopied hstart
    obtain ⟨more, hcopy, hmore⟩ := ih
      ⟨hpairs, fun range hrange => hlong range (List.mem_cons_of_mem _ hrange)⟩
      (fun range hrange => hbounds range (List.mem_cons_of_mem _ hrange)) hstop hlength
      fun range hrange => (hgap range hrange).le
    refine ⟨kept ++ redactedMarker ++ more, ?_, ?_⟩
    . unfold copyAround
      rw [hslice, hcopy]
      rfl
    . have hsplit : (utf8Bytes text).drop copiedTo
          = ((utf8Bytes text).take start).drop copiedTo
            ++ (((utf8Bytes text).take stop).drop start ++ (utf8Bytes text).drop stop) := by
        rw [drop_take_append hrun.le, drop_take_append hlow]
      have hlengthKept : copiedTo + (((utf8Bytes text).take start).drop copiedTo).length = start := by
        rw [List.length_drop, List.length_take]
        omega
      have hlengthRun : start + (((utf8Bytes text).take stop).drop start).length = stop := by
        rw [List.length_drop, List.length_take]
        omega
      have houtside : ¬Covers rest stop := by
        rintro ⟨range, hrange, hcovers, _⟩
        have hbehind := hgap range hrange
        omega
      have hbehind : skeletonFrom (Covers ((start, stop) :: rest)) true stop ((utf8Bytes text).drop stop)
          = skeletonFrom (Covers rest) false stop ((utf8Bytes text).drop stop) := by
        rw [← skeletonFrom_outside _ houtside]
        apply skeletonFrom_congr
        intro j _
        rw [covers_cons, or_iff_right]
        dsimp only
        omega
      have hrunCovered : ∀ j, start ≤ j → j < stop → Covers ((start, stop) :: rest) j :=
        fun j hlow hhigh => covers_cons.mpr (.inl ⟨hlow, hhigh⟩)
      have hkeptFree : ∀ j, copiedTo ≤ j → j < start → ¬Covers ((start, stop) :: rest) j := by
        rintro j _ hbefore ⟨range, hrange, hcovers, _⟩
        rw [List.mem_cons] at hrange
        rcases hrange with rfl | hrange
        . dsimp only at hcovers
          omega
        . have hgap := hgap range hrange
          omega
      have hrunBytes : ((utf8Bytes text).take stop).drop start ≠ [] := by
        intro hnil
        rw [hnil, List.length_nil] at hlengthRun
        omega
      rw [hsplit, skeletonFrom_kept _ _ (by rwa [hlengthKept]), hlengthKept,
        skeletonFrom_run _ _ (by rwa [hlengthRun]) hrunBytes, hlengthRun, hbehind,
        Skeleton.render_append, Skeleton.render_append, Skeleton.render_map_some, utf8Bytes_append,
        utf8Bytes_append, hkept, hmore, List.append_assoc]
      rfl

theorem covers_filter {ranges : List Range} (hbounds : ∀ range ∈ ranges, range.2 ≤ bytes.length)
    (i : Nat)
    : Covers (ranges.filter fun range => range.1 < range.2 && range.2 ≤ bytes.length) i
        ↔ Covers ranges i := by
  unfold Covers
  constructor
  . rintro ⟨range, hrange, hi⟩
    exact ⟨range, (List.mem_filter.mp hrange).1, hi⟩
  . rintro ⟨range, hrange, hi⟩
    refine ⟨range, List.mem_filter.mpr ⟨hrange, ?_⟩, hi⟩
    have hstop := hbounds range hrange
    simp only [Bool.and_eq_true, decide_eq_true_iff]
    omega

theorem replaceSensitiveRanges_eq {ranges : List Range}
    (hbounds : ∀ range ∈ ranges, Boundary (utf8Bytes text) range.1
      ∧ Boundary (utf8Bytes text) range.2 ∧ range.2 ≤ (utf8Bytes text).length)
    : ∃ out, replaceSensitiveRanges text ranges = .ok out
        ∧ utf8Bytes out
          = (skeletonFrom (Covers ranges) false 0 (utf8Bytes text)).render := by
  generalize hkept : ranges.filter (fun range => range.1 < range.2 && range.2 ≤ text.utf8ByteSize)
    = kept
  have hsub : ∀ range ∈ kept, range.1 < range.2 ∧ range ∈ ranges := by
    intro range hrange
    rw [← hkept, List.mem_filter, Bool.and_eq_true, decide_eq_true_iff] at hrange
    exact ⟨hrange.2.1, hrange.1⟩
  have hcovers : ∀ i, Covers (mergeRanges (kept.insertionSort Range.le)) i ↔ Covers ranges i := by
    intro i
    rw [covers_mergeRanges, ← covers_filter (fun range hrange => (hbounds range hrange).2.2) i,
      Text.length_utf8Bytes, hkept]
  have hmerged : ∀ range ∈ mergeRanges (kept.insertionSort Range.le),
      Boundary (utf8Bytes text) range.1
        ∧ Boundary (utf8Bytes text) range.2 ∧ range.2 ≤ (utf8Bytes text).length := by
    intro range hrange
    obtain ⟨⟨first, hfirst, hstart⟩, last, hlast, hstop⟩ := mem_mergeRanges hrange
    rw [hstart, hstop]
    exact ⟨(hbounds first (hsub first hfirst).2).1, (hbounds last (hsub last hlast).2).2⟩
  have hseparated := separated_mergeRanges fun range hrange => (hsub range hrange).1
  obtain ⟨out, hcopy, hout⟩ := copyAround_eq hseparated hmerged boundary_zero (Nat.zero_le _)
    fun range _ => Nat.zero_le _
  refine ⟨out, ?_, ?_⟩
  . unfold replaceSensitiveRanges
    rw [hkept]
    exact hcopy
  . rw [hout, List.drop_zero]
    congr 1
    apply skeletonFrom_congr
    intro j _
    exact hcovers (0 + j)

end

end Memory
