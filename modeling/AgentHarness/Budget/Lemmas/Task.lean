import Mathlib.Data.List.Perm.Basic
import AgentHarness.Budget.Task

/-!
The task budget as a function of the set of its slices: the ledger holds every slice once, so the
status does not depend on the order in which slices are recorded nor on how often.
-/

namespace TaskBudget

theorem values_insert_of_fresh {m : FMap Nat TaskBudgetSliceV1} {k : Nat} {v : TaskBudgetSliceV1}
    (h : m.lookup k = none)
    : FMap.values (m.insert k v) = v :: m.values := by
  have hkey : k ∉ m := AList.lookup_eq_none.mp h
  unfold FMap.values
  rw [AList.entries_insert_of_notMem hkey]
  rfl

section

variable {stored : List TaskBudgetSliceV1}

structure Stores (lines : List (JsonLine TaskBudgetSliceV1)) (stored : List TaskBudgetSliceV1)
    : Prop where
  lines : lines = stored.map .value
  valid : ∀ slice ∈ stored, validateSlice slice = .ok ()
  nodup : (stored.map (·.sliceGeneration)).Nodup

theorem stores_nil : Stores [] [] where
  lines := rfl
  valid := by simp
  nodup := by simp

def byGeneration (stored : List TaskBudgetSliceV1) : FMap Nat TaskBudgetSliceV1 :=
  FMap.ofValues (·.sliceGeneration) stored

theorem lookup_byGeneration (hnodup : (stored.map (·.sliceGeneration)).Nodup) {generation : Nat}
    {slice : TaskBudgetSliceV1}
    : (byGeneration stored).lookup generation = some slice
        ↔ slice ∈ stored ∧ slice.sliceGeneration = generation := by
  unfold byGeneration
  rw [FMap.lookup_ofValues_of_nodup hnodup]

theorem lookup_byGeneration_none (hnodup : (stored.map (·.sliceGeneration)).Nodup)
    {generation : Nat} (h : generation ∉ stored.map (·.sliceGeneration))
    : (byGeneration stored).lookup generation = none := by
  rw [Option.eq_none_iff_forall_ne_some]
  intro slice hslice
  rw [lookup_byGeneration hnodup] at hslice
  apply h
  rw [List.mem_map]
  exact ⟨slice, hslice⟩

theorem values_byGeneration (hnodup : (stored.map (·.sliceGeneration)).Nodup)
    : (byGeneration stored).values.Perm stored := by
  induction stored using List.reverseRecOn with
  | nil => exact .refl _
  | append_singleton stored slice ih =>
    rw [List.map_append, List.map_singleton, List.nodup_append] at hnodup
    have hfresh : slice.sliceGeneration ∉ stored.map (·.sliceGeneration) := by
      intro hmem
      exact hnodup.2.2 _ hmem _ (List.mem_singleton_self _) rfl
    have hlookup := lookup_byGeneration_none hnodup.1 hfresh
    unfold byGeneration at hlookup ih ⊢
    rw [FMap.ofValues_concat, values_insert_of_fresh hlookup]
    calc slice :: (FMap.ofValues (·.sliceGeneration) stored).values
        |>.Perm (slice :: stored) := (ih hnodup.1).cons slice
      _ |>.Perm (stored ++ [slice]) := (List.perm_append_singleton slice stored).symm

variable {lines : List (JsonLine TaskBudgetSliceV1)}

theorem readSlices_concat {slices : FMap Nat TaskBudgetSliceV1} (h : readSlices lines = .ok slices)
    (line : JsonLine TaskBudgetSliceV1)
    : readSlices (lines ++ [line]) = readLine slices line := by
  unfold readSlices at h ⊢
  rw [List.foldlM_append, h]
  show List.foldlM readLine slices [line] = readLine slices line
  rw [List.foldlM_cons]
  cases readLine slices line with
  | error e => rfl
  | ok later => rfl

theorem readLine_of_fresh {slices : FMap Nat TaskBudgetSliceV1} {slice : TaskBudgetSliceV1}
    (hvalid : validateSlice slice = .ok ()) (hfresh : slices.lookup slice.sliceGeneration = none)
    : readLine slices (.value slice) = .ok (slices.insert slice.sliceGeneration slice) := by
  unfold readLine
  dsimp only
  rw [hvalid, hfresh]
  rfl

theorem readSlices_of_stores (h : Stores lines stored)
    : readSlices lines = .ok (byGeneration stored) := by
  obtain ⟨hlines, hvalid, hnodup⟩ := h
  rw [hlines]
  clear hlines
  induction stored using List.reverseRecOn with
  | nil => rfl
  | append_singleton stored slice ih =>
    rw [List.forall_mem_append] at hvalid
    rw [List.map_append, List.map_singleton, List.nodup_append] at hnodup
    have hfresh : slice.sliceGeneration ∉ stored.map (·.sliceGeneration) := by
      intro hmem
      exact hnodup.2.2 _ hmem _ (List.mem_singleton_self _) rfl
    have hlookup := lookup_byGeneration_none hnodup.1 hfresh
    have hslice := hvalid.2 slice (List.mem_singleton_self slice)
    have hread := ih hvalid.1 hnodup.1
    rw [List.map_append, List.map_singleton, readSlices_concat hread,
      readLine_of_fresh hslice hlookup]
    unfold byGeneration
    rw [FMap.ofValues_concat]

theorem Stores.concat (h : Stores lines stored) {slice : TaskBudgetSliceV1}
    (hvalid : validateSlice slice = .ok ())
    (hfresh : slice.sliceGeneration ∉ stored.map (·.sliceGeneration))
    : Stores (lines ++ [.value slice]) (stored ++ [slice]) where
  lines := by simp [h.lines]
  valid := by
    rw [List.forall_mem_append]
    refine ⟨h.valid, ?_⟩
    simpa using hvalid
  nodup := by
    rw [List.map_append, List.map_singleton]
    apply List.Nodup.append h.nodup (by simp)
    simpa using hfresh

theorem inOrder_perm (slices : List TaskBudgetSliceV1) : (inOrder slices).Perm slices := by
  unfold inOrder
  apply List.perm_insertionSort

theorem inOrder_congr {other : List TaskBudgetSliceV1}
    (hnodup : (stored.map (·.sliceGeneration)).Nodup) (hperm : stored.Perm other)
    : inOrder stored = inOrder other := by
  have hinj := List.inj_on_of_nodup_map hnodup
  have hsorted : ∀ slices : List TaskBudgetSliceV1,
      (inOrder slices).Pairwise fun left right => left.sliceGeneration ≤ right.sliceGeneration := by
    intro slices
    unfold inOrder
    have : Std.Total fun (left right : TaskBudgetSliceV1) =>
        left.sliceGeneration ≤ right.sliceGeneration :=
      ⟨fun left right => Nat.le_total left.sliceGeneration right.sliceGeneration⟩
    have : IsTrans TaskBudgetSliceV1 fun left right =>
        left.sliceGeneration ≤ right.sliceGeneration :=
      ⟨fun _ _ _ => Nat.le_trans⟩
    apply List.pairwise_insertionSort
  apply List.Perm.eq_of_pairwise _ (hsorted stored) (hsorted other)
  . calc (inOrder stored).Perm stored := inOrder_perm stored
      _ |>.Perm other := hperm
      _ |>.Perm (inOrder other) := (inOrder_perm other).symm
  . intro left right hleft hright hle hge
    apply hinj
    . exact (inOrder_perm stored).mem_iff.mp hleft
    . exact hperm.mem_iff.mpr ((inOrder_perm other).mem_iff.mp hright)
    . omega

theorem status_congr {other : List TaskBudgetSliceV1} (familyId : String)
    (hnodup : (stored.map (·.sliceGeneration)).Nodup) (hperm : stored.Perm other)
    : status familyId stored = status familyId other := by
  unfold status
  rw [inOrder_congr hnodup hperm]

end

section

variable {home : Home} {stored : List TaskBudgetSliceV1} {slice : TaskBudgetSliceV1}
  (h : Stores (home.ledger slice.familyId) stored)
include h

theorem record_of_fresh (hvalid : validateSlice slice = .ok ())
    (hfresh : slice.sliceGeneration ∉ stored.map (·.sliceGeneration))
    : home.recordTaskBudgetSlice slice
        = (home.append slice, .ok (status slice.familyId (stored ++ [slice]))) := by
  have hlookup := lookup_byGeneration_none h.nodup hfresh
  have hnodup := (h.concat hvalid hfresh).nodup
  have hvalues := values_byGeneration hnodup
  have hinsert : (byGeneration stored).insert slice.sliceGeneration slice
      = byGeneration (stored ++ [slice]) := by
    unfold byGeneration
    rw [FMap.ofValues_concat]
  unfold Home.recordTaskBudgetSlice
  rw [hvalid, readSlices_of_stores h]
  dsimp only
  rw [hlookup]
  dsimp only
  rw [hinsert, status_congr slice.familyId hnodup hvalues.symm]

theorem record_of_stored (hstored : slice ∈ stored)
    : home.recordTaskBudgetSlice slice = (home, .ok (status slice.familyId stored)) := by
  have hlookup : (byGeneration stored).lookup slice.sliceGeneration = some slice := by
    rw [lookup_byGeneration h.nodup]
    exact ⟨hstored, rfl⟩
  have hsame : sameSliceAccounting slice slice = true := by simp [sameSliceAccounting]
  unfold Home.recordTaskBudgetSlice
  rw [h.valid slice hstored, readSlices_of_stores h]
  dsimp only
  rw [hlookup]
  dsimp only
  rw [if_pos hsame, status_congr slice.familyId h.nodup (values_byGeneration h.nodup).symm]

end

theorem taskBudgetStatus_of_stores {home : Home} {familyId : String}
    {stored : List TaskBudgetSliceV1} (h : Stores (home.ledger familyId) stored)
    : home.taskBudgetStatus familyId = .ok (status familyId stored) := by
  unfold Home.taskBudgetStatus
  rw [readSlices_of_stores h, status_congr familyId h.nodup (values_byGeneration h.nodup).symm]
  rfl

theorem ledger_append (home : Home) (slice : TaskBudgetSliceV1)
    : (home.append slice).ledger slice.familyId
        = home.ledger slice.familyId ++ [.value slice] := by
  simp [Home.append]

def distinct (slices : List TaskBudgetSliceV1) : List TaskBudgetSliceV1 :=
  slices.foldl (fun stored slice => if slice ∈ stored then stored else stored ++ [slice]) []

theorem distinct_concat (slices : List TaskBudgetSliceV1) (slice : TaskBudgetSliceV1)
    : distinct (slices ++ [slice])
        = if slice ∈ distinct slices then distinct slices else distinct slices ++ [slice] := by
  unfold distinct
  rw [List.foldl_append]
  rfl

theorem mem_distinct {slices : List TaskBudgetSliceV1} {slice : TaskBudgetSliceV1}
    : slice ∈ distinct slices ↔ slice ∈ slices := by
  induction slices using List.reverseRecOn with
  | nil => simp [distinct]
  | append_singleton slices last ih =>
    rw [distinct_concat]
    split
    . next hlast =>
      rw [ih, List.mem_append, List.mem_singleton]
      constructor
      . exact .inl
      . intro h
        cases h with
        | inl h => exact h
        | inr h =>
          subst h
          exact ih.mp hlast
    . rw [List.mem_append, List.mem_append, ih]

theorem distinct_append (first later : List TaskBudgetSliceV1)
    : distinct first <+: distinct (first ++ later) := by
  induction later using List.reverseRecOn with
  | nil => simp
  | append_singleton later last ih =>
    rw [← List.append_assoc, distinct_concat]
    split
    . exact ih
    . exact ih.trans (List.prefix_append _ _)

/-
Slices of one family, as the callers make them: valid, and a generation stands for one slice.
-/
structure OneFamily (familyId : String) (slices : List TaskBudgetSliceV1) : Prop where
  valid : ∀ slice ∈ slices, validateSlice slice = .ok ()
  family : ∀ slice ∈ slices, slice.familyId = familyId
  agree : ∀ left ∈ slices, ∀ right ∈ slices,
    left.sliceGeneration = right.sliceGeneration → left = right

theorem OneFamily.sublist {familyId : String} {slices other : List TaskBudgetSliceV1}
    (h : OneFamily familyId slices) (hsub : ∀ slice ∈ other, slice ∈ slices)
    : OneFamily familyId other where
  valid slice hslice := h.valid slice (hsub slice hslice)
  family slice hslice := h.family slice (hsub slice hslice)
  agree left hleft right hright := h.agree left (hsub left hleft) right (hsub right hright)

section

variable {home : Home} {familyId : String} {slices : List TaskBudgetSliceV1}
  {slice : TaskBudgetSliceV1}

theorem recordAll_concat (home : Home) (slices : List TaskBudgetSliceV1) (slice : TaskBudgetSliceV1)
    : home.recordAll (slices ++ [slice])
        = ((home.recordAll slices).recordTaskBudgetSlice slice).1 := by
  simp [Home.recordAll]

theorem record_step (h : OneFamily familyId (slices ++ [slice]))
    (hstores : Stores ((home.recordAll slices).ledger familyId) (distinct slices))
    : ((home.recordAll slices).recordTaskBudgetSlice slice).2
          = .ok (status familyId (distinct (slices ++ [slice])))
        ∧ Stores ((home.recordAll (slices ++ [slice])).ledger familyId)
          (distinct (slices ++ [slice])) := by
  have hlast : slice ∈ slices ++ [slice] := by simp
  have hfamily := h.family slice hlast
  subst hfamily
  rw [recordAll_concat, distinct_concat]
  by_cases hstored : slice ∈ distinct slices
  . rw [record_of_stored hstores hstored, if_pos hstored]
    exact ⟨rfl, hstores⟩
  . have hfresh : slice.sliceGeneration ∉ (distinct slices).map (·.sliceGeneration) := by
      intro hmem
      rw [List.mem_map] at hmem
      obtain ⟨other, hother, hgeneration⟩ := hmem
      have hmem : other ∈ slices ++ [slice] := List.mem_append_left _ (mem_distinct.mp hother)
      rw [h.agree other hmem slice hlast hgeneration] at hother
      exact hstored hother
    have hvalid := h.valid slice hlast
    rw [record_of_fresh hstores hvalid hfresh, if_neg hstored, ledger_append]
    exact ⟨rfl, hstores.concat hvalid hfresh⟩

theorem stores_recordAll (hempty : home.ledger familyId = []) (h : OneFamily familyId slices)
    : Stores ((home.recordAll slices).ledger familyId) (distinct slices) := by
  induction slices using List.reverseRecOn with
  | nil =>
    rw [Home.recordAll, List.foldl_nil, hempty]
    exact stores_nil
  | append_singleton slices slice ih =>
    have hfirst := ih (h.sublist fun slice hslice => List.mem_append_left _ hslice)
    exact (record_step h hfirst).2

end

-- the limits that are reached by adding up
inductive Limit where
  | wallClock
  | slices
  | tokens
  | recovery
  | dispositionRecovery

def TaskBudgetStatusV1.reaches (self : TaskBudgetStatusV1) (limit : Limit) : Bool :=
  match limit with
  | .wallClock => self.cumulativeWallTimeMs ≥ defaultTaskWallClockBudgetMs
  | .slices => self.slices ≥ defaultMaxTaskSlices
  | .tokens => self.cumulativeTokens ≥ defaultMaxTaskTokens
  | .recovery => self.recoverySlices ≥ defaultMaxRecoverySlices
  | .dispositionRecovery => self.dispositionRecoveryExhausted

theorem sum_inOrder (slices : List TaskBudgetSliceV1) (f : TaskBudgetSliceV1 → Nat)
    : Saturating.sum ((inOrder slices).map f) = min (slices.map f).sum u64Max := by
  rw [Saturating.sum_eq, ((inOrder_perm slices).map f).sum_nat]

theorem reaches_append (familyId : String) (slices later : List TaskBudgetSliceV1) (limit : Limit)
    (h : (status familyId slices).reaches limit)
    : (status familyId (slices ++ later)).reaches limit := by
  have hsum : ∀ f : TaskBudgetSliceV1 → Nat, Saturating.sum ((inOrder slices).map f)
      ≤ Saturating.sum ((inOrder (slices ++ later)).map f) := by
    intro f
    rw [sum_inOrder, sum_inOrder, List.map_append, List.sum_append]
    omega
  have hcount : ∀ p : TaskBudgetSliceV1 → Bool, (inOrder slices).countP p
      ≤ (inOrder (slices ++ later)).countP p := by
    intro p
    rw [(inOrder_perm slices).countP_eq, (inOrder_perm (slices ++ later)).countP_eq,
      List.countP_append]
    omega
  have hlength : (inOrder slices).length ≤ (inOrder (slices ++ later)).length := by
    rw [(inOrder_perm slices).length_eq, (inOrder_perm (slices ++ later)).length_eq,
      List.length_append]
    omega
  unfold status at h ⊢
  cases limit with
  | wallClock =>
    simp only [TaskBudgetStatusV1.reaches, decide_eq_true_eq] at h ⊢
    exact le_trans h (hsum _)
  | slices =>
    simp only [TaskBudgetStatusV1.reaches, decide_eq_true_eq] at h ⊢
    exact le_trans h hlength
  | tokens =>
    simp only [TaskBudgetStatusV1.reaches, decide_eq_true_eq] at h ⊢
    exact le_trans h (hsum _)
  | recovery =>
    simp only [TaskBudgetStatusV1.reaches, decide_eq_true_eq] at h ⊢
    exact le_trans h (hcount _)
  | dispositionRecovery =>
    simp only [TaskBudgetStatusV1.reaches, decide_eq_true_eq] at h ⊢
    exact le_trans h (hcount _)

def accounting (slice : TaskBudgetSliceV1) : TaskBudgetSliceV1 :=
  { slice with observedAtMs := 0 }

theorem sameSliceAccounting_iff {left right : TaskBudgetSliceV1}
    : sameSliceAccounting left right ↔ accounting left = accounting right := by
  unfold sameSliceAccounting accounting
  simp only [Bool.and_eq_true, decide_eq_true_eq, TaskBudgetSliceV1.mk.injEq, and_true]
  tauto

theorem readLine_ok {slices later : FMap Nat TaskBudgetSliceV1} {slice : TaskBudgetSliceV1}
    (h : readLine slices (.value slice) = .ok later)
    : (∀ existing ∈ slices.lookup slice.sliceGeneration, accounting existing = accounting slice)
        ∧ later = slices.insert slice.sliceGeneration slice := by
  unfold readLine at h
  dsimp only at h
  simp only [Except.bind_eq_ok, Except.require_eq_ok, Except.pure_eq_ok] at h
  obtain ⟨_, _, _, hsame, rfl⟩ := h
  refine ⟨?_, rfl⟩
  intro existing hexisting
  rw [Option.mem_def] at hexisting
  rw [hexisting] at hsame
  exact sameSliceAccounting_iff.mp (by simpa using hsame)

theorem lookup_of_mem {lines : List (JsonLine TaskBudgetSliceV1)} {slice : TaskBudgetSliceV1}
    {slices : FMap Nat TaskBudgetSliceV1} (h : readSlices lines = .ok slices)
    (hmem : .value slice ∈ lines)
    : ∃ existing, slices.lookup slice.sliceGeneration = some existing
        ∧ accounting existing = accounting slice := by
  induction lines using List.reverseRecOn generalizing slices with
  | nil => cases hmem
  | append_singleton lines line ih =>
    cases hfirst : readSlices lines with
    | error e =>
      unfold readSlices at h hfirst
      rw [List.foldlM_append, hfirst] at h
      cases h
    | ok before =>
      rw [readSlices_concat hfirst] at h
      rw [List.mem_append, List.mem_singleton] at hmem
      cases line with
      | blank =>
        obtain rfl : before = slices := by simpa [readLine] using h
        exact ih hfirst (by simpa using hmem)
      | malformed reason => cases h
      | value last =>
        obtain ⟨hsame, rfl⟩ := readLine_ok h
        rw [FMap.lookup_insert_eq]
        cases hmem with
        | inl hmem =>
          obtain ⟨existing, hexisting, hacct⟩ := ih hfirst hmem
          split
          . next hgeneration =>
            refine ⟨last, rfl, ?_⟩
            rw [← hacct, hsame existing (hgeneration ▸ hexisting)]
          . exact ⟨existing, hexisting, hacct⟩
        | inr hmem =>
          obtain rfl : slice = last := by simpa using hmem
          exact ⟨slice, by simp, rfl⟩

theorem record_conflict {home : Home} {slice existing : TaskBudgetSliceV1}
    (hstored : .value existing ∈ home.ledger slice.familyId)
    (hgeneration : existing.sliceGeneration = slice.sliceGeneration)
    (hconflict : ¬sameSliceAccounting existing slice)
    : ∃ e, home.recordTaskBudgetSlice slice = (home, .error e) := by
  unfold Home.recordTaskBudgetSlice
  split
  . exact ⟨_, rfl⟩
  . split
    . exact ⟨_, rfl⟩
    . next slices hread =>
      obtain ⟨found, hfound, hacct⟩ := lookup_of_mem hread hstored
      rw [hgeneration] at hfound
      have hdiffers : ¬sameSliceAccounting found slice := by
        rw [sameSliceAccounting_iff] at hconflict ⊢
        rw [hacct]
        exact hconflict
      rw [hfound]
      dsimp only
      rw [if_neg hdiffers]
      exact ⟨_, rfl⟩

theorem nodup_of_stores {lines : List (JsonLine TaskBudgetSliceV1)}
    {stored : List TaskBudgetSliceV1} (h : Stores lines stored)
    : stored.Nodup :=
  List.Nodup.of_map _ h.nodup

theorem status_distinct {home : Home} {familyId : String} {slices order : List TaskBudgetSliceV1}
    (hempty : home.ledger familyId = []) (horder : OneFamily familyId order)
    (hslices : OneFamily familyId slices) (hsame : ∀ slice, slice ∈ order ↔ slice ∈ slices)
    : status familyId (distinct order) = status familyId (distinct slices) := by
  have hstores := stores_recordAll hempty horder
  apply status_congr familyId hstores.nodup
  rw [List.perm_ext_iff_of_nodup (nodup_of_stores hstores)
    (nodup_of_stores (stores_recordAll hempty hslices))]
  intro slice
  rw [mem_distinct, mem_distinct, hsame]

theorem recorded_in_any_order
    : (∀ (home : Home) (familyId : String) (slices : List TaskBudgetSliceV1),
        home.ledger familyId = [] → OneFamily familyId slices
        → ∃ final, ∀ order, (∀ slice, slice ∈ order ↔ slice ∈ slices)
          → (home.recordAll order).taskBudgetStatus familyId = .ok final
            ∧ (∀ first slice later, order = first ++ slice :: later
              → ∃ status, ((home.recordAll first).recordTaskBudgetSlice slice).2 = .ok status
                ∧ (later = [] → status = final))
            ∧ ∀ first middle later, order = first ++ middle ++ later
              → ∃ before after, (home.recordAll first).taskBudgetStatus familyId = .ok before
                ∧ (home.recordAll (first ++ middle)).taskBudgetStatus familyId = .ok after
                ∧ ∀ limit, before.reaches limit → after.reaches limit)
      ∧ ∀ (home : Home) (slice existing : TaskBudgetSliceV1),
        .value existing ∈ home.ledger slice.familyId
        → existing.sliceGeneration = slice.sliceGeneration → ¬sameSliceAccounting existing slice
        → ∃ e, home.recordTaskBudgetSlice slice = (home, .error e) := by
  constructor
  . intro home familyId slices hempty hfamily
    refine ⟨status familyId (distinct slices), ?_⟩
    intro order hsame
    have horder := hfamily.sublist fun slice => (hsame slice).mp
    have hpart : ∀ first later, order = first ++ later → OneFamily familyId first := by
      intro first later heq
      apply horder.sublist
      intro slice hslice
      rw [heq]
      exact List.mem_append_left later hslice
    have hstatus : ∀ first later, order = first ++ later
        → (home.recordAll first).taskBudgetStatus familyId
          = .ok (status familyId (distinct first)) := by
      intro first later heq
      exact taskBudgetStatus_of_stores (stores_recordAll hempty (hpart first later heq))
    have hfinal := status_distinct hempty horder hfamily hsame
    refine ⟨?_, ?_, ?_⟩
    . rw [hstatus order [] (by simp), hfinal]
    . intro first slice later heq
      have hfirst := stores_recordAll hempty (hpart first (slice :: later) heq)
      have hnext := hpart (first ++ [slice]) later (by simpa using heq)
      refine ⟨_, (record_step hnext hfirst).1, ?_⟩
      intro hlater
      rw [← hfinal, heq, hlater]
    . intro first middle later heq
      obtain ⟨added, hadded⟩ := distinct_append first middle
      refine ⟨_, _, hstatus first (middle ++ later) (by simpa using heq),
        hstatus (first ++ middle) later heq, ?_⟩
      intro limit hlimit
      rw [← hadded]
      exact reaches_append familyId (distinct first) added limit hlimit
  . intro home slice existing hstored hgeneration hconflict
    exact record_conflict hstored hgeneration hconflict

def sampleFamily : String := String.ofList (List.replicate 64 'a')

def sampleSlice (sliceGeneration totalTokens : Nat) : TaskBudgetSliceV1 where
  schema := taskBudgetLedgerSchema
  familyId := sampleFamily
  sliceGeneration
  wallTimeMs := 10
  totalTokens
  progressDigest := String.ofList (List.replicate 64 'd')
  recoverySlice := false
  dispositionRecovery := false
  observedAtMs := 1

theorem sampleSlices_oneFamily : OneFamily sampleFamily [sampleSlice 0 20, sampleSlice 1 30] where
  valid := by decide +kernel
  family := by decide +kernel
  agree := by decide +kernel

theorem sampleSlices_in_any_order
    : (Home.empty.recordAll [sampleSlice 1 30, sampleSlice 0 20, sampleSlice 1 30]).taskBudgetStatus
          sampleFamily
        = (Home.empty.recordAll [sampleSlice 0 20, sampleSlice 1 30]).taskBudgetStatus sampleFamily
      ∧ ∃ e, (Home.empty.append (sampleSlice 0 20)).recordTaskBudgetSlice (sampleSlice 0 21)
        = (Home.empty.append (sampleSlice 0 20), .error e) := by
  obtain ⟨final, hfinal⟩ := recorded_in_any_order.1 Home.empty sampleFamily
    [sampleSlice 0 20, sampleSlice 1 30] rfl sampleSlices_oneFamily
  have hreplayed := hfinal [sampleSlice 1 30, sampleSlice 0 20, sampleSlice 1 30] (by
    intro slice
    simp only [List.mem_cons, List.not_mem_nil, or_false]
    tauto)
  have hplain := hfinal [sampleSlice 0 20, sampleSlice 1 30] fun _ => Iff.rfl
  refine ⟨hreplayed.1.trans hplain.1.symm, ?_⟩
  apply recorded_in_any_order.2 (Home.empty.append (sampleSlice 0 20)) (sampleSlice 0 21)
    (sampleSlice 0 20)
  . decide +kernel
  . rfl
  . decide +kernel

end TaskBudget
