import AgentHarness.Budget.Interleaving
import AgentHarness.Budget.Lemmas.Task
import Mathlib.Data.List.FinRange

/-!
Records of one task family side by side: the ledger stays readable when no call appends a slice
whose generation has got another accounting since, and is unreadable for good otherwise.
-/

namespace TaskBudget

def Readable (lines : List (JsonLine TaskBudgetSliceV1)) : Prop :=
  ∃ slices, readSlices lines = .ok slices

def Agrees (lines : List (JsonLine TaskBudgetSliceV1)) (slice : TaskBudgetSliceV1) : Prop :=
  ∀ existing, .value existing ∈ lines → existing.sliceGeneration = slice.sliceGeneration
    → sameSliceAccounting existing slice

theorem mem_of_lookup {lines : List (JsonLine TaskBudgetSliceV1)}
    {slices : FMap Nat TaskBudgetSliceV1} (h : readSlices lines = .ok slices) {generation : Nat}
    {slice : TaskBudgetSliceV1} (hlookup : slices.lookup generation = some slice)
    : .value slice ∈ lines ∧ slice.sliceGeneration = generation := by
  induction lines using List.reverseRecOn generalizing slices with
  | nil =>
    obtain rfl : ∅ = slices := by simpa [readSlices, pure, Except.pure] using h
    simp at hlookup
  | append_singleton lines line ih =>
    cases hfirst : readSlices lines with
    | error e =>
      unfold readSlices at h hfirst
      rw [List.foldlM_append, hfirst] at h
      cases h
    | ok before =>
      rw [readSlices_concat hfirst] at h
      cases line with
      | blank =>
        obtain rfl : before = slices := by simpa [readLine] using h
        obtain ⟨hmem, hgeneration⟩ := ih hfirst hlookup
        exact ⟨List.mem_append_left _ hmem, hgeneration⟩
      | malformed reason => cases h
      | value last =>
        obtain ⟨_, rfl⟩ := readLine_ok h
        rw [FMap.lookup_insert_eq] at hlookup
        split at hlookup
        . next hsame =>
          obtain rfl : last = slice := by simpa using hlookup
          exact ⟨by simp, hsame.symm⟩
        . obtain ⟨hmem, hgeneration⟩ := ih hfirst hlookup
          exact ⟨List.mem_append_left _ hmem, hgeneration⟩

theorem readable_concat_iff {lines : List (JsonLine TaskBudgetSliceV1)} {slice : TaskBudgetSliceV1}
    (h : Readable lines) (hvalid : validateSlice slice = .ok ())
    : Readable (lines ++ [.value slice]) ↔ Agrees lines slice := by
  obtain ⟨slices, hread⟩ := h
  unfold Readable
  rw [readSlices_concat hread]
  constructor
  . rintro ⟨later, hlater⟩ existing hline hgeneration
    obtain ⟨hsame, _⟩ := readLine_ok hlater
    obtain ⟨found, hfound, hacct⟩ := lookup_of_mem hread hline
    rw [sameSliceAccounting_iff, ← hacct]
    rw [hgeneration] at hfound
    exact hsame found hfound
  . intro hagrees
    refine ⟨slices.insert slice.sliceGeneration slice, ?_⟩
    unfold readLine
    dsimp only
    simp only [Except.bind_eq_ok, Except.require_eq_ok, Except.pure_eq_ok]
    refine ⟨(), hvalid, (), ?_, trivial⟩
    rw [Option.all_eq_true]
    intro existing hexisting
    obtain ⟨hmem, hgeneration⟩ := mem_of_lookup hread hexisting
    exact hagrees existing hmem hgeneration

theorem taskBudgetStatus_ok_iff {home : Home} {familyId : String}
    : (∃ status, home.taskBudgetStatus familyId = .ok status)
        ↔ Readable (home.ledger familyId) := by
  unfold Home.taskBudgetStatus Readable
  cases readSlices (home.ledger familyId) with
  | error e => simp [Except.map]
  | ok slices => simp [Except.map]

section

variable {ι : Type} [DecidableEq ι]

def AppendAgrees (slices : ι → TaskBudgetSliceV1)
    (state : Race.State Home (FMap Nat TaskBudgetSliceV1) ι) : Race.Action ι → Prop
  | .read _ => True
  | .write i => ∀ found, state.phase i = .holding found
    → Agrees (state.shared.ledger (slices i).familyId) (slices i)

abbrev Unconflicted (slices : ι → TaskBudgetSliceV1)
    (state : Race.State Home (FMap Nat TaskBudgetSliceV1) ι) (schedule : List (Race.Action ι))
    : Prop :=
  Run.Guarded (Race.step (interleaved slices)) (AppendAgrees slices) state schedule

def raced (slices : ι → TaskBudgetSliceV1)
    (state : Race.State Home (FMap Nat TaskBudgetSliceV1) ι) (schedule : List (Race.Action ι))
    : Race.State Home (FMap Nat TaskBudgetSliceV1) ι :=
  Run.exec (Race.step (interleaved slices)) state schedule

variable {slices : ι → TaskBudgetSliceV1} {familyId : String}
  {state : Race.State Home (FMap Nat TaskBudgetSliceV1) ι}

def Prepared (slices : ι → TaskBudgetSliceV1)
    (state : Race.State Home (FMap Nat TaskBudgetSliceV1) ι) : Prop :=
  ∀ i found, state.phase i = .holding found → validateSlice (slices i) = .ok ()

theorem validateSlice_of_readStep {slice : TaskBudgetSliceV1} {home : Home}
    {found : FMap Nat TaskBudgetSliceV1} (h : readStep slice home = some found)
    : validateSlice slice = .ok () := by
  unfold readStep at h
  split at h
  . cases h
  . next hvalid => exact hvalid

theorem Prepared.step (h : Prepared slices state) (action : Race.Action ι)
    : Prepared slices (Race.step (interleaved slices) state action) := by
  apply Race.step_cases (motive := Prepared slices)
  . exact h
  . intro i _ _ _ j found hj
    rw [Race.phase_enter] at hj
    split at hj
    . cases hj
    . exact h j found hj
  . intro i _ _ _ hfound j found hj
    rw [Race.phase_enter] at hj
    split at hj
    . next hij =>
      subst hij
      exact validateSlice_of_readStep hfound
    . exact h j found hj
  . intro i _ _ _ j found hj
    have hj : (if j = i then .finished else state.phase j) = .holding found := by
      simpa [Race.State.publish, Function.update_apply] using hj
    split at hj
    . cases hj
    . exact h j found hj

variable (hfamily : ∀ i, (slices i).familyId = familyId)
include hfamily

theorem readable_step_iff (hprepared : Prepared slices state)
    (hreadable : Readable (state.shared.ledger familyId)) (action : Race.Action ι)
    : Readable ((Race.step (interleaved slices) state action).shared.ledger familyId)
        ↔ AppendAgrees slices state action := by
  cases action with
  | read i =>
    have hshared : (Race.step (interleaved slices) state (.read i)).shared = state.shared := by
      unfold Race.step
      dsimp only
      split
      . split
        . rfl
        . rfl
      . rfl
      . rfl
    rw [hshared]
    exact iff_of_true hreadable trivial
  | write i =>
    cases hphase : state.phase i with
    | idle =>
      apply iff_of_true
      . simpa [Race.step, hphase] using hreadable
      . simp [AppendAgrees, hphase]
    | holding found =>
      have hvalid := hprepared i found hphase
      have hledger : (Race.step (interleaved slices) state (.write i)).shared.ledger familyId
          = state.shared.ledger familyId ++ [.value (slices i)] := by
        rw [← hfamily i, ← ledger_append]
        simp [Race.step, hphase, interleaved, Race.State.publish]
      rw [hledger, readable_concat_iff hreadable hvalid]
      simp [AppendAgrees, hphase, hfamily]
    | finished =>
      apply iff_of_true
      . simpa [Race.step, hphase] using hreadable
      . simp [AppendAgrees, hphase]

theorem readable_run_iff (hprepared : Prepared slices state)
    (hreadable : Readable (state.shared.ledger familyId)) (schedule : List (Race.Action ι))
    : (∀ first later, schedule = first ++ later
          → Readable ((raced slices state first).shared.ledger familyId))
        ↔ Unconflicted slices state schedule := by
  induction schedule generalizing state with
  | nil =>
    apply iff_of_true
    . intro first later heq
      obtain ⟨rfl, _⟩ := List.append_eq_nil_iff.mp heq.symm
      exact hreadable
    . exact trivial
  | cons action schedule ih =>
    have hstep := readable_step_iff hfamily hprepared hreadable action
    constructor
    . intro hall
      have hnext := hall [action] schedule rfl
      refine ⟨hstep.mp hnext, ?_⟩
      apply (ih (hprepared.step action) hnext).mp
      intro first later heq
      exact hall (action :: first) later (by rw [heq, List.cons_append])
    . rintro ⟨hagrees, hrest⟩ first later heq
      cases first with
      | nil => exact hreadable
      | cons head first =>
        obtain ⟨rfl, hlater⟩ := List.cons.inj heq
        have hnext := hstep.mpr hagrees
        exact (ih (hprepared.step action) hnext).mpr hrest first later hlater

end

/-
Records of one family, interleaved in any way on a ledger that can be read: it can be read at every
later time exactly when no call appends a slice whose generation was given another accounting after
the call had looked.
-/
theorem readable_forever_iff_unconflicted {ι : Type} [DecidableEq ι]
    {slices : ι → TaskBudgetSliceV1} {familyId : String}
    (hfamily : ∀ i, (slices i).familyId = familyId) {home : Home}
    (hreadable : Readable (home.ledger familyId)) (schedule : List (Race.Action ι))
    : (∀ first later, schedule = first ++ later →
        let home := (raced slices (Race.start home) first).shared
        (∃ found, readSlices (home.ledger familyId) = .ok found)
          ∧ ∃ status, home.taskBudgetStatus familyId = .ok status)
      ↔ Unconflicted slices (Race.start home) schedule := by
  have hprepared : Prepared slices (Race.start home) := by
    intro i found hholding
    simp [Race.start] at hholding
  rw [← readable_run_iff hfamily hprepared hreadable schedule]
  apply forall₃_congr
  intro first later _
  dsimp only
  rw [taskBudgetStatus_ok_iff]
  exact and_self_iff

def sampleSlices (i : Fin 2) : TaskBudgetSliceV1 :=
  sampleSlice 0 (20 + i)

theorem sampleSlices_family (i : Fin 2) : (sampleSlices i).familyId = sampleFamily := rfl

theorem sampleSlices_refused
    : ∃ status, (raced sampleSlices (Race.start Home.empty)
        [.read 0, .write 0, .read 1, .write 1]).shared.taskBudgetStatus sampleFamily = .ok status := by
  have hreadable : Readable (Home.empty.ledger sampleFamily) := ⟨∅, rfl⟩
  have hunconflicted : Unconflicted sampleSlices (Race.start Home.empty)
      [.read 0, .write 0, .read 1, .write 1] := by
    refine ⟨trivial, ?_, trivial, ?_, trivial⟩
    . intro found _ existing hexisting
      cases hexisting
    . intro found hholding
      have hfinished : (raced sampleSlices (Race.start Home.empty)
          [.read 0, .write 0, .read 1]).phase 1 = .finished := by
        decide +kernel
      cases hfinished.symm.trans hholding
  exact ((readable_forever_iff_unconflicted sampleSlices_family hreadable _).mpr
    hunconflicted _ [] rfl).2

-- both calls look before one appends, and the ledger holds two accountings of a generation
theorem sampleSlices_poison
    : Readable (Home.empty.ledger sampleFamily)
      ∧ ¬∃ status, (raced sampleSlices (Race.start Home.empty)
        [.read 0, .read 1, .write 0, .write 1]).shared.taskBudgetStatus sampleFamily = .ok status := by
  refine ⟨⟨∅, rfl⟩, ?_⟩
  have hstatus : ((raced sampleSlices (Race.start Home.empty)
      [.read 0, .read 1, .write 0, .write 1]).shared.taskBudgetStatus sampleFamily).isOk = false := by
    decide +kernel
  rintro ⟨status, hok⟩
  rw [hok] at hstatus
  cases hstatus

end TaskBudget

/-!
Evaluations of one campaign side by side: the totals are those of the calls one after another when
no receipt is appended between a call's read and its append, and they fall short otherwise.
-/

namespace GoalBudget

theorem readBudgetReceipts_go_append (line : Nat) (first later : Ledger)
    : readBudgetReceipts.go line (first ++ later) = (do
        let receipts ← readBudgetReceipts.go line first
        let added ← readBudgetReceipts.go (line + first.length) later
        return receipts ++ added) := by
  induction first generalizing line with
  | nil =>
    cases hlater : readBudgetReceipts.go line later with
    | error e =>
      simp only [List.nil_append, hlater]
      rfl
    | ok added =>
      simp only [List.nil_append, hlater]
      rfl
  | cons content first ih =>
    rw [List.cons_append, readBudgetReceipts.go, readBudgetReceipts.go, ih, List.length_cons,
      Nat.add_right_comm, Nat.add_assoc]
    cases readBudgetReceipt line content with
    | error e => rfl
    | ok receipt =>
      cases readBudgetReceipts.go (line + 1) first with
      | error e => rfl
      | ok receipts =>
        cases readBudgetReceipts.go (line + (first.length + 1)) later with
        | error e => rfl
        | ok added =>
          show Except.ok _ = Except.ok _
          rw [List.append_assoc]

theorem readBudgetReceipts_concat {lines : Ledger} {receipts : List GoalCampaignBudgetReceiptV1}
    {receipt : GoalCampaignBudgetReceiptV1} (h : readBudgetReceipts lines = .ok receipts)
    (hschema : receipt.schema = goalCampaignBudgetSchema)
    : readBudgetReceipts (lines ++ [.value receipt]) = .ok (receipts ++ [receipt]) := by
  unfold readBudgetReceipts at h ⊢
  rw [readBudgetReceipts_go_append, h]
  unfold readBudgetReceipts.go readBudgetReceipt readBudgetReceipts.go
  dsimp only
  rw [if_pos hschema]
  rfl

theorem readStep_eq_some {call : Call} {lines : Ledger}
    {receipts : List GoalCampaignBudgetReceiptV1}
    : readStep call lines = some receipts
        ↔ call.isValid ∧ readBudgetReceipts lines = .ok receipts
          ∧ ∀ receipt ∈ receipts, ¬isReplay call.input receipt := by
  rw [isValid_iff]
  unfold readStep
  cases call.policy.validate with
  | error e => simp
  | ok =>
    cases call.input.validate with
    | error e => simp
    | ok =>
      dsimp only
      cases readBudgetReceipts lines with
      | error e => simp
      | ok found =>
        dsimp only
        cases hfind : found.reverse.find? (isReplay call.input) with
        | some existing =>
          have hmem := List.mem_reverse.mp (List.mem_of_find?_eq_some hfind)
          have hreplay := List.find?_some hfind
          simp only [true_and, Except.ok.injEq, reduceCtorEq, false_iff, not_and]
          rintro rfl hnone
          exact hnone existing hmem hreplay
        | none =>
          rw [List.find?_eq_none] at hfind
          simp only [true_and, Except.ok.injEq, Option.some.injEq]
          constructor
          . rintro rfl
            refine ⟨rfl, ?_⟩
            intro receipt hreceipt
            exact hfind receipt (List.mem_reverse.mpr hreceipt)
          . exact fun h => h.1

/-
Calls of one family with a key each, on a ledger that can be read.
-/
section

variable {ι : Type} {calls : ι → Call} {family : String} {lines : Ledger}
  {receipts : List GoalCampaignBudgetReceiptV1}

def Appends (calls : ι → Call) (receipts : List GoalCampaignBudgetReceiptV1) (i : ι) : Prop :=
  (calls i).isValid ∧ ∀ receipt ∈ receipts, ¬isReplay (calls i).input receipt

instance (receipts : List GoalCampaignBudgetReceiptV1) (i : ι)
    : Decidable (Appends calls receipts i) :=
  inferInstanceAs (Decidable (_ ∧ _))

structure Added (calls : ι → Call) (receipts : List GoalCampaignBudgetReceiptV1) (lines : Ledger)
    (order : List ι) (added : List GoalCampaignBudgetReceiptV1) : Prop where
  read : readBudgetReceipts lines = .ok (receipts ++ added)
  keys : added.map (·.key)
    = (order.filter fun i => Appends calls receipts i).map fun i => (calls i).input.key

theorem added_nil (h : readBudgetReceipts lines = .ok receipts)
    : Added calls receipts lines [] [] where
  read := by simpa using h
  keys := rfl

variable {order : List ι} {added : List GoalCampaignBudgetReceiptV1} {i : ι}

theorem Added.length (h : Added calls receipts lines order added)
    : added.length = order.countP fun i => Appends calls receipts i := by
  have hlength := congrArg List.length h.keys
  rw [List.length_map, List.length_map] at hlength
  rw [hlength, List.countP_eq_length_filter]

theorem Added.readStep (h : Added calls receipts lines order added)
    (hkeys : Function.Injective fun i => (calls i).input.key) (hi : i ∉ order)
    : GoalBudget.readStep (calls i) lines
        = if Appends calls receipts i then some (receipts ++ added) else none := by
  have hadded : ∀ receipt ∈ added, ¬isReplay (calls i).input receipt := by
    intro receipt hreceipt hreplay
    have hkey : (calls i).input.key ∈ added.map (·.key) :=
      List.mem_map.mpr ⟨receipt, hreceipt, (isReplay_iff.mp hreplay).2⟩
    rw [h.keys, List.mem_map] at hkey
    obtain ⟨j, hj, hsame⟩ := hkey
    rw [hkeys hsame] at hj
    exact hi (List.mem_of_mem_filter hj)
  split
  . next happends =>
    rw [readStep_eq_some, List.forall_mem_append]
    exact ⟨happends.1, h.read, happends.2, hadded⟩
  . next hnone =>
    rw [Option.eq_none_iff_forall_ne_some]
    intro found hfound
    rw [readStep_eq_some, h.read, Except.ok.injEq] at hfound
    obtain ⟨hvalid, rfl, hfresh⟩ := hfound
    apply hnone
    refine ⟨hvalid, ?_⟩
    intro receipt hreceipt
    exact hfresh receipt (List.mem_append_left added hreceipt)

theorem Added.append (h : Added calls receipts lines order added)
    (happends : Appends calls receipts i) (found : List GoalCampaignBudgetReceiptV1)
    : Added calls receipts (appendStep (calls i) found lines) (order ++ [i])
        (added ++ [nextReceipt (calls i).policy (calls i).input
          (latestOf found (calls i).input.campaignFamilyId)]) where
  read := by
    unfold appendStep
    rw [readBudgetReceipts_concat h.read (schema_nextReceipt _ _ _), List.append_assoc]
  keys := by
    rw [List.map_append, h.keys, List.map_singleton, key_nextReceipt, List.filter_append,
      List.map_append]
    simp [happends]

theorem Added.skip (h : Added calls receipts lines order added)
    (hnone : ¬Appends calls receipts i)
    : Added calls receipts lines (order ++ [i]) added where
  read := h.read
  keys := by
    rw [h.keys, List.filter_append]
    simp [hnone]

def slicesOf (family : String) (receipts : List GoalCampaignBudgetReceiptV1) : Nat :=
  ((latestOf receipts family).map (·.slicesObserved)).getD 0

theorem slicesOf_concat {input : GoalCampaignBudgetInput} (policy : GoalCampaignPolicyV1)
    (hfamily : input.campaignFamilyId = family)
    (receipts found : List GoalCampaignBudgetReceiptV1)
    : slicesOf family (receipts ++ [nextReceipt policy input
        (latestOf found input.campaignFamilyId)])
        = Saturating.add (slicesOf family found) 1 := by
  unfold slicesOf
  rw [latestOf_concat, family_nextReceipt, if_pos hfamily, hfamily]
  rfl

section

variable (hkeys : Function.Injective fun i => (calls i).input.key)
  (hfamily : ∀ i, (calls i).input.campaignFamilyId = family)
include hkeys hfamily

theorem added_exec (hread : readBudgetReceipts lines = .ok receipts) (hnodup : order.Nodup)
    (hbound : slicesOf family receipts + order.length ≤ u64Max)
    : ∃ added, Added calls receipts (Run.exec step lines (order.map calls)) order added
        ∧ slicesOf family (receipts ++ added) = slicesOf family receipts + added.length := by
  induction order using List.reverseRecOn with
  | nil => exact ⟨[], added_nil hread, by simp⟩
  | append_singleton order i ih =>
    rw [List.length_append, List.length_singleton] at hbound
    rw [List.nodup_append] at hnodup
    obtain ⟨added, hadded, hslices⟩ := ih hnodup.1 (by omega)
    have hi : i ∉ order := fun hi => hnodup.2.2 i hi i (List.mem_singleton_self i) rfl
    have hlength : added.length ≤ order.length := by
      rw [hadded.length]
      exact List.countP_le_length
    rw [List.map_append, List.map_singleton, Run.exec_concat, ← atOnce_interleaved,
      Race.Calls.atOnce]
    unfold interleaved
    dsimp only
    rw [hadded.readStep hkeys hi]
    by_cases happends : Appends calls receipts i
    . rw [if_pos happends]
      refine ⟨_, hadded.append happends _, ?_⟩
      rw [← List.append_assoc, slicesOf_concat _ (hfamily i), hslices, List.length_append,
        List.length_singleton]
      unfold Saturating.add
      omega
    . rw [if_neg happends]
      exact ⟨added, hadded.skip happends, hslices⟩

end

/-
The calls side by side: what a call holds is the ledger at an earlier time, and no receipt counts
more slices than there were appends up to it.
-/
structure Raced (calls : ι → Call) (family : String) (receipts : List GoalCampaignBudgetReceiptV1)
    (state : Race.State Ledger (List GoalCampaignBudgetReceiptV1) ι) (order : List ι)
    (added : List GoalCampaignBudgetReceiptV1) : Prop where
  rows : Added calls receipts state.shared order added
  ended : Race.Ended state order
  holding : ∀ i found, state.phase i = .holding found
    → Appends calls receipts i ∧ receipts <+: found ∧ found <+: receipts ++ added
  bound : ∀ found, receipts <+: found → found <+: receipts ++ added
    → slicesOf family found + receipts.length ≤ slicesOf family receipts + found.length

def Short (family : String) (receipts added : List GoalCampaignBudgetReceiptV1) : Prop :=
  slicesOf family (receipts ++ added) < slicesOf family receipts + added.length

theorem raced_start (h : readBudgetReceipts lines = .ok receipts)
    : Raced calls family receipts (Race.start lines) [] [] where
  rows := added_nil h
  ended := Race.ended_start lines
  holding i found hholding := by simp [Race.start] at hholding
  bound found hfirst hlast := by
    rw [List.append_nil] at hlast
    rw [hfirst.eq_of_length_le hlast.length_le]

section

variable {state : Race.State Ledger (List GoalCampaignBudgetReceiptV1) ι}
  {found : List GoalCampaignBudgetReceiptV1} (h : Raced calls family receipts state order added)
include h

theorem Raced.notMem (hi : state.phase i ≠ .finished) : i ∉ order := by
  rw [h.ended.finished]
  exact hi

variable (hfamily : ∀ i, (calls i).input.campaignFamilyId = family)

include hfamily in
theorem Raced.slicesOf_write (hholding : state.phase i = .holding found)
    : slicesOf family (receipts ++ added ++ [nextReceipt (calls i).policy (calls i).input
        (latestOf found (calls i).input.campaignFamilyId)]) + receipts.length
        ≤ slicesOf family receipts + found.length + 1 := by
  obtain ⟨_, hfirst, hlast⟩ := h.holding i found hholding
  have hbound := h.bound found hfirst hlast
  rw [slicesOf_concat _ (hfamily i)]
  unfold Saturating.add
  omega

include hfamily in
theorem Raced.short_write (hholding : state.phase i = .holding found)
    (hlost : found ≠ receipts ++ added ∨ Short family receipts added)
    : Short family receipts (added ++ [nextReceipt (calls i).policy (calls i).input
        (latestOf found (calls i).input.campaignFamilyId)]) := by
  have hslices := h.slicesOf_write hfamily hholding
  obtain ⟨_, _, hfound⟩ := h.holding i found hholding
  unfold Short at hlost ⊢
  rw [← List.append_assoc, List.length_append, List.length_singleton]
  by_cases hsame : found = receipts ++ added
  . have hshort := hlost.resolve_left (not_not.mpr hsame)
    rw [slicesOf_concat _ (hfamily i), hsame]
    unfold Saturating.add
    omega
  . have hlength : found.length < (receipts ++ added).length := by
      apply lt_of_le_of_ne hfound.length_le
      intro hlength
      exact hsame (hfound.eq_of_length hlength)
    rw [List.length_append] at hlength
    omega

variable [DecidableEq ι]

theorem Raced.return (hidle : state.phase i = .idle) (hnone : ¬Appends calls receipts i)
    : Raced calls family receipts (state.enter i .finished) (order ++ [i]) added where
  rows := h.rows.skip hnone
  ended := h.ended.finish (by simp [hidle]) rfl
  holding j found hj := by
    rw [Race.phase_enter] at hj
    split at hj
    . cases hj
    . exact h.holding j found hj
  bound := h.bound

theorem Raced.hold (hidle : state.phase i = .idle) (happends : Appends calls receipts i)
    : Raced calls family receipts (state.enter i (.holding (receipts ++ added))) order added where
  rows := h.rows
  ended := h.ended.hold hidle
  holding j found hj := by
    rw [Race.phase_enter] at hj
    split at hj
    . next hij =>
      subst hij
      obtain rfl : receipts ++ added = found := by simpa using hj
      exact ⟨happends, List.prefix_append receipts added, List.prefix_refl _⟩
    . exact h.holding j found hj
  bound := h.bound

include hfamily

theorem Raced.write (hholding : state.phase i = .holding found)
    : Raced calls family receipts
        (state.publish i (appendStep (calls i) found state.shared)) (order ++ [i])
        (added ++ [nextReceipt (calls i).policy (calls i).input
          (latestOf found (calls i).input.campaignFamilyId)]) where
  rows := h.rows.append (h.holding i found hholding).1 found
  ended := h.ended.finish (by simp [hholding]) rfl
  holding j found hj := by
    have hj : (if j = i then .finished else state.phase j) = .holding found := by
      simpa [Race.State.publish, Function.update_apply] using hj
    split at hj
    . cases hj
    . obtain ⟨happends, hfirst, hlast⟩ := h.holding j found hj
      refine ⟨happends, hfirst, hlast.trans ?_⟩
      rw [← List.append_assoc]
      exact List.prefix_append _ _
  bound later hfirst hlast := by
    have hslices := h.slicesOf_write hfamily hholding
    obtain ⟨_, _, hfound⟩ := h.holding i found hholding
    have hlength := hfound.length_le
    rw [← List.append_assoc, List.prefix_concat_iff] at hlast
    cases hlast with
    | inl hall =>
      rw [hall, List.length_append, List.length_singleton]
      omega
    | inr hlast => exact h.bound later hfirst hlast

variable (hkeys : Function.Injective fun i => (calls i).input.key)
include hkeys

theorem Raced.step (action : Race.Action ι)
    : ∃ order later, Raced calls family receipts
          (Race.step (interleaved calls) state action) order later
        ∧ (¬Race.Fresh (interleaved calls) state action ∨ Short family receipts added
          → Short family receipts later) := by
  have hread : ∀ i, state.phase i ≠ .finished → readStep (calls i) state.shared
      = if Appends calls receipts i then some (receipts ++ added) else none := by
    intro i hi
    exact h.rows.readStep hkeys (h.notMem hi)
  by_cases hfresh : Race.Fresh (interleaved calls) state action
  . simp only [hfresh, not_true_eq_false, false_or]
    apply Race.step_cases (motive := fun later => ∃ order rows, Raced calls family receipts later
      order rows ∧ (Short family receipts added → Short family receipts rows))
    . exact ⟨order, added, h, id⟩
    . intro i _ hidle hnone
      have hskip : ¬Appends calls receipts i := by
        intro happends
        have hsome := hread i (by simp [hidle])
        rw [if_pos happends] at hsome
        cases hsome.symm.trans hnone
      exact ⟨_, added, h.return hidle hskip, id⟩
    . intro i found _ hidle hfound
      have hsome := (hread i (by simp [hidle])).symm.trans hfound
      split at hsome
      . next happends =>
        obtain rfl : receipts ++ added = found := by simpa using hsome
        exact ⟨order, added, h.hold hidle happends, id⟩
      . cases hsome
    . intro i found _ hholding
      refine ⟨_, _, h.write hfamily hholding, ?_⟩
      intro hshort
      exact h.short_write hfamily hholding (.inr hshort)
  . cases action with
    | read i => exact absurd trivial hfresh
    | write i =>
      simp only [Race.Fresh, not_forall] at hfresh
      obtain ⟨found, hholding, hstale⟩ := hfresh
      have hchanged : found ≠ receipts ++ added := by
        intro hsame
        apply hstale
        have hsome := hread i (by simp [hholding])
        rw [if_pos (h.holding i found hholding).1, ← hsame] at hsome
        exact hsome
      have hstep : Race.step (interleaved calls) state (.write i)
          = state.publish i (appendStep (calls i) found state.shared) := by
        simp [Race.step, hholding, interleaved]
      rw [hstep]
      refine ⟨_, _, h.write hfamily hholding, ?_⟩
      intro _
      exact h.short_write hfamily hholding (.inl hchanged)

end

section

variable [DecidableEq ι] (hkeys : Function.Injective fun i => (calls i).input.key)
  (hfamily : ∀ i, (calls i).input.campaignFamilyId = family)
include hkeys hfamily

theorem Raced.exec {state : Race.State Ledger (List GoalCampaignBudgetReceiptV1) ι}
    (h : Raced calls family receipts state order added) (schedule : List (Race.Action ι))
    : ∃ order later, Raced calls family receipts
          (Run.exec (Race.step (interleaved calls)) state schedule) order later
        ∧ (¬Run.Guarded (Race.step (interleaved calls)) (Race.Fresh (interleaved calls)) state
            schedule ∨ Short family receipts added
          → Short family receipts later) := by
  induction schedule generalizing state order added with
  | nil => exact ⟨order, added, h, by simp [Run.Guarded]⟩
  | cons action schedule ih =>
    obtain ⟨order, middle, hmiddle, hshort⟩ := h.step hfamily hkeys action
    obtain ⟨order, later, hlater, hshorter⟩ := ih hmiddle
    refine ⟨order, later, hlater, ?_⟩
    intro hlost
    apply hshorter
    rw [Run.Guarded, not_and_or] at hlost
    tauto

end

end

def accounted (lines : Ledger) (family : String) : Option (Nat × Nat) :=
  match readBudgetReceipts lines with
  | .error _ => none
  | .ok receipts =>
    (latestOf receipts family).map fun receipt =>
      (receipt.slicesObserved, receipt.totalTokensObserved)

def sliceCount (lines : Ledger) (family : String) : Nat :=
  ((accounted lines family).map (·.1)).getD 0

theorem sliceCount_eq {lines : Ledger} {receipts : List GoalCampaignBudgetReceiptV1}
    (h : readBudgetReceipts lines = .ok receipts) (family : String)
    : sliceCount lines family = slicesOf family receipts := by
  unfold sliceCount accounted
  rw [h]
  dsimp only
  rw [Option.map_map]
  rfl

section

variable {n : Nat}

def raced (lines : Ledger) (calls : Fin n → Call) (schedule : List (Race.Action (Fin n)))
    : Race.State Ledger (List GoalCampaignBudgetReceiptV1) (Fin n) :=
  Run.exec (Race.step (interleaved calls)) (Race.start lines) schedule

abbrev Unraced (lines : Ledger) (calls : Fin n → Call) (schedule : List (Race.Action (Fin n)))
    : Prop :=
  Run.Guarded (Race.step (interleaved calls)) (Race.Fresh (interleaved calls)) (Race.start lines)
    schedule

def SequentialTotals (family : String) (lines : Ledger) (calls : Fin n → Call) (later : Ledger)
    : Prop :=
  ∃ order : List (Fin n), order.Perm (List.finRange n)
    ∧ accounted later family = accounted (Run.exec step lines (order.map calls)) family

variable {lines : Ledger} {calls : Fin n → Call} {schedule : List (Race.Action (Fin n))}
  {family : String}

theorem perm_finRange {ρ : Type} {state : Race.State Ledger ρ (Fin n)} {order : List (Fin n)}
    (hended : Race.Ended state order) (hfinished : ∀ i, state.phase i = .finished)
    : order.Perm (List.finRange n) := by
  rw [List.perm_ext_iff_of_nodup hended.nodup (List.nodup_finRange n)]
  intro i
  simp [hended.finished, hfinished]

theorem sequentialTotals_of_unraced (hfinished : ∀ i, (raced lines calls schedule).phase i = .finished)
    (h : Unraced lines calls schedule)
    : SequentialTotals family lines calls (raced lines calls schedule).shared := by
  obtain ⟨order, hended, hshared⟩ := Race.exec_eq_atOnce h
  refine ⟨order, perm_finRange hended hfinished, ?_⟩
  have hsteps : (interleaved calls).atOnce = fun lines i => step lines (calls i) := by
    funext lines i
    exact atOnce_interleaved calls lines i
  unfold raced
  rw [hshared, hsteps]
  unfold Run.exec
  rw [List.foldl_map]

theorem unraced_of_unreadable {e : IoError} (h : readBudgetReceipts lines = .error e)
    : Unraced lines calls schedule := by
  apply Run.guarded_of_invariant fun state =>
    state.shared = lines ∧ ∀ i found, state.phase i ≠ .holding found
  . rintro state action ⟨hshared, hnone⟩
    have hread : ∀ i, (interleaved calls).read i state.shared = none := by
      intro i
      rw [Option.eq_none_iff_forall_ne_some, hshared]
      intro found hfound
      cases (readStep_eq_some.mp hfound).2.1.symm.trans h
    constructor
    . cases action with
      | read i => exact trivial
      | write i =>
        intro found hholding
        exact absurd hholding (hnone i found)
    . apply Race.step_cases (motive := fun later =>
        later.shared = lines ∧ ∀ i found, later.phase i ≠ .holding found)
      . exact ⟨hshared, hnone⟩
      . intro i _ _ _
        refine ⟨hshared, ?_⟩
        intro j found
        rw [Race.phase_enter]
        split
        . simp
        . exact hnone j found
      . intro i found _ _ hfound
        cases (hread i).symm.trans hfound
      . intro i found _ hholding
        exact absurd hholding (hnone i found)
  . simp [Race.start]

theorem unraced_of_sequentialTotals (hfamily : ∀ i, (calls i).input.campaignFamilyId = family)
    (hkeys : Function.Injective fun i => (calls i).input.key)
    (hfinished : ∀ i, (raced lines calls schedule).phase i = .finished)
    (hbound : sliceCount lines family + n ≤ u64Max)
    (h : SequentialTotals family lines calls (raced lines calls schedule).shared)
    : Unraced lines calls schedule := by
  cases hread : readBudgetReceipts lines with
  | error e => exact unraced_of_unreadable hread
  | ok receipts =>
    by_contra hraced
    obtain ⟨sequence, hperm, hsame⟩ := h
    obtain ⟨order, later, hlater, hshort⟩ :=
      (raced_start hread).exec hkeys hfamily schedule
    have hshort : Short family receipts later := hshort (.inl hraced)
    rw [sliceCount_eq hread] at hbound
    obtain ⟨added, hadded, hcount⟩ := added_exec hkeys hfamily hread
      (hperm.nodup_iff.mpr (List.nodup_finRange n)) (by simpa [hperm.length_eq] using hbound)
    have hlength : later.length = added.length := by
      rw [hlater.rows.length, hadded.length]
      apply List.Perm.countP_eq
      exact (perm_finRange hlater.ended hfinished).trans hperm.symm
    have hslices : slicesOf family (receipts ++ later) = slicesOf family (receipts ++ added) := by
      rw [← sliceCount_eq hlater.rows.read, ← sliceCount_eq hadded.read]
      unfold sliceCount
      unfold raced at hsame
      rw [hsame]
    unfold Short at hshort
    omega

/-
Evaluations of one family with distinct keys, interleaved in any way: when every call appends before
another one has since its read, the totals are those of a sequential execution; otherwise they are
not, as long as the counters do not saturate.
-/
theorem totals_sequential_iff_unraced (hfamily : ∀ i, (calls i).input.campaignFamilyId = family)
    (hkeys : Function.Injective fun i => (calls i).input.key)
    (hfinished : ∀ i, (raced lines calls schedule).phase i = .finished)
    : (Unraced lines calls schedule
        → SequentialTotals family lines calls (raced lines calls schedule).shared)
      ∧ (sliceCount lines family + n ≤ u64Max
        → SequentialTotals family lines calls (raced lines calls schedule).shared
        → Unraced lines calls schedule) := by
  constructor
  . exact sequentialTotals_of_unraced hfinished
  . exact unraced_of_sequentialTotals hfamily hkeys hfinished

def sampleCalls (i : Fin 2) : Call :=
  { sampleCall with input := { sampleCall.input with sourceSliceGeneration := i } }

theorem sampleCalls_family (i : Fin 2)
    : (sampleCalls i).input.campaignFamilyId = "family" := rfl

theorem sampleCalls_keys : Function.Injective fun i => (sampleCalls i).input.key := by
  intro i j h
  have hgeneration : (i : Nat) = j := congrArg (fun key : Key => key.2.1) h
  omega

theorem sampleCalls_one_after_another
    : SequentialTotals "family" [] sampleCalls
        (raced [] sampleCalls [.read 1, .write 1, .read 0, .write 0]).shared :=
  (totals_sequential_iff_unraced sampleCalls_family sampleCalls_keys (by decide +kernel)).1
    (by decide +kernel)

theorem sampleCalls_lost
    : (∀ i, (sampleCalls i).input.campaignFamilyId = "family")
      ∧ (Function.Injective fun i => (sampleCalls i).input.key)
      ∧ (∀ i, (raced [] sampleCalls [.read 0, .read 1, .write 0, .write 1]).phase i = .finished)
      ∧ ¬SequentialTotals "family" [] sampleCalls
        (raced [] sampleCalls [.read 0, .read 1, .write 0, .write 1]).shared := by
  have hfinished : ∀ i,
      (raced [] sampleCalls [.read 0, .read 1, .write 0, .write 1]).phase i = .finished := by
    decide +kernel
  refine ⟨sampleCalls_family, sampleCalls_keys, hfinished, ?_⟩
  intro h
  have hunraced := unraced_of_sequentialTotals sampleCalls_family sampleCalls_keys hfinished
    (by decide +kernel) h
  exact absurd hunraced (by decide +kernel)

end

end GoalBudget
