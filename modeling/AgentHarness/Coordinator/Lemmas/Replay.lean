import AgentHarness.Coordinator.Lemmas.Wait
import Mathlib.Data.String.Basic

/-!
What a stored wait answers to a repeated creation: the canonical form of the children does not depend
on their order, but the comparison also reads the state and the times.
-/

namespace Text

theorem le_iff {left right : String} : le left right ↔ left ≤ right := by
  unfold le
  rw [not_lt]

instance : Std.Total le where
  total left right := by
    rw [le_iff, le_iff]
    exact le_total left right

instance : IsTrans String le where
  trans left middle right := by
    rw [le_iff, le_iff, le_iff]
    exact le_trans

instance : Std.Antisymm le where
  antisymm left right := by
    rw [le_iff, le_iff]
    exact le_antisymm

theorem insertionSort_eq_of_perm {xs ys : List String} (h : xs.Perm ys)
    : xs.insertionSort le = ys.insertionSort le := by
  apply List.Perm.eq_of_pairwise' (List.pairwise_insertionSort le xs)
    (List.pairwise_insertionSort le ys)
  calc
    (xs.insertionSort le).Perm xs := List.perm_insertionSort le xs
    xs.Perm ys := h
    ys.Perm (ys.insertionSort le) := (List.perm_insertionSort le ys).symm

end Text

namespace Coordinator

theorem canonicalChildren_ok {children canonical : List String}
    (h : canonicalChildren children = .ok canonical)
    : canonical = children.insertionSort Text.le := by
  unfold canonicalChildren at h
  simp only [Except.bind_eq_ok, Except.pure_eq_ok] at h
  obtain ⟨_, _, _, _, _, _, _, _, rfl⟩ := h
  rfl

theorem canonicalChildren_of_perm {children others canonical : List String}
    (hperm : others.Perm children) (h : canonicalChildren children = .ok canonical)
    : canonicalChildren others = .ok canonical := by
  unfold canonicalChildren at h ⊢
  simp only [Except.bind_eq_ok, Except.pure_eq_ok, Except.require_eq_ok, Except.forM_eq_ok,
    decide_eq_true_eq] at h ⊢
  obtain ⟨_, hsome, _, hlength, _, hvalid, _, hnodup, hcanonical⟩ := h
  have hsort := Text.insertionSort_eq_of_perm hperm
  refine ⟨.unit, ?_, .unit, ?_, .unit, ?_, .unit, ?_, ?_⟩
  . intro hnil
    rw [hnil, List.nil_perm] at hperm
    exact hsome hperm
  . rw [hperm.length_eq]
    exact hlength
  . intro child hchild
    exact hvalid child (hperm.mem_iff.mp hchild)
  . rw [hsort]
    exact hnodup
  . rw [hsort]
    exact hcanonical

variable {wait : WorkerCoordinatorWaitV1} {options : WorkerCoordinatorWaitCreateOptionsV1}
  {waits : Waits}

theorem canonicalWait_of_perm {others : WorkerCoordinatorWaitCreateOptionsV1}
    (hwaitId : others.waitId = options.waitId) (howner : others.owner = options.owner)
    (hgroup : others.childGroupId = options.childGroupId)
    (hperm : others.expectedChildJobIds.Perm options.expectedChildJobIds) (hnow : 0 ≤ others.nowMs)
    (h : canonicalWait options = .ok wait)
    : canonicalWait others
        = .ok { wait with createdAtMs := others.nowMs, updatedAtMs := others.nowMs } := by
  unfold canonicalWait at h ⊢
  simp only [Except.bind_eq_ok, Except.pure_eq_ok] at h ⊢
  obtain ⟨_, hid, _, hgroupId, _, _, _, hvalid, parentQueueId, hparent, coordinatorKey, hkey,
    childIds, hchildren, rfl⟩ := h
  rw [hwaitId, howner, hgroup]
  refine ⟨.unit, hid, .unit, hgroupId, .unit, ?_, .unit, hvalid, parentQueueId, hparent,
    coordinatorKey, hkey, childIds, ?_, rfl⟩
  . simp [Wait.requireNow, Except.require_eq_ok, hnow]
  . exact canonicalChildren_of_perm hperm hchildren

def WorkerCoordinatorWaitV1.asNew (self : WorkerCoordinatorWaitV1) (nowMs : Int)
    : WorkerCoordinatorWaitV1 :=
  { self with
    state := .waitingForChildren
    resumeIntentId := none
    createdAtMs := nowMs
    updatedAtMs := nowMs }

theorem validateStoredWait_ok {u : Unit} (h : validateStoredWait wait = .ok u)
    : canonicalWait {
          waitId := wait.waitId
          owner := wait.owner
          childGroupId := wait.childGroupId
          expectedChildJobIds := wait.expectedChildJobIds
          nowMs := wait.createdAtMs }
        = .ok (wait.asNew wait.createdAtMs) := by
  unfold validateStoredWait at h
  simp only [Except.bind_eq_ok, Except.require_eq_ok, decide_eq_true_eq] at h
  obtain ⟨_, hschema, expected, hexpected, hsame⟩ := h
  simp only [Bool.not_eq_true', Bool.or_eq_false_iff, decide_eq_false_iff_not, not_not] at hsame
  obtain ⟨⟨⟨hkey, hparent⟩, hchildren⟩, _⟩ := hsame
  rw [hexpected, canonicalWait_ok hexpected, WorkerCoordinatorWaitV1.asNew, hschema, hkey, hparent,
    hchildren]

theorem load_eq_some {waitId : String}
    (h : loadWorkerCoordinatorWait waitId waits = .ok (some wait))
    : wait.waitId = waitId ∧ validateStoredWait wait = .ok () := by
  unfold loadWorkerCoordinatorWait at h
  rw [Except.bind_eq_ok] at h
  obtain ⟨_, _, h⟩ := h
  split at h
  . cases h
  . next row hfind =>
    cases hdecode : decodeWaitRow row with
    | error e =>
      rw [hdecode] at h
      cases h
    | ok decoded =>
      rw [hdecode] at h
      cases h
      unfold decodeWaitRow at hdecode
      simp only [Except.bind_eq_ok, Except.mapError_eq_ok, Except.pure_eq_ok] at hdecode
      obtain ⟨owner, _, children, _, _, hvalid, rfl⟩ := hdecode
      exact ⟨(Table.mem_of_find hfind).2, hvalid⟩

theorem canonicalWait_children (h : canonicalWait options = .ok wait)
    : wait.expectedChildJobIds.Perm options.expectedChildJobIds := by
  unfold canonicalWait at h
  simp only [Except.bind_eq_ok, Except.pure_eq_ok] at h
  obtain ⟨_, _, _, _, _, _, _, _, _, _, _, _, childIds, hchildren, rfl⟩ := h
  rw [canonicalChildren_ok hchildren]
  exact List.perm_insertionSort Text.le options.expectedChildJobIds

theorem canonicalWait_waitId (h : canonicalWait options = .ok wait)
    : Wait.validateIdentifier "waitId" wait.waitId = .ok () := by
  rw [canonicalWait_ok h]
  unfold canonicalWait at h
  simp only [Except.bind_eq_ok] at h
  obtain ⟨_, hwaitId, _⟩ := h
  exact hwaitId

theorem canonicalWait_now (h : canonicalWait options = .ok wait)
    : 0 ≤ options.nowMs := by
  unfold canonicalWait Wait.requireNow at h
  simp only [Except.bind_eq_ok, Except.require_eq_ok, decide_eq_true_eq] at h
  obtain ⟨_, _, _, _, _, hnow, _⟩ := h
  exact hnow

theorem validateStoredWait_canonical (h : canonicalWait options = .ok wait)
    : validateStoredWait wait = .ok () := by
  have hwait := canonicalWait_ok h
  have hcreated : wait.createdAtMs = options.nowMs := by rw [hwait]
  have hnow := canonicalWait_now h
  rw [← hcreated] at hnow
  have hagain : canonicalWait {
      waitId := wait.waitId
      owner := wait.owner
      childGroupId := wait.childGroupId
      expectedChildJobIds := wait.expectedChildJobIds
      nowMs := wait.createdAtMs } = .ok wait := by
    rw [canonicalWait_of_perm _ _ _ (canonicalWait_children h) hnow h]
    . rw [hwait]
    . rw [hwait]
    . rw [hwait]
    . rw [hwait]
  unfold validateStoredWait
  rw [hagain, hwait]
  simp [Except.require, bind, Except.bind]

theorem load_of_canonical (h : canonicalWait options = .ok wait)
    (hfind : waits.find wait.waitId = some wait.row)
    : loadWorkerCoordinatorWait wait.waitId waits = .ok (some wait) := by
  have hvalid := validateStoredWait_canonical h
  have hrow : decodeWaitRow wait.row = .ok wait := by
    unfold decodeWaitRow
    simp only [Except.bind_eq_ok, Except.ofOption_eq_ok, Except.mapError_eq_ok, Except.pure_eq_ok]
    refine ⟨wait.owner, rfl, wait.expectedChildJobIds, rfl, .unit, ?_, ?_⟩
    . rw [canonicalWait_ok h]
      rw [canonicalWait_ok h] at hvalid
      exact hvalid
    . rw [canonicalWait_ok h]
      rfl
  unfold loadWorkerCoordinatorWait
  rw [Except.bind_eq_ok]
  refine ⟨.unit, canonicalWait_waitId h, ?_⟩
  simp only [hfind, hrow]
  rfl

theorem persist_of_empty (h : canonicalWait options = .ok wait)
    : ∃ waits wait,
        persistWaitingForChildren options (Table.empty waitTable)
            = .ok { disposition := .created, wait } waits
          ∧ loadWorkerCoordinatorWait wait.waitId waits = .ok (some wait)
          ∧ canonicalWait options = .ok wait := by
  have hcheck : waitTable.check wait.row := by
    rw [canonicalWait_ok h]
    rfl
  obtain ⟨waits, hinsert, hrows⟩ := Table.insert_empty hcheck
  have hfind : waits.find wait.waitId = some wait.row := by
    have hmem : wait.row ∈ waits.rows := by simp [hrows]
    exact Table.find_of_mem hmem
  refine ⟨waits, wait, ?_, load_of_canonical h hfind, h⟩
  have habsent : loadWorkerCoordinatorWait wait.waitId (Table.empty waitTable) = .ok none := by
    unfold loadWorkerCoordinatorWait
    rw [Except.bind_eq_ok]
    exact ⟨.unit, canonicalWait_waitId h, rfl⟩
  unfold persistWaitingForChildren
  rw [Transaction.check_bind h]
  unfold persistCanonicalWait
  rw [Transaction.query_bind habsent]
  exact Transaction.write_bind hinsert

structure SameWait (options : WorkerCoordinatorWaitCreateOptionsV1) (wait : WorkerCoordinatorWaitV1)
    : Prop where
  waitId : options.waitId = wait.waitId
  owner : options.owner = wait.owner
  childGroupId : options.childGroupId = wait.childGroupId
  children : options.expectedChildJobIds.Perm wait.expectedChildJobIds

theorem SameWait.canonicalWait (hsame : SameWait options wait) (hnow : 0 ≤ options.nowMs)
    (hvalid : validateStoredWait wait = .ok ())
    : canonicalWait options = .ok (wait.asNew options.nowMs) := by
  rw [canonicalWait_of_perm hsame.waitId hsame.owner hsame.childGroupId hsame.children hnow
    (validateStoredWait_ok hvalid)]
  rfl

theorem persistCanonicalWait_of_stored {existing : WorkerCoordinatorWaitV1}
    (wait : WorkerCoordinatorWaitV1)
    (h : loadWorkerCoordinatorWait wait.waitId waits = .ok (some existing))
    : persistCanonicalWait wait waits
        = if existing = wait then
            .ok { disposition := .replayed, wait := existing } waits
          else
            .error (.conflict ("waitId `" ++ wait.waitId
              ++ "` already exists with different immutable ownership or children")) waits := by
  unfold persistCanonicalWait
  rw [Transaction.query_bind h]
  by_cases heq : existing = wait
  . rw [if_pos heq]
    simp only [heq, decide_true]
    rfl
  . rw [if_neg heq]
    simp only [heq, decide_false]
    rfl

theorem persist_of_stored (hstored : loadWorkerCoordinatorWait wait.waitId waits = .ok (some wait))
    (hsame : SameWait options wait) (hnow : 0 ≤ options.nowMs)
    : persistWaitingForChildren options waits
        = if wait.state = .waitingForChildren ∧ wait.resumeIntentId = none
              ∧ wait.createdAtMs = options.nowMs ∧ wait.updatedAtMs = options.nowMs then
            .ok { disposition := .replayed, wait } waits
          else
            .error (.conflict ("waitId `" ++ wait.waitId
              ++ "` already exists with different immutable ownership or children")) waits := by
  have hcanonical := hsame.canonicalWait hnow (load_eq_some hstored).2
  unfold persistWaitingForChildren
  rw [Transaction.check_bind hcanonical,
    persistCanonicalWait_of_stored (wait.asNew options.nowMs) hstored]
  have hasNew : wait = wait.asNew options.nowMs ↔
      wait.state = .waitingForChildren ∧ wait.resumeIntentId = none
        ∧ wait.createdAtMs = options.nowMs ∧ wait.updatedAtMs = options.nowMs := by
    cases wait
    simp [WorkerCoordinatorWaitV1.asNew]
  simp only [hasNew]
  rfl

/-
A repeated creation of a stored wait replays it exactly when nothing has happened to the wait and the
retry carries the time of the first call.
-/
theorem persist_replays_iff {waits : Waits} {wait : WorkerCoordinatorWaitV1}
    {options : WorkerCoordinatorWaitCreateOptionsV1}
    (hstored : loadWorkerCoordinatorWait wait.waitId waits = .ok (some wait))
    (hsame : SameWait options wait) (hnow : 0 ≤ options.nowMs)
    : persistWaitingForChildren options waits = .ok { disposition := .replayed, wait } waits ↔
        wait.state = .waitingForChildren ∧ wait.resumeIntentId = none
          ∧ wait.createdAtMs = options.nowMs ∧ wait.updatedAtMs = options.nowMs := by
  rw [persist_of_stored hstored hsame hnow]
  split
  . next hfresh => simp [hfresh]
  . next hmoved => simp [hmoved]

def sampleLane : Lane.FullLaneKeyV1 where
  schema := Lane.fullLaneKeySchema
  platform := "p"
  accountId := "a"
  channelId := "c"
  userId := "u"
  agentId := "g"
  runtimeClass := "r"
  rootVirtualSession := "v"
  concreteSession := "s"

def sampleOwner : ExactWorkerResultOwnerV1 where
  schema := workerResultOwnerSchema
  lane := sampleLane
  virtualSessionId := "v"
  parentWorkerJobId := none
  parentQueueId := some "q"
  sourceQueueId := "s"
  operationPlanId := none
  operationPlanItemId := none

def sampleWaitOptions (nowMs : Int) : WorkerCoordinatorWaitCreateOptionsV1 where
  waitId := "w"
  owner := sampleOwner
  childGroupId := "g"
  expectedChildJobIds := ["b", "a"]
  nowMs

theorem sampleWaitOptions_ok {nowMs : Int} (h : 0 ≤ nowMs)
    : ∃ wait, canonicalWait (sampleWaitOptions nowMs) = .ok wait := by
  have hok : (canonicalWait (sampleWaitOptions 0)).isOk := by decide +kernel
  cases hwait : canonicalWait (sampleWaitOptions 0) with
  | error e =>
    rw [hwait] at hok
    cases hok
  | ok wait =>
    have hperm : (sampleWaitOptions nowMs).expectedChildJobIds.Perm
        (sampleWaitOptions 0).expectedChildJobIds := List.Perm.refl _
    have hwaitId : (sampleWaitOptions nowMs).waitId = (sampleWaitOptions 0).waitId := rfl
    have howner : (sampleWaitOptions nowMs).owner = (sampleWaitOptions 0).owner := rfl
    have hgroup : (sampleWaitOptions nowMs).childGroupId = (sampleWaitOptions 0).childGroupId := rfl
    exact ⟨_, canonicalWait_of_perm hwaitId howner hgroup hperm h hwait⟩

theorem persist_sample {nowMs : Int} (h : 0 ≤ nowMs)
    : ∃ waits wait,
        persistWaitingForChildren (sampleWaitOptions nowMs) (Table.empty waitTable)
            = .ok { disposition := .created, wait } waits
          ∧ loadWorkerCoordinatorWait wait.waitId waits = .ok (some wait)
          ∧ canonicalWait (sampleWaitOptions nowMs) = .ok wait := by
  obtain ⟨wait, hwait⟩ := sampleWaitOptions_ok h
  exact persist_of_empty hwait

theorem sameWait_of_canonical {others : WorkerCoordinatorWaitCreateOptionsV1}
    (h : canonicalWait options = .ok wait)
    (hothers : others = { options with nowMs := others.nowMs })
    : SameWait others wait := by
  have hwait := canonicalWait_ok h
  constructor
  . rw [hothers, hwait]
  . rw [hothers, hwait]
  . rw [hothers, hwait]
  . rw [hothers]
    exact (canonicalWait_children h).symm

/-
The same call one second later is refused as a call for different children.
-/
theorem persist_retry_conflicts
    : ∃ waits wait,
        persistWaitingForChildren (sampleWaitOptions 1000) (Table.empty waitTable)
            = .ok { disposition := .created, wait } waits
          ∧ loadWorkerCoordinatorWait wait.waitId waits = .ok (some wait)
          ∧ SameWait (sampleWaitOptions 2000) wait
          ∧ persistWaitingForChildren (sampleWaitOptions 2000) waits
              = .error (.conflict ("waitId `w` already exists with different immutable "
                ++ "ownership or children")) waits := by
  obtain ⟨waits, wait, hcreated, hstored, hwait⟩ := persist_sample (show (0 : Int) ≤ 1000 by decide)
  have hsame : SameWait (sampleWaitOptions 2000) wait := sameWait_of_canonical hwait rfl
  refine ⟨waits, wait, hcreated, hstored, hsame, ?_⟩
  rw [persist_of_stored hstored hsame (by decide), if_neg]
  . rw [← hsame.waitId]
    rfl
  . intro hfresh
    have hcreated : wait.createdAtMs = 1000 := by
      rw [canonicalWait_ok hwait]
      rfl
    rw [hcreated] at hfresh
    exact absurd hfresh.2.2.1 (by decide)

theorem persist_replays_sample
    : ∃ waits wait,
        loadWorkerCoordinatorWait wait.waitId waits = .ok (some wait)
          ∧ SameWait (sampleWaitOptions 1000) wait
          ∧ persistWaitingForChildren (sampleWaitOptions 1000) waits
              = .ok { disposition := .replayed, wait } waits := by
  obtain ⟨waits, wait, _, hstored, hwait⟩ := persist_sample (show (0 : Int) ≤ 1000 by decide)
  have hsame : SameWait (sampleWaitOptions 1000) wait := sameWait_of_canonical hwait rfl
  refine ⟨waits, wait, hstored, hsame, ?_⟩
  apply (persist_replays_iff hstored hsame (by decide)).mpr
  rw [canonicalWait_ok hwait]
  exact ⟨rfl, rfl, rfl, rfl⟩

end Coordinator
