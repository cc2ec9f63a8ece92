import AgentHarness.Lib.Run
import AgentHarness.Coordinator.Wait

/-!
What the transactions on the waits do to the stored rows, and the state machine of a wait over every
run of them.
-/

namespace Coordinator

inductive WaitStep : WorkerCoordinatorWaitStateV1 → WorkerCoordinatorWaitStateV1 → Prop where
  | schedule : WaitStep .waitingForChildren .resumeScheduled
  | consume : WaitStep .resumeScheduled .consumed
  | quarantine : WaitStep .waitingForChildren .quarantined

/-
A later row of the same wait: its state has moved along `moves` and everything that is fixed at its
creation is the same.
-/
structure WaitRow.Follows
    (moves : WorkerCoordinatorWaitStateV1 → WorkerCoordinatorWaitStateV1 → Prop)
    (row later : WaitRow)
    : Prop where
  state : moves row.state later.state
  waitId : later.waitId = row.waitId
  coordinatorKey : later.coordinatorKey = row.coordinatorKey
  owner : later.ownerJson = row.ownerJson
  parentQueueId : later.parentQueueId = row.parentQueueId
  childGroupId : later.childGroupId = row.childGroupId
  children : later.expectedChildJobIdsJson = row.expectedChildJobIdsJson
  createdAtMs : later.createdAtMs = row.createdAtMs
  resumeIntentId : ∀ intentId, row.resumeIntentId = some intentId →
    later.resumeIntentId = some intentId

def Waits.Evolve (moves : WorkerCoordinatorWaitStateV1 → WorkerCoordinatorWaitStateV1 → Prop)
    (waits later : Waits)
    : Prop :=
  ∀ waitId row, waits.find waitId = some row →
    ∃ row', later.find waitId = some row' ∧ row.Follows moves row'

def Waits.StartFresh (waits later : Waits) : Prop :=
  ∀ waitId row, later.find waitId = some row → waits.find waitId = none →
    row.state = .waitingForChildren ∧ row.resumeIntentId = none

section

variable {moves moves' : WorkerCoordinatorWaitStateV1 → WorkerCoordinatorWaitStateV1 → Prop}

theorem WaitRow.Follows.refl (h : ∀ state, moves state state) (row : WaitRow)
    : row.Follows moves row := by
  constructor
  . apply h
  all_goals simp

theorem WaitRow.Follows.trans (h : ∀ a b c, moves a b → moves b c → moves a c)
    {row middle later : WaitRow} (hfirst : row.Follows moves middle)
    (hnext : middle.Follows moves later)
    : row.Follows moves later := by
  constructor
  . exact h _ _ _ hfirst.state hnext.state
  . rw [hnext.waitId, hfirst.waitId]
  . rw [hnext.coordinatorKey, hfirst.coordinatorKey]
  . rw [hnext.owner, hfirst.owner]
  . rw [hnext.parentQueueId, hfirst.parentQueueId]
  . rw [hnext.childGroupId, hfirst.childGroupId]
  . rw [hnext.children, hfirst.children]
  . rw [hnext.createdAtMs, hfirst.createdAtMs]
  . intro intentId hintent
    apply hnext.resumeIntentId
    apply hfirst.resumeIntentId
    exact hintent

variable {waits later : Waits}

theorem Waits.Evolve.mono (h : ∀ a b, moves a b → moves' a b) (hevolve : waits.Evolve moves later)
    : waits.Evolve moves' later := by
  intro waitId row hfind
  cases hevolve waitId row hfind with
  | intro row' hrow => exact ⟨row', hrow.1, { hrow.2 with state := h _ _ hrow.2.state }⟩

theorem Waits.Evolve.refl (h : ∀ state, moves state state) (waits : Waits)
    : waits.Evolve moves waits := by
  intro waitId row hfind
  exact ⟨row, hfind, WaitRow.Follows.refl h row⟩

theorem Waits.Evolve.trans (h : ∀ a b c, moves a b → moves b c → moves a c) {middle : Waits}
    (hfirst : waits.Evolve moves middle) (hnext : middle.Evolve moves later)
    : waits.Evolve moves later := by
  intro waitId row hfind
  cases hfirst waitId row hfind with
  | intro middleRow hmiddle =>
    cases hnext waitId middleRow hmiddle.1 with
    | intro laterRow hlater => exact ⟨laterRow, hlater.1, WaitRow.Follows.trans h hmiddle.2 hlater.2⟩

theorem Waits.evolve_insert (h : ∀ state, moves state state) {row : WaitRow}
    (hnew : waits.find row.waitId = none) (hinsert : waits.insert row = some later)
    : waits.Evolve moves later := by
  intro waitId old hfind
  refine ⟨old, ?_, WaitRow.Follows.refl h old⟩
  rw [Table.find_insert hinsert, if_neg]
  . exact hfind
  . intro hkey
    have hkey : row.waitId = waitId := hkey
    rw [hkey, hfind] at hnew
    cases hnew

theorem Waits.evolve_update (h : ∀ state, moves state state) {hits : WaitRow → Bool}
    {set : WaitRow → WaitRow} (hset : ∀ row, hits row → row.Follows moves (set row))
    (hkey : ∀ row, (set row).waitId = row.waitId) (hupdate : waits.update hits set = some later)
    : waits.Evolve moves later := by
  intro waitId row hfind
  refine ⟨Table.rewrite hits set row, ?_, ?_⟩
  . rw [Table.find_update hkey hupdate, hfind]
    rfl
  . unfold Table.rewrite
    split
    . next hhits => exact hset row hhits
    . exact WaitRow.Follows.refl h row

end

theorem Waits.startFresh_self (waits : Waits) : waits.StartFresh waits := by
  intro waitId row hfind hnone
  rw [hnone] at hfind
  cases hfind

variable {waits later : Waits} {nowMs : Int} {waitId childJobId : String}
  {wait : WorkerCoordinatorWaitV1}

theorem Waits.startFresh_of_update {hits : WaitRow → Bool} {set : WaitRow → WaitRow}
    (hkey : ∀ row, (set row).waitId = row.waitId) (hupdate : waits.update hits set = some later)
    : waits.StartFresh later := by
  intro waitId row hfind hnone
  rw [Table.find_update hkey hupdate, hnone] at hfind
  cases hfind

@[simp]
theorem Wait.move_waitId (intentId : String) (target : WorkerCoordinatorWaitStateV1) (nowMs : Int)
    (row : WaitRow)
    : (Wait.move intentId target nowMs row).waitId = row.waitId := rfl

@[simp]
theorem Wait.quarantine_waitId (nowMs : Int) (row : WaitRow)
    : (Wait.quarantine nowMs row).waitId = row.waitId := rfl

theorem canonicalWait_ok {options : WorkerCoordinatorWaitCreateOptionsV1}
    (h : canonicalWait options = .ok wait)
    : wait = {
        schema := workerCoordinatorWaitSchema
        waitId := options.waitId
        coordinatorKey := wait.coordinatorKey
        owner := options.owner
        parentQueueId := wait.parentQueueId
        childGroupId := options.childGroupId
        expectedChildJobIds := wait.expectedChildJobIds
        state := .waitingForChildren
        resumeIntentId := none
        createdAtMs := options.nowMs
        updatedAtMs := options.nowMs } := by
  unfold canonicalWait at h
  simp only [Except.bind_eq_ok, Except.pure_eq_ok] at h
  obtain ⟨_, _, _, _, _, _, _, _, _, _, _, _, _, _, rfl⟩ := h
  rfl

theorem persistCanonicalWait_ok {outcome : WorkerCoordinatorWaitCreateOutcomeV1}
    (h : persistCanonicalWait wait waits = .ok outcome later)
    : (outcome = { disposition := .replayed, wait } ∧ later = waits
          ∧ loadWorkerCoordinatorWait wait.waitId waits = .ok (some wait))
        ∨ (outcome = { disposition := .created, wait } ∧ waits.find wait.waitId = none
          ∧ waits.insert wait.row = some later) := by
  unfold persistCanonicalWait at h
  simp only [Transaction.bind_eq_ok, Transaction.query_eq_ok] at h
  obtain ⟨found, middle, ⟨hload, rfl⟩, h⟩ := h
  cases found with
  | some existing =>
    simp only [Transaction.bind_eq_ok, Transaction.check_eq_ok, Except.require_eq_ok,
      Transaction.pure_eq_ok, decide_eq_true_eq] at h
    obtain ⟨_, _, ⟨rfl, rfl⟩, rfl, rfl⟩ := h
    exact .inl ⟨rfl, rfl, hload⟩
  | none =>
    simp only [Transaction.bind_eq_ok, Transaction.write_eq_ok, Transaction.pure_eq_ok] at h
    obtain ⟨_, _, hinsert, rfl, rfl⟩ := h
    refine .inr ⟨rfl, ?_, hinsert⟩
    unfold loadWorkerCoordinatorWait at hload
    simp only [Except.bind_eq_ok] at hload
    obtain ⟨_, _, hload⟩ := hload
    split at hload
    . next hfind => exact hfind
    . next row hfind =>
      cases hdecode : decodeWaitRow row with
      | error e => simp [hdecode, Except.map] at hload
      | ok wait => simp [hdecode, Except.map] at hload

variable {intentId : String} {source target : WorkerCoordinatorWaitStateV1} {u : Unit}

theorem transitionWait_ok
    (h : transitionWait waitId intentId source target nowMs waits = .ok wait later)
    : later = waits
        ∨ waits.update (Wait.mayMove waitId intentId source) (Wait.move intentId target nowMs)
            = some later := by
  unfold transitionWait at h
  simp only [Transaction.bind_eq_ok, Transaction.query_eq_ok, Transaction.check_eq_ok] at h
  obtain ⟨_, _, ⟨_, rfl⟩, _, _, ⟨_, rfl⟩, _, _, ⟨_, rfl⟩, found, _, ⟨_, rfl⟩, existing, _,
    ⟨_, rfl⟩, h⟩ := h
  split at h
  . rw [Transaction.pure_eq_ok] at h
    exact .inl h.2.symm
  . simp only [Transaction.bind_eq_ok, Transaction.query_eq_ok, Transaction.check_eq_ok,
      Transaction.write_eq_ok] at h
    obtain ⟨_, _, ⟨_, rfl⟩, _, _, ⟨_, rfl⟩, _, _, hupdate, _, _, ⟨_, rfl⟩, _, _, ⟨_, rfl⟩, _, rfl⟩ := h
    exact .inr hupdate

theorem quarantineWait_ok (h : quarantineWait childJobId nowMs waitId waits = .ok u later)
    : waits.update (Wait.mayQuarantine waitId) (Wait.quarantine nowMs) = some later := by
  unfold quarantineWait at h
  simp only [Transaction.bind_eq_ok, Transaction.query_eq_ok, Transaction.check_eq_ok,
    Transaction.write_eq_ok] at h
  obtain ⟨_, _, ⟨_, rfl⟩, _, _, hupdate, _, rfl⟩ := h
  exact hupdate

def StaysOr (moves : WorkerCoordinatorWaitStateV1 → WorkerCoordinatorWaitStateV1 → Prop)
    (state next : WorkerCoordinatorWaitStateV1)
    : Prop :=
  state = next ∨ moves state next

def IsQuarantined (state next : WorkerCoordinatorWaitStateV1) : Prop :=
  state = .waitingForChildren ∧ next = .quarantined

theorem staysOr_refl (moves : WorkerCoordinatorWaitStateV1 → WorkerCoordinatorWaitStateV1 → Prop)
    (state : WorkerCoordinatorWaitStateV1)
    : StaysOr moves state state :=
  .inl rfl

theorem staysOr_isQuarantined_trans (a b c : WorkerCoordinatorWaitStateV1)
    (hfirst : StaysOr IsQuarantined a b) (hnext : StaysOr IsQuarantined b c)
    : StaysOr IsQuarantined a c := by
  cases hfirst with
  | inl hsame =>
    rw [hsame]
    exact hnext
  | inr hmove =>
    cases hnext with
    | inl hsame =>
      rw [← hsame]
      exact .inr hmove
    | inr hagain =>
      -- a quarantined wait is not waiting any more
      rw [hmove.2] at hagain
      cases hagain.1

/-
What one transaction may do to the waits: each moves along at most one edge, and a new one has not
moved yet.
-/
structure Waits.Step (waits later : Waits) : Prop where
  evolve : waits.Evolve (StaysOr WaitStep) later
  startFresh : waits.StartFresh later

theorem Waits.Step.refl (waits : Waits) : waits.Step waits :=
  ⟨Waits.Evolve.refl (staysOr_refl WaitStep) waits, Waits.startFresh_self waits⟩

theorem mayMove_follows (nowMs : Int) {row : WaitRow} (hstep : WaitStep source target)
    (hhits : Wait.mayMove waitId intentId source row)
    : row.Follows (StaysOr WaitStep) (Wait.move intentId target nowMs row) := by
  simp only [Wait.mayMove, Bool.and_eq_true, Bool.or_eq_true, decide_eq_true_eq,
    Option.isNone_iff_eq_none] at hhits
  constructor
  case state =>
    rw [hhits.1.2]
    exact .inr hstep
  case resumeIntentId =>
    intro bound hbound
    -- the WHERE clause admits a bound wait only for the intent that it is bound to
    cases hhits.2 with
    | inl hnone =>
      rw [hnone] at hbound
      cases hbound
    | inr hsome =>
      rw [hsome] at hbound
      exact hbound
  all_goals rfl

theorem transitionWait_step (hstep : WaitStep source target)
    (h : transitionWait waitId intentId source target nowMs waits = .ok wait later)
    : waits.Step later := by
  cases transitionWait_ok h with
  | inl hsame =>
    rw [hsame]
    exact Waits.Step.refl waits
  | inr hupdate =>
    have hkey := Wait.move_waitId intentId target nowMs
    constructor
    . apply Waits.evolve_update (staysOr_refl WaitStep) _ hkey hupdate
      intro row hhits
      exact mayMove_follows nowMs hstep hhits
    . exact Waits.startFresh_of_update hkey hupdate

theorem quarantineWait_evolve (h : quarantineWait childJobId nowMs waitId waits = .ok u later)
    : waits.Evolve (StaysOr IsQuarantined) later := by
  apply Waits.evolve_update (staysOr_refl IsQuarantined) _ (Wait.quarantine_waitId nowMs)
    (quarantineWait_ok h)
  intro row hhits
  simp only [Wait.mayQuarantine, Bool.and_eq_true, decide_eq_true_eq] at hhits
  constructor
  case state => exact .inr ⟨hhits.1.2, rfl⟩
  case resumeIntentId =>
    intro bound hbound
    exact hbound
  all_goals rfl

theorem quarantineWaits_evolve {waiting : List String}
    (h : quarantineWaits childJobId nowMs waiting waits = .ok u later)
    : waits.Evolve (StaysOr IsQuarantined) later
        ∧ ∀ waitId, waits.find waitId = none → later.find waitId = none := by
  induction waiting generalizing waits with
  | nil =>
    rw [quarantineWaits, Transaction.pure_eq_ok] at h
    rw [← h.2]
    exact ⟨Waits.Evolve.refl (staysOr_refl IsQuarantined) waits, fun _ hnone => hnone⟩
  | cons waitId waiting ih =>
    rw [quarantineWaits, Transaction.bind_eq_ok] at h
    obtain ⟨_, middle, hfirst, hrest⟩ := h
    have hrest := ih hrest
    constructor
    . apply Waits.Evolve.trans staysOr_isQuarantined_trans
      . exact quarantineWait_evolve hfirst
      . exact hrest.1
    . intro other hnone
      apply hrest.2
      rw [Table.find_update (Wait.quarantine_waitId nowMs) (quarantineWait_ok hfirst), hnone]
      rfl

theorem quarantine_step {waiting : List String}
    (h : quarantineWorkerCoordinatorWaitsForChild childJobId nowMs waits = .ok waiting later)
    : waits.Step later := by
  unfold quarantineWorkerCoordinatorWaitsForChild at h
  simp only [Transaction.bind_eq_ok, Transaction.check_eq_ok, Transaction.query_eq_ok,
    Transaction.pure_eq_ok] at h
  obtain ⟨_, _, ⟨_, rfl⟩, _, _, ⟨_, rfl⟩, _, _, ⟨_, rfl⟩, _, _, hloop, _, rfl⟩ := h
  have hloop := quarantineWaits_evolve hloop
  constructor
  . apply hloop.1.mono
    intro a b hmove
    apply hmove.imp_right
    intro hmove
    rw [hmove.1, hmove.2]
    exact .quarantine
  . intro waitId row hfind hnone
    rw [hloop.2 waitId hnone] at hfind
    cases hfind

theorem persist_step {options : WorkerCoordinatorWaitCreateOptionsV1}
    {outcome : WorkerCoordinatorWaitCreateOutcomeV1}
    (h : persistWaitingForChildren options waits = .ok outcome later)
    : waits.Step later := by
  unfold persistWaitingForChildren at h
  simp only [Transaction.bind_eq_ok, Transaction.check_eq_ok] at h
  obtain ⟨wait, _, ⟨hwait, rfl⟩, h⟩ := h
  cases persistCanonicalWait_ok h with
  | inl hreplayed =>
    rw [hreplayed.2.1]
    exact Waits.Step.refl waits
  | inr hcreated =>
    constructor
    . exact Waits.evolve_insert (staysOr_refl WaitStep) hcreated.2.1 hcreated.2.2
    . intro waitId row hfind hnone
      rw [Table.find_insert hcreated.2.2, hnone] at hfind
      split at hfind
      . injection hfind with hrow
        rw [← hrow, canonicalWait_ok hwait]
        exact ⟨rfl, rfl⟩
      . cases hfind

theorem exec_step (waits : Waits) (call : WaitCall) : waits.Step (call.exec waits) := by
  cases call with
  | persist options =>
    apply Transaction.commit_cases waits.Step (Waits.Step.refl waits)
    intro outcome later h
    exact persist_step h
  | markResumeScheduled waitId intentId nowMs =>
    apply Transaction.commit_cases waits.Step (Waits.Step.refl waits)
    intro wait later h
    exact transitionWait_step .schedule h
  | markConsumed waitId intentId nowMs =>
    apply Transaction.commit_cases waits.Step (Waits.Step.refl waits)
    intro wait later h
    exact transitionWait_step .consume h
  | quarantineForChild childJobId nowMs =>
    apply Transaction.commit_cases waits.Step (Waits.Step.refl waits)
    intro waiting later h
    exact quarantine_step h

theorem run_evolve (waits : Waits) (calls : List WaitCall)
    : waits.Evolve (Relation.ReflTransGen WaitStep) (Run.exec WaitCall.exec waits calls) := by
  apply Run.exec_invariant (waits.Evolve (Relation.ReflTransGen WaitStep))
  . intro reached call hreached
    apply Waits.Evolve.trans (fun _ _ _ => Relation.ReflTransGen.trans) hreached
    apply (exec_step reached call).evolve.mono
    intro state next hmove
    cases hmove with
    | inl hsame =>
      rw [hsame]
    | inr hmove => exact .single hmove
  . exact Waits.Evolve.refl (fun _ => Relation.ReflTransGen.refl) waits

def Waits.OneActive (waits : Waits) : Prop :=
  ∀ row ∈ waits.rows, ∀ other ∈ waits.rows,
    row.state.isActive → other.state.isActive → row.coordinatorKey = other.coordinatorKey →
      row.childGroupId = other.childGroupId → row = other

theorem Waits.oneActive (waits : Waits) : waits.OneActive := by
  intro row hrow other hother hactive hotherActive hcoordinator hgroup
  by_contra hne
  have hclash : waitTable.clash row other = false := by
    apply Table.not_clash _ hrow hother hne
    intro row other
    simp only [waitTable, eq_comm, Bool.and_comm row.state.isActive]
  simp [waitTable, hactive, hotherActive, hcoordinator, hgroup] at hclash

/-
From any reached store: one call keeps each wait's identity and moves its state along at most one edge,
whole runs move it along a path of edges, the partial unique index holds, and a quarantine that fails
leaves every wait as it was, whatever it had written before it failed.
-/
theorem wait_stateMachine (waits : Waits) (earlier later : List WaitCall) (call : WaitCall)
    : let reached := Run.exec WaitCall.exec waits earlier
      reached.Step (call.exec reached)
        ∧ reached.Evolve (Relation.ReflTransGen WaitStep) (Run.exec WaitCall.exec reached later)
        ∧ reached.OneActive
        ∧ ∀ childJobId nowMs e written,
            quarantineWorkerCoordinatorWaitsForChild childJobId nowMs reached = .error e written →
              (WaitCall.quarantineForChild childJobId nowMs).exec reached = reached := by
  intro reached
  refine ⟨exec_step reached call, run_evolve reached later, reached.oneActive, ?_⟩
  intro childJobId nowMs e written h
  exact Transaction.commit_of_error h

end Coordinator
