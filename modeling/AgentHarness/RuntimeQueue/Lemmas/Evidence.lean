import AgentHarness.RuntimeQueue.Lemmas.Grant
import AgentHarness.RuntimeQueue.Lemmas.Ledger

/-!
On which evidence leases are granted.
-/

namespace RuntimeQueue

namespace Dispatch

/-
The receipts of a queue end with these, unless a terminal receipt has closed the queue.
-/
def Covers (receipts : List RunOnceReceipt) (queueId : String) (evidence : List RunOnceReceipt)
    : Prop :=
  queueId ∈ terminalRunOnceIds (runtimeQueueStateIndex receipts)
    ∨ ∃ base, receiptsOf queueId receipts = base ++ evidence

namespace Covers

variable {receipts evidence : List RunOnceReceipt} {queueId : String}

theorem nil (receipts : List RunOnceReceipt) (queueId : String) : Covers receipts queueId [] := by
  right
  refine ⟨receiptsOf queueId receipts, ?_⟩
  rw [List.append_nil]

variable {receipt : RunOnceReceipt}

theorem append_other (h : Covers receipts queueId evidence)
    (hother : ∀ status, receipt.indexed ≠ some (queueId, status))
    : Covers (receipts ++ [receipt]) queueId evidence := by
  cases h with
  | inl hterminal => exact .inl (terminalRunOnceIds_concat hterminal receipt)
  | inr hbase =>
    cases hbase with
    | intro base hbase =>
      right
      refine ⟨base, ?_⟩
      rw [receiptsOf_append, receiptsOf_singleton_other hother, List.append_nil]
      exact hbase

theorem append_evidence (h : Covers receipts queueId evidence) {status : String}
    (hindexed : receipt.indexed = some (queueId, status))
    : Covers (receipts ++ [receipt]) queueId (evidence ++ [receipt]) := by
  cases h with
  | inl hterminal => exact .inl (terminalRunOnceIds_concat hterminal receipt)
  | inr hbase =>
    cases hbase with
    | intro base hbase =>
      right
      refine ⟨base, ?_⟩
      rw [receiptsOf_append, receiptsOf_singleton hindexed, hbase, List.append_assoc]

theorem append_terminal (h : Covers receipts queueId evidence) {other status : String}
    (hindexed : receipt.indexed = some (other, status))
    (hterminal : isTerminalRunOnceStatus status = true)
    : Covers (receipts ++ [receipt]) queueId evidence := by
  by_cases heq : other = queueId
  . subst heq
    exact .inl (terminalRunOnceIds_of_indexed receipts hindexed hterminal)
  . apply h.append_other
    intro status' hindexed'
    rw [hindexed] at hindexed'
    injection hindexed' with hindexed'
    injection hindexed' with hqueue
    exact heq hqueue

theorem append_closing (h : Covers receipts queueId evidence) (closing : List RunOnceReceipt)
    (hclosing : ∀ receipt ∈ closing, ∃ queueId status,
      receipt.indexed = some (queueId, status) ∧ isTerminalRunOnceStatus status = true)
    : Covers (receipts ++ closing) queueId evidence := by
  induction closing generalizing receipts with
  | nil =>
    rw [List.append_nil]
    exact h
  | cons receipt closing ih =>
    rw [List.append_cons]
    apply ih
    . cases hclosing receipt List.mem_cons_self with
      | intro other hreceipt =>
        cases hreceipt with
        | intro status hreceipt => exact h.append_terminal hreceipt.1 hreceipt.2
    . intro other hother
      exact hclosing other (List.mem_cons_of_mem receipt hother)

theorem closes {ledgers ledgers' : QueueLedgers} (h : Covers ledgers.receipts queueId evidence)
    (hcloses : ClosesRuns ledgers ledgers')
    : Covers ledgers'.receipts queueId evidence := by
  cases hcloses with
  | intro closing hcloses =>
    rw [hcloses.1]
    exact h.append_closing closing hcloses.2

end Covers

structure IsOpen (call : PrepareCall) (queueId : String) : Prop where
  notTerminal : queueId ∉ terminalRunOnceIds call.seen.index
  notAuthDeferred : queueId ∉ authDeferredRunOnceIds call.seen.index
  notParked : queueId ∉ parkedRunOnceIds call.seen.index
  retryIsDue : retryScheduleDispatchBlocker call.seen.index queueId call.nowMs = none

theorem isOpen_of_leased {call : PrepareCall} {home : QueueHome} {state : LeaseState}
    {fences : FenceFiles} {ledgers : QueueLedgers} {item : PendingQueueItem}
    (h : (dispatchLocked call { call.context home with state, fences } ledgers).write = .leased item)
    : IsOpen call item.queueId := by
  have hgranted : IsGranted call { call.context home with state, fences } item := by
    unfold dispatchLocked at h
    split at h
    . exact prepareUnasked_leased h
    . next queueId hrequested => exact prepareRequested_leased hrequested h
  cases hgranted with
  | intro selected hgranted =>
    have hadmitted := hgranted.1
    rw [hgranted.2.1.queueId_eq]
    constructor
    . intro hterminal
      apply hadmitted.notTerminal
      exact List.mem_append_left _ hterminal
    . exact hadmitted.notAuthDeferred
    . exact hadmitted.notParked
    . exact hadmitted.retryIsDue

section Open

variable {call : PrepareCall} {queueId : String}

theorem not_terminal_of_isOpen (hopen : IsOpen call queueId) {receipt : RunOnceReceipt}
    (hmem : receipt ∈ receiptsOf queueId call.seen.receipts)
    : receipt.status.any isTerminalRunOnceStatus = false := by
  rw [mem_receiptsOf] at hmem
  cases hmem.2 with
  | intro status hindexed =>
    rw [status_of_indexed hindexed, Option.any_some]
    cases hterminal : isTerminalRunOnceStatus status with
    | false => rfl
    | true => exact absurd (terminalRunOnceIds_of_mem hmem.1 hindexed hterminal) hopen.notTerminal

variable {entry : RuntimeQueueStateIndexEntry}

theorem not_needsUser_of_isOpen (hopen : IsOpen call queueId)
    (hlookup : call.seen.index.lookup queueId = some entry)
    : entry.parked = false := by
  cases hparked : entry.parked with
  | false => rfl
  | true =>
    exfalso
    cases hever : entry.terminalEver with
    | false =>
      apply hopen.notParked
      unfold parkedRunOnceIds
      rw [FMap.mem_keysWhere]
      exact ⟨entry, hlookup, by simp [hparked, hever]⟩
    | true =>
      apply hopen.notTerminal
      apply terminalRunOnceEver_of_terminalEver
      unfold QueueLedgers.index at hlookup
      rw [hlookup]
      exact hever

theorem not_authDeferred_of_isOpen (hopen : IsOpen call queueId)
    (hlookup : call.seen.index.lookup queueId = some entry)
    : entry.latestStatus ≠ some "auth-deferred" := by
  intro hstatus
  apply hopen.notAuthDeferred
  unfold authDeferredRunOnceIds
  rw [FMap.mem_keysWhere]
  exact ⟨entry, hlookup, by simp [hstatus]⟩

theorem retryIsDue_of_isOpen (hopen : IsOpen call queueId)
    (hlookup : call.seen.index.lookup queueId = some entry)
    (hstatus : entry.latestStatus = some "retry-pending")
    : entry.retrySchedule.any (fun schedule => call.nowMs < schedule.nextEligibleAtMs) = false := by
  have hdue := hopen.retryIsDue
  unfold retryScheduleDispatchBlocker at hdue
  simp only [hlookup, hstatus, ne_eq, not_true_eq_false, if_false] at hdue
  cases hschedule : entry.retrySchedule with
  | none => rfl
  | some schedule =>
    simp only [hschedule] at hdue
    split at hdue
    . cases hdue
    . next hlt => simpa using hlt

theorem not_postponed_of_isOpen (hopen : IsOpen call queueId) {base : List RunOnceReceipt}
    {receipt : RunOnceReceipt} (h : receiptsOf queueId call.seen.receipts = base ++ [receipt])
    : postponesDispatch receipt call.nowMs = false := by
  have hmem : receipt ∈ receiptsOf queueId call.seen.receipts := by simp [h]
  cases (mem_receiptsOf.mp hmem).2 with
  | intro status hindexed =>
    cases lookup_index_of_last h hindexed with
    | intro entry hlookup =>
      have hparked := not_needsUser_of_isOpen hopen hlookup
      have hauth := not_authDeferred_of_isOpen hopen hlookup
      have hretry := retryIsDue_of_isOpen hopen hlookup
      simp only [RuntimeQueueStateIndexEntry.apply] at hparked hauth hretry
      unfold postponesDispatch
      rw [status_of_indexed hindexed]
      by_cases hneeds : status = "needs-user"
      . simp [hneeds] at hparked
      . by_cases hpending : status = "retry-pending"
        . simp [hpending] at hretry ⊢
          exact hretry
        . simpa [hneeds, hpending] using hauth

end Open

theorem isCurrent_of_isOpen {call : PrepareCall} {queueId : String} (hopen : IsOpen call queueId)
    {evidence : List RunOnceReceipt} (hcovers : Covers call.seen.receipts queueId evidence)
    : Grant.isCurrent { queueId, nowMs := call.nowMs, evidence } = true := by
  cases hcovers with
  | inl hterminal => exact absurd hterminal hopen.notTerminal
  | inr hbase =>
    cases hbase with
    | intro base hbase =>
      unfold Grant.isCurrent
      rw [Bool.and_eq_true, List.all_eq_true, Option.all_eq_true]
      constructor
      . intro receipt hreceipt
        rw [not_terminal_of_isOpen hopen]
        . rfl
        . rw [hbase]
          exact List.mem_append_right base hreceipt
      . intro receipt hlast
        cases List.getLast?_eq_some_iff.mp hlast with
        | intro rest hrest =>
          have hreceipts : receiptsOf queueId call.seen.receipts = (base ++ rest) ++ [receipt] := by
            rw [hbase, List.append_assoc]
            exact congrArg (base ++ ·) hrest
          rw [not_postponed_of_isOpen hopen hreceipts]
          rfl

section Invariant

variable {s : System}

def SeenOk (s : System) (i : Nat) (call : PrepareCall) : Prop :=
  ∀ queueId, Covers call.seen.receipts queueId ((s.evidence queueId).take (s.known i queueId))

def PhaseOk (s : System) (i : Nat) (phase : Phase) : Prop :=
  match phase with
  | .indexed call | .locked call | .purged call _ => SeenOk s i call
  | .selected call _ write =>
    SeenOk s i call ∧ ∀ item, write = .leased item → IsOpen call item.queueId
  | _ => True

structure Inv (s : System) : Prop where
  ledger : ∀ queueId, Covers s.home.ledgers.receipts queueId (s.evidence queueId)
  known : ∀ i queueId, s.known i queueId ≤ (s.evidence queueId).length
  phases : ∀ i, PhaseOk s i (s.phase i)
  grants : ∀ grant ∈ s.grants, grant.isCurrent = true

variable {i : Nat}

theorem PhaseOk.congr {t : System} {phase : Phase} (h : PhaseOk s i phase)
    (htake : ∀ queueId, (t.evidence queueId).take (t.known i queueId)
      = (s.evidence queueId).take (s.known i queueId))
    : PhaseOk t i phase := by
  have hseen : ∀ call, SeenOk s i call → SeenOk t i call := by
    intro call hcall queueId
    rw [htake]
    exact hcall queueId
  cases phase with
  | indexed call => exact hseen call h
  | locked call => exact hseen call h
  | purged call state => exact hseen call h
  | selected call state write => exact ⟨hseen call h.1, h.2⟩
  | _ => exact trivial

theorem Inv.change (hinv : Inv s) {t : System} (hphase : t.phase = s.phase)
    (hknown : t.known = s.known) (hevidence : t.evidence = s.evidence) (hgrants : t.grants = s.grants)
    (hcloses : ClosesRuns s.home.ledgers t.home.ledgers)
    : Inv t := by
  constructor
  . intro queueId
    rw [hevidence]
    exact (hinv.ledger queueId).closes hcloses
  . intro i queueId
    rw [hevidence, hknown]
    exact hinv.known i queueId
  . intro i
    rw [hphase]
    apply (hinv.phases i).congr
    intro queueId
    rw [hevidence, hknown]
  . rw [hgrants]
    exact hinv.grants

theorem Inv.goto (hinv : Inv s) {phase : Phase} (hok : PhaseOk s i phase)
    : Inv (s.goto i phase) := by
  refine ⟨hinv.ledger, hinv.known, ?_, hinv.grants⟩
  intro j
  have hcongr : PhaseOk s j ((s.goto i phase).phase j) := by
    by_cases hj : j = i
    . simp only [System.goto, hj, if_true]
      exact hok
    . simp only [System.goto, hj, if_false]
      exact hinv.phases j
  apply hcongr.congr
  intro queueId
  rfl

theorem Inv.note (hinv : Inv s) (hidle : s.phase i = .idle)
    : Inv { s with known := fun j =>
        if j = i then fun queueId => (s.evidence queueId).length else s.known j } := by
  constructor
  . exact hinv.ledger
  . intro j queueId
    dsimp only
    split
    . exact Nat.le_refl _
    . exact hinv.known j queueId
  . intro j
    by_cases hj : j = i
    . dsimp only
      rw [hj, hidle]
      exact trivial
    . apply (hinv.phases j).congr
      intro queueId
      dsimp only
      rw [if_neg hj]
  . exact hinv.grants

theorem Inv.index (hinv : Inv s) (hidle : s.phase i = .idle) (call : PrepareCall)
    : Inv (s.index i call) := by
  unfold System.index
  dsimp only
  apply Inv.goto
  . refine (hinv.note hidle).change rfl rfl rfl rfl ?_
    exact .quarantineAll s.home.ledgers s.home.ledgers.pending
  . intro queueId
    simp only [System.setLedgers, if_true, List.take_length]
    exact hinv.ledger queueId

theorem indexed_receipt (receipt : FinalReceipt) (queueId : String)
    : (receipt.receipt queueId).indexed = some (queueId, receipt.status) := by
  simp [RunOnceReceipt.indexed, FinalReceipt.receipt, RecordSchema.isTrusted]

theorem Inv.append (hinv : Inv s) (i : Nat) (receipt : FinalReceipt) : Inv (s.append i receipt) := by
  unfold System.append
  split
  . next queueId authority _ =>
    constructor
    . intro other
      dsimp only [System.setLedgers]
      by_cases hother : other = queueId
      . rw [hother, Function.update_self]
        exact (hinv.ledger queueId).append_evidence (indexed_receipt receipt queueId)
      . rw [Function.update_of_ne hother]
        apply (hinv.ledger other).append_other
        intro status hindexed
        rw [indexed_receipt] at hindexed
        injection hindexed with hindexed
        injection hindexed with hqueue
        exact hother hqueue.symm
    . intro j other
      apply Nat.le_trans (hinv.known j other)
      dsimp only
      by_cases hother : other = queueId
      . rw [hother, Function.update_self]
        simp
      . rw [Function.update_of_ne hother]
    . intro j
      apply (hinv.phases j).congr
      intro other
      dsimp only [System.setLedgers]
      by_cases hother : other = queueId
      . rw [hother, Function.update_self]
        exact List.take_append_of_le_length (hinv.known j queueId)
      . rw [Function.update_of_ne hother]
    . exact hinv.grants
  . exact hinv

theorem Inv.select (hinv : Inv s) {call : PrepareCall} {state : LeaseState}
    (hphase : s.phase i = .purged call state)
    : Inv (s.select i call state) := by
  have hseen : SeenOk s i call := by
    have := hinv.phases i
    rw [hphase] at this
    exact this
  unfold System.select
  dsimp only
  apply Inv.goto
  . refine hinv.change rfl rfl rfl rfl ?_
    apply (ClosesRuns.quarantineAll s.home.ledgers (call.pendingRows s.home)).trans
    exact dispatchLocked_closes call _ _
  . refine ⟨hseen, ?_⟩
    intro item hleased
    exact isOpen_of_leased hleased

theorem Inv.grant (hinv : Inv s) {grant : Grant} (hcurrent : grant.isCurrent = true)
    : Inv { s with grants := s.grants ++ [grant] } := by
  constructor
  . exact hinv.ledger
  . exact hinv.known
  . intro i
    apply (hinv.phases i).congr
    intro queueId
    rfl
  . intro other hother
    rw [List.mem_append, List.mem_singleton] at hother
    cases hother with
    | inl hold => exact hinv.grants other hold
    | inr hnew =>
      rw [hnew]
      exact hcurrent

theorem Inv.write (hinv : Inv s) {call : PrepareCall} {state : LeaseState} {write : LeaseWrite}
    (hphase : s.phase i = .selected call state write)
    (hguard : evidenceIsCurrent s (.step i) = true)
    : Inv (s.write i call state write) := by
  have hok := hinv.phases i
  rw [hphase] at hok
  cases write with
  | unwritten => exact hinv.goto trivial
  | purged =>
    apply Inv.goto
    . exact hinv.change rfl rfl rfl rfl (.of_eq rfl)
    . exact trivial
  | leased item =>
    have hknown : s.known i item.queueId = (s.evidence item.queueId).length := by
      unfold evidenceIsCurrent at hguard
      simpa [hphase] using hguard
    have hcovers := hok.1 item.queueId
    rw [hknown, List.take_length] at hcovers
    have hgrant := hinv.grant (isCurrent_of_isOpen (hok.2 item rfl) hcovers)
    apply Inv.goto
    . exact hgrant.change rfl rfl rfl rfl (.of_eq rfl)
    . exact trivial

theorem inv_stepProcess (hinv : Inv s) (i : Nat) (hguard : evidenceIsCurrent s (.step i) = true)
    : Inv (s.stepProcess i) := by
  have hok := hinv.phases i
  unfold System.stepProcess
  cases hphase : s.phase i with
  | idle => exact hinv
  | indexed call =>
    rw [hphase] at hok
    dsimp only [System.acquire]
    split
    . exact hinv
    . apply Inv.goto
      . exact hinv.change rfl rfl rfl rfl (.of_eq rfl)
      . exact hok
  | locked call =>
    rw [hphase] at hok
    apply Inv.goto
    . exact hinv.change rfl rfl rfl rfl (.of_eq rfl)
    . exact hok
  | purged call state => exact hinv.select hphase
  | selected call state write => exact hinv.write hphase hguard
  | written call leased =>
    dsimp only [System.unlock]
    apply Inv.goto
    . exact hinv.change rfl rfl rfl rfl (.of_eq rfl)
    . cases leased with
      | none => exact trivial
      | some item => exact trivial
  | holding queueId authority => exact hinv

theorem inv_giveUp (hinv : Inv s) (i : Nat) : Inv (s.giveUp i) := by
  unfold System.giveUp
  split
  . exact hinv.goto trivial
  . exact hinv

theorem release_ledgers (home : QueueHome) (queueId : String)
    (authority : RuntimeQueueLeaseReleaseAuthority)
    : (releaseRuntimeQueueLeaseIfOwned home queueId authority).1.ledgers = home.ledgers := by
  unfold releaseRuntimeQueueLeaseIfOwned
  dsimp only
  split
  . rfl
  . split
    . rfl
    . split
      . rfl
      . rfl

theorem inv_release (hinv : Inv s) (i : Nat) : Inv (s.release i) := by
  unfold System.release
  split
  . next queueId authority _ =>
    split
    . exact hinv
    . apply Inv.goto
      . refine hinv.change rfl rfl rfl rfl ?_
        apply ClosesRuns.of_eq
        rw [release_ledgers]
      . exact trivial
  . exact hinv

theorem inv_step (s : System) (action : Action) (hinv : Inv s)
    (hguard : evidenceIsCurrent s action = true)
    : Inv (s.step action) := by
  cases action with
  | begin i call =>
    dsimp only [System.step]
    split
    . next hidle => exact hinv.index hidle call
    . exact hinv
  | step i => exact inv_stepProcess hinv i hguard
  | giveUp i => exact inv_giveUp hinv i
  | append i receipt => exact hinv.append i receipt
  | release i => exact inv_release hinv i
  | enqueue item => exact hinv.change rfl rfl rfl rfl (.of_eq rfl)
  | recordPrepared receipt => exact hinv.change rfl rfl rfl rfl (.of_eq rfl)
  | setControls controls => exact hinv.change rfl rfl rfl rfl (.of_eq rfl)

theorem inv_start (home : QueueHome) : Inv (System.start home) := by
  constructor
  . intro queueId
    exact Covers.nil home.ledgers.receipts queueId
  . intro i queueId
    exact Nat.zero_le 0
  . intro i
    exact trivial
  . intro grant hgrant
    cases hgrant

end Invariant

section Runs

theorem grants_are_current (home : QueueHome) (actions : List Action)
    (hguard : Run.Guarded System.step (fun s action => evidenceIsCurrent s action = true)
      (System.start home) actions)
    : ∀ grant ∈ (Run.exec System.step (System.start home) actions).grants,
        grant.isCurrent = true := by
  have hinv : Inv (Run.exec System.step (System.start home) actions) := by
    apply Run.exec_invariant_of_guarded Inv inv_step _ hguard
    exact inv_start home
  exact hinv.grants

def sampleQueue : QueueHome := sampleHome (sampleLedgers [sampleWorkerItem] [])

def sampleCall (nowMs : Int) (owner : String) : PrepareCall :=
  samplePrepare nowMs owner sampleQueue.ledgers

def sampleFinal (status : String) : FinalReceipt where
  status
  reason := none
  retrySchedule := none

/-
Process 0 runs the item and parks it. With `early` process 1 has read the receipts before that, and
goes on when process 0 has released its lease; else it reads them afterwards.
-/
def sampleActions (early : Bool) : List Action :=
  Action.begin 0 (sampleCall 2000 "pid:1") :: List.replicate 5 (Action.step 0)
    ++ (if early then [Action.begin 1 (sampleCall 3000 "pid:2")] else [])
    ++ [Action.append 0 (sampleFinal "needs-user"), Action.release 0]
    ++ (if early then [] else [Action.begin 1 (sampleCall 3000 "pid:2")])
    ++ List.replicate 5 (Action.step 1)

theorem sampleActions_grants
    : (Run.exec System.step (System.start sampleQueue) (sampleActions false)).grants.length = 1
      ∧ (Run.exec System.step (System.start sampleQueue)
          (sampleActions false)).grants.all Grant.isCurrent = true := by
  refine ⟨by decide +kernel, List.all_eq_true.mpr ?_⟩
  apply grants_are_current sampleQueue (sampleActions false)
  decide +kernel

theorem parked_item_is_leased_again
    : ¬ ∀ (home : QueueHome) (actions : List Action),
        ∀ grant ∈ (Run.exec System.step (System.start home) actions).grants,
          grant.isCurrent = true := by
  intro hclaim
  have hparked : (Run.exec System.step (System.start sampleQueue)
      (sampleActions true)).grants.all Grant.isCurrent = false := by
    decide +kernel
  rw [List.all_eq_true.mpr (hclaim sampleQueue (sampleActions true))] at hparked
  cases hparked

end Runs

end Dispatch

end RuntimeQueue
