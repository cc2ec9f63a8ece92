import AgentHarness.RuntimeQueue.Release

/-!
Prepares of several processes side by side, step by step: a prepare reads the ledgers and the index of
the run-once receipts before it has the class lock, and purges, selects and writes under the lock. A
process that got a lease appends its run-once receipts and then releases the lease.
-/

namespace RuntimeQueue

def dispatchLocked (call : PrepareCall) (ctx : DispatchContext) (ledgers : QueueLedgers)
    : PrepareResult :=
  match call.requestedQueueId with
  | none => prepareUnasked call ctx ledgers
  | some queueId => prepareRequested call ctx ledgers queueId

namespace Dispatch

inductive Phase where
  | idle
  | indexed (call : PrepareCall)
  | locked (call : PrepareCall)
  | purged (call : PrepareCall) (state : LeaseState)
  | selected (call : PrepareCall) (state : LeaseState) (write : LeaseWrite)
  | written (call : PrepareCall) (leased : Option PendingQueueItem)
  | holding (queueId : String) (authority : RuntimeQueueLeaseReleaseAuthority)

/-
A lease as it was written, with the run-once receipts that the holders of the item had appended by
then.
-/
structure Grant where
  queueId : String
  nowMs : Int
  evidence : List RunOnceReceipt

/-
The home, the class locks and the processes, with what an observer remembers: the run-once receipts
of the holders of each item, how many of them were in the ledger when a process read it, and the
leases that were written.
-/
structure System where
  home : QueueHome
  lock : LeaseFile → Option Nat
  phase : Nat → Phase
  evidence : String → List RunOnceReceipt
  known : Nat → String → Nat
  grants : List Grant

structure FinalReceipt where
  status : String
  reason : Option String
  retrySchedule : Option RuntimeRetrySchedule

def FinalReceipt.receipt (self : FinalReceipt) (queueId : String) : RunOnceReceipt where
  schema := .text runtimeRunOnceReceiptSchema
  queueId := some queueId
  status := some self.status
  reason := self.reason
  retrySchedule := self.retrySchedule

/-
`begin` starts a prepare, whose `seen` is what it reads then; `giveUp` is a prepare that waits for
the lock no longer. The last three are changes of the ledgers that prepares and holders do not make:
new rows, receipts of prepared prompts and markers of an operator.
-/
inductive Action where
  | begin (i : Nat) (call : PrepareCall)
  | step (i : Nat)
  | giveUp (i : Nat)
  | append (i : Nat) (receipt : FinalReceipt)
  | release (i : Nat)
  | enqueue (item : PendingQueueItem)
  | recordPrepared (receipt : PreparedReceipt)
  | setControls (controls : QueueControls)

namespace System

def goto (s : System) (i : Nat) (phase : Phase) : System :=
  { s with phase := fun j => if j = i then phase else s.phase j }

def setLedgers (s : System) (ledgers : QueueLedgers) : System :=
  { s with home := { s.home with ledgers } }

def setLock (s : System) (file : LeaseFile) (holder : Option Nat) : System :=
  { s with lock := fun other => if other = file then holder else s.lock other }

def index (s : System) (i : Nat) (call : PrepareCall) : System :=
  let call := { call with seen := s.home.ledgers }
  let s := { s with
    known := fun j => if j = i then fun queueId => (s.evidence queueId).length else s.known j }
  (s.setLedgers (call.quarantined s.home.ledgers)).goto i (.indexed call)

def acquire (s : System) (i : Nat) (call : PrepareCall) : System :=
  if (s.lock call.lockFile).isSome then
    s
  else
    (s.setLock call.lockFile (some i)).goto i (.locked call)

def purge (s : System) (i : Nat) (call : PrepareCall) : System :=
  let (state, fences) := call.purge s.home
  { s with home := { s.home with fences } }.goto i (.purged call state)

def context (s : System) (call : PrepareCall) (state : LeaseState) : DispatchContext :=
  { call.context s.home with state, fences := s.home.fences }

def select (s : System) (i : Nat) (call : PrepareCall) (state : LeaseState) : System :=
  let ledgers := (call.pendingRows s.home).foldl quarantineInvalidItem s.home.ledgers
  let result := dispatchLocked call (s.context call state) ledgers
  (s.setLedgers result.ledgers).goto i (.selected call state result.write)

def writeFile (s : System) (file : LeaseFile) (state : LeaseState) : System :=
  { s with home := { s.home with files := s.home.files.insert file state } }

def write (s : System) (i : Nat) (call : PrepareCall) (state : LeaseState) (write : LeaseWrite)
    : System :=
  match write with
  | .unwritten => s.goto i (.written call none)
  | .purged => (s.writeFile call.lockFile state).goto i (.written call none)
  | .leased item =>
    let grant := {
      queueId := item.queueId
      nowMs := call.nowMs
      evidence := s.evidence item.queueId : Grant }
    let state := leaseRuntimeQueueItem state item call.owner call.nowMs
    { s.writeFile call.lockFile state with grants := s.grants ++ [grant] }.goto i
      (.written call (some item))

def unlock (s : System) (i : Nat) (call : PrepareCall) (leased : Option PendingQueueItem) : System :=
  let next :=
    match leased with
    | none => .idle
    | some item => .holding item.queueId { runtimeClass := item.runtimeClass, owner := call.owner }
  (s.setLock call.lockFile none).goto i next

def stepProcess (s : System) (i : Nat) : System :=
  match s.phase i with
  | .idle => s
  | .indexed call => s.acquire i call
  | .locked call => s.purge i call
  | .purged call state => s.select i call state
  | .selected call state write => s.write i call state write
  | .written call leased => s.unlock i call leased
  | .holding _ _ => s

def giveUp (s : System) (i : Nat) : System :=
  match s.phase i with
  | .indexed _ => s.goto i .idle
  | _ => s

def append (s : System) (i : Nat) (receipt : FinalReceipt) : System :=
  match s.phase i with
  | .holding queueId _ =>
    let receipt := receipt.receipt queueId
    let ledgers := { s.home.ledgers with receipts := s.home.ledgers.receipts ++ [receipt] }
    { s.setLedgers ledgers with
      evidence := Function.update s.evidence queueId (s.evidence queueId ++ [receipt]) }
  | _ => s

def release (s : System) (i : Nat) : System :=
  match s.phase i with
  | .holding queueId authority =>
    if (s.lock (runtimeQueueLeasesFile authority.runtimeClass)).isSome then
      s
    else
      { s with home := (releaseRuntimeQueueLeaseIfOwned s.home queueId authority).1 }.goto i .idle
  | _ => s

def step (s : System) (action : Action) : System :=
  match action with
  | .begin i call =>
    match s.phase i with
    | .idle => s.index i call
    | _ => s
  | .step i => s.stepProcess i
  | .giveUp i => s.giveUp i
  | .append i receipt => s.append i receipt
  | .release i => s.release i
  | .enqueue item =>
    s.setLedgers { s.home.ledgers with pending := s.home.ledgers.pending ++ [item] }
  | .recordPrepared receipt =>
    s.setLedgers {
      s.home.ledgers with
      prepared := s.home.ledgers.prepared.insert receipt.queueId receipt }
  | .setControls controls => s.setLedgers { s.home.ledgers with controls }

def start (home : QueueHome) : System where
  home
  lock _ := none
  phase _ := .idle
  evidence _ := []
  known _ _ := 0
  grants := []

end System

def postponesDispatch (receipt : RunOnceReceipt) (nowMs : Int) : Bool :=
  receipt.status = some "needs-user"
    || receipt.status = some "auth-deferred"
    || (receipt.status = some "retry-pending"
      && receipt.retrySchedule.any fun schedule => nowMs < schedule.nextEligibleAtMs)

def Grant.isCurrent (self : Grant) : Bool :=
  (self.evidence.all fun receipt => !receipt.status.any isTerminalRunOnceStatus)
    && self.evidence.getLast?.all fun receipt => !postponesDispatch receipt self.nowMs

def evidenceIsCurrent (s : System) (action : Action) : Bool :=
  match action with
  | .step i =>
    match s.phase i with
    | .selected _ _ (.leased item) => s.known i item.queueId = (s.evidence item.queueId).length
    | _ => true
  | _ => true

end Dispatch

end RuntimeQueue
