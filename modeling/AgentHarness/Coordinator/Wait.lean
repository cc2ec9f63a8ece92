import AgentHarness.Lib.Table
import AgentHarness.Coordinator.Owner
import Mathlib.Data.List.Sort
import Mathlib.Data.List.Destutter

/-!
The durable waits of coordinators: the table `worker_coordinator_waits_v1` and the transactions that
write it.
-/

namespace Coordinator

def workerCoordinatorWaitSchema : String := "agent-harness.worker-coordinator-wait.v1"

inductive WorkerCoordinationError where
  | sqlite (reason : String)
  | json (reason : String)
  | invalidInput (reason : String)
  | invalidStoredData (reason : String)
  | conflict (reason : String)
  deriving DecidableEq

def WorkerCoordinationError.message (self : WorkerCoordinationError) : String :=
  match self with
  | .sqlite error => s!"coordinator wait SQLite error: {error}"
  | .json error => s!"coordinator wait JSON error: {error}"
  | .invalidInput reason => s!"invalid coordinator wait: {reason}"
  | .invalidStoredData reason => s!"invalid stored coordinator wait: {reason}"
  | .conflict reason => s!"coordinator wait conflict: {reason}"

inductive WorkerCoordinatorWaitStateV1 where
  | waitingForChildren
  | resumeScheduled
  | consumed
  | quarantined
  deriving DecidableEq

namespace WorkerCoordinatorWaitStateV1

def asStr (self : WorkerCoordinatorWaitStateV1) : String :=
  match self with
  | .waitingForChildren => "waiting-for-children"
  | .resumeScheduled => "resume-scheduled"
  | .consumed => "consumed"
  | .quarantined => "quarantined"

-- `state IN ('waiting-for-children','resume-scheduled')`
def isActive (self : WorkerCoordinatorWaitStateV1) : Bool :=
  match self with
  | .waitingForChildren => true
  | .resumeScheduled => true
  | .consumed => false
  | .quarantined => false

end WorkerCoordinatorWaitStateV1

structure WorkerCoordinatorWaitV1 where
  schema : String
  waitId : String
  coordinatorKey : String
  owner : ExactWorkerResultOwnerV1
  parentQueueId : String
  childGroupId : String
  expectedChildJobIds : List String
  state : WorkerCoordinatorWaitStateV1
  resumeIntentId : Option String
  createdAtMs : Int
  updatedAtMs : Int
  deriving DecidableEq

structure WorkerCoordinatorWaitCreateOptionsV1 where
  waitId : String
  owner : ExactWorkerResultOwnerV1
  childGroupId : String
  expectedChildJobIds : List String
  nowMs : Int

inductive WorkerCoordinatorWaitDispositionV1 where
  | created
  | replayed

structure WorkerCoordinatorWaitCreateOutcomeV1 where
  disposition : WorkerCoordinatorWaitDispositionV1
  wait : WorkerCoordinatorWaitV1

structure WaitRow where
  waitId : String
  schema : String
  coordinatorKey : String
  ownerJson : Stored ExactWorkerResultOwnerV1
  parentQueueId : String
  childGroupId : String
  expectedChildJobIdsJson : Stored (List String)
  state : WorkerCoordinatorWaitStateV1
  resumeIntentId : Option String
  createdAtMs : Int
  updatedAtMs : Int
  deriving DecidableEq

-- the CHECK on `state` is the type of the column
def waitTable : Schema WaitRow String where
  key := WaitRow.waitId
  check row := row.schema = workerCoordinatorWaitSchema
  clash row other :=
    row.state.isActive && other.state.isActive
      && row.coordinatorKey = other.coordinatorKey && row.childGroupId = other.childGroupId

abbrev Waits := Table waitTable

abbrev WaitTransaction := Transaction WorkerCoordinationError Waits

def Wait.validateIdentifier (field value : String) : Except WorkerCoordinationError Unit :=
  .require
    (!(value = "" || value ≠ Text.trim value || value.utf8ByteSize > 512
      || value.toList.any Text.isControl))
    (.invalidInput s!"{field} is missing, non-canonical, or too long")

def Wait.requireNow (nowMs : Int) : Except WorkerCoordinationError Unit :=
  .require (0 ≤ nowMs) (.invalidInput "nowMs must be non-negative")

def Wait.ownerResult {α : Type} (result : Except WorkerResultMailboxError α)
    : Except WorkerCoordinationError α :=
  result.mapError fun error => .invalidInput error.message

def canonicalChildren (expectedChildJobIds : List String)
    : Except WorkerCoordinationError (List String) := do
  .require (expectedChildJobIds ≠ []) (.invalidInput "expectedChildJobIds must not be empty")
  .require (expectedChildJobIds.length ≤ 256)
    (.invalidInput "expectedChildJobIds exceeds 256 entries")
  expectedChildJobIds.forM (Wait.validateIdentifier "expectedChildJobId")
  let childIds := expectedChildJobIds.insertionSort Text.le
  .require ((childIds.destutter (· ≠ ·)).length = childIds.length)
    (.invalidInput "expectedChildJobIds contains duplicates")
  return childIds

def canonicalWait (options : WorkerCoordinatorWaitCreateOptionsV1)
    : Except WorkerCoordinationError WorkerCoordinatorWaitV1 := do
  Wait.validateIdentifier "waitId" options.waitId
  Wait.validateIdentifier "childGroupId" options.childGroupId
  Wait.requireNow options.nowMs
  Wait.ownerResult options.owner.validate
  let parentQueueId ← .ofOption options.owner.parentQueueId
    (.invalidInput "exact coordinator owner requires parentQueueId")
  let coordinatorKey ← Wait.ownerResult options.owner.coordinatorKey
  let childIds ← canonicalChildren options.expectedChildJobIds
  return {
    schema := workerCoordinatorWaitSchema
    waitId := options.waitId
    coordinatorKey
    owner := options.owner
    parentQueueId
    childGroupId := options.childGroupId
    expectedChildJobIds := childIds
    state := .waitingForChildren
    resumeIntentId := none
    createdAtMs := options.nowMs
    updatedAtMs := options.nowMs }

def validateStoredWait (wait : WorkerCoordinatorWaitV1) : Except WorkerCoordinationError Unit := do
  let schema := wait.schema
  .require (schema = workerCoordinatorWaitSchema)
    (.invalidStoredData s!"unsupported schema `{schema}`")
  let expected ← canonicalWait {
    waitId := wait.waitId
    owner := wait.owner
    childGroupId := wait.childGroupId
    expectedChildJobIds := wait.expectedChildJobIds
    nowMs := wait.createdAtMs }
  .require (!(wait.coordinatorKey ≠ expected.coordinatorKey
      || wait.parentQueueId ≠ expected.parentQueueId
      || wait.expectedChildJobIds ≠ expected.expectedChildJobIds
      || wait.updatedAtMs < wait.createdAtMs))
    (.invalidStoredData "stored wait does not match its exact owner or canonical children")

-- `FromSqlConversionFailure`, as the error of the query
def Wait.fromSql (reason : String) : WorkerCoordinationError :=
  .sqlite ("Conversion error from type Text at index: 0, " ++ reason)

def decodeWaitRow (row : WaitRow) : Except WorkerCoordinationError WorkerCoordinatorWaitV1 := do
  let owner ← .ofOption row.ownerJson.decode (Wait.fromSql "invalid JSON")
  let expectedChildJobIds ← .ofOption row.expectedChildJobIdsJson.decode
    (Wait.fromSql "invalid JSON")
  let wait : WorkerCoordinatorWaitV1 := {
    schema := row.schema
    waitId := row.waitId
    coordinatorKey := row.coordinatorKey
    owner
    parentQueueId := row.parentQueueId
    childGroupId := row.childGroupId
    expectedChildJobIds
    state := row.state
    resumeIntentId := row.resumeIntentId
    createdAtMs := row.createdAtMs
    updatedAtMs := row.updatedAtMs }
  (validateStoredWait wait).mapError fun error => Wait.fromSql error.message
  return wait

def loadWorkerCoordinatorWait (waitId : String) (waits : Waits)
    : Except WorkerCoordinationError (Option WorkerCoordinatorWaitV1) := do
  Wait.validateIdentifier "waitId" waitId
  match waits.find waitId with
  | none => return none
  | some row => (decodeWaitRow row).map some

def WorkerCoordinatorWaitV1.row (self : WorkerCoordinatorWaitV1) : WaitRow where
  waitId := self.waitId
  schema := self.schema
  coordinatorKey := self.coordinatorKey
  ownerJson := .of self.owner
  parentQueueId := self.parentQueueId
  childGroupId := self.childGroupId
  expectedChildJobIdsJson := .of self.expectedChildJobIds
  state := self.state
  resumeIntentId := none
  createdAtMs := self.createdAtMs
  updatedAtMs := self.createdAtMs

def persistCanonicalWait (wait : WorkerCoordinatorWaitV1)
    : WaitTransaction WorkerCoordinatorWaitCreateOutcomeV1 := do
  let waitId := wait.waitId
  match ← Transaction.query (loadWorkerCoordinatorWait waitId) with
  | some existing =>
    Transaction.check (.require (existing = wait) (.conflict
      s!"waitId `{waitId}` already exists with different immutable ownership or children"))
    return { disposition := .replayed, wait := existing }
  | none =>
    Transaction.write (fun waits => waits.insert wait.row)
      (.conflict "another active wait already owns this coordinator/group")
    return { disposition := .created, wait }

def persistWaitingForChildren (options : WorkerCoordinatorWaitCreateOptionsV1)
    : WaitTransaction WorkerCoordinatorWaitCreateOutcomeV1 := do
  let wait ← Transaction.check (canonicalWait options)
  persistCanonicalWait wait

-- WHERE and SET of the UPDATE that moves a wait
def Wait.mayMove (waitId intentId : String) (source : WorkerCoordinatorWaitStateV1) (row : WaitRow)
    : Bool :=
  row.waitId = waitId && row.state = source
    && (row.resumeIntentId.isNone || row.resumeIntentId = some intentId)

def Wait.move (intentId : String) (target : WorkerCoordinatorWaitStateV1) (nowMs : Int)
    (row : WaitRow)
    : WaitRow :=
  { row with state := target, resumeIntentId := some intentId, updatedAtMs := nowMs }

def transitionWait (waitId intentId : String) (source target : WorkerCoordinatorWaitStateV1)
    (nowMs : Int)
    : WaitTransaction WorkerCoordinatorWaitV1 := do
  Transaction.check (Wait.validateIdentifier "waitId" waitId)
  Transaction.check (Wait.validateIdentifier "intentId" intentId)
  Transaction.check (Wait.requireNow nowMs)
  let found ← Transaction.query (loadWorkerCoordinatorWait waitId)
  let existing ← Transaction.check
    (.ofOption found (.invalidInput s!"waitId `{waitId}` does not exist"))
  if existing.state = target && existing.resumeIntentId = some intentId then
    return existing
  else
    let current := existing.state.asStr
    let next := target.asStr
    Transaction.check (.require
      (!(existing.state ≠ source || existing.resumeIntentId.any (· ≠ intentId)))
      (.conflict
        s!"waitId `{waitId}` cannot transition from {current} to {next} for intent `{intentId}`"))
    let changed ← Transaction.query fun waits =>
      .ok (waits.changed (Wait.mayMove waitId intentId source))
    Transaction.write
      (fun waits => waits.update (Wait.mayMove waitId intentId source)
        (Wait.move intentId target nowMs))
      (.sqlite "UNIQUE constraint failed")
    Transaction.check (.require (changed = 1)
      (.conflict s!"waitId `{waitId}` changed concurrently"))
    let moved ← Transaction.query (loadWorkerCoordinatorWait waitId)
    Transaction.check
      (.ofOption moved (.invalidStoredData s!"waitId `{waitId}` disappeared after transition"))

def markWorkerCoordinatorResumeScheduled (waitId intentId : String) (nowMs : Int)
    : WaitTransaction WorkerCoordinatorWaitV1 :=
  transitionWait waitId intentId .waitingForChildren .resumeScheduled nowMs

def markWorkerCoordinatorWaitConsumed (waitId intentId : String) (nowMs : Int)
    : WaitTransaction WorkerCoordinatorWaitV1 :=
  transitionWait waitId intentId .resumeScheduled .consumed nowMs

-- ORDER BY created_at_ms, wait_id
def WaitRow.le (left right : WaitRow) : Prop :=
  left.createdAtMs < right.createdAtMs
    ∨ (left.createdAtMs = right.createdAtMs ∧ Text.le left.waitId right.waitId)

instance : DecidableRel WaitRow.le := fun left right =>
  inferInstanceAs (Decidable (left.createdAtMs < right.createdAtMs
    ∨ (left.createdAtMs = right.createdAtMs ∧ Text.le left.waitId right.waitId)))

def Wait.activeWaits (waits : Waits) : List WaitRow :=
  (waits.rows.filter fun row => row.state.isActive).insertionSort WaitRow.le

/-
The first loop of the quarantine: the waits of the child that are still waiting, unless one of them is
scheduled or cannot be read.
-/
def Wait.waitingFor (childJobId : String) (rows : List WaitRow)
    : Except WorkerCoordinationError (List String) :=
  match rows with
  | [] => .ok []
  | row :: rows => do
    let waitId := row.waitId
    let childIds ← .ofOption row.expectedChildJobIdsJson.decode
      (.invalidStoredData s!"waitId `{waitId}` has invalid expected child ids: invalid JSON")
    if childIds.contains childJobId then
      match row.state with
      | .waitingForChildren =>
        let waiting ← Wait.waitingFor childJobId rows
        return waitId :: waiting
      | .resumeScheduled =>
        .error (.conflict
          s!"child `{childJobId}` already belongs to resume-scheduled wait `{waitId}`")
      | .consumed => Wait.waitingFor childJobId rows
      | .quarantined => Wait.waitingFor childJobId rows
    else
      Wait.waitingFor childJobId rows

def Wait.mayQuarantine (waitId : String) (row : WaitRow) : Bool :=
  row.waitId = waitId && row.state = .waitingForChildren && row.resumeIntentId.isNone

def Wait.quarantine (nowMs : Int) (row : WaitRow) : WaitRow :=
  { row with state := .quarantined, updatedAtMs := nowMs }

def quarantineWait (childJobId : String) (nowMs : Int) (waitId : String)
    : WaitTransaction Unit := do
  let changed ← Transaction.query fun waits => .ok (waits.changed (Wait.mayQuarantine waitId))
  Transaction.write
    (fun waits => waits.update (Wait.mayQuarantine waitId) (Wait.quarantine nowMs))
    (.sqlite "UNIQUE constraint failed")
  Transaction.check (.require (changed = 1)
    (.conflict s!"waitId `{waitId}` changed while quarantining child `{childJobId}`"))

def quarantineWaits (childJobId : String) (nowMs : Int) (waiting : List String)
    : WaitTransaction Unit :=
  match waiting with
  | [] => return ()
  | waitId :: waiting => do
    quarantineWait childJobId nowMs waitId
    quarantineWaits childJobId nowMs waiting

def quarantineWorkerCoordinatorWaitsForChild (childJobId : String) (nowMs : Int)
    : WaitTransaction (List String) := do
  Transaction.check (Wait.validateIdentifier "childJobId" childJobId)
  Transaction.check (Wait.requireNow nowMs)
  let waiting ← Transaction.query fun waits =>
    Wait.waitingFor childJobId (Wait.activeWaits waits)
  quarantineWaits childJobId nowMs waiting
  return waiting

inductive WaitCall where
  | persist (options : WorkerCoordinatorWaitCreateOptionsV1)
  | markResumeScheduled (waitId intentId : String) (nowMs : Int)
  | markConsumed (waitId intentId : String) (nowMs : Int)
  | quarantineForChild (childJobId : String) (nowMs : Int)

-- each call in a transaction of its own
def WaitCall.exec (waits : Waits) (call : WaitCall) : Waits :=
  match call with
  | .persist options => (persistWaitingForChildren options).commit waits
  | .markResumeScheduled waitId intentId nowMs =>
    (markWorkerCoordinatorResumeScheduled waitId intentId nowMs).commit waits
  | .markConsumed waitId intentId nowMs =>
    (markWorkerCoordinatorWaitConsumed waitId intentId nowMs).commit waits
  | .quarantineForChild childJobId nowMs =>
    (quarantineWorkerCoordinatorWaitsForChild childJobId nowMs).commit waits

end Coordinator
