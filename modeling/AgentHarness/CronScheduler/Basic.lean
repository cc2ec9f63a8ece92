import AgentHarness.Lib.Faulty
import AgentHarness.CronRuns.Impl
import AgentHarness.CronScheduler.Schedule

/-!
The state of the cron scheduler: the worker jobs it enqueues, the watermarks of the slots it has
enqueued and the receipts of its ticks, beside the store of cron runs.
-/

namespace CronScheduler

open CronRuns (Slot CronRun CronRunAdmitOptions)

def defaultWorkerTimeoutMs : Nat := 300000
def minDeterministicTimeoutMs : Nat := 1000
def maxDeterministicTimeoutMs : Nat := 86400000
def maxDeterministicAttempts : Int := 10

structure CronSchedulerConfig where
  enabled : Bool
  nativeEnabled : Bool
  includeRegisteredCron : Bool
  deterministicEnabled : Bool
  executeShell : Bool
  maxCatchupPerTick : Nat
  maxEnqueuePerTick : Nat
  maxActiveRunsPerJob : Nat
  maxActiveRunsPerAgent : Nat
  maxQueuedPerAgent : Nat
  -- a zero is replaced when the configuration is loaded, and an override is raised to one
  maxEnqueuePerTick_pos : 0 < maxEnqueuePerTick

inductive CronSchedulerJobDecisionStatus where
  | enqueued
  | skippedHeld
  | skippedDuplicate
  | skippedPolicy
  | error
  deriving DecidableEq

structure CronSchedulerCatchUpDecision where
  decision : String
  missedSlots : List Int
  deriving DecidableEq

structure CronSchedulerJobDecision where
  sourceKind : String
  sourceId : String
  entryId : String
  scheduledForMs : Int
  workerJobId : Option String
  idempotencyKey : Option String
  catchUp : Option CronSchedulerCatchUpDecision
  decision : CronSchedulerJobDecisionStatus
  reason : String
  deriving DecidableEq

def notDueReason : String := "schedule is not due in the current scheduler slot"

def CronSchedulerJobDecision.shouldPersist (self : CronSchedulerJobDecision) : Bool :=
  self.decision ≠ .skippedPolicy || self.reason ≠ notDueReason

inductive CronSchedulerTickStatus where
  | disabled
  | dryRun
  | completed
  | lockBusy
  | error
  deriving DecidableEq

inductive Receipt where
  | job (decision : CronSchedulerJobDecision)
  | tick (nowMs : Int) (status : CronSchedulerTickStatus) (dryRun : Bool)
  deriving DecidableEq

-- The payload of a worker job, as far as the scheduler checks it.
structure CronPayload where
  cronRunId : String
  sourceKind : String
  sourceId : String
  entryId : String
  scheduledForMs : Int
  agentId : String
  sessionKey : String
  sessionPolicy : String
  runtimeClass : String
  origin : String
  cronRunAttempt : Option Int
  -- the message of a native job or the command of a deterministic one
  work : String
  dryRun : Bool
  catchUp : Option CronSchedulerCatchUpDecision
  deriving DecidableEq

inductive WorkerJobKind where
  | llmSubagent
  | deterministicShell
  deriving DecidableEq

def WorkerJobKind.asStr (self : WorkerJobKind) : String :=
  match self with
  | .llmSubagent => "llm_subagent"
  | .deterministicShell => "deterministic_shell"

structure WorkerJob where
  jobId : String
  kind : WorkerJobKind
  lane : String
  source : Option String
  payload : CronPayload
  idempotencyKey : String
  maxAttempts : Int
  timeoutMs : Nat
  createdAtMs : Int
  deriving DecidableEq

def jobsTable : Schema WorkerJob String where
  key := WorkerJob.jobId
  check _ := true
  -- idempotency_key TEXT NOT NULL UNIQUE
  clash job other := job.idempotencyKey = other.idempotencyKey

structure Watermark where
  slot : Slot
  enqueuedAtMs : Int
  workerJobId : String
  reason : String

def watermarksTable : Schema Watermark Slot where
  key := Watermark.slot
  check _ := true
  clash _ _ := false

structure World where
  runs : CronRuns.Store
  jobs : Table jobsTable
  watermarks : Table watermarksTable
  -- the lines of `receipts.jsonl`, and those of the files that it was rotated to
  receipts : List Receipt
  archived : List Receipt

def World.empty : World where
  runs := CronRuns.Store.empty
  jobs := Table.empty _
  watermarks := Table.empty _
  receipts := []
  archived := []

inductive Failure where
  | error (e : IoError)
  | crash
  deriving DecidableEq

-- The accesses to a store or a file that one entry makes, each at most once.
inductive Access where
  | slotLookup
  | clearWatermark
  | watermarkLookup
  | legacyWatermarkLookup
  | quarantineLookup
  | activeJobCount
  | activeAgentCount
  | admitRun
  | enqueue
  | lifecycle
  | keyLookup
  | expire
  | block
  | link
  | linkLookup
  | insertWatermark
  deriving DecidableEq

abbrev Faults := Access → Option Failure

structure Tick where
  world : World
  enqueued : Nat
  dueCandidates : Nat
  warnings : List String

abbrev Step (α : Type) := Faulty Tick Failure α

def perform {α : Type} (faults : Faults) (access : Access) (f : World → Outcome World α) : Step α :=
  fun tick =>
    match faults access with
    | some failure => (.error failure, tick)
    | none =>
      match f tick.world with
      | (world, .ok a) => (.ok a, { tick with world })
      | (world, .error e) => (.error (.error e), { tick with world })

def onRuns {α : Type} (f : CronRuns.Store → Outcome CronRuns.Store α) (world : World)
    : Outcome World α :=
  ({ world with runs := (f world.runs).1 }, (f world.runs).2)

def query {α : Type} (f : World → α) (world : World) : Outcome World α :=
  (world, .ok (f world))

def ofRead {α : Type} (read : Read α) : Except Failure α :=
  match read with
  | .ok a => .ok a
  | .error (.malformed message) => .error (.error { kind := .other, message })
  | .error .panic => .error .crash

def normalizeKeyPart (value : String) : String :=
  let normalized := Text.mapChars (fun ch =>
    if ch.isAlphanum || ch = '-' || ch = '_' || ch = '.' then ch.toLower else '_') value
  if normalized = "" then "unknown" else normalized

def stableSourceId (kind path : String) : String :=
  normalizeKeyPart kind ++ ":" ++ Text.hex16 (Text.fnv1a (Text.utf8Bytes path))

def schedulerIdempotencyKey (slot : Slot) (attempt : Int) : String :=
  let (sourceKind, sourceId, entryId, scheduledForMs) := slot
  let base := "cron-scheduler:" ++ sourceKind ++ ":" ++ sourceId ++ ":" ++ entryId ++ ":"
    ++ toString scheduledForMs
  if attempt > 0 then
    base ++ ":attempt:" ++ toString attempt
  else
    base

structure DeterministicExecutionPolicy where
  timeoutMs : Nat
  maxAttempts : Int

def DeterministicExecutionPolicy.default : DeterministicExecutionPolicy where
  timeoutMs := defaultWorkerTimeoutMs
  maxAttempts := 3

/-
The entry of `cron-canon.json` that belongs to a deterministic entry. A number that is not an integer of
the type is `some none`.
-/
structure CanonEntry where
  id : Option String
  catchUpPolicy : Option String
  timeoutMs : Option (Option Nat)
  maxAttempts : Option (Option Int)

inductive DeterministicCronPlanAction where
  | cutoverHold
  | readyCommand
  | shellCompatibilityRequired
  | missingScript
  | externalCommandReview
  | unsupportedEntry
  deriving DecidableEq

structure DeterministicCronPlanEntry where
  entryId : String
  crontabFile : String
  lineNumber : Nat
  schedule : DeterministicCronSchedule
  command : String
  scriptPath : Option String
  action : DeterministicCronPlanAction
  reason : String

inductive NativeCronPlanAction where
  | disabled
  | cutoverHold
  | enqueueAgentTurn
  | waitingSchedule
  | cronRegistered
  | missingAgent
  | unsupportedSchedule

structure NativeCronPlanEntry where
  jobId : String
  agentId : Option String
  action : NativeCronPlanAction
  reason : String
  schedule : NativeCronSchedule
  sessionKey : Option String
  sessionPolicy : Option String
  messageText : Option String

structure DeterministicInput where
  entry : DeterministicCronPlanEntry
  canon : Option CanonEntry
  crontab : Except IoError (List String)
  faults : Faults

structure NativeInput where
  entry : NativeCronPlanEntry
  faults : Faults

structure CronSchedulerRunOnceOptions where
  sourceHome : String
  sourceWorkspace : String
  nowMs : Int
  dryRun : Bool
  windows : Bool
  -- `fnv1a_64_hex` of the key and the JSON text of the payload
  payloadHash : String → CronPayload → String

end CronScheduler
