import AgentHarness.Lib.Io
import AgentHarness.Lib.Text
import AgentHarness.Lib.Table

/-!
The store of cron runs: one row for every scheduled slot of an entry, and the quarantines of entries
and agents.
-/

namespace CronRuns

def defaultJobFailureQuarantineThreshold : Nat := 3
def defaultAgentFailureQuarantineThreshold : Nat := 10

inductive CronRunStatus where
  | admitted
  | workerEnqueued
  | runtimeEnqueued
  | runtimeRunning
  | succeeded
  | failedTerminal
  | retryPending
  | canceled
  | expired
  | skipped
  | quarantined
  | admissionBlocked
  deriving DecidableEq

namespace CronRunStatus

def isActive (self : CronRunStatus) : Bool :=
  match self with
  | .admitted | .workerEnqueued | .runtimeEnqueued | .runtimeRunning | .retryPending => true
  | _ => false

end CronRunStatus

def activeStatuses : List CronRunStatus :=
  [.admitted, .workerEnqueued, .runtimeEnqueued, .runtimeRunning, .retryPending]

def settledStatuses : List CronRunStatus :=
  [.succeeded, .failedTerminal, .canceled, .expired, .skipped, .quarantined, .admissionBlocked]

structure CronRun where
  runId : String
  sourceKind : String
  sourceId : String
  entryId : String
  agentId : String
  scheduledForMs : Int
  runtimeQueueId : Option String
  runtimeClass : String
  sessionKey : String
  sessionPolicy : String
  status : CronRunStatus
  attempt : Int
  maxAttempts : Int
  workerJobId : Option String
  startedAtMs : Option Int
  leaseExpiresAtMs : Option Int
  finishedAtMs : Option Int
  failureReason : Option String
  createdAtMs : Int
  updatedAtMs : Int
  quarantined : Bool
  deriving DecidableEq

abbrev Slot := String × String × String × Int

def CronRun.slot (self : CronRun) : Slot :=
  (self.sourceKind, self.sourceId, self.entryId, self.scheduledForMs)

def cronRunsTable : Schema CronRun String where
  key := CronRun.runId
  check _ := true
  -- UNIQUE(source_kind, source_id, entry_id, scheduled_for_ms)
  clash run other := run.slot = other.slot

structure CronQuarantine where
  scopeId : String
  agentId : String
  entryId : Option String
  reason : String
  active : Bool
  createdAtMs : Int
  updatedAtMs : Int

def cronQuarantineTable : Schema CronQuarantine String where
  key := CronQuarantine.scopeId
  check _ := true
  clash _ _ := false

structure Store where
  runs : Table cronRunsTable
  quarantines : Table cronQuarantineTable

def Store.empty : Store where
  runs := Table.empty _
  quarantines := Table.empty _

def normalizeKeyPart (value : String) : String :=
  let normalized := value.toList.map fun ch =>
    if ch.isDigit || ('a' ≤ ch && ch ≤ 'z') || ('A' ≤ ch && ch ≤ 'Z') then
      ch.toLower
    else if ch = '-' || ch = '_' || ch = '.' || ch = '@' then
      ch
    else
      '_'
  let isFill := fun ch : Char => ch = '_'
  let normalized := ((normalized.dropWhile isFill).reverse.dropWhile isFill).reverse
  if normalized = [] then "unknown" else String.ofList normalized

def cronRunId (slot : Slot) : String :=
  let (sourceKind, sourceId, entryId, scheduledForMs) := slot
  "cronrun:" ++ normalizeKeyPart sourceKind ++ ":" ++ normalizeKeyPart sourceId ++ ":"
    ++ normalizeKeyPart entryId ++ ":" ++ toString scheduledForMs

def cronRunWorkerIdempotencyKey (run : CronRun) : String :=
  let base := "cron-scheduler:" ++ run.sourceKind ++ ":" ++ run.sourceId ++ ":" ++ run.entryId
    ++ ":" ++ toString run.scheduledForMs
  if run.attempt > 0 then
    base ++ ":attempt:" ++ toString run.attempt
  else
    base

def quarantineScopeId (agentId : String) (entryId : Option String) : String :=
  match entryId with
  | some entryId => "job:" ++ normalizeKeyPart agentId ++ ":" ++ normalizeKeyPart entryId
  | none => "agent:" ++ normalizeKeyPart agentId

structure CronRunAdmitOptions where
  sourceKind : String
  sourceId : String
  entryId : String
  agentId : String
  scheduledForMs : Int
  runtimeClass : String
  sessionKey : String
  sessionPolicy : String
  maxAttempts : Int
  nowMs : Int

def CronRunAdmitOptions.slot (self : CronRunAdmitOptions) : Slot :=
  (self.sourceKind, self.sourceId, self.entryId, self.scheduledForMs)

def CronRunAdmitOptions.run (self : CronRunAdmitOptions) : CronRun where
  runId := cronRunId self.slot
  sourceKind := self.sourceKind
  sourceId := self.sourceId
  entryId := self.entryId
  agentId := self.agentId
  scheduledForMs := self.scheduledForMs
  runtimeQueueId := none
  runtimeClass := self.runtimeClass
  sessionKey := self.sessionKey
  sessionPolicy := self.sessionPolicy
  status := .admitted
  attempt := 0
  maxAttempts := self.maxAttempts
  workerJobId := none
  startedAtMs := none
  leaseExpiresAtMs := none
  finishedAtMs := none
  failureReason := none
  createdAtMs := self.nowMs
  updatedAtMs := self.nowMs
  quarantined := false

inductive CronRunControlAction where
  | skip
  | retry
  | quarantine
  | unquarantine
  deriving DecidableEq

structure CronRunControlOptions where
  action : CronRunControlAction
  runId : Option String
  agentId : Option String
  entryId : Option String
  reason : String
  nowMs : Int

structure CronRunControlReport where
  action : CronRunControlAction
  affected : Nat
  reason : String
  warnings : List String
  deriving DecidableEq

inductive DispatchBlocker where
  | runMissing (runId : String) (dispatch : String)
  | inactive (runId : String) (status : CronRunStatus)
  | runQuarantined (runId : String)
  | jobQuarantined (runId reason : String)
  | agentQuarantined (runId reason : String)
  | otherWorker (runId linkedJobId workerJobId : String)
  | noWorker (runId workerJobId : String)
  | otherQueue (runId linkedQueueId runtimeQueueId : String)
  | noQueue (runId : String) (status : CronRunStatus) (runtimeQueueId : String)
  deriving DecidableEq

namespace DispatchBlocker

def isQuarantine (self : DispatchBlocker) : Bool :=
  match self with
  | .runQuarantined _ | .jobQuarantined _ _ | .agentQuarantined _ _ => true
  | .inactive _ status => status = .quarantined
  | _ => false

end DispatchBlocker

def cronStatusFromRuntimeStatus (status : String) : CronRunStatus :=
  if status = "completed" then
    .succeeded
  else if status ∈ ["retry-pending", "lease-busy"] then
    .retryPending
  else if status = "canceled" then
    .canceled
  else if status = "skipped" then
    .skipped
  else if status ∈ ["timeout", "dead-letter", "failed-terminal", "spawn-failed", "protocol-error",
      "preflight-blocked", "no-runtime-plan", "no-prepared-execution"] then
    .failedTerminal
  else if status = "no-work" then
    .runtimeEnqueued
  else
    .runtimeRunning

-- every worker status stands for some status of the run
def cronStatusFromWorkerStatus (status : String) : CronRunStatus :=
  if status ∈ ["pending", "leased", "running"] then
    .workerEnqueued
  else if status = "failed-retryable" then
    .retryPending
  else if status = "failed-terminal" then
    .failedTerminal
  else if status = "canceled" then
    .canceled
  else if status = "expired" then
    .expired
  else if status = "succeeded" then
    .succeeded
  else
    .failedTerminal

end CronRuns
