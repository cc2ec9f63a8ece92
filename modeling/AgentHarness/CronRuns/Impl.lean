import AgentHarness.CronRuns.Basic

/-!
The operations on the store of cron runs. Each statement is one UPDATE or INSERT with the WHERE
clause of the source; what an operation wrote before an error stays.
-/

namespace CronRuns

def constraintFailed : IoError where
  kind := .other
  message := "UNIQUE constraint failed"

namespace Store

variable (self : Store)

-- UPDATE cron_runs, and the number of rows it hits
def updateRuns (hits : CronRun → Bool) (set : CronRun → CronRun) : Outcome Store Nat :=
  match self.runs.update hits set with
  | some runs => ({ self with runs }, .ok (self.runs.changed hits))
  | none => (self, .error constraintFailed)

def updateQuarantines (hits : CronQuarantine → Bool) (set : CronQuarantine → CronQuarantine)
    : Outcome Store Nat :=
  match self.quarantines.update hits set with
  | some quarantines => ({ self with quarantines }, .ok (self.quarantines.changed hits))
  | none => (self, .error constraintFailed)

def findRunBySlot (slot : Slot) : Option CronRun :=
  self.runs.rows.find? fun run => run.slot = slot

def findRunById (runId : String) : Option CronRun :=
  self.runs.find runId

def findRunByRuntimeQueueId (runtimeQueueId : String) : Option CronRun :=
  self.runs.rows.find? fun run => run.runtimeQueueId = some runtimeQueueId

def admitCronRun (options : CronRunAdmitOptions) : Outcome Store CronRun :=
  match self.findRunBySlot options.slot with
  | some existing => (self, .ok existing)
  | none =>
    match self.runs.insert options.run with
    | none => (self, .error constraintFailed)
    | some runs =>
      let later := { self with runs }
      let runId := cronRunId options.slot
      (later, .ofOption (later.findRunById runId) {
        kind := .other
        message := s!"inserted cron run not found: {runId}" })

def markCronRunWorkerEnqueued (runId : String) (expectedAttempt : Int) (workerJobId : String)
    (nowMs : Int)
    : Outcome Store Bool :=
  (self.updateRuns
    (fun run => run.runId = runId && run.attempt = expectedAttempt
      && ((run.status ∈ [.admitted, .retryPending] && run.workerJobId = none)
        || (run.status = .workerEnqueued && run.workerJobId = some workerJobId)))
    (fun run => { run with
      status := .workerEnqueued, workerJobId := some workerJobId, updatedAtMs := nowMs })).andThen
    fun later rows => (later, .ok (rows = 1))

def cronRunHasExactWorkerLink (runId : String) (expectedAttempt : Int) (workerJobId : String)
    : Bool :=
  self.runs.rows.any fun run =>
    run.runId = runId && run.attempt = expectedAttempt && run.workerJobId = some workerJobId

def markCronRunRuntimeEnqueued (runId : String) (expectedAttempt : Int)
    (workerJobId runtimeQueueId : String) (nowMs : Int)
    : Outcome Store Bool :=
  (self.updateRuns
    (fun run => run.runId = runId && run.attempt = expectedAttempt
      && run.workerJobId = some workerJobId
      && run.status ∈ [.workerEnqueued, .runtimeEnqueued, .runtimeRunning, .retryPending])
    (fun run => { run with
      status := .runtimeEnqueued
      runtimeQueueId := some runtimeQueueId
      updatedAtMs := nowMs })).andThen
    fun later rows => (later, .ok (rows = 1))

def countRecentFailedRuns (agentId : String) (entryId : Option String) : Nat :=
  self.runs.rows.countP fun run =>
    run.status = .failedTerminal && run.agentId = agentId
      && entryId.all fun entryId => run.entryId = entryId

def upsertQuarantine (agentId : String) (entryId : Option String) (reason : String) (nowMs : Int)
    : Outcome Store Nat :=
  let scopeId := quarantineScopeId agentId entryId
  let upserted : Option (Table cronQuarantineTable) :=
    match self.quarantines.find scopeId with
    | none =>
      self.quarantines.insert {
        scopeId, agentId, entryId, reason, active := true, createdAtMs := nowMs, updatedAtMs := nowMs }
    | some _ =>
      self.quarantines.update (fun quarantine => quarantine.scopeId = scopeId)
        (fun quarantine => { quarantine with reason, active := true, updatedAtMs := nowMs })
  match upserted with
  | none => (self, .error constraintFailed)
  | some quarantines =>
    { self with quarantines }.updateRuns
      (fun run => run.agentId = agentId && (entryId.all fun entryId => run.entryId = entryId)
        && run.status ∈ activeStatuses)
      (fun run => { run with
        quarantined := true
        status := .quarantined
        failureReason := some reason
        updatedAtMs := nowMs })

def maybeQuarantineAfterFailure (agentId entryId reason : String) (nowMs : Int)
    : Outcome Store Unit :=
  let job : Outcome Store Unit :=
    if self.countRecentFailedRuns agentId (some entryId) ≥ defaultJobFailureQuarantineThreshold then
      (self.upsertQuarantine agentId (some entryId) reason nowMs).andThen fun later _ => (later, .ok ())
    else
      (self, .ok ())
  job.andThen fun later _ =>
    if later.countRecentFailedRuns agentId none ≥ defaultAgentFailureQuarantineThreshold then
      (later.upsertQuarantine agentId none reason nowMs).andThen fun later _ => (later, .ok ())
    else
      (later, .ok ())

def markCronRunWorkerStatus (runId : String) (expectedAttempt : Int)
    (workerJobId workerStatus reason : String) (nowMs : Int)
    : Outcome Store Bool :=
  let status := cronStatusFromWorkerStatus workerStatus
  match self.findRunById runId with
  | none => (self, .ok false)
  | some found =>
    (self.updateRuns
      (fun run => run.runId = runId && run.attempt = expectedAttempt
        && run.workerJobId = some workerJobId && run.status ∉ settledStatuses)
      (fun run => { run with
        status
        failureReason := if status = .workerEnqueued then none else some reason
        finishedAtMs := if status.isActive then none else some nowMs
        updatedAtMs := nowMs })).andThen
      fun later rows =>
        if rows = 1 && status = .failedTerminal then
          (later.maybeQuarantineAfterFailure found.agentId found.entryId reason nowMs).andThen
            fun later _ => (later, .ok true)
        else
          (later, .ok (rows = 1))

def isUnlinkedAdmitted (runId : String) (expectedAttempt updatedBeforeMs : Int) (run : CronRun)
    : Bool :=
  run.runId = runId && run.attempt = expectedAttempt && run.status = .admitted
    && run.workerJobId = none && run.updatedAtMs ≤ updatedBeforeMs

def expireUnlinkedAdmittedCronRun (runId : String) (expectedAttempt updatedBeforeMs : Int)
    (reason : String) (nowMs : Int)
    : Outcome Store Bool :=
  (self.updateRuns (isUnlinkedAdmitted runId expectedAttempt updatedBeforeMs)
    (fun run => { run with
      status := .expired
      failureReason := some reason
      finishedAtMs := some nowMs
      updatedAtMs := nowMs })).andThen
    fun later rows => (later, .ok (rows = 1))

def blockUnlinkedAdmittedCronRun (runId : String) (expectedAttempt updatedBeforeMs : Int)
    (reason : String) (nowMs : Int)
    : Outcome Store Bool :=
  (self.updateRuns (isUnlinkedAdmitted runId expectedAttempt updatedBeforeMs)
    (fun run => { run with
      status := .admissionBlocked
      failureReason := some reason
      finishedAtMs := some nowMs
      updatedAtMs := nowMs
      quarantined := true })).andThen
    fun later rows => (later, .ok (rows = 1))

def blockLinkedCronRunIdentity (runId : String) (expectedAttempt : Int)
    (workerJobId reason : String) (nowMs : Int)
    : Outcome Store Bool :=
  (self.updateRuns
    (fun run => run.runId = runId && run.attempt = expectedAttempt
      && run.workerJobId = some workerJobId && run.status ∈ activeStatuses)
    (fun run => { run with
      status := .admissionBlocked
      failureReason := some reason
      finishedAtMs := some nowMs
      updatedAtMs := nowMs
      quarantined := true })).andThen
    fun later rows => (later, .ok (rows = 1))

def markCronRunRuntimeStatusByQueueId (runtimeQueueId runOnceStatus reason : String) (nowMs : Int)
    : Outcome Store Unit :=
  match self.findRunByRuntimeQueueId runtimeQueueId with
  | none => (self, .ok ())
  | some found =>
    let status := cronStatusFromRuntimeStatus runOnceStatus
    (self.updateRuns
      (fun run => run.runId = found.runId && run.runtimeQueueId = some runtimeQueueId
        && run.status ∉ settledStatuses)
      (fun run => { run with
        status
        failureReason := if status = .succeeded then none else some reason
        finishedAtMs := if status.isActive then none else some nowMs
        updatedAtMs := nowMs })).andThen
      fun later _ =>
        if status = .failedTerminal then
          later.maybeQuarantineAfterFailure found.agentId found.entryId reason nowMs
        else
          (later, .ok ())

def cronRunActiveCountForJob (agentId entryId : String) : Nat :=
  self.runs.rows.countP fun run =>
    run.agentId = agentId && run.entryId = entryId && run.status ∈ activeStatuses

def cronRunActiveCountForAgent (agentId : String) : Nat :=
  self.runs.rows.countP fun run => run.agentId = agentId && run.status ∈ activeStatuses

def precedes (left right : CronQuarantine) : Bool :=
  if left.entryId.isNone = right.entryId.isNone then
    left.updatedAtMs > right.updatedAtMs
  else
    right.entryId.isNone

def quarantineReason (agentId : String) (entryId : Option String) : Option String :=
  let covering := self.quarantines.rows.filter fun quarantine =>
    quarantine.agentId = agentId && quarantine.active
      && (quarantine.entryId = none || (entryId.isSome && quarantine.entryId = entryId))
  let first := covering.foldl (fun best quarantine =>
    match best with
    | none => some quarantine
    | some best => if precedes quarantine best then some quarantine else some best) none
  first.map CronQuarantine.reason

def cronRunIsQuarantined (agentId entryId : String) : Option String :=
  self.quarantineReason agentId (some entryId)

def cronRunControlBlocker (run : CronRun) : Option DispatchBlocker :=
  if !run.status.isActive then
    some (.inactive run.runId run.status)
  else if run.quarantined || run.status = .quarantined then
    some (.runQuarantined run.runId)
  else
    match self.quarantineReason run.agentId (some run.entryId) with
    | some reason => some (.jobQuarantined run.runId reason)
    | none => (self.quarantineReason run.agentId none).map (.agentQuarantined run.runId)

def cronRunWorkerDispatchBlocker (runId workerJobId : String) : Option DispatchBlocker :=
  match self.findRunById runId with
  | none => some (.runMissing runId "worker")
  | some run =>
    match self.cronRunControlBlocker run with
    | some blocker => some blocker
    | none =>
      match run.workerJobId with
      | none => some (.noWorker run.runId workerJobId)
      | some linkedJobId =>
        if linkedJobId = workerJobId then
          none
        else
          some (.otherWorker run.runId linkedJobId workerJobId)

-- the UPDATE of the check, which looks at the run again but not at its attempt
def linkRuntimeQueue (runId runtimeQueueId : String) (nowMs : Int) : Outcome Store Nat :=
  self.updateRuns
    (fun run => run.runId = runId && run.runtimeQueueId = none
      && run.status ∈ [.admitted, .workerEnqueued])
    (fun run => { run with
      status := .runtimeEnqueued
      runtimeQueueId := some runtimeQueueId
      updatedAtMs := nowMs })

-- The check also links a run that has no runtime queue yet.
def cronRunRuntimeDispatchBlocker (runId runtimeQueueId : String) (nowMs : Int)
    : Outcome Store (Option DispatchBlocker) :=
  match self.findRunById runId with
  | none => (self, .ok (some (.runMissing runId "runtime")))
  | some run =>
    match self.cronRunControlBlocker run with
    | some blocker => (self, .ok (some blocker))
    | none =>
      match run.runtimeQueueId with
      | some linkedQueueId =>
        if linkedQueueId ≠ runtimeQueueId then
          (self, .ok (some (.otherQueue run.runId linkedQueueId runtimeQueueId)))
        else
          (self, .ok none)
      | none =>
        if run.status = .admitted || run.status = .workerEnqueued then
          (self.linkRuntimeQueue run.runId runtimeQueueId nowMs).andThen fun later _ =>
            (later, .ok none)
        else
          (self, .ok (some (.noQueue run.runId run.status runtimeQueueId)))

end Store

abbrev WorkerJobs := String → Except IoError (Option Bool)

namespace Store

variable (self : Store)

def retryCronRun (workers : WorkerJobs) (runId reason : String) (nowMs : Int)
    : Outcome Store (Nat × List String) :=
  match self.findRunById runId with
  | none => (self, .ok (0, [s!"retry run `{runId}` was not found"]))
  | some found =>
    let retry : Outcome Store (Nat × List String) :=
      (self.updateRuns (fun run => run.runId = runId && run.attempt = found.attempt)
        (fun run => { run with
          status := .retryPending
          runtimeQueueId := none
          workerJobId := none
          startedAtMs := none
          leaseExpiresAtMs := none
          finishedAtMs := none
          failureReason := some reason
          attempt := run.attempt + 1
          updatedAtMs := nowMs })).andThen
        fun later rows => (later, .ok (rows, []))
    match found.workerJobId with
    | none => retry
    | some workerJobId =>
      match workers workerJobId with
      | .error e => (self, .error e)
      | .ok (some true) =>
        (self, .ok (0,
          [s!"retry rejected because linked worker job `{workerJobId}` is still active"]))
      | .ok none =>
        (self, .ok (0,
          [s!"retry rejected because linked worker job `{workerJobId}` could not be verified"]))
      | .ok (some false) => retry

def quarantineByRunId (runId reason : String) (nowMs : Int) : Outcome Store Nat :=
  match self.findRunById runId with
  | none => (self, .ok 0)
  | some run => self.upsertQuarantine run.agentId (some run.entryId) reason nowMs

def unquarantineByRunId (runId : String) (nowMs : Int) : Outcome Store Nat :=
  match self.findRunById runId with
  | none => (self, .ok 0)
  | some run =>
    self.updateQuarantines
      (fun quarantine => quarantine.agentId = run.agentId
        && quarantine.entryId = some run.entryId && quarantine.active)
      (fun quarantine => { quarantine with active := false, updatedAtMs := nowMs })

def controlCronRun (workers : WorkerJobs) (options : CronRunControlOptions)
    : Outcome Store CronRunControlReport :=
  let counted (outcome : Outcome Store Nat) : Outcome Store (Nat × List String) :=
    outcome.andThen fun later affected => (later, .ok (affected, []))
  let affected : Outcome Store (Nat × List String) :=
    match options.action with
    | .skip =>
      match options.runId with
      | none => (self, .ok (0, ["skip requires --run-id"]))
      | some runId =>
        counted (self.updateRuns
          (fun run => run.runId = runId
            && run.status ∉ [.succeeded, .failedTerminal, .canceled, .expired, .skipped])
          (fun run => { run with
            status := .skipped
            finishedAtMs := some options.nowMs
            failureReason := some options.reason
            updatedAtMs := options.nowMs }))
    | .retry =>
      match options.runId with
      | none => (self, .ok (0, ["retry requires --run-id"]))
      | some runId => self.retryCronRun workers runId options.reason options.nowMs
    | .quarantine =>
      match options.runId, options.agentId with
      | some runId, _ => counted (self.quarantineByRunId runId options.reason options.nowMs)
      | none, some agentId =>
        counted (self.upsertQuarantine agentId options.entryId options.reason options.nowMs)
      | none, none =>
        (self, .ok (0, ["quarantine requires --run-id or --agent-id with optional --entry-id"]))
    | .unquarantine =>
      match options.runId, options.agentId with
      | some runId, _ => counted (self.unquarantineByRunId runId options.nowMs)
      | none, some agentId =>
        counted (self.updateQuarantines
          (fun quarantine => quarantine.agentId = agentId
            && (options.entryId.isNone || quarantine.entryId = options.entryId)
            && quarantine.active)
          (fun quarantine => { quarantine with active := false, updatedAtMs := options.nowMs }))
      | none, none =>
        (self, .ok (0, ["unquarantine requires --run-id or --agent-id with optional --entry-id"]))
  affected.andThen fun later result =>
    (later, .ok {
      action := options.action
      affected := result.1
      reason := options.reason
      warnings := result.2 })

end Store

inductive Call where
  | admitRun (options : CronRunAdmitOptions)
  | workerEnqueued (runId : String) (attempt : Int) (workerJobId : String) (nowMs : Int)
  | runtimeEnqueued (runId : String) (attempt : Int) (workerJobId runtimeQueueId : String)
      (nowMs : Int)
  | workerStatus (runId : String) (attempt : Int) (workerJobId status reason : String)
      (nowMs : Int)
  | expireUnlinked (runId : String) (attempt updatedBeforeMs : Int) (reason : String) (nowMs : Int)
  | blockUnlinked (runId : String) (attempt updatedBeforeMs : Int) (reason : String) (nowMs : Int)
  | blockLinked (runId : String) (attempt : Int) (workerJobId reason : String) (nowMs : Int)
  | runtimeStatus (runtimeQueueId status reason : String) (nowMs : Int)
  | runtimeDispatch (runId runtimeQueueId : String) (nowMs : Int)
  | control (workers : WorkerJobs) (options : CronRunControlOptions)

def Store.exec (self : Store) (call : Call) : Store :=
  match call with
  | .admitRun options => (self.admitCronRun options).1
  | .workerEnqueued runId attempt workerJobId nowMs =>
    (self.markCronRunWorkerEnqueued runId attempt workerJobId nowMs).1
  | .runtimeEnqueued runId attempt workerJobId runtimeQueueId nowMs =>
    (self.markCronRunRuntimeEnqueued runId attempt workerJobId runtimeQueueId nowMs).1
  | .workerStatus runId attempt workerJobId status reason nowMs =>
    (self.markCronRunWorkerStatus runId attempt workerJobId status reason nowMs).1
  | .expireUnlinked runId attempt updatedBeforeMs reason nowMs =>
    (self.expireUnlinkedAdmittedCronRun runId attempt updatedBeforeMs reason nowMs).1
  | .blockUnlinked runId attempt updatedBeforeMs reason nowMs =>
    (self.blockUnlinkedAdmittedCronRun runId attempt updatedBeforeMs reason nowMs).1
  | .blockLinked runId attempt workerJobId reason nowMs =>
    (self.blockLinkedCronRunIdentity runId attempt workerJobId reason nowMs).1
  | .runtimeStatus runtimeQueueId status reason nowMs =>
    (self.markCronRunRuntimeStatusByQueueId runtimeQueueId status reason nowMs).1
  | .runtimeDispatch runId runtimeQueueId nowMs =>
    (self.cronRunRuntimeDispatchBlocker runId runtimeQueueId nowMs).1
  | .control workers options => (self.controlCronRun workers options).1

end CronRuns
