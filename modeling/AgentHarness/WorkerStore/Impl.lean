import AgentHarness.Lib.Pool
import AgentHarness.Lib.Run
import AgentHarness.WorkerStore.Basic

/-!
The calls `run_worker_once`, `reap_stale_worker_jobs` and `cancel_worker_job` as scripts: each SELECT
and each statement is one step, and other processes can take steps in between.
-/

namespace WorkerStore

abbrev WorkerScript := Script Machine Operation

structure WorkerRunOnceOptions where
  lane : Option String
  workerId : String
  nowMs : Int
  leaseMs : Int

inductive ShellOutcome where
  | succeeded
  | blocked
  | failed

inductive CoordinatorOutcome where
  | quarantined
  | deferred
  | resumed (job : WorkerJob)

/-
What the rest of the harness answers to a call: the configuration, the terminal receipt of a queued
turn (status and terminal control source) when its route is the expected one, the control of a cron
run, and how executions end. `none` is an error.
-/
structure Harness where
  config : WorkerDispatchConfig
  runtimeTerminal : WorkerJob → Option (String × Option String)
  cronBlocked : WorkerJob → Bool
  shell : WorkerJob → Option ShellOutcome
  turnQueued : WorkerJob → Bool
  reviewDone : WorkerJob → Bool
  coordinator : WorkerJob → List WorkerJob → Option CoordinatorOutcome
  wakeupJobId : WorkerJob → String
  elapsedMs : Int

variable (env : Env)

def execute (statement : Statement) (lost won : WorkerScript) : WorkerScript :=
  .op (.update statement) lost won

section Quarantine

variable (nowMs : Int)

def quarantineInvalidStoredChildPolicies (next : WorkerScript) : WorkerScript :=
  .read fun m =>
    let invalid := m.store.jobs.filter (storedChildPolicyIsInvalid env)
    invalid.foldr
      (fun job => .ignoring (.update (.quarantineInvalidStoredChildPolicy job.jobId nowMs))) next

def quarantineInvalidStoredExecutionModes (next : WorkerScript) : WorkerScript :=
  .read fun m =>
    let invalid := m.store.jobs.filter (storedExecutionModeIsInvalid env)
    invalid.foldr
      (fun job => .ignoring (.update (.quarantineInvalidStoredExecutionMode job.jobId nowMs))) next

end Quarantine

def findJobById (jobId : String) (onError : WorkerScript) (next : Option WorkerJob → WorkerScript)
    : WorkerScript :=
  .read fun m =>
    match m.store.findJobById jobId with
    | none => next none
    | some job => if rowToJob env job then next (some job) else onError

def resolveTolerantWorkerRows (nowMs : Int) (includeQuarantined : Bool) (onError : WorkerScript)
    (next : List WorkerJob → WorkerScript) (jobs : List WorkerJob)
    : List WorkerJob → WorkerScript
  | [] => next jobs
  | row :: rows =>
    if storedChildPolicyIsInvalid env row then
      .ignoring (.update (.quarantineInvalidStoredChildPolicy row.jobId nowMs)) <|
        if includeQuarantined then
          findJobById env row.jobId onError fun job =>
            resolveTolerantWorkerRows nowMs includeQuarantined onError next (jobs ++ job.toList)
              rows
        else
          resolveTolerantWorkerRows nowMs includeQuarantined onError next jobs rows
    else
      resolveTolerantWorkerRows nowMs includeQuarantined onError next (jobs ++ [row]) rows

def selectTolerantJobs (select : Store → List WorkerJob) (nowMs : Int) (includeQuarantined : Bool)
    (onError : WorkerScript) (next : List WorkerJob → WorkerScript)
    : WorkerScript :=
  .read fun m =>
    let rows := select m.store
    if rows.all (rowToJobToleratingInvalidChildPolicy env) then
      resolveTolerantWorkerRows env nowMs includeQuarantined onError next [] rows
    else
      onError

def reapExpiredWorkerJobs (nowMs : Int) (next : WorkerScript) : WorkerScript :=
  selectTolerantJobs env (·.jobsWithExpiredLeases nowMs) nowMs false .failed fun stale =>
    stale.foldr
      (fun job rest =>
        if job.attempt < job.maxAttempts then
          .ignoring (.update (.reapForRetry job nowMs)) rest
        else
          .ignoring (.update (.reapExpired job nowMs)) rest)
      next

def workerTerminalHandling (status : String) (terminalControlSource : Option String)
    : Option WorkerJobStatus :=
  if status = "completed" then
    some .succeeded
  else if status = "canceled" then
    some .canceled
  else if status = "suppressed" then
    if terminalControlSource = some "quarantine" then
      some .failedTerminal
    else if terminalControlSource = some "scoped-stop" || terminalControlSource = some "queue-skip"
    then
      some .canceled
    else
      none
  else if status ∈ ["external-effect-denied", "dead-letter", "failed-terminal", "no-runtime-plan",
      "preflight-blocked", "spawn-failed", "protocol-error", "context-exhausted", "timeout"] then
    some .failedTerminal
  else
    none

variable (harness : Harness)

def reconcileRuntimeQueuedJobs (nowMs : Int) (next : WorkerScript) : WorkerScript :=
  .read fun m =>
    if m.store.jobs.all (fun job => job.status ≠ .runtimeQueued) then
      next
    else
      .read fun m =>
        let jobs := m.store.runtimeQueuedJobs
        if jobs.all (rowToJob env) then
          jobs.foldr
            (fun job rest =>
              match (harness.runtimeTerminal job).bind fun t => workerTerminalHandling t.1 t.2 with
              | none => rest
              | some workerStatus =>
                execute (.setRuntimeTerminal job workerStatus nowMs) .failed rest)
            next
        else
          .failed

def persistExecutionResult (job : WorkerJob) (result : WorkerJobStatus) (nowMs : Int)
    (next : WorkerScript)
    : WorkerScript :=
  if normalizeExhaustedRetryableResult job result = .pending then
    next
  else
    .ignoring (.update (.persistExecutionResult job result nowMs)) next

def terminalizeExhaustedPendingJobs (nowMs : Int) (next : WorkerScript) : WorkerScript :=
  .read fun m =>
    let jobs := m.store.exhaustedPendingJobs
    if jobs.all (rowToJob env) then
      jobs.foldr (fun job => persistExecutionResult job .failedTerminal nowMs) next
    else
      .failed

section Lease

variable (config : WorkerDispatchConfig) (nowMs : Int)

def executingChannelCount (channelKey : String) (onError : WorkerScript)
    (next : Nat → WorkerScript)
    : WorkerScript :=
  selectTolerantJobs env (fun store => store.jobs.filter (·.status.isExecuting)) nowMs false onError
    fun jobs => next (jobs.countP fun job => workerChannelKey job = some channelKey)

def rateLeaseBlocked (job : WorkerJob) (next : Bool → WorkerScript) : WorkerScript :=
  match job.rateKey with
  | none => next false
  | some rateKey =>
    if config.rateLeaseLimit = 0 then
      next false
    else
      let since := saturateI64 (nowMs - config.rateLeaseWindowMs)
      .ignoring (.deleteRateLeases since) <|
        .read fun m => next (config.rateLeaseLimit ≤ m.store.rateLeaseCount rateKey since)

def recordRateLease (job : WorkerJob) (next : WorkerScript) : WorkerScript :=
  match job.rateKey with
  | none => next
  | some rateKey =>
    if config.rateLeaseLimit = 0 then
      next
    else
      .ignoring (.deleteRateLeases (saturateI64 (nowMs - config.rateLeaseWindowMs))) <|
        .ignoring (.insertRateLease { rateKey, jobId := job.jobId, leasedAtMs := nowMs }) next

def groupBlocked (job : WorkerJob) (next : Bool → WorkerScript) : WorkerScript :=
  match job.concurrencyGroupKey with
  | none => next false
  | some group =>
    .read fun m => next (config.groupConcurrencyLimit ≤ m.store.executingCount none (some group))

def channelBlocked (job : WorkerJob) (next : Bool → WorkerScript) : WorkerScript :=
  match workerChannelKey job with
  | none => next false
  | some channelKey =>
    executingChannelCount env nowMs channelKey .failed fun executing =>
      next (config.channelConcurrencyLimit ≤ executing)

-- whether `capacity_blocker` returns one of its blockers
def capacityBlocker (job : WorkerJob) (next : Bool → WorkerScript) : WorkerScript :=
  .read fun m =>
    if config.globalConcurrencyLimit ≤ m.store.executingCount none none then
      next true
    else
      .read fun m =>
        let laneLimit :=
          (config.laneConcurrencyLimits.lookup job.lane).getD config.globalConcurrencyLimit
        if laneLimit ≤ m.store.executingCount (some job.lane) none then
          next true
        else
          groupBlocked config job fun group =>
            if group then
              next true
            else
              channelBlocked env config nowMs job fun channel =>
                if channel then next true else rateLeaseBlocked config nowMs job next

def pendingCandidates (laneFilter : Option String) (next : List WorkerJob → WorkerScript)
    : WorkerScript :=
  selectTolerantJobs env (·.pendingCandidates laneFilter nowMs) nowMs false .failed next

def leaseFirst (workerId : String) (leaseMs : Int) (next : Option WorkerJob → WorkerScript)
    : List WorkerJob → WorkerScript
  | [] => next none
  | job :: candidates =>
    capacityBlocker env config nowMs job fun blocked =>
      if blocked then
        leaseFirst workerId leaseMs next candidates
      else
        let leaseExpires := saturateI64 (nowMs + max leaseMs 1)
        execute (.leaseNextJob job.jobId workerId leaseExpires nowMs)
          (leaseFirst workerId leaseMs next candidates)
          (recordRateLease config nowMs job (findJobById env job.jobId .failed next))

def leaseNextJob (laneFilter : Option String) (workerId : String) (leaseMs : Int)
    (next : Option WorkerJob → WorkerScript)
    : WorkerScript :=
  pendingCandidates env nowMs laneFilter
    (leaseFirst env config nowMs workerId leaseMs next)

end Lease

section Execute

variable (job : WorkerJob) (nowMs : Int) (next : Option WorkerJobStatus → WorkerScript)

def rescheduleWatchdog : WorkerScript :=
  execute (.rescheduleWatchdog job nowMs) (next none) (next (some .pending))

def masterWakeupJob (groupId wakeReason : String) : WorkerJob where
  jobId := harness.wakeupJobId job
  kind := .masterWakeup
  lane := "llm"
  status := .pending
  jobGroupId := some groupId
  masterAgentId := job.masterAgentId
  masterSessionKey := job.masterSessionKey
  wakePolicy := none
  payload :=
    let text (key : String) := (stringPath job.payload key).toList.map (key, ·)
    let agentId := job.masterAgentId <|> stringPath job.payload "masterAgentId"
    let sessionKey := job.masterSessionKey <|> stringPath job.payload "masterSessionKey"
    text "sourceHome" ++ text "sourceWorkspace" ++ text "runtimeWorkspace"
      ++ [("agentId", agentId.getD "main"), ("sessionKey", sessionKey.getD "master"),
        ("platform", "worker-watchdog"), ("channelId", groupId), ("userId", "worker-watchdog")]
  childPolicyJson := none
  resultOwnerJson := none
  executionModeJson := none
  idempotencyKey := "watchdog-wakeup:" ++ groupId ++ ":" ++ wakeReason
  priority := job.priority
  availableAtMs := nowMs
  leaseOwner := none
  leaseExpiresAtMs := none
  attempt := 0
  maxAttempts := 3
  rateKey := none
  concurrencyGroupKey := some ("master:" ++ groupId)
  createdAtMs := nowMs
  updatedAtMs := nowMs
  finishedAtMs := none

def runDurableCoordinatorWatchdog (children : List WorkerJob) : WorkerScript :=
  match harness.coordinator job children with
  | none => next none
  | some .quarantined => next (some .canceled)
  | some .deferred => rescheduleWatchdog job nowMs next
  | some (.resumed resume) =>
    .op (.insertCoordinatorResumeJob { resume with maxAttempts := 3 }) (next none)
      (next (some .succeeded))

def wakeMode : String :=
  (job.wakePolicy.bind (·.mode)).getD "all_completed"

def timeoutFired : Bool :=
  (job.wakePolicy.bind (·.deadlineMs)).any (· ≤ nowMs)

def anyFailed (children : List WorkerJob) : Bool :=
  children.any fun child =>
    child.status = .failedTerminal || child.status = .expired || child.status = .canceled

def shouldWake (children : List WorkerJob) : Bool :=
  if wakeMode job = "any_failed" then
    anyFailed children
  else if wakeMode job = "timeout" then
    timeoutFired job nowMs
  else if wakeMode job = "all_succeeded" then
    !children.isEmpty && children.all (·.status = .succeeded)
  else
    (!children.isEmpty && children.all (·.status.isTerminal))
      || anyFailed children
      || timeoutFired job nowMs

def wakeReason (children : List WorkerJob) : String :=
  if anyFailed children then
    "any_failed"
  else if timeoutFired job nowMs then
    "timeout"
  else
    wakeMode job

def runWatchdogJob : WorkerScript :=
  match job.jobGroupId <|> stringPath job.payload "jobGroupId" with
  | none => next none
  | some groupId =>
    selectTolerantJobs env (·.groupChildren groupId job.jobId) nowMs true (next none)
      fun children =>
        if shouldWake job nowMs children then
          if stringPath job.payload "coordinationMode" = some "durable-v1" then
            runDurableCoordinatorWatchdog harness job nowMs next children
          else
            let wakeup := masterWakeupJob harness job nowMs groupId (wakeReason job nowMs children)
            .op (.enqueueWorkerJob wakeup nowMs) (next none) (next (some .succeeded))
        else
          rescheduleWatchdog job nowMs next

def executeWorkerJob : WorkerScript :=
  match job.kind with
  | .deterministicShell =>
    match harness.shell job with
    | none => next none
    | some .succeeded => next (some .succeeded)
    | some .blocked => next (some .failedTerminal)
    | some .failed =>
      next (some (if job.attempt < job.maxAttempts then .failedRetryable else .failedTerminal))
  | .llmSubagent | .masterWakeup | .coordinatorResume =>
    next (if harness.turnQueued job then some .runtimeQueued else none)
  | .watchdog => runWatchdogJob env harness job nowMs next
  | .memoryEmbeddingBackfill | .learningReview | .skillSynthesis =>
    next (if harness.reviewDone job then some .succeeded else none)
  | .memoryMaintenance | .pluginCall => next (some .succeeded)

end Execute

-- `status='pending' AND attempt=?2 AND lease_owner IS NULL AND lease_expires_at_ms IS NULL`
def isRescheduled (job row : WorkerJob) : Bool :=
  row.jobId = job.jobId
    && row.status = .pending
    && row.attempt = job.attempt
    && row.leaseOwner.isNone
    && row.leaseExpiresAtMs.isNone

def persistOwnedExecutionResult (job : WorkerJob) (workerId : String) (result : WorkerJobStatus)
    (nowMs : Int)
    : WorkerScript :=
  if normalizeExhaustedRetryableResult job result = .pending then
    .read fun m => if m.store.jobs.any (isRescheduled job) then .done else .failed
  else
    execute (.persistOwnedExecutionResult job workerId result nowMs) .failed .done

def minRunningLeaseMs : Int := 150

def runLeasedJob (process : Nat) (options : WorkerRunOnceOptions) (job : WorkerJob) : WorkerScript :=
  execute (.setJobRunning job options.workerId options.nowMs) .failed <|
    .read fun m =>
      let running := m.store.jobs.find? fun row =>
        row.jobId = job.jobId && isRunningLeaseOf (some options.workerId) job.attempt row
      if running.any (·.leaseExpiresAtMs.isSome) then
        .ignoring
          (.startRenewal process job.jobId options.workerId job.attempt options.leaseMs) <|
          executeWorkerJob env harness job options.nowMs fun outcome =>
            let result := normalizeExhaustedRetryableResult job (outcome.getD .failedRetryable)
            .ignoring (.stopRenewal process) <|
              .read fun m =>
                let result := if (m.renewalFailure process).isSome then .failedTerminal else result
                persistOwnedExecutionResult job options.workerId result
                  (saturateI64 (options.nowMs + harness.elapsedMs))
      else
        .failed

def runWorkerOnce (process : Nat) (options : WorkerRunOnceOptions) : WorkerScript :=
  let nowMs := options.nowMs
  if options.leaseMs < minRunningLeaseMs then
    .failed
  else
    quarantineInvalidStoredChildPolicies env nowMs <|
    quarantineInvalidStoredExecutionModes env nowMs <|
    reapExpiredWorkerJobs env nowMs <|
    reconcileRuntimeQueuedJobs env harness nowMs <|
    terminalizeExhaustedPendingJobs env nowMs <|
    leaseNextJob env harness.config nowMs options.lane options.workerId options.leaseMs
      fun leased =>
        match leased with
        | none => .done
        | some job =>
          if harness.cronBlocked job then
            persistExecutionResult job .canceled nowMs .done
          else
            runLeasedJob env harness process options job

def reapStaleWorkerJobs (nowMs : Int) : WorkerScript :=
  quarantineInvalidStoredChildPolicies env nowMs <|
  quarantineInvalidStoredExecutionModes env nowMs <|
  reapExpiredWorkerJobs env nowMs .done

def cancelWorkerJob (jobId : String) (nowMs : Int) : WorkerScript :=
  findJobById env jobId .failed fun _ =>
    .ignoring (.update (.cancelWorkerJob jobId nowMs)) .done

inductive WorkerCall where
  | runWorkerOnce (options : WorkerRunOnceOptions) (harness : Harness)
  | reapStaleWorkerJobs (nowMs : Int)
  | cancelWorkerJob (jobId : String) (nowMs : Int)

def WorkerCall.script (process : Nat) (self : WorkerCall) : WorkerScript :=
  match self with
  | .runWorkerOnce options harness => WorkerStore.runWorkerOnce env harness process options
  | .reapStaleWorkerJobs nowMs => WorkerStore.reapStaleWorkerJobs env nowMs
  | .cancelWorkerJob jobId nowMs => WorkerStore.cancelWorkerJob env jobId nowMs

abbrev Workers := Pool Machine Operation

def step (workers : Workers) (action : PoolAction RenewalEvent) : Workers :=
  workers.step (Operation.apply env) (fun process m => m.stopRenewal process) RenewalEvent.apply
    action

def start (store : Store) (calls : Nat → WorkerCall) : Workers where
  shared := { store, renewal := fun _ => .absent }
  processes process := (calls process).script env process

end WorkerStore
