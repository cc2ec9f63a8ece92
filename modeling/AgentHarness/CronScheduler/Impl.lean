import AgentHarness.CronScheduler.Basic

/-!
A tick of the cron scheduler. Each lane goes through the entries of its plan and makes one decision for
each, until an access fails; a lane that fails with an error does not stop the other lane.
-/

namespace CronScheduler

open CronRuns (Slot CronRun CronRunAdmitOptions)

structure Source where
  kind : String
  label : String
  id : String

namespace Source

variable (self : Source)

def slot (entryId : String) (scheduledForMs : Int) : Slot :=
  (self.kind, self.id, entryId, scheduledForMs)

def decide (entryId : String) (scheduledForMs : Int) (decision : CronSchedulerJobDecisionStatus)
    (reason : String)
    : CronSchedulerJobDecision where
  sourceKind := self.kind
  sourceId := self.id
  entryId
  scheduledForMs
  workerJobId := none
  idempotencyKey := none
  catchUp := none
  decision
  reason

end Source

structure WorkerEnqueueReport where
  job : WorkerJob
  inserted : Bool

namespace World

variable (self : World)

def findJobByIdempotency (key : String) : Option WorkerJob :=
  self.jobs.rows.find? fun job => job.idempotencyKey = key

-- `enqueue_worker_job_v4_in_transaction`, for a job without policy, owner and execution mode
def insertWorkerJob (job : WorkerJob) : Outcome World WorkerEnqueueReport :=
  match self.findJobByIdempotency job.idempotencyKey with
  | some existing => (self, .ok { job := existing, inserted := false })
  | none =>
    match self.jobs.insert job with
    | none => (self, .error CronRuns.constraintFailed)
    | some jobs => ({ self with jobs }, .ok { job, inserted := true })

def watermarkExists (slot : Slot) : Bool :=
  (self.watermarks.find slot).isSome

def deleteWatermark (slot : Slot) : Outcome World Nat :=
  match Table.ofRows (self.watermarks.rows.filter fun watermark => watermark.slot ≠ slot) with
  | none => (self, .error CronRuns.constraintFailed)
  | some watermarks =>
    ({ self with watermarks }, .ok (self.watermarks.rows.countP fun watermark => watermark.slot = slot))

def insertWatermark (watermark : Watermark) : Outcome World Bool :=
  match self.watermarks.insert watermark with
  | none => (self, .ok false)
  | some watermarks => ({ self with watermarks }, .ok true)

end World

def validateCronWorkerIdentity (run : CronRun) (job : WorkerJob) : Except String Unit := do
  if job.source ≠ some "cron-scheduler" then
    throw s!"cron run `{run.runId}` worker `{job.jobId}` has invalid source envelope"
  else if job.idempotencyKey ≠ CronRuns.cronRunWorkerIdempotencyKey run then
    throw s!"cron run `{run.runId}` worker `{job.jobId}` has an invalid idempotency key"
  else
    let payload := job.payload
    let mismatched (field : String) : String :=
      s!"cron run `{run.runId}` worker `{job.jobId}` has mismatched immutable `{field}` identity"
    let expectedStrings := [
      ("cronRunId", payload.cronRunId, run.runId),
      ("sourceKind", payload.sourceKind, run.sourceKind),
      ("sourceId", payload.sourceId, run.sourceId),
      ("entryId", payload.entryId, run.entryId),
      ("agentId", payload.agentId, run.agentId),
      ("sessionKey", payload.sessionKey, run.sessionKey),
      ("sessionPolicy", payload.sessionPolicy, run.sessionPolicy),
      ("runtimeClass", payload.runtimeClass, run.runtimeClass),
      ("origin", payload.origin, "cron-scheduler")]
    match expectedStrings.find? fun check => check.2.1 ≠ check.2.2 with
    | some (field, _) => throw (mismatched field)
    | none =>
      if payload.scheduledForMs ≠ run.scheduledForMs then
        throw (mismatched "scheduledForMs")
      else if payload.cronRunAttempt ≠ some run.attempt
          ∧ ¬(run.attempt = 0 ∧ payload.cronRunAttempt = none) then
        throw (mismatched "cronRunAttempt")
      else
        return ()

section

variable (faults : Faults) (nowMs : Int)

def validateAndLinkCronWorker (run : CronRun) (job : WorkerJob) : Step Unit :=
  match validateCronWorkerIdentity run job with
  | .error reason => do
    let _ ← perform faults .block (onRuns fun runs =>
      runs.blockUnlinkedAdmittedCronRun run.runId run.attempt i64Max reason nowMs)
    throw (.error { kind := .invalidData, message := reason })
  | .ok () => do
    let linked ← perform faults .link (onRuns fun runs =>
      runs.markCronRunWorkerEnqueued run.runId run.attempt job.jobId nowMs)
    if linked then
      pure ()
    else
      let exact ← perform faults .linkLookup (query fun world =>
        world.runs.cronRunHasExactWorkerLink run.runId run.attempt job.jobId)
      if exact then
        pure ()
      else
        throw (.error {
          kind := .other
          message := s!"CronRun {run.runId} attempt {run.attempt} rejected worker link {job.jobId}" })

def lookupByKey (key : String) : Step (Except IoError (Option WorkerJob)) :=
  match faults .keyLookup with
  | some (.error e) => pure (.error e)
  | some .crash => throw .crash
  | none => do
    let tick ← get
    pure (.ok (tick.world.findJobByIdempotency key))

def compensateCronWorkerEnqueueError (run : CronRun) (enqueueError : IoError) : Step Unit := do
  match ← lookupByKey faults (CronRuns.cronRunWorkerIdempotencyKey run) with
  | .ok (some job) => validateAndLinkCronWorker faults nowMs run job
  | .ok none =>
    let expired ← perform faults .expire (onRuns fun runs =>
      runs.expireUnlinkedAdmittedCronRun run.runId run.attempt i64Max
        ("scheduler worker enqueue failed before a worker existed; zero worker and zero side effect: "
          ++ enqueueError.message) nowMs)
    if expired then
      pure ()
    else
      throw (.error {
        kind := .other
        message := s!"CronRun {run.runId} could not be compensated after worker enqueue failure" })
  | .error lookupError =>
    let reason := "worker enqueue outcome is ambiguous and exact idempotency lookup failed: "
      ++ lookupError.message
    let _ ← perform faults .block (onRuns fun runs =>
      runs.blockUnlinkedAdmittedCronRun run.runId run.attempt i64Max reason nowMs)
    throw (.error { kind := .other, message := reason })

def enqueueWorkerJob (job : WorkerJob) : Step WorkerEnqueueReport := do
  let report ← perform faults .enqueue (·.insertWorkerJob job)
  perform faults .lifecycle (query fun _ => ())
  return report

def enqueueOrCompensate (run : CronRun) (job : WorkerJob) : Step WorkerEnqueueReport :=
  fun tick =>
    match enqueueWorkerJob faults job tick with
    | (.error (.error e), later) => (do
        compensateCronWorkerEnqueueError faults nowMs run e
        throw (.error e) : Step WorkerEnqueueReport) later
    | result => result

def linkAndCount (admission : CronRunAdmitOptions) (catchUp : Option CronSchedulerCatchUpDecision)
    (run : CronRun) (report : WorkerEnqueueReport)
    : Step CronSchedulerJobDecision := do
  validateAndLinkCronWorker faults nowMs run report.job
  let reason :=
    if report.inserted then "worker job inserted" else "worker idempotency key already existed"
  let _ ← perform faults .insertWatermark (·.insertWatermark {
    slot := admission.slot
    enqueuedAtMs := nowMs
    workerJobId := report.job.jobId
    reason })
  modify fun tick =>
    { tick with enqueued := if report.inserted then tick.enqueued + 1 else tick.enqueued }
  return {
    sourceKind := admission.sourceKind
    sourceId := admission.sourceId
    entryId := admission.entryId
    scheduledForMs := admission.scheduledForMs
    workerJobId := some report.job.jobId
    idempotencyKey := some (schedulerIdempotencyKey admission.slot run.attempt)
    catchUp
    decision := if report.inserted then .enqueued else .skippedDuplicate
    reason }

/-
What both lanes do with a due slot: admit the run, enqueue the worker job of its attempt, link the two and
set the watermark.
-/
def admitAndEnqueue (admission : CronRunAdmitOptions) (job : CronRun → String → WorkerJob)
    (catchUp : Option CronSchedulerCatchUpDecision)
    : Step CronSchedulerJobDecision := do
  let run ← perform faults .admitRun (onRuns (·.admitCronRun admission))
  let key := schedulerIdempotencyKey admission.slot run.attempt
  let report ← enqueueOrCompensate faults nowMs run (job run key)
  linkAndCount faults nowMs admission catchUp run report

def clearForRetry (source : Source) (entryId : String) (scheduledForMs : Int)
    : Step (Option CronRun) := do
  let run ← perform faults .slotLookup (query fun world =>
    (world.runs.findRunBySlot (source.slot entryId scheduledForMs)).filter fun run =>
      run.status = .retryPending && !run.quarantined)
  if run.isSome then
    let cleared ← perform faults .clearWatermark (·.deleteWatermark (source.slot entryId scheduledForMs))
    if cleared > 0 then
      let warning := s!"cleared {cleared} cron scheduler watermark(s) for retry-pending {source.label} slot `{entryId}`"
      modify fun tick => { tick with warnings := tick.warnings ++ [warning] }
    else
      pure ()
  else
    pure ()
  return run

end

section Native

variable (options : CronSchedulerRunOnceOptions) (config : CronSchedulerConfig)

def nativeSource : Source where
  kind := "native-cron"
  label := "native cron"
  id := stableSourceId "native-cron" options.sourceHome

def nativeCronEntryRuntimePathBlocker (entry : NativeCronPlanEntry) : Option String :=
  if !options.windows then
    none
  else
    entry.messageText.bind fun text =>
      let lowered := Text.toAsciiLowercase text
      if ["/root/", "/home/", "/mnt/", "/var/", "/etc/"].any (Text.contains lowered) then
        some "native cron message references Linux-style absolute paths while the live runtime is Windows; review or rewrite the job before enqueue"
      else
        none

def normalizedCronSessionPolicy (value : Option String) : String :=
  if Text.toAsciiLowercase (value.getD "one-shot") = "sticky" then "sticky" else "one-shot"

def nativeCronSessionKey (entry : NativeCronPlanEntry) (agentId : String) (scheduledForMs : Int)
    (sessionPolicy : String)
    : String :=
  let owner := "cron:" ++ normalizeKeyPart agentId ++ ":" ++ normalizeKeyPart entry.jobId ++ ":"
  if sessionPolicy = "sticky" then
    owner ++ "sticky:" ++ (entry.sessionKey.map normalizeKeyPart).getD "sticky"
  else
    owner ++ toString scheduledForMs

def nativeAdmission (entry : NativeCronPlanEntry) (agentId : String) (scheduledForMs : Int)
    : CronRunAdmitOptions :=
  let sessionPolicy := normalizedCronSessionPolicy entry.sessionPolicy
  { sourceKind := (nativeSource options).kind
    sourceId := (nativeSource options).id
    entryId := entry.jobId
    agentId
    scheduledForMs
    runtimeClass := "cron"
    sessionKey := nativeCronSessionKey entry agentId scheduledForMs sessionPolicy
    sessionPolicy
    maxAttempts := 3
    nowMs := options.nowMs }

def cronWorkerJob (admission : CronRunAdmitOptions) (kind : WorkerJobKind) (lane work : String)
    (dryRun : Bool) (catchUp : Option CronSchedulerCatchUpDecision) (maxAttempts : Int) (timeoutMs : Nat)
    (run : CronRun) (key : String)
    : WorkerJob :=
  let payload : CronPayload := {
    cronRunId := CronRuns.cronRunId admission.slot
    sourceKind := admission.sourceKind
    sourceId := admission.sourceId
    entryId := admission.entryId
    scheduledForMs := admission.scheduledForMs
    agentId := admission.agentId
    sessionKey := admission.sessionKey
    sessionPolicy := admission.sessionPolicy
    runtimeClass := admission.runtimeClass
    origin := "cron-scheduler"
    cronRunAttempt := some run.attempt
    work
    dryRun
    catchUp }
  { jobId := "job:" ++ toString options.nowMs ++ ":" ++ kind.asStr ++ ":"
      ++ options.payloadHash key payload
    kind
    lane
    source := some "cron-scheduler"
    payload
    idempotencyKey := key
    maxAttempts
    timeoutMs
    createdAtMs := options.nowMs }

def nativeWorkerJob (entry : NativeCronPlanEntry) (agentId : String) (scheduledForMs : Int)
    : CronRun → String → WorkerJob :=
  cronWorkerJob options (nativeAdmission options entry agentId scheduledForMs) .llmSubagent "cron"
    (entry.messageText.getD s!"Run native cron job {entry.jobId}") false none 3 defaultWorkerTimeoutMs

def retrySelfDiscount (retryPendingRun : Option CronRun) (agentId jobId : String) : Nat :=
  if retryPendingRun.any fun run => run.agentId = agentId && run.entryId = jobId then 1 else 0

def enqueueNativeEntry (input : NativeInput) (scheduledForMs : Int) (retryPendingRun : Option CronRun)
    : Step CronSchedulerJobDecision := do
  let entry := input.entry
  let source := nativeSource options
  let skip (decision : CronSchedulerJobDecisionStatus) (reason : String) : Step CronSchedulerJobDecision :=
    pure (source.decide entry.jobId scheduledForMs decision reason)
  match entry.agentId with
  | none => skip .error "native cron entry had no agent id"
  | some agentId =>
    match ← perform input.faults .quarantineLookup (query fun world =>
        world.runs.cronRunIsQuarantined agentId entry.jobId) with
    | some reason => skip .skippedPolicy s!"cron job quarantined: {reason}"
    | none =>
      let discount := retrySelfDiscount retryPendingRun agentId entry.jobId
      let activeJob ← perform input.faults .activeJobCount (query fun world =>
        world.runs.cronRunActiveCountForJob agentId entry.jobId)
      if activeJob - discount ≥ config.maxActiveRunsPerJob then
        skip .skippedPolicy s!"cron active run cap reached for job `{entry.jobId}`"
      else
        let activeAgent ← perform input.faults .activeAgentCount (query fun world =>
          world.runs.cronRunActiveCountForAgent agentId)
        if activeAgent - discount ≥ config.maxQueuedPerAgent then
          skip .skippedPolicy s!"cron queued run cap reached for agent `{agentId}`"
        else if activeAgent - discount ≥ config.maxActiveRunsPerAgent then
          skip .skippedPolicy s!"cron active run cap reached for agent `{agentId}`"
        else
          admitAndEnqueue input.faults options.nowMs
            (nativeAdmission options entry agentId scheduledForMs)
            (nativeWorkerJob options entry agentId scheduledForMs) none

def collectDueNativeEntry (input : NativeInput) (scheduledForMs : Int)
    : Step CronSchedulerJobDecision := do
  let entry := input.entry
  let source := nativeSource options
  modify fun tick => { tick with dueCandidates := tick.dueCandidates + 1 }
  if options.dryRun then
    return source.decide entry.jobId scheduledForMs .skippedPolicy
      "dry-run: due native cron job would enqueue"
  else
    let retryPendingRun ← clearForRetry input.faults source entry.jobId scheduledForMs
    let watermarked ← perform input.faults .watermarkLookup (query fun world =>
      world.watermarkExists (source.slot entry.jobId scheduledForMs))
    if watermarked then
      return source.decide entry.jobId scheduledForMs .skippedDuplicate
        "watermark already exists for this scheduled slot"
    else
      enqueueNativeEntry options config input scheduledForMs retryPendingRun

-- what the schedule of the entry gives, before any store is asked
inductive Evaluation (δ : Type) where
  | skip (decision : CronSchedulerJobDecision)
  | due (slot : δ)

def evaluateNativeEntry (entry : NativeCronPlanEntry) : Except Failure (Evaluation Int) :=
  let skip (decision : CronSchedulerJobDecisionStatus) (reason : String)
      : Except Failure (Evaluation Int) :=
    .ok (.skip ((nativeSource options).decide entry.jobId options.nowMs decision reason))
  let evaluate : Except Failure (Evaluation Int) :=
    match nativeCronEntryRuntimePathBlocker options entry with
    | some reason => skip .skippedPolicy reason
    | none =>
      match nativeDueSlot entry.schedule options.nowMs with
      | .ok (some scheduledForMs) => .ok (.due scheduledForMs)
      | .ok none => skip .skippedPolicy notDueReason
      | .error (.malformed error) => skip .error error
      | .error .panic => .error .crash
  match entry.action with
  | .disabled | .missingAgent | .unsupportedSchedule | .waitingSchedule =>
    skip .skippedPolicy entry.reason
  | .cutoverHold => skip .skippedHeld entry.reason
  | .cronRegistered =>
    if config.includeRegisteredCron then
      evaluate
    else
      skip .skippedPolicy "includeRegisteredCron is false"
  | .enqueueAgentTurn => evaluate

end Native

def limitReason : String := "maxEnqueuePerTick reached"

def collectEntry {δ : Type} (config : CronSchedulerConfig) (limited : CronSchedulerJobDecision)
    (evaluation : Except Failure (Evaluation δ)) (collectDue : δ → Step CronSchedulerJobDecision)
    : Step CronSchedulerJobDecision := do
  let tick ← get
  if tick.enqueued ≥ config.maxEnqueuePerTick then
    return limited
  else
    match evaluation with
    | .error failure => throw failure
    | .ok (.skip decision) => return decision
    | .ok (.due slot) => collectDue slot

def collectNativeEntry (options : CronSchedulerRunOnceOptions) (config : CronSchedulerConfig)
    (input : NativeInput)
    : Step CronSchedulerJobDecision :=
  collectEntry config
    ((nativeSource options).decide input.entry.jobId options.nowMs .skippedPolicy limitReason)
    (evaluateNativeEntry options config input.entry)
    (collectDueNativeEntry options config input)

section Deterministic

variable (options : CronSchedulerRunOnceOptions) (config : CronSchedulerConfig)
  (previousTickMs : Option Int)

def deterministicSource : Source where
  kind := "deterministic-cron"
  label := "deterministic cron"
  id := stableSourceId "deterministic-cron" options.sourceWorkspace

def deterministicCronEvidenceEntryId (input : DeterministicInput) : String :=
  (input.canon.bind CanonEntry.id).getD input.entry.entryId

def deterministicCronExecutionPolicy (input : DeterministicInput)
    : Except String DeterministicExecutionPolicy :=
  match input.canon with
  | none => .ok .default
  | some canon => do
    let timeoutMs ← match canon.timeoutMs with
      | none => pure defaultWorkerTimeoutMs
      | some none =>
        throw s!"deterministic cron `{input.entry.entryId}` timeoutMs must be an integer"
      | some (some timeoutMs) =>
        if minDeterministicTimeoutMs ≤ timeoutMs ∧ timeoutMs ≤ maxDeterministicTimeoutMs then
          pure timeoutMs
        else
          throw s!"deterministic cron `{input.entry.entryId}` timeoutMs must be between {minDeterministicTimeoutMs} and {maxDeterministicTimeoutMs}"
    let maxAttempts ← match canon.maxAttempts with
      | none => pure 3
      | some none =>
        throw s!"deterministic cron `{input.entry.entryId}` maxAttempts must be an integer"
      | some (some maxAttempts) =>
        if 1 ≤ maxAttempts ∧ maxAttempts ≤ maxDeterministicAttempts then
          pure maxAttempts
        else
          throw s!"deterministic cron `{input.entry.entryId}` maxAttempts must be between 1 and {maxDeterministicAttempts}"
    return { timeoutMs, maxAttempts }

def readTimezoneLine (entry : DeterministicCronPlanEntry) (timezone : Option String) (line : String)
    : Read (Option String) :=
  match splitOnce '=' (Text.trim line) with
  | none => .ok timezone
  | some (key, value) =>
    if Text.trim key = "TZ" ∨ Text.trim key = "CRON_TZ" then
      let value := trimMatches '\'' (trimMatches '"' (Text.trim value))
      match timezoneOffsetMinutes (some value) with
      | .error (.malformed error) =>
        .error (.malformed
          s!"deterministic crontab {entry.crontabFile}:{entry.lineNumber} has {error}")
      | .error .panic => .error .panic
      | .ok _ => .ok (some value)
    else
      .ok timezone

def deterministicCrontabTimezone (input : DeterministicInput) : Read (Option String) :=
  let entry := input.entry
  match input.crontab with
  | .error error =>
    .error (.malformed s!"could not read deterministic crontab {entry.crontabFile}: {error.message}")
  | .ok lines => (lines.take (entry.lineNumber - 1)).foldlM (readTimezoneLine entry) none

structure DeterministicDue where
  scheduledForMs : Int
  policy : DeterministicExecutionPolicy
  catchUp : Option CronSchedulerCatchUpDecision

def evaluateDeterministicSchedule (input : DeterministicInput) (policy : DeterministicExecutionPolicy)
    (timezone : Option String)
    : Except Failure (Evaluation DeterministicDue) :=
  let entry := input.entry
  let skip (decision : CronSchedulerJobDecisionStatus) (reason : String) : CronSchedulerJobDecision :=
    (deterministicSource options).decide (deterministicCronEvidenceEntryId input) options.nowMs
      decision reason
  match deterministicDueSlot entry.schedule timezone options.nowMs with
  | .error (.malformed error) => .ok (.skip (skip .error error))
  | .error .panic => .error .crash
  | .ok (some scheduledForMs) => .ok (.due { scheduledForMs, policy, catchUp := none })
  | .ok none => do
    match ← ofRead (deterministicCatchUpDecision entry.schedule timezone previousTickMs options.nowMs
        config.maxCatchupPerTick (input.canon.bind CanonEntry.catchUpPolicy)) with
    | some (.enqueue scheduledForMs decision missedSlots) =>
      return .due { scheduledForMs, policy, catchUp := some { decision, missedSlots } }
    | some (.suppress decision missedSlots) =>
      return .skip { skip .skippedPolicy "catch-up policy suppressed missed deterministic cron slots" with
        catchUp := some { decision, missedSlots } }
    | none => return .skip (skip .skippedPolicy notDueReason)

def evaluateDeterministicEntry (input : DeterministicInput)
    : Except Failure (Evaluation DeterministicDue) :=
  let entry := input.entry
  let source := deterministicSource options
  let evidence := source.decide (deterministicCronEvidenceEntryId input) options.nowMs .error
  if entry.action = .cutoverHold then
    .ok (.skip (source.decide entry.entryId options.nowMs .skippedHeld entry.reason))
  else if entry.action ≠ .readyCommand then
    .ok (.skip (source.decide entry.entryId options.nowMs .skippedPolicy entry.reason))
  else
    match deterministicCronExecutionPolicy input with
    | .error error => .ok (.skip (evidence error))
    | .ok policy =>
      match deterministicCrontabTimezone input with
      | .error (.malformed error) => .ok (.skip (evidence error))
      | .error .panic => .error .crash
      | .ok timezone => evaluateDeterministicSchedule options config previousTickMs input policy timezone

def deterministicCronSessionKey (entryId : String) (scheduledForMs : Int) : String :=
  "cron:deterministic:" ++ normalizeKeyPart entryId ++ ":" ++ toString scheduledForMs

def deterministicAdmission (input : DeterministicInput) (due : DeterministicDue)
    : CronRunAdmitOptions where
  sourceKind := (deterministicSource options).kind
  sourceId := (deterministicSource options).id
  entryId := deterministicCronEvidenceEntryId input
  agentId := "cron-scheduler"
  scheduledForMs := due.scheduledForMs
  runtimeClass := "deterministic-shell"
  sessionKey := deterministicCronSessionKey (deterministicCronEvidenceEntryId input) due.scheduledForMs
  sessionPolicy := "one-shot"
  maxAttempts := due.policy.maxAttempts
  nowMs := options.nowMs

def deterministicWorkerJob (input : DeterministicInput) (due : DeterministicDue)
    : CronRun → String → WorkerJob :=
  cronWorkerJob options (deterministicAdmission options input due) .deterministicShell "shell"
    input.entry.command (!config.executeShell) due.catchUp due.policy.maxAttempts due.policy.timeoutMs

def legacyWatermarked (input : DeterministicInput) (due : DeterministicDue) : Step Bool :=
  if deterministicCronEvidenceEntryId input ≠ input.entry.entryId then
    perform input.faults .legacyWatermarkLookup (query fun world =>
      world.watermarkExists ((deterministicSource options).slot input.entry.entryId due.scheduledForMs))
  else
    pure false

def collectDueDeterministicEntry (input : DeterministicInput) (due : DeterministicDue)
    : Step CronSchedulerJobDecision := do
  let entry := input.entry
  let source := deterministicSource options
  let evidenceEntryId := deterministicCronEvidenceEntryId input
  let decide := source.decide evidenceEntryId due.scheduledForMs
  modify fun tick => { tick with dueCandidates := tick.dueCandidates + 1 }
  if options.dryRun then
    return { decide .skippedPolicy "dry-run: due deterministic cron command would enqueue" with
      catchUp := due.catchUp }
  else
    let _ ← clearForRetry input.faults source evidenceEntryId due.scheduledForMs
    let watermarked ← perform input.faults .watermarkLookup (query fun world =>
      world.watermarkExists (source.slot evidenceEntryId due.scheduledForMs))
    if watermarked then
      return decide .skippedDuplicate "watermark already exists for this scheduled slot"
    else
      let legacy ← legacyWatermarked options input due
      if legacy then
        return decide .skippedDuplicate
          "legacy deterministic entry watermark already exists for this scheduled slot"
      else
        match entry.scriptPath with
        | none => return decide .error "deterministic cron entry had no script path"
        | some _ =>
          admitAndEnqueue input.faults options.nowMs (deterministicAdmission options input due)
            (deterministicWorkerJob options config input due) due.catchUp

def collectDeterministicEntry (input : DeterministicInput) : Step CronSchedulerJobDecision :=
  collectEntry config
    ((deterministicSource options).decide input.entry.entryId options.nowMs .skippedPolicy limitReason)
    (evaluateDeterministicEntry options config previousTickMs input)
    (collectDueDeterministicEntry options config input)

end Deterministic

end CronScheduler

/-!
The whole tick: the lanes one after the other, the receipts, and the runs of ticks between the other
operations on the cron runs.
-/

namespace CronScheduler

structure Lane where
  tick : Tick
  decisions : List CronSchedulerJobDecision
  result : Except Failure Unit

def collect {ι : Type} (step : ι → Step CronSchedulerJobDecision) : List ι → Tick → Lane
  | [], tick => { tick, decisions := [], result := .ok () }
  | input :: inputs, tick =>
    match Faulty.exec (step input) tick with
    | (.error failure, later) => { tick := later, decisions := [], result := .error failure }
    | (.ok decision, later) =>
      let lane := collect step inputs later
      { lane with decisions := decision :: lane.decisions }

structure TickInput where
  options : CronSchedulerRunOnceOptions
  config : CronSchedulerConfig
  lockBusy : Bool
  natives : Except IoError (List NativeInput)
  deterministics : Except IoError (List DeterministicInput)
  -- `receipts.jsonl` has reached its size limit
  oversized : Bool
  startFault : Option Failure
  rotateFault : Option Failure
  receiptFaults : Nat → Option Failure
  endFault : Option Failure

structure CronSchedulerRunOnceReport where
  status : CronSchedulerTickStatus
  decisions : List CronSchedulerJobDecision
  enqueued : Nat
  dueCandidates : Nat
  laneErrors : List IoError
  warnings : List String

namespace CronSchedulerRunOnceReport

variable (self : CronSchedulerRunOnceReport)

def count (decision : CronSchedulerJobDecisionStatus) : Nat :=
  self.decisions.countP fun made => made.decision = decision

def errors : Nat :=
  self.count .error + self.laneErrors.length

def shouldPersist (dryRun : Bool) : Bool :=
  dryRun || self.status = .error || self.enqueued > 0 || self.errors > 0 || self.count .skippedHeld > 0
    || self.dueCandidates > 0

def receipts (nowMs : Int) (dryRun : Bool) : List Receipt :=
  (self.decisions.filter CronSchedulerJobDecision.shouldPersist).map .job
    ++ if self.shouldPersist dryRun then [.tick nowMs self.status dryRun] else []

end CronSchedulerRunOnceReport

def appendLines (faults : Nat → Option Failure) : Nat → List Receipt → List Receipt × Except Failure Unit
  | _, [] => ([], .ok ())
  | n, line :: lines =>
    match faults n with
    | some failure => ([], .error failure)
    | none =>
      let (appended, result) := appendLines faults (n + 1) lines
      (line :: appended, result)

def Receipt.tickMs? (self : Receipt) : Option Int :=
  match self with
  | .tick nowMs _ _ => some nowMs
  | .job _ => none

namespace World

variable (self : World)

def lastSchedulerTickMs : Option Int :=
  self.receipts.reverse.findSome? Receipt.tickMs?

def rotateReceipts (oversized : Bool) : World :=
  if oversized then
    { self with receipts := [], archived := self.archived ++ self.receipts }
  else
    self

def appendCronSchedulerReceipts (input : TickInput) (report : CronSchedulerRunOnceReport)
    : World × Except Failure Unit :=
  match input.rotateFault with
  | some failure => (self, .error failure)
  | none =>
    let rotated := self.rotateReceipts input.oversized
    let (appended, result) := appendLines input.receiptFaults 0
      (report.receipts input.options.nowMs input.options.dryRun)
    ({ rotated with receipts := rotated.receipts ++ appended }, result)

def finish (input : TickInput) (report : CronSchedulerRunOnceReport)
    : World × Except Failure CronSchedulerRunOnceReport :=
  match self.appendCronSchedulerReceipts input report with
  | (later, .error failure) => (later, .error failure)
  | (later, .ok ()) =>
    match input.endFault with
    | some failure => (later, .error failure)
    | none => (later, .ok report)

end World

def World.startTick (self : World) : Tick where
  world := self
  enqueued := 0
  dueCandidates := 0
  warnings := []

def emptyReport (status : CronSchedulerTickStatus) (warnings : List String)
    : CronSchedulerRunOnceReport where
  status
  decisions := []
  enqueued := 0
  dueCandidates := 0
  laneErrors := []
  warnings

def collectDeterministicEntries (options : CronSchedulerRunOnceOptions) (config : CronSchedulerConfig)
    (inputs : List DeterministicInput) (tick : Tick)
    : Lane :=
  collect (collectDeterministicEntry options config tick.world.lastSchedulerTickMs) inputs tick

section

variable (input : TickInput)

def collectNativeCronDecisions (tick : Tick) : Lane :=
  if !input.config.nativeEnabled then
    { tick, decisions := [], result := .ok () }
  else
    match input.natives with
    | .error e => { tick, decisions := [], result := .error (.error e) }
    | .ok natives => collect (collectNativeEntry input.options input.config) natives tick

def collectDeterministicCronDecisions (tick : Tick) : Lane :=
  if !input.config.deterministicEnabled then
    { tick, decisions := [], result := .ok () }
  else
    match input.deterministics with
    | .error e => { tick, decisions := [], result := .error (.error e) }
    | .ok deterministics =>
      collectDeterministicEntries input.options input.config deterministics tick

def Lane.error? (self : Lane) : Option IoError :=
  match self.result with
  | .error (.error e) => some e
  | _ => none

def Lane.isCrashed (self : Lane) : Bool :=
  match self.result with
  | .error .crash => true
  | _ => false

def report (native deterministic : Lane) : CronSchedulerRunOnceReport :=
  let laneErrors := native.error?.toList ++ deterministic.error?.toList
  { status :=
      if laneErrors ≠ [] then .error else if input.options.dryRun then .dryRun else .completed
    decisions := native.decisions ++ deterministic.decisions
    enqueued := deterministic.tick.enqueued
    dueCandidates := deterministic.tick.dueCandidates
    laneErrors
    warnings := deterministic.tick.warnings
      ++ (native.error?.toList.map fun e => s!"native cron scheduler tick failed: {e.message}")
      ++ (deterministic.error?.toList.map fun e =>
        s!"deterministic cron scheduler tick failed: {e.message}")
      ++ if !input.config.nativeEnabled && !input.config.deterministicEnabled then
          ["cronScheduler has no enabled source lanes"]
        else
          [] }

def runCronSchedulerOnce (world : World) : World × Except Failure CronSchedulerRunOnceReport :=
  match input.startFault with
  | some failure => (world, .error failure)
  | none =>
    if input.lockBusy then
      world.finish input (emptyReport .lockBusy [])
    else if !input.config.enabled then
      world.finish input (emptyReport .disabled
        ["cronScheduler.enabled is false; scheduler tick did not enqueue work"])
    else
      let native := collectNativeCronDecisions input world.startTick
      if native.isCrashed then
        (native.tick.world, .error .crash)
      else
        let deterministic := collectDeterministicCronDecisions input native.tick
        if deterministic.isCrashed then
          (deterministic.tick.world, .error .crash)
        else
          deterministic.tick.world.finish input (report input native deterministic)

end

inductive Event where
  | tick (input : TickInput)
  | runs (call : CronRuns.Call)

def World.exec (self : World) (event : Event) : World :=
  match event with
  | .tick input => (runCronSchedulerOnce input self).1
  | .runs call => { self with runs := self.runs.exec call }

end CronScheduler
