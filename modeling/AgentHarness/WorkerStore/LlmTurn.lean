import AgentHarness.Coordinator.Owner
import AgentHarness.RuntimeQueue.Lease
import AgentHarness.Logging.AppendOnce
import AgentHarness.WorkerStore.Basic

/-!
The typed metadata of a coordinator resume job, and the lane that a queued continuation must match.
-/

namespace Coordinator

def coordinatorResumeMetadataSchema : String := "agent-harness.coordinator-resume.v1"

inductive CoordinatorResumeMetadataError where
  | invalidSchema (schema : String)
  | invalidIdentifier (field : String)
  | invalidOwner (reason : String)
  | queuedLaneMismatch (axis : String)

def CoordinatorResumeMetadataError.message (self : CoordinatorResumeMetadataError) : String :=
  match self with
  | .invalidSchema schema => s!"unsupported coordinator resume schema {schema}"
  | .invalidIdentifier field => s!"coordinator resume {field} is invalid"
  | .invalidOwner reason => s!"coordinator resume owner is invalid: {reason}"
  | .queuedLaneMismatch axis => s!"coordinator resume owner does not match queued {axis}"

structure CoordinatorResumeQueuedLaneV1 where
  platform : String
  accountId : String
  channelId : String
  userId : String
  agentId : String
  runtimeClass : String
  sessionKey : String

structure CoordinatorResumeMetadataV1 where
  schema : String
  intentId : String
  waitId : String
  continuationQueueId : String
  owner : ExactWorkerResultOwnerV1
  deriving DecidableEq

namespace CoordinatorResumeMetadataV1

def validateIdentifier (field value : String) : Except CoordinatorResumeMetadataError Unit :=
  if value = "" || value ≠ Text.trim value || value.utf8ByteSize > 512
      || value.toList.any Text.isControl then
    .error (.invalidIdentifier field)
  else
    .ok ()

variable (self : CoordinatorResumeMetadataV1)

def validate : Except CoordinatorResumeMetadataError Unit := do
  .require (self.schema = coordinatorResumeMetadataSchema) (.invalidSchema self.schema)
  validateIdentifier "intentId" self.intentId
  validateIdentifier "waitId" self.waitId
  validateIdentifier "continuationQueueId" self.continuationQueueId
  self.owner.validate.mapError fun error => .invalidOwner error.message
  .require self.owner.parentQueueId.isSome (.invalidOwner "parentQueueId is required")

-- each axis with what the owner has and what was queued
def observedAxes (queued : CoordinatorResumeQueuedLaneV1) : List (String × String × String) :=
  let lane := self.owner.lane
  [ ("platform", lane.platform, queued.platform),
    ("accountId", lane.accountId, queued.accountId),
    ("channelId", lane.channelId, queued.channelId),
    ("userId", lane.userId, queued.userId),
    ("agentId", lane.agentId, queued.agentId),
    ("runtimeClass", lane.runtimeClass, queued.runtimeClass),
    ("rootVirtualSession", lane.rootVirtualSession,
      ChannelSessionKey.rootWorkingSessionKey queued.sessionKey),
    ("concreteSession", lane.concreteSession, queued.sessionKey) ]

def validateQueuedLane (queued : CoordinatorResumeQueuedLaneV1)
    : Except CoordinatorResumeMetadataError Unit := do
  self.validate
  match (self.observedAxes queued).find? fun (_, expected, actual) => expected ≠ actual with
  | some (axis, _, _) => .error (.queuedLaneMismatch axis)
  | none =>
    let expected := RuntimeQueue.deriveVirtualSessionId queued.platform queued.channelId
      queued.userId queued.agentId (ChannelSessionKey.rootWorkingSessionKey queued.sessionKey)
    .require (self.owner.virtualSessionId = expected) (.queuedLaneMismatch "virtualSessionId")

end CoordinatorResumeMetadataV1

end Coordinator

/-!
The turn of an LLM worker job: the runtime queue item that is built from the job, and its append to
the pending file unless a row has its queue id.
-/

namespace WorkerStore

open Coordinator (CoordinatorResumeMetadataV1 CoordinatorResumeQueuedLaneV1)

-- the parts of a child policy that reach the queue, the typed ones as their JSON
structure ChildExecutionPolicy where
  provider : Option String
  model : Option String
  reasoningPreference : Option String
  backendReasoningPolicy : Option String

def ChildExecutionPolicy.isManagedRoute (self : ChildExecutionPolicy) : Bool :=
  self.provider.isSome

structure AuthorizedExecutionMode where
  -- the snapshot as JSON
  snapshot : String
  resultOwner : Option Coordinator.ExactWorkerResultOwnerV1
  deriving DecidableEq

inductive RuntimeQueueItemStatus where
  | queued
  deriving DecidableEq

structure RuntimeQueueSource where
  kind : String
  sourceHome : String
  sourceWorkspace : String
  runtimeWorkspace : Option String
  deriving DecidableEq

/-
The continuation metadata of an item of a worker is the default one, which writes no field.
`coordinatorResume` is the field that is added to the value of the item.
-/
structure RuntimeQueueItem where
  schema : String
  queueId : String
  admissionQueueId : Option String
  status : RuntimeQueueItemStatus
  runtimeClass : String
  origin : String
  cronRunId : Option String
  scheduledForMs : Option Int
  source : RuntimeQueueSource
  createdAtMs : Int
  agentId : String
  sessionKey : String
  platform : String
  accountId : Option String
  channelId : String
  userId : String
  messageText : String
  inboundContext : Option String
  inboundCanonicalId : Option String
  inboundMediaArtifacts : List String
  provider : Option String
  model : Option String
  reasoningPreference : Option String
  backendReasoningPolicy : Option String
  authorizedExecutionMode : Option AuthorizedExecutionMode
  promptFilesPresent : Nat
  promptFilesTotal : Nat
  selectedSkillIds : List String
  plannedTranscriptFile : String
  plannedTrajectoryFile : String
  coordinatorResume : Option CoordinatorResumeMetadataV1
  deriving DecidableEq

-- the JSON library at the values of the payloads and of the queue
structure QueueSerde (V : Type) extends Serde V where
  -- `value.get(name).and_then(Value::as_i64)`
  intField : V → String → Option Int
  -- `value.get(name).cloned()`
  field : V → String → Option V
  -- `serde_json::from_value`
  metadata : V → Except String CoordinatorResumeMetadataV1
  -- `serde_json::to_value`
  itemValue : RuntimeQueueItem → V

structure LlmJob (V : Type) where
  jobId : String
  kind : WorkerJobKind
  masterSessionKey : Option String
  payload : V
  childPolicy : Option ChildExecutionPolicy
  authorizedExecutionMode : Option AuthorizedExecutionMode
  createdAtMs : Int

-- what the rest of the harness answers
structure TurnWorld where
  queueFile : String
  -- `confined_agent_sessions_dir(harness_home, agent_id, runtime_class, true)`
  confinedAgentSessionsDir : String → String → Except IoError String
  -- run, attempt, job, queue id and clock
  markCronRunRuntimeEnqueued : String → Int → String → String → Int → Except IoError Bool
  -- kind and job, queue id and clock
  recordLlmSubagentLifecycleRunning : WorkerJobKind → String → String → Int → Except IoError Unit

structure WorkerJobExecutionResult where
  status : WorkerJobStatus
  reason : String
  runtimeQueueFile : String
  runtimeQueueId : String
  runtimeClass : String
  origin : String
  cronRunId : Option String
  transcriptFile : String
  trajectoryFile : String

section

variable {V : Type} (serde : QueueSerde V)

def requiredPayloadString (value : V) (key : String) : Except IoError String :=
  .ofOption (serde.stringField value key)
    { kind := .invalidInput, message := s!"worker payload requires {key}" }

def stringPathAny (value : V) (keys : List String) : Option String :=
  keys.findSome? (serde.stringField value)

def intPathAny (value : V) (keys : List String) : Option Int :=
  keys.findSome? (serde.intField value)

def safeFilePart (value : String) : String :=
  let out := Text.mapChars (fun ch =>
    if ch.isAlphanum || ch = '-' || ch = '_' || ch = '.' then ch else '_') value
  if out = "" then "job" else out

def trustedRuntimeRouteForJob (kind : WorkerJobKind) (platform : String)
    (requestedRuntimeClass requestedOrigin : Option String)
    (coordinatorResume : Option CoordinatorResumeMetadataV1)
    : Except IoError (String × String) := do
  let (runtimeClass, origin) ←
    match kind with
    | .coordinatorResume =>
      match coordinatorResume with
      | none => .error {
          kind := .invalidData
          message := "coordinator resume job is missing validated metadata" }
      | some metadata => .ok (metadata.owner.lane.runtimeClass, "coordinator-resume")
    | .llmSubagent =>
      if platform = "native-cron" then .ok ("cron", "cron-scheduler") else .ok ("worker", "worker")
    | .masterWakeup => .ok ("worker", "worker")
    | _ => .error {
        kind := .invalidData
        message := "worker kind cannot enqueue an LLM runtime turn" }
  .require (requestedRuntimeClass.all (· = runtimeClass)) {
    kind := .invalidData
    message := s!"payload runtimeClass conflicts with trusted worker route `{runtimeClass}`" }
  .require (requestedOrigin.all (· = origin)) {
    kind := .invalidData
    message := s!"payload origin conflicts with trusted worker route `{origin}`" }
  return (runtimeClass, origin)

def coordinatorResumeOfJob (job : LlmJob V)
    : Except IoError (Option CoordinatorResumeMetadataV1) :=
  if job.kind = .coordinatorResume then do
    let value ← .ofOption (serde.field job.payload "coordinatorResume") {
      kind := .invalidData
      message := "coordinator resume job is missing typed metadata" }
    let metadata ← (serde.metadata value).mapError fun error => ⟨.other, error⟩
    metadata.validate.mapError fun error => ⟨.other, error.message⟩
    return some metadata
  else
    return none

def validateQueuedLane (job : LlmJob V) (metadata : CoordinatorResumeMetadataV1)
    : Except IoError Unit := do
  let queued : CoordinatorResumeQueuedLaneV1 := {
    platform := ← requiredPayloadString serde job.payload "platform"
    accountId := ← requiredPayloadString serde job.payload "accountId"
    channelId := ← requiredPayloadString serde job.payload "channelId"
    userId := ← requiredPayloadString serde job.payload "userId"
    agentId := ← requiredPayloadString serde job.payload "agentId"
    runtimeClass := ← requiredPayloadString serde job.payload "runtimeClass"
    sessionKey := ← requiredPayloadString serde job.payload "sessionKey" }
  (metadata.validateQueuedLane queued).mapError fun error =>
    ⟨.invalidData, "invalid coordinator resume queued lane: " ++ error.message⟩

def workerQueueId (job : LlmJob V) (messageText : String) : String :=
  ":".intercalate ["worker", toString job.createdAtMs, safeFilePart job.jobId,
    Text.hex16 (Text.fnv1a (Text.utf8Bytes messageText))]

-- `queue_llm_worker_turn` up to the append: the item that every attempt rebuilds from its job
def itemOfJob (world : TurnWorld) (job : LlmJob V) : Except IoError RuntimeQueueItem := do
  let text := serde.stringField job.payload
  let agentId ← requiredPayloadString serde job.payload "agentId"
  let sessionKey := ((text "sessionKey").or job.masterSessionKey).getD "worker-session"
  let messageText ← requiredPayloadString serde job.payload "messageText"
  let sourceHome ← requiredPayloadString serde job.payload "sourceHome"
  let sourceWorkspace ← requiredPayloadString serde job.payload "sourceWorkspace"
  let platform := (text "platform").getD "worker"
  let policy := job.childPolicy.filter (·.isManagedRoute)
  let coordinatorResume ← coordinatorResumeOfJob serde job
  let (runtimeClass, origin) ← trustedRuntimeRouteForJob job.kind platform
    (stringPathAny serde job.payload ["runtimeClass", "runtime_class"]) (text "origin")
    coordinatorResume
  match coordinatorResume with
  | none => pure ()
  | some metadata => validateQueuedLane serde job metadata
  let sessionsDir ← world.confinedAgentSessionsDir agentId runtimeClass
  let sessionFile := sessionsDir ++ "/" ++ normalizeKeyPart sessionKey
  return {
    schema :=
      if job.authorizedExecutionMode.isSome || coordinatorResume.isSome then
        "agent-harness.runtime-queue-item.v2"
      else
        "agent-harness.runtime-queue-item.v1"
    queueId :=
      match coordinatorResume with
      | some metadata => metadata.continuationQueueId
      | none => workerQueueId job messageText
    admissionQueueId :=
      (job.authorizedExecutionMode.bind (·.resultOwner)).map (·.sourceQueueId)
    status := .queued
    runtimeClass := runtimeClass
    origin := origin
    cronRunId := stringPathAny serde job.payload ["cronRunId", "cron_run_id"]
    scheduledForMs := intPathAny serde job.payload ["scheduledForMs", "scheduled_for_ms"]
    source := {
      kind := if coordinatorResume.isSome then "coordinator-resume" else "channel"
      sourceHome := sourceHome
      sourceWorkspace := sourceWorkspace
      runtimeWorkspace := text "runtimeWorkspace" }
    -- the clock of the job, not of the attempt
    createdAtMs := job.createdAtMs
    agentId := agentId
    sessionKey := sessionKey
    platform := platform
    accountId := text "accountId"
    channelId := (text "channelId").getD "worker"
    userId := (text "userId").getD "worker-dispatch"
    messageText := messageText
    inboundContext := text "inboundContext"
    inboundCanonicalId := none
    inboundMediaArtifacts := []
    provider := (policy.bind (·.provider)).or (text "provider")
    model := (policy.bind (·.model)).or (text "model")
    reasoningPreference := policy.bind (·.reasoningPreference)
    backendReasoningPolicy := policy.bind (·.backendReasoningPolicy)
    authorizedExecutionMode := job.authorizedExecutionMode
    promptFilesPresent := 0
    promptFilesTotal := 0
    selectedSkillIds := []
    plannedTranscriptFile := sessionFile ++ ".jsonl"
    plannedTrajectoryFile := sessionFile ++ ".trajectory.jsonl"
    coordinatorResume := coordinatorResume }

-- the first line with the id; a malformed line before it is an error
def findById (path queueId : String) (index : Nat) : List String → Except IoError (Option V)
  | [] => .ok none
  | line :: rest =>
    let trimmed := Text.trim line
    if trimmed = "" then
      findById path queueId (index + 1) rest
    else
      match serde.parse trimmed with
      | .error error => .error {
          kind := .invalidData
          message := s!"runtime queue JSONL is malformed at {path} line {index + 1}: {error}" }
      | .ok value =>
        if stringPathAny serde value ["queueId", "queue_id"] = some queueId then
          .ok (some value)
        else
          findById path queueId (index + 1) rest

def runtimeQueueItemById (path : String) (file : List UInt8) (queueId : String)
    : Except IoError (Option V) := do
  let text ← .ofOption (TextFile.decode file)
    { kind := .invalidData, message := "stream did not contain valid UTF-8" }
  findById serde path queueId 0 (TextFile.lines text)

def appendRuntimeQueueValueIfMissing [DecidableEq V] (path : String) (file : List UInt8)
    (queueId : String) (value : V)
    : Outcome (List UInt8) Unit :=
  match runtimeQueueItemById serde path file queueId with
  | .error e => (file, .error e)
  | .ok (some existing) =>
    if existing = value then
      (file, .ok ())
    else
      (file, .error {
        kind := .invalidData
        message := s!"runtime queue idempotency conflict for queueId {queueId}" })
  | .ok none => (file ++ Logging.recordBytes serde.toSerde file value, .ok ())

def afterAppend (world : TurnWorld) (job : LlmJob V) (item : RuntimeQueueItem) (nowMs : Int)
    : Except IoError WorkerJobExecutionResult := do
  match item.cronRunId with
  | none => pure ()
  | some cronRunId =>
    let attempt := (intPathAny serde job.payload ["cronRunAttempt", "cron_run_attempt"]).getD 0
    let marked ← world.markCronRunRuntimeEnqueued cronRunId attempt job.jobId item.queueId nowMs
    let (queueId, jobId) := (item.queueId, job.jobId)
    .require marked {
      kind := .other
      message :=
        s!"CronRun `{cronRunId}` rejected runtime queue `{queueId}` from stale worker `{jobId}`" }
  world.recordLlmSubagentLifecycleRunning job.kind job.jobId item.queueId nowMs
  return {
    status := .runtimeQueued
    reason := "LLM worker job durably queued; awaiting correlated runtime terminal"
    runtimeQueueFile := world.queueFile
    runtimeQueueId := item.queueId
    runtimeClass := item.runtimeClass
    origin := item.origin
    cronRunId := item.cronRunId
    transcriptFile := item.plannedTranscriptFile
    trajectoryFile := item.plannedTrajectoryFile }

def queueLlmWorkerTurn [DecidableEq V] (world : TurnWorld) (file : List UInt8) (job : LlmJob V)
    (nowMs : Int)
    : Outcome (List UInt8) WorkerJobExecutionResult :=
  match itemOfJob serde world job with
  | .error e => (file, .error e)
  | .ok item =>
    (appendRuntimeQueueValueIfMissing serde world.queueFile file item.queueId
      (serde.itemValue item)).andThen
      fun later _ => (later, afterAppend serde world job item nowMs)

end

end WorkerStore
