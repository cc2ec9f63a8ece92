import AgentHarness.ChannelSessionKey
import AgentHarness.Lib.Map
import Mathlib.Data.List.Dedup

/-!
The items of the runtime queue, the limits of their classes and the lanes they run in.
-/

namespace RuntimeQueue

open ChannelSessionKey (CanonicalChannelSessionKey normalizeKeyPart)

def usizeMax : Nat := 2 ^ 64 - 1

structure RuntimeContinuationMetadata where
  virtualSessionId : Option String
  continuationIntentKey : Option String
  deriving DecidableEq

/-
What a dispatch reads of a pending row.
-/
structure PendingQueueItem where
  queueId : String
  createdAtMs : Int
  agentId : String
  sessionKey : String
  runtimeClass : String
  origin : String
  cronRunId : Option String
  platform : String
  accountId : Option String
  channelId : String
  userId : String
  continuation : RuntimeContinuationMetadata
  -- the virtual session of the owner that a coordinator resume carries
  coordinatorResume : Option String
  deriving DecidableEq

structure RuntimeDispatchClassConfig where
  maxActive : Nat
  perAgentMaxActive : Nat
  perChannelMaxActive : Nat
  perSessionMaxActive : Nat
  sessionFifo : Bool
  sameSessionMainAgentSerialization : Bool
  perJobMaxActive : Nat

structure RuntimeDispatchConfig where
  globalConcurrencyLimit : Nat
  interactiveReserve : Nat
  classes : FMap String RuntimeDispatchClassConfig

def defaultRuntimeClassConfig (runtimeClass : String) : RuntimeDispatchClassConfig :=
  if runtimeClass = "interactive" then {
    maxActive := usizeMax
    perAgentMaxActive := usizeMax
    perChannelMaxActive := usizeMax
    perSessionMaxActive := 1
    sessionFifo := true
    sameSessionMainAgentSerialization := true
    perJobMaxActive := usizeMax }
  else {
    maxActive := usizeMax
    perAgentMaxActive := usizeMax
    perChannelMaxActive := usizeMax
    perSessionMaxActive := usizeMax
    sessionFifo := false
    sameSessionMainAgentSerialization := false
    perJobMaxActive := usizeMax }

def runtimeOriginIsParentChannel (origin : String) : Bool :=
  origin = "channel" || origin = "coordinator-resume"

def isInteractiveChannelMainLane (runtimeClass origin : String) (cronRunId : Option String)
    (classConfig : RuntimeDispatchClassConfig)
    : Bool :=
  classConfig.sameSessionMainAgentSerialization
    && runtimeClass = "interactive"
    && runtimeOriginIsParentChannel origin
    && cronRunId.isNone
    && classConfig.perSessionMaxActive > 0

def boundSessionKey (agentId platform : String) (accountId : Option String)
    (channelId userId sessionKey : String)
    : Option String :=
  match accountId.filter (fun value => Text.trim value ≠ "") with
  | none => none
  | some accountId =>
    match CanonicalChannelSessionKey.bindForLane sessionKey platform accountId channelId userId
      agentId with
    | .error _ => none
    | .ok key => some key.canonicalString

def runtimeSessionLaneKey (runtimeClass agentId platform : String) (accountId : Option String)
    (channelId userId sessionKey : String)
    : String :=
  let canonicalSessionKey :=
    (boundSessionKey agentId platform accountId channelId userId sessionKey).getD sessionKey
  ":".intercalate
    [ "v2",
      normalizeKeyPart runtimeClass,
      normalizeKeyPart agentId,
      normalizeKeyPart platform,
      normalizeKeyPart (accountId.getD "legacy-default"),
      normalizeKeyPart channelId,
      normalizeKeyPart userId,
      normalizeKeyPart canonicalSessionKey ]

namespace PendingQueueItem

def laneKey (item : PendingQueueItem) : String :=
  runtimeSessionLaneKey item.runtimeClass item.agentId item.platform item.accountId item.channelId
    item.userId item.sessionKey

end PendingQueueItem

def itemSessionLaneKey (item : PendingQueueItem) (classConfig : RuntimeDispatchClassConfig)
    : Option String :=
  if isInteractiveChannelMainLane item.runtimeClass item.origin item.cronRunId classConfig then
    some item.laneKey
  else
    none

def isAutonomousContinuationItem (item : PendingQueueItem) : Bool :=
  item.continuation.continuationIntentKey.any (fun key => Text.trim key ≠ "")

def isOrdinaryHumanIngressItem (item : PendingQueueItem) : Bool :=
  item.runtimeClass = "interactive"
    && item.origin = "channel"
    && item.cronRunId.isNone
    && !isAutonomousContinuationItem item

def olderThan (candidate item : PendingQueueItem) : Bool :=
  candidate.createdAtMs < item.createdAtMs
    || (candidate.createdAtMs = item.createdAtMs && candidate.queueId < item.queueId)

def laneKeyOf (config : RuntimeDispatchConfig) (item : PendingQueueItem) : Option String :=
  (config.classes.lookup item.runtimeClass).bind (itemSessionLaneKey item)

section

variable (pendingItems : List PendingQueueItem) (item : PendingQueueItem)
variable (preparedIds terminalRunIds parkedRunIds : List String) (config : RuntimeDispatchConfig)

def isOtherLaneItem (laneKey : String) (candidate : PendingQueueItem) : Bool :=
  candidate.queueId ≠ item.queueId
    && candidate.queueId ∉ terminalRunIds
    && candidate.queueId ∉ parkedRunIds
    && laneKeyOf config candidate = some laneKey

def humanPriorityItem (laneKey : String) : Option PendingQueueItem :=
  pendingItems.find? fun candidate =>
    isOtherLaneItem item terminalRunIds parkedRunIds config laneKey candidate
      && isOrdinaryHumanIngressItem candidate

def olderLaneItem (laneKey : String) : Option PendingQueueItem :=
  pendingItems.find? fun candidate =>
    isOtherLaneItem item terminalRunIds parkedRunIds config laneKey candidate
      && (!isOrdinaryHumanIngressItem item
        || !isAutonomousContinuationItem candidate
        || candidate.queueId ∈ preparedIds)
      && olderThan candidate item

def sameSessionFifoBlocker : Option String :=
  match config.classes.lookup item.runtimeClass with
  | none => none
  | some classConfig =>
    if !classConfig.sessionFifo then
      none
    else
      match itemSessionLaneKey item classConfig with
      | none => none
      | some laneKey =>
        let human :=
          if isAutonomousContinuationItem item then
            humanPriorityItem pendingItems item terminalRunIds parkedRunIds config laneKey
          else
            none
        match human with
        | some human =>
          some s!"human-input priority for `{laneKey}` waiting on ordinary queue item `{human.queueId}`"
        | none =>
          let older :=
            olderLaneItem pendingItems item preparedIds terminalRunIds parkedRunIds config laneKey
          older.map fun candidate =>
            s!"session-fifo for `{laneKey}` waiting on older queue item `{candidate.queueId}`"

end

end RuntimeQueue

/-!
The leases of the runtime classes, the fences of children that a lease has started, and how a lease
ends: by a purge, a lane collision, a release or the reconciliation of a generation. One class lock
is held for each of these steps, and the files are replaced as a whole.
-/

namespace RuntimeQueue

open ChannelSessionKey (CanonicalChannelSessionKey SessionKeyError normalizeKeyPart
  rootWorkingSessionKey)

def defaultRuntimeLeaseMs : Int := 30 * 60 * 1000

structure RuntimeQueueLeaseOwnerEnvelope where
  kind : String
  serviceId : String
  generationId : String
  pid : Int
  processStartTimeMs : Int
  processStartTimeOsProven : Bool
  acquiredAtMs : Int
  deriving DecidableEq

inductive RuntimeQueueLeaseOwner where
  | legacy (owner : String)
  | envelope (owner : RuntimeQueueLeaseOwnerEnvelope)
  deriving DecidableEq

namespace RuntimeQueueLeaseOwner

def legacyPidOwner (owner : String) : Option Int :=
  (Text.dropLead "pid:" owner).bind fun rest => Text.parseI64 (Text.trim rest)

def processId (self : RuntimeQueueLeaseOwner) : Option Int :=
  match self with
  | .legacy owner => legacyPidOwner owner
  | .envelope owner => some owner.pid

def matchesGeneration (self : RuntimeQueueLeaseOwner) (serviceId generationId : String) : Bool :=
  match self with
  | .legacy _ => false
  | .envelope owner => owner.serviceId = serviceId && owner.generationId = generationId

end RuntimeQueueLeaseOwner

inductive ExactProcessGenerationState where
  | alive
  | deadOrReused
  | unknown
  deriving DecidableEq

/-
What the operating system answers during one call.
-/
structure Processes where
  -- `process_alive_for_pid`
  alive : Int → Option Bool
  -- `exact_process_generation_state`, by process id and start time
  generation : Int → Int → ExactProcessGenerationState
  -- `unix_process_group_alive`, `none` where the probe fails
  groupAlive : Nat → Option Bool
  windows : Bool

def deadRuntimeQueueLeaseOwner (processes : Processes) (owner : RuntimeQueueLeaseOwner)
    : Option Int :=
  owner.processId.filter fun pid => processes.alive pid = some false

structure RuntimeQueueLease where
  queueId : String
  agentId : String
  runtimeClass : String
  origin : String
  cronRunId : Option String
  platform : String
  accountId : Option String
  channelId : String
  userId : Option String
  sessionKey : String
  virtualSessionId : Option String
  sessionLaneKey : Option String
  owner : RuntimeQueueLeaseOwner
  startedAtMs : Int
  leaseExpiresAtMs : Int
  deriving DecidableEq

abbrev LeaseState := FMap String RuntimeQueueLease

-- `runtime-leases.json` of a class; classes that differ only in their normalized name share a file
inductive LeaseFile where
  | legacy
  | ofClass (directory : String)
  deriving DecidableEq

def runtimeQueueLeasesFile (runtimeClass : String) : LeaseFile :=
  if runtimeClass = "legacy" then .legacy else .ofClass (normalizeKeyPart runtimeClass)

abbrev LeaseFiles := FMap LeaseFile LeaseState

def LeaseFiles.read (files : LeaseFiles) (file : LeaseFile) : LeaseState :=
  (files.lookup file).getD ∅

def deriveVirtualSessionId (platform channelId userId agentId rootSessionKey : String) : String :=
  let input := ":".intercalate [platform, channelId, userId, agentId, rootSessionKey]
  ":".intercalate
    [ normalizeKeyPart platform,
      normalizeKeyPart channelId,
      normalizeKeyPart userId,
      normalizeKeyPart agentId,
      "vsession-" ++ Text.hex16 (Text.fnv1a (Text.utf8Bytes input)) ]

def PendingQueueItem.virtualSessionId (item : PendingQueueItem) : String :=
  (item.coordinatorResume.or item.continuation.virtualSessionId).getD
    (deriveVirtualSessionId item.platform item.channelId item.userId item.agentId
      (rootWorkingSessionKey item.sessionKey))

-- `runtime_queue_bytes_digest` in the form that names a lane
def laneDigest (laneKey : String) : String :=
  Text.hex16 (Text.fnv1a (Text.utf8Bytes laneKey))

def PendingQueueItem.canonicalLaneDigest (item : PendingQueueItem) : String :=
  laneDigest item.laneKey

namespace RuntimeQueueLease

def laneKey (lease : RuntimeQueueLease) : String :=
  runtimeSessionLaneKey lease.runtimeClass lease.agentId lease.platform lease.accountId
    lease.channelId (lease.userId.getD "") lease.sessionKey

-- `runtime_queue_lease_canonical_lane_digest`, which is never `None`
def canonicalLaneDigest (lease : RuntimeQueueLease) : String :=
  laneDigest ((lease.sessionLaneKey.filter (Text.startsWith "v2:")).getD lease.laneKey)

def runtimeQueueLeaseVirtualSessionId (lease : RuntimeQueueLease) : Option String :=
  lease.virtualSessionId.or <| lease.userId.map fun userId =>
    deriveVirtualSessionId lease.platform lease.channelId userId lease.agentId
      (rootWorkingSessionKey lease.sessionKey)

-- the lane under which a lease competes with the other leases of its file
def collisionLane (lease : RuntimeQueueLease) : Except SessionKeyError String :=
  match lease.accountId with
  | none => .ok lease.laneKey
  | some accountId =>
    match CanonicalChannelSessionKey.bindForLane lease.sessionKey lease.platform accountId
      lease.channelId (lease.userId.getD "") lease.agentId with
    | .error e => .error e
    | .ok canonical =>
      .ok (runtimeSessionLaneKey lease.runtimeClass lease.agentId lease.platform (some accountId)
        lease.channelId (lease.userId.getD "") canonical.canonicalString)

end RuntimeQueueLease

-- the lease that `lease_runtime_queue_item` inserts for an item
def leaseOf (item : PendingQueueItem) (owner : RuntimeQueueLeaseOwner) (nowMs : Int)
    : RuntimeQueueLease where
  queueId := item.queueId
  agentId := item.agentId
  runtimeClass := item.runtimeClass
  origin := item.origin
  cronRunId := item.cronRunId
  platform := item.platform
  accountId := item.accountId
  channelId := item.channelId
  userId := some item.userId
  sessionKey := item.sessionKey
  virtualSessionId := some item.virtualSessionId
  sessionLaneKey := itemSessionLaneKey item (defaultRuntimeClassConfig item.runtimeClass)
  owner
  startedAtMs := nowMs
  leaseExpiresAtMs := saturateI64 (nowMs + defaultRuntimeLeaseMs)

def leaseRuntimeQueueItem (state : LeaseState) (item : PendingQueueItem)
    (owner : RuntimeQueueLeaseOwner) (nowMs : Int)
    : LeaseState :=
  state.insert item.queueId (leaseOf item owner nowMs)

inductive FencePhase where
  | spawnInProgress
  | childBound
  | cleanupProven
  | other (phase : String)
  deriving DecidableEq

inductive ContainmentKind where
  | windowsJob
  | unixProcessGroup
  | other (kind : String)
  deriving DecidableEq

def runtimeQueueChildCleanupFenceSchema : String :=
  "agent-harness.runtime-queue-child-cleanup-fence.v1"

structure RuntimeQueueChildCleanupFence where
  schema : String
  phase : FencePhase
  queueId : String
  runtimeClass : String
  canonicalLaneDigest : String
  leaseOwnerDigest : String
  leaseAcquiredAtMs : Int
  childProcessId : Option Nat
  childProcessStartTimeMs : Option Int
  jobContainmentAssigned : Bool
  containmentKind : ContainmentKind
  reason : String
  fencedAtMs : Int
  cleanupProvenAtMs : Option Int
  deriving DecidableEq

-- the fence files by the lane digest in their name, `none` for one that cannot be read
abbrev FenceFiles := FMap String (Option RuntimeQueueChildCleanupFence)

def FenceFiles.isFenced (fences : FenceFiles) (digest : String) : Bool :=
  (fences.lookup digest).isSome

-- `runtime_queue_child_cleanup_is_fenced_for_lease`
def FenceFiles.isFencedForLease (fences : FenceFiles) (lease : RuntimeQueueLease) : Bool :=
  fences.isFenced lease.canonicalLaneDigest

def runtimeQueueLeaseOwnerDigest (owner : RuntimeQueueLeaseOwnerEnvelope) : String :=
  let fields :=
    [ Text.jsonString owner.kind,
      Text.jsonString owner.serviceId,
      Text.jsonString owner.generationId,
      toString owner.pid,
      toString owner.processStartTimeMs,
      if owner.processStartTimeOsProven then "true" else "false",
      toString owner.acquiredAtMs ]
  Text.hex (Sha256.digest (Text.utf8Bytes ("[" ++ ",".intercalate fields ++ "]")))

namespace RuntimeQueueChildCleanupFence

def matchesLease (fence : RuntimeQueueChildCleanupFence) (lease : RuntimeQueueLease)
    (owner : RuntimeQueueLeaseOwnerEnvelope)
    : Bool :=
  lease.runtimeClass = fence.runtimeClass
    && lease.canonicalLaneDigest = fence.canonicalLaneDigest
    && owner.acquiredAtMs = fence.leaseAcquiredAtMs
    && Text.eqIgnoreAsciiCase (runtimeQueueLeaseOwnerDigest owner) fence.leaseOwnerDigest

-- the child that a cleanup proof is about is named completely, or there was none
def childIdentityIsComplete (fence : RuntimeQueueChildCleanupFence) : Bool :=
  match fence.childProcessId, fence.childProcessStartTimeMs, fence.jobContainmentAssigned with
  | none, none, false => true
  | some processId, startTimeMs, true =>
    match fence.containmentKind with
    | .windowsJob => processId > 0 && startTimeMs.any (fun value => 0 ≤ value)
    | .unixProcessGroup => processId > 0 && startTimeMs.all (fun value => 0 ≤ value)
    | .other _ => false
  | _, _, _ => false

def isProvenInTime (fence : RuntimeQueueChildCleanupFence) : Bool :=
  fence.cleanupProvenAtMs.any (fun proofTime => fence.fencedAtMs ≤ proofTime)

def isStructurallyProven (fence : RuntimeQueueChildCleanupFence) : Bool :=
  0 ≤ fence.fencedAtMs && fence.isProvenInTime && fence.childIdentityIsComplete

-- what a dead owner proves about its child
def isRecoverable (fence : RuntimeQueueChildCleanupFence) (processes : Processes) : Bool :=
  match fence.phase with
  | .spawnInProgress =>
    -- a child of Windows is created suspended, so one that was never bound has never run
    fence.childProcessId.isNone
      && fence.childProcessStartTimeMs.isNone
      && !fence.jobContainmentAssigned
      && processes.windows
  | .childBound =>
    fence.jobContainmentAssigned
      && match fence.containmentKind with
        | .unixProcessGroup =>
          fence.childProcessId.any fun processId => processes.groupAlive processId = some false
        | .windowsJob =>
          match fence.childProcessId, fence.childProcessStartTimeMs with
          | some processId, some startTimeMs =>
            processes.generation processId startTimeMs = .deadOrReused
          | _, _ => false
        | .other _ => false
  | _ => false

end RuntimeQueueChildCleanupFence

-- whether a purge removes the fence file of a lane
def isReconciled (processes : Processes) (runtimeClass : String) (state : LeaseState)
    (digest : String) (file : Option RuntimeQueueChildCleanupFence)
    : Bool :=
  match file with
  | none => false
  | some fence =>
    if fence.runtimeClass ≠ runtimeClass then
      false
    else if fence.schema ≠ runtimeQueueChildCleanupFenceSchema
        || fence.canonicalLaneDigest ≠ digest then
      false
    else
      match state.lookup fence.queueId with
      | none => false
      | some lease =>
        match lease.owner with
        | .legacy _ => false
        | .envelope owner =>
          if !fence.matchesLease lease owner then
            false
          else if fence.phase ≠ .cleanupProven && !owner.processStartTimeOsProven then
            false
          else if fence.phase = .cleanupProven then
            fence.isStructurallyProven
          else
            processes.generation owner.pid owner.processStartTimeMs = .deadOrReused
              && fence.isRecoverable processes

def reconcileOrphanedFences (processes : Processes) (runtimeClass : String) (state : LeaseState)
    (fences : FenceFiles)
    : FenceFiles :=
  fences.eraseAll (fences.keysWhere (isReconciled processes runtimeClass state))

/-
The run ids that a purge takes the leases from, as the index of the receipts has them.
-/
structure EndedRuns where
  terminalRunIds : List String
  retryPendingRunIds : List String
  parkedRunIds : List String

def isPurged (processes : Processes) (nowMs : Int) (ended : EndedRuns) (fences : FenceFiles)
    (queueId : String) (lease : RuntimeQueueLease)
    : Bool :=
  !fences.isFencedForLease lease
    && (queueId ∈ ended.terminalRunIds
      || queueId ∈ ended.retryPendingRunIds
      || queueId ∈ ended.parkedRunIds
      || lease.leaseExpiresAtMs ≤ nowMs
      || (deadRuntimeQueueLeaseOwner processes lease.owner).isSome)

def isInvalidLease (fences : FenceFiles) (_queueId : String) (lease : RuntimeQueueLease) : Bool :=
  !fences.isFencedForLease lease && lease.collisionLane.toOption.isNone

def isInLane (fences : FenceFiles) (lane : String) (_queueId : String) (lease : RuntimeQueueLease)
    : Bool :=
  !fences.isFencedForLease lease && lease.collisionLane.toOption = some lane

def collisionLanes (state : LeaseState) : List String :=
  (state.values.filterMap fun lease => lease.collisionLane.toOption).dedup

def startedBefore (state : LeaseState) (left right : String) : Bool :=
  match state.lookup left, state.lookup right with
  | some l, some r =>
    l.startedAtMs < r.startedAtMs || (l.startedAtMs = r.startedAtMs && decide (Text.le left right))
  | _, _ => true

def collisionLosers (state : LeaseState) (fences : FenceFiles) : List String :=
  (collisionLanes state).flatMap fun lane =>
    ((state.keysWhere (isInLane fences lane)).mergeSort (startedBefore state)).tail

def reconcileCanonicalLeaseCollisions (state : LeaseState) (fences : FenceFiles) : LeaseState :=
  state.eraseAll (state.keysWhere (isInvalidLease fences) ++ collisionLosers state fences)

def firstRuntimeClass (state : LeaseState) : String :=
  let first := (state.keys.mergeSort (fun left right => decide (Text.le left right))).head?
  ((first.bind state.lookup).map (·.runtimeClass)).getD "interactive"

def purgeRuntimeQueueLeases (processes : Processes) (nowMs : Int) (ended : EndedRuns)
    (state : LeaseState) (fences : FenceFiles)
    : LeaseState × FenceFiles :=
  let fences := reconcileOrphanedFences processes (firstRuntimeClass state) state fences
  let kept := state.eraseAll (state.keysWhere (isPurged processes nowMs ended fences))
  (reconcileCanonicalLeaseCollisions kept fences, fences)

end RuntimeQueue
