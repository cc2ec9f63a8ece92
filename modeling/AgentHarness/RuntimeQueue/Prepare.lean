import AgentHarness.RuntimeQueue.Compaction
import AgentHarness.RuntimeQueue.Lease

/-!
How a prepare picks the next item of the queue and leases it: the index of the run-once receipts, the
terminal controls, the limits of the classes and the three ways to a lease.
-/

namespace RuntimeQueue

open ChannelSessionKey (CanonicalChannelSessionKey SessionKeyError normalizeKeyPart
  rootWorkingSessionKey)

structure RuntimeRetrySchedule where
  lineageId : String
  attempt : Nat
  maxAttempts : Nat
  nextEligibleAtMs : Int
  deriving DecidableEq

/-
What the index reads of a run-once receipt.
-/
structure RunOnceReceipt where
  schema : RecordSchema
  queueId : Option String
  status : Option String
  reason : Option String
  retrySchedule : Option RuntimeRetrySchedule

structure RuntimeQueueStateIndexEntry where
  latestStatus : Option String
  retrySchedule : Option RuntimeRetrySchedule
  parked : Bool
  terminalRunOnceEver : Bool
  suppressionRecorded : Bool
  terminalEver : Bool
  terminalStatus : Option String
  terminalReason : Option String
  deriving DecidableEq

namespace RuntimeQueueStateIndexEntry

def empty : RuntimeQueueStateIndexEntry where
  latestStatus := none
  retrySchedule := none
  parked := false
  terminalRunOnceEver := false
  suppressionRecorded := false
  terminalEver := false
  terminalStatus := none
  terminalReason := none

def apply (entry : RuntimeQueueStateIndexEntry) (status : String) (receipt : RunOnceReceipt)
    : RuntimeQueueStateIndexEntry :=
  let closes := isTerminalRunOnceStatus status && status ≠ "suppressed"
  { latestStatus := some status
    retrySchedule := receipt.retrySchedule
    parked :=
      if status = "needs-user" then
        true
      else if status = "no-work" || status = "lease-busy" then
        entry.parked
      else
        false
    terminalRunOnceEver := entry.terminalRunOnceEver || isTerminalRunOnceStatus status
    suppressionRecorded := entry.suppressionRecorded || status = "suppressed"
    terminalEver := entry.terminalEver || closes
    terminalStatus := if closes then some status else entry.terminalStatus
    terminalReason := if closes then receipt.reason else entry.terminalReason }

end RuntimeQueueStateIndexEntry

abbrev RuntimeQueueStateIndex := FMap String RuntimeQueueStateIndexEntry

def RunOnceReceipt.indexed (receipt : RunOnceReceipt) : Option (String × String) :=
  if receipt.schema.isTrusted then
    receipt.queueId.bind fun queueId => receipt.status.map fun status => (queueId, status)
  else
    none

def applyRuntimeQueueReceiptToIndex (index : RuntimeQueueStateIndex) (receipt : RunOnceReceipt)
    : RuntimeQueueStateIndex :=
  match receipt.indexed with
  | none => index
  | some (queueId, status) =>
    index.insert queueId (((index.lookup queueId).getD .empty).apply status receipt)

def runtimeQueueStateIndex (receipts : List RunOnceReceipt) : RuntimeQueueStateIndex :=
  receipts.foldl applyRuntimeQueueReceiptToIndex ∅

def terminalRunOnceIds (index : RuntimeQueueStateIndex) : List String :=
  index.keysWhere fun _ entry => entry.terminalRunOnceEver

def retryPendingRunOnceIds (index : RuntimeQueueStateIndex) : List String :=
  index.keysWhere fun _ entry => entry.latestStatus = some "retry-pending"

def authDeferredRunOnceIds (index : RuntimeQueueStateIndex) : List String :=
  index.keysWhere fun _ entry => entry.latestStatus = some "auth-deferred"

def parkedRunOnceIds (index : RuntimeQueueStateIndex) : List String :=
  index.keysWhere fun _ entry => entry.parked && !entry.terminalEver

inductive TerminalControlSource where
  | queueSkip
  | scopedStop
  | runOnceTerminal
  | quarantine

def TerminalControlSource.asStr (self : TerminalControlSource) : String :=
  match self with
  | .queueSkip => "queue-skip"
  | .scopedStop => "scoped-stop"
  | .runOnceTerminal => "run-once-terminal"
  | .quarantine => "quarantine"

structure QueueTerminalControlMatch where
  source : TerminalControlSource
  reason : String

/-
The markers and control receipts that end an item, with the reason each of them gives. Quarantine
and stop markers are files whose names hold the normalized key; `history` is the cold history of
terminal runs.
-/
structure QueueControls where
  quarantined : FMap String String
  stoppedQueues : FMap String String
  stoppedSessions : FMap String String
  skipped : FMap String String
  history : FMap String String

structure PreparedReceipt where
  queueId : String
  runtimeClass : Option String

/-
The ledgers that a prepare reads: the queued rows, the latest prepared receipt of each queue, the
run-once receipts and the controls.
-/
structure QueueLedgers where
  pending : List PendingQueueItem
  prepared : FMap String PreparedReceipt
  receipts : List RunOnceReceipt
  controls : QueueControls

namespace QueueLedgers

def index (ledgers : QueueLedgers) : RuntimeQueueStateIndex :=
  runtimeQueueStateIndex ledgers.receipts

end QueueLedgers

def scopedStopMarkerReason (controls : QueueControls) (queueId : String)
    (sessionKey : Option String)
    : Option String :=
  (controls.stoppedQueues.lookup (normalizeKeyPart queueId)).or
    (sessionKey.bind fun sessionKey => controls.stoppedSessions.lookup (normalizeKeyPart sessionKey))

def resolveQueueTerminalControlFromIndex (controls : QueueControls) (queueId : String)
    (sessionKey : Option String) (indexed : Option RuntimeQueueStateIndexEntry)
    : Option QueueTerminalControlMatch :=
  match controls.quarantined.lookup (normalizeKeyPart queueId) with
  | some reason => some { source := .quarantine, reason }
  | none =>
    match scopedStopMarkerReason controls queueId sessionKey with
    | some reason => some { source := .scopedStop, reason }
    | none =>
      match controls.skipped.lookup queueId with
      | some reason => some { source := .queueSkip, reason }
      | none =>
        (indexed.filter (·.terminalEver)).map fun entry =>
          { source := .runOnceTerminal
            reason := entry.terminalReason.getD
              ("historical terminal run-once status `" ++ entry.terminalStatus.getD "terminal" ++ "`") }

def resolveQueueTerminalControl (ledgers : QueueLedgers) (queueId : String)
    (sessionKey : Option String)
    : Option QueueTerminalControlMatch :=
  (resolveQueueTerminalControlFromIndex ledgers.controls queueId sessionKey
    (ledgers.index.lookup queueId)).or
    ((ledgers.controls.history.lookup queueId).map fun reason => { source := .runOnceTerminal, reason })

def suppressedReceipt (queueId : String) (control : QueueTerminalControlMatch)
    : RunOnceReceipt where
  schema := .text runtimeRunOnceReceiptSchema
  queueId := some queueId
  status := some "suppressed"
  reason := some ("runtime queue item suppressed because terminal control is present: "
    ++ control.source.asStr ++ ": " ++ control.reason)
  retrySchedule := none

def recordTerminalControlSuppression (ledgers : QueueLedgers) (queueId : String)
    (control : QueueTerminalControlMatch)
    : QueueLedgers :=
  if (ledgers.index.lookup queueId).any (·.suppressionRecorded) then
    ledgers
  else
    { ledgers with receipts := ledgers.receipts ++ [suppressedReceipt queueId control] }

def skippedReceipt (queueId reason : String) : RunOnceReceipt where
  schema := .text runtimeRunOnceReceiptSchema
  queueId := some queueId
  status := some "skipped"
  reason := some reason
  retrySchedule := none

def tombstoneRuntimeQueueItemSkipped (ledgers : QueueLedgers) (item : PendingQueueItem)
    (reason : String)
    : QueueLedgers :=
  { ledgers with receipts := ledgers.receipts ++ [skippedReceipt item.queueId reason] }

def writeRuntimeQueueQuarantineMarker (ledgers : QueueLedgers) (queueId reason : String)
    : QueueLedgers :=
  let quarantined := ledgers.controls.quarantined.insert (normalizeKeyPart queueId) reason
  { ledgers with controls := { ledgers.controls with quarantined } }

def canonicalPendingLaneIdentity (item : PendingQueueItem)
    : Except SessionKeyError (String × String) :=
  let accountId := (item.accountId.filter (fun value => Text.trim value ≠ "")).getD "default"
  match CanonicalChannelSessionKey.bindForLane item.sessionKey item.platform accountId
    item.channelId item.userId item.agentId with
  | .error e => .error e
  | .ok canonical => .ok (accountId, canonical.canonicalString)

def canonicalPendingItem (item : PendingQueueItem) : Except SessionKeyError PendingQueueItem :=
  match canonicalPendingLaneIdentity item with
  | .error e => .error e
  | .ok (accountId, sessionKey) => .ok { item with accountId := some accountId, sessionKey }

def quarantineInvalidItem (ledgers : QueueLedgers) (item : PendingQueueItem) : QueueLedgers :=
  match canonicalPendingItem item with
  | .ok _ => ledgers
  | .error e =>
    writeRuntimeQueueQuarantineMarker ledgers item.queueId
      ("runtime queue item `" ++ item.queueId
        ++ "` session identity is invalid for its exact lane: " ++ e.message)

def canonicalizePendingItemsForDispatch (items : List PendingQueueItem) : List PendingQueueItem :=
  items.filterMap fun item => (canonicalPendingItem item).toOption

def retryScheduleDispatchBlocker (index : RuntimeQueueStateIndex) (queueId : String) (nowMs : Int)
    : Option String :=
  match index.lookup queueId with
  | none => none
  | some entry =>
    if entry.latestStatus ≠ some "retry-pending" then
      none
    else
      match entry.retrySchedule with
      | none => none
      | some schedule =>
        if nowMs < schedule.nextEligibleAtMs then
          some ("durable retry backoff until " ++ toString schedule.nextEligibleAtMs ++ " (lineage `"
            ++ schedule.lineageId ++ "`; attempt " ++ toString schedule.attempt ++ "/"
            ++ toString schedule.maxAttempts ++ ")")
        else
          none

-- the order of `runtime_selection_key` and then of the queue ids
def runtimeClassRank (runtimeClass : String) : Nat :=
  if runtimeClass = "interactive" then 0
  else if runtimeClass = "cron" then 1
  else if runtimeClass = "worker" then 2
  else 3

def selectionLe (left right : PendingQueueItem) : Bool :=
  let leftRank := runtimeClassRank left.runtimeClass
  let rightRank := runtimeClassRank right.runtimeClass
  leftRank < rightRank || (leftRank = rightRank
    && (left.agentId < right.agentId || (left.agentId = right.agentId
      && (left.createdAtMs < right.createdAtMs || (left.createdAtMs = right.createdAtMs
        && decide (Text.le left.queueId right.queueId))))))

def cronAgentRound (items : List PendingQueueItem) (item : PendingQueueItem) : Nat :=
  items.countP fun other => other.agentId = item.agentId && olderThan other item

def cronLe (items : List PendingQueueItem) (left right : PendingQueueItem) : Bool :=
  let leftRound := cronAgentRound items left
  let rightRound := cronAgentRound items right
  leftRound < rightRound || (leftRound = rightRound
    && (left.createdAtMs < right.createdAtMs || (left.createdAtMs = right.createdAtMs
      && (left.agentId < right.agentId || (left.agentId = right.agentId
        && decide (Text.le left.queueId right.queueId))))))

def selectLockRuntimeClass (requestedQueueId : Option String) (items : List PendingQueueItem)
    (prepared : FMap String PreparedReceipt) (terminalRunIds : List String)
    : String :=
  let requestedItem := requestedQueueId.bind fun requested =>
    items.find? fun item => item.queueId = requested
  let requestedPrepared := requestedQueueId.bind fun requested =>
    (prepared.lookup requested).bind (·.runtimeClass)
  let waiting := items.filter fun item => item.queueId ∉ terminalRunIds
  let preparedItems := waiting.filter fun item => item.queueId ∈ prepared.keys
  let queuedItems := waiting.filter fun item => item.queueId ∉ prepared.keys
  match requestedItem with
  | some item => item.runtimeClass
  | none =>
    match requestedPrepared with
    | some runtimeClass => runtimeClass
    | none =>
      match (preparedItems.mergeSort selectionLe).head? with
      | some item => item.runtimeClass
      | none =>
        match (queuedItems.mergeSort selectionLe).head? with
        | some item => item.runtimeClass
        | none => "interactive"

def runtimeClassesForRelease (files : LeaseFiles) : List String :=
  let directories := files.keys.filterMap fun file =>
    match file with
    | .legacy => none
    | .ofClass directory => some directory
  let standard := ["interactive", "cron", "worker", "maintenance"]
    ++ (if LeaseFile.legacy ∈ files.keys then ["legacy"] else [])
  standard ++ directories.filter fun directory => directory ∉ standard

/-
What the checks of one prepare see: the clock and the processes, the state of the locked class after
the purge, and what the index says about the runs. `capacityNowMs` is the clock when the capacity is
checked, `cronRunBlocker` the scheduler's answer for a cron run and a queue id.
-/
structure DispatchContext where
  config : RuntimeDispatchConfig
  processes : Processes
  nowMs : Int
  capacityNowMs : Int
  files : LeaseFiles
  state : LeaseState
  fences : FenceFiles
  index : RuntimeQueueStateIndex
  prepared : FMap String PreparedReceipt
  terminalRunIds : List String
  authDeferredRunIds : List String
  parkedRunIds : List String
  runtimeClass : String
  pendingItems : List PendingQueueItem
  cronRunBlocker : String → String → Option String

namespace DispatchContext

def preparedIds (ctx : DispatchContext) : List String :=
  ctx.prepared.keys

-- `pending_by_id`: of several rows with one id the last one counts
def itemById (ctx : DispatchContext) (queueId : String) : Option PendingQueueItem :=
  ctx.pendingItems.reverse.find? fun item => item.queueId = queueId

def isLeased (ctx : DispatchContext) (queueId : String) : Bool :=
  (ctx.state.lookup queueId).isSome

def cronBlocker (ctx : DispatchContext) (item : PendingQueueItem) : Option String :=
  item.cronRunId.bind fun runId => ctx.cronRunBlocker runId item.queueId

def isLive (ctx : DispatchContext) (lease : RuntimeQueueLease) : Bool :=
  (ctx.capacityNowMs < lease.leaseExpiresAtMs
    && (deadRuntimeQueueLeaseOwner ctx.processes lease.owner).isNone)
    || ctx.fences.isFencedForLease lease

-- `read_all_runtime_queue_leases_with_override`
def allLeases (ctx : DispatchContext) (overrideClass : String) : List RuntimeQueueLease :=
  let known := runtimeClassesForRelease ctx.files
  let classes := if overrideClass ∈ known then known else known ++ [overrideClass]
  let leases := classes.flatMap fun runtimeClass =>
    if runtimeClass = overrideClass then
      ctx.state.values
    else
      (ctx.files.read (runtimeQueueLeasesFile runtimeClass)).values
  leases.filter ctx.isLive

end DispatchContext

def exactLaneCoordinatorMutualExclusion (item : PendingQueueItem) (lease : RuntimeQueueLease)
    : Bool :=
  (item.origin = "coordinator-resume" || lease.origin = "coordinator-resume")
    && item.runtimeClass = lease.runtimeClass
    && item.agentId = lease.agentId
    && item.platform = lease.platform
    && item.accountId = lease.accountId
    && item.channelId = lease.channelId
    && lease.userId = some item.userId
    && rootWorkingSessionKey item.sessionKey = rootWorkingSessionKey lease.sessionKey
    && item.sessionKey = lease.sessionKey
    && lease.runtimeQueueLeaseVirtualSessionId = some item.virtualSessionId

def runtimeChannelKey (agentId platform channelId : String) : String :=
  ":".intercalate [normalizeKeyPart agentId, normalizeKeyPart platform, normalizeKeyPart channelId]

def leaseSessionLaneKey (lease : RuntimeQueueLease) (classConfig : RuntimeDispatchClassConfig)
    : Option String :=
  if isInteractiveChannelMainLane lease.runtimeClass lease.origin lease.cronRunId classConfig then
    some ((lease.sessionLaneKey.filter (Text.startsWith "v2:")).getD lease.laneKey)
  else
    none

def classConfigFor (config : RuntimeDispatchConfig) (runtimeClass : String)
    : RuntimeDispatchClassConfig :=
  (config.classes.lookup runtimeClass).getD {
    maxActive := config.globalConcurrencyLimit
    perAgentMaxActive := config.globalConcurrencyLimit
    perChannelMaxActive := config.globalConcurrencyLimit
    perSessionMaxActive := usizeMax
    sessionFifo := false
    sameSessionMainAgentSerialization := false
    perJobMaxActive := usizeMax }

def runtimeCapacityBlocker (ctx : DispatchContext) (item : PendingQueueItem) : Option String :=
  let config := ctx.config
  let classConfig := classConfigFor config item.runtimeClass
  let digest := item.canonicalLaneDigest
  let leases := ctx.allLeases item.runtimeClass
  let ofClass := leases.filter fun lease => lease.runtimeClass = item.runtimeClass
  let ofAgent := ofClass.countP fun lease => lease.agentId = item.agentId
  let jobIsFull := item.cronRunId.filter fun runId =>
    classConfig.perJobMaxActive ≤ leases.countP fun lease => lease.cronRunId = some runId
  let laneIsFull := (itemSessionLaneKey item classConfig).filter fun laneKey =>
    classConfig.perSessionMaxActive
      ≤ leases.countP fun lease => leaseSessionLaneKey lease classConfig = some laneKey
  let channelKey := runtimeChannelKey item.agentId item.platform item.channelId
  let ofChannel := leases.countP fun lease =>
    runtimeChannelKey lease.agentId lease.platform lease.channelId = channelKey
  if ctx.fences.isFenced digest then
    some ("exact-lane child-cleanup fence `" ++ digest ++ "`")
  else if leases.any (exactLaneCoordinatorMutualExclusion item) then
    some "exact-lane coordinator mutual exclusion with active runtime lease"
  else if config.globalConcurrencyLimit ≤ leases.length then
    some "global runtime limit"
  else if item.runtimeClass ≠ "interactive"
      && config.globalConcurrencyLimit - config.interactiveReserve ≤ leases.length then
    some "interactive reserve"
  else if classConfig.maxActive ≤ ofClass.length then
    some ("runtime class `" ++ item.runtimeClass ++ "` limit")
  else if classConfig.perAgentMaxActive ≤ ofAgent then
    some ("runtime class `" ++ item.runtimeClass ++ "` agent limit for `" ++ item.agentId ++ "`")
  else
    match jobIsFull with
    | some runId => some ("cron job active limit for `" ++ runId ++ "`")
    | none =>
      match laneIsFull with
      | some laneKey => some ("session-active limit for `" ++ laneKey ++ "`")
      | none =>
        if classConfig.perChannelMaxActive ≤ ofChannel then
          some ("agent-channel limit for `" ++ channelKey ++ "`")
        else
          none

def DispatchContext.fifoBlocker (ctx : DispatchContext) (items : List PendingQueueItem)
    (item : PendingQueueItem)
    : Option String :=
  sameSessionFifoBlocker items item ctx.preparedIds ctx.terminalRunIds ctx.parkedRunIds ctx.config

inductive RuntimeExecutionReceiptStatus where
  | alreadyPrepared
  | leaseAcquired
  | noPendingItem

structure PrepareReport where
  queueId : Option String
  status : RuntimeExecutionReceiptStatus
  runtimeClass : Option String
  reason : String

-- what `apply_context_rollover_before_turn` has decided; `applied` has the keys of the continuation
inductive ContextRollover where
  | unchanged
  | applied (workingSessionKey virtualSessionId : String)
  | blocked

/-
A call of `prepare_runtime_queue_item`. `seen` are the ledgers as the call has read them before it
got the class lock. The order in which a hash map hands out the prepared receipts, the cron
scheduler, the check of the reasoning snapshot and the context rollover are answers from outside.
-/
structure PrepareCall where
  requestedQueueId : Option String
  nowMs : Int
  capacityNowMs : Int
  owner : RuntimeQueueLeaseOwner
  processes : Processes
  seen : QueueLedgers
  preparedOrder : HashOrder String
  cronRunBlocker : String → String → Option String
  snapshotError : PendingQueueItem → Option String
  rollover : PendingQueueItem → ContextRollover

-- what becomes of the lease file: an error leaves it, else the purged leases go in, with a new one or not
inductive LeaseWrite where
  | unwritten
  | purged
  | leased (item : PendingQueueItem)

structure PrepareResult where
  ledgers : QueueLedgers
  write : LeaseWrite
  report : Option PrepareReport

structure QueueHome where
  config : RuntimeDispatchConfig
  ledgers : QueueLedgers
  files : LeaseFiles
  fences : FenceFiles

def pendingTerminalControlIds (ledgers : QueueLedgers) (items : List PendingQueueItem)
    : List String :=
  (items.filter fun item =>
    (resolveQueueTerminalControl ledgers item.queueId (some item.sessionKey)).isSome).map
    (·.queueId)

namespace PrepareCall

def quarantined (call : PrepareCall) (ledgers : QueueLedgers) : QueueLedgers :=
  call.seen.pending.foldl quarantineInvalidItem ledgers

def preliminaryItems (call : PrepareCall) : List PendingQueueItem :=
  canonicalizePendingItemsForDispatch call.seen.pending

def terminalRunIds (call : PrepareCall) : List String :=
  terminalRunOnceIds call.seen.index
    ++ pendingTerminalControlIds (call.quarantined call.seen) call.preliminaryItems

def endedRuns (call : PrepareCall) : EndedRuns where
  terminalRunIds := call.terminalRunIds
  retryPendingRunIds := retryPendingRunOnceIds call.seen.index
  parkedRunIds := parkedRunOnceIds call.seen.index

def lockRuntimeClass (call : PrepareCall) : String :=
  selectLockRuntimeClass call.requestedQueueId call.preliminaryItems call.seen.prepared
    call.terminalRunIds

def lockFile (call : PrepareCall) : LeaseFile :=
  runtimeQueueLeasesFile call.lockRuntimeClass

def purge (call : PrepareCall) (home : QueueHome) : LeaseState × FenceFiles :=
  purgeRuntimeQueueLeases call.processes call.nowMs call.endedRuns (home.files.read call.lockFile)
    home.fences

def pendingRows (call : PrepareCall) (home : QueueHome) : List PendingQueueItem :=
  home.ledgers.pending.filter fun item => item.queueId ∉ call.terminalRunIds

def context (call : PrepareCall) (home : QueueHome) : DispatchContext where
  config := home.config
  processes := call.processes
  nowMs := call.nowMs
  capacityNowMs := call.capacityNowMs
  files := home.files
  state := (call.purge home).1
  fences := (call.purge home).2
  index := call.seen.index
  prepared := call.seen.prepared
  terminalRunIds := call.terminalRunIds
  authDeferredRunIds := authDeferredRunOnceIds call.seen.index
  parkedRunIds := parkedRunOnceIds call.seen.index
  runtimeClass := call.lockRuntimeClass
  pendingItems := canonicalizePendingItemsForDispatch (call.pendingRows home)
  cronRunBlocker := call.cronRunBlocker

end PrepareCall

section

variable (call : PrepareCall) (ctx : DispatchContext)

def noPending (queueId : String) (runtimeClass : Option String) (reason : String)
    : PrepareReport where
  queueId := some queueId
  status := .noPendingItem
  runtimeClass
  reason

def terminalControlNoPendingReceipt (queueId : String) (runtimeClass : Option String)
    (control : QueueTerminalControlMatch)
    : PrepareReport :=
  noPending queueId runtimeClass
    ("runtime queue item matched terminal control " ++ control.source.asStr ++ ": "
      ++ control.reason)

def preliminaryItemById (queueId : String) : Option PendingQueueItem :=
  call.preliminaryItems.reverse.find? fun item => item.queueId = queueId

def preliminaryItemsById : List PendingQueueItem :=
  let queueIds := (call.preliminaryItems.map (·.queueId)).dedup
  (queueIds.filterMap (preliminaryItemById call)).mergeSort selectionLe

def requestedControl (ledgers : QueueLedgers) (queueId : String) : Option PrepareResult :=
  let sessionKey := (ctx.itemById queueId).map (·.sessionKey)
  (resolveQueueTerminalControl ledgers queueId sessionKey).bind fun control =>
    let suppressed := fun (runtimeClass : Option String) => {
      ledgers := recordTerminalControlSuppression ledgers queueId control
      write := LeaseWrite.purged
      report := some (terminalControlNoPendingReceipt queueId runtimeClass control) }
    match (ctx.itemById queueId).or (preliminaryItemById call queueId) with
    | some item => some (suppressed (some item.runtimeClass))
    | none => (ctx.prepared.lookup queueId).map fun prepared => suppressed prepared.runtimeClass

def requestedEnded (ledgers : QueueLedgers) (queueId : String) : Option PrepareResult :=
  let item := (ctx.itemById queueId).or (preliminaryItemById call queueId)
  let refused := fun (reason : String) => some {
    ledgers
    write := LeaseWrite.purged
    report := some (noPending queueId (item.map (·.runtimeClass)) reason) }
  if queueId ∈ ctx.terminalRunIds then
    refused "requested runtime queue item already has a terminal run receipt"
  else if queueId ∈ ctx.authDeferredRunIds then
    refused "requested runtime queue item is waiting for operator authentication"
  else if queueId ∈ ctx.parkedRunIds then
    refused "requested runtime queue item is parked waiting for user input"
  else
    none

def requestedResume (ledgers : QueueLedgers) (item : PendingQueueItem) : PrepareResult :=
  let refused := fun (ledgers : QueueLedgers) (reason : String) => {
    ledgers
    write := LeaseWrite.purged
    report := some (noPending item.queueId (some item.runtimeClass) reason) : PrepareResult }
  match retryScheduleDispatchBlocker ctx.index item.queueId ctx.nowMs with
  | some blocker => refused ledgers blocker
  | none =>
    match ctx.cronBlocker item with
    | some blocker =>
      refused (tombstoneRuntimeQueueItemSkipped ledgers item blocker)
        ("runtime queue item blocked by " ++ blocker)
    | none =>
      match runtimeCapacityBlocker ctx item with
      | some blocker => refused ledgers ("runtime queue capacity blocked by " ++ blocker)
      | none =>
        match ctx.fifoBlocker ctx.pendingItems item with
        | some blocker => refused ledgers ("runtime queue item blocked by " ++ blocker)
        | none => {
          ledgers
          write := .leased item
          report := some {
            queueId := some item.queueId
            status := .alreadyPrepared
            runtimeClass := some item.runtimeClass
            reason := "requested runtime queue item was already prepared" } }

def requestedPrepared (ledgers : QueueLedgers) (queueId : String) : Option PrepareResult :=
  (ctx.prepared.lookup queueId).map fun prepared =>
    if ctx.isLeased queueId then {
      ledgers
      write := .purged
      report := some (noPending queueId prepared.runtimeClass
        "requested runtime queue item is already leased") }
    else
      match ctx.itemById queueId with
      | some item => requestedResume ctx ledgers item
      | none => {
        ledgers
        write := .purged
        report := some {
          queueId := some queueId
          status := .alreadyPrepared
          runtimeClass := prepared.runtimeClass
          reason := "requested runtime queue item was already prepared" } }

def resumeCandidates : List String :=
  (call.preparedOrder.keys ctx.preparedIds).filter fun queueId =>
    queueId ∉ ctx.terminalRunIds
      && queueId ∉ ctx.authDeferredRunIds
      && queueId ∉ ctx.parkedRunIds
      && !ctx.isLeased queueId

def automaticResume (ledgers : QueueLedgers) : List String → QueueLedgers × Option PendingQueueItem
  | [] => (ledgers, none)
  | queueId :: rest =>
    match ctx.itemById queueId with
    | none => automaticResume ledgers rest
    | some item =>
      if item.runtimeClass ≠ ctx.runtimeClass then
        automaticResume ledgers rest
      else if (retryScheduleDispatchBlocker ctx.index queueId ctx.nowMs).isSome then
        automaticResume ledgers rest
      else
        match resolveQueueTerminalControl ledgers item.queueId (some item.sessionKey) with
        | some control =>
          automaticResume (recordTerminalControlSuppression ledgers item.queueId control) rest
        | none =>
          match ctx.cronBlocker item with
          | some blocker =>
            automaticResume (tombstoneRuntimeQueueItemSkipped ledgers item blocker) rest
          | none =>
            if (runtimeCapacityBlocker ctx item).isSome then
              automaticResume ledgers rest
            else if (ctx.fifoBlocker ctx.pendingItems item).isSome then
              automaticResume ledgers rest
            else
              (ledgers, some item)

def selectionOrder : List PendingQueueItem :=
  let items := ctx.pendingItems.filter fun item => item.runtimeClass = ctx.runtimeClass
  if ctx.runtimeClass = "cron" then
    items.mergeSort (cronLe items)
  else
    items.mergeSort selectionLe

def selectPendingItem (requestedQueueId : Option String) (items : List PendingQueueItem)
    (ledgers : QueueLedgers)
    : List PendingQueueItem → QueueLedgers × Option PendingQueueItem
  | [] => (ledgers, none)
  | item :: rest =>
    if requestedQueueId.any (fun requested => requested ≠ item.queueId) then
      selectPendingItem requestedQueueId items ledgers rest
    else
      match resolveQueueTerminalControl ledgers item.queueId (some item.sessionKey) with
      | some control =>
        selectPendingItem requestedQueueId items
          (recordTerminalControlSuppression ledgers item.queueId control) rest
      | none =>
        if item.queueId ∈ ctx.preparedIds
            || item.queueId ∈ ctx.terminalRunIds
            || item.queueId ∈ ctx.authDeferredRunIds
            || item.queueId ∈ ctx.parkedRunIds
            || (retryScheduleDispatchBlocker ctx.index item.queueId ctx.nowMs).isSome
            || ctx.isLeased item.queueId then
          selectPendingItem requestedQueueId items ledgers rest
        else
          match ctx.cronBlocker item with
          | some blocker =>
            selectPendingItem requestedQueueId items
              (tombstoneRuntimeQueueItemSkipped ledgers item blocker) rest
          | none =>
            if (runtimeCapacityBlocker ctx item).isSome then
              selectPendingItem requestedQueueId items ledgers rest
            else if (ctx.fifoBlocker items item).isSome then
              selectPendingItem requestedQueueId items ledgers rest
            else
              (ledgers, some item)

-- nothing was selected: the first item under a terminal control is reported in its place
def nothingSelected (ledgers : QueueLedgers) : PrepareResult :=
  let controlled :=
    if call.requestedQueueId.isSome then
      none
    else
      (preliminaryItemsById call).findSome? fun item =>
        (resolveQueueTerminalControl ledgers item.queueId (some item.sessionKey)).map fun control =>
          (item, control)
  match controlled with
  | some (item, control) => {
    ledgers := recordTerminalControlSuppression ledgers item.queueId control
    write := .purged
    report := some (terminalControlNoPendingReceipt item.queueId (some item.runtimeClass) control) }
  | none => {
    ledgers
    write := .purged
    report := some {
      queueId := call.requestedQueueId
      status := .noPendingItem
      runtimeClass := none
      reason := "no matching queued runtime item found" } }

def rewritePendingQueueItemSession (rows : List PendingQueueItem)
    (queueId workingSessionKey virtualSessionId : String)
    : List PendingQueueItem :=
  rows.map fun row =>
    if row.queueId = queueId then
      { row with
        sessionKey := workingSessionKey
        continuation := { row.continuation with virtualSessionId := some virtualSessionId } }
    else
      row

def maybeApplyContextRolloverBeforeTurn (pending : List PendingQueueItem) (item : PendingQueueItem)
    : Option (List PendingQueueItem × PendingQueueItem) :=
  if item.runtimeClass ≠ "interactive" || !runtimeOriginIsParentChannel item.origin then
    some (pending, item)
  else
    match call.rollover item with
    | .unchanged => some (pending, item)
    | .applied workingSessionKey virtualSessionId =>
      let rows := rewritePendingQueueItemSession pending item.queueId workingSessionKey
        virtualSessionId
      some (rows, (rows.find? fun row => row.queueId = item.queueId).getD item)
    | .blocked => none

def leaseSelected (ledgers : QueueLedgers) (item : PendingQueueItem) : PrepareResult :=
  match call.snapshotError item with
  | some error =>
    let reason := "runtime reasoning snapshot failed admission: " ++ error
    let control := { source := .quarantine, reason : QueueTerminalControlMatch }
    { ledgers := recordTerminalControlSuppression
        (writeRuntimeQueueQuarantineMarker ledgers item.queueId reason) item.queueId control
      write := .purged
      report := some (terminalControlNoPendingReceipt item.queueId (some item.runtimeClass) control) }
  | none =>
    match maybeApplyContextRolloverBeforeTurn call ledgers.pending item with
    | none => { ledgers, write := .unwritten, report := none }
    | some (pending, item) => {
      ledgers := { ledgers with pending }
      write := .leased item
      report := some {
        queueId := some item.queueId
        status := .leaseAcquired
        runtimeClass := some item.runtimeClass
        reason := "runtime queue lease acquired before prompt bundle preparation" } }

def prepareQueued (ledgers : QueueLedgers) : PrepareResult :=
  let items := selectionOrder ctx
  match selectPendingItem ctx call.requestedQueueId items ledgers items with
  | (ledgers, none) => nothingSelected call ledgers
  | (ledgers, some item) => leaseSelected call ledgers item

def prepareUnasked (ledgers : QueueLedgers) : PrepareResult :=
  match automaticResume ctx ledgers (resumeCandidates call ctx) with
  | (ledgers, none) => prepareQueued call ctx ledgers
  | (ledgers, some item) => {
    ledgers
    write := .leased item
    report := some {
      queueId := some item.queueId
      status := .alreadyPrepared
      runtimeClass := some item.runtimeClass
      reason :=
        "resuming previously prepared runtime queue item without terminal run receipt" } }

def prepareRequested (ledgers : QueueLedgers) (queueId : String) : PrepareResult :=
  match requestedControl call ctx ledgers queueId with
  | some result => result
  | none =>
    match requestedEnded call ctx ledgers queueId with
    | some result => result
    | none =>
      match requestedPrepared ctx ledgers queueId with
      | some result => result
      | none => prepareQueued call ctx ledgers

end

def prepareLocked (call : PrepareCall) (home : QueueHome) : PrepareResult :=
  let ctx := call.context home
  let ledgers := (call.pendingRows home).foldl quarantineInvalidItem (call.quarantined home.ledgers)
  match call.requestedQueueId with
  | none => prepareUnasked call ctx ledgers
  | some queueId => prepareRequested call ctx ledgers queueId

/-
What follows the lease, the preparation of the prompt, does not touch the leases, except that an
error in it releases the new lease as `releaseRuntimeQueueLeaseIfOwned` does.
-/
def prepareRuntimeQueueItem (home : QueueHome) (call : PrepareCall)
    : QueueHome × Option PrepareReport :=
  let (state, fences) := call.purge home
  let result := prepareLocked call home
  let files :=
    match result.write with
    | .unwritten => home.files
    | .purged => home.files.insert call.lockFile state
    | .leased item =>
      home.files.insert call.lockFile (leaseRuntimeQueueItem state item call.owner call.nowMs)
  ({ home with ledgers := result.ledgers, files, fences }, result.report)

end RuntimeQueue
