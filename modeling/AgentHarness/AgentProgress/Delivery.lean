import AgentHarness.AgentProgress.DeliveryPlan
import AgentHarness.AgentProgress.History

/-!
The progress delivery over the files it works on: the ledger with its index, the state of the planner and the
claims on the surfaces.
-/

namespace AgentProgress

open ProgressEventIndex

structure DeliveryHome where
  files : HistoryFiles := {}
  delivery : AgentProgressDeliveryState := {}
  claims : SurfaceClaims := ∅

structure PlanCall where
  options : AgentProgressDeliveryPlanOptions
  world : DeliveryWorld := {}

section Index

variable (json : HistoryJson)

/-
The index for a lookup, and whether it was refreshed for it. Where the ledger is locked or the refresh is not
possible now, it is the one that was committed last.
-/
def currentOrLastCommittedIndex (files : HistoryFiles) (busy : Bool)
    : Except IoError (ProgressEventIndex × Bool) :=
  if busy then
    .ok (files.index, false)
  else
    match files.index.refreshProgressEventIndexLocked json.toProgressJson progressEventIndexLimits
        files.events with
    | .ok index => .ok (index, true)
    | .error error => if error.kind = .wouldBlock then .ok (files.index, false) else .error error

end Index

def AgentProgressDeliveryState.trimmed (self : AgentProgressDeliveryState)
    (options : AgentProgressDeliveryPlanOptions)
    : AgentProgressDeliveryState :=
  (self.pruneOldTerminalDeliveryState options.nowMs).boundLegacyCompactedProgressState
    options.maxEventsPerPanel

section Plan

variable (state : AgentProgressDeliveryState) (snapshot : DeliverySnapshot)

def allByQueue : FMap String (List StoredProgressEvent) :=
  let cached := if snapshot.reset then ∅ else state.compactedEvents
  FMap.ofKeys (cached.keys ++ snapshot.events.keys) fun queueId =>
    ((snapshot.events.lookup queueId).or (cached.lookup queueId)).map fun events =>
      events.insertionSort fun left right => left.lineNumber ≤ right.lineNumber

variable (call : PlanCall)

def queueDecisions : List (String × QueueDecision) :=
  let events := allByQueue state snapshot
  (events.sortedKeys Text.le).map fun queueId =>
    (queueId, decideQueue state call.options call.world queueId ((events.lookup queueId).getD []))

def plannedQueues : List PlannedQueue :=
  (queueDecisions state snapshot call).filterMap fun decision =>
    match decision.2 with
    | .show queue => some queue
    | _ => none

def forgottenQueueIds : List String :=
  ((queueDecisions state snapshot call).filter (·.2 = .forget)).map (·.1)

def controlledQueueIds : List String :=
  forgottenQueueIds state snapshot call
    ++ ((plannedQueues state snapshot call).filter (·.closedByControl)).map (·.queueId)

def ledgerCursor (index : ProgressEventIndex) : AgentProgressDeliveryLedgerCursor where
  offsetBytes := index.offsetBytes
  lineNumber := index.lineNumber
  indexProjectionGeneration := index.projectionGeneration
  indexValidLines := index.validLines

def plannedState (index : ProgressEventIndex) : AgentProgressDeliveryState :=
  let queues := plannedQueues state snapshot call
  { state with
    queues := state.queues.eraseAll (forgottenQueueIds state snapshot call)
    ledger := ledgerCursor index
    compactedEvents := FMap.ofKeys (queues.map (·.queueId)) fun queueId =>
      (queues.find? (·.queueId = queueId)).map fun queue =>
        compactProgressEvents queue.events call.options.maxEventsPerPanel }

def claimsWithoutControlled (claims : SurfaceClaims) : SurfaceClaims :=
  (controlledQueueIds state snapshot call).foldl (·.removeProgressSurfaceClaimsForQueue ·) claims

end Plan

namespace DeliveryHome

variable (json : HistoryJson)

/-
The part of a plan behind the recovery of the history. A plan without a fresh index leaves the deliveries for
the next one.
-/
def planRecovered (self : DeliveryHome) (call : PlanCall)
    : Except IoError (List AgentProgressDeliveryPending) × DeliveryHome :=
  let state := self.delivery.trimmed call.options
  match currentOrLastCommittedIndex json self.files call.world.busy with
  | .error error => (.error error, self)
  | .ok (_, false) => (.ok [], { self with delivery := state })
  | .ok (index, true) =>
    let refreshed := { self with files := { self.files with index } }
    match index.readProgressEventDeliverySnapshot json.toProgressJson state.knownQueueIds state.ledger with
    | .error error => (.error error, refreshed)
    | .ok snapshot =>
      let planned := plannedState state snapshot call index
      let claims := claimsWithoutControlled state snapshot call self.claims
      let (pending, claims) := planQueues planned.queues call.options call.world claims
        (plannedQueues state snapshot call)
      (.ok pending, { refreshed with delivery := planned, claims })

def recoveryFailed : IoError where
  kind := .other
  message := "progress history compaction recovery failed"

def planAgentProgressDelivery (self : DeliveryHome) (call : PlanCall)
    : Except IoError (List AgentProgressDeliveryPending) × DeliveryHome :=
  if call.world.busy then
    self.planRecovered json call
  else
    let script := recoverProgressHistoryCompactionIfNeeded
    let recovered := { self with files := script.finish HistoryOp.apply self.files }
    if script.succeeds HistoryOp.apply self.files then
      recovered.planRecovered json call
    else
      (.error recoveryFailed, recovered)

end DeliveryHome

structure RecordCall where
  queueId : String
  platform : String
  accountId : Option String
  channelId : String
  threadId : Option String
  userId : String
  sessionKey : String
  messageKind : AgentProgressDeliveryMessageKind
  status : AgentProgressDeliveryStatus
  providerMessageId : Option String
  eventLine : Nat
  textHash : String
  terminal : Bool
  nowMs : Int
  statusSurfaceKey : String
  eventId : Option String
  progressSuppressedReason : Option String
  busy : Bool := false

namespace RecordCall

variable (call : RecordCall)

def matchesClaim (claim : AgentProgressSurfaceClaim) : Bool :=
  claim.queueId = call.queueId
    && claim.platform = call.platform
    && claim.accountId = call.accountId
    && claim.channelId = call.channelId
    && claim.threadId = call.threadId
    && claim.userId = call.userId
    && claim.sessionKey = call.sessionKey
    && claim.messageKind = call.messageKind

def matchesEvent (stored : StoredProgressEvent) : Bool :=
  stored.lineNumber = call.eventLine
    && stored.event.platform = call.platform
    && stored.event.accountId = call.accountId
    && stored.event.channelId = call.channelId
    && stored.event.threadId = call.threadId
    && stored.event.userId = call.userId
    && stored.event.sessionKey = call.sessionKey

def progressEventIdForRecord (claims : SurfaceClaims) (latest : Option StoredProgressEvent)
    : Option String :=
  let claim := (claims.lookup (progressSurfaceClaimFile call.statusSurfaceKey)).filter fun claim =>
    call.matchesClaim claim && claim.eventLine = call.eventLine && claim.textHash = call.textHash
  match claim with
  | some claim => validProgressEventId claim.eventId
  | none => (latest.filter call.matchesEvent).bind fun stored => validProgressEventId stored.event.eventId

-- `terminal` is the one of the call, or the one of a cursor that has ended already
def receipt (claims : SurfaceClaims) (latest : Option StoredProgressEvent) (terminal : Bool)
    : AgentProgressDeliveryReceipt where
  atMs := call.nowMs
  queueId := call.queueId
  platform := call.platform
  accountId := call.accountId
  channelId := call.channelId
  threadId := call.threadId
  userId := call.userId
  sessionKey := call.sessionKey
  messageKind := call.messageKind
  status := call.status
  providerMessageId := call.providerMessageId
  eventLine := call.eventLine
  eventId := (validProgressEventId call.eventId).or (call.progressEventIdForRecord claims latest)
  textHash := call.textHash
  terminal
  statusSurfaceKey := call.statusSurfaceKey
  progressSuppressedReason := call.progressSuppressedReason

def settles : Bool :=
  call.status = .delivered || call.status = .skippedDenied || call.status = .skippedPermanent

def cursorBefore (queues : FMap String AgentProgressDeliveryCursor) : AgentProgressDeliveryCursor :=
  let cursor := (queues.lookup call.queueId).getD {
    platform := call.platform
    channelId := call.channelId
    userId := call.userId
    sessionKey := call.sessionKey }
  { cursor with
    platform := call.platform
    accountId := call.accountId
    channelId := call.channelId
    threadId := call.threadId
    userId := call.userId
    sessionKey := call.sessionKey }

end RecordCall

def progressCursorAllTerminalSurfacesRecorded (cursor : AgentProgressDeliveryCursor) : Bool :=
  cursor.terminal
    && ((cursor.providerMessageIdFor .body).isNone || cursor.terminalRecordedFor .body)
    && ((cursor.providerMessageIdFor .status).isNone || cursor.terminalRecordedFor .status)

def AgentProgressDeliveryState.settle (self : AgentProgressDeliveryState)
    (before : AgentProgressDeliveryCursor) (receipt : AgentProgressDeliveryReceipt)
    : AgentProgressDeliveryState :=
  let cursor := before.recordLaneWithIdentity receipt.messageKind {
    providerMessageId := receipt.providerMessageId
    eventLine := receipt.eventLine
    eventId := receipt.eventId
    textHash := receipt.textHash
    sentAtMs := receipt.atMs
    terminal := receipt.terminal
    delivered := receipt.status = .delivered }
  { self with
    queues := self.queues.insert receipt.queueId cursor
    compactedEvents :=
      if receipt.progressSuppressedReason = some "terminal-control-present"
          && progressCursorAllTerminalSurfacesRecorded cursor then
        self.compactedEvents.erase receipt.queueId
      else
        self.compactedEvents }

def latestProgressEventForQueue (json : ProgressJson) (index : ProgressEventIndex) (queueId : String)
    : Except IoError (Option StoredProgressEvent) :=
  if Text.trim queueId = "" then
    .ok none
  else
    (partition index.rows queueId).getLast?.mapM (indexedEvent json)

namespace DeliveryHome

variable (json : HistoryJson)

def recordIndex (self : DeliveryHome) (call : RecordCall)
    : Except IoError (ProgressEventIndex × Bool) :=
  if Text.trim call.queueId = "" then
    .ok (self.files.index, false)
  else
    currentOrLastCommittedIndex json self.files call.busy

/-
The lookups of a record see one index. An event that cannot be read is an error where the index is fresh.
-/
def recordAgentProgressDelivery (self : DeliveryHome) (call : RecordCall)
    : Except IoError AgentProgressDeliveryReceipt × DeliveryHome :=
  match self.recordIndex json call with
  | .error error => (.error error, self)
  | .ok (index, fresh) =>
    let refreshed := { self with files := { self.files with index } }
    match latestProgressEventForQueue json.toProgressJson index call.queueId, fresh with
    | .error error, true => (.error error, refreshed)
    | latest, _ =>
      let latest := latest.toOption.join
      if call.settles then
        let before := call.cursorBefore self.delivery.queues
        let receipt := call.receipt self.claims latest (before.terminal || call.terminal)
        (.ok receipt, {
          refreshed with
          delivery := self.delivery.settle before receipt
          claims := self.claims.updateProgressSurfaceClaimFromReceipt receipt })
      else
        let receipt := call.receipt self.claims latest call.terminal
        (.ok receipt, {
          refreshed with
          claims := self.claims.updateProgressSurfaceClaimFromReceipt receipt })

def releaseAgentProgressSurfaceClaim (self : DeliveryHome) (statusSurfaceKey queueId : String)
    : DeliveryHome :=
  { self with claims := self.claims.releaseAgentProgressSurfaceClaim statusSurfaceKey queueId }

end DeliveryHome

end AgentProgress
