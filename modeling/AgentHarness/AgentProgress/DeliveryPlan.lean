import AgentHarness.AgentProgress.EventIndex
import AgentHarness.AgentProgress.TerminalControl

/-!
A plan of the progress delivery: which queues a call takes from the index and from the cache, what it remembers
of them, and what it has to send or edit for each.
-/

namespace AgentProgress

inductive AgentProgressDeliveryAction where
  | send
  | edit
  deriving DecidableEq

structure AgentProgressDeliveryPlanOptions where
  platform : Option String := none
  nowMs : Int
  minUpdateIntervalMs : Int := 10000
  maxNonterminalUpdatesPerLane : Nat := 6
  maxEventsPerPanel : Nat := 16
  maxPreviewChars : Nat := 120
  currentStepMaxChars : Nat := 1200

/-
What a plan learns from elsewhere: the mutes of the configuration, the terminal controls of the runtime, and
whether the final answer of a queue is still on its way. `busy` says that another process holds the lock of
the ledger.
-/
structure DeliveryWorld where
  busy : Bool := false
  progressDeliveryEnabled : AgentProgressEvent → Bool := fun _ => true
  maxNonterminalUpdatesPerLane : Option Nat := none
  terminalControl : String → Option String → Option ProgressTerminalControlMatch := fun _ _ => none
  finalSourceDeliveryIsStillPending : String → AgentProgressEvent → Bool := fun _ _ => false

structure AgentProgressDeliveryPending where
  queueId : String
  agentId : Option String
  platform : String
  accountId : Option String
  channelId : String
  threadId : Option String
  userId : String
  sessionKey : String
  messageKind : AgentProgressDeliveryMessageKind
  action : AgentProgressDeliveryAction
  providerMessageId : Option String
  eventLine : Nat
  eventId : Option String
  terminal : Bool
  lifecycle : Option AgentProgressLifecycle
  text : String
  textHash : String
  startedAtMs : Int
  latestAtMs : Int
  statusSurfaceKey : String
  idempotencyHit : Bool
  progressSuppressedReason : Option String
  freshSendReason : Option AgentProgressDeliveryFreshSendReason
  deriving DecidableEq

namespace ProgressEventIndex

def indexedEvent (json : ProgressJson) (row : ProgressEventRow) : Except IoError StoredProgressEvent :=
  match json.event row.eventJson with
  | .ok event => .ok { lineNumber := row.lineNumber, event }
  | .error error =>
    .error {
      kind := .invalidData
      message := "progress event index contains invalid event JSON: " ++ error }

def lineNumber (self : ProgressEventIndex) : Nat :=
  (self.cursor.map (·.lineNumber)).getD 0

def offsetBytes (self : ProgressEventIndex) : Nat :=
  (self.cursor.map (·.offsetBytes)).getD 0

structure DeliverySnapshot where
  events : FMap String (List StoredProgressEvent)
  reset : Bool

def snapshotReset (self : ProgressEventIndex) (after : AgentProgressDeliveryLedgerCursor) : Bool :=
  (0 < after.indexProjectionGeneration
      && after.indexProjectionGeneration ≠ self.projectionGeneration)
    || self.lineNumber < after.lineNumber

def effectiveAfterLine (self : ProgressEventIndex) (after : AgentProgressDeliveryLedgerCursor) : Nat :=
  if self.snapshotReset after then 0 else after.lineNumber

def indexedEventsAfterLine (json : ProgressJson) (self : ProgressEventIndex) (afterLine : Nat)
    : Except IoError (List StoredProgressEvent) :=
  (self.rows.filter (afterLine < ·.lineNumber)).mapM (indexedEvent json)

def snapshotQueueIds (self : ProgressEventIndex) (knownQueueIds : List String)
    (after : AgentProgressDeliveryLedgerCursor) (deltaEvents : List StoredProgressEvent)
    : List String :=
  let retained :=
    if after.indexProjectionGeneration = 0 || self.snapshotReset after then
      queueIds self.rows
    else
      []
  (knownQueueIds ++ deltaEvents.map (·.event.queueId) ++ retained).filter fun queueId =>
    Text.trim queueId ≠ ""

def indexedEventsForQueue (json : ProgressJson) (self : ProgressEventIndex) (queueId : String)
    : Except IoError (List StoredProgressEvent) :=
  (partition self.rows queueId).mapM (indexedEvent json)

def indexedEventsForQueueIds (json : ProgressJson) (self : ProgressEventIndex) (queueIds : List String)
    : Except IoError (FMap String (List StoredProgressEvent)) := do
  let found ← queueIds.mapM fun queueId => do
    return (queueId, ← self.indexedEventsForQueue json queueId)
  return FMap.ofKeys queueIds fun queueId =>
    ((found.find? (·.1 = queueId)).map (·.2)).filter (· ≠ [])

def readProgressEventDeliverySnapshot (json : ProgressJson) (self : ProgressEventIndex)
    (knownQueueIds : List String) (after : AgentProgressDeliveryLedgerCursor)
    : Except IoError DeliverySnapshot := do
  let deltaEvents ← self.indexedEventsAfterLine json (self.effectiveAfterLine after)
  let queueIds := self.snapshotQueueIds knownQueueIds after deltaEvents
  return {
    events := ← self.indexedEventsForQueueIds json queueIds
    reset := self.snapshotReset after }

end ProgressEventIndex

def progressEventIsHistoricalForFreshSurface (event : AgentProgressEvent) (nowMs : Int) : Bool :=
  0 < nowMs
    && (event.atMs ≤ 0 || maxFreshProgressSurfaceAgeMs < saturateI64 (nowMs - event.atMs))

structure PlannedQueue where
  queueId : String
  events : List StoredProgressEvent
  closedByControl : Bool
  deriving DecidableEq

inductive QueueDecision where
  | leave
  | show (queue : PlannedQueue)
  -- the runtime has ended it, and nothing of it is on a surface
  | forget
  deriving DecidableEq

section Select

variable (state : AgentProgressDeliveryState) (options : AgentProgressDeliveryPlanOptions)
variable (world : DeliveryWorld)

def keptEvents (events : List StoredProgressEvent) : List StoredProgressEvent :=
  events.filter fun stored =>
    options.platform.all (· = stored.event.platform)
      && !state.progressEventSessionSuperseded stored.event
      && world.progressDeliveryEnabled stored.event

def decideQueue (queueId : String) (events : List StoredProgressEvent) : QueueDecision :=
  let kept := keptEvents state options world events
  match kept.getLast? with
  | none => .leave
  | some last =>
    let cursor := state.queues.lookup queueId
    let hasExistingProviderSurface := cursor.any (·.hasProviderSurface)
    let hasTerminalEvent := kept.any (isTerminalEvent ·.event)
    if !hasExistingProviderSurface
        && progressEventIsHistoricalForFreshSurface last.event options.nowMs then
      .leave
    else if cursor.any (·.terminal) && !hasTerminalEvent then
      .leave
    else if hasTerminalEvent then
      .show { queueId, events := kept, closedByControl := false }
    else
      match world.terminalControl queueId (some last.event.sessionKey) with
      | none => .show { queueId, events := kept, closedByControl := false }
      | some control =>
        if hasExistingProviderSurface then
          .show {
            queueId
            events := terminalControlSuppressedProgressEvents last control options.nowMs
            closedByControl := true }
        else
          .forget

end Select

inductive LaneDecision where
  | skip
  | edit (providerMessageId : String)
  | claim (request : SurfaceRequest)

namespace PlannedQueue

variable (queue : PlannedQueue) (cursor : Option AgentProgressDeliveryCursor)
variable (options : AgentProgressDeliveryPlanOptions) (maxNonterminalUpdatesPerLane : Nat)

def sorted : List StoredProgressEvent :=
  queue.events.insertionSort fun left right => left.lineNumber ≤ right.lineNumber

def terminal : Bool :=
  (latestTerminalEvent (queue.sorted.map (·.event))).isSome

def bodyCapReached : Bool :=
  cursor.any fun cursor =>
    !queue.terminal
      && 0 < maxNonterminalUpdatesPerLane
      && maxNonterminalUpdatesPerLane ≤ cursor.bodyNonterminalDeliveries
      && (cursor.providerMessageIdFor .body).isSome

def laneText (kind : AgentProgressDeliveryMessageKind) : String :=
  let events := queue.sorted.map (·.event)
  match kind with
  | .body => renderAgentProgressActions events options.maxEventsPerPanel options.maxPreviewChars
  | .status =>
    renderAgentProgressStatus events options.nowMs options.maxPreviewChars
      options.currentStepMaxChars (queue.bodyCapReached cursor maxNonterminalUpdatesPerLane)

def surfaceRequest (latest : StoredProgressEvent) (kind : AgentProgressDeliveryMessageKind)
    (textHash : String)
    : SurfaceRequest where
  statusSurfaceKey := statusSurfaceKeyForEvent latest.event queue.queueId kind
  queueId := queue.queueId
  event := latest.event
  messageKind := kind
  eventLine := latest.lineNumber
  textHash
  terminal := queue.terminal

def terminalAlreadySent (cursor : AgentProgressDeliveryCursor) (latest : StoredProgressEvent)
    (kind : AgentProgressDeliveryMessageKind)
    : Bool :=
  cursor.terminal && queue.terminal
    && (cursor.terminalRecordedFor kind
      || cursor.terminalClosedBeforeEvent latest.event.eventId latest.lineNumber)

def rateLimited (cursor : AgentProgressDeliveryCursor) (kind : AgentProgressDeliveryMessageKind)
    : Bool :=
  (cursor.providerMessageIdFor kind).isSome && !queue.terminal
    && saturateI64 (options.nowMs - cursor.lastSentAtMsFor kind) < options.minUpdateIntervalMs

def volumeLimited (cursor : AgentProgressDeliveryCursor) (kind : AgentProgressDeliveryMessageKind)
    : Bool :=
  (cursor.providerMessageIdFor kind).isSome && !queue.terminal && kind = .body
    && 0 < maxNonterminalUpdatesPerLane
    && maxNonterminalUpdatesPerLane ≤ cursor.bodyNonterminalDeliveries

def decideLane (latest : StoredProgressEvent) (kind : AgentProgressDeliveryMessageKind)
    : LaneDecision :=
  let text := queue.laneText cursor options maxNonterminalUpdatesPerLane kind
  let textHash := fnv1a64Hex text
  if Text.trim text = "" then
    .skip
  else if cursor.any (queue.terminalAlreadySent · latest kind) then
    .skip
  else if cursor.any fun cursor =>
      cursor.lastTextHashFor kind = textHash && cursor.terminal = queue.terminal then
    .skip
  else if cursor.any (queue.rateLimited options · kind) then
    .skip
  else if cursor.any (queue.volumeLimited maxNonterminalUpdatesPerLane · kind) then
    .skip
  else
    match cursor.bind (·.providerMessageIdFor kind) with
    | some providerMessageId => .edit providerMessageId
    | none =>
      if queue.closedByControl then
        .skip
      else
        .claim (queue.surfaceRequest latest kind textHash)

def pendingItem (first latest : StoredProgressEvent) (kind : AgentProgressDeliveryMessageKind)
    (action : AgentProgressDeliveryAction) (providerMessageId : Option String) (idempotencyHit : Bool)
    (freshSendReason : Option AgentProgressDeliveryFreshSendReason)
    : AgentProgressDeliveryPending :=
  let text := queue.laneText cursor options maxNonterminalUpdatesPerLane kind
  { queueId := queue.queueId
    agentId := latest.event.agentId
    platform := latest.event.platform
    accountId := latest.event.accountId
    channelId := latest.event.channelId
    threadId := latest.event.threadId
    userId := latest.event.userId
    sessionKey := latest.event.sessionKey
    messageKind := kind
    action
    providerMessageId
    eventLine := latest.lineNumber
    eventId := validProgressEventId latest.event.eventId
    terminal := queue.terminal
    lifecycle := effectiveProgressLifecycle latest.event
    text
    textHash := fnv1a64Hex text
    startedAtMs := first.event.atMs
    latestAtMs := latest.event.atMs
    statusSurfaceKey := statusSurfaceKeyForEvent latest.event queue.queueId kind
    idempotencyHit
    progressSuppressedReason :=
      if queue.closedByControl then some "terminal-control-present" else none
    freshSendReason }

def planLane (first latest : StoredProgressEvent) (kind : AgentProgressDeliveryMessageKind)
    (claims : SurfaceClaims)
    : Option AgentProgressDeliveryPending × SurfaceClaims :=
  let item := queue.pendingItem cursor options maxNonterminalUpdatesPerLane first latest kind
  match queue.decideLane cursor options maxNonterminalUpdatesPerLane latest kind with
  | .skip => (none, claims)
  | .edit providerMessageId => (some (item .edit (some providerMessageId) false none), claims)
  | .claim request =>
    match claims.acquireProgressSurfaceClaim request options.nowMs with
    | (.claimed freshSendReason, claims) =>
      (some (item .send none false (some freshSendReason)), claims)
    | (.existingProvider providerMessageId, claims) =>
      (some (item .edit (some providerMessageId) true none), claims)
    | (.activePending, claims) => (none, claims)

end PlannedQueue

-- the body of a queue comes before its status
def planQueue (queues : FMap String AgentProgressDeliveryCursor)
    (options : AgentProgressDeliveryPlanOptions) (world : DeliveryWorld) (claims : SurfaceClaims)
    (queue : PlannedQueue)
    : List AgentProgressDeliveryPending × SurfaceClaims :=
  let cursor := queues.lookup queue.queueId
  let maxUpdates := world.maxNonterminalUpdatesPerLane.getD options.maxNonterminalUpdatesPerLane
  match queue.sorted.head?, queue.sorted.getLast? with
  | some first, some latest =>
    if queue.terminal && world.finalSourceDeliveryIsStillPending queue.queueId latest.event then
      ([], claims)
    else
      let (body, claims) := queue.planLane cursor options maxUpdates first latest .body claims
      let (status, claims) := queue.planLane cursor options maxUpdates first latest .status claims
      (body.toList ++ status.toList, claims)
  | _, _ => ([], claims)

def planQueues (queues : FMap String AgentProgressDeliveryCursor)
    (options : AgentProgressDeliveryPlanOptions) (world : DeliveryWorld) (claims : SurfaceClaims)
    : List PlannedQueue → List AgentProgressDeliveryPending × SurfaceClaims
  | [] => ([], claims)
  | queue :: rest =>
    let (pending, claims) := planQueue queues options world claims queue
    let (others, claims) := planQueues queues options world claims rest
    (pending ++ others, claims)

end AgentProgress
