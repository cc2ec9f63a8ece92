import AgentHarness.AgentProgress.Basic
import AgentHarness.Lib.Map

/-!
What the planner of the progress delivery keeps between its calls: a cursor for each queue that was sent to,
how far it has read the index, and a bounded cache of events.
-/

namespace AgentProgress

inductive AgentProgressDeliveryMessageKind where
  | body
  | status
  deriving DecidableEq

structure StoredProgressEvent where
  lineNumber : Nat
  event : AgentProgressEvent
  deriving DecidableEq

structure AgentProgressDeliveryCursor where
  platform : String
  accountId : Option String := none
  channelId : String
  threadId : Option String := none
  userId : String
  sessionKey : String
  bodyProviderMessageId : Option String := none
  statusProviderMessageId : Option String := none
  bodyLastEventLine : Nat := 0
  bodyLastEventId : Option String := none
  statusLastEventLine : Nat := 0
  statusLastEventId : Option String := none
  bodyLastTextHash : String := ""
  statusLastTextHash : String := ""
  bodyLastSentAtMs : Int := 0
  statusLastSentAtMs : Int := 0
  bodyNonterminalDeliveries : Nat := 0
  statusNonterminalDeliveries : Nat := 0
  bodyTerminal : Bool := false
  statusTerminal : Bool := false
  terminalEventLine : Nat := 0
  terminalEventId : Option String := none
  providerMessageId : Option String := none
  lastEventLine : Nat := 0
  lastEventId : Option String := none
  lastTextHash : String := ""
  lastSentAtMs : Int := 0
  terminal : Bool := false

namespace AgentProgressDeliveryCursor

variable (cursor : AgentProgressDeliveryCursor) (kind : AgentProgressDeliveryMessageKind)

def providerMessageIdFor : Option String :=
  match kind with
  | .body => cursor.bodyProviderMessageId.or cursor.providerMessageId
  | .status => cursor.statusProviderMessageId

def lastTextHashFor : String :=
  match kind with
  | .body => if cursor.bodyLastTextHash = "" then cursor.lastTextHash else cursor.bodyLastTextHash
  | .status => cursor.statusLastTextHash

def lastSentAtMsFor : Int :=
  match kind with
  | .body => if cursor.bodyLastSentAtMs = 0 then cursor.lastSentAtMs else cursor.bodyLastSentAtMs
  | .status => cursor.statusLastSentAtMs

-- a cursor of the first version had one surface for both lanes
def terminalRecordedFor : Bool :=
  match kind with
  | .body =>
    cursor.bodyTerminal
      || (cursor.terminal
        && cursor.bodyProviderMessageId.isNone
        && cursor.bodyLastEventLine = 0
        && cursor.bodyLastEventId.isNone
        && cursor.bodyLastTextHash = ""
        && cursor.bodyLastSentAtMs = 0
        && (cursor.providerMessageId.isSome
          || 0 < cursor.lastEventLine
          || cursor.lastTextHash ≠ ""
          || 0 < cursor.lastSentAtMs))
  | .status => cursor.statusTerminal

def terminalClosedEventLine : Nat :=
  max (max (max cursor.terminalEventLine (if cursor.bodyTerminal then cursor.bodyLastEventLine else 0))
    (if cursor.statusTerminal then cursor.statusLastEventLine else 0))
    (if cursor.terminal then cursor.lastEventLine else 0)

def closedEventId : Option String :=
  let when (flag : Bool) (eventId : Option String) := if flag then eventId else none
  (((cursor.terminalEventId.or (when cursor.bodyTerminal cursor.bodyLastEventId)).or
    (when cursor.statusTerminal cursor.statusLastEventId)).or
      (when cursor.terminal cursor.lastEventId))

def terminalClosedBeforeEvent (eventId : Option String) (eventLine : Nat) : Bool :=
  match validProgressEventId eventId with
  | some eventId => (validProgressEventId cursor.closedEventId).any (· ≠ eventId)
  | none => 0 < cursor.terminalClosedEventLine && cursor.terminalClosedEventLine < eventLine

def hasProviderSurface : Bool :=
  (cursor.providerMessageIdFor .body).isSome || (cursor.providerMessageIdFor .status).isSome

structure LaneRecord where
  providerMessageId : Option String
  eventLine : Nat
  eventId : Option String
  textHash : String
  sentAtMs : Int
  terminal : Bool
  delivered : Bool

def recordLane (record : LaneRecord) : AgentProgressDeliveryCursor :=
  let counted := if record.delivered && !record.terminal then 1 else 0
  match kind with
  | .body => {
    cursor with
    bodyProviderMessageId := record.providerMessageId
    bodyLastEventLine := record.eventLine
    bodyLastEventId := record.eventId
    bodyLastTextHash := record.textHash
    bodyLastSentAtMs := record.sentAtMs
    bodyNonterminalDeliveries := cursor.bodyNonterminalDeliveries + counted
    bodyTerminal := cursor.bodyTerminal || record.terminal }
  | .status => {
    cursor with
    statusProviderMessageId := record.providerMessageId
    statusLastEventLine := record.eventLine
    statusLastEventId := record.eventId
    statusLastTextHash := record.textHash
    statusLastSentAtMs := record.sentAtMs
    statusNonterminalDeliveries := cursor.statusNonterminalDeliveries + counted
    statusTerminal := cursor.statusTerminal || record.terminal }

def recordLaneWithIdentity (record : LaneRecord) : AgentProgressDeliveryCursor :=
  let cursor := cursor.recordLane kind record
  { cursor with
    terminalEventLine :=
      if record.terminal then max cursor.terminalEventLine record.eventLine else cursor.terminalEventLine
    terminalEventId :=
      if record.terminal then record.eventId.or cursor.terminalEventId else cursor.terminalEventId
    lastEventLine := record.eventLine
    lastEventId := record.eventId.or cursor.lastEventId
    terminal := cursor.terminal || record.terminal }

end AgentProgressDeliveryCursor

structure AgentProgressDeliveryLedgerCursor where
  offsetBytes : Nat := 0
  lineNumber : Nat := 0
  indexProjectionGeneration : Nat := 0
  indexValidLines : Nat := 0

structure AgentProgressSupersededSession where
  platform : String
  accountId : Option String
  channelId : String
  userId : String
  agentId : Option String
  sessionKey : String

-- of the superseded sessions only the values are read
structure AgentProgressDeliveryState where
  queues : FMap String AgentProgressDeliveryCursor := ∅
  ledger : AgentProgressDeliveryLedgerCursor := {}
  compactedEvents : FMap String (List StoredProgressEvent) := ∅
  supersededSessions : List AgentProgressSupersededSession := []

def terminalProgressStateRetentionMs : Int := 10 * 60 * 1000

def maxFreshProgressSurfaceAgeMs : Int := terminalProgressStateRetentionMs

def maxLegacyCompactedQueueFallback : Nat := 1024

def maxLegacyCompactedEventsPerQueue : Nat := 34

def optionFilterMatches (filter value : Option String) : Bool :=
  filter.all fun filter => value = some filter

def progressEventMatchesSupersededSession (event : AgentProgressEvent)
    (superseded : AgentProgressSupersededSession)
    : Bool :=
  event.platform = superseded.platform
    && optionFilterMatches superseded.accountId event.accountId
    && event.channelId = superseded.channelId
    && event.userId = superseded.userId
    && optionFilterMatches superseded.agentId event.agentId
    && event.sessionKey = superseded.sessionKey

def byLine (events : List StoredProgressEvent) : List StoredProgressEvent :=
  (FMap.ofValues (·.lineNumber) events).values.insertionSort fun left right =>
    left.lineNumber ≤ right.lineNumber

def canCoalesceProgressEvent (left right : AgentProgressEvent) : Bool :=
  if isTerminalEvent left || isTerminalEvent right then
    false
  else
    (match left.kind with
      | .toolCall | .assistantStream | .assistantNarration | .searchFiles | .readFile
      | .executeCode => true
      | _ => false)
      && left.queueId = right.queueId
      && left.kind = right.kind
      && left.label = right.label
      && left.preview = right.preview
      && left.status = right.status
      && left.platform = right.platform
      && left.channelId = right.channelId
      && left.userId = right.userId
      && left.sessionKey = right.sessionKey

def coalesceStoredProgressEvents (events : List StoredProgressEvent) : List StoredProgressEvent :=
  events.foldl (fun coalesced stored =>
    match coalesced.getLast? with
    | some last =>
      if canCoalesceProgressEvent last.event stored.event then
        coalesced.dropLast ++ [stored]
      else
        coalesced ++ [stored]
    | none => [stored]) []

def selectProgressEvents (events coalesced : List StoredProgressEvent) (retainRecent : Nat)
    : List StoredProgressEvent :=
  byLine (events.head?.toList
    ++ coalesced.filter (isTerminalEvent ·.event)
    ++ coalesced.reverse.take retainRecent)

def compactProgressEvents (events : List StoredProgressEvent) (maxEventsPerPanel : Nat)
    : List StoredProgressEvent :=
  selectProgressEvents events (coalesceStoredProgressEvents events) (max maxEventsPerPanel 16)

def boundedLegacyProgressEvents (events : List StoredProgressEvent) (retainRecent : Nat)
    : List StoredProgressEvent :=
  if events.length ≤ retainRecent + 2 then
    events
  else
    selectProgressEvents events events retainRecent

namespace AgentProgressDeliveryState

def pruneOldTerminalDeliveryState (self : AgentProgressDeliveryState) (nowMs : Int)
    : AgentProgressDeliveryState :=
  if nowMs ≤ 0 then
    self
  else
    let cutoffMs := saturateI64 (nowMs - terminalProgressStateRetentionMs)
    let old := self.queues.keysWhere fun _ cursor =>
      let latestSentAtMs :=
        max (max cursor.bodyLastSentAtMs cursor.statusLastSentAtMs) cursor.lastSentAtMs
      cursor.terminal && 0 < latestSentAtMs && latestSentAtMs ≤ cutoffMs
    { self with
      queues := self.queues.eraseAll old
      compactedEvents := self.compactedEvents.eraseAll old }

def boundLegacyCompactedProgressState (self : AgentProgressDeliveryState) (maxEventsPerPanel : Nat)
    : AgentProgressDeliveryState :=
  let retainRecent := min (max maxEventsPerPanel 16) maxLegacyCompactedEventsPerQueue
  let queueIds := self.compactedEvents.sortedKeys Text.le
  let inactive := queueIds.filter fun queueId => (self.queues.lookup queueId).isNone
  let trimmed := inactive.drop maxLegacyCompactedQueueFallback
  { self with
    compactedEvents := FMap.ofKeys queueIds fun queueId =>
      if queueId ∈ trimmed then
        none
      else
        ((self.compactedEvents.lookup queueId).map
          (boundedLegacyProgressEvents · retainRecent)).filter (· ≠ []) }

def knownQueueIds (self : AgentProgressDeliveryState) : List String :=
  (self.queues.keys ++ self.compactedEvents.keys).filter fun queueId => Text.trim queueId ≠ ""

def progressEventSessionSuperseded (self : AgentProgressDeliveryState) (event : AgentProgressEvent)
    : Bool :=
  self.supersededSessions.any (progressEventMatchesSupersededSession event)

end AgentProgressDeliveryState

end AgentProgress

/-!
The claims on the surfaces of a provider: a file for each surface, which says which queue has it, until when,
and under which message of the provider.
-/

namespace AgentProgress

open ChannelSessionKey (normalizeKeyPart)

inductive AgentProgressDeliveryFreshSendReason where
  | noExistingStatusSurface
  | existingProviderMessageExpired
  | editProviderNotFound
  | editProviderRejectedTerminal
  | explicitNewSurfaceRequested
  deriving DecidableEq

inductive AgentProgressDeliveryStatus where
  | delivered
  | failed
  | skippedDenied
  | skippedPermanent
  deriving DecidableEq

structure AgentProgressSurfaceClaim where
  statusSurfaceKey : String
  queueId : String
  agentId : Option String
  platform : String
  accountId : Option String
  channelId : String
  threadId : Option String
  userId : String
  sessionKey : String
  messageKind : AgentProgressDeliveryMessageKind
  providerMessageId : Option String
  eventLine : Nat
  eventId : Option String
  textHash : String
  terminal : Bool
  claimedAtMs : Int
  expiresAtMs : Int
  updatedAtMs : Int

def progressSurfaceClaimTtlMs : Int := 2 * 60 * 1000

def fnv1a64Hex (value : String) : String :=
  Text.hex16 (Text.fnv1a (Text.utf8Bytes value))

def AgentProgressDeliveryMessageKind.asStr (self : AgentProgressDeliveryMessageKind) : String :=
  match self with
  | .body => "body"
  | .status => "status"

structure SurfaceParts where
  platform : String
  accountId : Option String
  channelId : String
  userId : String
  agentId : Option String
  sessionKey : String
  queueId : String

def statusSurfaceKeyFromParts (parts : SurfaceParts) (kind : AgentProgressDeliveryMessageKind)
    : String :=
  String.intercalate ":" [
    normalizeKeyPart parts.platform,
    normalizeKeyPart (parts.accountId.getD "default"),
    normalizeKeyPart parts.channelId,
    normalizeKeyPart parts.userId,
    normalizeKeyPart (parts.agentId.getD "default"),
    normalizeKeyPart parts.sessionKey,
    normalizeKeyPart parts.queueId,
    kind.asStr]

def statusSurfaceKeyForEvent (event : AgentProgressEvent) (queueId : String)
    (kind : AgentProgressDeliveryMessageKind)
    : String :=
  statusSurfaceKeyFromParts {
    platform := event.platform
    accountId := event.accountId
    channelId := event.channelId
    userId := event.userId
    agentId := event.agentId
    sessionKey := event.sessionKey
    queueId } kind

abbrev SurfaceClaims := FMap String AgentProgressSurfaceClaim

def progressSurfaceClaimFile (statusSurfaceKey : String) : String :=
  fnv1a64Hex statusSurfaceKey

inductive ProgressSurfaceClaimOutcome where
  | claimed (freshSendReason : AgentProgressDeliveryFreshSendReason)
  | existingProvider (providerMessageId : String)
  | activePending
  deriving DecidableEq

structure SurfaceRequest where
  statusSurfaceKey : String
  queueId : String
  event : AgentProgressEvent
  messageKind : AgentProgressDeliveryMessageKind
  eventLine : Nat
  textHash : String
  terminal : Bool

def progressSurfaceClaimFromEvent (request : SurfaceRequest) (nowMs : Int)
    : AgentProgressSurfaceClaim where
  statusSurfaceKey := request.statusSurfaceKey
  queueId := request.queueId
  agentId := request.event.agentId
  platform := request.event.platform
  accountId := request.event.accountId
  channelId := request.event.channelId
  threadId := request.event.threadId
  userId := request.event.userId
  sessionKey := request.event.sessionKey
  messageKind := request.messageKind
  providerMessageId := none
  eventLine := request.eventLine
  eventId := validProgressEventId request.event.eventId
  textHash := request.textHash
  terminal := request.terminal
  claimedAtMs := nowMs
  expiresAtMs := saturateI64 (nowMs + progressSurfaceClaimTtlMs)
  updatedAtMs := nowMs

def progressSurfaceClaimExpired (claim : AgentProgressSurfaceClaim) (nowMs : Int) : Bool :=
  claim.providerMessageId.isNone && 0 < claim.expiresAtMs && claim.expiresAtMs ≤ nowMs

namespace SurfaceClaims

def acquireProgressSurfaceClaim (claims : SurfaceClaims) (request : SurfaceRequest) (nowMs : Int)
    : ProgressSurfaceClaimOutcome × SurfaceClaims :=
  let file := progressSurfaceClaimFile request.statusSurfaceKey
  let claim := progressSurfaceClaimFromEvent request nowMs
  match claims.lookup file with
  | none => (.claimed .noExistingStatusSurface, claims.insert file claim)
  | some existing =>
    if existing.statusSurfaceKey ≠ request.statusSurfaceKey then
      (.activePending, claims)
    else
      match existing.providerMessageId.filter (· ≠ "") with
      | some providerMessageId =>
        if existing.queueId = request.queueId then
          let refreshed := {
            claim with
            providerMessageId := some providerMessageId
            expiresAtMs := 0
            updatedAtMs := nowMs }
          (.existingProvider providerMessageId, claims.insert file refreshed)
        else
          (.existingProvider providerMessageId, claims)
      | none =>
        if progressSurfaceClaimExpired existing nowMs then
          -- the file is removed and created again
          (.claimed .existingProviderMessageExpired, claims.insert file claim)
        else if existing.queueId = request.queueId then
          (.claimed .noExistingStatusSurface, claims.insert file claim)
        else
          (.activePending, claims)

def releaseAgentProgressSurfaceClaim (claims : SurfaceClaims) (statusSurfaceKey queueId : String)
    : SurfaceClaims :=
  let file := progressSurfaceClaimFile statusSurfaceKey
  match claims.lookup file with
  | none => claims
  | some claim =>
    if claim.queueId = queueId && claim.providerMessageId.all (· = "") then
      claims.erase file
    else
      claims

def removeProgressSurfaceClaimsForQueue (claims : SurfaceClaims) (queueId : String) : SurfaceClaims :=
  claims.eraseAll (claims.keysWhere fun _ claim => claim.queueId = queueId)

end SurfaceClaims

structure AgentProgressDeliveryReceipt where
  atMs : Int
  queueId : String
  platform : String
  accountId : Option String
  channelId : String
  threadId : Option String
  userId : String
  sessionKey : String
  messageKind : AgentProgressDeliveryMessageKind
  status : AgentProgressDeliveryStatus
  providerMessageId : Option String
  eventLine : Nat
  eventId : Option String
  textHash : String
  terminal : Bool
  statusSurfaceKey : String
  progressSuppressedReason : Option String

def progressSurfaceClaimFromReceipt (receipt : AgentProgressDeliveryReceipt)
    : AgentProgressSurfaceClaim where
  statusSurfaceKey := receipt.statusSurfaceKey
  queueId := receipt.queueId
  agentId := none
  platform := receipt.platform
  accountId := receipt.accountId
  channelId := receipt.channelId
  threadId := receipt.threadId
  userId := receipt.userId
  sessionKey := receipt.sessionKey
  messageKind := receipt.messageKind
  providerMessageId := receipt.providerMessageId
  eventLine := receipt.eventLine
  eventId := receipt.eventId
  textHash := receipt.textHash
  terminal := receipt.terminal
  claimedAtMs := receipt.atMs
  expiresAtMs := 0
  updatedAtMs := receipt.atMs

def SurfaceClaims.updateProgressSurfaceClaimFromReceipt (claims : SurfaceClaims)
    (receipt : AgentProgressDeliveryReceipt)
    : SurfaceClaims :=
  let file := progressSurfaceClaimFile receipt.statusSurfaceKey
  if receipt.status ≠ .delivered then
    if receipt.providerMessageId.isNone then claims.erase file else claims
  else
    match receipt.providerMessageId with
    | none => claims
    | some providerMessageId =>
      let claim := (claims.lookup file).getD (progressSurfaceClaimFromReceipt receipt)
      claims.insert file {
        claim with
        statusSurfaceKey := receipt.statusSurfaceKey
        queueId := receipt.queueId
        platform := receipt.platform
        accountId := receipt.accountId
        channelId := receipt.channelId
        threadId := receipt.threadId
        userId := receipt.userId
        sessionKey := receipt.sessionKey
        messageKind := receipt.messageKind
        providerMessageId := some providerMessageId
        eventLine := receipt.eventLine
        eventId := receipt.eventId
        textHash := receipt.textHash
        terminal := receipt.terminal
        expiresAtMs := 0
        updatedAtMs := receipt.atMs }

end AgentProgress
