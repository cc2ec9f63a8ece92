import AgentHarness.ChannelDelivery.Index
import AgentHarness.Lib.Run

/-!
The index against its ledgers: what a refresh tails or rebuilds, the plan that is made from the
index, and the two appenders that advance it.
-/

namespace ChannelDelivery

structure ChannelDeliveryReceiptHistory where
  segments : List ChannelDeliveryReceiptHistorySegment := []
  file : String → Option (List UInt8) := fun _ => none

def ChannelDeliveryReceiptHistory.segmentIsValid (self : ChannelDeliveryReceiptHistory)
    (segment : ChannelDeliveryReceiptHistorySegment)
    : Bool :=
  (self.file segment.fileName).any fun bytes =>
    bytes.length = segment.bytes && Text.fnv1a bytes = segment.digest

inductive ColdHistoryRefreshMode where
  | current
  | append (segments : List ChannelDeliveryReceiptHistorySegment)
  | rebuild

namespace Index

variable (formats : Formats)

def readOutboxFromCursor (self : Index) (file : LedgerFile) (cursor : LedgerCursor)
    : Except IoError Index := do
  let read ← readFromCursor formats file cursor
  let self ← read.lines.foldlM (indexOutboxLine formats) self
  return { self with
    outboxCursor := some (cursorFromProcessedLedger file read.offsetBytes read.lineNumber) }

def rebuildOutboxIndexLocked (self : Index) (file : LedgerFile) : Except IoError Index :=
  let self := { self.clearReceipts with
    outbox := []
    platformSummary := ∅
    receiptCursor := none
    outboxTotalLines := 0
    outboxInvalidLines := 0 }
  self.readOutboxFromCursor formats file {}

def resetOutboxIndex (self : Index) : Index :=
  { self.clearReceipts with
    outbox := []
    platformSummary := ∅
    outboxCursor := none
    receiptCursor := none
    outboxTotalLines := 0
    outboxInvalidLines := 0 }

def refreshOutboxIndexLocked (self : Index) (outbox : Option LedgerFile) : Except IoError Index :=
  match outbox with
  | none =>
    if self.outboxCursor.isSome || self.outboxHasRows then
      .ok self.resetOutboxIndex
    else
      .ok self
  | some file =>
    match ledgerRefreshMode "channel outbox" file self.outboxCursor with
    | .current => .ok self
    | .append cursor => self.readOutboxFromCursor formats file cursor
    | .rebuild _ => self.rebuildOutboxIndexLocked formats file

def readReceiptsFromCursor (self : Index) (source : ReceiptSource) (file : LedgerFile)
    (cursor : LedgerCursor)
    : Except IoError (Index × LedgerCursor) := do
  let read ← readFromCursor formats file cursor
  return (read.lines.foldl (indexReceiptLine formats source) self,
    cursorFromProcessedLedger file read.offsetBytes read.lineNumber)

def appendColdHistorySegment (history : ChannelDeliveryReceiptHistory) (self : Index)
    (segment : ChannelDeliveryReceiptHistorySegment)
    : Except IoError Index := do
  .require (history.segmentIsValid segment) {
    kind := .invalidData
    message := "channel delivery cold history segment failed integrity validation" }
  let bytes := (history.file segment.fileName).getD []
  let (self, _) ← self.readReceiptsFromCursor formats (.cold segment.transactionId)
    { bytes, modifiedAtUnixNanos := 0 } {}
  .require (!self.historySegments.any fun other => other.transactionId = segment.transactionId)
    (sqlError "UNIQUE constraint failed")
  return { self with historySegments := self.historySegments ++ [segment] }

def appendColdHistorySegments (history : ChannelDeliveryReceiptHistory) (self : Index)
    (segments : List ChannelDeliveryReceiptHistorySegment)
    : Except IoError Index :=
  segments.foldlM (appendColdHistorySegment formats history) self

def coldHistoryRefreshMode (self : Index) (history : ChannelDeliveryReceiptHistory)
    : ColdHistoryRefreshMode :=
  let declared := history.segments.map (·.transactionId)
  let known segment := self.historySegments.find? fun other =>
    other.transactionId = segment.transactionId
  if self.historySegments.any fun segment => segment.transactionId ∉ declared then
    .rebuild
  else if history.segments.any fun segment => (known segment).any (· ≠ segment) then
    .rebuild
  else
    let append := history.segments.filter fun segment => (known segment).isNone
    if append = [] then .current else .append append

def rebuildReceiptIndexLocked (self : Index) (history : ChannelDeliveryReceiptHistory)
    (receipts : Option LedgerFile)
    : Except IoError Index := do
  let self := self.clearReceipts.resetPlatformDeliveryCounts
  let self ← self.appendColdHistorySegments formats history history.segments
  match receipts with
  | none => return { self with receiptCursor := none }
  | some file =>
    let (self, cursor) ← self.readReceiptsFromCursor formats .hot file {}
    return { self with receiptCursor := some cursor }

/-
`recovered` says that an interrupted compaction was finished before, which may have replaced the hot
ledger.
-/
def refreshReceiptIndexLocked (recovered : Bool) (history : ChannelDeliveryReceiptHistory)
    (self : Index) (receipts : Option LedgerFile)
    : Except IoError Index :=
  match receipts with
  | none =>
    if self.receiptCursor.isSome || self.receiptHasRows || !history.segments.isEmpty then
      self.rebuildReceiptIndexLocked formats history none
    else
      .ok self
  | some file =>
    let cold := self.coldHistoryRefreshMode history
    match recovered, cold,
        ledgerRefreshMode "channel delivery receipt ledger" file self.receiptCursor with
    | true, _, _ => self.rebuildReceiptIndexLocked formats history (some file)
    | false, _, .rebuild _ => self.rebuildReceiptIndexLocked formats history (some file)
    | false, .rebuild, _ => self.rebuildReceiptIndexLocked formats history (some file)
    | false, .current, .current => .ok self
    | false, .append segments, .current => self.appendColdHistorySegments formats history segments
    | false, cold, .append cursor => do
      let (self, cursor) ← self.readReceiptsFromCursor formats .hot file cursor
      let self ← match cold with
        | .append segments => self.appendColdHistorySegments formats history segments
        | _ => .ok self
      return { self with receiptCursor := some cursor }

end Index

structure ChannelDeliveryPending where
  deliveryId : String
  lineNumber : Nat
  attempts : Nat
  lastStatus : Option ChannelDeliveryStatus
  message : ChannelOutboundMessage

structure ChannelOutboxPlanSummary where
  totalOutboxLines : Nat
  pending : Nat
  delivered : Nat
  failedRetryable : Nat
  skippedPermanent : Nat
  partialFailed : Nat
  skippedPlatform : Nat
  invalidLines : Nat

structure ChannelDeliveryIndexedPlan where
  outboxExists : Bool
  pending : List ChannelDeliveryPending
  summary : ChannelOutboxPlanSummary

def usizeFromI64 (value : Int) (label : String) : Except IoError Nat :=
  if 0 ≤ value then
    .ok value.toNat
  else
    .error { kind := .invalidData, message := s!"{label} is outside the valid range" }

def PlatformSummary.add (left right : PlatformSummary) : PlatformSummary where
  validOutboxCount := left.validOutboxCount + right.validOutboxCount
  pending := left.pending + right.pending
  delivered := left.delivered + right.delivered
  failedRetryable := left.failedRetryable + right.failedRetryable
  skippedPermanent := left.skippedPermanent + right.skippedPermanent
  partialFailed := left.partialFailed + right.partialFailed

namespace Index

def readPlatformSummary (self : Index) (platform : Option String) : PlatformSummary :=
  match platform with
  | some platform => self.summaryOf platform
  | none => self.platformSummary.values.foldl PlatformSummary.add {}

def isPending (self : Index) (delivery : OutboxDelivery) : Bool :=
  let state := self.states.lookup delivery.deliveryId
  (state.bind (·.terminalStatus)).isNone
    && (state.bind (·.lastStatus)).all fun status => status = .failed

def readPendingDeliveries (self : Index) (platform : Option String) (limit : Nat)
    : List ChannelDeliveryPending :=
  let rows := self.outbox.filterMap fun row =>
    row.delivery?.bind fun delivery =>
      if platform.all (fun platform => delivery.message.platform = platform)
          && self.isPending delivery then
        let state := self.states.lookup delivery.deliveryId
        some {
          deliveryId := delivery.deliveryId
          lineNumber := row.lineNumber
          attempts := (state.map (·.attempts)).getD 0
          lastStatus := state.bind (·.terminalStatus) <|> state.bind (·.lastStatus)
          message := delivery.message }
      else
        none
  rows.take limit

def planOf (self : Index) (outboxExists : Bool) (platform : Option String) (limit : Nat)
    : Except IoError ChannelDeliveryIndexedPlan := do
  let totalOutboxLines := max self.outboxTotalLines 0
  let invalidLines := max self.outboxInvalidLines 0
  let selected := self.readPlatformSummary platform
  let validLines := totalOutboxLines - invalidLines
  let skippedPlatform :=
    if platform.isSome then validLines - selected.validOutboxCount else 0
  let summary : ChannelOutboxPlanSummary := {
    totalOutboxLines := ← usizeFromI64 totalOutboxLines "outbox total line count"
    pending := ← usizeFromI64 selected.pending "pending delivery count"
    delivered := ← usizeFromI64 selected.delivered "delivered count"
    failedRetryable := ← usizeFromI64 selected.failedRetryable "failed delivery count"
    skippedPermanent :=
      ← usizeFromI64 selected.skippedPermanent "permanently skipped delivery count"
    partialFailed := ← usizeFromI64 selected.partialFailed "partial failed delivery count"
    skippedPlatform := ← usizeFromI64 skippedPlatform "skipped platform count"
    invalidLines := ← usizeFromI64 invalidLines "invalid outbox line count" }
  return { outboxExists, pending := self.readPendingDeliveries platform limit, summary }

end Index

/-
The files of a channel and its index. An index transaction that fails leaves the index as it was.
-/
structure Channel where
  outbox : Option LedgerFile := none
  receipts : Option LedgerFile := none
  history : ChannelDeliveryReceiptHistory := {}
  index : Index := {}

namespace Channel

variable (formats : Formats)

def refreshOutbox (self : Channel) : Outcome Channel Unit :=
  match self.index.refreshOutboxIndexLocked formats self.outbox with
  | .error e => (self, .error e)
  | .ok index => ({ self with index }, .ok ())

def refreshReceipts (self : Channel) : Outcome Channel Unit :=
  match Index.refreshReceiptIndexLocked formats false self.history self.index self.receipts with
  | .error e => (self, .error e)
  | .ok index => ({ self with index }, .ok ())

def refreshChannelDeliveryIndex (self : Channel) : Outcome Channel Unit :=
  (self.refreshOutbox formats).andThen fun self _ => self.refreshReceipts formats

def refreshChannelDeliveryIndexNonblocking (self : Channel) (outboxBusy receiptsBusy : Bool)
    : Outcome Channel Unit :=
  let first : Outcome Channel Unit :=
    if outboxBusy then (self, .ok ()) else self.refreshOutbox formats
  first.andThen fun self _ =>
    if receiptsBusy then (self, .ok ()) else self.refreshReceipts formats

def planChannelOutboxIndex (self : Channel) (platform : Option String) (limit : Nat)
    (outboxBusy receiptsBusy : Bool)
    : Outcome Channel ChannelDeliveryIndexedPlan :=
  (self.refreshChannelDeliveryIndexNonblocking formats outboxBusy receiptsBusy).andThen
    fun self _ => (self, self.index.planOf self.outbox.isSome platform limit)

-- `append_json_line_while_locked`
def appendLine (file : Option LedgerFile) (line : String) (modifiedAtUnixNanos : Nat)
    : LedgerFile :=
  let bytes := (file.map (·.bytes)).getD []
  { bytes := bytes
      ++ (if TextFile.needsLeadingNewline bytes then [TextFile.newline] else [])
      ++ Text.utf8Bytes line ++ [TextFile.newline]
    modifiedAtUnixNanos }

def recordChannelDeliveryReceipt (self : Channel) (receipt : ChannelDeliveryReceipt)
    (modifiedAtUnixNanos : Nat)
    : Outcome Channel Bool :=
  (self.refreshReceipts formats).andThen fun self _ =>
    let canonicalDeliveryId := self.index.canonicalDeliveryId receipt.deliveryId
    let supersededByTerminal := receipt.status = .failed
      && (self.index.states.lookup canonicalDeliveryId).any (·.terminalStatus.isSome)
    let self := { self with
      receipts := some (appendLine self.receipts (formats.renderReceipt receipt)
        modifiedAtUnixNanos) }
    -- an index that could not be advanced is left behind for the next refresh
    ((self.refreshReceipts formats).1, .ok supersededByTerminal)

def indexedMessage (self : Channel) (deliveryId : String) : Option ChannelOutboundMessage :=
  ((self.index.outbox.filterMap OutboxRow.delivery?).find? fun delivery =>
    delivery.deliveryId = deliveryId).map (·.message)

-- the identity of a message that has none is drawn by the caller
def appendChannelOutboxMessageIndexedLocked (self : Channel) (message : ChannelOutboundMessage)
    (drawnDeliveryId : String) (modifiedAtUnixNanos : Nat)
    : Outcome Channel String :=
  (self.refreshOutbox formats).andThen fun self _ =>
    let deliveryId := (validChannelOutboundDeliveryId message).getD drawnDeliveryId
    let message := { message with deliveryId := some deliveryId }
    match self.indexedMessage deliveryId with
    | some existing =>
      if existing = message then
        (self, .ok deliveryId)
      else
        (self, .error {
          kind := .invalidData
          message := "refusing to append a different channel outbox message" })
    | none =>
      let self := { self with
        outbox := some (appendLine self.outbox (formats.renderMessage message)
          modifiedAtUnixNanos) }
      ((self.refreshOutbox formats).1, .ok deliveryId)

end Channel

end ChannelDelivery

/-!
A channel over time: the outbox is written, receipts are recorded, and deliveries are planned by
processes that find the append lock of a ledger free or held.
-/

namespace ChannelDelivery

inductive Action where
  -- the outbox is appended to, rewritten or removed, past the index
  | writeOutbox (file : Option LedgerFile)
  | appendOutbox (message : ChannelOutboundMessage) (drawnDeliveryId : String)
    (modifiedAtUnixNanos : Nat)
  | record (receipt : ChannelDeliveryReceipt) (modifiedAtUnixNanos : Nat)
  -- the receipt is in the ledger, and the index has not been advanced
  | recordDeferred (receipt : ChannelDeliveryReceipt) (modifiedAtUnixNanos : Nat)
  | plan (platform : Option String) (limit : Nat) (outboxBusy receiptsBusy : Bool)

namespace Channel

variable (formats : Formats)

def appendReceipt (self : Channel) (receipt : ChannelDeliveryReceipt) (modifiedAtUnixNanos : Nat)
    : Channel :=
  { self with
    receipts := some (appendLine self.receipts (formats.renderReceipt receipt)
      modifiedAtUnixNanos) }

def step (self : Channel) : Action → Channel
  | .writeOutbox file => { self with outbox := file }
  | .appendOutbox message drawnDeliveryId modifiedAtUnixNanos =>
    (self.appendChannelOutboxMessageIndexedLocked formats message drawnDeliveryId
      modifiedAtUnixNanos).1
  | .record receipt modifiedAtUnixNanos =>
    (self.recordChannelDeliveryReceipt formats receipt modifiedAtUnixNanos).1
  | .recordDeferred receipt modifiedAtUnixNanos =>
    ((self.refreshReceipts formats).andThen fun self _ =>
      (self.appendReceipt formats receipt modifiedAtUnixNanos, .ok ())).1
  | .plan platform limit outboxBusy receiptsBusy =>
    (self.planChannelOutboxIndex formats platform limit outboxBusy receiptsBusy).1

def run (self : Channel) (actions : List Action) : Channel :=
  Run.exec (step formats) self actions

def rebuildsOutbox (self : Channel) : Bool :=
  match self.outbox with
  | none => self.index.outboxCursor.isSome || self.index.outboxHasRows
  | some file =>
    match ledgerRefreshMode "channel outbox" file self.index.outboxCursor with
    | .rebuild _ => true
    | _ => false

def receiptsRead (self : Channel) : Bool :=
  self.index.receiptCursor.any fun cursor =>
    self.receipts.any fun file => cursor.offsetBytes = file.bytes.length

end Channel

end ChannelDelivery
