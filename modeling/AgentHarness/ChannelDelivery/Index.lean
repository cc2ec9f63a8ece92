import AgentHarness.ChannelDelivery.Basic

/-!
The tables of the delivery state index and the statements on them: outbox rows, the state of every
delivery, the receipts that were applied, and the counters of each platform.
-/

namespace ChannelDelivery

structure OutboxDelivery where
  deliveryId : String
  legacyDeliveryId : String
  message : ChannelOutboundMessage

-- a row is a delivery, or the error of a line that could not be parsed
inductive OutboxContent where
  | delivery (delivery : OutboxDelivery)
  | parseError (error : String)

structure OutboxRow where
  lineNumber : Nat
  content : OutboxContent

def OutboxRow.delivery? (self : OutboxRow) : Option OutboxDelivery :=
  match self.content with
  | .delivery delivery => some delivery
  | .parseError _ => none

structure DeliveryStateRow where
  attempts : Nat := 0
  lastStatus : Option ChannelDeliveryStatus := none
  terminalStatus : Option ChannelDeliveryStatus := none
  lastPartialFailure : Bool := false

inductive DeliveryDisposition where
  | pending
  | delivered
  | failed (isPartial : Bool)
  | skippedPermanent
  deriving DecidableEq

inductive ReceiptSource where
  | hot
  | cold (transactionId : String)
  deriving DecidableEq

structure ReceiptRecord where
  source : ReceiptSource
  lineNumber : Nat
  deliveryId : String
  receiptJson : String
  receipt : ChannelDeliveryReceipt

structure ReceiptErrorRow where
  source : ReceiptSource
  lineNumber : Nat
  parseError : String

structure ChannelDeliveryReceiptHistorySegment where
  transactionId : String
  fileName : String
  records : Nat
  bytes : Nat
  digest : UInt64
  compactedAtMs : Int
  deriving DecidableEq

structure PlatformSummary where
  validOutboxCount : Int := 0
  pending : Int := 0
  delivered : Int := 0
  failedRetryable : Int := 0
  skippedPermanent : Int := 0
  partialFailed : Int := 0

structure Index where
  outbox : List OutboxRow := []
  states : FMap String DeliveryStateRow := ∅
  receiptErrors : List ReceiptErrorRow := []
  receiptRecords : List ReceiptRecord := []
  historySegments : List ChannelDeliveryReceiptHistorySegment := []
  platformSummary : FMap String PlatformSummary := ∅
  outboxCursor : Option LedgerCursor := none
  receiptCursor : Option LedgerCursor := none
  outboxTotalLines : Int := 0
  outboxInvalidLines : Int := 0

def sqlError (message : String) : IoError where
  kind := .other
  message

def deliveryDisposition (state : Option DeliveryStateRow) : DeliveryDisposition :=
  match state.bind fun state => state.terminalStatus <|> state.lastStatus with
  | some .delivered => .delivered
  | some .skippedPermanent => .skippedPermanent
  | some .failed => .failed (state.any (·.lastPartialFailure))
  | none => .pending

def nextDeliveryState (previous : Option DeliveryStateRow) (receipt : ChannelDeliveryReceipt)
    : DeliveryStateRow :=
  let previous := previous.getD {}
  { attempts := saturatingSucc previous.attempts
    lastStatus := some receipt.status
    terminalStatus :=
      if isTerminalStatus receipt.status then some receipt.status else previous.terminalStatus
    lastPartialFailure :=
      receipt.status = .failed && receipt.renderedUnits.any fun unit => unit ≠ .delivered }

def PlatformSummary.adjust (self : PlatformSummary) (disposition : DeliveryDisposition)
    (direction : Int)
    : PlatformSummary :=
  match disposition with
  | .pending => { self with pending := self.pending + direction }
  | .delivered => { self with delivered := self.delivered + direction }
  | .failed isPartial =>
    { self with
      failedRetryable := self.failedRetryable + direction
      partialFailed := self.partialFailed + if isPartial then direction else 0 }
  | .skippedPermanent => { self with skippedPermanent := self.skippedPermanent + direction }

namespace Index

def summaryOf (self : Index) (platform : String) : PlatformSummary :=
  (self.platformSummary.lookup platform).getD {}

-- `ensure_platform_summary`, then an update of the row
def updateSummary (self : Index) (platform : String) (update : PlatformSummary → PlatformSummary)
    : Index :=
  { self with
    platformSummary := self.platformSummary.insert platform (update (self.summaryOf platform)) }

def adjustPlatformSummary (self : Index) (platform : String) (disposition : DeliveryDisposition)
    (direction : Int)
    : Index :=
  self.updateSummary platform fun summary => summary.adjust disposition direction

def resetPlatformDeliveryCounts (self : Index) : Index :=
  { self with
    platformSummary := ⟨self.platformSummary.entries.map fun ⟨platform, summary⟩ =>
        ⟨platform, { validOutboxCount := summary.validOutboxCount
                     pending := summary.validOutboxCount }⟩, by
      have hkeys := self.platformSummary.nodupKeys
      unfold List.NodupKeys List.keys at hkeys ⊢
      rw [List.map_map]
      exact hkeys⟩ }

def placeRow (rows : List OutboxRow) (row : OutboxRow) : List OutboxRow :=
  if rows.any fun other => other.lineNumber = row.lineNumber then
    rows.map fun other => if other.lineNumber = row.lineNumber then row else other
  else
    rows ++ [row]

def clashes (rows : List OutboxRow) (lineNumber : Nat) (delivery : OutboxDelivery) : Bool :=
  rows.any fun other => other.lineNumber ≠ lineNumber && other.delivery?.any fun existing =>
    existing.deliveryId = delivery.deliveryId
      || existing.legacyDeliveryId = delivery.legacyDeliveryId

def insertOutboxMessage (self : Index) (lineNumber : Nat) (rawLine : String)
    (message : ChannelOutboundMessage)
    : Except IoError Index :=
  let delivery : OutboxDelivery := {
    deliveryId := deliveryIdForOutboxMessage lineNumber rawLine message
    legacyDeliveryId := ChannelDelivery.deliveryId lineNumber rawLine
    message }
  if clashes self.outbox lineNumber delivery then
    .error (sqlError "UNIQUE constraint failed")
  else
    let self := { self with
      outbox := placeRow self.outbox { lineNumber, content := .delivery delivery } }
    let self := self.updateSummary message.platform fun summary =>
      { summary with validOutboxCount := summary.validOutboxCount + 1 }
    let state := self.states.lookup delivery.deliveryId
    .ok (self.adjustPlatformSummary message.platform (deliveryDisposition state) 1)

def rowOf (self : Index) (suppliedDeliveryId : String) : Option OutboxDelivery :=
  (self.outbox.filterMap OutboxRow.delivery?).find? fun delivery =>
    delivery.deliveryId = suppliedDeliveryId || delivery.legacyDeliveryId = suppliedDeliveryId

def canonicalDeliveryId (self : Index) (suppliedDeliveryId : String) : String :=
  ((self.rowOf suppliedDeliveryId).map (·.deliveryId)).getD suppliedDeliveryId

def writeDeliveryState (self : Index) (deliveryId : String) (state : DeliveryStateRow) : Index :=
  { self with states := self.states.insert deliveryId state }

def applyDeliveryReceipt (self : Index) (receipt : ChannelDeliveryReceipt) : String × Index :=
  let deliveryId := self.canonicalDeliveryId receipt.deliveryId
  let previous := self.states.lookup deliveryId
  let platform := (self.rowOf deliveryId).map (·.message.platform)
  let self := match platform with
    | some platform => self.adjustPlatformSummary platform (deliveryDisposition previous) (-1)
    | none => self
  let next := nextDeliveryState previous receipt
  let self := self.writeDeliveryState deliveryId next
  let self := match platform with
    | some platform => self.adjustPlatformSummary platform (deliveryDisposition (some next)) 1
    | none => self
  (deliveryId, self)

-- `INSERT OR REPLACE`
def insertReceiptHistoryRecord (self : Index) (record : ReceiptRecord) : Index :=
  { self with
    receiptRecords := (self.receiptRecords.filter fun other =>
      ¬(other.source = record.source ∧ other.lineNumber = record.lineNumber)) ++ [record] }

def insertReceiptError (self : Index) (row : ReceiptErrorRow) : Index :=
  { self with
    receiptErrors := (self.receiptErrors.filter fun other =>
      ¬(other.source = row.source ∧ other.lineNumber = row.lineNumber)) ++ [row] }

def indexOutboxLine (formats : Formats) (self : Index) (line : Nat × String)
    : Except IoError Index :=
  match formats.message line.2 with
  | .ok message => do
    let self ← self.insertOutboxMessage line.1 line.2 message
    return { self with outboxTotalLines := self.outboxTotalLines + 1 }
  | .error error => .ok { self with
      outbox := placeRow self.outbox { lineNumber := line.1, content := .parseError error }
      outboxTotalLines := self.outboxTotalLines + 1
      outboxInvalidLines := self.outboxInvalidLines + 1 }

def indexReceiptLine (formats : Formats) (source : ReceiptSource) (self : Index)
    (line : Nat × String)
    : Index :=
  match formats.receipt line.2 with
  | .ok receipt =>
    let (canonicalDeliveryId, self) := self.applyDeliveryReceipt receipt
    self.insertReceiptHistoryRecord {
      source
      lineNumber := line.1
      deliveryId := canonicalDeliveryId
      receiptJson := line.2
      receipt }
  | .error error => self.insertReceiptError { source, lineNumber := line.1, parseError := error }

def outboxHasRows (self : Index) : Bool :=
  !self.outbox.isEmpty

def receiptHasRows (self : Index) : Bool :=
  !self.states.entries.isEmpty || !self.receiptErrors.isEmpty || !self.receiptRecords.isEmpty
    || !self.historySegments.isEmpty

def clearReceipts (self : Index) : Index :=
  { self with states := ∅, receiptErrors := [], receiptRecords := [], historySegments := [] }

end Index

end ChannelDelivery
