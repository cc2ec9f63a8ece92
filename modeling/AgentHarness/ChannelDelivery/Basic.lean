import AgentHarness.Lib.Io
import AgentHarness.Lib.Map
import AgentHarness.Lib.TextFile

/-!
The ledgers of a channel: outbox rows and delivery receipts as lines of JSON, the identities of the
deliveries, and the cursor up to which a ledger has been indexed.
-/

namespace ChannelDelivery

inductive ChannelDeliveryStatus where
  | delivered
  | failed
  | skippedPermanent
  deriving DecidableEq

def isTerminalStatus (status : ChannelDeliveryStatus) : Bool :=
  status = .delivered || status = .skippedPermanent

inductive ChannelDeliveryUnitStatus where
  | delivered
  | failed
  | skipped
  deriving DecidableEq

structure ChannelDeliveryReceipt where
  deliveryId : String
  status : ChannelDeliveryStatus
  renderedUnits : List ChannelDeliveryUnitStatus := []
  atMs : Int

structure ChannelOutboundMessage where
  platform : String
  accountId : Option String
  channelId : String
  userId : String
  sessionKey : String
  deliveryId : Option String
  sourceQueueId : Option String
  text : String
  deriving DecidableEq

def deliveryIdV2Lead : String := "delivery:v2:"

def isValidChannelOutboundDeliveryId (deliveryId : String) : Bool :=
  match Text.dropLead deliveryIdV2Lead deliveryId with
  | none => false
  | some token => token.utf8ByteSize = 32 && token.toList.all Text.isLowerHexdigit

def validChannelOutboundDeliveryId (message : ChannelOutboundMessage) : Option String :=
  message.deliveryId.filter isValidChannelOutboundDeliveryId

def fnv1a64Hex (value : String) : String :=
  Text.hex16 (Text.fnv1a (Text.utf8Bytes value))

def deliveryId (lineNumber : Nat) (line : String) : String :=
  "delivery:" ++ toString lineNumber ++ ":" ++ fnv1a64Hex line

def deliveryIdForOutboxMessage (lineNumber : Nat) (rawLine : String)
    (message : ChannelOutboundMessage)
    : String :=
  (validChannelOutboundDeliveryId message).getD (deliveryId lineNumber rawLine)

-- the JSON library, as far as the ledgers need it
structure Formats where
  -- `serde_json::from_str::<Value>(line).is_ok()`
  isValue : String → Bool
  message : String → Except String ChannelOutboundMessage
  receipt : String → Except String ChannelDeliveryReceipt
  renderMessage : ChannelOutboundMessage → String
  renderReceipt : ChannelDeliveryReceipt → String

structure LedgerFile where
  bytes : List UInt8
  modifiedAtUnixNanos : Nat

structure LedgerCursor where
  offsetBytes : Nat := 0
  lineNumber : Nat := 0
  sourceModifiedAtUnixNanos : Option Nat := none
  prefixTailFingerprint : Option UInt64 := none
  headFingerprint : Option UInt64 := none

def fingerprintBytes : Nat := 4 * 1024

def ledgerPrefixTailFingerprint (bytes : List UInt8) (offsetBytes : Nat) : Option UInt64 :=
  if offsetBytes = 0 then
    none
  else
    let start := offsetBytes - fingerprintBytes
    some (Text.fnv1a ((bytes.drop start).take (offsetBytes - start)))

def ledgerHeadFingerprint (bytes : List UInt8) (offsetBytes : Nat) : Option UInt64 :=
  if offsetBytes = 0 then
    none
  else
    some (Text.fnv1a (bytes.take (min offsetBytes fingerprintBytes)))

def cursorFromProcessedLedger (file : LedgerFile) (offsetBytes lineNumber : Nat)
    : LedgerCursor where
  offsetBytes
  lineNumber
  sourceModifiedAtUnixNanos := some file.modifiedAtUnixNanos
  prefixTailFingerprint := ledgerPrefixTailFingerprint file.bytes offsetBytes
  headFingerprint := ledgerHeadFingerprint file.bytes offsetBytes

inductive LedgerRefreshMode where
  | current
  | append (cursor : LedgerCursor)
  | rebuild (reason : String)

def ledgerRefreshMode (label : String) (file : LedgerFile) (cursor : Option LedgerCursor)
    : LedgerRefreshMode :=
  match cursor with
  | none => .rebuild s!"{label} index has no cursor"
  | some cursor =>
    let prefixMatches :=
      ledgerPrefixTailFingerprint file.bytes cursor.offsetBytes = cursor.prefixTailFingerprint
    let headMatches :=
      ledgerHeadFingerprint file.bytes cursor.offsetBytes = cursor.headFingerprint
    if cursor.sourceModifiedAtUnixNanos.isNone
        || (0 < cursor.offsetBytes
          && (cursor.prefixTailFingerprint.isNone || cursor.headFingerprint.isNone)) then
      .rebuild s!"{label} index has no stable cursor fingerprint"
    else if file.bytes.length < cursor.offsetBytes then
      .rebuild s!"{label} was truncated"
    else if file.bytes.length = cursor.offsetBytes then
      if some file.modifiedAtUnixNanos = cursor.sourceModifiedAtUnixNanos
          && prefixMatches && headMatches then
        .current
      else
        .rebuild s!"{label} changed without a stable append"
    else if prefixMatches && headMatches then
      .append cursor
    else
      .rebuild s!"{label} prefix no longer matches its cursor"

-- the lines of a file, each with its newline, as `BufRead::read_line` hands them out
def rawLines (bytes : List UInt8) : List (List UInt8) :=
  go [] bytes
where
  go (line : List UInt8) : List UInt8 → List (List UInt8)
    | [] => if line = [] then [] else [line]
    | byte :: rest =>
      if byte = TextFile.newline then
        (line ++ [byte]) :: go [] rest
      else
        go (line ++ [byte]) rest

structure Read where
  lines : List (Nat × String)
  offsetBytes : Nat
  lineNumber : Nat

/-
One line after the other: a last line that has no newline yet is left for the next refresh unless it
is JSON already, and blank lines only count.
-/
def readLines (formats : Formats) (offsetBytes lineNumber : Nat)
    : List (List UInt8) → Except IoError Read
  | [] => .ok { lines := [], offsetBytes, lineNumber }
  | raw :: rest => do
    let line ← .ofOption (TextFile.decode raw)
      { kind := .invalidData, message := "stream did not contain valid UTF-8" }
    let completeLine : Bool := raw.getLast? = some TextFile.newline
    let trimmed := Text.trim line
    if !completeLine && trimmed ≠ "" && !formats.isValue trimmed then
      return { lines := [], offsetBytes, lineNumber }
    else
      let read ← readLines formats (offsetBytes + raw.length) (lineNumber + 1) rest
      return if trimmed = "" then read
        else { read with lines := (lineNumber + 1, trimmed) :: read.lines }

def readFromCursor (formats : Formats) (file : LedgerFile) (cursor : LedgerCursor)
    : Except IoError Read :=
  let startOffset := min cursor.offsetBytes file.bytes.length
  let lineNumber := if cursor.offsetBytes > file.bytes.length then 0 else cursor.lineNumber
  readLines formats startOffset lineNumber (rawLines (file.bytes.drop startOffset))

end ChannelDelivery
