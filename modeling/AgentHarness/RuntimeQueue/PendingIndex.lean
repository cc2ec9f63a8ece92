import AgentHarness.ChannelDelivery.Basic
import AgentHarness.Lib.Run

/-!
The index beside `pending.jsonl`: the queued rows of the ledger and the cursor up to which it was read.
-/

namespace RuntimeQueue

open ChannelDelivery (LedgerFile rawLines)

-- the JSON library, as far as the index needs it
structure PendingJson (V : Type) where
  -- `serde_json::from_str`
  parse : String → Except String V
  isObject : V → Bool
  get : V → String → Option V
  asStr : V → Option String

namespace PendingIndex

def fingerprintBytes : Nat := 4 * 1024

def maxActiveRows : Nat := 8192

structure PendingLedgerCursor where
  offsetBytes : Nat := 0
  lineNumber : Nat := 0
  sourceLenBytes : Nat := 0
  sourceModifiedAtUnixNanos : Option Nat := none
  processedHeadFingerprint : Option UInt64 := none
  processedTailFingerprint : Option UInt64 := none
  malformedLineCount : Nat := 0
  ignoredRecordCount : Nat := 0
  incompleteFinalLine : Bool := false

def PendingLedgerCursor.isPristine (self : PendingLedgerCursor) : Bool :=
  self.offsetBytes = 0
    && self.lineNumber = 0
    && self.sourceLenBytes = 0
    && self.sourceModifiedAtUnixNanos.isNone
    && self.processedHeadFingerprint.isNone
    && self.processedTailFingerprint.isNone
    && self.malformedLineCount = 0
    && self.ignoredRecordCount = 0
    && !self.incompleteFinalLine

structure PendingRow where
  sourceLine : Nat
  queueId : String
  rawJson : String

-- the rows in the order of their primary key, the source line
structure Index where
  rows : List PendingRow := []
  cursor : PendingLedgerCursor := {}

def fingerprintPendingRange (bytes : List UInt8) (start count : Nat) : Option UInt64 :=
  if count = 0 then none else some (Text.fnv1a ((bytes.drop start).take count))

def pendingProcessedHeadFingerprint (bytes : List UInt8) (processedOffset : Nat) : Option UInt64 :=
  fingerprintPendingRange bytes 0 (min processedOffset fingerprintBytes)

def pendingProcessedTailFingerprint (bytes : List UInt8) (processedOffset : Nat) : Option UInt64 :=
  let start := processedOffset - fingerprintBytes
  fingerprintPendingRange bytes start (processedOffset - start)

inductive PendingLine where
  | blank
  | malformed
  | ignored
  | queued (queueId : String)
  deriving DecidableEq

variable {V : Type} (json : PendingJson V)

-- what a line is for the index; a `queueId` that is no text hides a `queue_id`
def pendingLine (trimmed : String) : PendingLine :=
  if trimmed = "" then
    .blank
  else
    match json.parse trimmed with
    | .error _ => .malformed
    | .ok value =>
      if !json.isObject value then
        .ignored
      else
        let queueId := (json.get value "queueId" <|> json.get value "queue_id").bind json.asStr
        match queueId.filter fun queueId => Text.trim queueId ≠ "" with
        | none => .ignored
        | some queueId =>
          if (json.get value "status").bind json.asStr = some "queued" then
            .queued queueId
          else
            .ignored

def capacityError (maxActiveRows : Nat) : IoError where
  kind := .wouldBlock
  message := "runtime pending index capacity/backpressure: active queued rows would exceed "
    ++ toString maxActiveRows
    ++ "; source ledger remains authoritative and no runnable rows were evicted"

/-
The loop of `update_pending_index_from_cursor` over the lines behind the cursor. A last line without its
newline ends it.
-/
def readPendingLines (maxActiveRows : Nat)
    : List (List UInt8) → Index → Except IoError Index
  | [], index => .ok index
  | raw :: rest, index => do
    let line ← .ofOption (TextFile.decode raw)
      { kind := .invalidData, message := "stream did not contain valid UTF-8" }
    if raw.getLast? ≠ some TextFile.newline then
      return { index with cursor.incompleteFinalLine := true }
    else
      let cursor := {
        index.cursor with
        lineNumber := index.cursor.lineNumber + 1
        offsetBytes := index.cursor.offsetBytes + raw.length }
      let trimmed := Text.trim line
      match pendingLine json trimmed with
      | .blank => readPendingLines maxActiveRows rest { index with cursor }
      | .malformed =>
        let malformedLineCount := saturatingSucc cursor.malformedLineCount
        readPendingLines maxActiveRows rest { index with cursor := { cursor with malformedLineCount } }
      | .ignored =>
        let ignoredRecordCount := saturatingSucc cursor.ignoredRecordCount
        readPendingLines maxActiveRows rest { index with cursor := { cursor with ignoredRecordCount } }
      | .queued queueId => do
        .require (index.rows.length < maxActiveRows) (capacityError maxActiveRows)
        let row := { sourceLine := cursor.lineNumber, queueId, rawJson := trimmed }
        readPendingLines maxActiveRows rest { rows := index.rows ++ [row], cursor }

-- `replace_existing` starts from no rows and from the cursor of an empty index
def updatePendingIndexFromCursor (maxActiveRows : Nat) (file : LedgerFile) (index : Index)
    : Except IoError Index := do
  .require (index.cursor.offsetBytes ≤ file.bytes.length) {
    kind := .invalidData
    message := s!"runtime pending index cursor {index.cursor.offsetBytes} exceeds source length {file.bytes.length}" }
  let raws := rawLines (file.bytes.drop index.cursor.offsetBytes)
  let read ← readPendingLines json maxActiveRows raws
    { index with cursor.incompleteFinalLine := false }
  return {
    read with
    cursor := {
      read.cursor with
      sourceLenBytes := file.bytes.length
      sourceModifiedAtUnixNanos := some file.modifiedAtUnixNanos
      processedHeadFingerprint :=
        pendingProcessedHeadFingerprint file.bytes read.cursor.offsetBytes
      processedTailFingerprint :=
        pendingProcessedTailFingerprint file.bytes read.cursor.offsetBytes } }

def rebuildPendingIndex (maxActiveRows : Nat) (file : LedgerFile) : Except IoError Index :=
  updatePendingIndexFromCursor json maxActiveRows file {}

def refreshPendingIndexLocked (maxActiveRows : Nat) (pending : Option LedgerFile) (index : Index)
    : Except IoError Index :=
  match pending with
  | none => if !index.cursor.isPristine || index.rows ≠ [] then .ok {} else .ok index
  | some file =>
    let cursor := index.cursor
    let sourceLen := file.bytes.length
    if sourceLen < cursor.sourceLenBytes || sourceLen < cursor.offsetBytes then
      rebuildPendingIndex json maxActiveRows file
    else if pendingProcessedHeadFingerprint file.bytes cursor.offsetBytes
          ≠ cursor.processedHeadFingerprint
        || pendingProcessedTailFingerprint file.bytes cursor.offsetBytes
          ≠ cursor.processedTailFingerprint then
      rebuildPendingIndex json maxActiveRows file
    else if sourceLen = cursor.sourceLenBytes then
      if some file.modifiedAtUnixNanos = cursor.sourceModifiedAtUnixNanos then
        .ok index
      else
        rebuildPendingIndex json maxActiveRows file
    else
      updatePendingIndexFromCursor json maxActiveRows file index

def readPendingValue (row : PendingRow) : Except IoError V :=
  match json.parse row.rawJson with
  | .ok value =>
    if json.isObject value then
      .ok value
    else
      .error {
        kind := .invalidData
        message := "runtime pending index contains a non-object queued row" }
  | .error _ =>
    .error {
      kind := .invalidData
      message := "runtime pending index contains invalid queued JSON" }

-- `read_pending_values` without a queue id
def readPendingValues (index : Index) : Except IoError (List V) :=
  index.rows.mapM (readPendingValue json)

/-
A call leaves the index behind that its refresh has committed, and a refresh that fails leaves the one
before.
-/
def withCurrentPendingIndex (pending : Option LedgerFile) (index : Index)
    (operation : Index → Outcome Index α)
    : Outcome Index α :=
  match refreshPendingIndexLocked json maxActiveRows pending index with
  | .error e => (index, .error e)
  | .ok index => operation index

def readQueuedPendingValuesFromIndex (pending : Option LedgerFile) (index : Index)
    : Outcome Index (List V) :=
  withCurrentPendingIndex json pending index fun index => (index, readPendingValues json index)

def pendingQueueIdExistsFromIndex (pending : Option LedgerFile) (index : Index) (queueId : String)
    : Outcome Index Bool :=
  if Text.trim queueId = "" then
    (index, .ok false)
  else
    withCurrentPendingIndex json pending index fun index =>
      (index, .ok (index.rows.any (·.queueId = queueId)))

def pruneTerminalQueueIdsFromPendingIndex (pending : Option LedgerFile) (index : Index)
    (terminalQueueIds : List String)
    : Outcome Index Nat :=
  let terminalQueueIds := terminalQueueIds.filter fun queueId => Text.trim queueId ≠ ""
  if terminalQueueIds = [] then
    (index, .ok 0)
  else
    withCurrentPendingIndex json pending index fun index =>
      let kept := index.rows.filter (·.queueId ∉ terminalQueueIds)
      ({ index with rows := kept }, .ok (index.rows.length - kept.length))

end PendingIndex

/-
The ledger and its index. `pruned` is there for the statements only: for each prune that went through, the
number of complete lines that the ledger had, and the ids.
-/
structure PendingQueue where
  pending : Option LedgerFile
  index : PendingIndex.Index
  pruned : List (Nat × List String)

inductive PendingAction where
  | append (bytes : List UInt8) (modifiedAtUnixNanos : Nat)
  | read
  | exists (queueId : String)
  | prune (terminalQueueIds : List String)

namespace PendingQueue

def start (pending : Option LedgerFile) : PendingQueue where
  pending
  index := {}
  pruned := []

def bytes (self : PendingQueue) : List UInt8 :=
  (self.pending.map (·.bytes)).getD []

def completeLines (bytes : List UInt8) : List (List UInt8) :=
  (rawLines bytes).filter (·.getLast? = some TextFile.newline)

variable {V : Type} (json : PendingJson V)

def read (self : PendingQueue) : Outcome PendingIndex.Index (List V) :=
  PendingIndex.readQueuedPendingValuesFromIndex json self.pending self.index

def queueIdExists (self : PendingQueue) (queueId : String) : Outcome PendingIndex.Index Bool :=
  PendingIndex.pendingQueueIdExistsFromIndex json self.pending self.index queueId

def prune (self : PendingQueue) (terminalQueueIds : List String)
    : Outcome PendingIndex.Index Nat :=
  PendingIndex.pruneTerminalQueueIdsFromPendingIndex json self.pending self.index terminalQueueIds

def append (self : PendingQueue) (bytes : List UInt8) (modifiedAtUnixNanos : Nat) : PendingQueue :=
  if bytes = [] then
    self
  else
    { self with pending := some { bytes := self.bytes ++ bytes, modifiedAtUnixNanos } }

def step (self : PendingQueue) (action : PendingAction) : PendingQueue :=
  match action with
  | .append bytes modifiedAtUnixNanos => self.append bytes modifiedAtUnixNanos
  | .read => { self with index := (self.read json).1 }
  | .exists queueId => { self with index := (self.queueIdExists json queueId).1 }
  | .prune terminalQueueIds =>
    let outcome := self.prune json terminalQueueIds
    match outcome.2 with
    | .error _ => { self with index := outcome.1 }
    | .ok _ => {
      self with
      index := outcome.1
      pruned := self.pruned ++ [((completeLines self.bytes).length, terminalQueueIds)] }

/-
What the index stands for, read off the whole ledger: its complete lines with their numbers that are
queued, without those whose id was pruned when they were there.
-/
def queuedRows (lineNumber : Nat) (raws : List (List UInt8)) : List PendingIndex.PendingRow :=
  match raws with
  | [] => []
  | raw :: rest =>
    let rows := queuedRows (lineNumber + 1) rest
    match TextFile.decode raw with
    | none => rows
    | some line =>
      match PendingIndex.pendingLine json (Text.trim line) with
      | .queued queueId =>
        { sourceLine := lineNumber + 1, queueId, rawJson := Text.trim line } :: rows
      | _ => rows

def isPruned (pruned : List (Nat × List String)) (row : PendingIndex.PendingRow) : Bool :=
  pruned.any fun (lines, ids) => row.sourceLine ≤ lines && row.queueId ∈ ids

def expectedRows (self : PendingQueue) : List PendingIndex.PendingRow :=
  (queuedRows json 0 (completeLines self.bytes)).filter fun row => !isPruned self.pruned row

end PendingQueue

end RuntimeQueue
