import AgentHarness.AgentProgress.Basic
import AgentHarness.ChannelDelivery.Basic
import AgentHarness.Lib.RowNumber
import AgentHarness.Lib.Run

/-!
The index beside `progress-events.jsonl`: the recent events of each queue.
-/

namespace AgentProgress

open ChannelDelivery (LedgerFile LedgerCursor LedgerRefreshMode ledgerRefreshMode rawLines)
open RowNumber (rowNumber newer older)

structure ProgressEventLedgerCursor extends LedgerCursor where
  projectionGeneration : Nat := 0

-- a row of `progress_event_index_lines`; no row is ever written with a parse error
structure ProgressEventRow where
  lineNumber : Nat
  queueId : String
  eventId : Option String
  isTerminal : Bool
  eventJson : String
  deriving DecidableEq

-- the rows in the order of their primary key, the line number
structure ProgressEventIndex where
  rows : List ProgressEventRow := []
  cursor : Option ProgressEventLedgerCursor := none
  totalLines : Nat := 0
  validLines : Nat := 0
  invalidLines : Nat := 0

structure RetentionLimits where
  eventsPerQueue : Nat
  maxOpenQueues : Nat
  maxTerminalQueues : Nat
  deriving DecidableEq

def progressEventIndexLimits : RetentionLimits where
  eventsPerQueue := 32
  maxOpenQueues := 4096
  maxTerminalQueues := 1024

namespace ProgressEventIndex

def partition (rows : List ProgressEventRow) (queueId : String) : List ProgressEventRow :=
  rows.filter (·.queueId = queueId)

-- `GROUP BY queue_id`
def queueIds (rows : List ProgressEventRow) : List String :=
  (rows.map (·.queueId)).dedup

-- `MAX(is_terminal)`
def closed (rows : List ProgressEventRow) (queueId : String) : Bool :=
  (partition rows queueId).any (·.isTerminal)

-- `MAX(line_number)`
def latestLine (rows : List ProgressEventRow) (queueId : String) : Nat :=
  ((partition rows queueId).map (·.lineNumber)).foldl max 0

def openQueues (rows : List ProgressEventRow) : List String :=
  (queueIds rows).filter fun queueId => !closed rows queueId

def terminalQueues (rows : List ProgressEventRow) : List String :=
  (queueIds rows).filter (closed rows)

-- `ORDER BY latest_line DESC, queue_id ASC`
def queueBefore (rows : List ProgressEventRow) (other queueId : String) : Bool :=
  latestLine rows queueId < latestLine rows other
    || (latestLine rows queueId = latestLine rows other && other < queueId)

def queueRank (rows : List ProgressEventRow) (queueId : String) : Nat :=
  rowNumber (queueBefore rows) (terminalQueues rows) queueId

def recentRank (rows : List ProgressEventRow) (row : ProgressEventRow) : Nat :=
  rowNumber (newer (·.lineNumber)) (partition rows row.queueId) row

def firstRank (rows : List ProgressEventRow) (row : ProgressEventRow) : Nat :=
  rowNumber (older (·.lineNumber)) (partition rows row.queueId) row

-- `ORDER BY CASE WHEN is_terminal = 1 THEN 0 ELSE 1 END, line_number DESC`
def terminalBefore (other row : ProgressEventRow) : Bool :=
  (other.isTerminal && !row.isTerminal)
    || (other.isTerminal = row.isTerminal && row.lineNumber < other.lineNumber)

def terminalRank (rows : List ProgressEventRow) (row : ProgressEventRow) : Nat :=
  rowNumber terminalBefore (partition rows row.queueId) row

def evicted (limits : RetentionLimits) (rows : List ProgressEventRow) (queueId : String) : Bool :=
  queueId ∈ terminalQueues rows && limits.maxTerminalQueues < queueRank rows queueId

def retained (limits : RetentionLimits) (rows : List ProgressEventRow) (row : ProgressEventRow)
    : Bool :=
  !(evicted limits rows row.queueId
    || (limits.eventsPerQueue < recentRank rows row
      && 1 < firstRank rows row
      && !(row.isTerminal && terminalRank rows row = 1)))

def liveCapacityError (limits : RetentionLimits) (openQueues : Nat) : IoError where
  kind := .wouldBlock
  message := "progress event index live-queue capacity reached: " ++ toString openQueues
    ++ " open queues exceeds configured limit " ++ toString limits.maxOpenQueues
    ++ "; refusing to evict live progress state"

def retainBoundedProgressEventPayloads (limits : RetentionLimits) (rows : List ProgressEventRow)
    : Except IoError (List ProgressEventRow) :=
  let openQueues := (openQueues rows).length
  if limits.maxOpenQueues < openQueues then
    .error (liveCapacityError limits openQueues)
  else
    .ok (rows.filter (retained limits rows))

structure Read where
  rows : List ProgressEventRow
  offsetBytes : Nat
  lineNumber : Nat
  total : Nat
  valid : Nat
  invalid : Nat

variable (json : ProgressJson)

def lineEvent (trimmed : String) : Option AgentProgressEvent :=
  if trimmed = "" then
    none
  else
    match json.event trimmed with
    | .error _ => none
    | .ok event => if Text.trim event.queueId = "" then none else some event

def insertProgressEvent (lineNumber : Nat) (eventJson : String) (event : AgentProgressEvent)
    : ProgressEventRow where
  lineNumber
  queueId := event.queueId
  eventId := event.eventId
  isTerminal := progressEventIsTerminal event
  eventJson

/-
The lines behind the cursor. A last line that has no newline yet is left for the next refresh, unless it
is an event already.
-/
def readProgressEvents (offsetBytes lineNumber : Nat) : List (List UInt8) → Except IoError Read
  | [] => .ok { rows := [], offsetBytes, lineNumber, total := 0, valid := 0, invalid := 0 }
  | raw :: rest => do
    let line ← .ofOption (TextFile.decode raw)
      { kind := .invalidData, message := "stream did not contain valid UTF-8" }
    let completeLine : Bool := raw.getLast? = some TextFile.newline
    let trimmed := Text.trim line
    if !completeLine && trimmed ≠ "" && !(json.event trimmed).toBool then
      return { rows := [], offsetBytes, lineNumber, total := 0, valid := 0, invalid := 0 }
    else
      let read ← readProgressEvents (offsetBytes + raw.length) (lineNumber + 1) rest
      return match lineEvent json trimmed with
        | none => { read with total := read.total + 1, invalid := read.invalid + 1 }
        | some event => {
          read with
          rows := insertProgressEvent (lineNumber + 1) trimmed event :: read.rows
          total := read.total + 1
          valid := read.valid + 1 }

-- the transaction on the rows that a refresh has before it commits, without the retention
def readProgressEventsFromCursor (self : ProgressEventIndex) (file : LedgerFile)
    (cursor : ProgressEventLedgerCursor)
    : Except IoError ProgressEventIndex := do
  let startOffset := min cursor.offsetBytes file.bytes.length
  let lineNumber := if cursor.offsetBytes > file.bytes.length then 0 else cursor.lineNumber
  let read ← readProgressEvents json startOffset lineNumber (rawLines (file.bytes.drop startOffset))
  return {
    rows := self.rows ++ read.rows
    cursor := some {
      ChannelDelivery.cursorFromProcessedLedger file read.offsetBytes read.lineNumber with
      projectionGeneration := cursor.projectionGeneration }
    totalLines := self.totalLines + read.total
    validLines := self.validLines + read.valid
    invalidLines := self.invalidLines + read.invalid }

def nextProjectionGeneration (self : ProgressEventIndex) : Nat :=
  match self.cursor with
  | some cursor => max (cursor.projectionGeneration + 1) 1
  | none => 1

def progressEventRefreshMode (file : LedgerFile) (cursor : Option ProgressEventLedgerCursor)
    : LedgerRefreshMode :=
  ledgerRefreshMode "progress event ledger" file (cursor.map (·.toLedgerCursor))

def resetProgressEventIndex (self : ProgressEventIndex) : ProgressEventIndex where
  cursor := some { projectionGeneration := self.nextProjectionGeneration }

def projectionGeneration (self : ProgressEventIndex) : Nat :=
  (self.cursor.map (·.projectionGeneration)).getD 0

-- what a refresh brings together, before it bounds the rows
def gather (self : ProgressEventIndex) (file : LedgerFile)
    : Except IoError ProgressEventIndex :=
  match progressEventRefreshMode file self.cursor with
  | .current => .ok self
  | .append cursor =>
    let cursor := {
      toLedgerCursor := cursor
      projectionGeneration := self.projectionGeneration }
    self.readProgressEventsFromCursor json file cursor
  | .rebuild _ =>
    let cursor := { projectionGeneration := self.nextProjectionGeneration }
    readProgressEventsFromCursor json {} file cursor

/-
`refresh_progress_event_index_locked`: what was gathered is committed with the rows that are retained, and
nothing is committed when there are too many open queues.
-/
def refreshProgressEventIndexLocked (limits : RetentionLimits) (self : ProgressEventIndex)
    (events : Option LedgerFile)
    : Except IoError ProgressEventIndex :=
  match events with
  | none =>
    if self.cursor.isSome || self.rows ≠ [] then .ok self.resetProgressEventIndex else .ok self
  | some file =>
    match progressEventRefreshMode file self.cursor with
    | .current => .ok self
    | _ => do
      let gathered ← self.gather json file
      let rows ← retainBoundedProgressEventPayloads limits gathered.rows
      return { gathered with rows }

end ProgressEventIndex

end AgentProgress

/-!
The progress ledger with its index: lines are appended to the one, and the other is refreshed from it.
-/

namespace AgentProgress

open ChannelDelivery (LedgerFile rawLines)

structure ProgressStore where
  events : Option LedgerFile := none
  index : ProgressEventIndex := {}

inductive ProgressAction where
  | append (bytes : List UInt8) (modifiedAtUnixNanos : Nat)
  | refresh (limits : RetentionLimits)
  deriving DecidableEq

namespace ProgressStore

variable (json : ProgressJson)

def bytes (self : ProgressStore) : List UInt8 :=
  (self.events.map (·.bytes)).getD []

def append (self : ProgressStore) (bytes : List UInt8) (modifiedAtUnixNanos : Nat)
    : ProgressStore :=
  if bytes = [] then
    self
  else
    { self with events := some { bytes := self.bytes ++ bytes, modifiedAtUnixNanos } }

def refresh (self : ProgressStore) (limits : RetentionLimits) : Except IoError ProgressEventIndex :=
  self.index.refreshProgressEventIndexLocked json limits self.events

def step (self : ProgressStore) (action : ProgressAction) : ProgressStore :=
  match action with
  | .append bytes modifiedAtUnixNanos => self.append bytes modifiedAtUnixNanos
  | .refresh limits =>
    match self.refresh json limits with
    | .error _ => self
    | .ok index => { self with index }

end ProgressStore

namespace ProgressEventIndex

variable (json : ProgressJson)

def eventRows (lineNumber : Nat) (raws : List (List UInt8)) : List ProgressEventRow :=
  match raws with
  | [] => []
  | raw :: rest =>
    let rows := eventRows (lineNumber + 1) rest
    match TextFile.decode raw with
    | none => rows
    | some line =>
      match lineEvent json (Text.trim line) with
      | none => rows
      | some event => insertProgressEvent (lineNumber + 1) (Text.trim line) event :: rows

end ProgressEventIndex

def ProgressStore.ledgerRows (json : ProgressJson) (self : ProgressStore)
    : List ProgressEventRow :=
  ProgressEventIndex.eventRows json 0 (rawLines self.bytes)

end AgentProgress
