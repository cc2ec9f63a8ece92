import AgentHarness.RuntimeQueue.Prepare

/-!
The file `queue-state-index.json`: the receipts of `run-once-receipts.jsonl` folded into one entry for
each queue, with a cursor that says how far the fold has come. Refreshes read the index, check the
cursor, read the tail of the ledger and write the index back without a lock; rebuilds, appends and
compactions hold the append lock of the ledger.
-/

namespace RuntimeQueue

namespace StateIndex

-- the fields of a receipt beside its queue, status and schema
structure ReceiptFields where
  reason : Option String
  occurredAtMs : Option Int
  runtimeClass : Option String
  origin : Option String
  transcriptFile : Option String
  retrySchedule : Option RuntimeRetrySchedule
  sourceClosureKind : Option String
  sourceClosureReason : Option String
  terminalControlSource : Option String
  terminalDisposition : Option String
  continuationLink : Option String
  deriving DecidableEq

structure LedgerLine where
  line : Line
  fields : ReceiptFields
  deriving DecidableEq

def LedgerLine.bytes (self : LedgerLine) : Nat :=
  match self.line with
  | .blank => 1
  | .malformed text _ => (Text.utf8Bytes text).length + 1
  | .value text _ _ => (Text.utf8Bytes text).length + 1

def ledgerBytes (lines : List LedgerLine) : Nat :=
  (lines.map LedgerLine.bytes).sum

structure Entry where
  terminalEver : Bool
  terminalRunOnceEver : Bool
  suppressionRecorded : Bool
  parked : Bool
  latestStatus : Option String
  latestReason : Option String
  latestOccurredAtMs : Option Int
  latestRuntimeClass : Option String
  latestOrigin : Option String
  latestTranscriptFile : Option String
  runOnceStatusCounts : List (String × Nat)
  terminalStatus : Option String
  terminalReason : Option String
  terminalControlSource : Option String
  terminalRuntimeClass : Option String
  terminalOrigin : Option String
  terminalTranscriptFile : Option String
  terminalOccurredAtMs : Option Int
  terminalDisposition : Option String
  terminalSourceClosureKind : Option String
  terminalSourceClosureReason : Option String
  continuationLink : Option String
  retrySchedule : Option RuntimeRetrySchedule

namespace Entry

def empty : Entry where
  terminalEver := false
  terminalRunOnceEver := false
  suppressionRecorded := false
  parked := false
  latestStatus := none
  latestReason := none
  latestOccurredAtMs := none
  latestRuntimeClass := none
  latestOrigin := none
  latestTranscriptFile := none
  runOnceStatusCounts := []
  terminalStatus := none
  terminalReason := none
  terminalControlSource := none
  terminalRuntimeClass := none
  terminalOrigin := none
  terminalTranscriptFile := none
  terminalOccurredAtMs := none
  terminalDisposition := none
  terminalSourceClosureKind := none
  terminalSourceClosureReason := none
  continuationLink := none
  retrySchedule := none

def countStatus (status : String) : List (String × Nat) → List (String × Nat)
  | [] => [(status, 1)]
  | (other, count) :: counts =>
    if other = status then
      (other, saturatingSucc count) :: counts
    else
      (other, count) :: countStatus status counts

-- the part that every indexed receipt changes
def applyLatest (entry : Entry) (status : String) (fields : ReceiptFields) : Entry :=
  { entry with
    latestStatus := some status
    latestReason := fields.reason
    latestOccurredAtMs := fields.occurredAtMs
    latestRuntimeClass := fields.runtimeClass
    latestOrigin := fields.origin
    latestTranscriptFile := fields.transcriptFile
    retrySchedule := fields.retrySchedule
    runOnceStatusCounts := countStatus status entry.runOnceStatusCounts
    parked :=
      if status = "needs-user" then
        true
      else if status = "no-work" || status = "lease-busy" then
        entry.parked
      else
        false
    terminalSourceClosureKind :=
      if status = "needs-user" then fields.sourceClosureKind else entry.terminalSourceClosureKind
    terminalSourceClosureReason :=
      if status = "needs-user" then
        fields.sourceClosureReason
      else
        entry.terminalSourceClosureReason
    terminalRunOnceEver := entry.terminalRunOnceEver || isTerminalRunOnceStatus status }

def applyTerminal (entry : Entry) (status : String) (fields : ReceiptFields) : Entry :=
  { entry with
    terminalEver := true
    terminalStatus := some status
    terminalReason := fields.reason
    terminalRuntimeClass := fields.runtimeClass
    terminalOrigin := fields.origin
    terminalTranscriptFile := fields.transcriptFile
    terminalOccurredAtMs := fields.occurredAtMs
    terminalDisposition := fields.terminalDisposition
    terminalSourceClosureKind := fields.sourceClosureKind
    terminalSourceClosureReason := fields.sourceClosureReason
    continuationLink := fields.continuationLink
    terminalControlSource :=
      entry.terminalControlSource.or (some TerminalControlSource.runOnceTerminal.asStr) }

def applySuppressed (entry : Entry) (fields : ReceiptFields) : Entry :=
  { entry with
    suppressionRecorded := true
    terminalControlSource := fields.terminalControlSource.or entry.terminalControlSource }

def apply (entry : Entry) (status : String) (fields : ReceiptFields) : Entry :=
  let entry := entry.applyLatest status fields
  if status = "suppressed" then
    entry.applySuppressed fields
  else if isTerminalRunOnceStatus status then
    entry.applyTerminal status fields
  else
    entry

end Entry

abbrev Entries := FMap String Entry

def LedgerLine.indexed (self : LedgerLine) : Option (String × String) :=
  match self.line.record with
  | none => none
  | some record =>
    if isTrustedRuntimeRunOnceReceipt record then
      record.queueId.bind fun queueId => record.status.map fun status => (queueId, status)
    else
      none

def applyRuntimeQueueReceiptToIndex (entries : Entries) (line : LedgerLine) : Entries :=
  match line.indexed with
  | none => entries
  | some (queueId, status) =>
    entries.insert queueId (((entries.lookup queueId).getD .empty).apply status line.fields)

def foldLedger (lines : List LedgerLine) : Entries :=
  lines.foldl applyRuntimeQueueReceiptToIndex ∅

structure LedgerFile where
  lines : List LedgerLine
  modified : Nat

/-
`prefixTail` is the fingerprint of the bytes before the offset, as the lines that it stands for.
-/
structure Cursor where
  offsetBytes : Nat
  lineNumber : Nat
  modified : Option Nat
  prefixTail : Option (List LedgerLine)
  deriving DecidableEq

def Cursor.start : Cursor where
  offsetBytes := 0
  lineNumber := 0
  modified := none
  prefixTail := none

structure Index where
  entries : Entries
  cursor : Cursor

-- the lines after an offset; `cut` is what is left of a line that the offset falls into
def tailFrom (cut : LedgerLine → Nat → LedgerLine) (offset : Nat)
    : List LedgerLine → List LedgerLine
  | [] => []
  | line :: lines =>
    if line.bytes ≤ offset then
      tailFrom cut (offset - line.bytes) lines
    else if offset = 0 then
      line :: lines
    else
      cut line offset :: lines

def prefixTailFingerprint (lines : List LedgerLine) : Option (List LedgerLine) :=
  if ledgerBytes lines = 0 then none else some lines

def prefixTailMatches (lines : List LedgerLine) (cursor : Cursor) : Bool :=
  if cursor.offsetBytes = 0 then
    cursor.prefixTail.isNone
  else
    cursor.prefixTail.any fun before =>
      before.isPrefixOf lines && ledgerBytes before = cursor.offsetBytes

section Read

variable (cut : LedgerLine → Nat → LedgerLine)

-- an offset behind the end of the file is clamped to the end
def readRuntimeQueueReceiptsFromCursor (file : LedgerFile) (index : Index) : Index :=
  let tail := tailFrom cut index.cursor.offsetBytes file.lines
  let lineNumber :=
    if ledgerBytes file.lines < index.cursor.offsetBytes then 0 else index.cursor.lineNumber
  { entries := tail.foldl applyRuntimeQueueReceiptToIndex index.entries
    cursor := {
      offsetBytes := ledgerBytes file.lines
      lineNumber := lineNumber + tail.length
      modified := some file.modified
      prefixTail := prefixTailFingerprint file.lines } }

-- `rebuild_runtime_queue_state_index_locked`, up to its write
def rebuildRuntimeQueueStateIndex (ledger : Option LedgerFile) : Index :=
  let index := { entries := ∅, cursor := .start }
  match ledger with
  | none => index
  | some file => readRuntimeQueueReceiptsFromCursor cut file index

end Read

inductive CursorCheck where
  | current
  | behind
  | rebuild

def checkCursor (file : LedgerFile) (cursor : Cursor) : CursorCheck :=
  let len := ledgerBytes file.lines
  if cursor.modified.isNone || (0 < cursor.offsetBytes && cursor.prefixTail.isNone) then
    .rebuild
  else if len < cursor.offsetBytes then
    .rebuild
  else if len = cursor.offsetBytes then
    if some file.modified = cursor.modified && prefixTailMatches file.lines cursor then
      .current
    else
      .rebuild
  else if prefixTailMatches file.lines cursor then
    .behind
  else
    .rebuild

def Index.isBlank (self : Index) : Bool :=
  self.cursor.offsetBytes = 0
    && self.cursor.lineNumber = 0
    && self.cursor.modified.isNone
    && self.entries.keys.isEmpty

structure Suppression where
  queueId : String
  runtimeClass : Option String
  origin : Option String
  control : QueueTerminalControlMatch
  -- the receipt, serialized
  text : String

namespace Suppression

def receipt (self : Suppression) : LedgerLine where
  line := .value self.text self.text {
    queueId := some self.queueId
    status := some "suppressed"
    schema := .text runtimeRunOnceReceiptSchema
    compact := self.text }
  fields := {
    reason := some ("runtime queue item suppressed because terminal control is present: "
      ++ self.control.source.asStr ++ ": " ++ self.control.reason)
    occurredAtMs := none
    runtimeClass := self.runtimeClass
    origin := self.origin
    transcriptFile := none
    retrySchedule := none
    sourceClosureKind := none
    sourceClosureReason := none
    terminalControlSource := some self.control.source.asStr
    terminalDisposition := none
    continuationLink := none }

-- what `record_terminal_control_suppression` changes in the index it has in memory
def mark (self : Suppression) (entry : Entry) : Entry :=
  { entry with
    suppressionRecorded := true
    terminalRunOnceEver := true
    latestStatus := some "suppressed"
    terminalControlSource := some self.control.source.asStr }

def markEntries (self : Suppression) (entries : Entries) : Entries :=
  entries.insert self.queueId (self.mark ((entries.lookup self.queueId).getD .empty))

def isRecorded (self : Suppression) (entries : Entries) : Bool :=
  (entries.lookup self.queueId).any (·.suppressionRecorded)

end Suppression

inductive Task where
  | refresh (blocking : Bool)
  | suppress (suppression : Suppression)

def Task.blocking (self : Task) : Bool :=
  match self with
  | .refresh blocking => blocking
  | .suppress _ => true

/-
Where a process is. From `measuring` on a compaction holds the append locks, and so does a rebuild
between its read and its write.
-/
inductive Phase where
  | idle
  | recovering (task : Task)
  | reading (task : Task)
  | checking (task : Task) (index : Index)
  | tailing (task : Task) (index : Index)
  | saving (task : Task) (index : Index)
  | rebuilding (task : Task) (cached : Option Index)
  | rebuilt (task : Task) (index : Index)
  | refreshed (task : Task) (index : Index)
  | appended (index : Index)
  | finished (result : Option Index)
  | locking (maxBytes : Nat)
  | measuring (maxBytes : Nat)
  | compacting (index : Index)
  | snapshotting
  | removing (snapshot : List LedgerLine)
  | replacing (snapshot : List LedgerLine)
  | unmarking
  | rereading
  | rewriting (index : Index)

def Phase.isBusy (self : Phase) : Bool :=
  match self with
  | .idle => false
  | .finished _ => false
  | _ => true

/-
`modified` is the modification time of the next change of the ledger: no two changes share one.
-/
structure System where
  ledger : Option LedgerFile
  pending : List Line
  marker : Bool
  index : Option Index
  modified : Nat
  lock : Option Nat
  phase : Nat → Phase

inductive Action where
  | append (line : LedgerLine)
  | appendPending (line : Line)
  | begin (i : Nat) (task : Task)
  | compact (i : Nat) (maxBytes : Nat)
  | step (i : Nat)

namespace System

variable (cut : LedgerLine → Nat → LedgerLine)

def goto (s : System) (i : Nat) (phase : Phase) : System :=
  { s with phase := fun j => if j = i then phase else s.phase j }

def lines (s : System) : List LedgerLine :=
  (s.ledger.map (·.lines)).getD []

def writeLedger (s : System) (lines : List LedgerLine) : System :=
  { s with ledger := some { lines, modified := s.modified }, modified := s.modified + 1 }

def appendJsonLine (s : System) (line : LedgerLine) : System :=
  s.writeLedger (s.lines ++ [line])

def afterMarker (s : System) (i : Nat) (task : Task) (cached : Option Index) : System :=
  if task.blocking then
    s.goto i (.recovering task)
  else if s.lock.isSome then
    s.goto i (.finished cached)
  else
    s.goto i (.reading task)

def check (s : System) (i : Nat) (task : Task) (index : Index) : System :=
  if s.marker then
    s.afterMarker i task (some index)
  else
    match s.ledger with
    | none =>
      if index.isBlank then
        s.goto i (.refreshed task index)
      else
        s.goto i (.rebuilding task (some index))
    | some file =>
      match checkCursor file index.cursor with
      | .current => s.goto i (.refreshed task index)
      | .behind => s.goto i (.tailing task index)
      | .rebuild => s.goto i (.rebuilding task (some index))

def tail (s : System) (i : Nat) (task : Task) (index : Index) : System :=
  match s.ledger with
  | none =>
    if s.marker then s.afterMarker i task (some index) else s.goto i (.finished none)
  | some file =>
    let refreshed := readRuntimeQueueReceiptsFromCursor cut file index
    if refreshed.cursor = index.cursor then
      s.goto i (.refreshed task refreshed)
    else
      s.goto i (.saving task refreshed)

def rebuild (s : System) (i : Nat) (task : Task) (cached : Option Index) : System :=
  if s.lock.isSome then
    if task.blocking then s else s.goto i (.finished cached)
  else
    { s with lock := some i }.goto i (.rebuilt task (rebuildRuntimeQueueStateIndex cut s.ledger))

def finishTask (s : System) (i : Nat) (task : Task) (index : Index) : System :=
  match task with
  | .refresh _ => s.goto i (.finished (some index))
  | .suppress suppression =>
    if suppression.isRecorded index.entries then
      s.goto i (.finished (some index))
    else if s.lock.isSome then
      s
    else
      let marked := { index with entries := suppression.markEntries index.entries }
      (s.appendJsonLine suppression.receipt).goto i (.appended marked)

def receiptSnapshot (retained : List String) (lines : List LedgerLine) : List LedgerLine :=
  (lines.filter fun line => receiptKeeps retained line.line).map fun line =>
    { line with line := line.line.keepCompact }

def snapshot (s : System) (i : Nat) : System :=
  let receipts := s.lines.map (·.line)
  let kept := receiptSnapshot (retainedQueueIds receipts s.pending) s.lines
  let s := { s with pending := runtimeQueuePendingSnapshot receipts s.pending }
  if kept = s.lines then
    { s with lock := none }.goto i .idle
  else
    { s with marker := true }.goto i (.removing kept)

def measure (s : System) (i : Nat) (maxBytes : Nat) : System :=
  if s.ledger.any fun file => max maxBytes 1 < ledgerBytes file.lines then
    s.goto i (.compacting (rebuildRuntimeQueueStateIndex cut s.ledger))
  else
    { s with lock := none }.goto i .idle

def stepProcess (s : System) (i : Nat) : System :=
  match s.phase i with
  | .idle => s
  | .recovering task => if s.marker && s.lock.isSome then s else s.goto i (.reading task)
  | .reading task =>
    match s.index with
    | none => s.goto i (.rebuilding task none)
    | some index => s.goto i (.checking task index)
  | .checking task index => s.check i task index
  | .tailing task index => s.tail cut i task index
  | .saving task index => { s with index := some index }.goto i (.refreshed task index)
  | .rebuilding task cached => s.rebuild cut i task cached
  | .rebuilt task index =>
    { s with index := some index, lock := none }.goto i (.refreshed task index)
  | .refreshed task index => s.finishTask i task index
  | .appended index => { s with index := some index }.goto i (.finished (some index))
  | .finished _ => s
  | .locking maxBytes =>
    if s.lock.isSome then s else { s with lock := some i }.goto i (.measuring maxBytes)
  | .measuring maxBytes => s.measure cut i maxBytes
  | .compacting index => { s with index := some index }.goto i .snapshotting
  | .snapshotting => s.snapshot i
  | .removing kept => { s with ledger := none }.goto i (.replacing kept)
  | .replacing kept => (s.writeLedger kept).goto i .unmarking
  | .unmarking => { s with marker := false }.goto i .rereading
  | .rereading => s.goto i (.rewriting (rebuildRuntimeQueueStateIndex cut s.ledger))
  | .rewriting index => { s with index := some index, lock := none }.goto i .idle

def step (s : System) (action : Action) : System :=
  match action with
  | .append line => if s.lock.isSome then s else s.appendJsonLine line
  | .appendPending line =>
    if s.lock.isSome then s else { s with pending := s.pending ++ [line] }
  | .begin i task =>
    if (s.phase i).isBusy then
      s
    else
      s.goto i (if task.blocking then .recovering task else .reading task)
  | .compact i maxBytes => if (s.phase i).isBusy then s else s.goto i (.locking maxBytes)
  | .step i => s.stepProcess cut i

def start (ledger : Option (List LedgerLine)) (pending : List Line) : System where
  ledger := ledger.map fun lines => { lines, modified := 0 }
  pending
  marker := false
  index := none
  modified := 1
  lock := none
  phase _ := .idle

def isQuiet (s : System) : Prop :=
  ∀ i, (s.phase i).isBusy = false

end System

def Index.IsAhead (self : Index) : Prop :=
  ∃ queueId entry, self.entries.lookup queueId = some entry
    ∧ entry.suppressionRecorded
    ∧ entry.runOnceStatusCounts.lookup "suppressed" = none

def Phase.held (self : Phase) : Option Index :=
  match self with
  | .checking _ index | .tailing _ index | .saving _ index | .rebuilt _ index => some index
  | .refreshed _ index | .appended index | .compacting index | .rewriting index => some index
  | _ => none

/-
A refresh reads the tail of a ledger that still begins with what its cursor has behind it, and a
compaction removes the ledger at a time when no index is ahead of its cursor.
-/
def cursorsAreCurrent (s : System) (action : Action) : Prop :=
  match action with
  | .step i =>
    match s.phase i with
    | .tailing _ index => ∀ file, s.ledger = some file → prefixTailMatches file.lines index.cursor
    | .removing _ =>
      ∀ index, (s.index = some index ∨ ∃ j, (s.phase j).held = some index) → ¬ index.IsAhead
    | _ => True
  | _ => True

def refreshOnce (i : Nat) : List Action :=
  .begin i (.refresh true) :: List.replicate 6 (.step i)

end StateIndex

end RuntimeQueue
