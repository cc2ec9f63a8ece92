import AgentHarness.AgentProgress.EventIndex
import AgentHarness.Lib.Script

/-!
The cold history of the ended progress queues. A compaction moves whole queues from the hot ledger to a
SQLite store; it and its recovery are scripts of durable steps, any of which can be the last one before a
crash.
-/

namespace AgentProgress

open ChannelDelivery (LedgerFile rawLines)

-- the JSON library, as far as the history needs it
structure HistoryJson extends ProgressJson where
  -- `serde_json::from_slice::<AgentProgressEvent>`
  eventOfSlice : List UInt8 → Except String AgentProgressEvent
  -- `serde_json::to_string`
  render : AgentProgressEvent → String

-- `u8::is_ascii_whitespace`
def isAsciiWhitespace (byte : UInt8) : Bool :=
  byte = 0x20 || byte = 0x09 || byte = 0x0a || byte = 0x0c || byte = 0x0d

def trimAsciiWhitespace (bytes : List UInt8) : List UInt8 :=
  ((bytes.dropWhile isAsciiWhitespace).reverse.dropWhile isAsciiWhitespace).reverse

inductive HotLine where
  | blank
  | queueEvent (event : AgentProgressEvent)
  | unclassified

def canonicalV2 (event : AgentProgressEvent) : Bool :=
  event.schema = agentProgressEventSchema && (validProgressEventId event.eventId).isSome

namespace HotLine

def queueId (self : HotLine) : Option String :=
  match self with
  | .queueEvent event => some event.queueId
  | _ => none

def unstable (self : HotLine) : Bool :=
  match self with
  | .blank => false
  | .queueEvent event => !canonicalV2 event
  | .unclassified => true

end HotLine

structure QueueEventLine where
  lineNumber : Nat
  event : AgentProgressEvent
  canonicalV2 : Bool
  rawBytes : Nat

structure HotProgressLine where
  raw : List UInt8
  queueId : Option String

-- `events` are those of all queues, in the order of their lines
structure HotProgressScan where
  original : List UInt8
  lines : List HotProgressLine
  events : List QueueEventLine
  lastUnstableLine : Nat

section Scan

variable (json : HistoryJson)

def hotLine (raw : List UInt8) : HotLine :=
  let trimmed := trimAsciiWhitespace raw
  if trimmed = [] then
    .blank
  else
    match json.eventOfSlice trimmed with
    | .ok event => if Text.trim event.queueId ≠ "" then .queueEvent event else .unclassified
    | .error _ => .unclassified

def queueEventLine (raw : List UInt8) (lineNumber : Nat) : Option QueueEventLine :=
  match hotLine json raw with
  | .queueEvent event =>
    some { lineNumber, event, canonicalV2 := canonicalV2 event, rawBytes := raw.length }
  | _ => none

def scanHotProgressEvents (original : List UInt8) : HotProgressScan :=
  let raws := rawLines original
  let unstable := (raws.zipIdx 1).filter fun line => (hotLine json line.1).unstable
  { original
    lines := raws.map fun raw => { raw, queueId := (hotLine json raw).queueId }
    events := (raws.zipIdx 1).filterMap fun line => queueEventLine json line.1 line.2
    lastUnstableLine := (unstable.map (·.2)).foldl max 0 }

end Scan

structure CompactableQueue where
  queueId : String
  lastLine : Nat
  bytes : Nat
  events : List QueueEventLine

structure HistoryCompactionPolicy where
  maxHotBytes : Nat
  maxTerminalQueues : Nat

namespace HotProgressScan

variable (self : HotProgressScan) (deliveredTerminalEvents : List (String × String))

def queueIds : List String :=
  ((self.events.map (·.event.queueId)).dedup).insertionSort Text.le

def queueEvents (queueId : String) : List QueueEventLine :=
  self.events.filter fun entry => entry.event.queueId = queueId

/-
A queue can be moved when all its lines are behind the last one that only its number identifies, and its
last event ends it and was delivered.
-/
def compactableQueue (queueId : String) : Option CompactableQueue :=
  let events := self.queueEvents queueId
  match events.getLast? with
  | none => none
  | some last =>
    if !events.all (·.canonicalV2) then
      none
    else if events.any (fun entry => entry.lineNumber ≤ self.lastUnstableLine) then
      none
    else if !isTerminalEvent last.event then
      none
    else
      match validProgressEventId last.event.eventId with
      | none => none
      | some eventId =>
        if (queueId, eventId) ∈ deliveredTerminalEvents then
          some {
            queueId
            lastLine := last.lineNumber
            bytes := (events.map (·.rawBytes)).sum
            events }
        else
          none

def candidates : List CompactableQueue :=
  (self.queueIds.filterMap (self.compactableQueue deliveredTerminalEvents)).insertionSort
    fun left right => left.lastLine ≤ right.lastLine

def selectForBytes (maxHotBytes projectedHotBytes : Nat) : List CompactableQueue → List CompactableQueue
  | [] => []
  | candidate :: rest =>
    if projectedHotBytes ≤ maxHotBytes then
      []
    else
      candidate :: selectForBytes maxHotBytes (projectedHotBytes - candidate.bytes) rest

def selectedQueueIds (policy : HistoryCompactionPolicy) : List String :=
  let candidates := self.candidates deliveredTerminalEvents
  let retainRecent := min policy.maxTerminalQueues candidates.length
  let immediatelyCompactable := candidates.length - retainRecent
  let immediate := candidates.take immediatelyCompactable
  let projectedHotBytes := immediate.foldl (fun bytes candidate => bytes - candidate.bytes)
    self.original.length
  let more := selectForBytes policy.maxHotBytes projectedHotBytes
    (candidates.drop immediatelyCompactable)
  (immediate ++ more).map (·.queueId)

def selectedEvents (selected : List String) : List QueueEventLine :=
  ((self.candidates deliveredTerminalEvents).filter (·.queueId ∈ selected)).flatMap (·.events)

def snapshot (selected : List String) : List UInt8 :=
  (self.lines.filter fun line => !line.queueId.any (· ∈ selected)).flatMap (·.raw)

end HotProgressScan

structure HistoryCandidate where
  eventId : String
  queueId : String
  sourceLine : Nat
  atMs : Int
  eventJson : String

def historyCandidateFromEventLine (json : HistoryJson) (entry : QueueEventLine)
    : Except IoError HistoryCandidate := do
  let eventId ← .ofOption (validProgressEventId entry.event.eventId)
    { kind := .invalidData
      message := "attempted to compact a progress event without a canonical event id" }
  return {
    eventId
    queueId := entry.event.queueId
    sourceLine := entry.lineNumber
    atMs := entry.event.atMs
    eventJson := json.render entry.event }

structure HistoryTransaction where
  transactionId : String
  committed : Bool
  events : List HistoryCandidate

inductive ScratchKind where
  | archive
  | compact
  deriving DecidableEq

structure ScratchName where
  kind : ScratchKind
  processId : Nat
  nowMs : Int
  attempt : Nat
  deriving DecidableEq

def compactionPendingSchema : String := "agent-harness.progress-history-compaction-pending.v1"

structure HistoryCompactionPending where
  schema : String
  archiveFile : ScratchName
  tempFile : ScratchName
  expectedHotBytes : Nat
  expectedHotDigest : UInt64
  originalHotBytes : Nat
  originalHotDigest : UInt64
  historyTransactionId : String

-- an index without a cursor is one that has no file
structure HistoryFiles where
  events : Option LedgerFile := none
  index : ProgressEventIndex := {}
  scratch : FMap ScratchName LedgerFile := ∅
  marker : Option HistoryCompactionPending := none
  history : List HistoryTransaction := []

namespace HistoryFiles

def bytes (self : HistoryFiles) : List UInt8 :=
  (self.events.map (·.bytes)).getD []

def storedIds (self : HistoryFiles) : List String :=
  self.history.flatMap fun transaction => transaction.events.map (·.eventId)

end HistoryFiles

inductive HistoryOp where
  | stage (transactionId : String) (candidates : List HistoryCandidate)
  | createFile (name : ScratchName) (modifiedAtUnixNanos : Nat)
  | writeFile (name : ScratchName) (bytes : List UInt8) (modifiedAtUnixNanos : Nat)
  | writeMarker (pending : HistoryCompactionPending)
  | invalidateIndex
  | removeEvents
  | renameToEvents (name : ScratchName)
  | commit (transactionId : String)
  | discard (transactionId : String)
  | removeFile (name : ScratchName)
  | removeMarker

def commitTransaction (transactionId : String) (history : List HistoryTransaction)
    : List HistoryTransaction :=
  history.map fun transaction =>
    if transaction.transactionId = transactionId then
      { transaction with committed := true }
    else
      transaction

-- `none` is an operation that fails
def HistoryOp.apply (op : HistoryOp) (files : HistoryFiles) : Option HistoryFiles :=
  match op with
  | .stage transactionId candidates =>
    if Text.trim transactionId = "" || candidates = [] then
      none
    else if files.history.any (·.transactionId = transactionId) then
      none
    -- `event_id TEXT NOT NULL UNIQUE`
    else if (files.storedIds ++ candidates.map (·.eventId)).Nodup then
      let transaction := { transactionId, committed := false, events := candidates }
      some { files with history := files.history ++ [transaction] }
    else
      none
  | .createFile name modifiedAtUnixNanos =>
    some { files with scratch := files.scratch.insert name { bytes := [], modifiedAtUnixNanos } }
  | .writeFile name bytes modifiedAtUnixNanos =>
    some { files with scratch := files.scratch.insert name { bytes, modifiedAtUnixNanos } }
  | .writeMarker pending => some { files with marker := some pending }
  -- with its `-wal` and `-shm` files
  | .invalidateIndex => some { files with index := {} }
  | .removeEvents => some { files with events := none }
  | .renameToEvents name =>
    match files.scratch.lookup name with
    | none => none
    | some file => some { files with events := some file, scratch := files.scratch.erase name }
  | .commit transactionId =>
    if files.history.any (·.transactionId = transactionId) then
      some { files with history := commitTransaction transactionId files.history }
    else
      none
  | .discard transactionId =>
    some {
      files with
      history := files.history.filter fun transaction =>
        transaction.transactionId ≠ transactionId || transaction.committed }
  | .removeFile name => some { files with scratch := files.scratch.erase name }
  | .removeMarker => some { files with marker := none }

abbrev HistoryScript := Script HistoryFiles HistoryOp

def progressHistoryDigest (bytes : List UInt8) : UInt64 :=
  Text.fnv1a bytes

def progressHistoryFileMatches (file : Option LedgerFile) (expectedBytes : Nat)
    (expectedDigest : UInt64)
    : Bool :=
  file.any fun file =>
    file.bytes.length = expectedBytes && progressHistoryDigest file.bytes = expectedDigest

structure CompactionCall where
  policy : HistoryCompactionPolicy
  deliveredTerminalEvents : List (String × String)
  nowMs : Int
  processId : Nat
  sequence : Nat
  modifiedAtUnixNanos : Nat

def nextProgressHistoryTransactionId (call : CompactionCall) (source : List UInt8) : String :=
  "progress-history-" ++ toString call.processId ++ "-" ++ toString call.nowMs ++ "-"
    ++ Text.hex16 (progressHistoryDigest source) ++ "-" ++ toString call.sequence

def progressHistoryTempFile (scratch : FMap ScratchName LedgerFile) (call : CompactionCall)
    (kind : ScratchKind)
    : ScratchName :=
  let candidate attempt : ScratchName := {
    kind, processId := call.processId, nowMs := call.nowMs, attempt }
  let free := (List.range (scratch.keys.length + 1)).find? fun attempt =>
    (scratch.lookup (candidate attempt)).isNone
  candidate (free.getD 0)

def writeProgressHistoryFile (name : ScratchName) (bytes : List UInt8) (modifiedAtUnixNanos : Nat)
    (onError next : HistoryScript)
    : HistoryScript :=
  .op (.createFile name modifiedAtUnixNanos) onError <|
  .op (.writeFile name bytes modifiedAtUnixNanos) onError next

def replaceProgressEventsFile (name : ScratchName) (onError next : HistoryScript) : HistoryScript :=
  .op .removeEvents onError <|
  .op (.renameToEvents name) onError next

/-
The error path of a compaction: a published marker owns the recovery, and without one the staged rows and
the temporary files go.
-/
def abandonCompaction (pending : HistoryCompactionPending) : HistoryScript :=
  .read fun files =>
    if files.marker.isSome then
      .failed
    else
      .ignoring (.discard pending.historyTransactionId) <|
      .ignoring (.removeFile pending.archiveFile) <|
      .ignoring (.removeFile pending.tempFile) .failed

-- the part of a compaction behind its marker
def swapMarked (pending : HistoryCompactionPending) : HistoryScript :=
  let onError := abandonCompaction pending
  .op .invalidateIndex onError <|
  replaceProgressEventsFile pending.tempFile onError <|
  .read fun files =>
    if progressHistoryFileMatches files.events pending.expectedHotBytes pending.expectedHotDigest then
      .op (.commit pending.historyTransactionId) onError <|
      .op (.removeFile pending.archiveFile) onError <|
      .op (.removeFile pending.tempFile) onError <|
      .op .removeMarker onError .done
    else
      onError

def swapProgressEvents (pending : HistoryCompactionPending) (original snapshot : List UInt8)
    (modifiedAtUnixNanos : Nat)
    : HistoryScript :=
  let onError := abandonCompaction pending
  writeProgressHistoryFile pending.archiveFile original modifiedAtUnixNanos onError <|
  writeProgressHistoryFile pending.tempFile snapshot modifiedAtUnixNanos onError <|
  .op (.writeMarker pending) onError (swapMarked pending)

section Compaction

variable (json : HistoryJson)

def selectedBy (call : CompactionCall) (bytes : List UInt8) : List String :=
  (scanHotProgressEvents json bytes).selectedQueueIds call.deliveredTerminalEvents call.policy

def snapshotBy (call : CompactionCall) (bytes : List UInt8) : List UInt8 :=
  (scanHotProgressEvents json bytes).snapshot (selectedBy json call bytes)

def movedBy (call : CompactionCall) (bytes : List UInt8) : List QueueEventLine :=
  (scanHotProgressEvents json bytes).selectedEvents call.deliveredTerminalEvents
    (selectedBy json call bytes)

def pendingBy (call : CompactionCall) (files : HistoryFiles) : HistoryCompactionPending :=
  let snapshot := snapshotBy json call files.bytes
  { schema := compactionPendingSchema
    archiveFile := progressHistoryTempFile files.scratch call .archive
    tempFile := progressHistoryTempFile files.scratch call .compact
    expectedHotBytes := snapshot.length
    expectedHotDigest := progressHistoryDigest snapshot
    originalHotBytes := files.bytes.length
    originalHotDigest := progressHistoryDigest files.bytes
    historyTransactionId := nextProgressHistoryTransactionId call files.bytes }

def compactProgressHistoryLocked (call : CompactionCall) : HistoryScript :=
  .read fun files =>
    let moved := movedBy json call files.bytes
    if moved = [] then
      .done
    else
      match moved.mapM (historyCandidateFromEventLine json) with
      | .error _ => .failed
      | .ok candidates =>
        let pending := pendingBy json call files
        .op (.stage pending.historyTransactionId candidates) .failed <|
        swapProgressEvents pending files.bytes (snapshotBy json call files.bytes)
          call.modifiedAtUnixNanos

end Compaction

def recoverFromMarker (files : HistoryFiles) (pending : HistoryCompactionPending) : HistoryScript :=
  let expected file :=
    progressHistoryFileMatches file pending.expectedHotBytes pending.expectedHotDigest
  let original file :=
    progressHistoryFileMatches file pending.originalHotBytes pending.originalHotDigest
  if pending.schema ≠ compactionPendingSchema || Text.trim pending.historyTransactionId = "" then
    .failed
  else if expected files.events then
    .op .invalidateIndex .failed <|
    .op (.commit pending.historyTransactionId) .failed <|
    .op (.removeFile pending.archiveFile) .failed <|
    .op (.removeFile pending.tempFile) .failed <|
    .op .removeMarker .failed .done
  else if expected (files.scratch.lookup pending.tempFile) then
    .op .invalidateIndex .failed <|
    replaceProgressEventsFile pending.tempFile .failed <|
    .op (.commit pending.historyTransactionId) .failed <|
    .op (.removeFile pending.archiveFile) .failed <|
    .op .removeMarker .failed .done
  else if original (files.scratch.lookup pending.archiveFile) then
    replaceProgressEventsFile pending.archiveFile .failed <|
    .op (.discard pending.historyTransactionId) .failed <|
    .op (.removeFile pending.tempFile) .failed <|
    .op .removeMarker .failed .done
  else
    .failed

def recoverProgressHistoryCompactionIfNeeded : HistoryScript :=
  .read fun files =>
    match files.marker with
    | none => .done
    | some pending => recoverFromMarker files pending

def compactProgressHistory (json : HistoryJson) (call : CompactionCall) : HistoryScript :=
  recoverProgressHistoryCompactionIfNeeded.andThen (compactProgressHistoryLocked json call)

structure ProgressHistoryRecord where
  originalLine : Nat
  event : AgentProgressEvent
  cold : Bool

def historyIdentityKey (record : ProgressHistoryRecord) : String :=
  match validProgressEventId record.event.eventId with
  | some eventId => "event:" ++ eventId
  | none =>
    (if record.cold then "cold" else "hot") ++ ":legacy:" ++ record.event.queueId ++ ":"
      ++ toString record.originalLine

section Read

variable (json : HistoryJson)

def invalidHistory (message : String) : IoError where
  kind := .invalidData
  message

def committedRecord (row : HistoryCandidate) : Except IoError ProgressHistoryRecord :=
  match json.event row.eventJson with
  | .error error =>
    .error (invalidHistory ("committed progress history event is invalid JSON: " ++ error))
  | .ok event =>
    if (validProgressEventId event.eventId).isNone then
      .error (invalidHistory "committed progress history event has no canonical event id")
    else
      .ok { originalLine := row.sourceLine, event, cold := true }

-- `ORDER BY history.at_ms ASC, history.source_line ASC, history.event_id ASC`
def rowLe (left right : HistoryCandidate) : Prop :=
  left.atMs < right.atMs
    ∨ (left.atMs = right.atMs ∧ (left.sourceLine < right.sourceLine
      ∨ (left.sourceLine = right.sourceLine ∧ Text.le left.eventId right.eventId)))

instance : DecidableRel rowLe := fun left right =>
  inferInstanceAs (Decidable (left.atMs < right.atMs
    ∨ (left.atMs = right.atMs ∧ (left.sourceLine < right.sourceLine
      ∨ (left.sourceLine = right.sourceLine ∧ Text.le left.eventId right.eventId)))))

def committedRows (files : HistoryFiles) : List HistoryCandidate :=
  (files.history.filter (·.committed)).flatMap (·.events)

def readCommittedProgressHistory (files : HistoryFiles) (queueIds : List String)
    : Except IoError (List ProgressHistoryRecord) :=
  let queueIds := queueIds.filter fun queueId => Text.trim queueId ≠ ""
  let rows := (committedRows files).filter fun row => row.queueId ∈ queueIds
  (rows.insertionSort rowLe).mapM (committedRecord json)

def hotRecord (queueIds : List String) (raw : List UInt8) (lineNumber : Nat)
    : Option ProgressHistoryRecord :=
  let trimmed := trimAsciiWhitespace raw
  if trimmed = [] then
    none
  else
    match json.eventOfSlice trimmed with
    | .ok event =>
      if event.queueId ∈ queueIds then
        some { originalLine := lineNumber, event, cold := false }
      else
        none
    | .error _ => none

def readHotProgressHistory (files : HistoryFiles) (queueIds : List String)
    : List ProgressHistoryRecord :=
  ((rawLines files.bytes).zipIdx 1).filterMap fun line => hotRecord json queueIds line.1 line.2

def recordLe (left right : ProgressHistoryRecord) : Prop :=
  left.event.atMs < right.event.atMs
    ∨ (left.event.atMs = right.event.atMs ∧ (left.originalLine < right.originalLine
      ∨ (left.originalLine = right.originalLine
        ∧ Text.le (left.event.eventId.getD "") (right.event.eventId.getD ""))))

instance : DecidableRel recordLe := fun left right =>
  inferInstanceAs (Decidable (left.event.atMs < right.event.atMs
    ∨ (left.event.atMs = right.event.atMs ∧ (left.originalLine < right.originalLine
      ∨ (left.originalLine = right.originalLine
        ∧ Text.le (left.event.eventId.getD "") (right.event.eventId.getD ""))))))

/-
The part of `read_progress_history_for_queue_ids` behind the recovery. A hot copy of an event takes the place
of the cold one.
-/
def readProgressHistoryLocked (files : HistoryFiles) (queueIds : List String)
    : Except IoError (List ProgressHistoryRecord) := do
  let cold ← readCommittedProgressHistory json files queueIds
  let hot := readHotProgressHistory json files queueIds
  let recordsByIdentity := FMap.ofValues historyIdentityKey (cold ++ hot)
  let inOrder := recordsByIdentity.values.insertionSort fun left right =>
    Text.le (historyIdentityKey left) (historyIdentityKey right)
  return inOrder.insertionSort recordLe

end Read

end AgentProgress
