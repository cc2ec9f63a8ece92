import AgentHarness.Lib.Run
import AgentHarness.Lib.Script
import AgentHarness.Lib.Text
import Mathlib.Algebra.GroupWithZero.Nat

/-!
The ledgers `pending.jsonl` and `run-once-receipts.jsonl`, their compaction into snapshots and the
recovery of a compaction that was cut short. Appenders, compactions and recoveries hold the append
lock of the ledger; a compaction and a recovery are scripts of file operations, any of which can fail
or be the last one before a crash.
-/

namespace RuntimeQueue

def runtimeRunOnceReceiptSchema : String := "agent-harness.runtime-run-once.v1"

inductive RecordSchema where
  | absent
  | text (schema : String)
  | other
  deriving DecidableEq

/-
What the ledgers read of a JSON value. `compact` is its serialization on one line.
-/
structure Record where
  queueId : Option String
  status : Option String
  schema : RecordSchema
  compact : String
  deriving DecidableEq

inductive Line where
  | blank
  | malformed (text trimmed : String)
  | value (text trimmed : String) (record : Record)
  deriving DecidableEq

namespace Line

def record (self : Line) : Option Record :=
  match self with
  | .value _ _ record => some record
  | _ => none

def queueId (self : Line) : Option String :=
  self.record.bind (·.queueId)

def row (self : Line) : Option (String ⊕ Record) :=
  match self with
  | .blank => none
  | .malformed _ trimmed => some (.inl trimmed)
  | .value _ _ record => some (.inr record)

def keepTrimmed (self : Line) : Line :=
  match self with
  | .blank => .blank
  | .malformed _ trimmed => .malformed trimmed trimmed
  | .value _ trimmed record => .value trimmed trimmed record

def keepCompact (self : Line) : Line :=
  match self with
  | .value _ _ record => .value record.compact record.compact record
  | line => line.keepTrimmed

end Line

def RecordSchema.isTrusted (self : RecordSchema) : Bool :=
  match self with
  | .absent => true
  | .text schema => schema = runtimeRunOnceReceiptSchema
  | .other => false

def isTrustedRuntimeRunOnceReceipt (record : Record) : Bool :=
  record.schema.isTrusted

def isTerminalRunOnceStatus (status : String) : Bool :=
  status = "completed"
    || status = "timeout"
    || status = "failed-terminal"
    || status = "canceled"
    || status = "skipped"
    || status = "dead-letter"
    || status = "suppressed"
    || status = "external-effect-denied"

-- `terminal_run_once_ever` of the index that is rebuilt from the receipts
def terminalRunOnceEver (receipts : List Line) (queueId : String) : Bool :=
  receipts.any fun line => line.record.any fun record =>
    isTrustedRuntimeRunOnceReceipt record
      && record.queueId = some queueId
      && record.status.any isTerminalRunOnceStatus

def pendingKeeps (receipts : List Line) (line : Line) : Bool :=
  match line with
  | .blank => false
  | .malformed _ _ => true
  | .value _ _ record =>
    match record.queueId with
    | none => true
    | some queueId =>
      record.status = some "queued" && !terminalRunOnceEver receipts queueId

def keptPendingLine (line : Line) : Line :=
  match line.queueId with
  | none => line.keepTrimmed
  | some _ => line.keepCompact

def runtimeQueuePendingSnapshot (receipts pending : List Line) : List Line :=
  (pending.filter (pendingKeeps receipts)).map keptPendingLine

def retainedQueueIds (receipts pending : List Line) : List String :=
  (pending.filter (pendingKeeps receipts)).filterMap Line.queueId

def receiptKeeps (retained : List String) (line : Line) : Bool :=
  match line with
  | .blank => false
  | .malformed _ _ => true
  | .value _ _ record =>
    match record.queueId with
    | none => true
    | some queueId => queueId ∈ retained

def runtimeQueueReceiptSnapshot (retained : List String) (receipts : List Line) : List Line :=
  (receipts.filter (receiptKeeps retained)).map Line.keepCompact

def countedStatus (line : Line) : Option String :=
  match line.record with
  | none => none
  | some record =>
    if isTrustedRuntimeRunOnceReceipt record then
      record.status.filter (fun status => Text.trim status ≠ "")
    else
      none

def statusCount (lines : List Line) (status : String) : Nat :=
  lines.countP (fun line => countedStatus line = some status)

structure HistoryTransaction where
  transactionId : String
  countDelta : String → Nat
  committed : Bool

def committedCount (history : List HistoryTransaction) (status : String) : Nat :=
  ((history.filter (·.committed)).map (·.countDelta status)).sum

/-
The sizes and digests of a marker, as the contents that they stand for.
-/
structure CompactionMarker where
  expected : List Line
  archiveExpected : List Line
  historyTransactionId : Option String

structure LedgerFiles where
  ledger : Option (List Line)
  temp : Option (List Line)
  -- newest first
  archives : List (List Line)
  marker : Option CompactionMarker

inductive LedgerName where
  | pending
  | receipts
  deriving DecidableEq

structure QueueFiles where
  pending : LedgerFiles
  receipts : LedgerFiles
  history : List HistoryTransaction

namespace QueueFiles

def get (self : QueueFiles) (name : LedgerName) : LedgerFiles :=
  match name with
  | .pending => self.pending
  | .receipts => self.receipts

def set (self : QueueFiles) (name : LedgerName) (files : LedgerFiles) : QueueFiles :=
  match name with
  | .pending => { self with pending := files }
  | .receipts => { self with receipts := files }

end QueueFiles

inductive FileOp where
  | writeArchive (name : LedgerName) (lines : List Line)
  | writeTemp (name : LedgerName) (lines : List Line)
  | writeMarker (name : LedgerName) (marker : CompactionMarker)
  | removeLedger (name : LedgerName)
  | renameTemp (name : LedgerName)
  | renameRestored (name : LedgerName) (lines : List Line)
  | pruneArchives (name : LedgerName) (maxArchives : Nat)
  | removeTemp (name : LedgerName)
  | removeMarker (name : LedgerName)
  | stageHistory (transaction : HistoryTransaction)
  | commitHistory (transactionId : String)
  | discardHistory (transactionId : String)
  | cleanupStagedHistory

def commitTransaction (transactionId : String) (history : List HistoryTransaction)
    : List HistoryTransaction :=
  history.map fun transaction =>
    if transaction.transactionId = transactionId then
      { transaction with committed := true }
    else
      transaction

-- `none` is an operation that fails
def FileOp.apply (op : FileOp) (files : QueueFiles) : Option QueueFiles :=
  match op with
  | .writeArchive name lines =>
    some (files.set name { files.get name with archives := lines :: (files.get name).archives })
  | .writeTemp name lines => some (files.set name { files.get name with temp := some lines })
  | .writeMarker name marker => some (files.set name { files.get name with marker := some marker })
  | .removeLedger name => some (files.set name { files.get name with ledger := none })
  | .renameTemp name =>
    match (files.get name).temp with
    | none => none
    | some lines => some (files.set name { files.get name with ledger := some lines, temp := none })
  | .renameRestored name lines =>
    some (files.set name { files.get name with ledger := some lines })
  | .pruneArchives name maxArchives =>
    let archives := (files.get name).archives.take (max maxArchives 1)
    some (files.set name { files.get name with archives })
  | .removeTemp name => some (files.set name { files.get name with temp := none })
  | .removeMarker name => some (files.set name { files.get name with marker := none })
  | .stageHistory transaction =>
    if files.history.any (·.transactionId = transaction.transactionId) then
      none
    else
      some { files with history := files.history ++ [transaction] }
  | .commitHistory transactionId =>
    if files.history.any (·.transactionId = transactionId) then
      some { files with history := commitTransaction transactionId files.history }
    else
      none
  | .discardHistory transactionId =>
    some {
      files with
      history := files.history.filter fun transaction =>
        transaction.transactionId ≠ transactionId || transaction.committed }
  | .cleanupStagedHistory => some { files with history := files.history.filter (·.committed) }

abbrev LedgerScript := Script QueueFiles FileOp

/-
The error path of a compaction that has staged a history transaction: a published marker owns the
recovery, and without one the transaction is discarded.
-/
def abandonStaged (staged : Option String) : LedgerScript :=
  match staged with
  | none => .failed
  | some transactionId => .read fun files =>
    if files.receipts.marker.isSome then
      .failed
    else
      .op (.discardHistory transactionId) .failed .failed

def commitStaged (staged : Option String) (onError next : LedgerScript) : LedgerScript :=
  match staged with
  | none => next
  | some transactionId => .op (.commitHistory transactionId) onError next

/-
`replace_runtime_queue_ledger_with_snapshot_locked`. The check of the renamed file cannot fail while
the lock is held.
-/
def replaceRuntimeQueueLedgerWithSnapshot (name : LedgerName) (files : LedgerFiles)
    (snapshot : List Line) (maxArchives : Nat) (staged : Option String)
    : LedgerScript :=
  match files.ledger with
  | none => .done
  | some original =>
    if original = snapshot then
      .done
    else
      let marker := {
        expected := snapshot
        archiveExpected := original
        historyTransactionId := staged }
      let onError := abandonStaged staged
      .op (.writeArchive name original) onError <|
      .op (.writeTemp name snapshot) onError <|
      .op (.writeMarker name marker) onError <|
      .op (.removeLedger name) onError <|
      .op (.renameTemp name) onError <|
      commitStaged staged onError <|
      .op (.pruneArchives name maxArchives) onError <|
      .ignoring (.removeMarker name) .done

def stagedTransaction (transactionId : String) (original snapshot : List Line)
    : HistoryTransaction where
  transactionId
  countDelta status := statusCount original status - statusCount snapshot status
  committed := false

def recoverFromMarker (name : LedgerName) (files : LedgerFiles) (marker : CompactionMarker)
    : LedgerScript :=
  if files.ledger = some marker.expected then
    commitStaged marker.historyTransactionId .failed <|
    .ignoring (.removeTemp name) <|
    .ignoring (.removeMarker name) .done
  else if files.temp = some marker.expected then
    .op (.removeLedger name) .failed <|
    .op (.renameTemp name) .failed <|
    commitStaged marker.historyTransactionId .failed <|
    .ignoring (.removeMarker name) .done
  else if files.archives.head? = some marker.archiveExpected then
    .op (.removeLedger name) .failed <|
    .op (.renameRestored name marker.archiveExpected) .failed <|
    match marker.historyTransactionId with
    | none =>
      .ignoring (.removeTemp name) <|
      .ignoring (.removeMarker name) .done
    | some transactionId =>
      .op (.discardHistory transactionId) .failed <|
      .ignoring (.removeTemp name) <|
      .ignoring (.removeMarker name) .done
  else
    .failed

-- `recover_runtime_queue_ledger_compaction_if_needed_locked`
def recoverRuntimeQueueLedgerCompaction (name : LedgerName) : LedgerScript :=
  .read fun files =>
    match (files.get name).marker with
    | none => .done
    | some marker => recoverFromMarker name (files.get name) marker

/-
The part of `compact_runtime_queue_receipts_if_needed` for a receipt ledger that is longer than
`max_bytes`. Both locks are held, so what it reads stays as it is here.
-/
def compactLedgers (files : QueueFiles) (receipts : List Line) (transactionId : String)
    (maxArchives : Nat)
    : LedgerScript :=
  let pending := files.pending.ledger.getD []
  let pendingSnapshot := runtimeQueuePendingSnapshot receipts pending
  let receiptSnapshot := runtimeQueueReceiptSnapshot (retainedQueueIds receipts pending) receipts
  (replaceRuntimeQueueLedgerWithSnapshot .pending files.pending pendingSnapshot maxArchives
    none).andThen <|
  if receipts = receiptSnapshot then
    .done
  else
    .op (.stageHistory (stagedTransaction transactionId receipts receiptSnapshot)) .failed <|
    replaceRuntimeQueueLedgerWithSnapshot .receipts files.receipts receiptSnapshot maxArchives
      (some transactionId)

def compactRuntimeQueueReceiptsIfNeeded (transactionId : String) (maxArchives : Nat)
    (overMaxBytes : Bool)
    : LedgerScript :=
  (recoverRuntimeQueueLedgerCompaction .receipts).andThen <|
  (recoverRuntimeQueueLedgerCompaction .pending).andThen <|
  .op .cleanupStagedHistory .failed <|
  .read fun files =>
    match files.receipts.ledger with
    | none => .done
    | some receipts =>
      if overMaxBytes then
        compactLedgers files receipts transactionId maxArchives
      else
        .done

/-
`task` is what is left of the compaction or the recovery that has the locks. `appended` collects
the rows that were in the ledgers at the start and every row appended since. A recovery has the lock
of its own ledger only, but an append to the other ledger does not touch its files: it can as well
come before or after.
-/
structure QueueSystem where
  files : QueueFiles
  task : LedgerScript
  appended : LedgerName → List Line

inductive QueueAction where
  | append (name : LedgerName) (line : Line)
  | recover (name : LedgerName)
  | compact (transactionId : String) (maxArchives : Nat) (overMaxBytes : Bool)
  | step
  | fail
  | crash

namespace QueueSystem

def appendJsonlValue (s : QueueSystem) (name : LedgerName) (line : Line) : QueueSystem :=
  let files := s.files.get name
  { s with
    files := s.files.set name { files with ledger := some (files.ledger.getD [] ++ [line]) }
    appended := fun other => if other = name then s.appended name ++ [line] else s.appended other }

def begin (s : QueueSystem) (task : LedgerScript) : QueueSystem :=
  { s with task }

def perform (s : QueueSystem) (action : QueueAction) : QueueSystem :=
  match action with
  | .append name line => if s.task.isFinished then s.appendJsonlValue name line else s
  | .recover name =>
    if s.task.isFinished then s.begin (recoverRuntimeQueueLedgerCompaction name) else s
  | .compact transactionId maxArchives overMaxBytes =>
    if s.task.isFinished then
      s.begin (compactRuntimeQueueReceiptsIfNeeded transactionId maxArchives overMaxBytes)
    else
      s
  | .step =>
    let (files, task) := s.task.step FileOp.apply s.files
    { s with files, task }
  | .fail => s.begin s.task.fail
  | .crash => s.begin .done

def start (pending receipts : Option (List Line)) : QueueSystem where
  files := {
    pending := { ledger := pending, temp := none, archives := [], marker := none }
    receipts := { ledger := receipts, temp := none, archives := [], marker := none }
    history := [] }
  task := .done
  appended name :=
    match name with
    | .pending => pending.getD []
    | .receipts => receipts.getD []

end QueueSystem

/-
No row is appended to a ledger while the marker of an interrupted compaction is beside it.
-/
def appendsAreClean (s : QueueSystem) (action : QueueAction) : Prop :=
  match action with
  | .append name _ => (s.files.get name).marker.isNone
  | _ => True

instance (s : QueueSystem) (action : QueueAction) : Decidable (appendsAreClean s action) :=
  match action with
  | .append name _ => inferInstanceAs (Decidable ((s.files.get name).marker.isNone = true))
  | .recover _ => isTrue trivial
  | .compact _ _ _ => isTrue trivial
  | .step => isTrue trivial
  | .fail => isTrue trivial
  | .crash => isTrue trivial

end RuntimeQueue
