import AgentHarness.Lib.Tally
import AgentHarness.RuntimeQueue.Compaction

/-!
The cold history of compacted receipts: a store with the transactions of the compactions, the numbers of
receipts that each took out of the ledger by status, and the last terminal receipt of each queue item.
-/

namespace RuntimeQueue

inductive HistoryState where
  | staged
  | committed
  deriving DecidableEq

structure HistoryTransactionRow where
  transactionId : String
  state : HistoryState
  createdAtMs : Int
  committedAtMs : Option Int

structure StatusDeltaRow where
  transactionId : String
  status : String
  countDelta : Nat

structure TerminalHistoryRow where
  transactionId : String
  queueId : String
  status : String
  compactedAtMs : Int

structure HistoryStore where
  transactions : List HistoryTransactionRow
  statusDeltas : List StatusDeltaRow
  terminalHistory : List TerminalHistoryRow

def HistoryStore.empty : HistoryStore where
  transactions := []
  statusDeltas := []
  terminalHistory := []

inductive HistoryError where
  | emptyTransactionId
  | snapshotExceedsOriginal (status : String)
  | duplicateTransaction (transactionId : String)
  | storeMissing (transactionId : String)
  | notStaged (transactionId : String)

def parseJsonlRecords (lines : List Line) : List Record :=
  lines.filterMap Line.record

def Record.countedStatus (self : Record) : Option String :=
  if isTrustedRuntimeRunOnceReceipt self then
    self.status.filter fun status => Text.trim status ≠ ""
  else
    none

def statusCounts (records : List Record) : FMap String Nat :=
  FMap.tally ((records.filterMap Record.countedStatus).map fun status => (status, 1))

def statusDeltas (original snapshot : FMap String Nat)
    : Except HistoryError (List (String × Nat)) :=
  match snapshot.entries.find? fun entry => entry.2 > original.count entry.1 with
  | some entry => .error (.snapshotExceedsOriginal entry.1)
  | none => .ok (original.entries.map fun entry => (entry.1, entry.2 - snapshot.count entry.1))

-- the queue item and the status of a row of `latest_terminal_records`
def terminalCandidate (retained : List String) (record : Record) : Option (String × String) :=
  if isTrustedRuntimeRunOnceReceipt record then
    match record.queueId, record.status with
    | some queueId, some status =>
      if Text.trim queueId = "" || queueId ∈ retained || !isTerminalRunOnceStatus status then
        none
      else
        some (queueId, status)
    | _, _ => none
  else
    none

def latestTerminalRecords (records : List Record) (retained : List String) : FMap String String :=
  (records.filterMap (terminalCandidate retained)).foldl
    (fun latest candidate => latest.insert candidate.1 candidate.2) ∅

/-
The deltas and the rows of a transaction have its key as a foreign key, so that a new transaction has none.
-/
def stageRuntimeQueueReceiptHistory (store : Option HistoryStore) (transactionId : String)
    (original snapshot : List Line) (retainedQueueIds : List String) (nowMs : Int)
    : Except HistoryError HistoryStore := do
  if Text.trim transactionId = "" then
    throw .emptyTransactionId
  let originalRecords := parseJsonlRecords original
  let snapshotRecords := parseJsonlRecords snapshot
  let deltas ← statusDeltas (statusCounts originalRecords) (statusCounts snapshotRecords)
  let terminalRecords := latestTerminalRecords originalRecords retainedQueueIds
  let store := store.getD HistoryStore.empty
  if store.transactions.any (·.transactionId = transactionId) then
    throw (.duplicateTransaction transactionId)
  return {
    transactions := store.transactions ++
      [{ transactionId, state := .staged, createdAtMs := nowMs, committedAtMs := none }]
    statusDeltas := store.statusDeltas ++
      (deltas.filter (·.2 ≠ 0)).map fun (status, countDelta) =>
        { transactionId, status, countDelta }
    terminalHistory := store.terminalHistory ++
      terminalRecords.entries.map fun ⟨queueId, status⟩ =>
        { transactionId, queueId, status, compactedAtMs := nowMs } }

def HistoryTransactionRow.isStaged (self : HistoryTransactionRow) (transactionId : String) : Bool :=
  self.transactionId = transactionId && self.state = .staged

-- the schema admits no third state
def commitRuntimeQueueReceiptHistory (store : Option HistoryStore) (transactionId : String)
    (committedAtMs : Int)
    : Except HistoryError HistoryStore :=
  match store with
  | none => .error (.storeMissing transactionId)
  | some store =>
    if store.transactions.any (·.isStaged transactionId) then
      .ok {
        store with
        transactions := store.transactions.map fun row =>
          if row.isStaged transactionId then
            { row with state := .committed, committedAtMs := some committedAtMs }
          else
            row }
    else if store.transactions.any (·.transactionId = transactionId) then
      .ok store
    else
      .error (.notStaged transactionId)

-- DELETE with ON DELETE CASCADE
def HistoryStore.deleteTransactions (self : HistoryStore) (doomed : HistoryTransactionRow → Bool)
    : HistoryStore :=
  let gone transactionId :=
    self.transactions.any fun row => doomed row && row.transactionId = transactionId
  { transactions := self.transactions.filter fun row => !doomed row
    statusDeltas := self.statusDeltas.filter fun row => !gone row.transactionId
    terminalHistory := self.terminalHistory.filter fun row => !gone row.transactionId }

def discardRuntimeQueueReceiptHistory (store : Option HistoryStore) (transactionId : String)
    : Option HistoryStore :=
  store.map fun store => store.deleteTransactions (·.isStaged transactionId)

def cleanupStagedRuntimeQueueReceiptHistory (store : Option HistoryStore)
    : Option HistoryStore × Nat :=
  match store with
  | none => (none, 0)
  | some store =>
    (some (store.deleteTransactions (·.state = .staged)),
      store.transactions.countP (·.state = .staged))

namespace HistoryStore

-- INNER JOIN with the transactions in the state `committed`
def isCommitted (self : HistoryStore) (transactionId : String) : Bool :=
  self.transactions.any fun row => row.transactionId = transactionId && row.state = .committed

def committedDeltas (self : HistoryStore) : List StatusDeltaRow :=
  self.statusDeltas.filter fun row => self.isCommitted row.transactionId

def committedTerminalHistory (self : HistoryStore) : List TerminalHistoryRow :=
  self.terminalHistory.filter fun row => self.isCommitted row.transactionId

end HistoryStore

def readRuntimeQueueReceiptHistoryStatusCounts (store : Option HistoryStore) : FMap String Nat :=
  match store with
  | none => ∅
  | some store =>
    FMap.tally (store.committedDeltas.map fun row => (row.status, row.countDelta))

def terminalStatuses : List String :=
  ["completed", "timeout", "failed-terminal", "canceled", "skipped", "dead-letter", "suppressed"]

structure TerminalHistorySummary where
  terminalRecords : Nat
  terminalQueueIds : Nat
  deriving DecidableEq

def readRuntimeQueueTerminalHistorySummary (store : Option HistoryStore) : TerminalHistorySummary :=
  match store with
  | none => { terminalRecords := 0, terminalQueueIds := 0 }
  | some store => {
    terminalRecords :=
      ((store.committedDeltas.filter (·.status ∈ terminalStatuses)).map (·.countDelta)).sum
    terminalQueueIds := (store.committedTerminalHistory.map (·.queueId)).dedup.length }

/-
A compaction between its stage and its commit or discard. The swap puts the snapshot in place of the
ledger.
-/
structure OpenCompaction where
  transactionId : String
  original : List Line
  snapshot : List Line
  swapped : Bool

/-
`written` and `removed` are there for the statements only: every line ever appended, and the receipts that
committed compactions took out.
-/
structure CompactedLedger where
  hot : List Line
  store : Option HistoryStore
  compaction : Option OpenCompaction
  written : List Line
  removed : List Record

namespace CompactedLedger

def initial : CompactedLedger where
  hot := []
  store := none
  compaction := none
  written := []
  removed := []

end CompactedLedger

inductive HistoryAction where
  | append (line : Line)
  | stage (transactionId : String) (snapshot : List Line) (retainedQueueIds : List String)
    (nowMs : Int)
  | swap
  -- recovery puts the archive back
  | restore
  | commit (transactionId : String) (committedAtMs : Int)
  | discard (transactionId : String)
  -- a crash before there is a marker: the transaction stays staged
  | abandon
  | cleanup

namespace OpenCompaction

def removed (self : OpenCompaction) : List Record :=
  (parseJsonlRecords self.original).diff (parseJsonlRecords self.snapshot)

end OpenCompaction

namespace CompactedLedger

def awaitsCommit (self : CompactedLedger) (transactionId : String) : Option OpenCompaction :=
  self.compaction.filter fun compaction =>
    compaction.swapped && compaction.transactionId = transactionId

def isCommitted (self : CompactedLedger) (transactionId : String) : Bool :=
  self.store.any (·.isCommitted transactionId)

/-
Appends wait for the compaction that holds the lock, and a compaction for the one before it. Callers commit
after the swap or once more after the commit, discard before the swap, and clean up when no compaction is
open.
-/
def step (self : CompactedLedger) (action : HistoryAction) : CompactedLedger :=
  match action with
  | .append line =>
    match self.compaction with
    | some _ => self
    | none => { self with hot := self.hot ++ [line], written := self.written ++ [line] }
  | .stage transactionId snapshot retainedQueueIds nowMs =>
    match self.compaction with
    | some _ => self
    | none =>
      let staging := stageRuntimeQueueReceiptHistory self.store transactionId self.hot snapshot
        retainedQueueIds nowMs
      match staging with
      | .error _ => self
      | .ok store =>
        let compaction := { transactionId, original := self.hot, snapshot, swapped := false }
        { self with store := some store, compaction := some compaction }
  | .swap =>
    match self.compaction with
    | none => self
    | some compaction =>
      { self with
        hot := compaction.snapshot
        compaction := some { compaction with swapped := true } }
  | .restore =>
    match self.compaction with
    | none => self
    | some compaction =>
      { self with
        hot := compaction.original
        compaction := some { compaction with swapped := false } }
  | .commit transactionId committedAtMs =>
    match commitRuntimeQueueReceiptHistory self.store transactionId committedAtMs with
    | .error _ => self
    | .ok store =>
      match self.awaitsCommit transactionId with
      | some compaction =>
        { self with
          store := some store
          compaction := none
          removed := self.removed ++ compaction.removed }
      | none => if self.isCommitted transactionId then { self with store := some store } else self
  | .discard transactionId =>
    if (self.awaitsCommit transactionId).isSome then
      self
    else
      { self with
        store := discardRuntimeQueueReceiptHistory self.store transactionId
        compaction := self.compaction.filter (·.transactionId ≠ transactionId) }
  | .abandon =>
    match self.compaction with
    | none => self
    | some compaction => if compaction.swapped then self else { self with compaction := none }
  | .cleanup =>
    match self.compaction with
    | some _ => self
    | none => { self with store := (cleanupStagedRuntimeQueueReceiptHistory self.store).1 }

end CompactedLedger

end RuntimeQueue
