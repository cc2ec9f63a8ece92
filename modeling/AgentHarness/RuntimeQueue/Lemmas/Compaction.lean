import AgentHarness.RuntimeQueue.Compaction
import Mathlib.Data.List.Perm.Basic
import Mathlib.Tactic.Ring

/-!
What compaction keeps of the ledgers.
-/

namespace RuntimeQueue

namespace Line

@[simp]
theorem row_keepTrimmed (line : Line) : line.keepTrimmed.row = line.row := by
  cases line <;> rfl

@[simp]
theorem row_keepCompact (line : Line) : line.keepCompact.row = line.row := by
  cases line <;> rfl

@[simp]
theorem row_keptPendingLine (line : Line) : (keptPendingLine line).row = line.row := by
  unfold keptPendingLine
  cases line.queueId <;> simp

theorem record_of_row {line other : Line} (h : line.row = other.row)
    : line.record = other.record := by
  cases line <;> cases other <;> simp_all [row, record]

end Line

def rowKeeps (receipts : List Line) (row : Option (String ⊕ Record)) : Bool :=
  match row with
  | none => false
  | some (.inl _) => true
  | some (.inr record) =>
    match record.queueId with
    | none => true
    | some queueId => record.status = some "queued" && !terminalRunOnceEver receipts queueId

theorem pendingKeeps_eq_rowKeeps (receipts : List Line)
    : pendingKeeps receipts = rowKeeps receipts ∘ Line.row := by
  funext line
  cases line <;> rfl

theorem countedStatus_of_row {line other : Line} (h : line.row = other.row)
    : countedStatus line = countedStatus other := by
  unfold countedStatus
  rw [Line.record_of_row h]

variable {history : List HistoryTransaction} {transactionId : String} {receipts : List Line}
  {s : QueueSystem}

theorem terminalRunOnceEver_of_rows {others : List Line} {queueId : String}
    (hrows : ∀ row ∈ receipts.filterMap Line.row, row ∈ others.filterMap Line.row)
    (h : terminalRunOnceEver receipts queueId)
    : terminalRunOnceEver others queueId := by
  simp only [terminalRunOnceEver, List.any_eq_true, Option.any_eq_true] at h ⊢
  cases h with
  | intro line h =>
    cases h.2 with
    | intro record hrecord =>
      have hrow : line.row = some (.inr record) := by
        cases line <;> simp_all [Line.record, Line.row]
      have hmem := hrows (.inr record) (List.mem_filterMap.mpr ⟨line, h.1, hrow⟩)
      cases List.mem_filterMap.mp hmem with
      | intro other hother =>
        refine ⟨other, hother.1, record, ?_, hrecord.2⟩
        rw [← hrecord.1]
        apply Line.record_of_row
        rw [hother.2, hrow]

theorem rowKeeps_mono {others : List Line} {row : Option (String ⊕ Record)}
    (hterminal : ∀ queueId, terminalRunOnceEver receipts queueId → terminalRunOnceEver others queueId)
    (h : rowKeeps others row)
    : rowKeeps receipts row := by
  match row with
  | none => exact h
  | some (.inl text) => rfl
  | some (.inr record) =>
    unfold rowKeeps at h ⊢
    cases hid : record.queueId with
    | none => simp only [hid]
    | some queueId =>
      simp only [hid, Bool.and_eq_true, Bool.not_eq_true'] at h ⊢
      refine ⟨h.1, ?_⟩
      cases hr : terminalRunOnceEver receipts queueId with
      | false => rfl
      | true =>
        rw [hterminal queueId hr] at h
        exact h.2

/-
The rows of the pending ledger that a snapshot keeps, in their order.
-/
def keptRows (receipts pending : List Line) : List (Option (String ⊕ Record)) :=
  (pending.filter (pendingKeeps receipts)).map Line.row

theorem keptRows_eq_filter (receipts pending : List Line)
    : keptRows receipts pending = (pending.map Line.row).filter (rowKeeps receipts) := by
  unfold keptRows
  rw [pendingKeeps_eq_rowKeeps, List.filter_map]

theorem map_row_runtimeQueuePendingSnapshot (receipts pending : List Line)
    : (runtimeQueuePendingSnapshot receipts pending).map Line.row = keptRows receipts pending := by
  unfold runtimeQueuePendingSnapshot keptRows
  rw [List.map_map]
  apply List.map_congr_left
  intro line _
  simp

/-
Every row of the pending ledger that a snapshot has to keep is still there.
-/
def PendingKept (appended : LedgerName → List Line) (ledger : List Line) : Prop :=
  (keptRows (appended .receipts) (appended .pending)).Sublist (ledger.map Line.row)

/-
Every receipt is either in the ledger or was dropped and is counted in the committed history.
-/
def ReceiptsKept (appended : LedgerName → List Line) (ledger : List Line)
    (history : List HistoryTransaction)
    : Prop :=
  ∃ dropped : List Line,
    ((appended .receipts).filterMap Line.row).Perm ((ledger ++ dropped).filterMap Line.row)
      ∧ ∀ status, committedCount history status = statusCount dropped status

theorem ReceiptsKept.rows {appended : LedgerName → List Line} {ledger : List Line}
    (h : ReceiptsKept appended ledger history)
    : ∀ row ∈ ledger.filterMap Line.row, row ∈ (appended .receipts).filterMap Line.row := by
  intro row hrow
  cases h with
  | intro dropped h =>
    rw [h.1.mem_iff, List.filterMap_append]
    apply List.mem_append_left
    exact hrow

theorem PendingKept.snapshot {appended : LedgerName → List Line} {pending : List Line}
    (h : PendingKept appended pending) (hreceipts : ReceiptsKept appended receipts history)
    : PendingKept appended (runtimeQueuePendingSnapshot receipts pending) := by
  have hkeeps : (keptRows (appended .receipts) (appended .pending)).filter (rowKeeps receipts)
      = keptRows (appended .receipts) (appended .pending) := by
    rw [List.filter_eq_self]
    intro row hrow
    rw [keptRows_eq_filter, List.mem_filter] at hrow
    apply rowKeeps_mono _ hrow.2
    intro queueId
    apply terminalRunOnceEver_of_rows
    exact hreceipts.rows
  unfold PendingKept
  rw [map_row_runtimeQueuePendingSnapshot, keptRows_eq_filter receipts pending, ← hkeeps]
  apply List.Sublist.filter
  exact h

theorem statusCount_append (xs ys : List Line) (status : String)
    : statusCount (xs ++ ys) status = statusCount xs status + statusCount ys status := by
  simp [statusCount]

theorem statusCount_map_keepCompact (lines : List Line) (status : String)
    : statusCount (lines.map Line.keepCompact) status = statusCount lines status := by
  unfold statusCount
  rw [List.countP_map]
  apply List.countP_congr
  intro line _
  simp only [Function.comp]
  rw [countedStatus_of_row (Line.row_keepCompact line)]

theorem filterMap_row_map_keepCompact (lines : List Line)
    : (lines.map Line.keepCompact).filterMap Line.row = lines.filterMap Line.row := by
  rw [List.filterMap_map]
  apply List.filterMap_congr
  intro line _
  simp

def droppedReceipts (retained : List String) (receipts : List Line) : List Line :=
  receipts.filter (fun line => !receiptKeeps retained line)

theorem snapshot_append_dropped_perm (retained : List String) (receipts : List Line)
    : (receipts.filter (receiptKeeps retained) ++ droppedReceipts retained receipts).Perm
        receipts :=
  List.filter_append_perm (receiptKeeps retained) receipts

theorem statusCount_droppedReceipts (retained : List String) (receipts : List Line)
    (status : String)
    : statusCount receipts status - statusCount (runtimeQueueReceiptSnapshot retained receipts) status
        = statusCount (droppedReceipts retained receipts) status := by
  have hperm := (snapshot_append_dropped_perm retained receipts).countP_eq
    (fun line => countedStatus line = some status)
  rw [List.countP_append] at hperm
  unfold runtimeQueueReceiptSnapshot
  rw [statusCount_map_keepCompact]
  unfold statusCount
  omega

theorem ReceiptsKept.of_counts {appended : LedgerName → List Line} {ledger : List Line}
    {history' : List HistoryTransaction} (h : ReceiptsKept appended ledger history)
    (hcounts : ∀ status, committedCount history' status = committedCount history status)
    : ReceiptsKept appended ledger history' := by
  cases h with
  | intro dropped h =>
    refine ⟨dropped, h.1, ?_⟩
    intro status
    rw [hcounts status, h.2 status]

theorem committedCount_append_staged (history : List HistoryTransaction)
    {transaction : HistoryTransaction} (h : transaction.committed = false) (status : String)
    : committedCount (history ++ [transaction]) status = committedCount history status := by
  simp [committedCount, h]

theorem committedCount_filter_committed (history : List HistoryTransaction) (status : String)
    : committedCount (history.filter (·.committed)) status = committedCount history status := by
  simp [committedCount]

theorem committedCount_discard (history : List HistoryTransaction) (transactionId status : String)
    : committedCount (history.filter fun transaction =>
          transaction.transactionId ≠ transactionId || transaction.committed) status
        = committedCount history status := by
  unfold committedCount
  rw [List.filter_filter]
  congr 2
  apply List.filter_congr
  intro transaction _
  cases transaction.committed <;> simp

theorem commitTransaction_of_committed (h : ∀ transaction ∈ history,
      transaction.transactionId = transactionId → transaction.committed = true)
    : commitTransaction transactionId history = history := by
  unfold commitTransaction
  conv => rhs; rw [← List.map_id history]
  apply List.map_congr_left
  intro transaction hmem
  by_cases hid : transaction.transactionId = transactionId
  . rw [if_pos hid, ← h transaction hmem hid]
    rfl
  . rw [if_neg hid]
    rfl

theorem committed_commitTransaction (transactionId : String) (history : List HistoryTransaction)
    : ∀ transaction ∈ commitTransaction transactionId history,
      transaction.transactionId = transactionId → transaction.committed = true := by
  intro transaction hmem hid
  cases List.mem_map.mp hmem with
  | intro before hbefore =>
    rw [← hbefore.2] at hid ⊢
    by_cases hb : before.transactionId = transactionId
    . rw [if_pos hb]
    . rw [if_neg hb] at hid
      contradiction

theorem commitTransaction_commitTransaction (transactionId : String)
    (history : List HistoryTransaction)
    : commitTransaction transactionId (commitTransaction transactionId history)
        = commitTransaction transactionId history :=
  commitTransaction_of_committed (committed_commitTransaction transactionId history)

theorem exists_mem_commitTransaction {other : String}
    (h : ∃ transaction ∈ history, transaction.transactionId = other)
    : ∃ transaction ∈ commitTransaction transactionId history,
        transaction.transactionId = other := by
  cases h with
  | intro transaction h =>
    refine ⟨_, List.mem_map_of_mem h.1, ?_⟩
    by_cases hid : transaction.transactionId = transactionId
    . rw [if_pos hid]
      exact h.2
    . rw [if_neg hid]
      exact h.2

theorem commitTransaction_append_of_fresh {transaction : HistoryTransaction}
    (hfresh : ∀ other ∈ history, other.transactionId ≠ transactionId)
    (hid : transaction.transactionId = transactionId)
    : commitTransaction transactionId (history ++ [transaction])
        = history ++ [{ transaction with committed := true }] := by
  have hsame : commitTransaction transactionId history = history := by
    apply commitTransaction_of_committed
    intro other hmem hother
    exact absurd hother (hfresh other hmem)
  calc commitTransaction transactionId (history ++ [transaction])
      = commitTransaction transactionId history ++ commitTransaction transactionId [transaction] := by
        simp [commitTransaction]
    _ = history ++ [{ transaction with committed := true }] := by
        rw [hsame]
        simp [commitTransaction, hid]

theorem ReceiptsKept.snapshot {appended : LedgerName → List Line} (retained : List String)
    (h : ReceiptsKept appended receipts history)
    (hfresh : ∀ other ∈ history, other.transactionId ≠ transactionId)
    : ReceiptsKept appended (runtimeQueueReceiptSnapshot retained receipts)
        (commitTransaction transactionId
          (history ++ [stagedTransaction transactionId receipts
            (runtimeQueueReceiptSnapshot retained receipts)])) := by
  cases h with
  | intro dropped h =>
    refine ⟨droppedReceipts retained receipts ++ dropped, ?_, ?_⟩
    . apply h.1.trans
      rw [← List.append_assoc, List.filterMap_append, List.filterMap_append]
      apply List.Perm.append_right
      unfold runtimeQueueReceiptSnapshot
      rw [List.filterMap_append, filterMap_row_map_keepCompact, ← List.filterMap_append]
      apply List.Perm.filterMap
      exact (snapshot_append_dropped_perm retained receipts).symm
    . intro status
      rw [commitTransaction_append_of_fresh hfresh rfl, statusCount_append,
        ← statusCount_droppedReceipts, ← h.2 status]
      simp only [committedCount, stagedTransaction, List.filter_append, List.map_append,
        List.sum_append, List.filter_cons, List.filter_nil, if_true, List.map_cons, List.map_nil,
        List.sum_cons, List.sum_nil]
      omega

def CompactionMarker.InReach (self : CompactionMarker) (files : LedgerFiles) : Prop :=
  files.ledger = some self.expected ∨ files.temp = some self.expected

def PendingSafe (appended : LedgerName → List Line) (files : LedgerFiles) : Prop :=
  match files.marker with
  | none => PendingKept appended (files.ledger.getD [])
  | some marker =>
    marker.InReach files
      ∧ marker.historyTransactionId = none
      ∧ PendingKept appended marker.expected

/-
A marker beside the receipts stands for its content together with its transaction: once the one is
in the ledger, the other is committed before the marker goes.
-/
def ReceiptsSafe (appended : LedgerName → List Line) (files : LedgerFiles)
    (history : List HistoryTransaction)
    : Prop :=
  match files.marker with
  | none => ReceiptsKept appended (files.ledger.getD []) history
  | some marker =>
    marker.InReach files
      ∧ ∃ transactionId, marker.historyTransactionId = some transactionId
        ∧ (∃ transaction ∈ history, transaction.transactionId = transactionId)
        ∧ ReceiptsKept appended marker.expected (commitTransaction transactionId history)

def Safe (appended : LedgerName → List Line) (files : QueueFiles) : Prop :=
  PendingSafe appended files.pending ∧ ReceiptsSafe appended files.receipts files.history

def PendingSettled (files : LedgerFiles) : Prop :=
  ∀ marker, files.marker = some marker → files.ledger = some marker.expected

def ReceiptsSettled (files : LedgerFiles) (history : List HistoryTransaction) : Prop :=
  ∀ marker, files.marker = some marker →
    files.ledger = some marker.expected
      ∧ ∀ transactionId, marker.historyTransactionId = some transactionId →
        ∀ transaction ∈ history,
          transaction.transactionId = transactionId → transaction.committed = true

theorem PendingSafe.of_none {appended : LedgerName → List Line} {files : LedgerFiles}
    (hmarker : files.marker = none) (h : PendingKept appended (files.ledger.getD []))
    : PendingSafe appended files := by
  unfold PendingSafe
  rw [hmarker]
  exact h

theorem PendingSafe.of_some {appended : LedgerName → List Line} {files : LedgerFiles}
    {marker : CompactionMarker} (hmarker : files.marker = some marker)
    (hreach : marker.InReach files) (hstaged : marker.historyTransactionId = none)
    (h : PendingKept appended marker.expected)
    : PendingSafe appended files := by
  unfold PendingSafe
  rw [hmarker]
  exact ⟨hreach, hstaged, h⟩

theorem PendingSafe.kept {appended : LedgerName → List Line} {files : LedgerFiles}
    (h : PendingSafe appended files) (hsettled : PendingSettled files)
    : PendingKept appended (files.ledger.getD []) := by
  unfold PendingSafe at h
  cases hmarker : files.marker with
  | none =>
    rw [hmarker] at h
    exact h
  | some marker =>
    rw [hmarker] at h
    rw [hsettled marker hmarker]
    exact h.2.2

theorem ReceiptsSafe.of_none {appended : LedgerName → List Line} {files : LedgerFiles}
    (hmarker : files.marker = none) (h : ReceiptsKept appended (files.ledger.getD []) history)
    : ReceiptsSafe appended files history := by
  unfold ReceiptsSafe
  rw [hmarker]
  exact h

theorem ReceiptsSafe.of_some {appended : LedgerName → List Line} {files : LedgerFiles}
    {marker : CompactionMarker} (hmarker : files.marker = some marker)
    (hreach : marker.InReach files) (hstaged : marker.historyTransactionId = some transactionId)
    (hmem : ∃ transaction ∈ history, transaction.transactionId = transactionId)
    (h : ReceiptsKept appended marker.expected (commitTransaction transactionId history))
    : ReceiptsSafe appended files history := by
  unfold ReceiptsSafe
  rw [hmarker]
  exact ⟨hreach, transactionId, hstaged, hmem, h⟩

theorem ReceiptsSafe.kept {appended : LedgerName → List Line} {files : LedgerFiles}
    (h : ReceiptsSafe appended files history) (hsettled : ReceiptsSettled files history)
    : ReceiptsKept appended (files.ledger.getD []) history := by
  unfold ReceiptsSafe at h
  cases hmarker : files.marker with
  | none =>
    rw [hmarker] at h
    exact h
  | some marker =>
    rw [hmarker] at h
    have hs := hsettled marker hmarker
    cases h.2 with
    | intro transactionId h =>
      rw [commitTransaction_of_committed (hs.2 transactionId h.1)] at h
      rw [hs.1]
      exact h.2.2

theorem ReceiptsSafe.of_settled {appended : LedgerName → List Line} {files files' : LedgerFiles}
    {history' : List HistoryTransaction} (h : ReceiptsSafe appended files history)
    (hsettled : ReceiptsSettled files history) (hmarker : files'.marker = files.marker)
    (hledger : files'.ledger = files.ledger)
    (hcommitted : ∀ transaction ∈ history, transaction.committed = true → transaction ∈ history')
    (hcounts : ∀ status, committedCount history' status = committedCount history status)
    (hids : ∀ marker transactionId, files.marker = some marker →
      marker.historyTransactionId = some transactionId →
      ∀ transaction ∈ history',
        transaction.transactionId = transactionId → transaction.committed = true)
    : ReceiptsSafe appended files' history' ∧ ReceiptsSettled files' history' := by
  have hkept := (h.kept hsettled).of_counts hcounts
  have hsettled' : ReceiptsSettled files' history' := by
    intro marker hm
    rw [hmarker] at hm
    refine ⟨?_, ?_⟩
    . rw [hledger]
      exact (hsettled marker hm).1
    . intro transactionId hid
      exact hids marker transactionId hm hid
  refine ⟨?_, hsettled'⟩
  cases hm : files.marker with
  | none =>
    apply ReceiptsSafe.of_none
    . rw [hmarker, hm]
    . rw [hledger]
      exact hkept
  | some marker =>
    unfold ReceiptsSafe at h
    rw [hm] at h
    cases h.2 with
    | intro transactionId h =>
      have hl := (hsettled marker hm).1
      rw [hl] at hkept
      apply ReceiptsSafe.of_some (hmarker.trans hm) (Or.inl (hledger.trans hl)) h.1
      . cases h.2.1 with
        | intro transaction hmem =>
          have hc := (hsettled marker hm).2 transactionId h.1 transaction hmem.1 hmem.2
          exact ⟨transaction, hcommitted transaction hmem.1 hc, hmem.2⟩
      . rw [commitTransaction_of_committed (hids marker transactionId hm h.1)]
        exact hkept

variable {name : LedgerName}

theorem apply_renameTemp {files : QueueFiles} {lines : List Line}
    (htemp : (files.get name).temp = some lines)
    : FileOp.apply (.renameTemp name) files
        = some (files.set name { files.get name with ledger := some lines, temp := none }) := by
  simp [FileOp.apply, htemp]

theorem apply_commitHistory {files : QueueFiles}
    (h : ∃ transaction ∈ files.history, transaction.transactionId = transactionId)
    : FileOp.apply (.commitHistory transactionId) files
        = some { files with history := commitTransaction transactionId files.history } := by
  simp only [FileOp.apply]
  rw [if_pos]
  simpa using h

def SameReceipts (files files' : QueueFiles) : Prop :=
  files'.receipts = files.receipts ∧ files'.history = files.history

section Recovery

variable {appended : LedgerName → List Line} {files : QueueFiles}

theorem keeps_removeMarker_pending {before : QueueFiles} (h : Safe appended files)
    (hsettled : PendingSettled files.pending) (hsame : SameReceipts before files)
    : Script.Keeps FileOp.apply (Safe appended)
        (fun files' => PendingSettled files'.pending ∧ SameReceipts before files')
        (.ignoring (.removeMarker .pending) .done) files := by
  apply Script.Keeps.ignoring rfl
  . exact ⟨h, hsettled, hsame⟩
  . refine ⟨⟨?_, h.2⟩, ?_, hsame⟩
    . exact PendingSafe.of_none rfl (h.1.kept hsettled)
    . intro marker hmarker
      contradiction

theorem keeps_recover_pending (h : Safe appended files)
    : Script.Keeps FileOp.apply (Safe appended)
        (fun files' => PendingSettled files'.pending ∧ SameReceipts files files')
        (recoverRuntimeQueueLedgerCompaction .pending) files := by
  refine ⟨h, ?_⟩
  simp only [QueueFiles.get]
  cases hm : files.pending.marker with
  | none =>
    refine ⟨h, ?_, rfl, rfl⟩
    intro marker hmarker
    rw [hm] at hmarker
    contradiction
  | some marker =>
    have hp := h.1
    unfold PendingSafe at hp
    rw [hm] at hp
    simp only [recoverFromMarker, hp.2.1, commitStaged]
    by_cases hl : files.pending.ledger = some marker.expected
    . rw [if_pos hl]
      have hsettled : ∀ temp, PendingSettled { files.pending with temp } := by
        intro temp other hother
        rw [hm, Option.some.injEq] at hother
        rw [← hother]
        exact hl
      apply Script.Keeps.ignoring rfl
      . exact keeps_removeMarker_pending h (hsettled _) ⟨rfl, rfl⟩
      . refine keeps_removeMarker_pending ⟨?_, h.2⟩ (hsettled none) ⟨rfl, rfl⟩
        exact PendingSafe.of_some hm (Or.inl hl) hp.2.1 hp.2.2
    . have ht : files.pending.temp = some marker.expected := by
        cases hp.1 with
        | inl hledger => contradiction
        | inr htemp => exact htemp
      rw [if_neg hl, if_pos ht]
      have hremoved : Safe appended (files.set .pending { files.pending with ledger := none }) :=
        ⟨PendingSafe.of_some hm (Or.inr ht) hp.2.1 hp.2.2, h.2⟩
      refine Script.Keeps.op rfl h (Script.Keeps.failed h) ?_
      refine Script.Keeps.op (apply_renameTemp ht) hremoved (Script.Keeps.failed hremoved) ?_
      refine keeps_removeMarker_pending ⟨?_, h.2⟩ ?_ ⟨rfl, rfl⟩
      . exact PendingSafe.of_some hm (Or.inl rfl) hp.2.1 hp.2.2
      . intro other hother
        have hother : files.pending.marker = some other := hother
        rw [hm, Option.some.injEq] at hother
        rw [← hother]
        rfl

theorem keeps_removeMarker_receipts (h : Safe appended files)
    (hsettled : ReceiptsSettled files.receipts files.history)
    : Script.Keeps FileOp.apply (Safe appended)
        (fun files' => ReceiptsSettled files'.receipts files'.history)
        (.ignoring (.removeMarker .receipts) .done) files := by
  apply Script.Keeps.ignoring rfl
  . exact ⟨h, hsettled⟩
  . refine ⟨⟨h.1, ?_⟩, ?_⟩
    . exact ReceiptsSafe.of_none rfl (h.2.kept hsettled)
    . intro marker hmarker
      contradiction

theorem ReceiptsSafe.commit (ledgers : LedgerFiles) {history : List HistoryTransaction}
    {marker : CompactionMarker} {transactionId : String}
    (hmarker : ledgers.marker = some marker) (hledger : ledgers.ledger = some marker.expected)
    (hstaged : marker.historyTransactionId = some transactionId)
    (hmem : ∃ transaction ∈ history, transaction.transactionId = transactionId)
    (h : ReceiptsKept appended marker.expected (commitTransaction transactionId history))
    : ReceiptsSafe appended ledgers (commitTransaction transactionId history)
        ∧ ReceiptsSettled ledgers (commitTransaction transactionId history) := by
  refine ⟨?_, ?_⟩
  . apply ReceiptsSafe.of_some hmarker (Or.inl hledger) hstaged
    . exact exists_mem_commitTransaction hmem
    . rw [commitTransaction_commitTransaction]
      exact h
  . intro other hother
    rw [hmarker, Option.some.injEq] at hother
    rw [← hother]
    refine ⟨hledger, ?_⟩
    intro otherId hid
    rw [hstaged, Option.some.injEq] at hid
    rw [← hid]
    exact committed_commitTransaction transactionId history

theorem keeps_recover_receipts (h : Safe appended files)
    : Script.Keeps FileOp.apply (Safe appended)
        (fun files' => ReceiptsSettled files'.receipts files'.history)
        (recoverRuntimeQueueLedgerCompaction .receipts) files := by
  refine ⟨h, ?_⟩
  simp only [QueueFiles.get]
  cases hm : files.receipts.marker with
  | none =>
    refine ⟨h, ?_⟩
    intro marker hmarker
    rw [hm] at hmarker
    contradiction
  | some marker =>
    have hr := h.2
    unfold ReceiptsSafe at hr
    rw [hm] at hr
    cases hr.2 with
    | intro transactionId hstaged =>
      simp only [recoverFromMarker, hstaged.1, commitStaged]
      by_cases hl : files.receipts.ledger = some marker.expected
      . rw [if_pos hl]
        have hcommit := fun temp =>
          ReceiptsSafe.commit { files.receipts with temp } hm hl hstaged.1 hstaged.2.1 hstaged.2.2
        refine Script.Keeps.op (apply_commitHistory hstaged.2.1) h (Script.Keeps.failed h) ?_
        apply Script.Keeps.ignoring rfl
        . exact keeps_removeMarker_receipts ⟨h.1, (hcommit _).1⟩ (hcommit _).2
        . exact keeps_removeMarker_receipts ⟨h.1, (hcommit none).1⟩ (hcommit none).2
      . have ht : files.receipts.temp = some marker.expected := by
          cases hr.1 with
          | inl hledger => contradiction
          | inr htemp => exact htemp
        rw [if_neg hl, if_pos ht]
        have hremoved : Safe appended (files.set .receipts { files.receipts with ledger := none }) :=
          ⟨h.1, ReceiptsSafe.of_some hm (Or.inr ht) hstaged.1 hstaged.2.1 hstaged.2.2⟩
        have hrenamed : Safe appended (files.set .receipts
            { files.receipts with ledger := some marker.expected, temp := none }) :=
          ⟨h.1, ReceiptsSafe.of_some hm (Or.inl rfl) hstaged.1 hstaged.2.1 hstaged.2.2⟩
        have hcommit := ReceiptsSafe.commit
          { files.receipts with ledger := some marker.expected, temp := none } hm rfl hstaged.1
          hstaged.2.1 hstaged.2.2
        refine Script.Keeps.op rfl h (Script.Keeps.failed h) ?_
        refine Script.Keeps.op (apply_renameTemp ht) hremoved (Script.Keeps.failed hremoved) ?_
        refine Script.Keeps.op (apply_commitHistory hstaged.2.1) hrenamed (Script.Keeps.failed hrenamed) ?_
        exact keeps_removeMarker_receipts ⟨h.1, hcommit.1⟩ hcommit.2

end Recovery

section Replacement

variable {appended : LedgerName → List Line} {files : QueueFiles}

variable {ledgers : LedgerFiles}

theorem PendingSafe.of_settled {ledgers' : LedgerFiles} (h : PendingSafe appended ledgers)
    (hsettled : PendingSettled ledgers) (hmarker : ledgers'.marker = ledgers.marker)
    (hledger : ledgers'.ledger = ledgers.ledger)
    : PendingSafe appended ledgers' := by
  have hkept := h.kept hsettled
  cases hm : ledgers.marker with
  | none =>
    apply PendingSafe.of_none
    . rw [hmarker, hm]
    . rw [hledger]
      exact hkept
  | some marker =>
    unfold PendingSafe at h
    rw [hm] at h
    have hl := hsettled marker hm
    exact PendingSafe.of_some (hmarker.trans hm) (Or.inl (hledger.trans hl)) h.2.1 h.2.2

theorem keeps_abandonStaged (staged : Option String) {post : QueueFiles → Prop}
    (h : Safe appended files)
    : Script.Keeps FileOp.apply (Safe appended) post (abandonStaged staged) files := by
  cases staged with
  | none => exact Script.Keeps.failed h
  | some transactionId =>
    refine ⟨h, ?_⟩
    cases hm : files.receipts.marker with
    | some marker =>
      simp only [hm, Option.isSome_some, if_true]
      exact Script.Keeps.failed h
    | none =>
      simp only [hm, Option.isSome_none, Bool.false_eq_true, if_false]
      have hr := h.2
      unfold ReceiptsSafe at hr
      rw [hm] at hr
      refine Script.Keeps.op rfl h (Script.Keeps.failed h) ?_
      apply Script.Keeps.failed
      refine ⟨h.1, ReceiptsSafe.of_none hm (hr.of_counts ?_)⟩
      intro status
      apply committedCount_discard

theorem keeps_replace_pending {snapshot : List Line} (maxArchives : Nat) (h : Safe appended files)
    (hsettled : PendingSettled files.pending) (hsnapshot : PendingKept appended snapshot)
    : Script.Keeps FileOp.apply (Safe appended)
        (fun files' => PendingSettled files'.pending ∧ SameReceipts files files')
        (replaceRuntimeQueueLedgerWithSnapshot .pending files.pending snapshot maxArchives none)
        files := by
  unfold replaceRuntimeQueueLedgerWithSnapshot
  cases hl : files.pending.ledger with
  | none => exact ⟨h, hsettled, rfl, rfl⟩
  | some original =>
    by_cases hsame : original = snapshot
    . simp only [if_pos hsame]
      exact ⟨h, hsettled, rfl, rfl⟩
    . simp only [if_neg hsame, commitStaged]
      -- until the marker is there, the ledger is what it was
      have hbefore : ∀ temp archives,
          Safe appended (files.set .pending { files.pending with temp, archives }) := by
        intro temp archives
        exact ⟨h.1.of_settled hsettled rfl rfl, h.2⟩
      have hafter : ∀ ledger temp archives, ledger = some snapshot ∨ temp = some snapshot →
          Safe appended (files.set .pending {
            ledger
            temp
            archives
            marker := some ⟨snapshot, original, none⟩ }) := by
        intro ledger temp archives hreach
        exact ⟨PendingSafe.of_some rfl hreach rfl hsnapshot, h.2⟩
      refine Script.Keeps.op rfl h (keeps_abandonStaged none h) ?_
      refine Script.Keeps.op rfl (hbefore _ _) (keeps_abandonStaged none (hbefore _ _)) ?_
      refine Script.Keeps.op rfl (hbefore _ _) (keeps_abandonStaged none (hbefore _ _)) ?_
      have hmarked := hafter files.pending.ledger _ (original :: files.pending.archives) (Or.inr rfl)
      refine Script.Keeps.op rfl hmarked (keeps_abandonStaged none hmarked) ?_
      have hremoved := hafter none _ (original :: files.pending.archives) (Or.inr rfl)
      refine Script.Keeps.op rfl hremoved (keeps_abandonStaged none hremoved) ?_
      have hrenamed := hafter _ none (original :: files.pending.archives) (Or.inl rfl)
      refine Script.Keeps.op rfl hrenamed (keeps_abandonStaged none hrenamed) ?_
      have hpruned := hafter _ none ((original :: files.pending.archives).take (max maxArchives 1))
        (Or.inl rfl)
      refine keeps_removeMarker_pending hpruned ?_ ⟨rfl, rfl⟩
      intro marker hmarker
      have hmarker : some _ = some marker := hmarker
      rw [Option.some.injEq] at hmarker
      rw [← hmarker]
      rfl

theorem stageHistory_cases {transaction : HistoryTransaction} {files' : QueueFiles}
    (h : FileOp.apply (.stageHistory transaction) files = some files')
    : (∀ other ∈ files.history, other.transactionId ≠ transaction.transactionId)
        ∧ files' = { files with history := files.history ++ [transaction] } := by
  simp only [FileOp.apply] at h
  split at h
  . contradiction
  . rename_i hfresh
    rw [Option.some.injEq] at h
    refine ⟨?_, h.symm⟩
    intro other hmem hid
    apply hfresh
    rw [List.any_eq_true]
    exact ⟨other, hmem, decide_eq_true hid⟩

theorem ReceiptsSafe.stage {history : List HistoryTransaction} {transaction : HistoryTransaction}
    (h : ReceiptsSafe appended ledgers history) (hsettled : ReceiptsSettled ledgers history)
    (hfresh : ∀ other ∈ history, other.transactionId ≠ transaction.transactionId)
    (hstaged : transaction.committed = false)
    : ReceiptsSafe appended ledgers (history ++ [transaction])
        ∧ ReceiptsSettled ledgers (history ++ [transaction]) := by
  apply h.of_settled hsettled rfl rfl
  . intro other hmem _
    exact List.mem_append_left _ hmem
  . intro status
    exact committedCount_append_staged history hstaged status
  . intro marker transactionId hm hid other hmem hother
    cases List.mem_append.mp hmem with
    | inl hmem => exact (hsettled marker hm).2 transactionId hid other hmem hother
    | inr hmem =>
      unfold ReceiptsSafe at h
      rw [hm] at h
      cases h.2 with
      | intro stagedId h =>
        rw [h.1, Option.some.injEq] at hid
        cases h.2.1 with
        | intro old hold =>
          rw [List.mem_singleton] at hmem
          rw [hmem, ← hid, ← hold.2] at hother
          exact absurd hother.symm (hfresh old hold.1)

theorem ReceiptsSafe.of_same {ledgers' : LedgerFiles} {history : List HistoryTransaction}
    (h : ReceiptsSafe appended ledgers history) (hsettled : ReceiptsSettled ledgers history)
    (hmarker : ledgers'.marker = ledgers.marker) (hledger : ledgers'.ledger = ledgers.ledger)
    : ReceiptsSafe appended ledgers' history := by
  refine (h.of_settled hsettled hmarker hledger ?_ ?_ ?_).1
  . intro transaction hmem _
    exact hmem
  . intro status
    rfl
  . intro marker transactionId hm
    exact (hsettled marker hm).2 transactionId

theorem keeps_replace_receipts (files : QueueFiles) {snapshot : List Line} {transactionId : String}
    (maxArchives : Nat) (h : Safe appended files)
    (hsettled : ReceiptsSettled files.receipts files.history)
    (hmem : ∃ transaction ∈ files.history, transaction.transactionId = transactionId)
    (hsnapshot : ReceiptsKept appended snapshot (commitTransaction transactionId files.history))
    : Script.Keeps FileOp.apply (Safe appended) (fun _ => True)
        (replaceRuntimeQueueLedgerWithSnapshot .receipts files.receipts snapshot maxArchives
          (some transactionId))
        files := by
  unfold replaceRuntimeQueueLedgerWithSnapshot
  cases hl : files.receipts.ledger with
  | none => exact ⟨h, trivial⟩
  | some original =>
    by_cases hsame : original = snapshot
    . simp only [if_pos hsame]
      exact ⟨h, trivial⟩
    . simp only [if_neg hsame, commitStaged]
      have hbefore : ∀ temp archives,
          Safe appended (files.set .receipts { files.receipts with temp, archives }) := by
        intro temp archives
        exact ⟨h.1, h.2.of_same hsettled rfl rfl⟩
      have hafter : ∀ ledger temp archives, ledger = some snapshot ∨ temp = some snapshot →
          Safe appended (files.set .receipts {
            ledger
            temp
            archives
            marker := some ⟨snapshot, original, some transactionId⟩ }) := by
        intro ledger temp archives hreach
        exact ⟨h.1, ReceiptsSafe.of_some rfl hreach rfl hmem hsnapshot⟩
      have hcommitted := fun archives => ReceiptsSafe.commit {
        ledger := some snapshot
        temp := none
        archives
        marker := some ⟨snapshot, original, some transactionId⟩ } rfl rfl rfl hmem hsnapshot
      have habandon : ∀ {files'}, Safe appended files' →
          Script.Keeps FileOp.apply (Safe appended) (fun _ => True)
            (abandonStaged (some transactionId)) files' :=
        fun hsafe => keeps_abandonStaged (some transactionId) hsafe
      refine Script.Keeps.op rfl h (habandon h) ?_
      refine Script.Keeps.op rfl (hbefore _ _) (habandon (hbefore _ _)) ?_
      refine Script.Keeps.op rfl (hbefore _ _) (habandon (hbefore _ _)) ?_
      have hmarked :=
        hafter files.receipts.ledger _ (original :: files.receipts.archives) (Or.inr rfl)
      refine Script.Keeps.op rfl hmarked (habandon hmarked) ?_
      have hremoved := hafter none _ (original :: files.receipts.archives) (Or.inr rfl)
      refine Script.Keeps.op rfl hremoved (habandon hremoved) ?_
      have hrenamed := hafter _ none (original :: files.receipts.archives) (Or.inl rfl)
      refine Script.Keeps.op (apply_commitHistory hmem) hrenamed (habandon hrenamed) ?_
      have hdone := hcommitted (original :: files.receipts.archives)
      refine Script.Keeps.op rfl ⟨h.1, hdone.1⟩ (habandon ⟨h.1, hdone.1⟩) ?_
      have hpruned := hcommitted ((original :: files.receipts.archives).take (max maxArchives 1))
      apply Script.Keeps.mono (fun _ _ _ => trivial)
      exact keeps_removeMarker_receipts ⟨h.1, hpruned.1⟩ hpruned.2

theorem keeps_compactLedgers {receipts : List Line} (transactionId : String) (maxArchives : Nat)
    (h : Safe appended files) (hpending : PendingSettled files.pending)
    (hreceipts : ReceiptsSettled files.receipts files.history)
    (hledger : files.receipts.ledger = some receipts)
    : Script.Keeps FileOp.apply (Safe appended) (fun _ => True)
        (compactLedgers files receipts transactionId maxArchives) files := by
  have hkept : ReceiptsKept appended receipts files.history := by
    have hkept := h.2.kept hreceipts
    rw [hledger] at hkept
    exact hkept
  apply Script.Keeps.andThen
  apply Script.Keeps.mono _
    (keeps_replace_pending maxArchives h hpending ((h.1.kept hpending).snapshot hkept))
  intro files' hsafe hpost
  split
  . exact ⟨hsafe, trivial⟩
  . refine ⟨hsafe, Script.Keeps.failed hsafe, ?_⟩
    intro staged hstage
    have hcases := stageHistory_cases hstage
    have hsame : files'.receipts = files.receipts ∧ files'.history = files.history := hpost.2
    rw [← hsame.1, ← hsame.2] at hreceipts
    have hstaged := hsafe.2.stage hreceipts hcases.1 rfl
    have hstagedReceipts : staged.receipts = files.receipts := by
      rw [hcases.2]
      exact hsame.1
    rw [← hstagedReceipts]
    apply keeps_replace_receipts staged maxArchives
    . rw [hcases.2]
      exact ⟨hsafe.1, hstaged.1⟩
    . rw [hcases.2]
      exact hstaged.2
    . rw [hcases.2]
      exact ⟨_, List.mem_append_right _ (List.mem_singleton.mpr rfl), rfl⟩
    . rw [← hsame.2] at hkept
      rw [hcases.2]
      exact hkept.snapshot _ hcases.1

theorem keeps_cleanupStagedHistory (h : Safe appended files)
    (hreceipts : ReceiptsSettled files.receipts files.history)
    : ReceiptsSafe appended files.receipts (files.history.filter (·.committed))
        ∧ ReceiptsSettled files.receipts (files.history.filter (·.committed)) := by
  apply h.2.of_settled hreceipts rfl rfl
  . intro transaction hmem hcommitted
    exact List.mem_filter.mpr ⟨hmem, hcommitted⟩
  . exact committedCount_filter_committed files.history
  . intro marker transactionId _ _ transaction hmem _
    exact (List.mem_filter.mp hmem).2

theorem keeps_compactRuntimeQueueReceiptsIfNeeded (transactionId : String) (maxArchives : Nat)
    (overMaxBytes : Bool) (h : Safe appended files)
    : Script.Keeps FileOp.apply (Safe appended) (fun _ => True)
        (compactRuntimeQueueReceiptsIfNeeded transactionId maxArchives overMaxBytes) files := by
  apply Script.Keeps.andThen
  apply Script.Keeps.mono _ (keeps_recover_receipts h)
  intro recovered hsafe hreceipts
  apply Script.Keeps.andThen
  apply Script.Keeps.mono _ (keeps_recover_pending hsafe)
  intro settled hsafe hpost
  have hsame : settled.receipts = recovered.receipts ∧ settled.history = recovered.history :=
    hpost.2
  rw [← hsame.1, ← hsame.2] at hreceipts
  have hclean := keeps_cleanupStagedHistory hsafe hreceipts
  refine Script.Keeps.op rfl hsafe (Script.Keeps.failed hsafe) ⟨⟨hsafe.1, hclean.1⟩, ?_⟩
  cases hledger : settled.receipts.ledger with
  | none =>
    simp only [hledger]
    exact ⟨⟨hsafe.1, hclean.1⟩, trivial⟩
  | some receipts =>
    simp only [hledger]
    split
    . exact keeps_compactLedgers transactionId maxArchives ⟨hsafe.1, hclean.1⟩ hpost.1 hclean.2
        hledger
    . exact ⟨⟨hsafe.1, hclean.1⟩, trivial⟩

end Replacement

section Appends

variable {appended : LedgerName → List Line}

variable {ledger : List Line}

theorem PendingKept.append (h : PendingKept appended ledger) (line : Line)
    : PendingKept
        (fun other => if other = .pending then appended .pending ++ [line] else appended other)
        (ledger ++ [line]) := by
  unfold PendingKept keptRows at h ⊢
  simp only [if_true, reduceCtorEq, if_false, List.filter_append, List.map_append]
  apply List.Sublist.append h
  apply List.Sublist.map
  exact List.filter_sublist

theorem PendingKept.append_receipt (h : PendingKept appended ledger) (line : Line)
    : PendingKept
        (fun other => if other = .receipts then appended .receipts ++ [line] else appended other)
        ledger := by
  unfold PendingKept at h ⊢
  refine List.Sublist.trans ?_ h
  simp only [if_true, reduceCtorEq, if_false, keptRows_eq_filter]
  apply List.monotone_filter_right
  intro row
  apply rowKeeps_mono
  intro queueId
  apply terminalRunOnceEver_of_rows
  intro row hrow
  rw [List.filterMap_append]
  exact List.mem_append_left _ hrow

theorem ReceiptsKept.append {history : List HistoryTransaction}
    (h : ReceiptsKept appended ledger history) (line : Line)
    : ReceiptsKept
        (fun other => if other = .receipts then appended .receipts ++ [line] else appended other)
        (ledger ++ [line]) history := by
  cases h with
  | intro dropped h =>
    refine ⟨dropped, ?_, h.2⟩
    simp only [if_true, List.filterMap_append] at h ⊢
    rw [List.append_assoc]
    apply (h.1.append_right _).trans
    rw [List.append_assoc]
    apply List.Perm.append_left
    exact List.perm_append_comm

theorem ReceiptsSafe.append_pending {ledgers : LedgerFiles} {history : List HistoryTransaction}
    (h : ReceiptsSafe appended ledgers history) (line : Line)
    : ReceiptsSafe
        (fun other => if other = .pending then appended .pending ++ [line] else appended other)
        ledgers history := h

theorem PendingSafe.append_receipt {ledgers : LedgerFiles} (h : PendingSafe appended ledgers)
    (line : Line)
    : PendingSafe
        (fun other => if other = .receipts then appended .receipts ++ [line] else appended other)
        ledgers := by
  cases hm : ledgers.marker with
  | none =>
    unfold PendingSafe at h
    rw [hm] at h
    exact PendingSafe.of_none hm (h.append_receipt line)
  | some marker =>
    unfold PendingSafe at h
    rw [hm] at h
    exact PendingSafe.of_some hm h.1 h.2.1 (h.2.2.append_receipt line)

end Appends

/-
The script that has the locks keeps the ledgers safe from here to its end.
-/
def QueueSystem.Consistent (s : QueueSystem) : Prop :=
  Script.Keeps FileOp.apply (Safe s.appended) (fun _ => True) s.task s.files

theorem consistent_of_finished (hfinished : s.task.isFinished) (h : Safe s.appended s.files)
    : s.Consistent := by
  unfold QueueSystem.Consistent
  cases htask : s.task with
  | done => exact ⟨h, trivial⟩
  | failed => exact h
  | op o onError next => simp [htask, Script.isFinished] at hfinished
  | read next => simp [htask, Script.isFinished] at hfinished

theorem consistent_append (h : s.Consistent) (line : Line) (hfinished : s.task.isFinished)
    (hclean : (s.files.get name).marker.isNone)
    : (s.appendJsonlValue name line).Consistent := by
  have hsafe := Script.Keeps.isSafe h
  rw [Option.isNone_iff_eq_none] at hclean
  refine consistent_of_finished (s := s.appendJsonlValue name line) hfinished ?_
  cases name with
  | pending =>
    have hp := hsafe.1
    unfold PendingSafe at hp
    rw [show s.files.pending.marker = none from hclean] at hp
    exact ⟨PendingSafe.of_none hclean (hp.append line), hsafe.2.append_pending line⟩
  | receipts =>
    have hr := hsafe.2
    unfold ReceiptsSafe at hr
    rw [show s.files.receipts.marker = none from hclean] at hr
    exact ⟨hsafe.1.append_receipt line, ReceiptsSafe.of_none hclean (hr.append line)⟩

theorem consistent_perform (s : QueueSystem) (action : QueueAction) (h : s.Consistent)
    (hclean : appendsAreClean s action)
    : (s.perform action).Consistent := by
  have hsafe := Script.Keeps.isSafe h
  cases action with
  | append name line =>
    simp only [QueueSystem.perform]
    split
    . rename_i hfinished
      exact consistent_append h line hfinished hclean
    . exact h
  | recover name =>
    simp only [QueueSystem.perform]
    split
    . cases name with
      | pending => exact Script.Keeps.mono (fun _ _ _ => trivial) (keeps_recover_pending hsafe)
      | receipts => exact Script.Keeps.mono (fun _ _ _ => trivial) (keeps_recover_receipts hsafe)
    . exact h
  | compact transactionId maxArchives overMaxBytes =>
    simp only [QueueSystem.perform]
    split
    . exact keeps_compactRuntimeQueueReceiptsIfNeeded transactionId maxArchives overMaxBytes hsafe
    . exact h
  | step => exact Script.Keeps.step h
  | fail => exact Script.Keeps.fail h
  | crash => exact ⟨hsafe, trivial⟩

theorem consistent_start (pending receipts : Option (List Line))
    : (QueueSystem.start pending receipts).Consistent := by
  apply consistent_of_finished rfl
  refine ⟨PendingSafe.of_none rfl ?_, ReceiptsSafe.of_none rfl ?_⟩
  . unfold PendingKept keptRows
    apply List.Sublist.map
    exact List.filter_sublist
  . refine ⟨[], ?_, fun _ => rfl⟩
    rw [List.append_nil]
    exact List.Perm.refl _

theorem exists_steps_finish (files : QueueFiles) (task : LedgerScript)
    (appended : LedgerName → List Line)
    : ∃ n task', task'.isFinished = true
        ∧ Run.exec QueueSystem.perform { files, task, appended } (List.replicate n .step)
          = { files := task.finish FileOp.apply files, task := task', appended } := by
  -- one step of the system is one constructor of the script
  induction task generalizing files with
  | done => exact ⟨0, .done, rfl, rfl⟩
  | failed => exact ⟨0, .failed, rfl, rfl⟩
  | op o onError next ihError ihNext =>
    cases ho : o.apply files with
    | none =>
      cases ihError files with
      | intro n h =>
        refine ⟨n + 1, ?_⟩
        simpa [List.replicate_succ, QueueSystem.perform, Script.step, Script.finish, ho] using h
    | some files' =>
      cases ihNext files' with
      | intro n h =>
        refine ⟨n + 1, ?_⟩
        simpa [List.replicate_succ, QueueSystem.perform, Script.step, Script.finish, ho] using h
  | read next ih =>
    cases ih files files with
    | intro n h => exact ⟨n + 1, h⟩

theorem finish_recover_pending {appended : LedgerName → List Line} {files : QueueFiles}
    (h : PendingSafe appended files.pending)
    : ((recoverRuntimeQueueLedgerCompaction .pending).finish FileOp.apply files).pending.marker = none
        ∧ ((recoverRuntimeQueueLedgerCompaction .pending).finish FileOp.apply files).receipts
          = files.receipts := by
  simp only [recoverRuntimeQueueLedgerCompaction, Script.finish, QueueFiles.get]
  cases hm : files.pending.marker with
  | none => exact ⟨hm, rfl⟩
  | some marker =>
    unfold PendingSafe at h
    rw [hm] at h
    by_cases hl : files.pending.ledger = some marker.expected
    . simp only [recoverFromMarker, hl, if_true, h.2.1, commitStaged]
      exact ⟨rfl, rfl⟩
    . have ht : files.pending.temp = some marker.expected := h.1.resolve_left hl
      simp [recoverFromMarker, hl, ht, h.2.1, commitStaged, Script.finish, Script.ignoring,
        FileOp.apply, QueueFiles.get, QueueFiles.set]

theorem finish_recover_receipts {appended : LedgerName → List Line} {files : QueueFiles}
    (h : ReceiptsSafe appended files.receipts files.history)
    : ((recoverRuntimeQueueLedgerCompaction .receipts).finish FileOp.apply files).receipts.marker
        = none := by
  simp only [recoverRuntimeQueueLedgerCompaction, Script.finish, QueueFiles.get]
  cases hm : files.receipts.marker with
  | none => exact hm
  | some marker =>
    unfold ReceiptsSafe at h
    rw [hm] at h
    cases h.2 with
    | intro transactionId hstaged =>
      by_cases hl : files.receipts.ledger = some marker.expected
      . simp only [recoverFromMarker, hl, if_true, hstaged.1, commitStaged]
        rw [Script.finish_op (apply_commitHistory hstaged.2.1)]
        rfl
      . have ht : files.receipts.temp = some marker.expected := h.1.resolve_left hl
        have hmem : files.history.any (·.transactionId = transactionId) = true := by
          simpa using hstaged.2.1
        simp [recoverFromMarker, hl, ht, hstaged.1, commitStaged, Script.finish, Script.ignoring,
          FileOp.apply, QueueFiles.get, QueueFiles.set, hmem]

/-
What a recovered ledger has of the rows appended to it.
-/
def QueueSystem.RowsKept (s : QueueSystem) (name : LedgerName) : Prop :=
  match name with
  | .pending => PendingKept s.appended (s.files.pending.ledger.getD [])
  | .receipts => ReceiptsKept s.appended (s.files.receipts.ledger.getD []) s.files.history

theorem rowsKept_of_consistent (h : s.Consistent) (hmarker : (s.files.get name).marker = none)
    : s.RowsKept name := by
  have hsafe := Script.Keeps.isSafe h
  cases name with
  | pending =>
    have hp := hsafe.1
    unfold PendingSafe at hp
    rw [show s.files.pending.marker = none from hmarker] at hp
    exact hp
  | receipts =>
    have hr := hsafe.2
    unfold ReceiptsSafe at hr
    rw [show s.files.receipts.marker = none from hmarker] at hr
    exact hr

def recoveries (n m : Nat) : List QueueAction :=
  QueueAction.crash :: .recover .receipts :: List.replicate n .step
    ++ QueueAction.recover .pending :: List.replicate m .step

theorem guarded_recoveries (s : QueueSystem) (n m : Nat)
    : Run.Guarded QueueSystem.perform appendsAreClean s (recoveries n m) := by
  apply Run.guarded_of_forall
  intro action hmem s
  cases action with
  | append name line => simp [recoveries] at hmem
  | _ => exact trivial

theorem recoveries_clear (h : s.Consistent)
    : ∃ n m, ∀ name,
        ((Run.exec QueueSystem.perform s (recoveries n m)).files.get name).marker = none := by
  have hsafe := Script.Keeps.isSafe h
  have hreceipts := finish_recover_receipts hsafe.2
  have hrecovered := (keeps_recover_receipts hsafe).finish
  generalize hfiles :
    (recoverRuntimeQueueLedgerCompaction .receipts).finish FileOp.apply s.files = recovered
    at hreceipts hrecovered
  have hpending := finish_recover_pending hrecovered.1
  cases exists_steps_finish s.files (recoverRuntimeQueueLedgerCompaction .receipts) s.appended with
  | intro n hn =>
    cases exists_steps_finish recovered (recoverRuntimeQueueLedgerCompaction .pending)
      s.appended with
    | intro m hm =>
      cases hn with
      | intro task hn =>
        cases hm with
        | intro task' hm =>
          refine ⟨n, m, ?_⟩
          rw [hfiles] at hn
          have hfirst : Run.exec QueueSystem.perform s
              (.crash :: .recover .receipts :: List.replicate n .step)
                = { files := recovered, task, appended := s.appended } := hn.2
          have hsecond : QueueSystem.perform { files := recovered, task, appended := s.appended }
              (.recover .pending)
                = {
                  files := recovered
                  task := recoverRuntimeQueueLedgerCompaction .pending
                  appended := s.appended } := by
            simp only [QueueSystem.perform, hn.1, if_true, QueueSystem.begin]
          intro name
          rw [recoveries, Run.exec_append, hfirst, Run.exec_cons, hsecond, hm.2]
          cases name with
          | pending => exact hpending.1
          | receipts =>
            simp only [QueueFiles.get, hpending.2]
            exact hreceipts

/-
Whatever fails or is cut by a crash, a ledger without a marker has its rows, and the recoveries lead
there, provided that nobody appends to a ledger while its marker is there.
-/
theorem rows_kept_of_clean_appends (pending receipts : Option (List Line))
    (actions : List QueueAction)
    (hclean : Run.Guarded QueueSystem.perform appendsAreClean (QueueSystem.start pending receipts)
      actions)
    : (∀ name,
        ((Run.exec QueueSystem.perform (QueueSystem.start pending receipts) actions).files.get
          name).marker = none →
        (Run.exec QueueSystem.perform (QueueSystem.start pending receipts) actions).RowsKept name)
      ∧ ∃ n m, ∀ name,
        ((Run.exec QueueSystem.perform (QueueSystem.start pending receipts)
          (actions ++ recoveries n m)).files.get name).marker = none
        ∧ (Run.exec QueueSystem.perform (QueueSystem.start pending receipts)
          (actions ++ recoveries n m)).RowsKept name := by
  have hreach : ∀ calls, Run.Guarded QueueSystem.perform appendsAreClean
      (QueueSystem.start pending receipts) calls →
      (Run.exec QueueSystem.perform (QueueSystem.start pending receipts) calls).Consistent := by
    intro calls hcalls
    exact Run.exec_invariant_of_guarded QueueSystem.Consistent consistent_perform
      (consistent_start pending receipts) hcalls
  refine ⟨?_, ?_⟩
  . intro name hmarker
    exact rowsKept_of_consistent (hreach actions hclean) hmarker
  . cases recoveries_clear (hreach actions hclean) with
    | intro n h =>
      cases h with
      | intro m h =>
        refine ⟨n, m, ?_⟩
        intro name
        have hmarker := h name
        rw [← Run.exec_append] at hmarker
        refine ⟨hmarker, ?_⟩
        apply rowsKept_of_consistent _ hmarker
        apply hreach
        rw [Run.guarded_append]
        exact ⟨hclean, guarded_recoveries _ n m⟩

def sampleRow (queueId status : String) : Line :=
  let text := "\x7b\"queueId\":\"" ++ queueId ++ "\",\"status\":\"" ++ status ++ "\"\x7d"
  .value text text {
    queueId := some queueId
    status := some status
    schema := .absent
    compact := text }

def interruptedCompaction : List QueueAction :=
  QueueAction.compact "receipt-1" 1 true :: List.replicate 7 .step ++ [QueueAction.crash]

def sampleQueue : QueueSystem :=
  QueueSystem.start (some [sampleRow "q1" "queued"]) (some [sampleRow "q1" "completed"])

def appendAfterRecovery : List QueueAction :=
  interruptedCompaction ++ recoveries 5 5 ++ [QueueAction.append .pending (sampleRow "q2" "queued")]

def appendBeforeRecovery : List QueueAction :=
  interruptedCompaction ++ QueueAction.append .pending (sampleRow "q2" "queued") :: recoveries 5 5

theorem appendAfterRecovery_rows_kept
    : (Run.exec QueueSystem.perform sampleQueue appendAfterRecovery).RowsKept .pending := by
  apply (rows_kept_of_clean_appends _ _ appendAfterRecovery _).1
  . decide +kernel
  . decide +kernel

/-
The row that is enqueued between the interrupted compaction and its recovery is gone: the recovery
puts the snapshot from before it in the place of the ledger.
-/
theorem row_lost_to_recovery
    : ¬∀ pending receipts actions name,
        ((Run.exec QueueSystem.perform (QueueSystem.start pending receipts) actions).files.get
          name).marker = none →
        (Run.exec QueueSystem.perform (QueueSystem.start pending receipts) actions).RowsKept
          name := by
  intro h
  have hlost : ¬PendingKept (Run.exec QueueSystem.perform sampleQueue appendBeforeRecovery).appended
      ((Run.exec QueueSystem.perform sampleQueue appendBeforeRecovery).files.pending.ledger.getD
        []) := by
    unfold PendingKept
    decide +kernel
  apply hlost
  apply h _ _ appendBeforeRecovery .pending
  decide +kernel

end RuntimeQueue
