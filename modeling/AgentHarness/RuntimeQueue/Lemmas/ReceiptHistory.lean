import Mathlib.Data.List.Count
import AgentHarness.Lib.Ledger
import AgentHarness.RuntimeQueue.Lemmas.Compaction
import AgentHarness.RuntimeQueue.ReceiptHistory

/-!
The store of the receipt history against the list of transactions that the compaction of the ledgers works
with: each operation of the store is the operation on that list.
-/

namespace RuntimeQueue

def recordCount (records : List Record) (status : String) : Nat :=
  records.countP fun record => record.countedStatus = some status

theorem countedStatus_eq_bind (line : Line)
    : countedStatus line = line.record.bind Record.countedStatus := by
  unfold countedStatus
  cases line.record with
  | none => rfl
  | some record => rfl

theorem statusCount_eq_recordCount (lines : List Line) (status : String)
    : statusCount lines status = recordCount (parseJsonlRecords lines) status := by
  unfold statusCount recordCount parseJsonlRecords
  rw [List.countP_filterMap]
  apply List.countP_congr
  intro line _
  rw [countedStatus_eq_bind]
  cases line.record with
  | none => simp
  | some record => simp

theorem count_statusCounts (records : List Record) (status : String)
    : (statusCounts records).count status = recordCount records status := by
  unfold statusCounts recordCount
  rw [FMap.count_tally_ones, List.count_eq_countP, List.countP_filterMap]
  apply List.countP_congr
  intro record _
  cases record.countedStatus with
  | none => simp
  | some counted => simp

theorem recordCount_le_of_sublist {records others : List Record} (h : records.Sublist others)
    (status : String)
    : recordCount records status ≤ recordCount others status :=
  h.countP_le

theorem recordCount_diff {records others : List Record} (h : others.Sublist records)
    (status : String)
    : recordCount (records.diff others) status
        = recordCount records status - recordCount others status :=
  List.countP_diff h.subperm _

theorem sum_statusDeltas {original snapshot : FMap String Nat} {deltas : List (String × Nat)}
    (h : statusDeltas original snapshot = .ok deltas) (status : String)
    : ((deltas.filter (·.1 = status)).map (·.2)).sum
        = original.count status - snapshot.count status := by
  unfold statusDeltas at h
  split at h
  . cases h
  . cases h
    rw [List.filter_map, List.map_map]
    apply FMap.sum_entries_of_key original status fun key n => n - snapshot.count key
    simp

namespace HistoryStore

structure WellFormed (store : HistoryStore) : Prop where
  nodup : (store.transactions.map (·.transactionId)).Nodup
  deltas : ∀ row ∈ store.statusDeltas,
    row.transactionId ∈ store.transactions.map (·.transactionId)
  terminal : ∀ row ∈ store.terminalHistory,
    row.transactionId ∈ store.transactions.map (·.transactionId)

theorem wellFormed_empty : empty.WellFormed := by
  constructor
  . simp [empty]
  . simp [empty]
  . simp [empty]

def countDelta (self : HistoryStore) (transactionId status : String) : Nat :=
  (((self.statusDeltas.filter (·.status = status)).filter
    (·.transactionId = transactionId)).map (·.countDelta)).sum

def transaction (self : HistoryStore) (row : HistoryTransactionRow) : HistoryTransaction where
  transactionId := row.transactionId
  countDelta := self.countDelta row.transactionId
  committed := row.state = .committed

/-
What the store stands for.
-/
def history (self : HistoryStore) : List HistoryTransaction :=
  self.transactions.map self.transaction

theorem map_transactionId_history (self : HistoryStore)
    : self.history.map (·.transactionId) = self.transactions.map (·.transactionId) := by
  simp [history, transaction]

theorem isCommitted_iff (self : HistoryStore) (transactionId : String)
    : self.isCommitted transactionId = true ↔
        transactionId ∈ (self.history.filter (·.committed)).map (·.transactionId) := by
  simp only [isCommitted, history, transaction, List.any_eq_true, Bool.and_eq_true, decide_eq_true_eq,
    List.filter_map, List.map_map, List.mem_map, List.mem_filter, Function.comp_apply]
  constructor
  . rintro ⟨row, hmem, hid, hstate⟩
    exact ⟨row, ⟨hmem, hstate⟩, hid⟩
  . rintro ⟨row, ⟨hmem, hstate⟩, hid⟩
    exact ⟨row, hmem, hid, hstate⟩

theorem WellFormed.committed_nodup {self : HistoryStore} (h : self.WellFormed)
    : ((self.history.filter (·.committed)).map (·.transactionId)).Nodup := by
  apply List.Nodup.sublist (List.Sublist.map _ List.filter_sublist)
  rw [map_transactionId_history]
  exact h.nodup

theorem committedCount_history {self : HistoryStore} (h : self.WellFormed) (status : String)
    : committedCount self.history status
        = ((self.committedDeltas.filter (·.status = status)).map (·.countDelta)).sum := by
  have hsum := List.sum_of_keys h.committed_nodup StatusDeltaRow.transactionId
    StatusDeltaRow.countDelta (self.statusDeltas.filter (·.status = status))
  have hfilter : self.committedDeltas.filter (·.status = status)
      = (self.statusDeltas.filter (·.status = status)).filter
          (·.transactionId ∈ (self.history.filter (·.committed)).map (·.transactionId)) := by
    unfold committedDeltas
    rw [List.filter_filter, List.filter_filter]
    apply List.filter_congr
    intro row _
    rw [Bool.and_comm, Bool.eq_iff_iff, Bool.and_eq_true, Bool.and_eq_true, isCommitted_iff,
      decide_eq_true_iff (p := row.transactionId ∈ _)]
  rw [hfilter, ← hsum]
  simp [committedCount, history, transaction, countDelta, List.filter_map, List.map_map, Function.comp_def]

theorem countDelta_append_of_ne {self other : HistoryStore} {rows : List StatusDeltaRow}
    {transactionId : String} (hrows : other.statusDeltas = self.statusDeltas ++ rows)
    (hne : ∀ row ∈ rows, row.transactionId ≠ transactionId)
    : other.countDelta transactionId = self.countDelta transactionId := by
  funext status
  have hnone : (rows.filter (·.status = status)).filter (·.transactionId = transactionId) = [] := by
    rw [List.filter_eq_nil_iff]
    intro row hmem
    simpa using hne row (List.mem_of_mem_filter hmem)
  unfold countDelta
  rw [hrows, List.filter_append, List.filter_append, hnone, List.append_nil]

theorem countDelta_of_fresh {self : HistoryStore} (h : self.WellFormed) {transactionId : String}
    (hfresh : ∀ row ∈ self.transactions, row.transactionId ≠ transactionId) (status : String)
    : self.countDelta transactionId status = 0 := by
  have hnone : (self.statusDeltas.filter (·.status = status)).filter
      (·.transactionId = transactionId) = [] := by
    rw [List.filter_eq_nil_iff]
    intro row hmem
    obtain ⟨owner, howner, hid⟩ := List.mem_map.mp (h.deltas row (List.mem_of_mem_filter hmem))
    rw [← hid]
    simpa using hfresh owner howner
  simp [countDelta, hnone]

end HistoryStore

theorem sum_filter_ne_zero (deltas : List (String × Nat)) (status : String)
    : (((deltas.filter (·.2 ≠ 0)).filter (·.1 = status)).map (·.2)).sum
        = ((deltas.filter (·.1 = status)).map (·.2)).sum := by
  induction deltas with
  | nil => rfl
  | cons delta deltas ih =>
    by_cases hzero : delta.2 = 0
    . by_cases hstatus : delta.1 = status
      . simpa [hzero, hstatus] using ih
      . simpa [hzero, hstatus] using ih
    . by_cases hstatus : delta.1 = status
      . simpa [hzero, hstatus] using ih
      . simpa [hzero, hstatus] using ih

section Stage

variable {store : Option HistoryStore} {store' : HistoryStore} {transactionId : String}
  {original snapshot : List Line} {retained : List String} {nowMs : Int}

theorem stage_cases
    (h : stageRuntimeQueueReceiptHistory store transactionId original snapshot retained nowMs
      = .ok store')
    : ∃ deltas,
        statusDeltas (statusCounts (parseJsonlRecords original))
          (statusCounts (parseJsonlRecords snapshot)) = .ok deltas
        ∧ (∀ row ∈ (store.getD .empty).transactions, row.transactionId ≠ transactionId)
        ∧ store'.transactions = (store.getD .empty).transactions ++
            [{ transactionId, state := .staged, createdAtMs := nowMs, committedAtMs := none }]
        ∧ store'.statusDeltas = (store.getD .empty).statusDeltas ++
            (deltas.filter (·.2 ≠ 0)).map (fun delta =>
              { transactionId, status := delta.1, countDelta := delta.2 })
        ∧ store'.terminalHistory = (store.getD .empty).terminalHistory ++
            (latestTerminalRecords (parseJsonlRecords original) retained).entries.map (fun entry =>
              { transactionId, queueId := entry.1, status := entry.2, compactedAtMs := nowMs }) := by
  unfold stageRuntimeQueueReceiptHistory at h
  by_cases hblank : Text.trim transactionId = ""
  . simp [hblank, bind, Except.bind, throw, throwThe, MonadExceptOf.throw] at h
  . simp only [hblank, if_false] at h
    cases hdeltas : statusDeltas (statusCounts (parseJsonlRecords original))
      (statusCounts (parseJsonlRecords snapshot)) with
    | error e =>
      rw [hdeltas] at h
      cases h
    | ok deltas =>
      rw [hdeltas] at h
      refine ⟨deltas, rfl, ?_⟩
      by_cases hdup : (store.getD .empty).transactions.any (·.transactionId = transactionId) = true
      . simp [hdup, bind, Except.bind, throw, throwThe, MonadExceptOf.throw] at h
      . simp only [hdup] at h
        cases h
        refine ⟨?_, rfl, rfl, rfl⟩
        intro row hmem hid
        apply hdup
        rw [List.any_eq_true]
        exact ⟨row, hmem, by simpa using hid⟩

theorem wellFormed_stage (hwf : (store.getD .empty).WellFormed)
    (h : stageRuntimeQueueReceiptHistory store transactionId original snapshot retained nowMs
      = .ok store')
    : store'.WellFormed := by
  obtain ⟨deltas, -, hfresh, htransactions, hdeltas, hterminal⟩ := stage_cases h
  have hids : store'.transactions.map (·.transactionId)
      = (store.getD .empty).transactions.map (·.transactionId) ++ [transactionId] := by
    simp [htransactions]
  constructor
  . rw [htransactions]
    exact Ledger.nodup_concat hwf.nodup hfresh
  . rw [hids, hdeltas]
    intro row hmem
    cases List.mem_append.mp hmem with
    | inl hold => exact List.mem_append_left _ (hwf.deltas row hold)
    | inr hnew =>
      obtain ⟨delta, -, heq⟩ := List.mem_map.mp hnew
      simp [← heq]
  . rw [hids, hterminal]
    intro row hmem
    cases List.mem_append.mp hmem with
    | inl hold => exact List.mem_append_left _ (hwf.terminal row hold)
    | inr hnew =>
      obtain ⟨entry, -, heq⟩ := List.mem_map.mp hnew
      simp [← heq]

theorem history_stage (hwf : (store.getD .empty).WellFormed)
    (h : stageRuntimeQueueReceiptHistory store transactionId original snapshot retained nowMs
      = .ok store')
    : store'.history
        = (store.getD .empty).history ++ [stagedTransaction transactionId original snapshot] := by
  obtain ⟨deltas, hok, hfresh, htransactions, hdeltas, -⟩ := stage_cases h
  have hold : ∀ row ∈ (store.getD .empty).transactions,
      store'.transaction row = (store.getD .empty).transaction row := by
    intro row hmem
    unfold HistoryStore.transaction
    rw [HistoryStore.countDelta_append_of_ne hdeltas]
    intro delta hdelta
    obtain ⟨entry, -, heq⟩ := List.mem_map.mp hdelta
    rw [← heq]
    exact Ne.symm (hfresh row hmem)
  have hnew : ∀ status, store'.countDelta transactionId status
      = statusCount original status - statusCount snapshot status := by
    intro status
    have hzero := HistoryStore.countDelta_of_fresh hwf hfresh status
    unfold HistoryStore.countDelta at hzero ⊢
    rw [hdeltas, List.filter_append, List.filter_append, List.map_append, List.sum_append, hzero,
      Nat.zero_add, statusCount_eq_recordCount, statusCount_eq_recordCount, ← count_statusCounts,
      ← count_statusCounts, ← sum_statusDeltas hok status, ← sum_filter_ne_zero]
    simp [List.filter_map, List.map_map, Function.comp_def]
  unfold HistoryStore.history
  rw [htransactions, List.map_append, List.map_congr_left hold]
  congr 1
  simp only [List.map_cons, List.map_nil, HistoryStore.transaction, stagedTransaction]
  simp [funext hnew]

end Stage

section Commit

variable {store store' : HistoryStore} {transactionId : String} {committedAtMs : Int}

theorem state_of_not_staged {row : HistoryTransactionRow} (hid : row.transactionId = transactionId)
    (h : row.isStaged transactionId = false)
    : row.state = .committed := by
  unfold HistoryTransactionRow.isStaged at h
  cases hstate : row.state with
  | staged => simp [hid, hstate] at h
  | committed => rfl

theorem exists_store_of_commit {stored : Option HistoryStore}
    (h : commitRuntimeQueueReceiptHistory stored transactionId committedAtMs = .ok store')
    : ∃ store, stored = some store := by
  cases stored with
  | none => cases h
  | some store => exact ⟨store, rfl⟩

theorem commit_cases
    (h : commitRuntimeQueueReceiptHistory (some store) transactionId committedAtMs = .ok store')
    : store'.statusDeltas = store.statusDeltas
      ∧ store'.terminalHistory = store.terminalHistory
      ∧ (store.transactions.any (·.isStaged transactionId) = false ∧ store' = store
        ∨ store'.transactions = store.transactions.map fun row =>
            if row.isStaged transactionId then
              { row with state := .committed, committedAtMs := some committedAtMs }
            else
              row) := by
  unfold commitRuntimeQueueReceiptHistory at h
  by_cases hstaged : store.transactions.any (·.isStaged transactionId) = true
  . simp only [hstaged, if_true] at h
    cases h
    exact ⟨rfl, rfl, .inr rfl⟩
  . simp only [hstaged] at h
    by_cases hfound : store.transactions.any (·.transactionId = transactionId) = true
    . simp only [hfound, if_true] at h
      cases h
      exact ⟨rfl, rfl, .inl ⟨by simpa using hstaged, rfl⟩⟩
    . simp only [hfound] at h
      cases h

theorem map_transactionId_commit
    (h : commitRuntimeQueueReceiptHistory (some store) transactionId committedAtMs = .ok store')
    : store'.transactions.map (·.transactionId) = store.transactions.map (·.transactionId) := by
  obtain ⟨-, -, ⟨-, hsame⟩ | hrows⟩ := commit_cases h
  . rw [hsame]
  . rw [hrows, List.map_map]
    apply List.map_congr_left
    intro row _
    by_cases hstaged : row.isStaged transactionId = true
    . simp [hstaged]
    . simp [hstaged]

theorem wellFormed_commit (hwf : store.WellFormed)
    (h : commitRuntimeQueueReceiptHistory (some store) transactionId committedAtMs = .ok store')
    : store'.WellFormed := by
  have hids := map_transactionId_commit h
  obtain ⟨hdeltas, hterminal, -⟩ := commit_cases h
  constructor
  . rw [hids]
    exact hwf.nodup
  . rw [hids, hdeltas]
    exact hwf.deltas
  . rw [hids, hterminal]
    exact hwf.terminal

theorem history_commit
    (h : commitRuntimeQueueReceiptHistory (some store) transactionId committedAtMs = .ok store')
    : store'.history = commitTransaction transactionId store.history := by
  obtain ⟨hdeltas, -, ⟨hnone, hsame⟩ | hrows⟩ := commit_cases h
  . rw [hsame, commitTransaction_of_committed]
    intro transaction hmem hid
    obtain ⟨row, hrow, heq⟩ := List.mem_map.mp hmem
    rw [← heq] at hid ⊢
    have hstate := state_of_not_staged hid (by simpa using List.any_eq_false.mp hnone row hrow)
    simp [HistoryStore.transaction, hstate]
  . unfold HistoryStore.history commitTransaction
    rw [hrows, List.map_map, List.map_map]
    apply List.map_congr_left
    intro row _
    have hcount : ∀ other, store'.countDelta other = store.countDelta other := by
      intro other
      funext status
      simp [HistoryStore.countDelta, hdeltas]
    by_cases hid : row.transactionId = transactionId
    . cases hstaged : row.isStaged transactionId with
      | true => simp [HistoryStore.transaction, hid, hstaged, hcount]
      | false =>
        simp [HistoryStore.transaction, hid, hstaged, hcount, state_of_not_staged hid hstaged]
    . have hstaged : row.isStaged transactionId = false := by
        simp [HistoryTransactionRow.isStaged, hid]
      simp [HistoryStore.transaction, hid, hstaged, hcount]

theorem commit_of_mem (hmem : transactionId ∈ store.transactions.map (·.transactionId))
    (committedAtMs : Int)
    : ∃ store',
        commitRuntimeQueueReceiptHistory (some store) transactionId committedAtMs = .ok store' := by
  unfold commitRuntimeQueueReceiptHistory
  by_cases hstaged : store.transactions.any (·.isStaged transactionId) = true
  . simp [hstaged]
  . have hfound : store.transactions.any (·.transactionId = transactionId) = true := by
      simpa using hmem
    simp [hstaged, hfound]

theorem mem_of_commit
    (h : commitRuntimeQueueReceiptHistory (some store) transactionId committedAtMs = .ok store')
    : transactionId ∈ store.transactions.map (·.transactionId) := by
  unfold commitRuntimeQueueReceiptHistory at h
  by_cases hfound : store.transactions.any (·.transactionId = transactionId) = true
  . simpa using hfound
  . have hstaged : store.transactions.any (·.isStaged transactionId) = false := by
      rw [List.any_eq_false]
      intro row hmem hrow
      apply hfound
      rw [List.any_eq_true]
      refine ⟨row, hmem, ?_⟩
      simp only [HistoryTransactionRow.isStaged, Bool.and_eq_true] at hrow
      exact hrow.1
    simp [hstaged, hfound] at h

theorem not_staged_of_commit
    (h : commitRuntimeQueueReceiptHistory (some store) transactionId committedAtMs = .ok store')
    : store'.transactions.any (·.isStaged transactionId) = false := by
  obtain ⟨-, -, ⟨hnone, hsame⟩ | hrows⟩ := commit_cases h
  . rw [hsame]
    exact hnone
  . rw [hrows, List.any_map, List.any_eq_false]
    intro row _
    by_cases hstaged : row.isStaged transactionId = true
    . rw [Function.comp_apply, if_pos hstaged]
      simp [HistoryTransactionRow.isStaged]
    . rw [Function.comp_apply, if_neg hstaged]
      exact hstaged

theorem commit_commit
    (h : commitRuntimeQueueReceiptHistory (some store) transactionId committedAtMs = .ok store')
    (laterMs : Int)
    : commitRuntimeQueueReceiptHistory (some store') transactionId laterMs = .ok store' := by
  have hmem := mem_of_commit h
  rw [← map_transactionId_commit h] at hmem
  have hfound : store'.transactions.any (·.transactionId = transactionId) = true := by
    simpa using hmem
  simp [commitRuntimeQueueReceiptHistory, not_staged_of_commit h, hfound]

end Commit

section Delete

variable {store : HistoryStore} {doomed : HistoryTransactionRow → Bool}

theorem gone_iff (hwf : store.WellFormed) {row : HistoryTransactionRow}
    (hmem : row ∈ store.transactions)
    : store.transactions.any (fun other =>
        doomed other && other.transactionId = row.transactionId) = doomed row := by
  rw [Bool.eq_iff_iff, List.any_eq_true]
  constructor
  . rintro ⟨other, hother, h⟩
    rw [Bool.and_eq_true, decide_eq_true_eq] at h
    rw [← List.inj_on_of_nodup_map hwf.nodup hother hmem h.2]
    exact h.1
  . intro h
    exact ⟨row, hmem, by simp [h]⟩

theorem wellFormed_deleteTransactions (hwf : store.WellFormed)
    (doomed : HistoryTransactionRow → Bool)
    : (store.deleteTransactions doomed).WellFormed := by
  have hkept : ∀ transactionId ∈ store.transactions.map (·.transactionId),
      store.transactions.any (fun row => doomed row && row.transactionId = transactionId) = false →
      transactionId ∈ (store.deleteTransactions doomed).transactions.map (·.transactionId) := by
    intro transactionId hmem hgone
    obtain ⟨row, hrow, hid⟩ := List.mem_map.mp hmem
    rw [← hid, gone_iff hwf hrow] at hgone
    rw [← hid]
    apply List.mem_map_of_mem
    exact List.mem_filter.mpr ⟨hrow, by simp [hgone]⟩
  constructor
  . exact hwf.nodup.sublist (List.Sublist.map _ List.filter_sublist)
  . intro row hmem
    obtain ⟨hrow, hgone⟩ := List.mem_filter.mp hmem
    exact hkept _ (hwf.deltas row hrow) (by simpa using hgone)
  . intro row hmem
    obtain ⟨hrow, hgone⟩ := List.mem_filter.mp hmem
    exact hkept _ (hwf.terminal row hrow) (by simpa using hgone)

theorem history_deleteTransactions (hwf : store.WellFormed)
    (doomed : HistoryTransactionRow → Bool)
    : (store.deleteTransactions doomed).history
        = (store.transactions.filter fun row => !doomed row).map store.transaction := by
  apply List.map_congr_left
  intro row hmem
  obtain ⟨hrow, hkept⟩ := List.mem_filter.mp hmem
  have hcount : (store.deleteTransactions doomed).countDelta row.transactionId
      = store.countDelta row.transactionId := by
    funext status
    unfold HistoryStore.countDelta HistoryStore.deleteTransactions
    dsimp only
    congr 2
    rw [List.filter_filter, List.filter_filter, List.filter_filter]
    apply List.filter_congr
    intro delta _
    by_cases hid : delta.transactionId = row.transactionId
    . rw [hid, gone_iff hwf hrow]
      simp [hkept]
    . simp [hid]
  simp [HistoryStore.transaction, hcount]

theorem history_discard (hwf : store.WellFormed) (transactionId : String)
    : (store.deleteTransactions (·.isStaged transactionId)).history
        = store.history.filter fun transaction =>
            transaction.transactionId ≠ transactionId || transaction.committed := by
  rw [history_deleteTransactions hwf, HistoryStore.history, List.filter_map]
  congr 1
  apply List.filter_congr
  intro row _
  cases hstate : row.state with
  | staged => simp [HistoryTransactionRow.isStaged, HistoryStore.transaction, hstate]
  | committed => simp [HistoryTransactionRow.isStaged, HistoryStore.transaction, hstate]

theorem history_cleanup (hwf : store.WellFormed)
    : (store.deleteTransactions (·.state = .staged)).history
        = store.history.filter (·.committed) := by
  rw [history_deleteTransactions hwf, HistoryStore.history, List.filter_map]
  congr 1
  apply List.filter_congr
  intro row _
  cases hstate : row.state with
  | staged => simp [HistoryStore.transaction, hstate]
  | committed => simp [HistoryStore.transaction, hstate]

end Delete

end RuntimeQueue
