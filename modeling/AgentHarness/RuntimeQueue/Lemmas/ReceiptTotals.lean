import AgentHarness.RuntimeQueue.Lemmas.ReceiptHistory

/-!
What a run of compactions keeps: the receipts of the ledger and of the history are the ones ever written.
-/

namespace RuntimeQueue

open Run (exec Guarded)

section Readings

variable {store : Option HistoryStore}

theorem count_readRuntimeQueueReceiptHistoryStatusCounts (h : (store.getD .empty).WellFormed)
    (status : String)
    : (readRuntimeQueueReceiptHistoryStatusCounts store).count status
        = committedCount (store.getD .empty).history status := by
  cases store with
  | none => rfl
  | some store =>
    have hcount := HistoryStore.committedCount_history h status
    rw [Option.getD_some] at hcount ⊢
    rw [hcount, readRuntimeQueueReceiptHistoryStatusCounts, FMap.count_tally]
    simp [List.filter_map, List.map_map, Function.comp_def]

theorem nodup_terminalStatuses : terminalStatuses.Nodup := by
  decide

theorem terminalRecords_eq_sum (h : (store.getD .empty).WellFormed)
    : (readRuntimeQueueTerminalHistorySummary store).terminalRecords
        = (terminalStatuses.map (committedCount (store.getD .empty).history)).sum := by
  cases store with
  | none => rfl
  | some store =>
    have hcount : committedCount store.history = fun status =>
        ((store.committedDeltas.filter (·.status = status)).map (·.countDelta)).sum := by
      funext status
      exact HistoryStore.committedCount_history h status
    rw [Option.getD_some, hcount, List.sum_of_keys nodup_terminalStatuses]
    rfl

end Readings

def isTerminalReceipt (record : Record) : Bool :=
  isTrustedRuntimeRunOnceReceipt record && record.status.any isTerminalRunOnceStatus

def isDeniedReceipt (record : Record) : Bool :=
  record.countedStatus = some "external-effect-denied"

theorem isTerminalRunOnceStatus_eq (status : String)
    : isTerminalRunOnceStatus status
        = (decide (status ∈ terminalStatuses) || status = "external-effect-denied") := by
  unfold isTerminalRunOnceStatus terminalStatuses
  rw [Bool.eq_iff_iff]
  simp [or_assoc]

theorem trim_terminalStatuses
    : ∀ status ∈ "external-effect-denied" :: terminalStatuses, Text.trim status ≠ "" := by
  decide

theorem isTerminalReceipt_eq (record : Record)
    : isTerminalReceipt record
        = (record.countedStatus.any (· ∈ terminalStatuses) || isDeniedReceipt record) := by
  unfold isTerminalReceipt isDeniedReceipt Record.countedStatus
  cases htrusted : isTrustedRuntimeRunOnceReceipt record with
  | false => simp
  | true =>
    cases hstatus : record.status with
    | none => simp
    | some status =>
      by_cases hblank : Text.trim status = ""
      . have hnot : isTerminalRunOnceStatus status = false := by
          rw [isTerminalRunOnceStatus_eq]
          by_contra hterminal
          have hmem : status ∈ "external-effect-denied" :: terminalStatuses := by
            rw [List.mem_cons]
            simpa [or_iff_not_imp_right] using hterminal
          exact trim_terminalStatuses status hmem hblank
        simp [hblank, hnot, Option.filter]
      . simp [hblank, Option.filter, isTerminalRunOnceStatus_eq]

theorem countP_countedStatus_mem (records : List Record)
    : records.countP (fun record => record.countedStatus.any (· ∈ terminalStatuses))
        = (terminalStatuses.map (recordCount records)).sum := by
  have hsum := List.sum_of_keys nodup_terminalStatuses id (fun _ => 1)
    (records.filterMap Record.countedStatus)
  have hone : ∀ statuses : List String, (statuses.map fun _ => 1).sum = statuses.length := by
    simp
  simp only [hone, ← List.countP_eq_length_filter, List.countP_filterMap, id_eq] at hsum
  have hmap : ∀ (p : String → Bool) (record : Record),
      (record.countedStatus.map p).getD false = record.countedStatus.any p := by
    intro p record
    cases record.countedStatus with
    | none => rfl
    | some status => rfl
  simp only [hmap] at hsum
  rw [← hsum]
  congr 2
  funext status
  apply List.countP_congr
  intro record _
  cases record.countedStatus with
  | none => simp
  | some counted => simp

theorem countP_isTerminalReceipt (records : List Record)
    : records.countP isTerminalReceipt
        = (terminalStatuses.map (recordCount records)).sum + records.countP isDeniedReceipt := by
  rw [← countP_countedStatus_mem]
  induction records with
  | nil => rfl
  | cons record records ih =>
    rw [List.countP_cons, List.countP_cons, List.countP_cons, ih, isTerminalReceipt_eq]
    cases hdenied : isDeniedReceipt record with
    | false =>
      simp only [Bool.or_false, Bool.false_eq_true, if_false]
      omega
    | true =>
      have hother : record.countedStatus.any (· ∈ terminalStatuses) = false := by
        rw [of_decide_eq_true hdenied]
        decide
      simp [hother]
      omega

theorem committedCount_commitTransaction {history : List HistoryTransaction}
    (hnodup : (history.map (·.transactionId)).Nodup) {transaction : HistoryTransaction}
    (hmem : transaction ∈ history) (hstaged : transaction.committed = false) (status : String)
    : committedCount (commitTransaction transaction.transactionId history) status
        = committedCount history status + transaction.countDelta status := by
  obtain ⟨before, after, rfl⟩ := List.append_of_mem hmem
  rw [List.map_append, List.map_cons, List.nodup_middle, List.nodup_cons, List.mem_append] at hnodup
  have hothers : ∀ part : List HistoryTransaction,
      transaction.transactionId ∉ part.map (·.transactionId) →
        commitTransaction transaction.transactionId part = part := by
    intro part hfresh
    apply commitTransaction_of_committed
    intro other hother hid
    exact absurd (hid ▸ List.mem_map_of_mem hother) hfresh
  have hsplit : commitTransaction transaction.transactionId (before ++ transaction :: after)
      = before ++ { transaction with committed := true } :: after := by
    conv => rhs; rw [← hothers before fun h => hnodup.1 (.inl h)]
    conv => rhs; rw [← hothers after fun h => hnodup.1 (.inr h)]
    simp [commitTransaction]
  rw [hsplit]
  simp [committedCount, List.filter_append, hstaged]
  omega

namespace CompactedLedger

def history (self : CompactedLedger) : List HistoryTransaction :=
  (self.store.getD .empty).history

def pendingCount (self : CompactedLedger) (status : String) : Nat :=
  match self.compaction with
  | none => 0
  | some compaction =>
    if compaction.swapped then
      statusCount compaction.original status - statusCount compaction.snapshot status
    else
      0

def Removes (self : CompactedLedger) (action : HistoryAction) : Prop :=
  match action with
  | .stage _ snapshot _ _ =>
    self.compaction = none → (parseJsonlRecords snapshot).Sublist (parseJsonlRecords self.hot)
  | _ => True

structure Staged (ledger : CompactedLedger) (compaction : OpenCompaction) : Prop where
  hot : ledger.hot = if compaction.swapped then compaction.snapshot else compaction.original
  sublist : (parseJsonlRecords compaction.snapshot).Sublist (parseJsonlRecords compaction.original)
  staged : ∃ transaction ∈ ledger.history,
    transaction.transactionId = compaction.transactionId
      ∧ transaction.committed = false
      ∧ ∀ status, transaction.countDelta status
          = statusCount compaction.original status - statusCount compaction.snapshot status

structure Consistent (ledger : CompactedLedger) : Prop where
  wellFormed : (ledger.store.getD .empty).WellFormed
  counted : ∀ status, committedCount ledger.history status = recordCount ledger.removed status
  totals : ∀ status,
    statusCount ledger.hot status + ledger.pendingCount status + recordCount ledger.removed status
      = statusCount ledger.written status
  staged : ∀ compaction, ledger.compaction = some compaction → ledger.Staged compaction

theorem consistent_initial : initial.Consistent := by
  constructor
  . exact HistoryStore.wellFormed_empty
  . intro status
    rfl
  . intro status
    rfl
  . intro compaction h
    cases h

theorem Staged.statusCount_le {self : CompactedLedger} {compaction : OpenCompaction}
    (h : self.Staged compaction) (status : String)
    : statusCount compaction.snapshot status ≤ statusCount compaction.original status := by
  rw [statusCount_eq_recordCount, statusCount_eq_recordCount]
  exact recordCount_le_of_sublist h.sublist status

variable {self : CompactedLedger}

theorem consistent_append (h : self.Consistent) (line : Line)
    : (self.step (.append line)).Consistent := by
  cases hopen : self.compaction with
  | some compaction => simpa only [step, hopen] using h
  | none =>
    simp only [step, hopen]
    constructor
    . exact h.wellFormed
    . exact h.counted
    . intro status
      have htotals := h.totals status
      simp only [pendingCount, hopen] at htotals ⊢
      rw [statusCount_append, statusCount_append]
      omega
    . intro compaction hcompaction
      cases hcompaction

theorem consistent_stage (h : self.Consistent) {transactionId : String} {snapshot : List Line}
    {retained : List String} {nowMs : Int}
    (hremoves : self.Removes (.stage transactionId snapshot retained nowMs))
    : (self.step (.stage transactionId snapshot retained nowMs)).Consistent := by
  cases hopen : self.compaction with
  | some compaction => simpa only [step, hopen] using h
  | none =>
    cases hstage : stageRuntimeQueueReceiptHistory self.store transactionId self.hot snapshot
      retained nowMs with
    | error e => simpa only [step, hopen, hstage] using h
    | ok store =>
      simp only [step, hopen, hstage]
      have hhistory := history_stage h.wellFormed hstage
      constructor
      . exact wellFormed_stage h.wellFormed hstage
      . intro status
        dsimp only [history]
        rw [Option.getD_some, hhistory, committedCount_append_staged _ rfl]
        exact h.counted status
      . intro status
        have htotals := h.totals status
        simpa only [pendingCount, hopen, Bool.false_eq_true, if_false] using htotals
      . intro compaction hcompaction
        cases hcompaction
        constructor
        . rfl
        . exact hremoves hopen
        . dsimp only [history]
          rw [Option.getD_some, hhistory]
          exact ⟨_, List.mem_append_right _ (List.mem_singleton_self _), rfl, rfl, fun _ => rfl⟩

theorem consistent_swap (h : self.Consistent) : (self.step .swap).Consistent := by
  cases hopen : self.compaction with
  | none => simpa only [step, hopen] using h
  | some compaction =>
    simp only [step, hopen]
    have hstaged := h.staged compaction hopen
    constructor
    . exact h.wellFormed
    . exact h.counted
    . intro status
      have htotals := h.totals status
      have hle := hstaged.statusCount_le status
      simp only [pendingCount, hopen, hstaged.hot] at htotals ⊢
      cases hswapped : compaction.swapped with
      | true => simpa [hswapped] using htotals
      | false =>
        simp only [hswapped, if_true, if_false, Bool.false_eq_true] at htotals ⊢
        omega
    . intro other hother
      cases hother
      exact ⟨rfl, hstaged.sublist, hstaged.staged⟩

theorem consistent_restore (h : self.Consistent) : (self.step .restore).Consistent := by
  cases hopen : self.compaction with
  | none => simpa only [step, hopen] using h
  | some compaction =>
    simp only [step, hopen]
    have hstaged := h.staged compaction hopen
    constructor
    . exact h.wellFormed
    . exact h.counted
    . intro status
      have htotals := h.totals status
      have hle := hstaged.statusCount_le status
      simp only [pendingCount, hopen, hstaged.hot] at htotals ⊢
      cases hswapped : compaction.swapped with
      | true =>
        simp only [hswapped, if_true, if_false, Bool.false_eq_true] at htotals ⊢
        omega
      | false => simpa [hswapped] using htotals
    . intro other hother
      cases hother
      exact ⟨rfl, hstaged.sublist, hstaged.staged⟩

theorem awaitsCommit_eq_some {transactionId : String} {compaction : OpenCompaction}
    : self.awaitsCommit transactionId = some compaction ↔
        self.compaction = some compaction
          ∧ compaction.swapped = true ∧ compaction.transactionId = transactionId := by
  unfold awaitsCommit
  rw [Option.filter_eq_some_iff, Bool.and_eq_true, decide_eq_true_eq]

theorem nodup_history (h : self.Consistent) : (self.history.map (·.transactionId)).Nodup := by
  unfold history
  rw [HistoryStore.map_transactionId_history]
  exact h.wellFormed.nodup

theorem commitTransaction_of_isCommitted (h : self.Consistent) {transactionId : String}
    (hcommitted : self.isCommitted transactionId = true)
    : commitTransaction transactionId self.history = self.history := by
  apply commitTransaction_of_committed
  intro transaction hmem hid
  unfold isCommitted at hcommitted
  cases hstore : self.store with
  | none => simp [hstore] at hcommitted
  | some store =>
    rw [hstore, Option.any_some, HistoryStore.isCommitted_iff] at hcommitted
    obtain ⟨other, hother, heq⟩ := List.mem_map.mp hcommitted
    obtain ⟨hin, hstate⟩ := List.mem_filter.mp hother
    have hin : other ∈ self.history := by
      simpa [history, hstore] using hin
    rw [List.inj_on_of_nodup_map (nodup_history h) hmem hin (hid.trans heq.symm)]
    exact hstate

theorem consistent_commit (h : self.Consistent) (transactionId : String) (committedAtMs : Int)
    : (self.step (.commit transactionId committedAtMs)).Consistent := by
  cases hcommit : commitRuntimeQueueReceiptHistory self.store transactionId committedAtMs with
  | error e => simpa only [step, hcommit] using h
  | ok store' =>
    obtain ⟨store, hstore⟩ := exists_store_of_commit hcommit
    rw [hstore] at hcommit
    have hwf : store.WellFormed := by
      have := h.wellFormed
      rwa [hstore] at this
    have hwf' := wellFormed_commit hwf hcommit
    have hhistory : store'.history = commitTransaction transactionId self.history := by
      rw [history_commit hcommit, history, hstore]
      rfl
    cases hawaits : self.awaitsCommit transactionId with
    | some compaction =>
      obtain ⟨hopen, hswapped, hid⟩ := awaitsCommit_eq_some.mp hawaits
      have hstaged := h.staged compaction hopen
      obtain ⟨transaction, hmem, htid, huncommitted, hdelta⟩ := hstaged.staged
      simp only [step, hstore, hcommit, hawaits]
      constructor
      . exact hwf'
      . intro status
        dsimp only [history]
        rw [Option.getD_some, hhistory, ← hid, ← htid,
          committedCount_commitTransaction (nodup_history h) hmem huncommitted, hdelta,
          h.counted, statusCount_eq_recordCount, statusCount_eq_recordCount,
          ← recordCount_diff hstaged.sublist]
        simp [recordCount, OpenCompaction.removed]
      . intro status
        have htotals := h.totals status
        have hremoved := recordCount_diff hstaged.sublist status
        rw [← statusCount_eq_recordCount, ← statusCount_eq_recordCount] at hremoved
        simp only [pendingCount, hopen, hswapped, if_true] at htotals ⊢
        simp only [recordCount, OpenCompaction.removed, List.countP_append] at htotals hremoved ⊢
        omega
      . intro other hother
        cases hother
    | none =>
      cases hcommitted : self.isCommitted transactionId with
      | false => simpa [step, hstore, hcommit, hawaits, hcommitted] using h
      | true =>
        rw [commitTransaction_of_isCommitted h hcommitted] at hhistory
        simp only [step, hstore, hcommit, hawaits, hcommitted, if_true]
        constructor
        . exact hwf'
        . intro status
          dsimp only [history]
          rw [Option.getD_some, hhistory]
          exact h.counted status
        . exact h.totals
        . intro other hother
          have hstaged := h.staged other hother
          refine ⟨hstaged.hot, hstaged.sublist, ?_⟩
          dsimp only [history]
          rw [Option.getD_some, hhistory]
          exact hstaged.staged

theorem history_discardStore (hwf : (self.store.getD .empty).WellFormed) (transactionId : String)
    : ((discardRuntimeQueueReceiptHistory self.store transactionId).getD .empty).WellFormed
      ∧ ((discardRuntimeQueueReceiptHistory self.store transactionId).getD .empty).history
          = self.history.filter fun transaction =>
              transaction.transactionId ≠ transactionId || transaction.committed := by
  unfold history discardRuntimeQueueReceiptHistory
  cases hstore : self.store with
  | none => exact ⟨HistoryStore.wellFormed_empty, rfl⟩
  | some store =>
    rw [hstore] at hwf
    exact ⟨wellFormed_deleteTransactions hwf _, history_discard hwf transactionId⟩

theorem consistent_discard (h : self.Consistent) (transactionId : String)
    : (self.step (.discard transactionId)).Consistent := by
  cases hawaits : self.awaitsCommit transactionId with
  | some compaction => simpa [step, hawaits] using h
  | none =>
    obtain ⟨hwf, hhistory⟩ := history_discardStore h.wellFormed transactionId
    simp only [step, hawaits, Option.isSome_none, Bool.false_eq_true, if_false]
    constructor
    . exact hwf
    . intro status
      dsimp only [history]
      rw [hhistory, committedCount_discard]
      exact h.counted status
    . intro status
      have htotals := h.totals status
      unfold pendingCount at htotals ⊢
      cases hopen : self.compaction with
      | none => simpa [hopen] using htotals
      | some compaction =>
        by_cases hid : compaction.transactionId = transactionId
        . have hswapped : compaction.swapped = false := by
            by_contra hswapped
            rw [Bool.not_eq_false] at hswapped
            rw [awaitsCommit_eq_some.mpr ⟨hopen, hswapped, hid⟩] at hawaits
            cases hawaits
          simpa [hopen, hid, hswapped, Option.filter] using htotals
        . simpa [hopen, hid, Option.filter] using htotals
    . intro compaction hcompaction
      obtain ⟨hopen, hid⟩ := Option.filter_eq_some_iff.mp hcompaction
      have hstaged := h.staged compaction hopen
      obtain ⟨transaction, hmem, htid, hrest⟩ := hstaged.staged
      refine ⟨hstaged.hot, hstaged.sublist, transaction, ?_, htid, hrest⟩
      dsimp only [history]
      rw [hhistory]
      apply List.mem_filter.mpr
      refine ⟨hmem, ?_⟩
      rw [htid]
      simpa using Or.inl (of_decide_eq_true hid)

theorem consistent_abandon (h : self.Consistent) : (self.step .abandon).Consistent := by
  cases hopen : self.compaction with
  | none => simpa only [step, hopen] using h
  | some compaction =>
    cases hswapped : compaction.swapped with
    | true => simpa [step, hopen, hswapped] using h
    | false =>
      simp only [step, hopen, hswapped, Bool.false_eq_true, if_false]
      constructor
      . exact h.wellFormed
      . exact h.counted
      . intro status
        have htotals := h.totals status
        simpa [pendingCount, hopen, hswapped] using htotals
      . intro other hother
        cases hother

theorem history_cleanupStore (hwf : (self.store.getD .empty).WellFormed)
    : ((cleanupStagedRuntimeQueueReceiptHistory self.store).1.getD .empty).WellFormed
      ∧ ((cleanupStagedRuntimeQueueReceiptHistory self.store).1.getD .empty).history
          = self.history.filter (·.committed) := by
  unfold history cleanupStagedRuntimeQueueReceiptHistory
  cases hstore : self.store with
  | none => exact ⟨HistoryStore.wellFormed_empty, rfl⟩
  | some store =>
    rw [hstore] at hwf
    exact ⟨wellFormed_deleteTransactions hwf _, history_cleanup hwf⟩

theorem consistent_cleanup (h : self.Consistent) : (self.step .cleanup).Consistent := by
  cases hopen : self.compaction with
  | some compaction => simpa only [step, hopen] using h
  | none =>
    obtain ⟨hwf, hhistory⟩ := history_cleanupStore h.wellFormed
    simp only [step, hopen]
    constructor
    . exact hwf
    . intro status
      dsimp only [history]
      rw [hhistory, committedCount_filter_committed]
      exact h.counted status
    . intro status
      have htotals := h.totals status
      simpa [pendingCount, hopen] using htotals
    . intro other hother
      cases hother

theorem consistent_step (action : HistoryAction) (h : self.Consistent)
    (hremoves : self.Removes action)
    : (self.step action).Consistent := by
  cases action with
  | append line => exact consistent_append h line
  | stage => exact consistent_stage h hremoves
  | swap => exact consistent_swap h
  | restore => exact consistent_restore h
  | commit transactionId committedAtMs => exact consistent_commit h transactionId committedAtMs
  | discard transactionId => exact consistent_discard h transactionId
  | abandon => exact consistent_abandon h
  | cleanup => exact consistent_cleanup h

end CompactedLedger

end RuntimeQueue
