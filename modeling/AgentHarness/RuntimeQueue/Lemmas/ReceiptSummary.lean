import Mathlib.Data.List.Dedup
import AgentHarness.RuntimeQueue.Lemmas.ReceiptTotals

/-!
What the readers of the receipt history see along a run: nothing but the committed transactions, and the
receipts of terminal queue items among them.
-/

namespace RuntimeQueue

open Run (exec Guarded)

def readings (store : Option HistoryStore) : FMap String Nat × TerminalHistorySummary :=
  (readRuntimeQueueReceiptHistoryStatusCounts store, readRuntimeQueueTerminalHistorySummary store)

theorem readings_getD (store : Option HistoryStore)
    : readings (some (store.getD .empty)) = readings store := by
  cases store with
  | none => rfl
  | some store => rfl

theorem readings_of_committed {store other : HistoryStore}
    (hdeltas : store.committedDeltas = other.committedDeltas)
    (hterminal : store.committedTerminalHistory = other.committedTerminalHistory)
    : readings (some store) = readings (some other) := by
  simp only [readings, readRuntimeQueueReceiptHistoryStatusCounts,
    readRuntimeQueueTerminalHistorySummary, hdeltas, hterminal]

section Stage

variable {store : Option HistoryStore} {store' : HistoryStore} {transactionId : String}
  {original snapshot : List Line} {retained : List String} {nowMs : Int}

theorem isCommitted_stage
    (h : stageRuntimeQueueReceiptHistory store transactionId original snapshot retained nowMs
      = .ok store') (other : String)
    : store'.isCommitted other = (store.getD .empty).isCommitted other := by
  obtain ⟨-, -, -, htransactions, -, -⟩ := stage_cases h
  simp [HistoryStore.isCommitted, htransactions]

theorem not_isCommitted_of_fresh {store : HistoryStore}
    (hfresh : ∀ row ∈ store.transactions, row.transactionId ≠ transactionId)
    : store.isCommitted transactionId = false := by
  unfold HistoryStore.isCommitted
  rw [List.any_eq_false]
  intro row hmem
  simp [hfresh row hmem]

theorem readings_stage
    (h : stageRuntimeQueueReceiptHistory store transactionId original snapshot retained nowMs
      = .ok store')
    : readings (some store') = readings store := by
  obtain ⟨deltas, -, hfresh, -, hdeltas, hterminal⟩ := stage_cases h
  have hnot := not_isCommitted_of_fresh hfresh
  rw [← readings_getD store]
  apply readings_of_committed
  . unfold HistoryStore.committedDeltas
    simp only [isCommitted_stage h]
    rw [hdeltas, List.filter_append]
    simp [List.filter_map, Function.comp_def, hnot]
  . unfold HistoryStore.committedTerminalHistory
    simp only [isCommitted_stage h]
    rw [hterminal, List.filter_append]
    simp [List.filter_map, Function.comp_def, hnot]

end Stage

section Delete

variable {store : HistoryStore} {doomed : HistoryTransactionRow → Bool}

theorem isCommitted_deleteTransactions (hdoomed : ∀ row, doomed row → row.state = .staged)
    (transactionId : String)
    : (store.deleteTransactions doomed).isCommitted transactionId
        = store.isCommitted transactionId := by
  unfold HistoryStore.isCommitted HistoryStore.deleteTransactions
  dsimp only
  rw [List.any_filter]
  congr 1
  funext row
  cases hrow : doomed row with
  | false => simp
  | true => simp [hdoomed row hrow]

theorem not_gone_of_isCommitted (hwf : store.WellFormed)
    (hdoomed : ∀ row, doomed row → row.state = .staged) {transactionId : String}
    (h : store.isCommitted transactionId = true)
    : store.transactions.any (fun row => doomed row && row.transactionId = transactionId)
        = false := by
  unfold HistoryStore.isCommitted at h
  obtain ⟨row, hmem, hrow⟩ := List.any_eq_true.mp h
  rw [Bool.and_eq_true, decide_eq_true_eq, decide_eq_true_eq] at hrow
  rw [← hrow.1, gone_iff hwf hmem]
  by_contra hgone
  rw [Bool.not_eq_false] at hgone
  rw [hdoomed row hgone] at hrow
  cases hrow.2

theorem filter_isCommitted_of_not_gone (hwf : store.WellFormed)
    (hdoomed : ∀ row, doomed row → row.state = .staged) (key : ρ → String) (rows : List ρ)
    : (rows.filter fun row => !store.transactions.any fun other =>
          doomed other && other.transactionId = key row).filter
        (fun row => store.isCommitted (key row))
      = rows.filter fun row => store.isCommitted (key row) := by
  rw [List.filter_filter]
  apply List.filter_congr
  intro row _
  cases hcommitted : store.isCommitted (key row) with
  | false => rfl
  | true => simp [not_gone_of_isCommitted hwf hdoomed hcommitted]

theorem readings_deleteTransactions (hwf : store.WellFormed)
    (hdoomed : ∀ row, doomed row → row.state = .staged)
    : readings (some (store.deleteTransactions doomed)) = readings (some store) := by
  apply readings_of_committed
  . unfold HistoryStore.committedDeltas
    simp only [isCommitted_deleteTransactions hdoomed]
    exact filter_isCommitted_of_not_gone hwf hdoomed _ _
  . unfold HistoryStore.committedTerminalHistory
    simp only [isCommitted_deleteTransactions hdoomed]
    exact filter_isCommitted_of_not_gone hwf hdoomed _ _

theorem staged_of_isStaged {transactionId : String} (row : HistoryTransactionRow)
    (h : row.isStaged transactionId = true)
    : row.state = .staged := by
  unfold HistoryTransactionRow.isStaged at h
  rw [Bool.and_eq_true, decide_eq_true_eq, decide_eq_true_eq] at h
  exact h.2

theorem isCommitted_commit {store' : HistoryStore} {transactionId : String} {committedAtMs : Int}
    (h : commitRuntimeQueueReceiptHistory (some store) transactionId committedAtMs = .ok store')
    {other : String} (hother : store'.isCommitted other = true)
    : store.isCommitted other = true ∨ other = transactionId := by
  by_cases hid : other = transactionId
  . exact .inr hid
  . left
    obtain ⟨-, -, ⟨-, hsame⟩ | hrows⟩ := commit_cases h
    . rw [hsame] at hother
      exact hother
    . unfold HistoryStore.isCommitted at hother ⊢
      rw [hrows, List.any_map, List.any_eq_true] at hother
      obtain ⟨row, hmem, hrow⟩ := hother
      rw [List.any_eq_true]
      refine ⟨row, hmem, ?_⟩
      rw [Function.comp_apply] at hrow
      by_cases hstaged : row.isStaged transactionId = true
      . exfalso
        rw [if_pos hstaged] at hrow
        unfold HistoryTransactionRow.isStaged at hstaged
        rw [Bool.and_eq_true, decide_eq_true_eq] at hrow hstaged
        exact hid (hrow.1.symm.trans hstaged.1)
      . rwa [if_neg hstaged] at hrow

end Delete

namespace CompactedLedger

variable {self : CompactedLedger}

theorem readings_step_of_not_commit (h : self.Consistent) {action : HistoryAction}
    (hcommit : ∀ transactionId committedAtMs, action ≠ .commit transactionId committedAtMs)
    : readings (self.step action).store = readings self.store := by
  cases action with
  | append line =>
    cases hopen : self.compaction with
    | none => simp only [step, hopen]
    | some compaction => simp only [step, hopen]
  | stage transactionId snapshot retained nowMs =>
    cases hopen : self.compaction with
    | some compaction => simp only [step, hopen]
    | none =>
      cases hstage : stageRuntimeQueueReceiptHistory self.store transactionId self.hot snapshot
        retained nowMs with
      | error e => simp only [step, hopen, hstage]
      | ok store =>
        simp only [step, hopen, hstage]
        exact readings_stage hstage
  | swap =>
    cases hopen : self.compaction with
    | none => simp only [step, hopen]
    | some compaction => simp only [step, hopen]
  | restore =>
    cases hopen : self.compaction with
    | none => simp only [step, hopen]
    | some compaction => simp only [step, hopen]
  | commit transactionId committedAtMs => exact absurd rfl (hcommit transactionId committedAtMs)
  | discard transactionId =>
    cases hawaits : self.awaitsCommit transactionId with
    | some compaction => simp [step, hawaits]
    | none =>
      simp only [step, hawaits, Option.isSome_none, Bool.false_eq_true, if_false]
      cases hstore : self.store with
      | none => rfl
      | some store =>
        have hwf := h.wellFormed
        rw [hstore] at hwf
        exact readings_deleteTransactions hwf fun row hrow => staged_of_isStaged row hrow
  | abandon =>
    cases hopen : self.compaction with
    | none => simp only [step, hopen]
    | some compaction =>
      cases hswapped : compaction.swapped with
      | true => simp [step, hopen, hswapped]
      | false => simp [step, hopen, hswapped]
  | cleanup =>
    cases hopen : self.compaction with
    | some compaction => simp only [step, hopen]
    | none =>
      simp only [step, hopen]
      cases hstore : self.store with
      | none => rfl
      | some store =>
        have hwf := h.wellFormed
        rw [hstore] at hwf
        exact readings_deleteTransactions hwf fun row hrow => of_decide_eq_true hrow

theorem terminalRecords_add_denied (h : self.Consistent)
    : (readRuntimeQueueTerminalHistorySummary self.store).terminalRecords
          + self.removed.countP isDeniedReceipt
        = self.removed.countP isTerminalReceipt := by
  have hcounted : committedCount (self.store.getD .empty).history = recordCount self.removed := by
    funext status
    exact h.counted status
  rw [terminalRecords_eq_sum h.wellFormed, countP_isTerminalReceipt, hcounted]

def KeepsRetained (self : CompactedLedger) (action : HistoryAction) : Prop :=
  match action with
  | .stage _ snapshot retained _ =>
    self.compaction = none →
      ∀ record ∈ parseJsonlRecords snapshot, ∀ queueId, record.queueId = some queueId →
        queueId ∈ retained
  | _ => True

/-
The snapshot that `compact_runtime_queue_receipts_if_needed` stages keeps the promise.
-/
theorem keepsRetained_runtimeQueueReceiptSnapshot (transactionId : String) (retained : List String)
    (receipts : List Line) (nowMs : Int)
    : self.KeepsRetained (.stage transactionId (runtimeQueueReceiptSnapshot retained receipts)
        retained nowMs) := by
  intro _ record hmem queueId hqueue
  obtain ⟨line, hline, hrecord⟩ := List.mem_filterMap.mp hmem
  obtain ⟨before, hbefore, rfl⟩ := List.mem_map.mp hline
  have hkeeps := (List.mem_filter.mp hbefore).2
  cases before with
  | blank => cases hrecord
  | malformed raw trimmed => cases hrecord
  | value raw trimmed stored =>
    injection hrecord with hrecord
    subst hrecord
    simpa [receiptKeeps, hqueue] using hkeeps

def holdsTerminal (records : List Record) (queueId : String) : Prop :=
  ∃ record ∈ records, isTerminalReceipt record = true ∧ record.queueId = some queueId

theorem holdsTerminal_append {records others : List Record} {queueId : String}
    (h : holdsTerminal records queueId ∨ holdsTerminal others queueId)
    : holdsTerminal (records ++ others) queueId := by
  obtain ⟨record, hmem, hrecord⟩ | ⟨record, hmem, hrecord⟩ := h
  . exact ⟨record, List.mem_append_left _ hmem, hrecord⟩
  . exact ⟨record, List.mem_append_right _ hmem, hrecord⟩

structure TerminalRowsRemoved (ledger : CompactedLedger) : Prop where
  committed : ∀ row ∈ (ledger.store.getD .empty).terminalHistory,
    (ledger.store.getD .empty).isCommitted row.transactionId = true →
      holdsTerminal ledger.removed row.queueId
  staged : ∀ compaction, ledger.compaction = some compaction →
    ∀ row ∈ (ledger.store.getD .empty).terminalHistory,
      row.transactionId = compaction.transactionId →
        holdsTerminal compaction.removed row.queueId

theorem terminalRowsRemoved_initial : initial.TerminalRowsRemoved := by
  constructor
  . intro row hmem
    cases hmem
  . intro compaction h
    cases h

theorem mem_of_lookup_foldl_insert {candidates : List (String × String)} {queueId status : String}
    {latest : FMap String String}
    (h : (candidates.foldl (fun latest candidate => latest.insert candidate.1 candidate.2)
      latest).lookup queueId = some status)
    : (queueId, status) ∈ candidates ∨ latest.lookup queueId = some status := by
  induction candidates generalizing latest with
  | nil => exact .inr h
  | cons candidate candidates ih =>
    cases ih h with
    | inl hmem => exact .inl (List.mem_cons_of_mem _ hmem)
    | inr hlookup =>
      rw [FMap.lookup_insert_eq] at hlookup
      split at hlookup
      . next hid =>
        injection hlookup with hstatus
        left
        rw [hid, ← hstatus]
        exact List.mem_cons_self
      . exact .inr hlookup

theorem terminalCandidate_eq_some {retained : List String} {record : Record}
    {candidate : String × String} (h : terminalCandidate retained record = some candidate)
    : isTerminalReceipt record = true ∧ record.queueId = some candidate.1
        ∧ candidate.1 ∉ retained := by
  unfold terminalCandidate at h
  split at h
  . next htrusted =>
    split at h
    . next queueId status hqueue hstatus =>
      split at h
      . cases h
      . next hskip =>
        injection h with h
        subst h
        simp only [Bool.or_eq_true, decide_eq_true_eq, Bool.not_eq_true', not_or,
          Bool.not_eq_false] at hskip
        refine ⟨?_, hqueue, hskip.1.2⟩
        simp [isTerminalReceipt, htrusted, hstatus, hskip.2]
    . cases h
  . cases h

theorem mem_latestTerminalRecords {records : List Record} {retained : List String}
    {entry : Sigma fun _ : String => String}
    (h : entry ∈ (latestTerminalRecords records retained).entries)
    : ∃ record ∈ records, isTerminalReceipt record = true ∧ record.queueId = some entry.1
        ∧ entry.1 ∉ retained := by
  have hlookup : (latestTerminalRecords records retained).lookup entry.1 = some entry.2 :=
    AList.mem_lookup_iff.mpr h
  cases mem_of_lookup_foldl_insert hlookup with
  | inl hmem =>
    obtain ⟨record, hrecord, hcandidate⟩ := List.mem_filterMap.mp hmem
    exact ⟨record, hrecord, terminalCandidate_eq_some hcandidate⟩
  | inr hempty => cases hempty

theorem TerminalRowsRemoved.mono {other : CompactedLedger} (h : self.TerminalRowsRemoved)
    (hrows : (other.store.getD .empty).terminalHistory ⊆ (self.store.getD .empty).terminalHistory)
    (hcommitted : ∀ transactionId, (other.store.getD .empty).isCommitted transactionId = true →
      (self.store.getD .empty).isCommitted transactionId = true)
    (hremoved : other.removed = self.removed)
    (hopen : ∀ compaction, other.compaction = some compaction →
      ∃ before, self.compaction = some before
        ∧ compaction.transactionId = before.transactionId ∧ compaction.removed = before.removed)
    : other.TerminalRowsRemoved := by
  constructor
  . intro row hmem hrow
    rw [hremoved]
    exact h.committed row (hrows hmem) (hcommitted _ hrow)
  . intro compaction hcompaction row hmem hid
    obtain ⟨before, hbefore, hsame, hsameRemoved⟩ := hopen compaction hcompaction
    rw [hsameRemoved]
    exact h.staged before hbefore row (hrows hmem) (hid.trans hsame)

theorem terminalRowsRemoved_stage (hwf : (self.store.getD .empty).WellFormed)
    (h : self.TerminalRowsRemoved) {transactionId : String} {snapshot : List Line}
    {retained : List String} {nowMs : Int}
    (hretained : self.KeepsRetained (.stage transactionId snapshot retained nowMs))
    : (self.step (.stage transactionId snapshot retained nowMs)).TerminalRowsRemoved := by
  cases hopen : self.compaction with
  | some compaction => simpa only [step, hopen] using h
  | none =>
    cases hstage : stageRuntimeQueueReceiptHistory self.store transactionId self.hot snapshot
      retained nowMs with
    | error e => simpa only [step, hopen, hstage] using h
    | ok store =>
      simp only [step, hopen, hstage]
      obtain ⟨deltas, -, hfresh, -, -, hterminal⟩ := stage_cases hstage
      constructor
      . intro row hmem hrow
        dsimp only at hmem hrow
        rw [Option.getD_some] at hmem hrow
        rw [isCommitted_stage hstage] at hrow
        rw [hterminal] at hmem
        cases List.mem_append.mp hmem with
        | inl hold => exact h.committed row hold hrow
        | inr hnew =>
          obtain ⟨entry, -, heq⟩ := List.mem_map.mp hnew
          rw [← heq, not_isCommitted_of_fresh hfresh] at hrow
          cases hrow
      . intro compaction hcompaction row hmem hid
        cases hcompaction
        dsimp only at hmem hid
        rw [Option.getD_some, hterminal] at hmem
        cases List.mem_append.mp hmem with
        | inl hold =>
          obtain ⟨owner, howner, hsame⟩ := List.mem_map.mp (hwf.terminal row hold)
          exact absurd (hsame.trans hid) (hfresh owner howner)
        | inr hnew =>
          obtain ⟨entry, hentry, heq⟩ := List.mem_map.mp hnew
          obtain ⟨record, hrecord, hreceipt, hqueue, hout⟩ := mem_latestTerminalRecords hentry
          rw [← heq]
          refine ⟨record, ?_, hreceipt, hqueue⟩
          apply List.mem_diff_of_mem hrecord
          intro hkept
          exact hout (hretained hopen record hkept _ hqueue)

theorem terminalRowsRemoved_commit (h : self.TerminalRowsRemoved) (transactionId : String)
    (committedAtMs : Int)
    : (self.step (.commit transactionId committedAtMs)).TerminalRowsRemoved := by
  cases hcommit : commitRuntimeQueueReceiptHistory self.store transactionId committedAtMs with
  | error e => simpa only [step, hcommit] using h
  | ok store' =>
    obtain ⟨store, hstore⟩ := exists_store_of_commit hcommit
    rw [hstore] at hcommit
    obtain ⟨-, hterminal, -⟩ := commit_cases hcommit
    have hrows : store'.terminalHistory = (self.store.getD .empty).terminalHistory := by
      rw [hterminal, hstore]
      rfl
    have hids : ∀ other, store'.isCommitted other = true →
        (self.store.getD .empty).isCommitted other = true ∨ other = transactionId := by
      intro other hother
      rw [hstore]
      exact isCommitted_commit hcommit hother
    cases hawaits : self.awaitsCommit transactionId with
    | some compaction =>
      obtain ⟨hopen, -, hid⟩ := awaitsCommit_eq_some.mp hawaits
      simp only [step, hstore, hcommit, hawaits]
      constructor
      . intro row hmem hrow
        dsimp only at hmem hrow ⊢
        rw [Option.getD_some] at hmem hrow
        rw [hrows] at hmem
        apply holdsTerminal_append
        cases hids _ hrow with
        | inl hbefore => exact .inl (h.committed row hmem hbefore)
        | inr hsame => exact .inr (h.staged compaction hopen row hmem (hsame.trans hid.symm))
      . intro other hother
        cases hother
    | none =>
      cases hcommitted : self.isCommitted transactionId with
      | false => simpa [step, hstore, hcommit, hawaits, hcommitted] using h
      | true =>
        simp only [step, hstore, hcommit, hawaits, hcommitted, if_true]
        apply h.mono
        . rw [← hrows]
          exact List.Subset.refl _
        . intro other hother
          cases hids other hother with
          | inl hbefore => exact hbefore
          | inr hsame =>
            rw [hsame, hstore]
            rwa [isCommitted, hstore] at hcommitted
        . rfl
        . intro other hother
          exact ⟨other, hother, rfl, rfl⟩

theorem TerminalRowsRemoved.delete (h : self.TerminalRowsRemoved)
    (doomed : HistoryTransactionRow → Bool) (hdoomed : ∀ row, doomed row → row.state = .staged)
    (compaction : Option OpenCompaction)
    (hopen : ∀ later, compaction = some later → self.compaction = some later)
    : TerminalRowsRemoved {
        self with
        store := self.store.map fun store => store.deleteTransactions doomed
        compaction } := by
  apply h.mono
  . cases self.store with
    | none => exact List.Subset.refl _
    | some store => exact List.filter_sublist.subset
  . intro transactionId hcommitted
    cases hstore : self.store with
    | none => simpa [hstore] using hcommitted
    | some store =>
      simp only [hstore, Option.map_some, Option.getD_some] at hcommitted ⊢
      rwa [isCommitted_deleteTransactions hdoomed] at hcommitted
  . rfl
  . intro later hlater
    exact ⟨later, hopen later hlater, rfl, rfl⟩

theorem terminalRowsRemoved_step (action : HistoryAction) (hconsistent : self.Consistent)
    (h : self.TerminalRowsRemoved) (hretained : self.KeepsRetained action)
    : (self.step action).TerminalRowsRemoved := by
  cases action with
  | append line =>
    cases hopen : self.compaction with
    | some compaction => simpa only [step, hopen] using h
    | none =>
      simp only [step, hopen]
      refine h.mono (List.Subset.refl _) (fun _ => id) rfl ?_
      intro compaction hcompaction
      cases hcompaction
  | stage => exact terminalRowsRemoved_stage hconsistent.wellFormed h hretained
  | swap =>
    cases hopen : self.compaction with
    | none => simpa only [step, hopen] using h
    | some compaction =>
      simp only [step, hopen]
      refine h.mono (List.Subset.refl _) (fun _ => id) rfl ?_
      intro later hlater
      cases hlater
      exact ⟨compaction, hopen, rfl, rfl⟩
  | restore =>
    cases hopen : self.compaction with
    | none => simpa only [step, hopen] using h
    | some compaction =>
      simp only [step, hopen]
      refine h.mono (List.Subset.refl _) (fun _ => id) rfl ?_
      intro later hlater
      cases hlater
      exact ⟨compaction, hopen, rfl, rfl⟩
  | commit transactionId committedAtMs =>
    exact terminalRowsRemoved_commit h transactionId committedAtMs
  | discard transactionId =>
    cases hawaits : self.awaitsCommit transactionId with
    | some compaction => simpa [step, hawaits] using h
    | none =>
      simp only [step, hawaits, Option.isSome_none, Bool.false_eq_true, if_false]
      apply h.delete
      . intro row hrow
        exact staged_of_isStaged row hrow
      . intro later hlater
        exact (Option.filter_eq_some_iff.mp hlater).1
  | abandon =>
    cases hopen : self.compaction with
    | none => simpa only [step, hopen] using h
    | some compaction =>
      cases hswapped : compaction.swapped with
      | true => simpa [step, hopen, hswapped] using h
      | false =>
        simp only [step, hopen, hswapped, Bool.false_eq_true, if_false]
        refine h.mono (List.Subset.refl _) (fun _ => id) rfl ?_
        intro later hlater
        cases hlater
  | cleanup =>
    cases hopen : self.compaction with
    | some compaction => simpa only [step, hopen] using h
    | none =>
      have hdelete := h.delete (·.state = .staged) (fun row hrow => of_decide_eq_true hrow) none
        (by simp)
      have hcleanup : (cleanupStagedRuntimeQueueReceiptHistory self.store).1
          = self.store.map fun store => store.deleteTransactions (·.state = .staged) := by
        cases self.store with
        | none => rfl
        | some store => rfl
      simpa only [step, hopen, hcleanup] using hdelete

theorem terminalQueueIds_le_removed (h : self.TerminalRowsRemoved)
    : (readRuntimeQueueTerminalHistorySummary self.store).terminalQueueIds
        ≤ self.removed.countP isTerminalReceipt := by
  cases hstore : self.store with
  | none => exact Nat.zero_le _
  | some store =>
    have hsubset : (store.committedTerminalHistory.map (·.queueId)).dedup ⊆
        (self.removed.filter isTerminalReceipt).filterMap Record.queueId := by
      intro queueId hmem
      obtain ⟨row, hrow, hid⟩ := List.mem_map.mp (List.mem_dedup.mp hmem)
      obtain ⟨hin, hcommitted⟩ := List.mem_filter.mp hrow
      have hholds := h.committed row
      rw [hstore] at hholds
      obtain ⟨record, hrecord, hterminal, hqueue⟩ := hholds hin hcommitted
      rw [List.mem_filterMap]
      exact ⟨record, List.mem_filter.mpr ⟨hrecord, hterminal⟩, hqueue.trans (congrArg some hid)⟩
    calc (store.committedTerminalHistory.map (·.queueId)).dedup.length
        ≤ ((self.removed.filter isTerminalReceipt).filterMap Record.queueId).length :=
          (List.subperm_of_subset (List.nodup_dedup _) hsubset).length_le
      _ ≤ (self.removed.filter isTerminalReceipt).length := List.length_filterMap_le _ _
      _ = self.removed.countP isTerminalReceipt := List.countP_eq_length_filter.symm

def NoDeniedRemoved (self : CompactedLedger) : Prop :=
  self.removed.countP isDeniedReceipt = 0

def removedBy (self : CompactedLedger) (transactionId : String) : List Record :=
  ((self.awaitsCommit transactionId).map (·.removed)).getD []

def KeepsDenied (self : CompactedLedger) (action : HistoryAction) : Prop :=
  match action with
  | .commit transactionId _ => ∀ record ∈ self.removedBy transactionId, ¬isDeniedReceipt record
  | _ => True

theorem removed_step_of_not_commit {action : HistoryAction}
    (hcommit : ∀ transactionId committedAtMs, action ≠ .commit transactionId committedAtMs)
    : (self.step action).removed = self.removed := by
  cases action with
  | append line => cases hopen : self.compaction <;> simp only [step, hopen]
  | stage transactionId snapshot retained nowMs =>
    cases hopen : self.compaction with
    | some compaction => simp only [step, hopen]
    | none =>
      cases hstage : stageRuntimeQueueReceiptHistory self.store transactionId self.hot snapshot
        retained nowMs <;> simp only [step, hopen, hstage]
  | swap => cases hopen : self.compaction <;> simp only [step, hopen]
  | restore => cases hopen : self.compaction <;> simp only [step, hopen]
  | commit transactionId committedAtMs => exact absurd rfl (hcommit transactionId committedAtMs)
  | discard transactionId => cases hawaits : self.awaitsCommit transactionId <;> simp [step, hawaits]
  | abandon =>
    cases hopen : self.compaction with
    | none => simp only [step, hopen]
    | some compaction => cases hswapped : compaction.swapped <;> simp [step, hopen, hswapped]
  | cleanup => cases hopen : self.compaction <;> simp only [step, hopen]

theorem removed_commit (h : self.Consistent) (transactionId : String) (committedAtMs : Int)
    : (self.step (.commit transactionId committedAtMs)).removed
        = self.removed ++ self.removedBy transactionId := by
  unfold removedBy
  cases hawaits : self.awaitsCommit transactionId with
  | none =>
    cases hcommit : commitRuntimeQueueReceiptHistory self.store transactionId committedAtMs with
    | error e => simp [step, hcommit]
    | ok store =>
      cases hcommitted : self.isCommitted transactionId with
      | false => simp [step, hcommit, hawaits, hcommitted]
      | true => simp [step, hcommit, hawaits, hcommitted]
  | some compaction =>
    obtain ⟨hopen, -, hid⟩ := awaitsCommit_eq_some.mp hawaits
    obtain ⟨transaction, hmem, htid, -⟩ := (h.staged compaction hopen).staged
    cases hstore : self.store with
    | none =>
      exfalso
      simp [history, hstore, HistoryStore.history, HistoryStore.empty] at hmem
    | some store =>
      have hin : transactionId ∈ store.transactions.map (·.transactionId) := by
        rw [history, hstore, Option.getD_some] at hmem
        rw [← hid, ← htid, ← HistoryStore.map_transactionId_history]
        exact List.mem_map_of_mem hmem
      obtain ⟨store', hcommit⟩ := commit_of_mem hin committedAtMs
      simp only [step, hstore, hcommit, hawaits, Option.map_some, Option.getD_some]

theorem keepsDenied_iff (h : self.Consistent) (hnone : self.NoDeniedRemoved)
    (action : HistoryAction)
    : self.KeepsDenied action ↔ (self.step action).NoDeniedRemoved := by
  by_cases hcommit : ∀ transactionId committedAtMs, action ≠ .commit transactionId committedAtMs
  . rw [NoDeniedRemoved, removed_step_of_not_commit hcommit]
    constructor
    . intro _
      exact hnone
    . intro _
      cases action with
      | commit transactionId committedAtMs => exact absurd rfl (hcommit transactionId committedAtMs)
      | _ => exact trivial
  . push Not at hcommit
    obtain ⟨transactionId, committedAtMs, rfl⟩ := hcommit
    rw [NoDeniedRemoved, removed_commit h, List.countP_append, hnone, Nat.zero_add,
      List.countP_eq_zero]
    rfl

structure KeepsTotals (ledger : CompactedLedger) : Prop where
  totals : ∀ status,
    statusCount ledger.hot status + ledger.pendingCount status
        + (readRuntimeQueueReceiptHistoryStatusCounts ledger.store).count status
      = statusCount ledger.written status
  staged : ∀ action : HistoryAction,
    (∀ transactionId committedAtMs, action ≠ .commit transactionId committedAtMs) →
      readings (ledger.step action).store = readings ledger.store
  again : ∀ transactionId committedAtMs laterMs store,
    commitRuntimeQueueReceiptHistory ledger.store transactionId committedAtMs = .ok store →
      commitRuntimeQueueReceiptHistory (some store) transactionId laterMs = .ok store

theorem keepsTotals_of_consistent (h : self.Consistent) : self.KeepsTotals := by
  constructor
  . intro status
    rw [count_readRuntimeQueueReceiptHistoryStatusCounts h.wellFormed]
    have hcounted := h.counted status
    rw [history] at hcounted
    rw [hcounted]
    exact h.totals status
  . intro action hcommit
    exact readings_step_of_not_commit h hcommit
  . intro transactionId committedAtMs laterMs store hcommit
    obtain ⟨before, hstore⟩ := exists_store_of_commit hcommit
    rw [hstore] at hcommit
    exact commit_commit hcommit laterMs

def TerminalRecordsExact (self : CompactedLedger) : Prop :=
  (readRuntimeQueueTerminalHistorySummary self.store).terminalRecords
    = self.removed.countP isTerminalReceipt

theorem terminalRecordsExact_iff (h : self.Consistent)
    : self.TerminalRecordsExact ↔ self.NoDeniedRemoved := by
  have hadd := terminalRecords_add_denied h
  unfold TerminalRecordsExact NoDeniedRemoved
  constructor
  . intro hexact
    omega
  . intro hnone
    omega

theorem consistent_exec {calls : List HistoryAction} (h : Guarded step Removes initial calls)
    : (exec step initial calls).Consistent := by
  apply Run.exec_invariant_of_guarded Consistent
  . intro ledger action hconsistent hremoves
    exact consistent_step action hconsistent hremoves
  . exact consistent_initial
  . exact h

theorem terminalRowsRemoved_exec {calls : List HistoryAction}
    (hremoves : Guarded step Removes initial calls)
    (hretained : Guarded step KeepsRetained initial calls)
    : (exec step initial calls).TerminalRowsRemoved := by
  have hboth := Run.exec_invariant_of_guarded
    (fun ledger => ledger.Consistent ∧ ledger.TerminalRowsRemoved)
    (fun ledger action h hguard =>
      ⟨consistent_step action h.1 hguard.1, terminalRowsRemoved_step action h.1 h.2 hguard.2⟩)
    ⟨consistent_initial, terminalRowsRemoved_initial⟩ (Run.guarded_and hremoves hretained)
  exact hboth.2

/-
The ledger and the history hold every receipt ever written, in each state of each run. The summary counts
the removed terminal receipts exactly in the runs that remove none for a denied external effect.
-/
theorem receipt_history_totals {calls : List HistoryAction}
    (hremoves : Guarded step Removes initial calls)
    : (∀ n, (exec step initial (calls.take n)).KeepsTotals)
      ∧ (Guarded step KeepsDenied initial calls ↔
          ∀ n, (exec step initial (calls.take n)).TerminalRecordsExact)
      ∧ (Guarded step KeepsRetained initial calls → Guarded step KeepsDenied initial calls →
          ∀ n,
            let summary :=
              readRuntimeQueueTerminalHistorySummary (exec step initial (calls.take n)).store
            summary.terminalQueueIds ≤ summary.terminalRecords) := by
  have hexact : Guarded step KeepsDenied initial calls ↔
      ∀ n, (exec step initial (calls.take n)).TerminalRecordsExact := by
    rw [Run.guarded_iff_invariant_of_guarded Consistent NoDeniedRemoved
      (fun ledger action h hremoves => consistent_step action h hremoves)
      (fun ledger action h _ hnone => keepsDenied_iff h hnone action) consistent_initial rfl
      hremoves]
    apply forall_congr'
    intro n
    exact (terminalRecordsExact_iff (consistent_exec (Run.guarded_take hremoves n))).symm
  refine ⟨?_, hexact, ?_⟩
  . intro n
    exact keepsTotals_of_consistent (consistent_exec (Run.guarded_take hremoves n))
  . intro hretained hdenied n
    have hrows := terminalRowsRemoved_exec (Run.guarded_take hremoves n)
      (Run.guarded_take hretained n)
    have hle := terminalQueueIds_le_removed hrows
    rw [← hexact.mp hdenied n] at hle
    exact hle

def sampleReceipt (queueId status : String) : Line :=
  .value "receipt" "receipt" {
    queueId := some queueId
    status := some status
    schema := .text runtimeRunOnceReceiptSchema
    compact := "receipt" }

def compactedOnce (status : String) : List HistoryAction :=
  [.append (sampleReceipt "q1" status), .stage "tx-1" [] [] 1, .swap, .commit "tx-1" 2]

theorem guarded_compactedOnce (status : String)
    : Guarded step Removes initial (compactedOnce status)
      ∧ Guarded step KeepsRetained initial (compactedOnce status) := by
  constructor
  . exact ⟨trivial, fun _ => List.nil_sublist _, trivial, trivial, trivial⟩
  . refine ⟨trivial, ?_, trivial, trivial, trivial⟩
    intro _ record hmem
    cases hmem

theorem receipt_history_totals_sample
    : (readRuntimeQueueTerminalHistorySummary
        (exec step initial (compactedOnce "completed")).store).terminalRecords = 1 := by
  have hdenied : ∀ record ∈ (exec step initial
      ((compactedOnce "completed").take 3)).removedBy "tx-1", ¬isDeniedReceipt record := by
    decide +kernel
  have hexact := (@receipt_history_totals (compactedOnce "completed")
    (guarded_compactedOnce "completed").1).2.1.mp ⟨trivial, trivial, trivial, hdenied, trivial⟩ 4
  have hremoved : (exec step initial
      ((compactedOnce "completed").take 4)).removed.countP isTerminalReceipt = 1 := by
    decide +kernel
  exact hexact.trans hremoved

/-
A receipt of a denied external effect is terminal, and its queue item is one of the terminal items, but it
is no terminal record of the summary.
-/
theorem denied_receipt_not_counted
    : ¬∀ calls, Guarded step Removes initial calls → Guarded step KeepsRetained initial calls →
        let ledger := exec step initial calls
        let summary := readRuntimeQueueTerminalHistorySummary ledger.store
        summary.terminalRecords = ledger.removed.countP isTerminalReceipt
          ∧ summary.terminalQueueIds ≤ summary.terminalRecords := by
  intro h
  have hguarded := guarded_compactedOnce "external-effect-denied"
  have hkept := (h _ hguarded.1 hguarded.2).2
  have hsummary : readRuntimeQueueTerminalHistorySummary
      (exec step initial (compactedOnce "external-effect-denied")).store
      = { terminalRecords := 0, terminalQueueIds := 1 } := by
    decide +kernel
  rw [hsummary] at hkept
  cases hkept

end CompactedLedger

end RuntimeQueue
