import AgentHarness.RuntimeQueue.Dispatch

/-!
The run-once receipts and their index: what the entry of a queue says about the receipts of the queue,
and that a prepare adds no receipts but those that close a run.
-/

namespace RuntimeQueue

section Index

def receiptsOf (queueId : String) (receipts : List RunOnceReceipt) : List RunOnceReceipt :=
  receipts.filter fun receipt => receipt.indexed.any fun indexed => indexed.1 = queueId

theorem receiptsOf_append (queueId : String) (xs ys : List RunOnceReceipt)
    : receiptsOf queueId (xs ++ ys) = receiptsOf queueId xs ++ receiptsOf queueId ys := by
  unfold receiptsOf
  rw [List.filter_append]

variable {queueId status : String} {receipt : RunOnceReceipt} {receipts : List RunOnceReceipt}

theorem mem_receiptsOf
    : receipt ∈ receiptsOf queueId receipts ↔
        receipt ∈ receipts ∧ ∃ status, receipt.indexed = some (queueId, status) := by
  unfold receiptsOf
  rw [List.mem_filter]
  cases hindexed : receipt.indexed with
  | none => simp
  | some indexed => simp [Prod.ext_iff]

theorem status_of_indexed (h : receipt.indexed = some (queueId, status))
    : receipt.status = some status := by
  unfold RunOnceReceipt.indexed at h
  split at h
  . simp only [Option.bind_eq_some_iff, Option.map_eq_some_iff, Prod.mk.injEq] at h
    cases h with
    | intro _ h =>
      cases h.2 with
      | intro _ hstatus => rw [hstatus.1, hstatus.2.2]
  . cases h

theorem index_concat (receipts : List RunOnceReceipt) (receipt : RunOnceReceipt)
    : runtimeQueueStateIndex (receipts ++ [receipt])
        = applyRuntimeQueueReceiptToIndex (runtimeQueueStateIndex receipts) receipt := by
  simp [runtimeQueueStateIndex]

theorem lookup_apply_same (index : RuntimeQueueStateIndex)
    (h : receipt.indexed = some (queueId, status))
    : (applyRuntimeQueueReceiptToIndex index receipt).lookup queueId
        = some (((index.lookup queueId).getD .empty).apply status receipt) := by
  unfold applyRuntimeQueueReceiptToIndex
  rw [h]
  dsimp only
  rw [FMap.lookup_insert_eq, if_pos rfl]

theorem lookup_apply_other (index : RuntimeQueueStateIndex)
    (h : ∀ status, receipt.indexed ≠ some (queueId, status))
    : (applyRuntimeQueueReceiptToIndex index receipt).lookup queueId = index.lookup queueId := by
  unfold applyRuntimeQueueReceiptToIndex
  split
  . rfl
  . next other status hindexed =>
    rw [FMap.lookup_insert_eq, if_neg]
    intro heq
    apply h status
    rw [hindexed, heq]

theorem indexed_cases (receipt : RunOnceReceipt) (queueId : String)
    : (∃ status, receipt.indexed = some (queueId, status))
      ∨ ∀ status, receipt.indexed ≠ some (queueId, status) := by
  by_cases h : ∃ status, receipt.indexed = some (queueId, status)
  . exact .inl h
  . exact .inr (not_exists.mp h)

theorem receiptsOf_singleton (h : receipt.indexed = some (queueId, status))
    : receiptsOf queueId [receipt] = [receipt] := by
  simp [receiptsOf, h]

theorem receiptsOf_singleton_other (h : ∀ status, receipt.indexed ≠ some (queueId, status))
    : receiptsOf queueId [receipt] = [] := by
  rw [List.eq_nil_iff_forall_not_mem]
  intro other hother
  rw [mem_receiptsOf, List.mem_singleton] at hother
  cases hother.2 with
  | intro status hindexed =>
    rw [hother.1] at hindexed
    exact h status hindexed

theorem lookup_index_of_last {base : List RunOnceReceipt}
    (h : receiptsOf queueId receipts = base ++ [receipt])
    (hindexed : receipt.indexed = some (queueId, status))
    : ∃ entry, (runtimeQueueStateIndex receipts).lookup queueId
        = some (RuntimeQueueStateIndexEntry.apply entry status receipt) := by
  induction receipts using List.reverseRecOn with
  | nil => simp [receiptsOf] at h
  | append_singleton receipts last ih =>
    rw [receiptsOf_append] at h
    rw [index_concat]
    cases indexed_cases last queueId with
    | inl hlast =>
      cases hlast with
      | intro lastStatus hlast =>
        rw [receiptsOf_singleton hlast] at h
        have heq := (List.append_inj' h rfl).2
        injection heq with heq
        subst heq
        exact ⟨_, lookup_apply_same _ hindexed⟩
    | inr hother =>
      rw [receiptsOf_singleton_other hother, List.append_nil] at h
      rw [lookup_apply_other _ hother]
      exact ih h

theorem mem_terminalRunOnceIds_iff {index : RuntimeQueueStateIndex}
    : queueId ∈ terminalRunOnceIds index ↔
        ((index.lookup queueId).getD .empty).terminalRunOnceEver = true := by
  unfold terminalRunOnceIds
  rw [FMap.mem_keysWhere]
  cases hlookup : index.lookup queueId with
  | none => simp [RuntimeQueueStateIndexEntry.empty]
  | some entry => simp

theorem terminalRunOnceIds_concat
    (h : queueId ∈ terminalRunOnceIds (runtimeQueueStateIndex receipts)) (receipt : RunOnceReceipt)
    : queueId ∈ terminalRunOnceIds (runtimeQueueStateIndex (receipts ++ [receipt])) := by
  rw [mem_terminalRunOnceIds_iff] at h ⊢
  rw [index_concat]
  cases indexed_cases receipt queueId with
  | inl hindexed =>
    cases hindexed with
    | intro status hindexed =>
      rw [lookup_apply_same _ hindexed]
      simp [RuntimeQueueStateIndexEntry.apply, h]
  | inr hother =>
    rw [lookup_apply_other _ hother]
    exact h

theorem terminalRunOnceIds_of_indexed (receipts : List RunOnceReceipt)
    (hindexed : receipt.indexed = some (queueId, status))
    (hterminal : isTerminalRunOnceStatus status = true)
    : queueId ∈ terminalRunOnceIds (runtimeQueueStateIndex (receipts ++ [receipt])) := by
  rw [mem_terminalRunOnceIds_iff, index_concat, lookup_apply_same _ hindexed]
  simp [RuntimeQueueStateIndexEntry.apply, hterminal]

theorem terminalRunOnceIds_of_mem (hmem : receipt ∈ receipts)
    (hindexed : receipt.indexed = some (queueId, status))
    (hterminal : isTerminalRunOnceStatus status = true)
    : queueId ∈ terminalRunOnceIds (runtimeQueueStateIndex receipts) := by
  induction receipts using List.reverseRecOn with
  | nil => cases hmem
  | append_singleton receipts last ih =>
    rw [List.mem_append, List.mem_singleton] at hmem
    cases hmem with
    | inl hmem =>
      apply terminalRunOnceIds_concat
      exact ih hmem
    | inr heq =>
      subst heq
      exact terminalRunOnceIds_of_indexed receipts hindexed hterminal

theorem terminalRunOnceEver_of_terminalEver
    (h : (((runtimeQueueStateIndex receipts).lookup queueId).getD .empty).terminalEver = true)
    : queueId ∈ terminalRunOnceIds (runtimeQueueStateIndex receipts) := by
  induction receipts using List.reverseRecOn with
  | nil => simp [runtimeQueueStateIndex, RuntimeQueueStateIndexEntry.empty] at h
  | append_singleton receipts last ih =>
    cases indexed_cases last queueId with
    | inl hlast =>
      cases hlast with
      | intro status hlast =>
        rw [index_concat, lookup_apply_same _ hlast] at h
        simp only [RuntimeQueueStateIndexEntry.apply, Option.getD_some, Bool.or_eq_true,
          Bool.and_eq_true] at h
        cases h with
        | inl hbefore =>
          apply terminalRunOnceIds_concat
          exact ih hbefore
        | inr hcloses => exact terminalRunOnceIds_of_indexed receipts hlast hcloses.1
    | inr hother =>
      rw [index_concat, lookup_apply_other _ hother] at h
      apply terminalRunOnceIds_concat
      exact ih h

end Index

section Closing

def ClosesRuns (ledgers ledgers' : QueueLedgers) : Prop :=
  ∃ closing, ledgers'.receipts = ledgers.receipts ++ closing
    ∧ ∀ receipt ∈ closing, ∃ queueId status,
        receipt.indexed = some (queueId, status) ∧ isTerminalRunOnceStatus status = true

namespace ClosesRuns

theorem of_eq {ledgers ledgers' : QueueLedgers} (h : ledgers'.receipts = ledgers.receipts)
    : ClosesRuns ledgers ledgers' := by
  refine ⟨[], ?_, ?_⟩
  . rw [h, List.append_nil]
  . intro receipt hreceipt
    cases hreceipt

theorem trans {ledgers ledgers' ledgers'' : QueueLedgers} (h : ClosesRuns ledgers ledgers')
    (h' : ClosesRuns ledgers' ledgers'')
    : ClosesRuns ledgers ledgers'' := by
  cases h with
  | intro first h =>
    cases h' with
    | intro second h' =>
      refine ⟨first ++ second, ?_, ?_⟩
      . rw [h'.1, h.1, List.append_assoc]
      . intro receipt hreceipt
        rw [List.mem_append] at hreceipt
        cases hreceipt with
        | inl hfirst => exact h.2 receipt hfirst
        | inr hsecond => exact h'.2 receipt hsecond

theorem record (ledgers : QueueLedgers) (queueId : String) (control : QueueTerminalControlMatch)
    : ClosesRuns ledgers (recordTerminalControlSuppression ledgers queueId control) := by
  unfold recordTerminalControlSuppression
  split
  . exact of_eq rfl
  . refine ⟨[suppressedReceipt queueId control], rfl, ?_⟩
    intro receipt hreceipt
    rw [List.mem_singleton] at hreceipt
    subst hreceipt
    exact ⟨queueId, "suppressed", rfl, by decide⟩

theorem tombstone (ledgers : QueueLedgers) (item : PendingQueueItem) (reason : String)
    : ClosesRuns ledgers (tombstoneRuntimeQueueItemSkipped ledgers item reason) := by
  refine ⟨[skippedReceipt item.queueId reason], rfl, ?_⟩
  intro receipt hreceipt
  rw [List.mem_singleton] at hreceipt
  subst hreceipt
  exact ⟨item.queueId, "skipped", rfl, by decide⟩

theorem quarantineInvalid (ledgers : QueueLedgers) (item : PendingQueueItem)
    : ClosesRuns ledgers (quarantineInvalidItem ledgers item) := by
  unfold quarantineInvalidItem
  split
  . exact of_eq rfl
  . exact of_eq rfl

theorem quarantineAll (ledgers : QueueLedgers) (items : List PendingQueueItem)
    : ClosesRuns ledgers (items.foldl quarantineInvalidItem ledgers) := by
  induction items generalizing ledgers with
  | nil => exact of_eq rfl
  | cons item items ih => exact (quarantineInvalid ledgers item).trans (ih _)

end ClosesRuns

variable (call : PrepareCall) (ctx : DispatchContext)

theorem automaticResume_closes (ledgers : QueueLedgers) (queueIds : List String)
    : ClosesRuns ledgers (automaticResume ctx ledgers queueIds).1 := by
  induction queueIds generalizing ledgers with
  | nil => exact .of_eq rfl
  | cons queueId rest ih =>
    unfold automaticResume
    split
    . exact ih ledgers
    . next item _ =>
      split
      . exact ih ledgers
      . split
        . exact ih ledgers
        . split
          . next control _ => exact (ClosesRuns.record ledgers item.queueId control).trans (ih _)
          . split
            . next blocker _ => exact (ClosesRuns.tombstone ledgers item blocker).trans (ih _)
            . split
              . exact ih ledgers
              . split
                . exact ih ledgers
                . exact .of_eq rfl

theorem selectPendingItem_closes (requested : Option String) (all items : List PendingQueueItem)
    (ledgers : QueueLedgers)
    : ClosesRuns ledgers (selectPendingItem ctx requested all ledgers items).1 := by
  induction items generalizing ledgers with
  | nil => exact .of_eq rfl
  | cons item rest ih =>
    unfold selectPendingItem
    split
    . exact ih ledgers
    . split
      . next control _ => exact (ClosesRuns.record ledgers item.queueId control).trans (ih _)
      . split
        . exact ih ledgers
        . split
          . next blocker _ => exact (ClosesRuns.tombstone ledgers item blocker).trans (ih _)
          . split
            . exact ih ledgers
            . split
              . exact ih ledgers
              . exact .of_eq rfl

theorem nothingSelected_closes (ledgers : QueueLedgers)
    : ClosesRuns ledgers (nothingSelected call ledgers).ledgers := by
  unfold nothingSelected
  dsimp only
  split
  . exact .record ledgers _ _
  . exact .of_eq rfl

theorem leaseSelected_closes (ledgers : QueueLedgers) (item : PendingQueueItem)
    : ClosesRuns ledgers (leaseSelected call ledgers item).ledgers := by
  unfold leaseSelected
  split
  . exact .trans (.of_eq rfl) (.record _ _ _)
  . split
    . exact .of_eq rfl
    . exact .of_eq rfl

theorem prepareQueued_closes (ledgers : QueueLedgers)
    : ClosesRuns ledgers (prepareQueued call ctx ledgers).ledgers := by
  have hselect := selectPendingItem_closes ctx call.requestedQueueId (selectionOrder ctx)
    (selectionOrder ctx) ledgers
  unfold prepareQueued
  dsimp only
  split
  . next after heq =>
    rw [heq] at hselect
    exact hselect.trans (nothingSelected_closes call after)
  . next after item heq =>
    rw [heq] at hselect
    exact hselect.trans (leaseSelected_closes call after item)

theorem prepareUnasked_closes (ledgers : QueueLedgers)
    : ClosesRuns ledgers (prepareUnasked call ctx ledgers).ledgers := by
  have hresume := automaticResume_closes ctx ledgers (resumeCandidates call ctx)
  unfold prepareUnasked
  split
  . next after heq =>
    rw [heq] at hresume
    exact hresume.trans (prepareQueued_closes call ctx after)
  . next after item heq =>
    rw [heq] at hresume
    exact hresume

variable {ledgers : QueueLedgers} {result : PrepareResult}

theorem requestedControl_closes {queueId : String}
    (h : requestedControl call ctx ledgers queueId = some result)
    : ClosesRuns ledgers result.ledgers := by
  unfold requestedControl at h
  simp only [Option.bind_eq_some_iff] at h
  cases h with
  | intro control h =>
    cases h with
    | intro _ h =>
      split at h
      . injection h with h
        rw [← h]
        exact .record ledgers queueId control
      . simp only [Option.map_eq_some_iff] at h
        cases h with
        | intro prepared h =>
          rw [← h.2]
          exact .record ledgers queueId control

theorem requestedEnded_closes {queueId : String}
    (h : requestedEnded call ctx ledgers queueId = some result)
    : ClosesRuns ledgers result.ledgers := by
  unfold requestedEnded at h
  dsimp only at h
  split at h
  . injection h with h
    rw [← h]
    exact .of_eq rfl
  . split at h
    . injection h with h
      rw [← h]
      exact .of_eq rfl
    . split at h
      . injection h with h
        rw [← h]
        exact .of_eq rfl
      . cases h

theorem requestedResume_closes (ledgers : QueueLedgers) (item : PendingQueueItem)
    : ClosesRuns ledgers (requestedResume ctx ledgers item).ledgers := by
  unfold requestedResume
  dsimp only
  split
  . exact .of_eq rfl
  . split
    . exact .tombstone ledgers item _
    . split
      . exact .of_eq rfl
      . split
        . exact .of_eq rfl
        . exact .of_eq rfl

theorem requestedPrepared_closes {queueId : String}
    (h : requestedPrepared ctx ledgers queueId = some result)
    : ClosesRuns ledgers result.ledgers := by
  unfold requestedPrepared at h
  simp only [Option.map_eq_some_iff] at h
  cases h with
  | intro prepared h =>
    rw [← h.2]
    split
    . exact .of_eq rfl
    . split
      . exact requestedResume_closes ctx ledgers _
      . exact .of_eq rfl

theorem prepareRequested_closes (ledgers : QueueLedgers) (queueId : String)
    : ClosesRuns ledgers (prepareRequested call ctx ledgers queueId).ledgers := by
  unfold prepareRequested
  split
  . next result h => exact requestedControl_closes call ctx h
  . split
    . next result h => exact requestedEnded_closes call ctx h
    . split
      . next result h => exact requestedPrepared_closes ctx h
      . exact prepareQueued_closes call ctx ledgers

theorem dispatchLocked_closes (ledgers : QueueLedgers)
    : ClosesRuns ledgers (dispatchLocked call ctx ledgers).ledgers := by
  unfold dispatchLocked
  split
  . exact prepareUnasked_closes call ctx ledgers
  . exact prepareRequested_closes call ctx ledgers _

end Closing

end RuntimeQueue
