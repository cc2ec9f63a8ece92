import AgentHarness.RuntimeQueue.Lemmas.Grant
import AgentHarness.RuntimeQueue.Lemmas.Ledger

/-!
What a prepare writes: the item of a new lease, the receipts of that item and the rows of the queue.
-/

namespace RuntimeQueue

section Untouched

structure Untouched (queueId : String) (ledgers ledgers' : QueueLedgers) : Prop where
  entry : ledgers'.index.lookup queueId = ledgers.index.lookup queueId
  controls : ledgers'.controls = ledgers.controls

namespace Untouched

variable {queueId : String} {ledgers ledgers' ledgers'' : QueueLedgers}

theorem refl (queueId : String) (ledgers : QueueLedgers) : Untouched queueId ledgers ledgers where
  entry := rfl
  controls := rfl

theorem trans (h : Untouched queueId ledgers ledgers') (h' : Untouched queueId ledgers' ledgers'')
    : Untouched queueId ledgers ledgers'' where
  entry := h'.entry.trans h.entry
  controls := h'.controls.trans h.controls

theorem append {receipt : RunOnceReceipt} (h : ∀ status, receipt.indexed ≠ some (queueId, status))
    (ledgers : QueueLedgers)
    : Untouched queueId ledgers { ledgers with receipts := ledgers.receipts ++ [receipt] } where
  entry := by
    unfold QueueLedgers.index
    rw [index_concat, lookup_apply_other _ h]
  controls := rfl

theorem record {other : String} (hne : other ≠ queueId) (ledgers : QueueLedgers)
    (control : QueueTerminalControlMatch)
    : Untouched queueId ledgers (recordTerminalControlSuppression ledgers other control) := by
  unfold recordTerminalControlSuppression
  split
  . exact refl queueId ledgers
  . apply append
    intro status hindexed
    have heq : some (other, "suppressed") = some (queueId, status) := hindexed
    injection heq with heq
    injection heq with heq
    exact hne heq

theorem tombstone {item : PendingQueueItem} (hne : item.queueId ≠ queueId) (ledgers : QueueLedgers)
    (reason : String)
    : Untouched queueId ledgers (tombstoneRuntimeQueueItemSkipped ledgers item reason) := by
  apply append
  intro status hindexed
  have heq : some (item.queueId, "skipped") = some (queueId, status) := hindexed
  injection heq with heq
  injection heq with heq
  exact hne heq

end Untouched

variable {ctx : DispatchContext} {ledgers : QueueLedgers} {item : PendingQueueItem}

theorem automaticResume_untouched {queueIds : List String} {queueId : String}
    (hnot : queueId ∉ queueIds)
    : Untouched queueId ledgers (automaticResume ctx ledgers queueIds).1 := by
  induction queueIds generalizing ledgers with
  | nil => exact .refl queueId ledgers
  | cons head rest ih =>
    have hrest : queueId ∉ rest := fun h => hnot (List.mem_cons_of_mem head h)
    unfold automaticResume
    split
    . exact ih hrest
    . next row hrow =>
      have hne : row.queueId ≠ queueId := by
        rw [(mem_of_itemById hrow).2]
        intro heq
        rw [heq] at hnot
        exact hnot List.mem_cons_self
      split
      . exact ih hrest
      . split
        . exact ih hrest
        . split
          . exact (Untouched.record hne ledgers _).trans (ih hrest)
          . split
            . exact (Untouched.tombstone hne ledgers _).trans (ih hrest)
            . split
              . exact ih hrest
              . split
                . exact ih hrest
                . exact .refl queueId ledgers

theorem automaticResume_found {queueIds : List String}
    (h : (automaticResume ctx ledgers queueIds).2 = some item)
    : item.queueId ∈ queueIds
      ∧ (queueIds.Nodup → Untouched item.queueId ledgers (automaticResume ctx ledgers queueIds).1) := by
  induction queueIds generalizing ledgers with
  | nil => simp [automaticResume] at h
  | cons head rest ih =>
    have hlater : ∀ ledgers', (automaticResume ctx ledgers' rest).2 = some item →
        (head ≠ item.queueId → Untouched item.queueId ledgers ledgers') →
        item.queueId ∈ head :: rest ∧ ((head :: rest).Nodup →
          Untouched item.queueId ledgers (automaticResume ctx ledgers' rest).1) := by
      intro ledgers' hfound huntouched
      have hitem := ih hfound
      refine ⟨List.mem_cons_of_mem head hitem.1, ?_⟩
      intro hdistinct
      rw [List.nodup_cons] at hdistinct
      refine (huntouched ?_).trans (hitem.2 hdistinct.2)
      intro heq
      rw [heq] at hdistinct
      exact hdistinct.1 hitem.1
    have hsame := hlater ledgers
    unfold automaticResume at h ⊢
    split at h
    . exact hsame h fun _ => .refl _ ledgers
    . next row hrow =>
      have hrowId := (mem_of_itemById hrow).2
      split at h
      . next hclass =>
        rw [if_pos hclass]
        exact hsame h fun _ => .refl _ ledgers
      . next hclass =>
        rw [if_neg hclass]
        split at h
        . next hretry =>
          rw [if_pos hretry]
          exact hsame h fun _ => .refl _ ledgers
        . next hretry =>
          rw [if_neg hretry]
          split at h
          . apply hlater _ h
            intro hne
            rw [← hrowId] at hne
            exact .record hne ledgers _
          . split at h
            . apply hlater _ h
              intro hne
              rw [← hrowId] at hne
              exact .tombstone hne ledgers _
            . split at h
              . next hcapacity =>
                rw [if_pos hcapacity]
                exact hsame h fun _ => .refl _ ledgers
              . next hcapacity =>
                rw [if_neg hcapacity]
                split at h
                . next hlane =>
                  rw [if_pos hlane]
                  exact hsame h fun _ => .refl _ ledgers
                . next hlane =>
                  rw [if_neg hlane]
                  injection h with h
                  subst h
                  rw [hrowId]
                  exact ⟨List.mem_cons_self, fun _ => .refl _ ledgers⟩

theorem selectPendingItem_found {requested : Option String} {all items : List PendingQueueItem}
    (h : (selectPendingItem ctx requested all ledgers items).2 = some item)
    : item ∈ items ∧ item.queueId ∉ ctx.preparedIds
      ∧ ((items.map (·.queueId)).Nodup →
        Untouched item.queueId ledgers (selectPendingItem ctx requested all ledgers items).1) := by
  induction items generalizing ledgers with
  | nil => simp [selectPendingItem] at h
  | cons head rest ih =>
    have hlater : ∀ ledgers', (selectPendingItem ctx requested all ledgers' rest).2 = some item →
        (head.queueId ≠ item.queueId → Untouched item.queueId ledgers ledgers') →
        item ∈ head :: rest ∧ item.queueId ∉ ctx.preparedIds
          ∧ (((head :: rest).map (·.queueId)).Nodup →
            Untouched item.queueId ledgers (selectPendingItem ctx requested all ledgers' rest).1) := by
      intro ledgers' hfound huntouched
      have hitem := ih hfound
      refine ⟨List.mem_cons_of_mem head hitem.1, hitem.2.1, ?_⟩
      intro hdistinct
      rw [List.map_cons, List.nodup_cons] at hdistinct
      refine (huntouched ?_).trans (hitem.2.2 hdistinct.2)
      intro heq
      rw [heq] at hdistinct
      exact hdistinct.1 (List.mem_map_of_mem hitem.1)
    have hsame := hlater ledgers
    unfold selectPendingItem at h ⊢
    split at h
    . next hasked =>
      rw [if_pos hasked]
      exact hsame h fun _ => .refl _ ledgers
    . next hasked =>
      rw [if_neg hasked]
      split at h
      . exact hlater _ h fun hne => .record hne ledgers _
      . split at h
        . next hchecks =>
          rw [if_pos hchecks]
          exact hsame h fun _ => .refl _ ledgers
        . next hchecks =>
          rw [if_neg hchecks]
          split at h
          . exact hlater _ h fun hne => .tombstone hne ledgers _
          . split at h
            . next hcapacity =>
              rw [if_pos hcapacity]
              exact hsame h fun _ => .refl _ ledgers
            . next hcapacity =>
              rw [if_neg hcapacity]
              split at h
              . next hlane =>
                rw [if_pos hlane]
                exact hsame h fun _ => .refl _ ledgers
              . next hlane =>
                rw [if_neg hlane]
                injection h with h
                subst h
                simp only [Bool.or_eq_true, decide_eq_true_eq, not_or] at hchecks
                exact ⟨List.mem_cons_self, hchecks.1.1.1.1.1, fun _ => .refl _ ledgers⟩

end Untouched

section Rows

variable (call : PrepareCall) (ctx : DispatchContext)

theorem record_pending (ledgers : QueueLedgers) (queueId : String)
    (control : QueueTerminalControlMatch)
    : (recordTerminalControlSuppression ledgers queueId control).pending = ledgers.pending := by
  unfold recordTerminalControlSuppression
  split
  . rfl
  . rfl

theorem quarantineAll_frame (ledgers : QueueLedgers) (items : List PendingQueueItem)
    : (items.foldl quarantineInvalidItem ledgers).pending = ledgers.pending
      ∧ (items.foldl quarantineInvalidItem ledgers).receipts = ledgers.receipts := by
  induction items generalizing ledgers with
  | nil => exact ⟨rfl, rfl⟩
  | cons item items ih =>
    have hitem : (quarantineInvalidItem ledgers item).pending = ledgers.pending
        ∧ (quarantineInvalidItem ledgers item).receipts = ledgers.receipts := by
      unfold quarantineInvalidItem
      split
      . exact ⟨rfl, rfl⟩
      . exact ⟨rfl, rfl⟩
    rw [List.foldl_cons, (ih _).1, (ih _).2]
    exact hitem

theorem automaticResume_pending (ledgers : QueueLedgers) (queueIds : List String)
    : (automaticResume ctx ledgers queueIds).1.pending = ledgers.pending := by
  induction queueIds generalizing ledgers with
  | nil => rfl
  | cons queueId rest ih =>
    unfold automaticResume
    split
    . exact ih ledgers
    . split
      . exact ih ledgers
      . split
        . exact ih ledgers
        . split
          . rw [ih, record_pending]
          . split
            . rw [ih]
              rfl
            . split
              . exact ih ledgers
              . split
                . exact ih ledgers
                . rfl

theorem selectPendingItem_pending (requested : Option String) (all items : List PendingQueueItem)
    (ledgers : QueueLedgers)
    : (selectPendingItem ctx requested all ledgers items).1.pending = ledgers.pending := by
  induction items generalizing ledgers with
  | nil => rfl
  | cons item rest ih =>
    unfold selectPendingItem
    split
    . exact ih ledgers
    . split
      . rw [ih, record_pending]
      . split
        . exact ih ledgers
        . split
          . rw [ih]
            rfl
          . split
            . exact ih ledgers
            . split
              . exact ih ledgers
              . rfl

def rowClasses (rows : List PendingQueueItem) : List (String × String) :=
  rows.map fun row => (row.queueId, row.runtimeClass)

theorem rowClasses_rewrite (rows : List PendingQueueItem)
    (queueId workingSessionKey virtualSessionId : String)
    : rowClasses (rewritePendingQueueItemSession rows queueId workingSessionKey virtualSessionId)
        = rowClasses rows := by
  unfold rowClasses rewritePendingQueueItemSession
  rw [List.map_map]
  apply List.map_congr_left
  intro row _
  dsimp only [Function.comp]
  split
  . rfl
  . rfl

theorem rowClasses_rollover {pending rows : List PendingQueueItem} {item rolled : PendingQueueItem}
    (h : maybeApplyContextRolloverBeforeTurn call pending item = some (rows, rolled))
    : rowClasses rows = rowClasses pending := by
  unfold maybeApplyContextRolloverBeforeTurn at h
  split at h
  . injection h with h
    injection h with h
    rw [h]
  . split at h
    . injection h with h
      injection h with h
      rw [h]
    . injection h with h
      injection h with h
      rw [← h, rowClasses_rewrite]
    . cases h

theorem rowClasses_prepareQueued (ledgers : QueueLedgers)
    : rowClasses (prepareQueued call ctx ledgers).ledgers.pending = rowClasses ledgers.pending := by
  have hselect := selectPendingItem_pending ctx call.requestedQueueId (selectionOrder ctx)
    (selectionOrder ctx) ledgers
  unfold prepareQueued
  dsimp only
  split
  . next after hnone =>
    rw [hnone] at hselect
    rw [← hselect]
    unfold nothingSelected
    dsimp only
    split
    . rw [record_pending]
    . rfl
  . next after selected hselected =>
    rw [hselected] at hselect
    rw [← hselect]
    unfold leaseSelected
    split
    . dsimp only
      rw [record_pending]
      rfl
    . split
      . rfl
      . next hrollover => exact rowClasses_rollover call hrollover

theorem rowClasses_prepareUnasked (ledgers : QueueLedgers)
    : rowClasses (prepareUnasked call ctx ledgers).ledgers.pending = rowClasses ledgers.pending := by
  have hresume := automaticResume_pending ctx ledgers (resumeCandidates call ctx)
  unfold prepareUnasked
  split
  . next hnone =>
    rw [hnone] at hresume
    rw [rowClasses_prepareQueued, hresume]
  . next hresumed =>
    rw [hresumed] at hresume
    dsimp only at hresume ⊢
    rw [hresume]

theorem requestedControl_pending {ledgers : QueueLedgers} {queueId : String} {result : PrepareResult}
    (h : requestedControl call ctx ledgers queueId = some result)
    : result.ledgers.pending = ledgers.pending := by
  unfold requestedControl at h
  simp only [Option.bind_eq_some_iff] at h
  cases h with
  | intro control h =>
    cases h with
    | intro _ h =>
      split at h
      . injection h with h
        rw [← h]
        exact record_pending ledgers queueId control
      . simp only [Option.map_eq_some_iff] at h
        cases h with
        | intro prepared h =>
          rw [← h.2]
          exact record_pending ledgers queueId control

theorem requestedEnded_pending {ledgers : QueueLedgers} {queueId : String} {result : PrepareResult}
    (h : requestedEnded call ctx ledgers queueId = some result)
    : result.ledgers.pending = ledgers.pending := by
  unfold requestedEnded at h
  dsimp only at h
  split at h
  . injection h with h
    rw [← h]
  . split at h
    . injection h with h
      rw [← h]
    . split at h
      . injection h with h
        rw [← h]
      . cases h

theorem requestedPrepared_pending {ledgers : QueueLedgers} {queueId : String}
    {result : PrepareResult} (h : requestedPrepared ctx ledgers queueId = some result)
    : result.ledgers.pending = ledgers.pending := by
  unfold requestedPrepared at h
  simp only [Option.map_eq_some_iff] at h
  cases h with
  | intro prepared h =>
    rw [← h.2]
    split
    . rfl
    . split
      . unfold requestedResume
        dsimp only
        split
        . rfl
        . split
          . rfl
          . split
            . rfl
            . split
              . rfl
              . rfl
      . rfl

theorem rowClasses_prepareLocked (home : QueueHome)
    : rowClasses (prepareLocked call home).ledgers.pending = rowClasses home.ledgers.pending := by
  have hpending := (quarantineAll_frame (call.quarantined home.ledgers) (call.pendingRows home)).1.trans
    (quarantineAll_frame home.ledgers call.seen.pending).1
  unfold prepareLocked
  dsimp only
  rw [← hpending]
  split
  . exact rowClasses_prepareUnasked call _ _
  . unfold prepareRequested
    split
    . next hresult => rw [requestedControl_pending call _ hresult]
    . split
      . next hresult => rw [requestedEnded_pending call _ hresult]
      . split
        . next hresult => rw [requestedPrepared_pending _ hresult]
        . exact rowClasses_prepareQueued call _ _

end Rows

section LeaseForm

variable {call : PrepareCall} {ctx : DispatchContext} {ledgers : QueueLedgers}
variable {selected item : PendingQueueItem}

def rolledOver (call : PrepareCall) (pending : List PendingQueueItem) (selected : PendingQueueItem)
    : PendingQueueItem :=
  ((maybeApplyContextRolloverBeforeTurn call pending selected).map (·.2)).getD selected

def leaseForm (call : PrepareCall) (ctx : DispatchContext) (pending : List PendingQueueItem)
    (selected : PendingQueueItem)
    : PendingQueueItem :=
  if selected.queueId ∈ ctx.preparedIds then selected else rolledOver call pending selected

theorem rolledOver_leasedFrom (call : PrepareCall) (pending : List PendingQueueItem)
    (selected : PendingQueueItem)
    : LeasedFrom call selected (rolledOver call pending selected) := by
  unfold rolledOver
  cases hrollover : maybeApplyContextRolloverBeforeTurn call pending selected with
  | none => exact .inl rfl
  | some rolled => exact .inr ⟨pending, rolled.1, hrollover⟩

theorem leaseForm_queueId (call : PrepareCall) (ctx : DispatchContext)
    (pending : List PendingQueueItem) (selected : PendingQueueItem)
    : (leaseForm call ctx pending selected).queueId = selected.queueId := by
  unfold leaseForm
  split
  . rfl
  . exact (rolledOver_leasedFrom call pending selected).queueId_eq

/-
How a result comes to a lease of `item`: it was made of an admitted item, and no receipt of that item
was written on the way.
-/
structure IsLeasedAs (call : PrepareCall) (ctx : DispatchContext) (ledgers : QueueLedgers)
    (result : PrepareResult) (selected item : PendingQueueItem)
    : Prop where
  admitted : Admitted ctx selected
  form : item = leaseForm call ctx ledgers.pending selected
  locked : selected.runtimeClass = ctx.runtimeClass
    ∨ call.requestedQueueId = some selected.queueId
  entry : (ctx.pendingItems.map (·.queueId)).Nodup →
    result.ledgers.index.lookup selected.queueId = ledgers.index.lookup selected.queueId

theorem leaseSelected_rolledOver (h : (leaseSelected call ledgers selected).write = .leased item)
    : item = rolledOver call ledgers.pending selected
      ∧ (leaseSelected call ledgers selected).ledgers.receipts = ledgers.receipts := by
  unfold leaseSelected at h ⊢
  split at h
  . cases h
  . split at h
    . cases h
    . next rows rolled hrollover =>
      injection h with h
      unfold rolledOver
      rw [hrollover, ← h]
      exact ⟨rfl, rfl⟩

theorem nodup_selectionOrder (h : (ctx.pendingItems.map (·.queueId)).Nodup)
    : ((selectionOrder ctx).map (·.queueId)).Nodup := by
  have hfilter : ((ctx.pendingItems.filter fun item =>
      item.runtimeClass = ctx.runtimeClass).map (·.queueId)).Nodup :=
    h.sublist (List.filter_sublist.map _)
  unfold selectionOrder
  dsimp only
  split
  . exact ((List.mergeSort_perm _ _).map _).nodup_iff.mpr hfilter
  . exact ((List.mergeSort_perm _ _).map _).nodup_iff.mpr hfilter

theorem prepareQueued_leasedAs (h : (prepareQueued call ctx ledgers).write = .leased item)
    : ∃ selected, IsLeasedAs call ctx ledgers (prepareQueued call ctx ledgers) selected item
        ∧ selected.queueId ∉ ctx.preparedIds := by
  have hpending := selectPendingItem_pending ctx call.requestedQueueId (selectionOrder ctx)
    (selectionOrder ctx) ledgers
  unfold prepareQueued at h ⊢
  dsimp only at h ⊢
  split at h
  . rw [nothingSelected_write] at h
    cases h
  . next after selected hselect =>
    have hfound := selectPendingItem_found (congrArg Prod.snd hselect)
    have hadmitted := selectPendingItem_admitted (fun _ hmem => hmem) (congrArg Prod.snd hselect)
    have hrolled := leaseSelected_rolledOver h
    rw [hselect] at hpending hfound
    dsimp only at hpending hfound
    refine ⟨selected, ?_, hfound.2.1⟩
    exact {
      admitted := hadmitted.1
      form := by
        unfold leaseForm
        rw [if_neg hfound.2.1, hrolled.1, hpending]
      locked := .inl hadmitted.2
      entry := by
        intro hdistinct
        rw [← (hfound.2.2 (nodup_selectionOrder hdistinct)).entry]
        unfold QueueLedgers.index
        rw [hrolled.2] }

theorem nodup_resumeCandidates (call : PrepareCall) (ctx : DispatchContext)
    : (resumeCandidates call ctx).Nodup := by
  unfold resumeCandidates
  apply List.Nodup.filter
  apply (call.preparedOrder.keys_perm ctx.preparedIds).nodup_iff.mpr
  exact ctx.prepared.keys_nodup

theorem prepareUnasked_leasedAs (h : (prepareUnasked call ctx ledgers).write = .leased item)
    : ∃ selected, IsLeasedAs call ctx ledgers (prepareUnasked call ctx ledgers) selected item := by
  have hpending := automaticResume_pending ctx ledgers (resumeCandidates call ctx)
  have hcandidate : ∀ {queueId}, queueId ∈ resumeCandidates call ctx → queueId ∈ ctx.preparedIds := by
    intro queueId hmem
    unfold resumeCandidates at hmem
    rw [List.mem_filter, HashOrder.mem_keys] at hmem
    exact hmem.1
  unfold prepareUnasked at h ⊢
  split at h
  . next after hnone =>
    rcases prepareQueued_leasedAs h with ⟨selected, hleased, hprepared⟩
    have huntouched : Untouched selected.queueId ledgers
        (automaticResume ctx ledgers (resumeCandidates call ctx)).1 :=
      automaticResume_untouched fun hmem => hprepared (hcandidate hmem)
    rw [hnone] at hpending huntouched
    dsimp only at hpending huntouched
    refine ⟨selected, ?_⟩
    exact {
      admitted := hleased.admitted
      form := by rw [hleased.form, hpending]
      locked := hleased.locked
      entry := fun hdistinct => (hleased.entry hdistinct).trans huntouched.entry }
  . next after resumed hresume =>
    injection h with h
    subst h
    have hfound := automaticResume_found (congrArg Prod.snd hresume)
    have hadmitted := automaticResume_admitted (fun _ hmem => hmem) (congrArg Prod.snd hresume)
    rw [hresume] at hfound
    dsimp only at hfound
    refine ⟨resumed, ?_⟩
    exact {
      admitted := hadmitted.1
      form := by
        unfold leaseForm
        rw [if_pos (hcandidate hfound.1)]
      locked := .inl hadmitted.2
      entry := fun _ => (hfound.2 (nodup_resumeCandidates call ctx)).entry }

theorem requestedResume_ledgers {row : PendingQueueItem}
    (h : (requestedResume ctx ledgers row).write = .leased item)
    : (requestedResume ctx ledgers row).ledgers = ledgers := by
  unfold requestedResume at h ⊢
  dsimp only at h ⊢
  split at h
  . cases h
  . split at h
    . cases h
    . split at h
      . cases h
      . split at h
        . cases h
        . rfl

theorem requestedPrepared_leasedAs {queueId : String} {result : PrepareResult}
    (hrequested : call.requestedQueueId = some queueId) (hended : NotEnded ctx queueId)
    (hresult : requestedPrepared ctx ledgers queueId = some result) (h : result.write = .leased item)
    : IsLeasedAs call ctx ledgers result item item := by
  have hadmitted := requestedPrepared_leased hended hresult h
  unfold requestedPrepared at hresult
  simp only [Option.map_eq_some_iff] at hresult
  cases hresult with
  | intro prepared hresult =>
    have hprepared : item.queueId ∈ ctx.preparedIds := by
      rw [hadmitted.2]
      exact FMap.mem_keys_iff.mpr ⟨prepared, hresult.1⟩
    exact {
      admitted := hadmitted.1
      form := by
        unfold leaseForm
        rw [if_pos hprepared]
      locked := by
        rw [hadmitted.2]
        exact .inr hrequested
      entry := by
        intro _
        rw [← hresult.2] at h ⊢
        split at h
        . cases h
        . next hleased =>
          rw [if_neg hleased]
          split at h
          . rw [requestedResume_ledgers h]
          . cases h }

theorem prepareRequested_leasedAs {queueId : String}
    (hrequested : call.requestedQueueId = some queueId)
    (h : (prepareRequested call ctx ledgers queueId).write = .leased item)
    : ∃ selected, IsLeasedAs call ctx ledgers (prepareRequested call ctx ledgers queueId) selected
        item := by
  unfold prepareRequested at h ⊢
  split at h
  . next result hresult =>
    rw [requestedControl_write hresult] at h
    cases h
  . next hcontrol =>
    cases requestedEnded_cases ledgers queueId with
    | inl hrefused =>
      cases hrefused with
      | intro result hrefused =>
        rw [hrefused.1] at h
        dsimp only at h
        rw [hrefused.2] at h
        cases h
    | inr hended =>
      rw [hended.1] at h ⊢
      dsimp only at h ⊢
      split at h
      . next result hresult =>
        exact ⟨item, requestedPrepared_leasedAs hrequested hended.2 hresult h⟩
      . rcases prepareQueued_leasedAs h with ⟨selected, hleased, _⟩
        exact ⟨selected, hleased⟩

theorem prepareLocked_leasedAs {home : QueueHome}
    (h : (prepareLocked call home).write = .leased item)
    : ∃ selected, IsLeasedAs call (call.context home) home.ledgers (prepareLocked call home) selected
        item := by
  have hrows := quarantineAll_frame (call.quarantined home.ledgers) (call.pendingRows home)
  have hseen := quarantineAll_frame home.ledgers call.seen.pending
  have hpending := hrows.1.trans hseen.1
  have hreceipts := hrows.2.trans hseen.2
  have hleased : ∃ selected, IsLeasedAs call (call.context home)
      ((call.pendingRows home).foldl quarantineInvalidItem (call.quarantined home.ledgers))
      (prepareLocked call home) selected item := by
    unfold prepareLocked at h ⊢
    dsimp only at h ⊢
    split at h
    . exact prepareUnasked_leasedAs h
    . next queueId hrequested => exact prepareRequested_leasedAs hrequested h
  cases hleased with
  | intro selected hleased =>
    refine ⟨selected, ?_⟩
    exact {
      admitted := hleased.admitted
      form := by rw [hleased.form, hpending]
      locked := hleased.locked
      entry := by
        intro hdistinct
        rw [hleased.entry hdistinct]
        unfold QueueLedgers.index
        rw [hreceipts] }

end LeaseForm

end RuntimeQueue
