import AgentHarness.RuntimeQueue.Prepare

/-!
What a purge leaves of the leases of a class and of the fences.
-/

namespace RuntimeQueue

theorem read_insert (files : LeaseFiles) (file other : LeaseFile) (state : LeaseState)
    : LeaseFiles.read (files.insert file state) other
        = if other = file then state else files.read other := by
  unfold LeaseFiles.read
  rw [FMap.lookup_insert_eq]
  split
  . rfl
  . rfl

section Fences

variable {processes : Processes} {runtimeClass : String} {state : LeaseState} {fences : FenceFiles}

theorem lookup_reconcileOrphanedFences (digest : String)
    : (reconcileOrphanedFences processes runtimeClass state fences).lookup digest
        = (fences.lookup digest).filter fun file =>
            !isReconciled processes runtimeClass state digest file := by
  unfold reconcileOrphanedFences
  rw [FMap.lookup_eraseAll]
  cases hlookup : fences.lookup digest with
  | none => simp
  | some file =>
    simp only [Option.filter_some]
    cases hreconciled : isReconciled processes runtimeClass state digest file with
    | true =>
      have hmem : digest ∈ fences.keysWhere (isReconciled processes runtimeClass state) :=
        FMap.mem_keysWhere.mpr ⟨file, hlookup, hreconciled⟩
      simp [hmem]
    | false =>
      have hnot : digest ∉ fences.keysWhere (isReconciled processes runtimeClass state) := by
        intro hmem
        cases FMap.mem_keysWhere.mp hmem with
        | intro other hother =>
          rw [hlookup] at hother
          injection hother.1 with heq
          rw [← heq, hreconciled] at hother
          cases hother.2
      simp [hnot]

end Fences

section Collisions

variable {state : LeaseState} {fences : FenceFiles}

theorem exists_ne_of_mem_tail {α : Type u} {l : List α} (hnodup : l.Nodup) {x : α} (h : x ∈ l.tail)
    : ∃ y ∈ l, y ≠ x := by
  cases l with
  | nil => cases h
  | cons y l =>
    refine ⟨y, List.mem_cons_self, ?_⟩
    intro heq
    rw [heq, List.nodup_cons] at hnodup
    exact hnodup.1 h

variable {queueId : String}

theorem exists_rival_of_mem_collisionLosers (h : queueId ∈ collisionLosers state fences)
    : ∃ lane lease rivalId rival, state.lookup queueId = some lease
        ∧ isInLane fences lane queueId lease = true
        ∧ rivalId ≠ queueId
        ∧ state.lookup rivalId = some rival
        ∧ isInLane fences lane rivalId rival = true := by
  unfold collisionLosers at h
  rw [List.mem_flatMap] at h
  cases h with
  | intro lane h =>
    have hperm := List.mergeSort_perm (state.keysWhere (isInLane fences lane)) (startedBefore state)
    have hnodup := hperm.nodup_iff.mpr (FMap.nodup_keysWhere state (isInLane fences lane))
    have hmem := hperm.mem_iff.mp (List.mem_of_mem_tail h.2)
    cases FMap.mem_keysWhere.mp hmem with
    | intro lease hlease =>
      cases exists_ne_of_mem_tail hnodup h.2 with
      | intro rivalId hrival =>
        cases FMap.mem_keysWhere.mp (hperm.mem_iff.mp hrival.1) with
        | intro rival hlookup =>
          exact ⟨lane, lease, rivalId, rival, hlease.1, hlease.2, hrival.2, hlookup.1, hlookup.2⟩

theorem lookup_of_reconcileCanonicalLeaseCollisions {lease : RuntimeQueueLease}
    (h : (reconcileCanonicalLeaseCollisions state fences).lookup queueId = some lease)
    : state.lookup queueId = some lease := by
  unfold reconcileCanonicalLeaseCollisions at h
  rw [FMap.lookup_eraseAll] at h
  split at h
  . cases h
  . exact h

def HasOwnLane (state : LeaseState) (fences : FenceFiles) (queueId : String)
    (lease : RuntimeQueueLease)
    : Prop :=
  ∃ lane, lease.collisionLane.toOption = some lane ∧
    ∀ rivalId rival, state.lookup rivalId = some rival →
      isInLane fences lane rivalId rival = true → rivalId = queueId

theorem lookup_reconcileCanonicalLeaseCollisions {lease : RuntimeQueueLease}
    (hlookup : state.lookup queueId = some lease)
    (h : fences.isFencedForLease lease = true ∨ HasOwnLane state fences queueId lease)
    : (reconcileCanonicalLeaseCollisions state fences).lookup queueId = some lease := by
  have hinvalid : queueId ∉ state.keysWhere (isInvalidLease fences) := by
    intro hmem
    cases FMap.mem_keysWhere.mp hmem with
    | intro other hother =>
      rw [hlookup] at hother
      injection hother.1 with heq
      rw [← heq] at hother
      unfold isInvalidLease at hother
      simp only [Bool.and_eq_true, Bool.not_eq_true', Option.isNone_iff_eq_none] at hother
      cases h with
      | inl hfenced =>
        rw [hother.2.1] at hfenced
        cases hfenced
      | inr hown =>
        cases hown with
        | intro lane hlane =>
          rw [hother.2.2] at hlane
          cases hlane.1
  have hloser : queueId ∉ collisionLosers state fences := by
    intro hmem
    rcases exists_rival_of_mem_collisionLosers hmem with
      ⟨lane, other, rivalId, rival, hother, hin, hne, hrival, hrivalIn⟩
    rw [hlookup] at hother
    injection hother with heq
    rw [← heq] at hin
    unfold isInLane at hin
    simp only [Bool.and_eq_true, Bool.not_eq_true', decide_eq_true_eq] at hin
    cases h with
    | inl hfenced =>
      rw [hin.1] at hfenced
      cases hfenced
    | inr hown =>
      cases hown with
      | intro own hown =>
        rw [hin.2] at hown
        injection hown.1 with hlane
        rw [hlane] at hrivalIn
        exact hne (hown.2 rivalId rival hrival hrivalIn)
  unfold reconcileCanonicalLeaseCollisions
  rw [FMap.lookup_eraseAll, if_neg]
  . exact hlookup
  . rw [List.mem_append]
    exact not_or.mpr ⟨hinvalid, hloser⟩

end Collisions

section Purge

variable {processes : Processes} {nowMs : Int} {ended : EndedRuns} {state : LeaseState}
variable {fences : FenceFiles}

def fencesAfterPurge (processes : Processes) (state : LeaseState) (fences : FenceFiles)
    : FenceFiles :=
  reconcileOrphanedFences processes (firstRuntimeClass state) state fences

def unpurgedLeases (processes : Processes) (nowMs : Int) (ended : EndedRuns) (state : LeaseState)
    (fences : FenceFiles)
    : LeaseState :=
  state.eraseAll (state.keysWhere (isPurged processes nowMs ended fences))

theorem purge_leases
    : (purgeRuntimeQueueLeases processes nowMs ended state fences).1
        = reconcileCanonicalLeaseCollisions
            (unpurgedLeases processes nowMs ended state (fencesAfterPurge processes state fences))
            (fencesAfterPurge processes state fences) := rfl

variable {queueId : String} {lease : RuntimeQueueLease}

theorem lookup_unpurgedLeases
    : (unpurgedLeases processes nowMs ended state fences).lookup queueId = some lease ↔
        state.lookup queueId = some lease
          ∧ isPurged processes nowMs ended fences queueId lease = false := by
  unfold unpurgedLeases
  rw [FMap.lookup_eraseAll]
  constructor
  . intro h
    split at h
    . cases h
    . next hnot =>
      refine ⟨h, ?_⟩
      cases hpurged : isPurged processes nowMs ended fences queueId lease with
      | false => rfl
      | true => exact absurd (FMap.mem_keysWhere.mpr ⟨lease, h, hpurged⟩) hnot
  . intro h
    rw [if_neg]
    . exact h.1
    . intro hmem
      cases FMap.mem_keysWhere.mp hmem with
      | intro other hother =>
        rw [h.1] at hother
        injection hother.1 with heq
        rw [← heq, h.2] at hother
        cases hother.2

theorem lookup_of_purge
    (h : (purgeRuntimeQueueLeases processes nowMs ended state fences).1.lookup queueId = some lease)
    : state.lookup queueId = some lease
      ∧ isPurged processes nowMs ended (fencesAfterPurge processes state fences) queueId lease
          = false := by
  rw [purge_leases] at h
  exact lookup_unpurgedLeases.mp (lookup_of_reconcileCanonicalLeaseCollisions h)

theorem lookup_purge (hlookup : state.lookup queueId = some lease)
    (hpurged : isPurged processes nowMs ended (fencesAfterPurge processes state fences) queueId lease
      = false) (hlane : (fencesAfterPurge processes state fences).isFencedForLease lease = true
      ∨ HasOwnLane
          (unpurgedLeases processes nowMs ended state (fencesAfterPurge processes state fences))
          (fencesAfterPurge processes state fences) queueId lease)
    : (purgeRuntimeQueueLeases processes nowMs ended state fences).1.lookup queueId = some lease := by
  rw [purge_leases]
  apply lookup_reconcileCanonicalLeaseCollisions
  . exact lookup_unpurgedLeases.mpr ⟨hlookup, hpurged⟩
  . exact hlane

end Purge

end RuntimeQueue

/-!
What a prepare has checked of an item that it leases, whichever of the three ways to a lease it took.
-/

namespace RuntimeQueue

/-
The checks that stand between a pending item and a lease, as the call sees the queue.
-/
structure Admitted (ctx : DispatchContext) (item : PendingQueueItem) : Prop where
  pending : item ∈ ctx.pendingItems
  notTerminal : item.queueId ∉ ctx.terminalRunIds
  notAuthDeferred : item.queueId ∉ ctx.authDeferredRunIds
  notParked : item.queueId ∉ ctx.parkedRunIds
  notLeased : ctx.isLeased item.queueId = false
  retryIsDue : retryScheduleDispatchBlocker ctx.index item.queueId ctx.nowMs = none
  cronAllows : ctx.cronBlocker item = none
  hasCapacity : runtimeCapacityBlocker ctx item = none
  -- against all items, or against those of the class that is locked
  laneAllows : ctx.fifoBlocker ctx.pendingItems item = none
    ∨ (item.runtimeClass = ctx.runtimeClass ∧ ctx.fifoBlocker (selectionOrder ctx) item = none)

instance (ctx : DispatchContext) (item : PendingQueueItem) : Decidable (Admitted ctx item) :=
  decidable_of_iff
    (item ∈ ctx.pendingItems
      ∧ item.queueId ∉ ctx.terminalRunIds
      ∧ item.queueId ∉ ctx.authDeferredRunIds
      ∧ item.queueId ∉ ctx.parkedRunIds
      ∧ ctx.isLeased item.queueId = false
      ∧ retryScheduleDispatchBlocker ctx.index item.queueId ctx.nowMs = none
      ∧ ctx.cronBlocker item = none
      ∧ runtimeCapacityBlocker ctx item = none
      ∧ (ctx.fifoBlocker ctx.pendingItems item = none
        ∨ (item.runtimeClass = ctx.runtimeClass
          ∧ ctx.fifoBlocker (selectionOrder ctx) item = none)))
    ⟨fun ⟨h1, h2, h3, h4, h5, h6, h7, h8, h9⟩ => ⟨h1, h2, h3, h4, h5, h6, h7, h8, h9⟩,
      fun ⟨h1, h2, h3, h4, h5, h6, h7, h8, h9⟩ => ⟨h1, h2, h3, h4, h5, h6, h7, h8, h9⟩⟩

theorem mem_of_itemById {ctx : DispatchContext} {queueId : String} {item : PendingQueueItem}
    (h : ctx.itemById queueId = some item)
    : item ∈ ctx.pendingItems ∧ item.queueId = queueId := by
  unfold DispatchContext.itemById at h
  constructor
  . have := List.mem_of_find?_eq_some h
    simpa using this
  . simpa using List.find?_some h

theorem mem_of_selectionOrder {ctx : DispatchContext} {item : PendingQueueItem}
    (h : item ∈ selectionOrder ctx)
    : item ∈ ctx.pendingItems ∧ item.runtimeClass = ctx.runtimeClass := by
  unfold selectionOrder at h
  dsimp only at h
  split at h
  . simpa using h
  . simpa using h

section

variable {call : PrepareCall} {ctx : DispatchContext}

variable {ledgers : QueueLedgers} {item : PendingQueueItem}

theorem automaticResume_admitted {queueIds : List String}
    (hids : ∀ queueId ∈ queueIds, queueId ∈ resumeCandidates call ctx)
    (h : (automaticResume ctx ledgers queueIds).2 = some item)
    : Admitted ctx item ∧ item.runtimeClass = ctx.runtimeClass := by
  induction queueIds generalizing ledgers with
  | nil => simp [automaticResume] at h
  | cons queueId rest ih =>
    have hrest : ∀ other ∈ rest, other ∈ resumeCandidates call ctx := by
      intro other hother
      exact hids other (List.mem_cons_of_mem queueId hother)
    unfold automaticResume at h
    split at h
    . exact ih hrest h
    . next row hrow =>
      split at h
      . exact ih hrest h
      . next hclass =>
        split at h
        . exact ih hrest h
        . next hretry =>
          split at h
          . exact ih hrest h
          . split at h
            . exact ih hrest h
            . next hcron =>
              split at h
              . exact ih hrest h
              . next hcapacity =>
                split at h
                . exact ih hrest h
                . next hlane =>
                  injection h with h
                  subst h
                  have hmem := mem_of_itemById hrow
                  have hcandidate := hids queueId List.mem_cons_self
                  simp only [resumeCandidates, List.mem_filter, Bool.and_eq_true,
                    decide_eq_true_eq, Bool.not_eq_true'] at hcandidate
                  rw [← hmem.2] at hcandidate hretry
                  refine ⟨?_, not_not.mp hclass⟩
                  exact {
                    pending := hmem.1
                    notTerminal := hcandidate.2.1.1.1
                    notAuthDeferred := hcandidate.2.1.1.2
                    notParked := hcandidate.2.1.2
                    notLeased := hcandidate.2.2
                    retryIsDue := Option.not_isSome_iff_eq_none.mp hretry
                    cronAllows := hcron
                    hasCapacity := Option.not_isSome_iff_eq_none.mp hcapacity
                    laneAllows := .inl (Option.not_isSome_iff_eq_none.mp hlane) }

theorem selectPendingItem_admitted {requested : Option String} {items : List PendingQueueItem}
    (hitems : ∀ item ∈ items, item ∈ selectionOrder ctx)
    (h : (selectPendingItem ctx requested (selectionOrder ctx) ledgers items).2 = some item)
    : Admitted ctx item ∧ item.runtimeClass = ctx.runtimeClass := by
  induction items generalizing ledgers with
  | nil => simp [selectPendingItem] at h
  | cons row rest ih =>
    have hrest : ∀ other ∈ rest, other ∈ selectionOrder ctx := by
      intro other hother
      exact hitems other (List.mem_cons_of_mem row hother)
    unfold selectPendingItem at h
    split at h
    . exact ih hrest h
    . split at h
      . exact ih hrest h
      . split at h
        . exact ih hrest h
        . next hchecks =>
          split at h
          . exact ih hrest h
          . next hcron =>
            split at h
            . exact ih hrest h
            . next hcapacity =>
              split at h
              . exact ih hrest h
              . next hlane =>
                injection h with h
                subst h
                have hmem := mem_of_selectionOrder (hitems row List.mem_cons_self)
                simp only [Bool.or_eq_true, decide_eq_true_eq, not_or] at hchecks
                refine ⟨?_, hmem.2⟩
                exact {
                  pending := hmem.1
                  notTerminal := hchecks.1.1.1.1.2
                  notAuthDeferred := hchecks.1.1.1.2
                  notParked := hchecks.1.1.2
                  notLeased := by simpa using hchecks.2
                  retryIsDue := Option.not_isSome_iff_eq_none.mp hchecks.1.2
                  cronAllows := hcron
                  hasCapacity := Option.not_isSome_iff_eq_none.mp hcapacity
                  laneAllows := .inr ⟨hmem.2, Option.not_isSome_iff_eq_none.mp hlane⟩ }

theorem queueId_of_find? (rows : List PendingQueueItem) (item : PendingQueueItem)
    : ((rows.find? fun row => row.queueId = item.queueId).getD item).queueId = item.queueId := by
  cases hfind : rows.find? fun row => row.queueId = item.queueId with
  | none => rfl
  | some row => simpa using List.find?_some hfind

/-
How the item of a lease comes from the item that was admitted: it is the same one, or the one that
the context rollover has made of it.
-/
def LeasedFrom (call : PrepareCall) (selected item : PendingQueueItem) : Prop :=
  item = selected ∨ ∃ pending rows,
    maybeApplyContextRolloverBeforeTurn call pending selected = some (rows, item)

theorem LeasedFrom.queueId_eq {selected : PendingQueueItem} (h : LeasedFrom call selected item)
    : item.queueId = selected.queueId := by
  cases h with
  | inl heq => rw [heq]
  | inr hrollover =>
    cases hrollover with
    | intro pending hrollover =>
      cases hrollover with
      | intro rows hrollover =>
        unfold maybeApplyContextRolloverBeforeTurn at hrollover
        split at hrollover
        . injection hrollover with hrollover
          injection hrollover with _ hitem
          rw [← hitem]
        . split at hrollover
          . injection hrollover with hrollover
            injection hrollover with _ hitem
            rw [← hitem]
          . injection hrollover with hrollover
            injection hrollover with hrows hitem
            rw [← hitem]
            exact queueId_of_find? _ selected
          . cases hrollover

theorem leaseSelected_leased {selected : PendingQueueItem}
    (h : (leaseSelected call ledgers selected).write = .leased item)
    : LeasedFrom call selected item := by
  unfold leaseSelected at h
  split at h
  . cases h
  . split at h
    . cases h
    . next rows rolled hrollover =>
      injection h with h
      rw [← h]
      exact .inr ⟨ledgers.pending, rows, hrollover⟩

theorem nothingSelected_write (ledgers : QueueLedgers)
    : (nothingSelected call ledgers).write = .purged := by
  unfold nothingSelected
  dsimp only
  split
  . rfl
  . rfl

def IsGranted (call : PrepareCall) (ctx : DispatchContext) (item : PendingQueueItem) : Prop :=
  ∃ selected, Admitted ctx selected ∧ LeasedFrom call selected item
    ∧ (selected.runtimeClass = ctx.runtimeClass ∨ call.requestedQueueId = some selected.queueId)

theorem prepareQueued_leased (h : (prepareQueued call ctx ledgers).write = .leased item)
    : IsGranted call ctx item := by
  unfold prepareQueued at h
  dsimp only at h
  split at h
  . rw [nothingSelected_write] at h
    cases h
  . next selected hselect =>
    have hadmitted := selectPendingItem_admitted (fun _ hmem => hmem) (congrArg Prod.snd hselect)
    exact ⟨selected, hadmitted.1, leaseSelected_leased h, .inl hadmitted.2⟩

theorem prepareUnasked_leased (h : (prepareUnasked call ctx ledgers).write = .leased item)
    : IsGranted call ctx item := by
  unfold prepareUnasked at h
  split at h
  . exact prepareQueued_leased h
  . next resumed hresume =>
    injection h with h
    rw [← h]
    have hadmitted := automaticResume_admitted (fun _ hmem => hmem) (congrArg Prod.snd hresume)
    exact ⟨resumed, hadmitted.1, .inl rfl, .inl hadmitted.2⟩

variable {queueId : String}

theorem requestedControl_write {result : PrepareResult}
    (h : requestedControl call ctx ledgers queueId = some result)
    : result.write = .purged := by
  unfold requestedControl at h
  simp only [Option.bind_eq_some_iff] at h
  cases h with
  | intro control h =>
    cases h with
    | intro _ h =>
      split at h
      . injection h with h
        rw [← h]
      . simp only [Option.map_eq_some_iff] at h
        cases h with
        | intro prepared h => rw [← h.2]

structure NotEnded (ctx : DispatchContext) (queueId : String) : Prop where
  notTerminal : queueId ∉ ctx.terminalRunIds
  notAuthDeferred : queueId ∉ ctx.authDeferredRunIds
  notParked : queueId ∉ ctx.parkedRunIds

theorem requestedEnded_cases (ledgers : QueueLedgers) (queueId : String)
    : (∃ result, requestedEnded call ctx ledgers queueId = some result ∧ result.write = .purged)
      ∨ (requestedEnded call ctx ledgers queueId = none ∧ NotEnded ctx queueId) := by
  unfold requestedEnded
  dsimp only
  split
  . exact .inl ⟨_, rfl, rfl⟩
  . next hterminal =>
    split
    . exact .inl ⟨_, rfl, rfl⟩
    . next hauth =>
      split
      . exact .inl ⟨_, rfl, rfl⟩
      . next hparked => exact .inr ⟨rfl, hterminal, hauth, hparked⟩

theorem requestedResume_leased {row : PendingQueueItem} (hrow : row ∈ ctx.pendingItems)
    (hended : NotEnded ctx row.queueId) (hleased : ctx.isLeased row.queueId = false)
    (h : (requestedResume ctx ledgers row).write = .leased item)
    : item = row ∧ Admitted ctx row := by
  unfold requestedResume at h
  dsimp only at h
  split at h
  . cases h
  . next hretry =>
    split at h
    . cases h
    . next hcron =>
      split at h
      . cases h
      . next hcapacity =>
        split at h
        . cases h
        . next hlane =>
          injection h with h
          exact ⟨h.symm, {
            pending := hrow
            notTerminal := hended.notTerminal
            notAuthDeferred := hended.notAuthDeferred
            notParked := hended.notParked
            notLeased := hleased
            retryIsDue := hretry
            cronAllows := hcron
            hasCapacity := hcapacity
            laneAllows := .inl hlane }⟩

theorem requestedPrepared_leased {result : PrepareResult} (hended : NotEnded ctx queueId)
    (hresult : requestedPrepared ctx ledgers queueId = some result)
    (h : result.write = .leased item)
    : Admitted ctx item ∧ item.queueId = queueId := by
  unfold requestedPrepared at hresult
  simp only [Option.map_eq_some_iff] at hresult
  cases hresult with
  | intro prepared hresult =>
    rw [← hresult.2] at h
    split at h
    . cases h
    . next hleased =>
      split at h
      . next row hrow =>
        have hmem := mem_of_itemById hrow
        rw [← hmem.2] at hended hleased
        have hresume := requestedResume_leased hmem.1 hended (by simpa using hleased) h
        rw [hresume.1]
        exact ⟨hresume.2, hmem.2⟩
      . cases h

theorem prepareRequested_leased (hrequested : call.requestedQueueId = some queueId)
    (h : (prepareRequested call ctx ledgers queueId).write = .leased item)
    : IsGranted call ctx item := by
  unfold prepareRequested at h
  split at h
  . next result hresult =>
    rw [requestedControl_write hresult] at h
    cases h
  . cases requestedEnded_cases ledgers queueId with
    | inl hrefused =>
      cases hrefused with
      | intro result hrefused =>
        rw [hrefused.1] at h
        dsimp only at h
        rw [hrefused.2] at h
        cases h
    | inr hended =>
      rw [hended.1] at h
      dsimp only at h
      split at h
      . next result hresult =>
        have hadmitted := requestedPrepared_leased hended.2 hresult h
        refine ⟨item, hadmitted.1, .inl rfl, .inr ?_⟩
        rw [hadmitted.2]
        exact hrequested
      . exact prepareQueued_leased h

end

section Sample

def sampleWorkerItem : PendingQueueItem where
  queueId := "queue-1"
  createdAtMs := 1000
  agentId := "main"
  sessionKey := "session"
  runtimeClass := "worker"
  origin := "worker"
  cronRunId := none
  platform := "telegram"
  accountId := some "default"
  channelId := "dm-42"
  userId := ""
  continuation := { virtualSessionId := none, continuationIntentKey := none }
  coordinatorResume := none

def sampleBackoff : RunOnceReceipt where
  schema := .text runtimeRunOnceReceiptSchema
  queueId := some "queue-1"
  status := some "retry-pending"
  reason := none
  retrySchedule := some {
    lineageId := "lineage-1"
    attempt := 1
    maxAttempts := 3
    nextEligibleAtMs := 9000 }

def sampleControls : QueueControls where
  quarantined := ∅
  stoppedQueues := ∅
  stoppedSessions := ∅
  skipped := ∅
  history := ∅

def sampleLedgers (pending : List PendingQueueItem) (receipts : List RunOnceReceipt)
    : QueueLedgers where
  pending
  prepared := ∅
  receipts
  controls := sampleControls

def sampleHome (ledgers : QueueLedgers) : QueueHome where
  config := { globalConcurrencyLimit := 8, interactiveReserve := 1, classes := ∅ }
  ledgers
  files := ∅
  fences := ∅

def sampleProcesses : Processes where
  alive _ := some true
  generation _ _ := .alive
  groupAlive _ := some true
  windows := false

def samplePrepare (nowMs : Int) (owner : String) (seen : QueueLedgers) : PrepareCall where
  requestedQueueId := none
  nowMs
  capacityNowMs := nowMs
  owner := .legacy owner
  processes := sampleProcesses
  seen
  preparedOrder := HashOrder.insertion String
  cronRunBlocker _ _ := none
  snapshotError _ := none
  rollover _ := .unchanged

end Sample

end RuntimeQueue
