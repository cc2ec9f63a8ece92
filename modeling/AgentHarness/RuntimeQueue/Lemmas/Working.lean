import AgentHarness.RuntimeQueue.Lemmas.LeaseRun

/-!
A lease under which its owner works stays through the calls of others.
-/

namespace RuntimeQueue

section Property

namespace LeaseRun

def isQuiet (run : LeaseRun) (queueId : String) : Bool :=
  (run.receiptsSince queueId).all fun receipt => receipt.queueId ≠ some queueId

/-
A lease under which its owner works, as a call sees it with its clock and its view of the processes.
-/
structure IsWorking (run : LeaseRun) (nowMs : Int) (processes : Processes) (file : LeaseFile)
    (queueId : String) (lease : RuntimeQueueLease)
    : Prop where
  present : run.lease file queueId = some lease
  unexpired : nowMs < lease.leaseExpiresAtMs
  alive : deadRuntimeQueueLeaseOwner processes lease.owner = none
  quiet : run.isQuiet queueId = true

def observes (action : LeaseAction) : Option (Int × Processes) :=
  match action with
  | .prepare call => some (call.nowMs, call.processes)
  | .inspect call => some (call.nowMs, call.processes)
  | _ => none

def KeepsWorking (run : LeaseRun) (action : LeaseAction) : Prop :=
  ∀ nowMs processes, observes action = some (nowMs, processes) →
    ∀ file queueId lease, run.IsWorking nowMs processes file queueId lease →
      ∀ other, (run.step action).lease other queueId = run.lease other queueId

end LeaseRun

end Property

section Guard

def hasFreeLane (call : PrepareCall) (home : QueueHome) (item : PendingQueueItem) : Bool :=
  let form := leaseForm call (call.context home) home.ledgers.pending item
  match (leaseOf form call.owner call.nowMs).collisionLane.toOption with
  | none => false
  | some lane =>
    ((home.files.read call.lockFile).keysWhere fun rivalId rival =>
      !isPurged call.processes call.nowMs call.endedRuns home.fences rivalId rival
        && rival.collisionLane.toOption = some lane).isEmpty

namespace LeaseRun

def isCurrent (run : LeaseRun) (index : RuntimeQueueStateIndex) (queueId : String) : Bool :=
  index.lookup queueId = run.home.ledgers.index.lookup queueId

def locksItsClass (run : LeaseRun) (call : PrepareCall) : Bool :=
  run.home.ledgers.pending.all fun row =>
    call.requestedQueueId ≠ some row.queueId || row.runtimeClass = call.lockRuntimeClass

def sparesLeases (run : LeaseRun) (call : PrepareCall) : Bool :=
  (run.home.files.read call.lockFile).keys.all fun queueId =>
    !run.isQuiet queueId
      || (run.isCurrent call.seen.index queueId
        && queueId ∉ pendingTerminalControlIds (call.quarantined call.seen) call.preliminaryItems)

def grantsFirstRuns (run : LeaseRun) (call : PrepareCall) : Bool :=
  (call.context run.home).pendingItems.all fun item =>
    !decide (Admitted (call.context run.home) item)
      || (run.isCurrent call.seen.index item.queueId
        && item.queueId ∉ retryPendingRunOnceIds run.home.ledgers.index
        && hasFreeLane call run.home item)

def sparesWorking (run : LeaseRun) (action : LeaseAction) : Bool :=
  match action with
  | .prepare call => run.locksItsClass call && run.sparesLeases call && run.grantsFirstRuns call
  | .inspect call =>
    (run.home.leases call.runtimeClass).keys.all fun queueId =>
      !run.isQuiet queueId || run.isCurrent call.index queueId
  | _ => true

end LeaseRun

end Guard

section Receipts

structure IsOpen (index : RuntimeQueueStateIndex) (queueId : String) : Prop where
  terminal : queueId ∉ terminalRunOnceIds index
  retryPending : queueId ∉ retryPendingRunOnceIds index
  parked : queueId ∉ parkedRunOnceIds index

theorem mem_keysWhere_congr {index index' : RuntimeQueueStateIndex} {queueId : String}
    (h : index'.lookup queueId = index.lookup queueId)
    (p : String → RuntimeQueueStateIndexEntry → Bool)
    : queueId ∈ index'.keysWhere p ↔ queueId ∈ index.keysWhere p := by
  rw [FMap.mem_keysWhere, FMap.mem_keysWhere, h]

theorem IsOpen.congr {index index' : RuntimeQueueStateIndex} {queueId : String}
    (h : IsOpen index queueId) (heq : index'.lookup queueId = index.lookup queueId)
    : IsOpen index' queueId where
  terminal hmem := h.terminal ((mem_keysWhere_congr heq _).mp hmem)
  retryPending hmem := h.retryPending ((mem_keysWhere_congr heq _).mp hmem)
  parked hmem := h.parked ((mem_keysWhere_congr heq _).mp hmem)

theorem lookup_index_append {later : List RunOnceReceipt} {queueId : String}
    (h : ∀ receipt ∈ later, receipt.queueId ≠ some queueId) (receipts : List RunOnceReceipt)
    : (runtimeQueueStateIndex (receipts ++ later)).lookup queueId
        = (runtimeQueueStateIndex receipts).lookup queueId := by
  induction later using List.reverseRecOn with
  | nil => rw [List.append_nil]
  | append_singleton later receipt ih =>
    have hreceipt : ∀ status, receipt.indexed ≠ some (queueId, status) := by
      intro status hindexed
      unfold RunOnceReceipt.indexed at hindexed
      split at hindexed
      . simp only [Option.bind_eq_some_iff, Option.map_eq_some_iff, Prod.mk.injEq] at hindexed
        rcases hindexed with ⟨id, hid, _, _, heq, _⟩
        apply h receipt (List.mem_append_right later List.mem_cons_self)
        rw [hid, heq]
      . cases hindexed
    rw [← List.append_assoc, index_concat, lookup_apply_other _ hreceipt]
    apply ih
    intro other hother
    exact h other (List.mem_append_left [receipt] hother)

theorem LeaseRun.lookup_of_isQuiet {run : LeaseRun} {queueId : String}
    (h : run.isQuiet queueId = true)
    : run.home.ledgers.index.lookup queueId
        = (runtimeQueueStateIndex
            (run.home.ledgers.receipts.take (run.acquired queueId))).lookup queueId := by
  unfold QueueLedgers.index
  rw [← lookup_index_append _ (run.home.ledgers.receipts.take (run.acquired queueId)),
    List.take_append_drop]
  intro receipt hmem
  simpa using List.all_eq_true.mp h receipt hmem

end Receipts

section Invariant

variable {run : LeaseRun} {call : PrepareCall} {file : LeaseFile} {queueId : String}
variable {lease : RuntimeQueueLease}

def IsLocated (home : QueueHome) (file : LeaseFile) (queueId : String) : Prop :=
  ∃ runtimeClass, (queueId, runtimeClass) ∈ rowClasses home.ledgers.pending
    ∧ file = runtimeQueueLeasesFile runtimeClass

def IsAlone (state : LeaseState) (queueId : String) (lease : RuntimeQueueLease) : Prop :=
  ∃ lane, lease.collisionLane.toOption = some lane ∧
    ∀ rivalId rival, state.lookup rivalId = some rival →
      rival.collisionLane.toOption = some lane → rivalId = queueId

structure WorkingInv (run : LeaseRun) : Prop where
  distinct : ((rowClasses run.home.ledgers.pending).map Prod.fst).Nodup
  located : ∀ file queueId lease, run.lease file queueId = some lease →
    IsLocated run.home file queueId
  opened : ∀ file queueId lease, run.lease file queueId = some lease →
    run.acquired queueId ≤ run.home.ledgers.receipts.length
      ∧ IsOpen (runtimeQueueStateIndex
          (run.home.ledgers.receipts.take (run.acquired queueId))) queueId
  alone : ∀ file queueId lease, run.lease file queueId = some lease →
    IsAlone (run.home.files.read file) queueId lease

theorem WorkingInv.isOpen (hinv : WorkingInv run) (h : run.lease file queueId = some lease)
    (hquiet : run.isQuiet queueId = true)
    : IsOpen run.home.ledgers.index queueId :=
  (hinv.opened file queueId lease h).2.congr (LeaseRun.lookup_of_isQuiet hquiet)

theorem WorkingInv.file_unique (hinv : WorkingInv run) {file' : LeaseFile}
    (h : IsLocated run.home file queueId) (h' : IsLocated run.home file' queueId)
    : file' = file := by
  rcases h with ⟨runtimeClass, hmem, hfile⟩
  rcases h' with ⟨runtimeClass', hmem', hfile'⟩
  have heq := List.inj_on_of_nodup_map hinv.distinct hmem hmem' rfl
  injection heq with _ heq
  rw [hfile, hfile', heq]

variable {item : PendingQueueItem} {home : QueueHome}

theorem canonicalPendingItem_ids {row : PendingQueueItem}
    (h : (canonicalPendingItem row).toOption = some item)
    : item.queueId = row.queueId ∧ item.runtimeClass = row.runtimeClass := by
  unfold canonicalPendingItem at h
  split at h
  . cases h
  . injection h with h
    rw [← h]
    exact ⟨rfl, rfl⟩

theorem exists_row_of_pendingItems (h : item ∈ (call.context home).pendingItems)
    : ∃ row ∈ home.ledgers.pending, item.queueId = row.queueId
        ∧ item.runtimeClass = row.runtimeClass := by
  dsimp only [PrepareCall.context] at h
  unfold canonicalizePendingItemsForDispatch PrepareCall.pendingRows at h
  rw [List.mem_filterMap] at h
  rcases h with ⟨row, hrow, hcanonical⟩
  exact ⟨row, (List.mem_filter.mp hrow).1, canonicalPendingItem_ids hcanonical⟩

theorem nodup_pendingItems (h : ((rowClasses home.ledgers.pending).map Prod.fst).Nodup)
    : ((call.context home).pendingItems.map (·.queueId)).Nodup := by
  have hids : (home.ledgers.pending.map (·.queueId)).Nodup := by
    unfold rowClasses at h
    rw [List.map_map] at h
    exact h
  have hrows : ((call.pendingRows home).map (·.queueId)).Nodup :=
    hids.sublist (List.filter_sublist.map _)
  dsimp only [PrepareCall.context]
  unfold canonicalizePendingItemsForDispatch
  generalize call.pendingRows home = rows at hrows
  induction rows with
  | nil => exact List.nodup_nil
  | cons row rows ih =>
    rw [List.map_cons, List.nodup_cons] at hrows
    rw [List.filterMap_cons]
    split
    . exact ih hrows.2
    . next item hok =>
      rw [List.map_cons, List.nodup_cons]
      refine ⟨?_, ih hrows.2⟩
      intro hmem
      rcases List.mem_map.mp hmem with ⟨other, hother, heq⟩
      rcases List.mem_filterMap.mp hother with ⟨otherRow, hotherRow, hotherOk⟩
      apply hrows.1
      rw [← (canonicalPendingItem_ids hok).1, ← heq, (canonicalPendingItem_ids hotherOk).1]
      exact List.mem_map_of_mem hotherRow

theorem isPurged_home {processes : Processes} {nowMs : Int} {ended : EndedRuns}
    {state : LeaseState} {fences : FenceFiles}
    (h : isPurged processes nowMs ended (fencesAfterPurge processes state fences) queueId lease
      = false)
    : isPurged processes nowMs ended fences queueId lease = false := by
  unfold isPurged at h ⊢
  rw [Bool.and_eq_false_iff] at h ⊢
  cases h with
  | inl hfenced =>
    left
    unfold fencesAfterPurge FenceFiles.isFencedForLease FenceFiles.isFenced at hfenced
    rw [lookup_reconcileOrphanedFences] at hfenced
    unfold FenceFiles.isFencedForLease FenceFiles.isFenced
    cases hlookup : fences.lookup lease.canonicalLaneDigest with
    | none =>
      rw [hlookup] at hfenced
      cases hfenced
    | some file => rfl
  | inr hreasons => exact .inr hreasons

/-
What the guard gives for a lease that a prepare writes.
-/
structure IsWellGranted (run : LeaseRun) (call : PrepareCall) (item : PendingQueueItem) : Prop where
  located : IsLocated run.home call.lockFile item.queueId
  opened : IsOpen (prepareLocked call run.home).ledgers.index item.queueId
  notLeased : (call.purge run.home).1.lookup item.queueId = none
  alone : ∃ lane, (leaseOf item call.owner call.nowMs).collisionLane.toOption = some lane ∧
    ∀ rivalId rival, (call.purge run.home).1.lookup rivalId = some rival →
      rival.collisionLane.toOption ≠ some lane

theorem alone_of_hasFreeLane {selected : PendingQueueItem}
    (h : hasFreeLane call home selected = true)
    : ∃ lane, (leaseOf (leaseForm call (call.context home) home.ledgers.pending selected) call.owner
        call.nowMs).collisionLane.toOption = some lane ∧
      ∀ rivalId rival, (call.purge home).1.lookup rivalId = some rival →
        rival.collisionLane.toOption ≠ some lane := by
  unfold hasFreeLane at h
  dsimp only at h
  split at h
  . cases h
  . next lane hlane =>
    refine ⟨lane, hlane, ?_⟩
    intro rivalId rival hrival heq
    have hpurge := lookup_of_purge hrival
    rw [List.isEmpty_iff, List.eq_nil_iff_forall_not_mem] at h
    apply h rivalId
    rw [FMap.mem_keysWhere]
    refine ⟨rival, hpurge.1, ?_⟩
    rw [isPurged_home hpurge.2, heq]
    simp

theorem isWellGranted (hinv : WorkingInv run) (hguard : run.sparesWorking (.prepare call) = true)
    (hwrite : (prepareLocked call run.home).write = .leased item)
    : IsWellGranted run call item := by
  dsimp only [LeaseRun.sparesWorking] at hguard
  rw [Bool.and_eq_true, Bool.and_eq_true] at hguard
  cases prepareLocked_leasedAs hwrite with
  | intro selected hleased =>
    have hpending := hleased.admitted.pending
    have hid : item.queueId = selected.queueId := by
      rw [hleased.form]
      exact leaseForm_queueId call _ _ selected
    have hgrants := List.all_eq_true.mp hguard.2 selected hpending
    simp only [hleased.admitted, decide_true, Bool.not_true, Bool.false_or, Bool.and_eq_true,
      decide_eq_true_eq] at hgrants
    rcases hgrants with ⟨⟨hcurrent, hretry⟩, hlane⟩
    have hseen : call.seen.index.lookup selected.queueId
        = run.home.ledgers.index.lookup selected.queueId := of_decide_eq_true hcurrent
    rcases exists_row_of_pendingItems hpending with ⟨row, hrow, hrowId, hrowClass⟩
    exact {
      located := by
        refine ⟨selected.runtimeClass, ?_, ?_⟩
        . rw [hid, hrowId, hrowClass]
          exact List.mem_map_of_mem hrow
        . cases hleased.locked with
          | inl hclass =>
            rw [hclass]
            rfl
          | inr hrequested =>
            have hlock := List.all_eq_true.mp hguard.1.1 row hrow
            rw [hrowId] at hrequested
            simp only [hrequested, ne_eq, not_true_eq_false, decide_false, Bool.false_or,
              decide_eq_true_eq] at hlock
            rw [hrowClass, hlock]
            rfl
      opened := by
        rw [hid]
        have hhome : IsOpen run.home.ledgers.index selected.queueId := by
          refine ⟨?_, hretry, ?_⟩
          . intro hmem
            apply hleased.admitted.notTerminal
            apply List.mem_append_left
            exact (mem_keysWhere_congr hseen _).mpr hmem
          . intro hmem
            apply hleased.admitted.notParked
            exact (mem_keysWhere_congr hseen _).mpr hmem
        exact hhome.congr (hleased.entry (nodup_pendingItems hinv.distinct))
      notLeased := by
        rw [hid]
        apply Option.not_isSome_iff_eq_none.mp
        rw [Bool.not_eq_true]
        exact hleased.admitted.notLeased
      alone := by
        rw [hleased.form]
        exact alone_of_hasFreeLane hlane }

theorem isLocated_step (action : LeaseAction) (h : IsLocated run.home file queueId)
    : IsLocated (run.step action).home file queueId := by
  cases h with
  | intro runtimeClass h =>
    refine ⟨runtimeClass, ?_, h.2⟩
    rw [show (run.step action).home = action.apply run.home from rfl,
      (ledgers_apply run.home action).rows]
    exact h.1

theorem inv_distinct (hinv : WorkingInv run) (action : LeaseAction)
    : ((rowClasses (run.step action).home.ledgers.pending).map Prod.fst).Nodup := by
  rw [show (run.step action).home = action.apply run.home from rfl,
    (ledgers_apply run.home action).rows]
  exact hinv.distinct

theorem inv_located (hinv : WorkingInv run) {action : LeaseAction}
    (hguard : run.sparesWorking action = true)
    (h : (run.step action).lease file queueId = some lease)
    : IsLocated (run.step action).home file queueId := by
  apply isLocated_step
  cases lease_of_apply h with
  | inl hbefore =>
    cases hbefore with
    | intro before hbefore => exact hinv.located file queueId before hbefore.1
  | inr hnew =>
    rcases hnew with ⟨call, haction, item, hwrite, hfile, hid, _⟩
    subst haction
    rw [hfile, hid]
    exact (isWellGranted hinv hguard hwrite).located

theorem read_of_leased (hwrite : (prepareLocked call run.home).write = .leased item)
    : (run.step (.prepare call)).home.files.read call.lockFile
        = leaseRuntimeQueueItem (call.purge run.home).1 item call.owner call.nowMs := by
  unfold LeaseRun.step LeaseAction.apply prepareRuntimeQueueItem
  dsimp only
  rw [hwrite]
  dsimp only
  rw [read_insert, if_pos rfl]

theorem take_step (action : LeaseAction) {n : Nat} (h : n ≤ run.home.ledgers.receipts.length)
    : n ≤ (run.step action).home.ledgers.receipts.length
      ∧ (run.step action).home.ledgers.receipts.take n = run.home.ledgers.receipts.take n := by
  cases (ledgers_apply run.home action).receipts with
  | intro later hlater =>
    rw [show (run.step action).home = action.apply run.home from rfl, hlater]
    refine ⟨?_, List.take_append_of_le_length h⟩
    rw [List.length_append]
    omega

theorem acquired_step (run : LeaseRun) (action : LeaseAction) (queueId : String)
    : (run.step action).acquired queueId = run.acquired queueId
      ∨ ∃ call item, action = .prepare call ∧ (prepareLocked call run.home).write = .leased item
        ∧ queueId = item.queueId := by
  cases action with
  | prepare call =>
    cases hwrite : (prepareLocked call run.home).write with
    | leased item =>
      by_cases hid : queueId = item.queueId
      . exact .inr ⟨call, item, rfl, hwrite, hid⟩
      . left
        dsimp only [LeaseRun.step]
        unfold LeaseRun.acquiredAfter
        dsimp only
        rw [hwrite]
        exact Function.update_of_ne hid _ _
    | unwritten =>
      left
      dsimp only [LeaseRun.step]
      unfold LeaseRun.acquiredAfter
      dsimp only
      rw [hwrite]
    | purged =>
      left
      dsimp only [LeaseRun.step]
      unfold LeaseRun.acquiredAfter
      dsimp only
      rw [hwrite]
  | _ => exact .inl rfl

theorem inv_opened (hinv : WorkingInv run) {action : LeaseAction}
    (hguard : run.sparesWorking action = true)
    (h : (run.step action).lease file queueId = some lease)
    : (run.step action).acquired queueId ≤ (run.step action).home.ledgers.receipts.length
      ∧ IsOpen (runtimeQueueStateIndex ((run.step action).home.ledgers.receipts.take
          ((run.step action).acquired queueId))) queueId := by
  have hgranted : ∀ call item, action = .prepare call →
      (prepareLocked call run.home).write = .leased item → queueId = item.queueId →
      (run.step action).acquired queueId ≤ (run.step action).home.ledgers.receipts.length
        ∧ IsOpen (runtimeQueueStateIndex ((run.step action).home.ledgers.receipts.take
            ((run.step action).acquired queueId))) queueId := by
    intro call item haction hwrite hid
    subst haction hid
    have hacquired : (run.step (.prepare call)).acquired item.queueId
        = (run.step (.prepare call)).home.ledgers.receipts.length := by
      dsimp only [LeaseRun.step]
      unfold LeaseRun.acquiredAfter
      dsimp only
      rw [hwrite]
      exact Function.update_self _ _ _
    rw [hacquired, List.take_length]
    exact ⟨Nat.le_refl _, (isWellGranted hinv hguard hwrite).opened⟩
  cases lease_of_apply h with
  | inr hnew =>
    rcases hnew with ⟨call, haction, item, hwrite, _, hid, _⟩
    exact hgranted call item haction hwrite hid
  | inl hbefore =>
    cases acquired_step run action queueId with
    | inr hnew =>
      rcases hnew with ⟨call, item, haction, hwrite, hid⟩
      exact hgranted call item haction hwrite hid
    | inl hacquired =>
      cases hbefore with
      | intro before hbefore =>
        have hopened := hinv.opened file queueId before hbefore.1
        have htake := take_step action hopened.1
        rw [hacquired, htake.2]
        exact ⟨htake.1, hopened.2⟩

theorem alone_of_before (hinv : WorkingInv run) {before : RuntimeQueueLease}
    (hbefore : run.lease file queueId = some before) (hrenewal : IsRenewal before lease)
    : ∃ lane, lease.collisionLane.toOption = some lane ∧
        ∀ rivalId rivalBefore rival, run.lease file rivalId = some rivalBefore →
          IsRenewal rivalBefore rival → rival.collisionLane.toOption = some lane →
          rivalId = queueId := by
  cases hinv.alone file queueId before hbefore with
  | intro lane halone =>
    refine ⟨lane, ?_, ?_⟩
    . rw [hrenewal.collisionLane]
      exact halone.1
    . intro rivalId rivalBefore rival hrival hrivalRenewal hlane
      rw [hrivalRenewal.collisionLane] at hlane
      exact halone.2 rivalId rivalBefore hrival hlane

theorem inv_alone (hinv : WorkingInv run) {action : LeaseAction}
    (hguard : run.sparesWorking action = true)
    (h : (run.step action).lease file queueId = some lease)
    : IsAlone ((run.step action).home.files.read file) queueId lease := by
  cases lease_of_apply h with
  | inr hnew =>
    rcases hnew with ⟨call, haction, item, hwrite, hfile, hid, hlease⟩
    subst haction hfile hid hlease
    cases (isWellGranted hinv hguard hwrite).alone with
    | intro lane halone =>
      refine ⟨lane, halone.1, ?_⟩
      intro rivalId rival hrival hlane
      rw [read_of_leased hwrite] at hrival
      unfold leaseRuntimeQueueItem at hrival
      rw [FMap.lookup_insert_eq] at hrival
      split at hrival
      . next hid => exact hid
      . exact absurd hlane (halone.2 rivalId rival hrival)
  | inl hbefore =>
    rcases hbefore with ⟨before, hbefore, hrenewal⟩
    cases alone_of_before hinv hbefore hrenewal with
    | intro lane halone =>
      refine ⟨lane, halone.1, ?_⟩
      intro rivalId rival hrival hlane
      cases lease_of_apply hrival with
      | inl hrivalBefore =>
        rcases hrivalBefore with ⟨rivalBefore, hrivalBefore, hrivalRenewal⟩
        exact halone.2 rivalId rivalBefore rival hrivalBefore hrivalRenewal hlane
      | inr hrivalNew =>
        rcases hrivalNew with ⟨call, haction, item, hwrite, hfile, hid, hrivalLease⟩
        subst haction hfile hid hrivalLease
        cases (isWellGranted hinv hguard hwrite).alone with
        | intro ownLane hown =>
          rw [hown.1] at hlane
          injection hlane with hlane
          by_contra hne
          rw [show (run.step (.prepare call)).lease call.lockFile queueId
            = ((run.step (.prepare call)).home.files.read call.lockFile).lookup queueId from rfl,
            read_of_leased hwrite] at h
          unfold leaseRuntimeQueueItem at h
          rw [FMap.lookup_insert_eq, if_neg fun heq => hne heq.symm] at h
          apply hown.2 queueId lease h
          rw [hlane]
          exact halone.1

theorem workingInv_step (run : LeaseRun) (action : LeaseAction) (hinv : WorkingInv run)
    (hguard : run.sparesWorking action = true)
    : WorkingInv (run.step action) where
  distinct := inv_distinct hinv action
  located _ _ _ h := inv_located hinv hguard h
  opened _ _ _ h := inv_opened hinv hguard h
  alone _ _ _ h := inv_alone hinv hguard h

theorem workingInv_start (hfresh : ∀ file, home.files.read file = ∅)
    (hdistinct : (home.ledgers.pending.map (·.queueId)).Nodup)
    : WorkingInv (LeaseRun.start home) := by
  have hnone : ∀ file queueId lease, (LeaseRun.start home).lease file queueId ≠ some lease := by
    intro file queueId lease h
    rw [show (LeaseRun.start home).lease file queueId = (home.files.read file).lookup queueId from rfl,
      hfresh] at h
    cases h
  exact {
    distinct := by
      rw [rowClasses, List.map_map]
      exact hdistinct
    located := fun file queueId lease h => absurd h (hnone file queueId lease)
    opened := fun file queueId lease h => absurd h (hnone file queueId lease)
    alone := fun file queueId lease h => absurd h (hnone file queueId lease) }

end Invariant

section Kept

variable {run : LeaseRun} {file : LeaseFile} {queueId : String} {lease : RuntimeQueueLease}

theorem lookup_purge_of_working {processes : Processes} {nowMs : Int} {ended : EndedRuns}
    {state : LeaseState} {fences : FenceFiles} (hlookup : state.lookup queueId = some lease)
    (hterminal : queueId ∉ ended.terminalRunIds) (hretry : queueId ∉ ended.retryPendingRunIds)
    (hparked : queueId ∉ ended.parkedRunIds) (hunexpired : nowMs < lease.leaseExpiresAtMs)
    (halive : deadRuntimeQueueLeaseOwner processes lease.owner = none)
    (halone : IsAlone state queueId lease)
    : (purgeRuntimeQueueLeases processes nowMs ended state fences).1.lookup queueId = some lease := by
  apply lookup_purge hlookup
  . unfold isPurged
    simp [hterminal, hretry, hparked, halive, Int.not_le.mpr hunexpired]
  . right
    cases halone with
    | intro lane halone =>
      refine ⟨lane, halone.1, ?_⟩
      intro rivalId rival hrival hin
      unfold isInLane at hin
      rw [Bool.and_eq_true, decide_eq_true_eq] at hin
      exact halone.2 rivalId rival (lookup_unpurgedLeases.mp hrival).1 hin.2

theorem lease_elsewhere (hinv : WorkingInv run) {action : LeaseAction}
    (hguard : run.sparesWorking action = true) (h : run.lease file queueId = some lease)
    {other : LeaseFile} (hne : other ≠ file)
    : (run.step action).lease other queueId = run.lease other queueId := by
  have hhere := hinv.located file queueId lease h
  have hbefore : run.lease other queueId = none := by
    cases hother : run.lease other queueId with
    | none => rfl
    | some lease' =>
      exact absurd (hinv.file_unique hhere (hinv.located other queueId lease' hother)) hne
  cases hafter : (run.step action).lease other queueId with
  | none => rw [hbefore]
  | some lease' =>
    have hlater := workingInv_step run action hinv hguard
    have hthere := hlater.located other queueId lease' hafter
    exact absurd (hlater.file_unique (isLocated_step action hhere) hthere) hne

theorem mem_keys_of_lease {home : QueueHome}
    (h : (home.files.read file).lookup queueId = some lease)
    : queueId ∈ (home.files.read file).keys :=
  FMap.mem_keys_iff.mpr ⟨lease, h⟩

theorem inspect_keeps (hinv : WorkingInv run) {call : InspectCall}
    (hguard : run.sparesWorking (.inspect call) = true)
    (hworking : run.IsWorking call.nowMs call.processes file queueId lease)
    : (run.step (.inspect call)).lease file queueId = some lease := by
  have hpresent := hworking.present
  unfold LeaseRun.step LeaseAction.apply LeaseRun.lease inspectRuntimeQueueClass QueueHome.writeLeases
  dsimp only
  rw [read_insert]
  split
  . next hfile =>
    rw [hfile] at hpresent
    have hcurrent := List.all_eq_true.mp hguard queueId (mem_keys_of_lease hpresent)
    rw [hworking.quiet, Bool.not_true, Bool.false_or] at hcurrent
    have hopen := (hinv.isOpen hworking.present hworking.quiet).congr (of_decide_eq_true hcurrent)
    exact lookup_purge_of_working hpresent hopen.terminal hopen.retryPending hopen.parked
      hworking.unexpired hworking.alive (hinv.alone _ queueId lease hpresent)
  . exact hpresent

theorem prepare_purge_keeps (hinv : WorkingInv run) {call : PrepareCall}
    (hguard : run.sparesWorking (.prepare call) = true)
    (hworking : run.IsWorking call.nowMs call.processes call.lockFile queueId lease)
    : (call.purge run.home).1.lookup queueId = some lease := by
  dsimp only [LeaseRun.sparesWorking] at hguard
  rw [Bool.and_eq_true, Bool.and_eq_true] at hguard
  have hspared := List.all_eq_true.mp hguard.1.2 queueId (mem_keys_of_lease hworking.present)
  rw [hworking.quiet, Bool.not_true, Bool.false_or, Bool.and_eq_true, decide_eq_true_eq] at hspared
  have hopen := (hinv.isOpen hworking.present hworking.quiet).congr (of_decide_eq_true hspared.1)
  apply lookup_purge_of_working hworking.present _ hopen.retryPending hopen.parked
    hworking.unexpired hworking.alive (hinv.alone _ queueId lease hworking.present)
  intro hmem
  cases List.mem_append.mp hmem with
  | inl hterminal => exact hopen.terminal hterminal
  | inr hcontrol => exact hspared.2 hcontrol

theorem prepare_keeps (hinv : WorkingInv run) {call : PrepareCall}
    (hguard : run.sparesWorking (.prepare call) = true)
    (hworking : run.IsWorking call.nowMs call.processes file queueId lease)
    : (run.step (.prepare call)).lease file queueId = some lease := by
  have hpresent := hworking.present
  unfold LeaseRun.step LeaseAction.apply LeaseRun.lease prepareRuntimeQueueItem
  dsimp only
  split
  . exact hpresent
  . rw [read_insert]
    split
    . next hfile =>
      rw [hfile] at hworking
      exact prepare_purge_keeps hinv hguard hworking
    . exact hpresent
  . next item hwrite =>
    rw [read_insert]
    split
    . next hfile =>
      rw [hfile] at hworking
      have hpurge := prepare_purge_keeps hinv hguard hworking
      unfold leaseRuntimeQueueItem
      rw [FMap.lookup_insert_eq, if_neg]
      . exact hpurge
      . intro hid
        rw [hid, (isWellGranted hinv hguard hwrite).notLeased] at hpurge
        cases hpurge
    . exact hpresent

theorem keepsWorking_of_inv (hinv : WorkingInv run) {action : LeaseAction}
    (hguard : run.sparesWorking action = true)
    : run.KeepsWorking action := by
  intro nowMs processes hobserves file queueId lease hworking other
  by_cases hfile : other = file
  . rw [hfile, hworking.present]
    cases action with
    | prepare call =>
      injection hobserves with hobserves
      injection hobserves with hnow hprocesses
      rw [← hnow, ← hprocesses] at hworking
      exact prepare_keeps hinv hguard hworking
    | inspect call =>
      injection hobserves with hobserves
      injection hobserves with hnow hprocesses
      rw [← hnow, ← hprocesses] at hworking
      exact inspect_keeps hinv hguard hworking
    | _ => cases hobserves
  . exact lease_elsewhere hinv hguard hworking.present hfile

end Kept

section Runs

theorem working_lease_stays (home : QueueHome) (hfresh : ∀ file, home.files.read file = ∅)
    (hdistinct : (home.ledgers.pending.map (·.queueId)).Nodup) (actions : List LeaseAction)
    (action : LeaseAction)
    (hguard : Run.Guarded LeaseRun.step (fun run action => run.sparesWorking action = true)
      (LeaseRun.start home) (actions ++ [action]))
    : (Run.exec LeaseRun.step (LeaseRun.start home) actions).KeepsWorking action := by
  rw [Run.guarded_append] at hguard
  apply keepsWorking_of_inv
  . apply Run.exec_invariant_of_guarded WorkingInv workingInv_step _ hguard.1
    exact workingInv_start hfresh hdistinct
  . exact hguard.2.1

def sampleFirst (home : QueueHome) : LeaseAction := .prepare (samplePrepare 10000 "pid:1" home.ledgers)

def sampleLeased (home : QueueHome) : LeaseRun := (LeaseRun.start home).step (sampleFirst home)

def sampleSecond (home : QueueHome) : LeaseAction :=
  .prepare (samplePrepare 11000 "pid:2" (sampleLeased home).home.ledgers)

def sampleWorkerLease : RuntimeQueueLease :=
  leaseOf { sampleWorkerItem with sessionKey := "session:acct-default" } (.legacy "pid:1") 10000

def sampleQueued (receipts : List RunOnceReceipt) : QueueHome :=
  sampleHome (sampleLedgers [sampleWorkerItem] receipts)

theorem sampleLeased_isWorking (receipts : List RunOnceReceipt)
    (hpresent : (sampleLeased (sampleQueued receipts)).lease (runtimeQueueLeasesFile "worker") "queue-1"
      = some sampleWorkerLease)
    (hquiet : (sampleLeased (sampleQueued receipts)).isQuiet "queue-1" = true)
    : (sampleLeased (sampleQueued receipts)).IsWorking 11000 sampleProcesses
        (runtimeQueueLeasesFile "worker") "queue-1" sampleWorkerLease where
  present := hpresent
  unexpired := by decide
  alive := by decide +kernel
  quiet := hquiet

theorem sampleQueued_lease_stays
    : (sampleLeased (sampleQueued [])).IsWorking 11000 sampleProcesses
        (runtimeQueueLeasesFile "worker") "queue-1" sampleWorkerLease
      ∧ (sampleLeased (sampleQueued [])).KeepsWorking (sampleSecond (sampleQueued [])) := by
  constructor
  . apply sampleLeased_isWorking
    . decide +kernel
    . decide +kernel
  . apply working_lease_stays (sampleQueued []) _ _ [sampleFirst (sampleQueued [])]
    . decide +kernel
    . intro file
      rfl
    . decide

theorem retry_lease_is_taken
    : ¬ ∀ (home : QueueHome), (∀ file, home.files.read file = ∅) →
        (home.ledgers.pending.map (·.queueId)).Nodup →
        ∀ (actions : List LeaseAction) (action : LeaseAction),
          Run.Guarded LeaseRun.step LeaseRun.ReadsLedgers (LeaseRun.start home)
            (actions ++ [action]) →
          (Run.exec LeaseRun.step (LeaseRun.start home) actions).KeepsWorking action := by
  intro hclaim
  have hkeeps := hclaim (sampleQueued [sampleBackoff]) (fun _ => rfl) (by decide)
    [sampleFirst (sampleQueued [sampleBackoff])] (sampleSecond (sampleQueued [sampleBackoff]))
    ⟨rfl, rfl, trivial⟩
  have hpresent : (sampleLeased (sampleQueued [sampleBackoff])).lease
      (runtimeQueueLeasesFile "worker") "queue-1" = some sampleWorkerLease := by
    decide +kernel
  have hworking : (sampleLeased (sampleQueued [sampleBackoff])).IsWorking 11000 sampleProcesses
      (runtimeQueueLeasesFile "worker") "queue-1" sampleWorkerLease := by
    apply sampleLeased_isWorking _ hpresent
    decide +kernel
  have hsame := hkeeps 11000 sampleProcesses rfl _ _ _ hworking (runtimeQueueLeasesFile "worker")
  have hother : (((sampleLeased (sampleQueued [sampleBackoff])).step
      (sampleSecond (sampleQueued [sampleBackoff]))).lease (runtimeQueueLeasesFile "worker")
      "queue-1").map (·.owner) = some (.legacy "pid:2") := by
    decide +kernel
  rw [show ((sampleLeased (sampleQueued [sampleBackoff])).step
    (sampleSecond (sampleQueued [sampleBackoff]))).lease (runtimeQueueLeasesFile "worker") "queue-1"
    = some sampleWorkerLease from hsame.trans hpresent] at hother
  revert hother
  decide

end Runs

end RuntimeQueue
