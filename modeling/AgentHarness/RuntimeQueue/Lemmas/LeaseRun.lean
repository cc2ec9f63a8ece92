import AgentHarness.RuntimeQueue.Fence
import AgentHarness.RuntimeQueue.Lemmas.Write

/-!
What one action does to the leases, the receipts and the rows of a home.
-/

namespace RuntimeQueue

section Renewal

def IsRenewal (lease lease' : RuntimeQueueLease) : Prop :=
  ∃ leaseExpiresAtMs, lease' = { lease with leaseExpiresAtMs }

theorem IsRenewal.refl (lease : RuntimeQueueLease) : IsRenewal lease lease :=
  ⟨lease.leaseExpiresAtMs, rfl⟩

variable {lease' : RuntimeQueueLease}

theorem IsRenewal.collisionLane {lease : RuntimeQueueLease} (h : IsRenewal lease lease')
    : lease'.collisionLane = lease.collisionLane := by
  cases h with
  | intro leaseExpiresAtMs h =>
    rw [h]
    rfl

theorem IsRenewal.canonicalLaneDigest {lease : RuntimeQueueLease} (h : IsRenewal lease lease')
    : lease'.canonicalLaneDigest = lease.canonicalLaneDigest := by
  cases h with
  | intro leaseExpiresAtMs h =>
    rw [h]
    rfl

theorem IsRenewal.owner {lease : RuntimeQueueLease} (h : IsRenewal lease lease')
    : lease'.owner = lease.owner := by
  cases h with
  | intro leaseExpiresAtMs h => rw [h]

end Renewal

section Actions

variable {home : QueueHome} {file : LeaseFile} {queueId : String} {lease : RuntimeQueueLease}

def IsNewLease (call : PrepareCall) (home : QueueHome) (file : LeaseFile) (queueId : String)
    (lease : RuntimeQueueLease)
    : Prop :=
  ∃ item, (prepareLocked call home).write = .leased item ∧ file = call.lockFile
    ∧ queueId = item.queueId ∧ lease = leaseOf item call.owner call.nowMs

theorem lease_of_prepare {call : PrepareCall}
    (h : ((prepareRuntimeQueueItem home call).1.files.read file).lookup queueId = some lease)
    : (home.files.read file).lookup queueId = some lease ∨ IsNewLease call home file queueId lease := by
  have hpurge : ∀ {lease}, (call.purge home).1.lookup queueId = some lease → file = call.lockFile →
      (home.files.read file).lookup queueId = some lease := by
    intro lease hlookup hfile
    rw [hfile]
    exact (lookup_of_purge hlookup).1
  unfold prepareRuntimeQueueItem at h
  dsimp only at h
  split at h
  . exact .inl h
  . rw [read_insert] at h
    split at h
    . next hfile => exact .inl (hpurge h hfile)
    . exact .inl h
  . next item hwrite =>
    rw [read_insert] at h
    split at h
    . next hfile =>
      unfold leaseRuntimeQueueItem at h
      rw [FMap.lookup_insert_eq] at h
      split at h
      . next hid =>
        injection h with h
        exact .inr ⟨item, hwrite, hfile, hid, h.symm⟩
      . exact .inl (hpurge h hfile)
    . exact .inl h

variable {runtimeClass : String}

theorem lease_of_writeLeases {state : LeaseState}
    (hstate : ∀ queueId lease, state.lookup queueId = some lease →
      (home.leases runtimeClass).lookup queueId = some lease)
    (h : ((home.writeLeases runtimeClass state).files.read file).lookup queueId = some lease)
    : (home.files.read file).lookup queueId = some lease := by
  unfold QueueHome.writeLeases at h
  dsimp only at h
  rw [read_insert] at h
  split at h
  . next hfile =>
    rw [hfile]
    exact hstate queueId lease h
  . exact h

theorem lease_of_inspect {call : InspectCall}
    (h : ((inspectRuntimeQueueClass home call).files.read file).lookup queueId = some lease)
    : (home.files.read file).lookup queueId = some lease :=
  lease_of_writeLeases (fun _ _ hlookup => (lookup_of_purge hlookup).1) h

theorem lease_of_erase {erased : String}
    (h : ((home.writeLeases runtimeClass ((home.leases runtimeClass).erase erased)).files.read
      file).lookup queueId = some lease)
    : (home.files.read file).lookup queueId = some lease := by
  apply lease_of_writeLeases _ h
  intro queueId lease hlookup
  rw [FMap.lookup_erase_eq] at hlookup
  split at hlookup
  . cases hlookup
  . exact hlookup

theorem lease_of_release {released : String}
    (h : ((releaseRuntimeQueueLeaseOfClass home released runtimeClass).1.files.read file).lookup
      queueId = some lease)
    : (home.files.read file).lookup queueId = some lease := by
  unfold releaseRuntimeQueueLeaseOfClass at h
  dsimp only at h
  split at h
  . exact h
  . split at h
    . exact h
    . exact lease_of_erase h

theorem lease_of_releaseIfOwned {released : String} {authority : RuntimeQueueLeaseReleaseAuthority}
    (h : ((releaseRuntimeQueueLeaseIfOwned home released authority).1.files.read file).lookup
      queueId = some lease)
    : (home.files.read file).lookup queueId = some lease := by
  unfold releaseRuntimeQueueLeaseIfOwned at h
  dsimp only at h
  split at h
  . exact h
  . split at h
    . exact h
    . split at h
      . exact h
      . exact lease_of_erase h

theorem lease_of_reconcileGeneration {call : GenerationCall}
    (h : ((reconcileRuntimeQueueLeasesForGeneration home call runtimeClass).files.read file).lookup
      queueId = some lease)
    : (home.files.read file).lookup queueId = some lease := by
  unfold reconcileRuntimeQueueLeasesForGeneration at h
  dsimp only at h
  split at h
  . exact h
  . apply lease_of_writeLeases _ h
    intro queueId lease hlookup
    rw [FMap.lookup_eraseAll] at hlookup
    split at hlookup
    . cases hlookup
    . exact hlookup

theorem lease_of_renew {guard : RuntimeQueueLeaseGuard} {observedAtMs requiredThroughAtMs : Int}
    {lockBusy : Bool}
    (h : ((renewRuntimeQueueLease home guard observedAtMs requiredThroughAtMs lockBusy).home.files.read
      file).lookup queueId = some lease)
    : ∃ before, (home.files.read file).lookup queueId = some before ∧ IsRenewal before lease := by
  unfold renewRuntimeQueueLease at h
  split at h
  . exact ⟨lease, h, .refl lease⟩
  . split at h
    . exact ⟨lease, h, .refl lease⟩
    . split at h
      . exact ⟨lease, h, .refl lease⟩
      . split at h
        . unfold renewalBusy at h
          dsimp only at h
          split at h
          . exact ⟨lease, h, .refl lease⟩
          . exact ⟨lease, h, .refl lease⟩
        . unfold renewLocked at h
          split at h
          . exact ⟨lease, h, .refl lease⟩
          . next before hlookup =>
            split at h
            . exact ⟨lease, h, .refl lease⟩
            . split at h
              . exact ⟨lease, h, .refl lease⟩
              . split at h
                . exact ⟨lease, h, .refl lease⟩
                . unfold renewalApplied QueueHome.writeLeases at h
                  dsimp only at h
                  rw [read_insert] at h
                  split at h
                  . next hfile =>
                    rw [FMap.lookup_insert_eq] at h
                    split at h
                    . next hid =>
                      injection h with h
                      rw [hfile, hid]
                      exact ⟨before, hlookup, _, h.symm⟩
                    . rw [hfile]
                      exact ⟨lease, h, .refl lease⟩
                  . exact ⟨lease, h, .refl lease⟩

theorem prearm_frame (authority : RuntimeQueueChildCleanupLeaseAuthority) (kind : ContainmentKind)
    (fencedAtMs : Int)
    : (prearmRuntimeQueueChildCleanupFence home authority kind fencedAtMs).1.files = home.files
      ∧ (prearmRuntimeQueueChildCleanupFence home authority kind fencedAtMs).1.ledgers
          = home.ledgers := by
  unfold prearmRuntimeQueueChildCleanupFence
  split
  . exact ⟨rfl, rfl⟩
  . split
    . exact ⟨rfl, rfl⟩
    . split
      . exact ⟨rfl, rfl⟩
      . dsimp only
        split
        . exact ⟨rfl, rfl⟩
        . exact ⟨rfl, rfl⟩
        . split
          . exact ⟨rfl, rfl⟩
          . exact ⟨rfl, rfl⟩

theorem bind_frame (authority : RuntimeQueueChildCleanupFenceAuthority) (child : ChildIdentity)
    : (bindRuntimeQueueChildCleanupFence home authority child).1.files = home.files
      ∧ (bindRuntimeQueueChildCleanupFence home authority child).1.ledgers = home.ledgers := by
  unfold bindRuntimeQueueChildCleanupFence
  split
  . exact ⟨rfl, rfl⟩
  . dsimp only
    split
    . exact ⟨rfl, rfl⟩
    . split
      . exact ⟨rfl, rfl⟩
      . split
        . exact ⟨rfl, rfl⟩
        . exact ⟨rfl, rfl⟩

theorem markProven_frame (authority : RuntimeQueueChildCleanupFenceAuthority)
    (cleanupProvenAtMs : Int)
    : (markRuntimeQueueChildCleanupProven home authority cleanupProvenAtMs).1.files = home.files
      ∧ (markRuntimeQueueChildCleanupProven home authority cleanupProvenAtMs).1.ledgers
          = home.ledgers := by
  unfold markRuntimeQueueChildCleanupProven
  split
  . exact ⟨rfl, rfl⟩
  . split
    . exact ⟨rfl, rfl⟩
    . split
      . split
        . exact ⟨rfl, rfl⟩
        . exact ⟨rfl, rfl⟩
      . exact ⟨rfl, rfl⟩

theorem clear_frame (authority : RuntimeQueueChildCleanupFenceAuthority)
    : (clearRuntimeQueueChildCleanupFence home authority).1.files = home.files
      ∧ (clearRuntimeQueueChildCleanupFence home authority).1.ledgers = home.ledgers := by
  unfold clearRuntimeQueueChildCleanupFence
  split
  . split
    . exact ⟨rfl, rfl⟩
    . exact ⟨rfl, rfl⟩
  . split
    . exact ⟨rfl, rfl⟩
    . exact ⟨rfl, rfl⟩

theorem lease_of_apply {action : LeaseAction}
    (h : ((action.apply home).files.read file).lookup queueId = some lease)
    : (∃ before, (home.files.read file).lookup queueId = some before ∧ IsRenewal before lease)
      ∨ ∃ call, action = .prepare call ∧ IsNewLease call home file queueId lease := by
  have hsame : ∀ {home' : QueueHome}, home'.files = home.files →
      (home'.files.read file).lookup queueId = some lease →
      ∃ before, (home.files.read file).lookup queueId = some before ∧ IsRenewal before lease := by
    intro home' hfiles hlookup
    rw [hfiles] at hlookup
    exact ⟨lease, hlookup, .refl lease⟩
  cases action with
  | prepare call =>
    cases lease_of_prepare h with
    | inl hbefore => exact .inl ⟨lease, hbefore, .refl lease⟩
    | inr hnew => exact .inr ⟨call, rfl, hnew⟩
  | inspect call => exact .inl ⟨lease, lease_of_inspect h, .refl lease⟩
  | renew guard observedAtMs requiredThroughAtMs lockBusy => exact .inl (lease_of_renew h)
  | release released runtimeClass => exact .inl ⟨lease, lease_of_release h, .refl lease⟩
  | releaseIfOwned released authority => exact .inl ⟨lease, lease_of_releaseIfOwned h, .refl lease⟩
  | reconcileGeneration call runtimeClass =>
    exact .inl ⟨lease, lease_of_reconcileGeneration h, .refl lease⟩
  | append receipt => exact .inl ⟨lease, h, .refl lease⟩
  | prearm authority kind fencedAtMs =>
    dsimp only [LeaseAction.apply] at h
    exact .inl (hsame (prearm_frame authority kind fencedAtMs).1 h)
  | bind authority child => exact .inl (hsame (bind_frame authority child).1 h)
  | markProven authority cleanupProvenAtMs =>
    exact .inl (hsame (markProven_frame authority cleanupProvenAtMs).1 h)
  | clear authority => exact .inl (hsame (clear_frame authority.val).1 h)

end Actions

section Ledgers

variable {home : QueueHome}

theorem renew_frame (guard : RuntimeQueueLeaseGuard) (observedAtMs requiredThroughAtMs : Int)
    (lockBusy : Bool)
    : (renewRuntimeQueueLease home guard observedAtMs requiredThroughAtMs lockBusy).home.ledgers
          = home.ledgers
      ∧ (renewRuntimeQueueLease home guard observedAtMs requiredThroughAtMs lockBusy).home.fences
          = home.fences := by
  unfold renewRuntimeQueueLease
  split
  . exact ⟨rfl, rfl⟩
  . split
    . exact ⟨rfl, rfl⟩
    . split
      . exact ⟨rfl, rfl⟩
      . split
        . unfold renewalBusy
          dsimp only
          split
          . exact ⟨rfl, rfl⟩
          . exact ⟨rfl, rfl⟩
        . unfold renewLocked
          split
          . exact ⟨rfl, rfl⟩
          . split
            . exact ⟨rfl, rfl⟩
            . split
              . exact ⟨rfl, rfl⟩
              . split
                . exact ⟨rfl, rfl⟩
                . exact ⟨rfl, rfl⟩

theorem release_frame (queueId runtimeClass : String)
    : (releaseRuntimeQueueLeaseOfClass home queueId runtimeClass).1.ledgers = home.ledgers
      ∧ (releaseRuntimeQueueLeaseOfClass home queueId runtimeClass).1.fences = home.fences := by
  unfold releaseRuntimeQueueLeaseOfClass
  dsimp only
  split
  . exact ⟨rfl, rfl⟩
  . split
    . exact ⟨rfl, rfl⟩
    . exact ⟨rfl, rfl⟩

theorem releaseIfOwned_frame (queueId : String) (authority : RuntimeQueueLeaseReleaseAuthority)
    : (releaseRuntimeQueueLeaseIfOwned home queueId authority).1.ledgers = home.ledgers
      ∧ (releaseRuntimeQueueLeaseIfOwned home queueId authority).1.fences = home.fences := by
  unfold releaseRuntimeQueueLeaseIfOwned
  dsimp only
  split
  . exact ⟨rfl, rfl⟩
  . split
    . exact ⟨rfl, rfl⟩
    . split
      . exact ⟨rfl, rfl⟩
      . exact ⟨rfl, rfl⟩

structure Extends (ledgers ledgers' : QueueLedgers) : Prop where
  receipts : ∃ later, ledgers'.receipts = ledgers.receipts ++ later
  rows : rowClasses ledgers'.pending = rowClasses ledgers.pending

namespace Extends

variable {ledgers ledgers' : QueueLedgers}

theorem of_eq (h : ledgers' = ledgers)
    : Extends ledgers ledgers' := by
  rw [h]
  exact ⟨⟨[], (List.append_nil _).symm⟩, rfl⟩

theorem trans {ledgers'' : QueueLedgers} (h : Extends ledgers ledgers')
    (h' : Extends ledgers' ledgers'')
    : Extends ledgers ledgers'' := by
  cases h.receipts with
  | intro first hfirst =>
    cases h'.receipts with
    | intro second hsecond =>
      refine ⟨⟨first ++ second, ?_⟩, h'.rows.trans h.rows⟩
      rw [hsecond, hfirst, List.append_assoc]

theorem of_closes (h : ClosesRuns ledgers ledgers')
    (hrows : rowClasses ledgers'.pending = rowClasses ledgers.pending)
    : Extends ledgers ledgers' := by
  cases h with
  | intro closing h => exact ⟨⟨closing, h.1⟩, hrows⟩

end Extends

theorem prepare_extends (call : PrepareCall)
    : Extends home.ledgers (prepareLocked call home).ledgers := by
  apply Extends.of_closes _ (rowClasses_prepareLocked call home)
  have hseen : ClosesRuns home.ledgers (call.quarantined home.ledgers) :=
    ClosesRuns.quarantineAll home.ledgers call.seen.pending
  have hrows := ClosesRuns.quarantineAll (call.quarantined home.ledgers) (call.pendingRows home)
  exact (hseen.trans hrows).trans (dispatchLocked_closes call (call.context home) _)

theorem suppressReaped_extends (call : GenerationCall) (ledgers : QueueLedgers)
    (reaped : List String)
    : Extends ledgers (reaped.foldl call.suppressReaped ledgers) := by
  induction reaped generalizing ledgers with
  | nil => exact .of_eq rfl
  | cons queueId reaped ih =>
    have hstep : Extends ledgers (call.suppressReaped ledgers queueId) := by
      unfold GenerationCall.suppressReaped
      split
      . exact .of_eq rfl
      . split
        . exact .of_eq rfl
        . next control _ =>
          apply Extends.of_closes (.record ledgers queueId control)
          rw [record_pending]
    exact hstep.trans (ih _)

theorem ledgers_apply (home : QueueHome) (action : LeaseAction)
    : Extends home.ledgers (action.apply home).ledgers := by
  cases action with
  | prepare call => exact prepare_extends call
  | inspect call => exact .of_eq rfl
  | renew guard observedAtMs requiredThroughAtMs lockBusy =>
    exact .of_eq (renew_frame guard observedAtMs requiredThroughAtMs lockBusy).1
  | release queueId runtimeClass => exact .of_eq (release_frame queueId runtimeClass).1
  | releaseIfOwned queueId authority => exact .of_eq (releaseIfOwned_frame queueId authority).1
  | reconcileGeneration call runtimeClass =>
    dsimp only [LeaseAction.apply]
    unfold reconcileRuntimeQueueLeasesForGeneration
    dsimp only
    split
    . exact .of_eq rfl
    . exact suppressReaped_extends call home.ledgers _
  | append receipt => exact ⟨⟨[receipt], rfl⟩, rfl⟩
  | prearm authority kind fencedAtMs =>
    dsimp only [LeaseAction.apply]
    exact .of_eq (prearm_frame authority kind fencedAtMs).2
  | bind authority child => exact .of_eq (bind_frame authority child).2
  | markProven authority cleanupProvenAtMs =>
    exact .of_eq (markProven_frame authority cleanupProvenAtMs).2
  | clear authority => exact .of_eq (clear_frame authority.val).2

def LeaseRun.ReadsLedgers (run : LeaseRun) (action : LeaseAction) : Prop :=
  match action with
  | .prepare call => call.seen = run.home.ledgers
  | .inspect call => call.receipts = run.home.ledgers.receipts
  | _ => True

end Ledgers

end RuntimeQueue
