import AgentHarness.RuntimeQueue.Lemmas.LeaseRun

/-!
A child-cleanup fence closes its lane.
-/

namespace RuntimeQueue

section Property

-- the taking of a lease, as a fence and an authority over it name it
structure Acquisition where
  queueId : String
  runtimeClass : String
  leaseOwnerDigest : String
  leaseAcquiredAtMs : Int

def RuntimeQueueChildCleanupFence.acquisition (fence : RuntimeQueueChildCleanupFence)
    : Acquisition where
  queueId := fence.queueId
  runtimeClass := fence.runtimeClass
  leaseOwnerDigest := fence.leaseOwnerDigest
  leaseAcquiredAtMs := fence.leaseAcquiredAtMs

namespace LeaseAction

def acquisition (action : LeaseAction) : Option Acquisition :=
  match action with
  | .prearm authority _ _ => some {
    queueId := authority.queueId
    runtimeClass := authority.runtimeClass
    leaseOwnerDigest := authority.leaseOwnerDigest
    leaseAcquiredAtMs := authority.leaseAcquiredAtMs }
  | .bind authority _ => some authority.record.acquisition
  | .markProven authority _ => some authority.record.acquisition
  | .clear authority => some authority.val.record.acquisition
  | _ => none

def watches (action : LeaseAction) : Option Processes :=
  match action with
  | .prepare call => some call.processes
  | .inspect call => some call.processes
  | .reconcileGeneration call _ => some call.processes
  | _ => none

end LeaseAction

inductive FencePhase.Moves : FencePhase → FencePhase → Prop where
  | bind : Moves .spawnInProgress .childBound
  | proveUnbound : Moves .spawnInProgress .cleanupProven
  | proveBound : Moves .childBound .cleanupProven

def RuntimeQueueChildCleanupFence.ChildIsDead (fence : RuntimeQueueChildCleanupFence)
    (processes : Processes)
    : Prop :=
  ∃ processId, fence.childProcessId = some processId ∧
    (fence.containmentKind = .unixProcessGroup ∧ processes.groupAlive processId = some false
      ∨ fence.containmentKind = .windowsJob
        ∧ ∃ startTimeMs, fence.childProcessStartTimeMs = some startTimeMs
          ∧ processes.generation processId startTimeMs = .deadOrReused)

/-
The owner of the lease that the fence is about was seen dead, and its child too; on Windows it is
enough that no child was bound.
-/
def IsAbandoned (home : QueueHome) (processes : Processes) (fence : RuntimeQueueChildCleanupFence)
    : Prop :=
  (∃ file lease owner, (home.files.read file).lookup fence.queueId = some lease
    ∧ lease.owner = .envelope owner ∧ fence.matchesLease lease owner = true
    ∧ processes.generation owner.pid owner.processStartTimeMs = .deadOrReused)
  ∧ (fence.phase = .childBound ∧ fence.ChildIsDead processes
    ∨ processes.windows = true ∧ fence.phase = .spawnInProgress ∧ fence.childProcessId = none)

/-
What a fence promises about an action: `holder` is about the state before it, the other fields about
the step.
-/
structure FenceHolds (run : LeaseRun) (action : LeaseAction) (digest : String) : Prop where
  holder : run.home.fences.isFenced digest = true → ∀ armed, run.armed digest = some armed →
    ∃ lease, run.lease armed.file armed.queueId = some lease ∧ lease.owner = armed.owner
      ∧ lease.canonicalLaneDigest = digest
  lane : run.home.fences.isFenced digest = true →
    (run.step action).home.fences.isFenced digest = true →
    ∀ file queueId lease, (run.step action).lease file queueId = some lease →
      lease.canonicalLaneDigest = digest →
      ∃ before, run.lease file queueId = some before ∧ before.owner = lease.owner
  phase : ∀ fence fence', run.home.fences.lookup digest = some (some fence) →
    (run.step action).home.fences.lookup digest = some (some fence') →
    fence'.phase = fence.phase ∨ fence.phase.Moves fence'.phase
  removal : run.home.fences.isFenced digest = true →
    (run.step action).home.fences.isFenced digest = false →
    ∃ fence, run.home.fences.lookup digest = some (some fence) ∧
      (fence.phase = .cleanupProven
        ∨ ∃ processes, action.watches = some processes ∧ IsAbandoned run.home processes fence)
  authority : ∀ fence acquisition, run.home.fences.lookup digest = some (some fence) →
    action.acquisition = some acquisition → acquisition ≠ fence.acquisition →
    (run.step action).home.fences.lookup digest = run.home.fences.lookup digest

def LeaseRun.staysOffFences (run : LeaseRun) (action : LeaseAction) : Bool :=
  match action with
  | .prepare call =>
    (call.context run.home).pendingItems.all fun item =>
      let form := leaseForm call (call.context run.home) run.home.ledgers.pending item
      !decide (Admitted (call.context run.home) item)
        || form.canonicalLaneDigest = item.canonicalLaneDigest
        || !run.home.fences.isFenced form.canonicalLaneDigest
  | _ => true

end Property

section Change

-- all that an action can do to the fence file of a lane
inductive FenceChange (home : QueueHome) (action : LeaseAction) (digest : String)
    : Option (Option RuntimeQueueChildCleanupFence) → Option (Option RuntimeQueueChildCleanupFence) →
      Prop where
  | same (file) : FenceChange home action digest file file
  | prearmed (fence : RuntimeQueueChildCleanupFence)
      (authority : RuntimeQueueChildCleanupLeaseAuthority) (kind : ContainmentKind) (fencedAtMs : Int)
      (lease : RuntimeQueueLease) (haction : action = .prearm authority kind fencedAtMs)
      (hlease : (home.leases authority.runtimeClass).lookup authority.queueId = some lease)
      (hauthority : authority.canonicalLaneDigest = digest)
      (hlane : lease.canonicalLaneDigest = digest)
      : FenceChange home action digest none (some (some fence))
  | moved (fence fence' : RuntimeQueueChildCleanupFence) (hphase : fence.phase.Moves fence'.phase)
      (hauthority : action.acquisition = some fence.acquisition)
      : FenceChange home action digest (some (some fence)) (some (some fence'))
  | cleared (fence : RuntimeQueueChildCleanupFence) (hphase : fence.phase = .cleanupProven)
      (hauthority : action.acquisition = some fence.acquisition)
      : FenceChange home action digest (some (some fence)) none
  | reconciled (fence : RuntimeQueueChildCleanupFence) (processes : Processes)
      (runtimeClass : String) (file : LeaseFile) (hwatches : action.watches = some processes)
      (hreconciled : isReconciled processes runtimeClass (home.files.read file) digest (some fence)
        = true)
      : FenceChange home action digest (some (some fence)) none

variable {home : QueueHome} {action : LeaseAction} {digest : String}

theorem FenceChange.reconcile {processes : Processes} (runtimeClass : String) (file : LeaseFile)
    (hwatches : action.watches = some processes)
    : FenceChange home action digest (home.fences.lookup digest)
        ((reconcileOrphanedFences processes runtimeClass (home.files.read file)
          home.fences).lookup digest) := by
  rw [lookup_reconcileOrphanedFences]
  cases hlookup : home.fences.lookup digest with
  | none => exact .same none
  | some record =>
    rw [Option.filter_some]
    cases hreconciled : isReconciled processes runtimeClass (home.files.read file) digest record with
    | false => exact .same (some record)
    | true =>
      cases record with
      | none => cases hreconciled
      | some fence => exact .reconciled fence processes runtimeClass file hwatches hreconciled

variable {authority : RuntimeQueueChildCleanupFenceAuthority}

theorem readFence_ok {label : String} {current : RuntimeQueueChildCleanupFence}
    (h : readFence home label authority = .ok current)
    : home.fences.lookup authority.record.canonicalLaneDigest = some (some current) := by
  unfold readFence at h
  split at h
  . cases h
  . cases h
  . next fence hlookup =>
    injection h with h
    rw [hlookup, h]

theorem FenceChange.write {fence' : RuntimeQueueChildCleanupFence}
    (hlookup : home.fences.lookup authority.record.canonicalLaneDigest
      = some (some authority.record))
    (hdigest : fence'.canonicalLaneDigest = authority.record.canonicalLaneDigest)
    (hphase : authority.record.phase.Moves fence'.phase)
    (hauthority : action.acquisition = some authority.record.acquisition)
    : FenceChange home action digest (home.fences.lookup digest)
        ((writeFence home fence').fences.lookup digest) := by
  unfold writeFence
  dsimp only
  rw [hdigest, FMap.lookup_insert_eq]
  split
  . next heq =>
    rw [heq, hlookup]
    exact .moved authority.record fence' hphase hauthority
  . exact .same _

theorem FenceChange.prearm (authority : RuntimeQueueChildCleanupLeaseAuthority)
    (kind : ContainmentKind) (fencedAtMs : Int)
    : FenceChange home (.prearm authority kind fencedAtMs) digest (home.fences.lookup digest)
        ((prearmRuntimeQueueChildCleanupFence home authority kind fencedAtMs).1.fences.lookup
          digest) := by
  unfold prearmRuntimeQueueChildCleanupFence
  split
  . exact .same _
  . split
    . exact .same _
    . next lease hlease =>
      split
      . exact .same _
      . next hmatches =>
        have hlane : lease.canonicalLaneDigest = authority.canonicalLaneDigest := by
          rw [Bool.not_eq_true', Bool.not_eq_false] at hmatches
          unfold RuntimeQueueChildCleanupLeaseAuthority.matchesLease at hmatches
          simp only [Bool.and_eq_true, decide_eq_true_eq] at hmatches
          exact hmatches.1.1.2
        dsimp only
        split
        . next hlookup =>
          dsimp only
          rw [FMap.lookup_insert_eq]
          split
          . next heq =>
            rw [heq, hlookup]
            exact .prearmed _ authority kind fencedAtMs lease rfl hlease rfl hlane
          . exact .same _
        . exact .same _
        . split
          . exact .same _
          . exact .same _

theorem FenceChange.bind (authority : RuntimeQueueChildCleanupFenceAuthority)
    (child : ChildIdentity)
    : FenceChange home (.bind authority child) digest (home.fences.lookup digest)
        ((bindRuntimeQueueChildCleanupFence home authority child).1.fences.lookup digest) := by
  unfold bindRuntimeQueueChildCleanupFence
  split
  . exact .same _
  . next hbindable =>
    dsimp only
    split
    . exact .same _
    . next current hcurrent =>
      split
      . exact .same _
      . split
        . exact .same _
        . next hsame =>
          rw [not_not] at hsame
          rw [hsame] at hcurrent
          have hphase : authority.record.phase = .spawnInProgress := by
            rw [Bool.not_eq_true', Bool.not_eq_false] at hbindable
            unfold RuntimeQueueChildCleanupFenceAuthority.isBindable at hbindable
            simp only [Bool.and_eq_true, decide_eq_true_eq] at hbindable
            exact hbindable.1.1.1.1
          have hmoves : authority.record.phase.Moves (authority.bound child).phase := by
            rw [hphase]
            exact .bind
          exact FenceChange.write (readFence_ok hcurrent) rfl hmoves rfl

theorem FenceChange.markProven (authority : RuntimeQueueChildCleanupFenceAuthority)
    (cleanupProvenAtMs : Int)
    : FenceChange home (.markProven authority cleanupProvenAtMs) digest
        (home.fences.lookup digest)
        ((markRuntimeQueueChildCleanupProven home authority cleanupProvenAtMs).1.fences.lookup
          digest) := by
  unfold markRuntimeQueueChildCleanupProven
  split
  . exact .same _
  . next hvalid =>
    split
    . exact .same _
    . next current hcurrent =>
      split
      . split
        . exact .same _
        . exact .same _
      . next hsame =>
        rw [not_not] at hsame
        rw [hsame] at hcurrent
        have hmoves : authority.record.phase.Moves (authority.proven cleanupProvenAtMs).phase := by
          simp only [Bool.or_eq_true, Bool.and_eq_true, Bool.not_eq_true', not_or, not_and,
            Bool.not_eq_false] at hvalid
          cases hprearm : authority.isValidPrearm with
          | true =>
            unfold RuntimeQueueChildCleanupFenceAuthority.isValidPrearm at hprearm
            simp only [Bool.and_eq_true, decide_eq_true_eq] at hprearm
            rw [hprearm.1.1.1]
            exact .proveUnbound
          | false =>
            have hbound := hvalid.1 hprearm
            unfold RuntimeQueueChildCleanupFenceAuthority.isValidBound at hbound
            simp only [Bool.and_eq_true, decide_eq_true_eq] at hbound
            rw [hbound.1.1.1]
            exact .proveBound
        exact FenceChange.write (readFence_ok hcurrent) rfl hmoves rfl

theorem markProven_phase {authority proven : RuntimeQueueChildCleanupFenceAuthority}
    {cleanupProvenAtMs : Int}
    (h : (markRuntimeQueueChildCleanupProven home authority cleanupProvenAtMs).2 = .ok proven)
    : proven.record.phase = .cleanupProven := by
  unfold markRuntimeQueueChildCleanupProven at h
  split at h
  . cases h
  . split at h
    . cases h
    . split at h
      . split at h
        . next hderives =>
          injection h with h
          rw [← h]
          unfold childCleanupProofDerivesFrom at hderives
          simp only [Bool.and_eq_true, decide_eq_true_eq, and_assoc] at hderives
          exact hderives.1
        . cases h
      . injection h with h
        rw [← h]
        rfl

/-
A finalize is the proof and, once it stands, the removal; the lock is free between them.
-/
theorem finalize_actions (authority : RuntimeQueueChildCleanupFenceAuthority) (cleanupProvenAtMs : Int)
    : let proved := LeaseAction.apply home (.markProven authority cleanupProvenAtMs)
      let later := (finalizeRuntimeQueueChildCleanupFence home authority cleanupProvenAtMs).1
      later = proved ∨ ∃ proven, later = LeaseAction.apply proved (.clear proven) := by
  intro proved later
  have hphase := @markProven_phase home authority
  cases hmark : markRuntimeQueueChildCleanupProven home authority cleanupProvenAtMs with
  | mk after result =>
    have hproved : proved = after := congrArg Prod.fst hmark
    unfold later finalizeRuntimeQueueChildCleanupFence
    rw [hmark, hproved]
    cases result with
    | error e =>
      left
      dsimp only
      split
      . rfl
      . rfl
    | ok proven =>
      right
      exact ⟨⟨proven, hphase (congrArg Prod.snd hmark)⟩, rfl⟩

theorem FenceChange.clear (authority : ProvenAuthority)
    : FenceChange home (.clear authority) digest (home.fences.lookup digest)
        ((clearRuntimeQueueChildCleanupFence home authority.val).1.fences.lookup digest) := by
  unfold clearRuntimeQueueChildCleanupFence
  split
  . split
    . exact .same _
    . exact .same _
  . next current hcurrent =>
    split
    . exact .same _
    . next hsame =>
      rw [not_not] at hsame
      rw [hsame] at hcurrent
      dsimp only
      rw [FMap.lookup_erase_eq]
      split
      . next heq =>
        rw [heq, readFence_ok hcurrent]
        exact .cleared authority.val.record authority.property rfl
      . exact .same _

theorem reconcileGeneration_fences (call : GenerationCall) (runtimeClass : String)
    : (reconcileRuntimeQueueLeasesForGeneration home call runtimeClass).fences
        = reconcileOrphanedFences call.processes runtimeClass (home.leases runtimeClass)
            home.fences := by
  unfold reconcileRuntimeQueueLeasesForGeneration
  dsimp only
  split
  . rfl
  . rfl

theorem fence_change (home : QueueHome) (action : LeaseAction) (digest : String)
    : FenceChange home action digest (home.fences.lookup digest)
        ((action.apply home).fences.lookup digest) := by
  have hsame : ∀ {fences : FenceFiles}, fences = home.fences →
      FenceChange home action digest (home.fences.lookup digest) (fences.lookup digest) := by
    intro fences heq
    rw [heq]
    exact .same _
  cases action with
  | prepare call => exact .reconcile (firstRuntimeClass _) call.lockFile rfl
  | inspect call =>
    exact .reconcile (firstRuntimeClass _) (runtimeQueueLeasesFile call.runtimeClass) rfl
  | renew guard observedAtMs requiredThroughAtMs lockBusy =>
    exact hsame (renew_frame guard observedAtMs requiredThroughAtMs lockBusy).2
  | release queueId runtimeClass => exact hsame (release_frame queueId runtimeClass).2
  | releaseIfOwned queueId authority => exact hsame (releaseIfOwned_frame queueId authority).2
  | reconcileGeneration call runtimeClass =>
    dsimp only [LeaseAction.apply]
    rw [reconcileGeneration_fences]
    exact .reconcile runtimeClass (runtimeQueueLeasesFile runtimeClass) rfl
  | append receipt => exact .same _
  | prearm authority kind fencedAtMs =>
    dsimp only [LeaseAction.apply]
    exact .prearm authority kind fencedAtMs
  | bind authority child => exact .bind authority child
  | markProven authority cleanupProvenAtMs => exact .markProven authority cleanupProvenAtMs
  | clear authority => exact .clear authority

end Change

section Steps

variable {run : LeaseRun} {action : LeaseAction} {digest : String}

variable {fence : RuntimeQueueChildCleanupFence}

theorem phase_step {fence' : RuntimeQueueChildCleanupFence}
    (hbefore : run.home.fences.lookup digest = some (some fence))
    (hafter : (run.step action).home.fences.lookup digest = some (some fence'))
    : fence'.phase = fence.phase ∨ fence.phase.Moves fence'.phase := by
  have hchange := fence_change run.home action digest
  rw [hbefore, show (action.apply run.home).fences.lookup digest = some (some fence') from hafter]
    at hchange
  cases hchange with
  | same => exact .inl rfl
  | moved _ _ hphase => exact .inr hphase

theorem isAbandoned_of_isRecoverable {home : QueueHome} {processes : Processes}
    (howner : ∃ file lease owner, (home.files.read file).lookup fence.queueId = some lease
      ∧ lease.owner = .envelope owner ∧ fence.matchesLease lease owner = true
      ∧ processes.generation owner.pid owner.processStartTimeMs = .deadOrReused)
    (h : fence.isRecoverable processes = true)
    : IsAbandoned home processes fence := by
  refine ⟨howner, ?_⟩
  unfold RuntimeQueueChildCleanupFence.isRecoverable at h
  split at h
  . next hphase =>
    simp only [Bool.and_eq_true, Option.isNone_iff_eq_none] at h
    exact .inr ⟨h.2, hphase, h.1.1.1⟩
  . next hphase =>
    rw [Bool.and_eq_true] at h
    refine .inl ⟨hphase, ?_⟩
    have hchild := h.2
    split at hchild
    . next hkind =>
      rw [Option.any_eq_true] at hchild
      rcases hchild with ⟨processId, hid, hdead⟩
      exact ⟨processId, hid, .inl ⟨hkind, of_decide_eq_true hdead⟩⟩
    . next hkind =>
      split at hchild
      . next processId startTimeMs hid hstart =>
        exact ⟨processId, hid, .inr ⟨hkind, startTimeMs, hstart, of_decide_eq_true hchild⟩⟩
      . cases hchild
    . cases hchild
  . cases h

theorem removable_of_isReconciled {home : QueueHome} {processes : Processes} {runtimeClass : String}
    {file : LeaseFile}
    (h : isReconciled processes runtimeClass (home.files.read file) digest (some fence) = true)
    : fence.phase = .cleanupProven ∨ IsAbandoned home processes fence := by
  unfold isReconciled at h
  dsimp only at h
  split at h
  . cases h
  . split at h
    . cases h
    . split at h
      . cases h
      . next lease hlease =>
        split at h
        . cases h
        . next owner howner =>
          split at h
          . cases h
          . next hmatches =>
            split at h
            . cases h
            . split at h
              . next hproven => exact .inl hproven
              . right
                rw [Bool.and_eq_true, decide_eq_true_eq] at h
                rw [Bool.not_eq_true', Bool.not_eq_false] at hmatches
                exact isAbandoned_of_isRecoverable
                  ⟨file, lease, owner, hlease, howner, hmatches, h.1⟩ h.2

theorem removal_step (hbefore : run.home.fences.isFenced digest = true)
    (hafter : (run.step action).home.fences.isFenced digest = false)
    : ∃ fence, run.home.fences.lookup digest = some (some fence) ∧
        (fence.phase = .cleanupProven
          ∨ ∃ processes, action.watches = some processes ∧ IsAbandoned run.home processes fence) := by
  have hchange := fence_change run.home action digest
  have hnone : (action.apply run.home).fences.lookup digest = none := by
    apply Option.not_isSome_iff_eq_none.mp
    rw [Bool.not_eq_true]
    exact hafter
  cases Option.isSome_iff_exists.mp hbefore with
  | intro file hfile =>
    rw [hfile, hnone] at hchange
    cases hchange with
    | cleared fence hphase => exact ⟨fence, hfile, .inl hphase⟩
    | reconciled fence processes _ _ hwatches hreconciled =>
      refine ⟨fence, hfile, ?_⟩
      cases removable_of_isReconciled hreconciled with
      | inl hphase => exact .inl hphase
      | inr habandoned => exact .inr ⟨processes, hwatches, habandoned⟩

theorem authority_step {acquisition : Acquisition}
    (hbefore : run.home.fences.lookup digest = some (some fence))
    (hauthority : action.acquisition = some acquisition) (hne : acquisition ≠ fence.acquisition)
    : (run.step action).home.fences.lookup digest = run.home.fences.lookup digest := by
  have hchange := fence_change run.home action digest
  have hother : action.acquisition ≠ some fence.acquisition := by
    rw [hauthority]
    intro heq
    injection heq with heq
    exact hne heq
  have hwatches : action.watches = none := by
    cases action with
    | prepare call => cases hauthority
    | inspect call => cases hauthority
    | reconcileGeneration call runtimeClass => cases hauthority
    | _ => rfl
  rw [show (run.step action).home = action.apply run.home from rfl, hbefore]
  rw [hbefore] at hchange
  generalize (action.apply run.home).fences.lookup digest = after at hchange
  cases hchange with
  | same => rfl
  | moved _ _ _ hsame => exact absurd hsame hother
  | cleared _ _ hsame => exact absurd hsame hother
  | reconciled _ processes _ _ hsome =>
    rw [hwatches] at hsome
    cases hsome

end Steps

section Holder

variable {home : QueueHome} {file : LeaseFile} {queueId : String} {lease : RuntimeQueueLease}

theorem lookup_purge_of_fenced {processes : Processes} {nowMs : Int} {ended : EndedRuns}
    {state : LeaseState} {fences : FenceFiles} (hlookup : state.lookup queueId = some lease)
    (hfenced : (fencesAfterPurge processes state fences).isFencedForLease lease = true)
    : (purgeRuntimeQueueLeases processes nowMs ended state fences).1.lookup queueId = some lease := by
  apply lookup_purge hlookup
  . unfold isPurged
    rw [hfenced, Bool.not_true, Bool.false_and]
  . exact .inl hfenced

theorem prepare_keeps_fenced {call : PrepareCall}
    (h : (home.files.read file).lookup queueId = some lease)
    (hfenced : (prepareRuntimeQueueItem home call).1.fences.isFencedForLease lease = true)
    : ((prepareRuntimeQueueItem home call).1.files.read file).lookup queueId = some lease := by
  have hpurge : file = call.lockFile → (call.purge home).1.lookup queueId = some lease := by
    intro hfile
    rw [hfile] at h
    exact lookup_purge_of_fenced h hfenced
  unfold prepareRuntimeQueueItem
  dsimp only
  split
  . exact h
  . rw [read_insert]
    split
    . next hfile => exact hpurge hfile
    . exact h
  . next item hwrite =>
    rw [read_insert]
    split
    . next hfile =>
      unfold leaseRuntimeQueueItem
      rw [FMap.lookup_insert_eq, if_neg]
      . exact hpurge hfile
      . intro hid
        cases prepareLocked_leasedAs hwrite with
        | intro selected hleased =>
          have hnot := hleased.admitted.notLeased
          unfold DispatchContext.isLeased at hnot
          have hsame : queueId = selected.queueId := by
            rw [hid, hleased.form]
            exact leaseForm_queueId call _ _ selected
          rw [← hsame, show (call.context home).state.lookup queueId = some lease from hpurge hfile]
            at hnot
          cases hnot
    . exact h

theorem inspect_keeps_fenced {call : InspectCall}
    (h : (home.files.read file).lookup queueId = some lease)
    (hfenced : (inspectRuntimeQueueClass home call).fences.isFencedForLease lease = true)
    : ((inspectRuntimeQueueClass home call).files.read file).lookup queueId = some lease := by
  unfold inspectRuntimeQueueClass QueueHome.writeLeases
  dsimp only
  rw [read_insert]
  split
  . next hfile =>
    rw [hfile] at h
    exact lookup_purge_of_fenced h hfenced
  . exact h

theorem renew_keeps (guard : RuntimeQueueLeaseGuard) (observedAtMs requiredThroughAtMs : Int)
    (lockBusy : Bool) (h : (home.files.read file).lookup queueId = some lease)
    : ∃ lease', ((renewRuntimeQueueLease home guard observedAtMs requiredThroughAtMs
        lockBusy).home.files.read file).lookup queueId = some lease' ∧ IsRenewal lease lease' := by
  unfold renewRuntimeQueueLease
  split
  . exact ⟨lease, h, .refl lease⟩
  . split
    . exact ⟨lease, h, .refl lease⟩
    . split
      . exact ⟨lease, h, .refl lease⟩
      . split
        . unfold renewalBusy
          dsimp only
          split
          . exact ⟨lease, h, .refl lease⟩
          . exact ⟨lease, h, .refl lease⟩
        . unfold renewLocked
          split
          . exact ⟨lease, h, .refl lease⟩
          . next current hcurrent =>
            split
            . exact ⟨lease, h, .refl lease⟩
            . split
              . exact ⟨lease, h, .refl lease⟩
              . split
                . exact ⟨lease, h, .refl lease⟩
                . unfold renewalApplied QueueHome.writeLeases
                  dsimp only
                  rw [read_insert]
                  split
                  . next hfile =>
                    rw [FMap.lookup_insert_eq]
                    split
                    . next hid =>
                      rw [hfile, hid] at h
                      rw [show (home.leases guard.runtimeClass).lookup guard.queueId = some lease
                        from h] at hcurrent
                      injection hcurrent with hcurrent
                      exact ⟨_, rfl, _, by rw [← hcurrent]; rfl⟩
                    . rw [hfile] at h
                      exact ⟨lease, h, .refl lease⟩
                  . exact ⟨lease, h, .refl lease⟩

theorem writeLeases_keeps {runtimeClass : String} {state : LeaseState}
    (h : (home.files.read file).lookup queueId = some lease)
    (hstate : (home.leases runtimeClass).lookup queueId = some lease →
      state.lookup queueId = some lease)
    : ((home.writeLeases runtimeClass state).files.read file).lookup queueId = some lease := by
  unfold QueueHome.writeLeases
  dsimp only
  rw [read_insert]
  split
  . next hfile =>
    rw [hfile] at h
    exact hstate h
  . exact h

theorem release_keeps_fenced (released runtimeClass : String)
    (h : (home.files.read file).lookup queueId = some lease)
    (hfenced : home.fences.isFencedForLease lease = true)
    : ((releaseRuntimeQueueLeaseOfClass home released runtimeClass).1.files.read file).lookup queueId
        = some lease := by
  unfold releaseRuntimeQueueLeaseOfClass
  dsimp only
  split
  . exact h
  . next current hcurrent =>
    split
    . exact h
    . next hunfenced =>
      apply writeLeases_keeps h
      intro hlookup
      rw [FMap.lookup_erase_eq, if_neg]
      . exact hlookup
      . intro heq
        rw [heq, hcurrent] at hlookup
        injection hlookup with hlookup
        rw [hlookup] at hunfenced
        exact hunfenced hfenced

theorem releaseIfOwned_keeps_fenced (released : String)
    (authority : RuntimeQueueLeaseReleaseAuthority)
    (h : (home.files.read file).lookup queueId = some lease)
    (hfenced : home.fences.isFencedForLease lease = true)
    : ((releaseRuntimeQueueLeaseIfOwned home released authority).1.files.read file).lookup queueId
        = some lease := by
  unfold releaseRuntimeQueueLeaseIfOwned
  dsimp only
  split
  . exact h
  . next current hcurrent =>
    split
    . exact h
    . split
      . exact h
      . next hunfenced =>
        apply writeLeases_keeps h
        intro hlookup
        rw [FMap.lookup_erase_eq, if_neg]
        . exact hlookup
        . intro heq
          rw [heq, hcurrent] at hlookup
          injection hlookup with hlookup
          rw [hlookup] at hunfenced
          exact hunfenced hfenced

theorem reconcileGeneration_keeps_fenced (call : GenerationCall) (runtimeClass : String)
    (h : (home.files.read file).lookup queueId = some lease)
    (hfenced : (reconcileRuntimeQueueLeasesForGeneration home call
      runtimeClass).fences.isFencedForLease lease = true)
    : ((reconcileRuntimeQueueLeasesForGeneration home call runtimeClass).files.read file).lookup
        queueId = some lease := by
  rw [reconcileGeneration_fences] at hfenced
  unfold reconcileRuntimeQueueLeasesForGeneration
  dsimp only
  split
  . exact h
  . apply writeLeases_keeps h
    intro hlookup
    rw [FMap.lookup_eraseAll, if_neg]
    . exact hlookup
    . intro hmem
      rw [List.mem_mergeSort, FMap.mem_keysWhere] at hmem
      rcases hmem with ⟨other, hother, hreaped⟩
      rw [hlookup] at hother
      injection hother with hother
      unfold GenerationCall.isReaped at hreaped
      rw [← hother, hfenced, Bool.not_true, Bool.false_and] at hreaped
      cases hreaped

theorem fenced_lease_stays {action : LeaseAction}
    (h : (home.files.read file).lookup queueId = some lease)
    (hfenced : (action.apply home).fences.isFencedForLease lease = true)
    : ∃ lease', ((action.apply home).files.read file).lookup queueId = some lease'
        ∧ IsRenewal lease lease' := by
  have hsame : ∀ {files : LeaseFiles}, files = home.files →
      ∃ lease', (files.read file).lookup queueId = some lease' ∧ IsRenewal lease lease' := by
    intro files heq
    rw [heq]
    exact ⟨lease, h, .refl lease⟩
  cases action with
  | prepare call => exact ⟨lease, prepare_keeps_fenced h hfenced, .refl lease⟩
  | inspect call => exact ⟨lease, inspect_keeps_fenced h hfenced, .refl lease⟩
  | renew guard observedAtMs requiredThroughAtMs lockBusy =>
    exact renew_keeps guard observedAtMs requiredThroughAtMs lockBusy h
  | release released runtimeClass =>
    dsimp only [LeaseAction.apply] at hfenced
    rw [(release_frame released runtimeClass).2] at hfenced
    exact ⟨lease, release_keeps_fenced released runtimeClass h hfenced, .refl lease⟩
  | releaseIfOwned released authority =>
    dsimp only [LeaseAction.apply] at hfenced
    rw [(releaseIfOwned_frame released authority).2] at hfenced
    exact ⟨lease, releaseIfOwned_keeps_fenced released authority h hfenced, .refl lease⟩
  | reconcileGeneration call runtimeClass =>
    exact ⟨lease, reconcileGeneration_keeps_fenced call runtimeClass h hfenced, .refl lease⟩
  | append receipt => exact hsame rfl
  | prearm authority kind fencedAtMs =>
    dsimp only [LeaseAction.apply]
    exact hsame (prearm_frame authority kind fencedAtMs).1
  | bind authority child => exact hsame (bind_frame authority child).1
  | markProven authority cleanupProvenAtMs =>
    exact hsame (markProven_frame authority cleanupProvenAtMs).1
  | clear authority => exact hsame (clear_frame authority.val).1

end Holder

section Runs

variable {run : LeaseRun} {action : LeaseAction} {digest : String}

def HolderInv (run : LeaseRun) : Prop :=
  ∀ digest, run.home.fences.isFenced digest = true → ∀ armed, run.armed digest = some armed →
    ∃ lease, run.lease armed.file armed.queueId = some lease ∧ lease.owner = armed.owner
      ∧ lease.canonicalLaneDigest = digest

theorem armedAfter_of_isFenced (h : run.home.fences.isFenced digest = true)
    : (run.step action).armed digest = run.armed digest := by
  cases action with
  | prearm authority kind fencedAtMs =>
    dsimp only [LeaseRun.step]
    unfold LeaseRun.armedAfter
    dsimp only
    split
    . rfl
    . next hunfenced =>
      apply Function.update_of_ne
      intro heq
      rw [heq] at h
      exact hunfenced h
  | _ => rfl

theorem holder_of_prearmed {authority : RuntimeQueueChildCleanupLeaseAuthority}
    {kind : ContainmentKind} {fencedAtMs : Int} {lease : RuntimeQueueLease} {armed : ArmedLease}
    (hunfenced : run.home.fences.isFenced authority.canonicalLaneDigest = false)
    (hlease : (run.home.leases authority.runtimeClass).lookup authority.queueId = some lease)
    (harmed : (run.step (.prearm authority kind fencedAtMs)).armed authority.canonicalLaneDigest
      = some armed)
    : (run.step (.prearm authority kind fencedAtMs)).lease armed.file armed.queueId = some lease
      ∧ lease.owner = armed.owner := by
  dsimp only [LeaseRun.step] at harmed
  unfold LeaseRun.armedAfter at harmed
  dsimp only at harmed
  rw [hunfenced, if_neg Bool.false_ne_true, Function.update_self, hlease, Option.map_some] at harmed
  injection harmed with harmed
  rw [← harmed]
  refine ⟨?_, rfl⟩
  unfold LeaseRun.lease LeaseRun.step LeaseAction.apply
  dsimp only
  rw [(prearm_frame authority kind fencedAtMs).1]
  exact hlease

theorem holderInv_step (run : LeaseRun) (action : LeaseAction) (hinv : HolderInv run)
    : HolderInv (run.step action) := by
  intro digest hfenced armed harmed
  cases hbefore : run.home.fences.isFenced digest with
  | true =>
    rw [armedAfter_of_isFenced hbefore] at harmed
    rcases hinv digest hbefore armed harmed with ⟨lease, hlease, howner, hdigest⟩
    rw [← hdigest] at hfenced
    rcases fenced_lease_stays hlease hfenced with ⟨lease', hlease', hrenewal⟩
    refine ⟨lease', hlease', ?_, ?_⟩
    . rw [hrenewal.owner, howner]
    . rw [hrenewal.canonicalLaneDigest, hdigest]
  | false =>
    have hchange := fence_change run.home action digest
    have hnone : run.home.fences.lookup digest = none := by
      apply Option.not_isSome_iff_eq_none.mp
      rw [Bool.not_eq_true]
      exact hbefore
    cases Option.isSome_iff_exists.mp hfenced with
    | intro file hfile =>
      rw [hnone, show (action.apply run.home).fences.lookup digest = some file from hfile] at hchange
      cases hchange with
      | prearmed fence authority kind fencedAtMs lease haction hlease hauthority hlane =>
        subst haction
        rw [← hauthority] at hbefore harmed
        have hholder := holder_of_prearmed hbefore hlease harmed
        exact ⟨lease, hholder.1, hholder.2, hlane⟩

theorem canonicalLaneDigest_leaseOf (item : PendingQueueItem) (owner : RuntimeQueueLeaseOwner)
    (nowMs : Int)
    : (leaseOf item owner nowMs).canonicalLaneDigest = item.canonicalLaneDigest := by
  unfold RuntimeQueueLease.canonicalLaneDigest PendingQueueItem.canonicalLaneDigest leaseOf
    itemSessionLaneKey
  dsimp only
  split
  . rw [Option.filter_some]
    split
    . rfl
    . rfl
  . rfl

theorem isFenced_of_hasCapacity {ctx : DispatchContext} {item : PendingQueueItem}
    (h : runtimeCapacityBlocker ctx item = none)
    : ctx.fences.isFenced item.canonicalLaneDigest = false := by
  unfold runtimeCapacityBlocker at h
  dsimp only at h
  split at h
  . cases h
  . next hunfenced =>
    rw [Bool.not_eq_true] at hunfenced
    exact hunfenced

theorem lane_step (hguard : run.staysOffFences action = true)
    (hbefore : run.home.fences.isFenced digest = true)
    (hafter : (run.step action).home.fences.isFenced digest = true) {file : LeaseFile}
    {queueId : String} {lease : RuntimeQueueLease}
    (h : (run.step action).lease file queueId = some lease)
    (hdigest : lease.canonicalLaneDigest = digest)
    : ∃ before, run.lease file queueId = some before ∧ before.owner = lease.owner := by
  cases lease_of_apply h with
  | inl hold =>
    rcases hold with ⟨before, hlookup, hrenewal⟩
    exact ⟨before, hlookup, hrenewal.owner.symm⟩
  | inr hnew =>
    exfalso
    rcases hnew with ⟨call, haction, item, hwrite, _, _, hlease⟩
    subst haction
    rw [hlease, canonicalLaneDigest_leaseOf] at hdigest
    cases prepareLocked_leasedAs hwrite with
    | intro selected hleased =>
      have hitem := List.all_eq_true.mp hguard selected hleased.admitted.pending
      dsimp only at hitem
      rw [← hleased.form, hdigest, hbefore] at hitem
      simp only [hleased.admitted, decide_true, Bool.not_true, Bool.false_or, Bool.or_false,
        decide_eq_true_eq] at hitem
      have hunfenced := isFenced_of_hasCapacity hleased.admitted.hasCapacity
      rw [← hitem, show (call.context run.home).fences.isFenced digest = true from hafter] at hunfenced
      cases hunfenced

theorem fence_closes_lane (home : QueueHome) (actions : List LeaseAction) (action : LeaseAction)
    (digest : String)
    (hguard : Run.Guarded LeaseRun.step (fun run action => run.staysOffFences action = true)
      (LeaseRun.start home) (actions ++ [action]))
    : FenceHolds (Run.exec LeaseRun.step (LeaseRun.start home) actions) action digest := by
  rw [Run.guarded_append] at hguard
  have hinv : HolderInv (Run.exec LeaseRun.step (LeaseRun.start home) actions) := by
    apply Run.exec_invariant HolderInv holderInv_step
    intro digest _ armed harmed
    cases harmed
  exact {
    holder := hinv digest
    lane := fun hbefore hafter _ _ _ h hdigest => lane_step hguard.2.1 hbefore hafter h hdigest
    phase := fun _ _ hbefore hafter => phase_step hbefore hafter
    removal := removal_step
    authority := fun _ _ hbefore hauthority hne => authority_step hbefore hauthority hne }

theorem staysOffFences_of_unchanged {call : PrepareCall}
    (h : ∀ item, call.rollover item = .unchanged)
    : run.staysOffFences (.prepare call) = true := by
  have hform : ∀ item, leaseForm call (call.context run.home) run.home.ledgers.pending item = item := by
    intro item
    unfold leaseForm
    split
    . rfl
    . unfold rolledOver maybeApplyContextRolloverBeforeTurn
      rw [h]
      split
      . rfl
      . rfl
  apply List.all_eq_true.mpr
  intro item _
  simp [hform item]

/-
Two items of a channel: the session of the first is a continuation of the session of the second. The
first has a lease that has prearmed the fence of its lane, and its run has ended without a proof of
the cleanup.
-/
def sampleChannelItem (queueId sessionKey : String) : PendingQueueItem :=
  { sampleWorkerItem with
    queueId
    sessionKey
    runtimeClass := "interactive"
    origin := "channel"
    agentId := "a"
    platform := "p"
    accountId := some "d"
    channelId := "c" }

def sampleContinued : PendingQueueItem := sampleChannelItem "queue-1" "s:acct-d:cont-1"

def sampleOwner : RuntimeQueueLeaseOwnerEnvelope where
  kind := "runtime-worker"
  serviceId := "worker"
  generationId := "generation-1"
  pid := 1
  processStartTimeMs := 1000
  processStartTimeOsProven := true
  acquiredAtMs := 10000

def sampleAuthority : RuntimeQueueChildCleanupLeaseAuthority where
  queueId := "queue-1"
  runtimeClass := "interactive"
  canonicalLaneDigest := sampleContinued.canonicalLaneDigest
  leaseOwnerDigest := runtimeQueueLeaseOwnerDigest sampleOwner
  leaseAcquiredAtMs := 10000

def sampleFence : RuntimeQueueChildCleanupFence := sampleAuthority.prearmed .unixProcessGroup 10001

def sampleCompleted : RunOnceReceipt where
  schema := .text runtimeRunOnceReceiptSchema
  queueId := some "queue-1"
  status := some "completed"
  reason := none
  retrySchedule := none

def sampleChannel : QueueHome where
  config := {
    globalConcurrencyLimit := 8
    interactiveReserve := 1
    classes := (∅ : FMap _ _).insert "interactive" (defaultRuntimeClassConfig "interactive") }
  ledgers := sampleLedgers [sampleContinued, sampleChannelItem "queue-2" "s:acct-d"] [sampleCompleted]
  files := (∅ : FMap _ _).insert (runtimeQueueLeasesFile "interactive")
    (leaseRuntimeQueueItem ∅ sampleContinued (.envelope sampleOwner) 10000)
  fences := (∅ : FMap _ _).insert sampleContinued.canonicalLaneDigest (some sampleFence)

def sampleFollower (rollover : PendingQueueItem → ContextRollover) : LeaseAction :=
  .prepare { samplePrepare 11000 "pid:2" sampleChannel.ledgers with
    requestedQueueId := some "queue-2"
    rollover }

theorem lookup_sampleChannel
    : sampleChannel.fences.lookup sampleContinued.canonicalLaneDigest = some (some sampleFence) :=
  AList.lookup_insert _

theorem sampleChannel_fence_holds
    : sampleChannel.fences.isFenced sampleContinued.canonicalLaneDigest = true
      ∧ FenceHolds (LeaseRun.start sampleChannel) (sampleFollower fun _ => .unchanged)
          sampleContinued.canonicalLaneDigest := by
  constructor
  . unfold FenceFiles.isFenced
    rw [lookup_sampleChannel]
    rfl
  . apply fence_closes_lane sampleChannel []
    refine ⟨?_, trivial⟩
    apply staysOffFences_of_unchanged
    intro item
    rfl

def sampleRollover (_item : PendingQueueItem) : ContextRollover := .applied "s:acct-d:cont-1" "vsession"

theorem rollover_enters_fenced_lane
    : ¬ ∀ (home : QueueHome) (actions : List LeaseAction) (action : LeaseAction) (digest : String),
          Run.Guarded LeaseRun.step LeaseRun.ReadsLedgers (LeaseRun.start home)
            (actions ++ [action]) →
          FenceHolds (Run.exec LeaseRun.step (LeaseRun.start home) actions) action digest := by
  intro hclaim
  have hholds := hclaim sampleChannel [] (sampleFollower sampleRollover)
    sampleContinued.canonicalLaneDigest ⟨rfl, trivial⟩
  have hbefore : sampleChannel.fences.isFenced sampleContinued.canonicalLaneDigest = true := by
    unfold FenceFiles.isFenced
    rw [lookup_sampleChannel]
    rfl
  have hafter : ((LeaseRun.start sampleChannel).step
      (sampleFollower sampleRollover)).home.fences.isFenced sampleContinued.canonicalLaneDigest
      = true := by
    -- the fence is not proven, and no process was seen dead
    rw [← Bool.not_eq_false]
    intro hremoved
    rcases hholds.removal hbefore hremoved with ⟨fence, hlookup, hwhy⟩
    rw [show (Run.exec LeaseRun.step (LeaseRun.start sampleChannel) []).home.fences.lookup
      sampleContinued.canonicalLaneDigest = some (some sampleFence) from lookup_sampleChannel]
      at hlookup
    injection hlookup with hlookup
    injection hlookup with hlookup
    cases hwhy with
    | inl hproven =>
      rw [← hlookup] at hproven
      cases hproven
    | inr hseen =>
      rcases hseen with ⟨processes, hwatches, ⟨_, _, _, _, _, _, hdead⟩, _⟩
      injection hwatches with hwatches
      rw [← hwatches] at hdead
      cases hdead
  have hleased : (((LeaseRun.start sampleChannel).step (sampleFollower sampleRollover)).lease
      (runtimeQueueLeasesFile "interactive") "queue-2").map (·.canonicalLaneDigest)
      = some sampleContinued.canonicalLaneDigest := by
    decide +kernel
  have hunleased : (LeaseRun.start sampleChannel).lease (runtimeQueueLeasesFile "interactive")
      "queue-2" = none := by
    decide +kernel
  rcases Option.map_eq_some_iff.mp hleased with ⟨lease, hlease, hdigest⟩
  rcases hholds.lane hbefore hafter _ _ lease hlease hdigest with ⟨before, hlookup, _⟩
  rw [show (Run.exec LeaseRun.step (LeaseRun.start sampleChannel) []).lease
    (runtimeQueueLeasesFile "interactive") "queue-2" = none from hunleased] at hlookup
  cases hlookup

end Runs

end RuntimeQueue
