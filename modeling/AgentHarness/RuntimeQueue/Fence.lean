import AgentHarness.RuntimeQueue.Release

/-!
The life of a child-cleanup fence: the owner of a lease prearms it before the child is spawned, binds it
to the child, proves the cleanup and clears it.
-/

namespace RuntimeQueue

structure RuntimeQueueChildCleanupLeaseAuthority where
  queueId : String
  runtimeClass : String
  canonicalLaneDigest : String
  leaseOwnerDigest : String
  leaseAcquiredAtMs : Int

-- an authority over a fence is the record that its holder has last seen in the file
structure RuntimeQueueChildCleanupFenceAuthority where
  record : RuntimeQueueChildCleanupFence

def isHexDigest (length : Nat) (digest : String) : Bool :=
  digest.toList.length = length && digest.toList.all Text.isAsciiHexdigit

namespace RuntimeQueueChildCleanupLeaseAuthority

def isWellFormed (authority : RuntimeQueueChildCleanupLeaseAuthority) (fencedAtMs : Int) : Bool :=
  Text.trim authority.queueId ≠ ""
    && Text.trim authority.runtimeClass ≠ ""
    && isHexDigest 16 authority.canonicalLaneDigest
    && isHexDigest 64 authority.leaseOwnerDigest
    && 0 ≤ authority.leaseAcquiredAtMs
    && 0 ≤ fencedAtMs

def matchesOwner (authority : RuntimeQueueChildCleanupLeaseAuthority)
    (owner : RuntimeQueueLeaseOwner)
    : Bool :=
  match owner with
  | .legacy _ => false
  | .envelope owner =>
    owner.acquiredAtMs = authority.leaseAcquiredAtMs
      && Text.eqIgnoreAsciiCase (runtimeQueueLeaseOwnerDigest owner) authority.leaseOwnerDigest

def matchesLease (authority : RuntimeQueueChildCleanupLeaseAuthority) (lease : RuntimeQueueLease)
    (fencedAtMs : Int)
    : Bool :=
  lease.runtimeClass = authority.runtimeClass
    && lease.canonicalLaneDigest = authority.canonicalLaneDigest
    && authority.matchesOwner lease.owner
    && fencedAtMs < lease.leaseExpiresAtMs

def prearmed (authority : RuntimeQueueChildCleanupLeaseAuthority) (kind : ContainmentKind)
    (fencedAtMs : Int)
    : RuntimeQueueChildCleanupFence where
  schema := runtimeQueueChildCleanupFenceSchema
  phase := .spawnInProgress
  queueId := authority.queueId
  runtimeClass := authority.runtimeClass
  canonicalLaneDigest := authority.canonicalLaneDigest
  leaseOwnerDigest := authority.leaseOwnerDigest
  leaseAcquiredAtMs := authority.leaseAcquiredAtMs
  childProcessId := none
  childProcessStartTimeMs := none
  jobContainmentAssigned := false
  containmentKind := kind
  reason := "Codex app-server spawn is fenced before process creation"
  fencedAtMs
  cleanupProvenAtMs := none

end RuntimeQueueChildCleanupLeaseAuthority

-- `kind` is the containment of the platform
def prearmRuntimeQueueChildCleanupFence (home : QueueHome)
    (authority : RuntimeQueueChildCleanupLeaseAuthority) (kind : ContainmentKind) (fencedAtMs : Int)
    : Outcome QueueHome RuntimeQueueChildCleanupFenceAuthority :=
  if !authority.isWellFormed fencedAtMs then
    (home, .error {
      kind := .invalidInput
      message := "child-cleanup fence requires exact queue, class, lane, and lease-acquisition authority" })
  else
    match (home.leases authority.runtimeClass).lookup authority.queueId with
    | none =>
      (home, .error {
        kind := .permissionDenied
        message := "child-cleanup fence lease disappeared before child execution" })
    | some lease =>
      if !authority.matchesLease lease fencedAtMs then
        (home, .error {
          kind := .permissionDenied
          message := "child-cleanup fence authority no longer matches a live exact acquired runtime lease" })
      else
        let fence := authority.prearmed kind fencedAtMs
        match home.fences.lookup authority.canonicalLaneDigest with
        | none =>
          let fences := home.fences.insert authority.canonicalLaneDigest (some fence)
          ({ home with fences }, .ok { record := fence })
        | some none =>
          (home, .error {
            kind := .invalidData
            message := "existing child-cleanup fence is unreadable and cannot be replaced" })
        | some (some existing) =>
          if existing = fence then
            (home, .ok { record := existing })
          else
            (home, .error {
              kind := .alreadyExists
              message := "exact runtime lane `" ++ authority.canonicalLaneDigest
                ++ "` is already protected by a different child-cleanup authority" })

def childCleanupAuthoritySuperseded : IoError where
  kind := .alreadyExists
  message := "stale child-cleanup authority cannot mutate a successor generation"

-- the record in the fence file of an authority's lane, which the errors call `label`
def readFence (home : QueueHome) (label : String)
    (authority : RuntimeQueueChildCleanupFenceAuthority)
    : Except IoError RuntimeQueueChildCleanupFence :=
  match home.fences.lookup authority.record.canonicalLaneDigest with
  | none => .error { kind := .notFound, message := label ++ " was not found" }
  | some none =>
    .error { kind := .invalidData, message := label ++ " is unreadable and remains fail-closed" }
  | some (some fence) => .ok fence

def writeFence (home : QueueHome) (fence : RuntimeQueueChildCleanupFence) : QueueHome :=
  { home with fences := home.fences.insert fence.canonicalLaneDigest (some fence) }

structure ChildIdentity where
  processId : Nat
  processStartTimeMs : Option Int
  jobContainmentAssigned : Bool

namespace RuntimeQueueChildCleanupFenceAuthority

def childIdentityIsExact (authority : RuntimeQueueChildCleanupFenceAuthority)
    (child : ChildIdentity)
    : Bool :=
  match authority.record.containmentKind with
  | .windowsJob => child.processStartTimeMs.any (fun value => 0 ≤ value)
  | .unixProcessGroup => child.processStartTimeMs.all (fun value => 0 ≤ value)
  | .other _ => false

def isBindable (authority : RuntimeQueueChildCleanupFenceAuthority) (child : ChildIdentity)
    : Bool :=
  authority.record.phase = .spawnInProgress
    && authority.record.childProcessId.isNone
    && child.processId ≠ 0
    && authority.childIdentityIsExact child
    && child.jobContainmentAssigned

def bound (authority : RuntimeQueueChildCleanupFenceAuthority) (child : ChildIdentity)
    : RuntimeQueueChildCleanupFence :=
  { authority.record with
    phase := .childBound
    childProcessId := some child.processId
    childProcessStartTimeMs := child.processStartTimeMs
    jobContainmentAssigned := child.jobContainmentAssigned
    reason := "Codex app-server child tree is executing under exact lease authority" }

def isValidPrearm (authority : RuntimeQueueChildCleanupFenceAuthority) : Bool :=
  authority.record.phase = .spawnInProgress
    && authority.record.childProcessId.isNone
    && authority.record.childProcessStartTimeMs.isNone
    && !authority.record.jobContainmentAssigned

def isValidBound (authority : RuntimeQueueChildCleanupFenceAuthority) : Bool :=
  authority.record.phase = .childBound
    && authority.record.childProcessId.isSome
    && (match authority.record.containmentKind with
      | .windowsJob => authority.record.childProcessStartTimeMs.isSome
      | .unixProcessGroup => true
      | .other _ => false)
    && authority.record.jobContainmentAssigned

def proven (authority : RuntimeQueueChildCleanupFenceAuthority) (cleanupProvenAtMs : Int)
    : RuntimeQueueChildCleanupFence :=
  { authority.record with
    phase := .cleanupProven
    cleanupProvenAtMs := some cleanupProvenAtMs
    reason :=
      if authority.isValidBound then
        "kill-on-close Job became empty and root process was reaped"
      else
        "pre-execution child absence or suspended-root cleanup was proven" }

end RuntimeQueueChildCleanupFenceAuthority

def bindRuntimeQueueChildCleanupFence (home : QueueHome)
    (authority : RuntimeQueueChildCleanupFenceAuthority) (child : ChildIdentity)
    : Outcome QueueHome RuntimeQueueChildCleanupFenceAuthority :=
  if !authority.isBindable child then
    (home, .error {
      kind := .invalidInput
      message := "child-cleanup fence binding requires exact unbound spawn authority, PID/generation evidence appropriate to the platform, and assigned process-tree containment" })
  else
    let bound := authority.bound child
    match readFence home "prearmed child-cleanup fence" authority with
    | .error e => (home, .error e)
    | .ok current =>
      if current = bound then
        (home, .ok { record := current })
      else if current ≠ authority.record then
        (home, .error childCleanupAuthoritySuperseded)
      else
        (writeFence home bound, .ok { record := bound })

-- a proof that another call has written from the same authority
def childCleanupProofDerivesFrom (current authority : RuntimeQueueChildCleanupFence) : Bool :=
  current.phase = .cleanupProven
    && current.schema = authority.schema
    && current.queueId = authority.queueId
    && current.runtimeClass = authority.runtimeClass
    && current.canonicalLaneDigest = authority.canonicalLaneDigest
    && current.leaseOwnerDigest = authority.leaseOwnerDigest
    && current.leaseAcquiredAtMs = authority.leaseAcquiredAtMs
    && current.childProcessId = authority.childProcessId
    && current.childProcessStartTimeMs = authority.childProcessStartTimeMs
    && current.jobContainmentAssigned = authority.jobContainmentAssigned
    && current.containmentKind = authority.containmentKind
    && current.fencedAtMs = authority.fencedAtMs
    && current.isProvenInTime
    && current.childIdentityIsComplete

def markRuntimeQueueChildCleanupProven (home : QueueHome)
    (authority : RuntimeQueueChildCleanupFenceAuthority) (cleanupProvenAtMs : Int)
    : Outcome QueueHome RuntimeQueueChildCleanupFenceAuthority :=
  if (!authority.isValidPrearm && !authority.isValidBound)
      || cleanupProvenAtMs < authority.record.fencedAtMs then
    (home, .error {
      kind := .invalidInput
      message := "cleanup-proven transition requires exact pre-execution or bound-child authority and monotonic proof time" })
  else
    match readFence home "bound child-cleanup fence" authority with
    | .error e => (home, .error e)
    | .ok current =>
      if current ≠ authority.record then
        if childCleanupProofDerivesFrom current authority.record then
          (home, .ok { record := current })
        else
          (home, .error childCleanupAuthoritySuperseded)
      else
        let proven := authority.proven cleanupProvenAtMs
        (writeFence home proven, .ok { record := proven })

def clearRuntimeQueueChildCleanupFence (home : QueueHome)
    (authority : RuntimeQueueChildCleanupFenceAuthority)
    : Outcome QueueHome Bool :=
  match readFence home "child-cleanup fence" authority with
  | .error e => if e.kind = .notFound then (home, .ok false) else (home, .error e)
  | .ok current =>
    if current ≠ authority.record then
      (home, .error childCleanupAuthoritySuperseded)
    else
      ({ home with fences := home.fences.erase authority.record.canonicalLaneDigest }, .ok true)

def finalizeRuntimeQueueChildCleanupFence (home : QueueHome)
    (authority : RuntimeQueueChildCleanupFenceAuthority) (cleanupProvenAtMs : Int)
    : Outcome QueueHome Bool :=
  match markRuntimeQueueChildCleanupProven home authority cleanupProvenAtMs with
  | (home, .ok proven) => clearRuntimeQueueChildCleanupFence home proven
  | (home, .error e) => if e.kind = .notFound then (home, .ok false) else (home, .error e)

end RuntimeQueue

/-!
Runs of the steps that touch the leases and the fences of one harness home. Each action holds the
lock of one class from its first read of the leases to its last write, so a run is a sequence of
actions in the order in which they got their locks.
-/

namespace RuntimeQueue

abbrev ProvenAuthority :=
  { authority : RuntimeQueueChildCleanupFenceAuthority // authority.record.phase = .cleanupProven }

inductive LeaseAction where
  | prepare (call : PrepareCall)
  | inspect (call : InspectCall)
  | renew (guard : RuntimeQueueLeaseGuard) (observedAtMs requiredThroughAtMs : Int) (lockBusy : Bool)
  | release (queueId runtimeClass : String)
  | releaseIfOwned (queueId : String) (authority : RuntimeQueueLeaseReleaseAuthority)
  | reconcileGeneration (call : GenerationCall) (runtimeClass : String)
  | append (receipt : RunOnceReceipt)
  | prearm (authority : RuntimeQueueChildCleanupLeaseAuthority) (kind : ContainmentKind)
      (fencedAtMs : Int)
  | bind (authority : RuntimeQueueChildCleanupFenceAuthority) (child : ChildIdentity)
  | markProven (authority : RuntimeQueueChildCleanupFenceAuthority) (cleanupProvenAtMs : Int)
  | clear (authority : ProvenAuthority)

def LeaseAction.apply (home : QueueHome) (action : LeaseAction) : QueueHome :=
  match action with
  | .prepare call => (prepareRuntimeQueueItem home call).1
  | .inspect call => inspectRuntimeQueueClass home call
  | .renew guard observedAtMs requiredThroughAtMs lockBusy =>
    (renewRuntimeQueueLease home guard observedAtMs requiredThroughAtMs lockBusy).home
  | .release queueId runtimeClass => (releaseRuntimeQueueLeaseOfClass home queueId runtimeClass).1
  | .releaseIfOwned queueId authority => (releaseRuntimeQueueLeaseIfOwned home queueId authority).1
  | .reconcileGeneration call runtimeClass =>
    reconcileRuntimeQueueLeasesForGeneration home call runtimeClass
  | .append receipt =>
    { home with ledgers := { home.ledgers with receipts := home.ledgers.receipts ++ [receipt] } }
  | .prearm authority kind fencedAtMs =>
    (prearmRuntimeQueueChildCleanupFence home authority kind fencedAtMs).1
  | .bind authority child => (bindRuntimeQueueChildCleanupFence home authority child).1
  | .markProven authority cleanupProvenAtMs =>
    (markRuntimeQueueChildCleanupProven home authority cleanupProvenAtMs).1
  | .clear authority => (clearRuntimeQueueChildCleanupFence home authority.val).1

structure ArmedLease where
  file : LeaseFile
  queueId : String
  owner : RuntimeQueueLeaseOwner

/-
A home with what an observer remembers of its past: how many run-once receipts there were when the
latest lease of an item was taken, and which lease has prearmed the fence of a lane.
-/
structure LeaseRun where
  home : QueueHome
  acquired : String → Nat
  armed : String → Option ArmedLease

namespace LeaseRun

def acquiredAfter (run : LeaseRun) (action : LeaseAction) : String → Nat :=
  match action with
  | .prepare call =>
    let result := prepareLocked call run.home
    match result.write with
    | .leased item => Function.update run.acquired item.queueId result.ledgers.receipts.length
    | _ => run.acquired
  | _ => run.acquired

def armedAfter (run : LeaseRun) (action : LeaseAction) : String → Option ArmedLease :=
  match action with
  | .prearm authority _ _ =>
    let digest := authority.canonicalLaneDigest
    if run.home.fences.isFenced digest then
      run.armed
    else
      let lease := (run.home.leases authority.runtimeClass).lookup authority.queueId
      let armed := lease.map fun lease => {
        file := runtimeQueueLeasesFile authority.runtimeClass
        queueId := authority.queueId
        owner := lease.owner : ArmedLease }
      Function.update run.armed digest armed
  | _ => run.armed

def step (run : LeaseRun) (action : LeaseAction) : LeaseRun where
  home := action.apply run.home
  acquired := run.acquiredAfter action
  armed := run.armedAfter action

def start (home : QueueHome) : LeaseRun where
  home
  acquired _ := 0
  armed _ := none

def lease (run : LeaseRun) (file : LeaseFile) (queueId : String) : Option RuntimeQueueLease :=
  (run.home.files.read file).lookup queueId

def receiptsSince (run : LeaseRun) (queueId : String) : List RunOnceReceipt :=
  run.home.ledgers.receipts.drop (run.acquired queueId)

end LeaseRun

end RuntimeQueue
