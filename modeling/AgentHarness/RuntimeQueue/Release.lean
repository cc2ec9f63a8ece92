import AgentHarness.RuntimeQueue.Prepare

/-!
What happens to a lease once it is given: the capacity inspection that purges a class, the renewal,
the two releases and the reconciliation of a generation that has exited. Where the source walks over
the classes it holds one class lock at a time, so the step here is the one on a class.
-/

namespace RuntimeQueue

namespace QueueHome

def leases (home : QueueHome) (runtimeClass : String) : LeaseState :=
  home.files.read (runtimeQueueLeasesFile runtimeClass)

def writeLeases (home : QueueHome) (runtimeClass : String) (state : LeaseState) : QueueHome :=
  { home with files := home.files.insert (runtimeQueueLeasesFile runtimeClass) state }

end QueueHome

/-
The part of `inspect_runtime_queue_capacity` on one class. `receipts` are the run-once receipts as
the inspection has read them before it got the class lock.
-/
structure InspectCall where
  runtimeClass : String
  nowMs : Int
  processes : Processes
  receipts : List RunOnceReceipt

namespace InspectCall

def index (call : InspectCall) : RuntimeQueueStateIndex :=
  runtimeQueueStateIndex call.receipts

def endedRuns (call : InspectCall) : EndedRuns where
  terminalRunIds := terminalRunOnceIds call.index
  retryPendingRunIds := retryPendingRunOnceIds call.index
  parkedRunIds := parkedRunOnceIds call.index

def purge (call : InspectCall) (home : QueueHome) : LeaseState × FenceFiles :=
  purgeRuntimeQueueLeases call.processes call.nowMs call.endedRuns (home.leases call.runtimeClass)
    home.fences

end InspectCall

def inspectRuntimeQueueClass (home : QueueHome) (call : InspectCall) : QueueHome :=
  let (state, fences) := call.purge home
  { home.writeLeases call.runtimeClass state with fences }

def runtimeLeaseRenewAheadMs : Int := 10 * 60 * 1000

def runtimeLeaseSafetyMarginMs : Int := 3 * 60 * 1000

def runtimeLeaseBusyRetryIntervalMs : Int := 5 * 1000

structure RuntimeQueueLeaseGuard where
  queueId : String
  runtimeClass : String
  canonicalLaneDigest : String
  owner : RuntimeQueueLeaseOwnerEnvelope
  provenExpiresAtMs : Int
  nextRenewalCheckAtMs : Int
  lost : Bool

inductive RuntimeQueueLeaseRenewalStatus where
  | applied
  | notRequired
  | busyRetryable
  | rejected
  | lost

structure RuntimeQueueLeaseRenewalReceipt where
  previousExpiresAtMs : Int
  renewedExpiresAtMs : Option Int
  status : RuntimeQueueLeaseRenewalStatus
  reasonCode : String

structure RenewalResult where
  home : QueueHome
  guard : RuntimeQueueLeaseGuard
  receipt : RuntimeQueueLeaseRenewalReceipt

def runtimeQueueLeaseOwnerProcessMatches (left right : RuntimeQueueLeaseOwnerEnvelope) : Bool :=
  left.serviceId = right.serviceId
    && left.generationId = right.generationId
    && left.pid = right.pid
    && left.processStartTimeMs = right.processStartTimeMs

def runtimeQueueLeaseOwnerIdentityMatches (left right : RuntimeQueueLeaseOwnerEnvelope) : Bool :=
  runtimeQueueLeaseOwnerProcessMatches left right
    && left.kind = right.kind
    && left.acquiredAtMs = right.acquiredAtMs

namespace RuntimeQueueLeaseGuard

def holds (guard : RuntimeQueueLeaseGuard) (lease : RuntimeQueueLease) : Bool :=
  (match lease.owner with
    | .legacy _ => false
    | .envelope owner => runtimeQueueLeaseOwnerIdentityMatches owner guard.owner)
    && lease.runtimeClass = guard.runtimeClass
    && lease.canonicalLaneDigest = guard.canonicalLaneDigest

end RuntimeQueueLeaseGuard

section

variable (home : QueueHome) (guard : RuntimeQueueLeaseGuard) (observedAtMs requiredThroughAtMs : Int)

-- the renewal when the class lock stays busy
def renewalBusy : RenewalResult :=
  let guard := {
    guard with
    nextRenewalCheckAtMs := saturateI64 (observedAtMs + runtimeLeaseBusyRetryIntervalMs) }
  if guard.provenExpiresAtMs ≤ saturateI64 (observedAtMs + runtimeLeaseSafetyMarginMs) then {
    home
    guard := { guard with lost := true }
    receipt := {
      previousExpiresAtMs := guard.provenExpiresAtMs
      renewedExpiresAtMs := none
      status := .lost
      reasonCode := "lease-lock-busy-inside-safety-margin" } }
  else {
    home
    guard
    receipt := {
      previousExpiresAtMs := guard.provenExpiresAtMs
      renewedExpiresAtMs := some guard.provenExpiresAtMs
      status := .busyRetryable
      reasonCode := "lease-lock-busy-retryable" } }

def renewalLost (previousExpiresAtMs : Int) (reasonCode : String) : RenewalResult where
  home
  guard := { guard with lost := true }
  receipt := { previousExpiresAtMs, renewedExpiresAtMs := none, status := .lost, reasonCode }

def renewedLease (lease : RuntimeQueueLease) : RuntimeQueueLease :=
  { lease with
    leaseExpiresAtMs := max
      (max lease.leaseExpiresAtMs (saturateI64 (observedAtMs + defaultRuntimeLeaseMs)))
      requiredThroughAtMs }

def renewalApplied (lease : RuntimeQueueLease) : RenewalResult :=
  let renewed := renewedLease observedAtMs requiredThroughAtMs lease
  { home := home.writeLeases guard.runtimeClass
      ((home.leases guard.runtimeClass).insert guard.queueId renewed)
    guard := {
      guard with
      provenExpiresAtMs := renewed.leaseExpiresAtMs
      nextRenewalCheckAtMs := max
        (saturateI64 (renewed.leaseExpiresAtMs - runtimeLeaseRenewAheadMs))
        (saturateI64 (observedAtMs + runtimeLeaseBusyRetryIntervalMs)) }
    receipt := {
      previousExpiresAtMs := lease.leaseExpiresAtMs
      renewedExpiresAtMs := some renewed.leaseExpiresAtMs
      status := .applied
      reasonCode := "owner-generation-fenced-renewal-applied" } }

-- the renewal under the class lock
def renewLocked : RenewalResult :=
  match (home.leases guard.runtimeClass).lookup guard.queueId with
  | none => renewalLost home guard guard.provenExpiresAtMs "lease-missing"
  | some lease =>
    if lease.leaseExpiresAtMs ≤ observedAtMs then
      renewalLost home guard lease.leaseExpiresAtMs "lease-expired-no-resurrection"
    else if !guard.holds lease then
      renewalLost home guard lease.leaseExpiresAtMs "lease-owner-or-lane-mismatch"
    else if (resolveQueueTerminalControl home.ledgers guard.queueId (some lease.sessionKey)).isSome then
      renewalLost home guard lease.leaseExpiresAtMs "terminal-control-present"
    else
      renewalApplied home guard observedAtMs requiredThroughAtMs lease

def renewRuntimeQueueLease (lockBusy : Bool) : RenewalResult :=
  if guard.lost then
    renewalLost home guard guard.provenExpiresAtMs "guard-already-lost"
  else if observedAtMs < 0
      || requiredThroughAtMs < observedAtMs
      || saturateI64 (observedAtMs + defaultRuntimeLeaseMs) < requiredThroughAtMs then {
    home
    guard
    receipt := {
      previousExpiresAtMs := guard.provenExpiresAtMs
      renewedExpiresAtMs := none
      status := .rejected
      reasonCode := "invalid-or-unbounded-required-through" } }
  else if observedAtMs < guard.nextRenewalCheckAtMs
      && requiredThroughAtMs ≤ guard.provenExpiresAtMs then {
    home
    guard
    receipt := {
      previousExpiresAtMs := guard.provenExpiresAtMs
      renewedExpiresAtMs := some guard.provenExpiresAtMs
      status := .notRequired
      reasonCode := "lease-coverage-already-sufficient" } }
  else if lockBusy then
    renewalBusy home guard observedAtMs
  else
    renewLocked home guard observedAtMs requiredThroughAtMs

end

inductive RuntimeQueueLeaseReleaseStatus where
  | released
  | alreadyAbsent
  | ownershipLost
  | fenced

-- `release_runtime_queue_lease` on one class; an absent lease makes it go on with the next class
def releaseRuntimeQueueLeaseOfClass (home : QueueHome) (queueId runtimeClass : String)
    : QueueHome × RuntimeQueueLeaseReleaseStatus :=
  let state := home.leases runtimeClass
  match state.lookup queueId with
  | none => (home, .alreadyAbsent)
  | some lease =>
    if home.fences.isFencedForLease lease then
      (home, .fenced)
    else
      (home.writeLeases runtimeClass (state.erase queueId), .released)

structure RuntimeQueueLeaseReleaseAuthority where
  runtimeClass : String
  owner : RuntimeQueueLeaseOwner

def releaseRuntimeQueueLeaseIfOwned (home : QueueHome) (queueId : String)
    (authority : RuntimeQueueLeaseReleaseAuthority)
    : QueueHome × RuntimeQueueLeaseReleaseStatus :=
  let state := home.leases authority.runtimeClass
  match state.lookup queueId with
  | none => (home, .alreadyAbsent)
  | some current =>
    if current.runtimeClass ≠ authority.runtimeClass || current.owner ≠ authority.owner then
      (home, .ownershipLost)
    else if home.fences.isFencedForLease current then
      (home, .fenced)
    else
      (home.writeLeases authority.runtimeClass (state.erase queueId), .released)

/-
A call of `reconcile_runtime_queue_leases_for_generation`; `pending` are the rows that it has read
before it walks over the classes.
-/
structure GenerationCall where
  serviceId : String
  generationId : String
  processes : Processes
  pending : List PendingQueueItem

namespace GenerationCall

def itemById (call : GenerationCall) (queueId : String) : Option PendingQueueItem :=
  call.pending.reverse.find? fun item => item.queueId = queueId

def isReaped (call : GenerationCall) (fences : FenceFiles) (_queueId : String)
    (lease : RuntimeQueueLease)
    : Bool :=
  !fences.isFencedForLease lease
    && lease.owner.matchesGeneration call.serviceId call.generationId

def suppressReaped (call : GenerationCall) (ledgers : QueueLedgers) (queueId : String)
    : QueueLedgers :=
  match call.itemById queueId with
  | none => ledgers
  | some item =>
    match resolveQueueTerminalControl ledgers queueId (some item.sessionKey) with
    | none => ledgers
    | some control => recordTerminalControlSuppression ledgers queueId control

end GenerationCall

def reconcileRuntimeQueueLeasesForGeneration (home : QueueHome) (call : GenerationCall)
    (runtimeClass : String)
    : QueueHome :=
  let state := home.leases runtimeClass
  let fences := reconcileOrphanedFences call.processes runtimeClass state home.fences
  let reaped := (state.keysWhere (call.isReaped fences)).mergeSort
    (fun left right => decide (Text.le left right))
  if reaped.isEmpty then
    { home with fences }
  else
    { home.writeLeases runtimeClass (state.eraseAll reaped) with
      ledgers := reaped.foldl call.suppressReaped home.ledgers
      fences }

end RuntimeQueue
