import AgentHarness.Lib.Run
import AgentHarness.Coordinator.Resume

/-!
Histories of the mailbox and the resume intents: every call is a transaction of its own, in any order and
with any owners, tokens and times.
-/

namespace Coordinator

inductive ResultCall where
  | insertTerminalResult (input : WorkerResultMailboxInsertV1)
  | claimUnreadForExactOwner (owner : ExactWorkerResultOwnerV1)
    (options : WorkerResultMailboxClaimOptionsV1)
  | claimUnreadForCoordinator (owner : ExactWorkerResultOwnerV1)
    (options : WorkerResultMailboxClaimOptionsV1)
  | coalescedUnreadForCoordinator (owner : ExactWorkerResultOwnerV1) (limit : Nat)
  | acknowledgeClaim (owner : ExactWorkerResultOwnerV1) (claimToken : String) (nowMs : Int)
  | acknowledgeCoordinatorClaim (owner : ExactWorkerResultOwnerV1) (claimToken : String) (nowMs : Int)
  | releaseClaim (owner : ExactWorkerResultOwnerV1) (claimToken : String) (nowMs : Int)
  | releaseCoordinatorClaim (owner : ExactWorkerResultOwnerV1) (claimToken : String) (nowMs : Int)
  | createOrCoalesceResumeIntent (owner : WorkerResultOwnerV1) (laneActivity : LaneActivityReceiptV1)
    (options : WorkerResumeCreateOptionsV1)
  | claimNextResumeIntent (owner : ExactWorkerResultOwnerV1) (options : WorkerResumeLeaseOptionsV1)
  | releaseExpiredResumeLeases (nowMs : Int)
  | releaseResumeIntent (owner : ExactWorkerResultOwnerV1) (intentId leaseToken : String) (nowMs : Int)
  | markResumeIntentEnqueued (owner : ExactWorkerResultOwnerV1)
    (intentId leaseToken continuationQueueId : String) (nowMs : Int)
  | consumeResumeIntent (owner : ExactWorkerResultOwnerV1) (intentId continuationQueueId : String)
    (nowMs : Int)

def ResultCall.nowMs (call : ResultCall) : Option Int :=
  match call with
  | .insertTerminalResult _ | .coalescedUnreadForCoordinator _ _ => none
  | .claimUnreadForExactOwner _ options | .claimUnreadForCoordinator _ options => some options.nowMs
  | .acknowledgeClaim _ _ nowMs | .acknowledgeCoordinatorClaim _ _ nowMs
  | .releaseClaim _ _ nowMs | .releaseCoordinatorClaim _ _ nowMs
  | .releaseExpiredResumeLeases nowMs | .releaseResumeIntent _ _ _ nowMs
  | .markResumeIntentEnqueued _ _ _ _ nowMs | .consumeResumeIntent _ _ _ nowMs => some nowMs
  | .createOrCoalesceResumeIntent _ _ options => some options.nowMs
  | .claimNextResumeIntent _ options => some options.nowMs

def Results.exec (results : Results) (call : ResultCall) : Results :=
  match call with
  | .insertTerminalResult input =>
    (Resume.onMailbox (Coordinator.insertTerminalResult input)).commit results
  | .claimUnreadForExactOwner owner options =>
    (Resume.onMailbox (Coordinator.claimUnreadForExactOwner owner options)).commit results
  | .claimUnreadForCoordinator owner options =>
    (Resume.onMailbox (Coordinator.claimUnreadForCoordinator owner options)).commit results
  | .coalescedUnreadForCoordinator owner limit =>
    (Resume.onMailbox (Coordinator.coalescedUnreadForCoordinator owner limit)).commit results
  | .acknowledgeClaim owner claimToken nowMs =>
    (Resume.onMailbox (Coordinator.acknowledgeClaim owner claimToken nowMs)).commit results
  | .acknowledgeCoordinatorClaim owner claimToken nowMs =>
    (Resume.onMailbox (Coordinator.acknowledgeCoordinatorClaim owner claimToken nowMs)).commit results
  | .releaseClaim owner claimToken nowMs =>
    (Resume.onMailbox (Coordinator.releaseClaim owner claimToken nowMs)).commit results
  | .releaseCoordinatorClaim owner claimToken nowMs =>
    (Resume.onMailbox (Coordinator.releaseCoordinatorClaim owner claimToken nowMs)).commit results
  | .createOrCoalesceResumeIntent owner laneActivity options =>
    (Coordinator.createOrCoalesceResumeIntent owner laneActivity options).commit results
  | .claimNextResumeIntent owner options =>
    (Coordinator.claimNextResumeIntent owner options).commit results
  | .releaseExpiredResumeLeases nowMs =>
    (Coordinator.releaseExpiredResumeLeases nowMs).commit results
  | .releaseResumeIntent owner intentId leaseToken nowMs =>
    (Coordinator.releaseResumeIntent owner intentId leaseToken nowMs).commit results
  | .markResumeIntentEnqueued owner intentId leaseToken continuationQueueId nowMs =>
    (Coordinator.markResumeIntentEnqueued owner intentId leaseToken continuationQueueId nowMs).commit
      results
  | .consumeResumeIntent owner intentId continuationQueueId nowMs =>
    (Coordinator.consumeResumeIntent owner intentId continuationQueueId nowMs).commit results

namespace IntentRow

def mailboxIds (row : IntentRow) : List Nat :=
  row.mailboxIdsJson.decode.getD []

def claimTokens (row : IntentRow) : List String :=
  row.mailboxClaimTokensJson.decode.getD []

def isLive (row : IntentRow) : Bool :=
  row.state = .pending || row.state = .leased || row.state = .enqueued

def isDelivered (row : IntentRow) : Bool :=
  row.state = .enqueued || row.state = .consumed

end IntentRow

def Results.isHeld (results : Results) (mailboxId : Nat) : Bool :=
  results.intents.rows.any fun intent => intent.isLive && intent.mailboxIds.contains mailboxId

/-
What a call has to respect for the intents that are still live: a claim of such an intent has not run out
when a claim looks for rows, nobody else gives it back or acknowledges it, and its token does not come
back to create an intent, unless it is the pending one that the call joins.
-/
namespace Results

variable (results : Results)

def spares (scope : MailboxScope) (key : String) (hits : MailboxRow → Bool) : Bool :=
  results.mailbox.rows.all fun row =>
    !(scope.holds key row && hits row && results.isHeld row.mailboxId)

def tokenIsFree (key virtualSessionId claimToken : String) : Bool :=
  results.intents.rows.all fun intent =>
    !(intent.isLive && intent.ownerKey = key && intent.claimTokens.contains claimToken)
      || results.intents.latestRow key virtualSessionId .pending = some intent

def onKey {ε : Type} (key : Except ε String) (condition : String → Bool) : Bool :=
  key.toOption.all condition

def keepsClaims (call : ResultCall) : Bool :=
  match call with
  | .claimUnreadForExactOwner owner options =>
    onKey owner.ownerKey fun key =>
      results.spares .ownerKey key (MailboxRow.isExpired options.nowMs)
  | .claimUnreadForCoordinator owner options =>
    onKey owner.coordinatorKey fun key =>
      results.spares .coordinatorKey key (MailboxRow.isExpired options.nowMs)
  | .acknowledgeClaim owner claimToken _ | .releaseClaim owner claimToken _ =>
    onKey owner.ownerKey fun key =>
      results.spares .ownerKey key (MailboxRow.isClaimedBy claimToken)
  | .acknowledgeCoordinatorClaim owner claimToken _ | .releaseCoordinatorClaim owner claimToken _ =>
    onKey owner.coordinatorKey fun key =>
      results.spares .coordinatorKey key (MailboxRow.isClaimedBy claimToken)
  | .createOrCoalesceResumeIntent (.exact owner) laneActivity options =>
    laneActivity.laneActive || onKey owner.coordinatorKey fun key =>
      results.spares .coordinatorKey key (MailboxRow.isExpired options.nowMs)
        && results.tokenIsFree key owner.virtualSessionId options.claimToken
  | _ => true

def withinLeases (call : ResultCall) : Bool :=
  call.nowMs.all fun nowMs => results.mailbox.rows.all fun row =>
    !(row.isExpired nowMs && results.isHeld row.mailboxId)

def incoming (key : String) (options : WorkerResumeCreateOptionsV1) (mailboxIds : List Nat) : Nat :=
  let expires := fun row =>
    MailboxScope.holds .coordinatorKey key row && row.isExpired options.nowMs
  if results.mailbox.rows.any fun row => row.claimToken = some options.claimToken && !expires row then
    results.mailbox.rows.countP fun row =>
      MailboxScope.holds .coordinatorKey key row && row.isClaimedBy options.claimToken
        && !expires row && !mailboxIds.contains row.mailboxId
  else
    min options.limit (results.mailbox.rows.countP fun row =>
      MailboxScope.holds .coordinatorKey key row && (row.state = .unread || expires row))

def pendingIds (key virtualSessionId : String) : List Nat :=
  (results.intents.latestRow key virtualSessionId .pending).elim [] IntentRow.mailboxIds

def fits (limit : Nat) (call : ResultCall) : Bool :=
  match call with
  | .createOrCoalesceResumeIntent (.exact owner) laneActivity options =>
    laneActivity.laneActive || onKey owner.coordinatorKey fun key =>
      let pendingIds := results.pendingIds key owner.virtualSessionId
      pendingIds.length + results.incoming key options pendingIds ≤ limit
  | _ => true

end Results

end Coordinator
