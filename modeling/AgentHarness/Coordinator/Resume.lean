import AgentHarness.Coordinator.Mailbox

/-!
The resume intents of coordinators: the table `worker_resume_intents_v1` and the transactions that
create, lease, enqueue and consume an intent together with its mailbox rows.
-/

namespace Coordinator

def workerResumeIntentSchema : String := "agent-harness.worker-resume-intent.v1"
def laneActivityReceiptSchema : String := "agent-harness.worker-resume-lane-activity.v1"
def maxResumeBatchItems : Nat := 100
def maxResumeLeaseMs : Int := 24 * 60 * 60 * 1000

inductive WorkerResumeError where
  | sqlite (reason : String)
  | json (reason : String)
  | mailbox (error : WorkerResultMailboxError)
  | invalidInput (reason : String)
  | invalidStoredData (reason : String)
  | legacyOwnerDenied
  | leaseTokenConflict (leaseToken : String)
  | invalidTransition (intentId reason : String)

namespace Resume

def validateTimestamp (field : String) (value : Int) : Except WorkerResumeError Unit :=
  .require (0 ≤ value) (.invalidInput s!"{field} cannot be negative")

def validateText (field value : String) (maxBytes : Nat) : Except WorkerResumeError Unit := do
  .require (value ≠ "") (.invalidInput s!"{field} is empty")
  let bytes := value.utf8ByteSize
  .require (bytes ≤ maxBytes) (.invalidInput s!"{field} is {bytes} bytes; maximum is {maxBytes}")
  .require (!value.toList.any Text.isControl)
    (.invalidInput s!"{field} contains a control character")

def validateIdentifier (field value : String) : Except WorkerResumeError Unit :=
  validateText field value 1024

def validateLease (field : String) (value : Int) : Except WorkerResumeError Unit :=
  .require (1 ≤ value && value ≤ maxResumeLeaseMs)
    (.invalidInput s!"{field} must be between 1 and {maxResumeLeaseMs}")

end Resume

structure LaneActivityReceiptV1 where
  schema : String
  laneActive : Bool
  observedAtMs : Int
  blockerReason : Option String
  deriving DecidableEq

def LaneActivityReceiptV1.validate (self : LaneActivityReceiptV1)
    : Except WorkerResumeError Unit := do
  let schema := self.schema
  .require (schema = laneActivityReceiptSchema)
    (.invalidInput s!"unsupported lane activity receipt schema `{schema}`")
  Resume.validateTimestamp "observedAtMs" self.observedAtMs
  match self.laneActive, self.blockerReason with
  | true, some reason => Resume.validateText "blockerReason" reason 1024
  | true, none => .error (.invalidInput "an active lane receipt must include blockerReason")
  | false, some _ => .error (.invalidInput "an idle lane receipt cannot include blockerReason")
  | false, none => .ok ()

inductive WorkerResumeIntentStateV1 where
  | pending
  | leased
  | enqueued
  | consumed
  | quarantined
  deriving DecidableEq

structure WorkerResumeIntentLeaseV1 where
  leaseToken : String
  leaseOwner : String
  leaseExpiresAtMs : Int

structure WorkerResumeIntentV1 where
  schema : String
  intentId : String
  ownerKey : String
  owner : ExactWorkerResultOwnerV1
  virtualSessionId : String
  generation : Nat
  mailboxCursor : Nat
  mailboxIds : List Nat
  mailboxClaimTokens : List String
  state : WorkerResumeIntentStateV1
  laneActivity : LaneActivityReceiptV1
  lease : Option WorkerResumeIntentLeaseV1
  continuationQueueId : Option String
  createdAtMs : Int
  updatedAtMs : Int
  enqueuedAtMs : Option Int
  consumedAtMs : Option Int

structure WorkerResumeCreateOptionsV1 where
  claimToken : String
  claimantId : String
  nowMs : Int
  mailboxLeaseMs : Int
  limit : Nat

inductive WorkerResumeCreateDispositionV1 where
  | noUnreadResults
  | created
  | coalesced
  | replayed
  | blockedByActiveLane
  deriving DecidableEq

structure WorkerResumeCreateOutcomeV1 where
  disposition : WorkerResumeCreateDispositionV1
  intent : Option WorkerResumeIntentV1

structure WorkerResumeLeaseOptionsV1 where
  leaseToken : String
  leaseOwner : String
  nowMs : Int
  leaseMs : Int

structure IntentRow where
  intentId : String
  schema : String
  ownerKey : String
  ownerJson : Stored ExactWorkerResultOwnerV1
  virtualSessionId : String
  generation : Nat
  mailboxCursor : Nat
  mailboxIdsJson : Stored (List Nat)
  mailboxClaimTokensJson : Stored (List String)
  state : WorkerResumeIntentStateV1
  laneActivityJson : Stored LaneActivityReceiptV1
  blockerReason : Option String
  leaseToken : Option String
  leaseOwner : Option String
  leaseExpiresAtMs : Option Int
  continuationQueueId : Option String
  createdAtMs : Int
  updatedAtMs : Int
  enqueuedAtMs : Option Int
  consumedAtMs : Option Int
  deriving DecidableEq

namespace IntentRow

def leaseCheck (row : IntentRow) : Bool :=
  if row.state = .leased then
    row.leaseToken.isSome && row.leaseOwner.isSome && row.leaseExpiresAtMs.isSome
  else
    row.leaseToken.isNone && row.leaseOwner.isNone && row.leaseExpiresAtMs.isNone

def queueCheck (row : IntentRow) : Bool :=
  if row.state = .enqueued || row.state = .consumed then
    row.continuationQueueId.isSome && row.enqueuedAtMs.isSome
  else
    row.continuationQueueId.isNone && row.enqueuedAtMs.isNone

def consumedCheck (row : IntentRow) : Bool :=
  if row.state = .consumed then row.consumedAtMs.isSome else row.consumedAtMs.isNone

def blockerCheck (row : IntentRow) : Bool :=
  if row.state = .quarantined then row.blockerReason.isSome else row.blockerReason.isNone

end IntentRow

def intentTable : Schema IntentRow String where
  key := IntentRow.intentId
  check row := row.schema = workerResumeIntentSchema && row.leaseCheck && row.queueCheck
    && row.consumedCheck && row.blockerCheck
  clash row other :=
    (row.ownerKey = other.ownerKey && row.virtualSessionId = other.virtualSessionId
        && row.generation = other.generation)
      || (row.leaseToken.isSome && row.leaseToken = other.leaseToken)

abbrev Intents := Table intentTable

structure Results where
  mailbox : Mailbox
  intents : Intents

def Results.empty : Results where
  mailbox := Table.empty mailboxTable
  intents := Table.empty intentTable

abbrev ResumeTransaction := Transaction WorkerResumeError Results

namespace Resume

def onMailbox {α : Type} (transaction : MailboxTransaction α) : ResumeTransaction α :=
  (transaction.within Results.mailbox fun results mailbox => { results with mailbox }).mapErr .mailbox

def onOwner {α : Type} (result : Except WorkerResultMailboxError α) : ResumeTransaction α :=
  Transaction.check (result.mapError .mailbox)

-- an UPDATE of the intents
def update (hits : IntentRow → Bool) (set : IntentRow → IntentRow) : ResumeTransaction Unit :=
  Transaction.write
    (fun results => (results.intents.update hits set).map fun intents => { results with intents })
    (.sqlite "constraint failed")

def changed (hits : IntentRow → Bool) : ResumeTransaction Nat :=
  Transaction.query fun results => .ok (results.intents.changed hits)

end Resume

namespace IntentRow

def decodeLease (self : IntentRow) : Except WorkerResumeError (Option WorkerResumeIntentLeaseV1) := do
  if self.state = .leased then
    let leaseToken ← .ofOption self.leaseToken (.invalidStoredData "leased intent has no token")
    let leaseOwner ← .ofOption self.leaseOwner (.invalidStoredData "leased intent has no owner")
    let leaseExpiresAtMs ← .ofOption self.leaseExpiresAtMs
      (.invalidStoredData "leased intent has no expiry")
    return some { leaseToken, leaseOwner, leaseExpiresAtMs }
  else
    return none

def mailboxError {α : Type} (result : Except WorkerResultMailboxError α)
    : Except WorkerResumeError α :=
  result.mapError .mailbox

-- `RawResumeIntent::decode`
def decode (self : IntentRow) : Except WorkerResumeError WorkerResumeIntentV1 := do
  let schema := self.schema
  .require (schema = workerResumeIntentSchema) (.invalidStoredData s!"unsupported schema `{schema}`")
  let owner ← .ofOption self.ownerJson.decode (.json "invalid owner")
  mailboxError owner.validate
  let expectedOwnerKey ← mailboxError owner.coordinatorKey
  .require (!(expectedOwnerKey ≠ self.ownerKey || owner.virtualSessionId ≠ self.virtualSessionId))
    (.invalidStoredData "owner columns do not match exact owner JSON")
  let laneActivity ← .ofOption self.laneActivityJson.decode (.json "invalid lane activity")
  laneActivity.validate
  .require (laneActivity.blockerReason = self.blockerReason)
    (.invalidStoredData "blockerReason column does not match lane activity receipt")
  let lease ← self.decodeLease
  let mailboxIds ← .ofOption self.mailboxIdsJson.decode (.json "invalid mailbox ids")
  let mailboxClaimTokens ← .ofOption self.mailboxClaimTokensJson.decode
    (.json "invalid claim tokens")
  .require (mailboxIds ≠ []) (.invalidStoredData "intent has no mailbox ids")
  .require (mailboxIds.max? = some self.mailboxCursor)
    (.invalidStoredData "mailboxCursor is not the maximum mailbox id")
  .require (!(self.state ≠ .quarantined && mailboxClaimTokens = []))
    (.invalidStoredData "schedulable intent has no mailbox claim tokens")
  return {
    schema
    intentId := self.intentId
    ownerKey := self.ownerKey
    owner
    virtualSessionId := self.virtualSessionId
    generation := self.generation
    mailboxCursor := self.mailboxCursor
    mailboxIds
    mailboxClaimTokens
    state := self.state
    laneActivity
    lease
    continuationQueueId := self.continuationQueueId
    createdAtMs := self.createdAtMs
    updatedAtMs := self.updatedAtMs
    enqueuedAtMs := self.enqueuedAtMs
    consumedAtMs := self.consumedAtMs }

end IntentRow

def findIntent (intentId : String) (results : Results)
    : Except WorkerResumeError (Option WorkerResumeIntentV1) := do
  Resume.validateIdentifier "intentId" intentId
  match results.intents.find intentId with
  | none => return none
  | some row => row.decode.map some

namespace Intents

variable (intents : Intents) (ownerKey virtualSessionId : String)

def ofOwner : List IntentRow :=
  intents.rows.filter fun row =>
    row.ownerKey = ownerKey && row.virtualSessionId = virtualSessionId

def ofOwnerState (state : WorkerResumeIntentStateV1) : List IntentRow :=
  (intents.ofOwner ownerKey virtualSessionId).filter fun row => row.state = state

-- ORDER BY generation DESC LIMIT 1
def latestRow (state : WorkerResumeIntentStateV1) : Option IntentRow :=
  ((intents.ofOwnerState ownerKey virtualSessionId state).insertionSort
    fun left right => right.generation ≤ left.generation).head?

-- ORDER BY generation ASC LIMIT 1
def oldestRow (state : WorkerResumeIntentStateV1) : Option IntentRow :=
  ((intents.ofOwnerState ownerKey virtualSessionId state).insertionSort
    fun left right => left.generation ≤ right.generation).head?

def nextGeneration : Nat :=
  min (((intents.ofOwner ownerKey virtualSessionId).map IntentRow.generation).foldr max 0 + 1)
    (2 ^ 63 - 1)

end Intents

def latestIntentForOwnerState (ownerKey virtualSessionId : String)
    (state : WorkerResumeIntentStateV1) (results : Results)
    : Except WorkerResumeError (Option WorkerResumeIntentV1) :=
  match results.intents.latestRow ownerKey virtualSessionId state with
  | none => .ok none
  | some row => row.decode.map some

-- `sort` followed by `dedup`
def sortedUniqueIds (ids : List Nat) : List Nat :=
  (sortIds ids).destutter (· ≠ ·)

def sortedUniqueTokens (tokens : List String) : List String :=
  (tokens.insertionSort Text.le).destutter (· ≠ ·)

structure NewIntent where
  owner : ExactWorkerResultOwnerV1
  ownerKey : String
  generation : Nat
  mailboxCursor : Nat
  mailboxIds : List Nat
  mailboxClaimTokens : List String
  state : WorkerResumeIntentStateV1
  laneActivity : LaneActivityReceiptV1
  nowMs : Int

def NewIntent.intentId (self : NewIntent) : String :=
  "resume/" ++ self.ownerKey ++ "/" ++ toString self.generation

def NewIntent.row (self : NewIntent) : IntentRow where
  intentId := self.intentId
  schema := workerResumeIntentSchema
  ownerKey := self.ownerKey
  ownerJson := .of self.owner
  virtualSessionId := self.owner.virtualSessionId
  generation := self.generation
  mailboxCursor := self.mailboxCursor
  mailboxIdsJson := .of (sortedUniqueIds self.mailboxIds)
  mailboxClaimTokensJson := .of (sortedUniqueTokens self.mailboxClaimTokens)
  state := self.state
  laneActivityJson := .of self.laneActivity
  blockerReason := self.laneActivity.blockerReason
  leaseToken := none
  leaseOwner := none
  leaseExpiresAtMs := none
  continuationQueueId := none
  createdAtMs := self.nowMs
  updatedAtMs := self.nowMs
  enqueuedAtMs := none
  consumedAtMs := none

def insertIntent (intent : NewIntent) : ResumeTransaction WorkerResumeIntentV1 := do
  Transaction.write
    (fun results => (results.intents.insert intent.row).map fun intents => { results with intents })
    (.sqlite "constraint failed")
  let found ← Transaction.query (findIntent intent.intentId)
  Transaction.check (.ofOption found (.invalidStoredData "inserted intent disappeared"))

def requireExactOwner (owner : WorkerResultOwnerV1)
    : Except WorkerResumeError ExactWorkerResultOwnerV1 :=
  match owner with
  | .exact owner => do
    IntentRow.mailboxError owner.validate
    return owner
  | .legacyIncomplete _ => .error .legacyOwnerDenied

def validateCreateOptions (options : WorkerResumeCreateOptionsV1)
    : Except WorkerResumeError Unit := do
  Resume.validateIdentifier "claimToken" options.claimToken
  Resume.validateIdentifier "claimantId" options.claimantId
  Resume.validateTimestamp "nowMs" options.nowMs
  Resume.validateLease "mailboxLeaseMs" options.mailboxLeaseMs
  .require (!(options.limit = 0 || options.limit > maxResumeBatchItems))
    (.invalidInput s!"limit must be between 1 and {maxResumeBatchItems}")

def noUnread : WorkerResumeCreateOutcomeV1 :=
  { disposition := .noUnreadResults, intent := none }

-- `mailbox_ids.iter().copied().max().unwrap_or(0)`
def cursorOf (mailboxIds : List Nat) : Nat :=
  mailboxIds.max?.getD 0

/-
The branch of an active lane: the intent is stored as quarantined and no row is claimed.
-/
def blockResumeIntent (owner : ExactWorkerResultOwnerV1) (ownerKey : String)
    (laneActivity : LaneActivityReceiptV1) (options : WorkerResumeCreateOptionsV1)
    : ResumeTransaction WorkerResumeCreateOutcomeV1 := do
  let unread ← Resume.onMailbox (coalescedUnreadForCoordinator owner options.limit)
  if unread = [] then
    return noUnread
  else
    let mailboxIds := unread.map WorkerResultMailboxRecordV1.mailboxId
    let existing ← Transaction.query
      (latestIntentForOwnerState ownerKey owner.virtualSessionId .quarantined)
    match existing.filter fun existing =>
      existing.mailboxIds = mailboxIds && existing.laneActivity = laneActivity with
    | some existing => return { disposition := .replayed, intent := some existing }
    | none =>
      let generation ← Transaction.query fun results =>
        .ok (results.intents.nextGeneration ownerKey owner.virtualSessionId)
      let intent ← insertIntent {
        owner
        ownerKey
        generation
        mailboxCursor := cursorOf mailboxIds
        mailboxIds
        mailboxClaimTokens := []
        state := .quarantined
        laneActivity
        nowMs := options.nowMs }
      return { disposition := .blockedByActiveLane, intent := some intent }

def WorkerResumeCreateOptionsV1.claimOptions (self : WorkerResumeCreateOptionsV1)
    : WorkerResultMailboxClaimOptionsV1 where
  claimToken := self.claimToken
  claimantId := self.claimantId
  nowMs := self.nowMs
  leaseMs := self.mailboxLeaseMs
  limit := self.limit

def WorkerResumeIntentV1.coalesce (self : WorkerResumeIntentV1) (claimedIds : List Nat)
    (claimToken : String)
    : WorkerResumeIntentV1 :=
  let mailboxIds := sortedUniqueIds (self.mailboxIds ++ claimedIds)
  { self with
    mailboxIds
    mailboxClaimTokens := sortedUniqueTokens (self.mailboxClaimTokens ++ [claimToken])
    mailboxCursor := cursorOf mailboxIds }

-- WHERE and SET of the UPDATE that stores the merged intent
def WorkerResumeIntentV1.isPendingRow (self : WorkerResumeIntentV1) (row : IntentRow) : Bool :=
  row.intentId = self.intentId && row.state = .pending

def WorkerResumeIntentV1.storeMerged (self : WorkerResumeIntentV1) (nowMs : Int) (row : IntentRow)
    : IntentRow :=
  { row with
    mailboxCursor := self.mailboxCursor
    mailboxIdsJson := .of self.mailboxIds
    mailboxClaimTokensJson := .of self.mailboxClaimTokens
    updatedAtMs := nowMs }

def coalesceResumeIntent (pending : WorkerResumeIntentV1) (claimedIds : List Nat)
    (options : WorkerResumeCreateOptionsV1)
    : ResumeTransaction WorkerResumeCreateOutcomeV1 := do
  let merged := pending.coalesce claimedIds options.claimToken
  if merged.mailboxIds = pending.mailboxIds then
    -- the merged token is returned but not stored
    return { disposition := .replayed, intent := some merged }
  else
    Resume.update merged.isPendingRow (merged.storeMerged options.nowMs)
    return {
      disposition := .coalesced
      intent := some { merged with updatedAtMs := options.nowMs } }

def createResumeIntent (owner : ExactWorkerResultOwnerV1) (ownerKey : String)
    (laneActivity : LaneActivityReceiptV1) (options : WorkerResumeCreateOptionsV1)
    : ResumeTransaction WorkerResumeCreateOutcomeV1 := do
  let claim ← Resume.onMailbox (claimUnreadForCoordinator owner options.claimOptions)
  if claim.records = [] then
    return noUnread
  else
    let claimedIds := claim.records.map WorkerResultMailboxRecordV1.mailboxId
    match ← Transaction.query
        (latestIntentForOwnerState ownerKey owner.virtualSessionId .pending) with
    | some pending => coalesceResumeIntent pending claimedIds options
    | none =>
      let generation ← Transaction.query fun results =>
        .ok (results.intents.nextGeneration ownerKey owner.virtualSessionId)
      let intent ← insertIntent {
        owner
        ownerKey
        generation
        mailboxCursor := cursorOf claimedIds
        mailboxIds := claimedIds
        mailboxClaimTokens := [options.claimToken]
        state := .pending
        laneActivity
        nowMs := options.nowMs }
      return {
        disposition := if claim.replayedExistingClaim then .replayed else .created
        intent := some intent }

def createOrCoalesceResumeIntent (owner : WorkerResultOwnerV1) (laneActivity : LaneActivityReceiptV1)
    (options : WorkerResumeCreateOptionsV1)
    : ResumeTransaction WorkerResumeCreateOutcomeV1 := do
  Transaction.check laneActivity.validate
  Transaction.check (validateCreateOptions options)
  let exactOwner ← Transaction.check (requireExactOwner owner)
  let ownerKey ← Resume.onOwner exactOwner.coordinatorKey
  if laneActivity.laneActive then
    blockResumeIntent exactOwner ownerKey laneActivity options
  else
    createResumeIntent exactOwner ownerKey laneActivity options

def validateLeaseOptions (options : WorkerResumeLeaseOptionsV1)
    : Except WorkerResumeError Unit := do
  Resume.validateIdentifier "leaseToken" options.leaseToken
  Resume.validateIdentifier "leaseOwner" options.leaseOwner
  Resume.validateTimestamp "nowMs" options.nowMs
  Resume.validateLease "leaseMs" options.leaseMs

namespace IntentRow

def isExpired (nowMs : Int) (row : IntentRow) : Bool :=
  row.state = .leased && row.leaseExpiresAtMs.any (· ≤ nowMs)

def unlease (nowMs : Int) (row : IntentRow) : IntentRow :=
  { row with
    state := .pending
    leaseToken := none
    leaseOwner := none
    leaseExpiresAtMs := none
    updatedAtMs := nowMs }

def lease (options : WorkerResumeLeaseOptionsV1) (row : IntentRow) : IntentRow :=
  { row with
    state := .leased
    leaseToken := some options.leaseToken
    leaseOwner := some options.leaseOwner
    leaseExpiresAtMs := some (saturateI64 (options.nowMs + options.leaseMs))
    updatedAtMs := options.nowMs }

def enqueue (continuationQueueId : String) (nowMs : Int) (row : IntentRow) : IntentRow :=
  { row with
    state := .enqueued
    leaseToken := none
    leaseOwner := none
    leaseExpiresAtMs := none
    continuationQueueId := some continuationQueueId
    enqueuedAtMs := some nowMs
    updatedAtMs := nowMs }

def consume (nowMs : Int) (row : IntentRow) : IntentRow :=
  { row with
    state := .consumed
    consumedAtMs := some nowMs
    updatedAtMs := nowMs }

-- WHERE intent_id=?  AND owner_key=?  AND state='leased' AND lease_token=?
def isLeasedWith (intentId ownerKey leaseToken : String) (row : IntentRow) : Bool :=
  row.intentId = intentId && row.ownerKey = ownerKey && row.state = .leased
    && row.leaseToken = some leaseToken

def isEnqueuedAs (intentId ownerKey continuationQueueId : String) (row : IntentRow) : Bool :=
  row.intentId = intentId && row.ownerKey = ownerKey && row.state = .enqueued
    && row.continuationQueueId = some continuationQueueId

end IntentRow

def releaseExpiredResumeLeases (nowMs : Int) : ResumeTransaction Nat := do
  Transaction.check (Resume.validateTimestamp "nowMs" nowMs)
  let released ← Resume.changed (IntentRow.isExpired nowMs)
  Resume.update (IntentRow.isExpired nowMs) (IntentRow.unlease nowMs)
  return released

def Intents.boundRow (intents : Intents) (leaseToken : String) : Option IntentRow :=
  intents.rows.find? fun row => row.leaseToken = some leaseToken

def claimNextResumeIntent (owner : ExactWorkerResultOwnerV1) (options : WorkerResumeLeaseOptionsV1)
    : ResumeTransaction (Option WorkerResumeIntentV1) := do
  Transaction.check (validateLeaseOptions options)
  let ownerKey ← Resume.onOwner owner.coordinatorKey
  let _ ← releaseExpiredResumeLeases options.nowMs
  match ← Transaction.query fun results => .ok (results.intents.boundRow options.leaseToken) with
  | some bound =>
    let found ← Transaction.query (findIntent bound.intentId)
    let intent ← Transaction.check (.ofOption found (.invalidStoredData "lease index is stale"))
    Transaction.check (.require
      (!(intent.ownerKey ≠ ownerKey
        || intent.lease.map WorkerResumeIntentLeaseV1.leaseOwner ≠ some options.leaseOwner))
      (.leaseTokenConflict options.leaseToken))
    return some intent
  | none =>
    match ← Transaction.query fun results =>
        .ok (results.intents.oldestRow ownerKey owner.virtualSessionId .pending) with
    | none => return none
    | some oldest =>
      let hits := fun row : IntentRow => row.intentId = oldest.intentId && row.state = .pending
      let updated ← Resume.changed hits
      Resume.update hits (IntentRow.lease options)
      if updated ≠ 1 then return none
      else Transaction.query (findIntent oldest.intentId)

def releaseResumeIntent (owner : ExactWorkerResultOwnerV1) (intentId leaseToken : String)
    (nowMs : Int)
    : ResumeTransaction Bool := do
  Transaction.check (Resume.validateIdentifier "intentId" intentId)
  Transaction.check (Resume.validateIdentifier "leaseToken" leaseToken)
  Transaction.check (Resume.validateTimestamp "nowMs" nowMs)
  let ownerKey ← Resume.onOwner owner.coordinatorKey
  let hits := IntentRow.isLeasedWith intentId ownerKey leaseToken
  let transitioned ← Resume.changed hits
  Resume.update hits (IntentRow.unlease nowMs)
  return transitioned = 1

def markResumeIntentEnqueued (owner : ExactWorkerResultOwnerV1)
    (intentId leaseToken continuationQueueId : String) (nowMs : Int)
    : ResumeTransaction WorkerResumeIntentV1 := do
  Transaction.check (Resume.validateIdentifier "intentId" intentId)
  Transaction.check (Resume.validateIdentifier "leaseToken" leaseToken)
  Transaction.check (Resume.validateIdentifier "continuationQueueId" continuationQueueId)
  Transaction.check (Resume.validateTimestamp "nowMs" nowMs)
  let ownerKey ← Resume.onOwner owner.coordinatorKey
  let hits := IntentRow.isLeasedWith intentId ownerKey leaseToken
  let transitioned ← Resume.changed hits
  Resume.update hits (IntentRow.enqueue continuationQueueId nowMs)
  let found ← Transaction.query (findIntent intentId)
  if transitioned ≠ 1 then
    Transaction.check (.ofOption
      (found.filter fun existing => existing.ownerKey = ownerKey && existing.state = .enqueued
        && existing.continuationQueueId = some continuationQueueId)
      (.invalidTransition intentId "expected matching leased state"))
  else
    Transaction.check (.ofOption found (.invalidStoredData "enqueued intent disappeared"))

def acknowledgeTokens (owner : ExactWorkerResultOwnerV1) (nowMs : Int) (claimTokens : List String)
    : ResumeTransaction Unit :=
  match claimTokens with
  | [] => return ()
  | claimToken :: claimTokens => do
    let _ ← Resume.onMailbox (acknowledgeCoordinatorClaim owner claimToken nowMs)
    acknowledgeTokens owner nowMs claimTokens

def consumeResumeIntent (owner : ExactWorkerResultOwnerV1) (intentId continuationQueueId : String)
    (nowMs : Int)
    : ResumeTransaction WorkerResumeIntentV1 := do
  Transaction.check (Resume.validateIdentifier "intentId" intentId)
  Transaction.check (Resume.validateIdentifier "continuationQueueId" continuationQueueId)
  Transaction.check (Resume.validateTimestamp "nowMs" nowMs)
  let ownerKey ← Resume.onOwner owner.coordinatorKey
  let found ← Transaction.query (findIntent intentId)
  let intent ← Transaction.check
    (.ofOption found (.invalidTransition intentId "intent does not exist"))
  Transaction.check (.require
    (!(intent.ownerKey ≠ ownerKey || intent.continuationQueueId ≠ some continuationQueueId))
    (.invalidTransition intentId "owner or continuation queue does not match"))
  if intent.state = .consumed then
    return intent
  else
    Transaction.check (.require (intent.state = .enqueued)
      (.invalidTransition intentId "expected enqueued state"))
    acknowledgeTokens owner nowMs intent.mailboxClaimTokens
    Resume.update (IntentRow.isEnqueuedAs intentId ownerKey continuationQueueId)
      (IntentRow.consume nowMs)
    let consumed ← Transaction.query (findIntent intentId)
    Transaction.check (.ofOption consumed (.invalidStoredData "consumed intent disappeared"))

end Coordinator
