import AgentHarness.Lib.Table
import AgentHarness.Coordinator.Owner
import Mathlib.Data.List.Sort
import Mathlib.Data.List.Destutter

/-!
The mailbox of worker results: the table `worker_result_mailbox_v1` and the transactions that insert,
claim, release and acknowledge its rows.
-/

namespace Coordinator

def maxMailboxBatchItems : Nat := 100
def maxMailboxClaimLeaseMs : Int := 24 * 60 * 60 * 1000

structure WorkerResultMailboxInsertV1 where
  terminalEventKey : String
  owner : WorkerResultOwnerV1
  envelope : WorkerResultEnvelopeV1
  sourceWorkerJobId : Option String
  terminalAtMs : Int

def WorkerResultMailboxInsertV1.validate (self : WorkerResultMailboxInsertV1)
    : Except WorkerResultMailboxError Unit := do
  validateIdentifier "terminalEventKey" self.terminalEventKey
  self.owner.validate
  self.envelope.validate
  validateOptionalIdentifier "sourceWorkerJobId" self.sourceWorkerJobId
  validateTimestamp "terminalAtMs" self.terminalAtMs

inductive WorkerResultMailboxStateV1 where
  | unread
  | claimed
  | acknowledged
  deriving DecidableEq

structure WorkerResultMailboxClaimV1 where
  claimToken : String
  claimantId : String
  leaseExpiresAtMs : Int

structure WorkerResultMailboxRecordV1 where
  schema : String
  mailboxId : Nat
  terminalEventKey : String
  owner : WorkerResultOwnerV1
  autoResumable : Bool
  envelope : WorkerResultEnvelopeV1
  state : WorkerResultMailboxStateV1
  claim : Option WorkerResultMailboxClaimV1
  sourceWorkerJobId : Option String
  terminalAtMs : Int
  createdAtMs : Int
  updatedAtMs : Int
  acknowledgedAtMs : Option Int

structure WorkerResultMailboxInsertOutcomeV1 where
  mailboxId : Nat
  inserted : Bool
  autoResumable : Bool

structure WorkerResultMailboxClaimOptionsV1 where
  claimToken : String
  claimantId : String
  nowMs : Int
  leaseMs : Int
  limit : Nat

structure WorkerResultMailboxClaimBatchV1 where
  ownerKey : String
  claimToken : String
  claimantId : String
  leaseExpiresAtMs : Int
  replayedExistingClaim : Bool
  records : List WorkerResultMailboxRecordV1

structure WorkerResultMailboxTransitionV1 where
  matchedRecords : Nat
  transitionedRecords : Nat

/-
What `terminal_event_digest` hashes. Equal digests stand for equal contents; the column may also hold
any other text.
-/
structure TerminalEventContent where
  terminalEventKey : String
  owner : WorkerResultOwnerV1
  envelope : WorkerResultEnvelopeV1
  sourceWorkerJobId : String
  terminalAtMs : Int
  deriving DecidableEq

def terminalEventDigest (input : WorkerResultMailboxInsertV1) : Stored TerminalEventContent :=
  .of {
    terminalEventKey := input.terminalEventKey
    owner := input.owner
    envelope := input.envelope
    sourceWorkerJobId := input.sourceWorkerJobId.getD ""
    terminalAtMs := input.terminalAtMs }

structure MailboxRow where
  mailboxId : Nat
  schema : String
  terminalEventKey : String
  ownerKind : OwnerKind
  ownerKey : Option String
  coordinatorKey : Option String
  ownerJson : Stored WorkerResultOwnerV1
  autoResumable : Bool
  envelopeJson : Stored WorkerResultEnvelopeV1
  eventDigest : Stored TerminalEventContent
  state : WorkerResultMailboxStateV1
  claimToken : Option String
  claimOwner : Option String
  claimExpiresAtMs : Option Int
  sourceWorkerJobId : Option String
  terminalAtMs : Int
  createdAtMs : Int
  updatedAtMs : Int
  acknowledgedAtMs : Option Int
  deriving DecidableEq

namespace MailboxRow

-- CHECK on `auto_resumable`, `owner_kind` and `owner_key`
def ownerCheck (row : MailboxRow) : Bool :=
  (row.autoResumable && row.ownerKind = .exact && row.ownerKey.isSome)
    || (!row.autoResumable && row.ownerKind = .legacyIncomplete && row.ownerKey.isNone)

-- CHECK on `state` and the columns of the claim
def claimCheck (row : MailboxRow) : Bool :=
  match row.state with
  | .unread => row.claimToken.isNone && row.claimOwner.isNone && row.claimExpiresAtMs.isNone
  | .claimed => row.claimToken.isSome && row.claimOwner.isSome && row.claimExpiresAtMs.isSome
  | .acknowledged => row.acknowledgedAtMs.isSome

-- ORDER BY terminal_at_ms ASC, mailbox_id ASC
def le (left right : MailboxRow) : Prop :=
  left.terminalAtMs < right.terminalAtMs
    ∨ (left.terminalAtMs = right.terminalAtMs ∧ left.mailboxId ≤ right.mailboxId)

instance : DecidableRel le := fun left right =>
  inferInstanceAs (Decidable (left.terminalAtMs < right.terminalAtMs
    ∨ (left.terminalAtMs = right.terminalAtMs ∧ left.mailboxId ≤ right.mailboxId)))

end MailboxRow

def mailboxTable : Schema MailboxRow Nat where
  key := MailboxRow.mailboxId
  check row := row.schema = workerResultMailboxSchema && row.ownerCheck && row.claimCheck
  clash row other := row.terminalEventKey = other.terminalEventKey

abbrev Mailbox := Table mailboxTable

abbrev MailboxTransaction := Transaction WorkerResultMailboxError Mailbox

def Mailbox.sqlite : WorkerResultMailboxError := .sqlite "constraint failed"

-- AUTOINCREMENT: no row is ever deleted
def Mailbox.nextId (mailbox : Mailbox) : Nat :=
  (mailbox.rows.map MailboxRow.mailboxId).foldr max 0 + 1

namespace MailboxRow

def invalidStored {α : Type} (reason : String) (result : Except WorkerResultMailboxError α)
    : Except WorkerResultMailboxError α :=
  result.mapError fun error => .invalidStoredData (reason ++ error.message)

def decodeClaim (self : MailboxRow)
    : Except WorkerResultMailboxError (Option WorkerResultMailboxClaimV1) := do
  if self.state = .claimed then
    let claimToken ← .ofOption self.claimToken
      (.invalidStoredData "claimed record is missing claimToken")
    let claimantId ← .ofOption self.claimOwner
      (.invalidStoredData "claimed record is missing claimOwner")
    let leaseExpiresAtMs ← .ofOption self.claimExpiresAtMs
      (.invalidStoredData "claimed record is missing claim expiry")
    return some { claimToken, claimantId, leaseExpiresAtMs }
  else
    return none

-- `RawMailboxRecord::decode`
def decode (self : MailboxRow) : Except WorkerResultMailboxError WorkerResultMailboxRecordV1 := do
  let owner ← .ofOption self.ownerJson.decode (.json "invalid owner")
  invalidStored "owner validation failed: " owner.validate
  .require (owner.ownerKind = self.ownerKind)
    (.invalidStoredData "ownerKind column does not match owner JSON")
  let expectedOwnerKey ← invalidStored "owner key derivation failed: " owner.ownerKey
  .require (expectedOwnerKey = self.ownerKey)
    (.invalidStoredData "ownerKey column does not match exact owner JSON")
  .require (self.autoResumable = owner.isAutoResumable)
    (.invalidStoredData "autoResumable column does not match owner completeness")
  let envelope ← .ofOption self.envelopeJson.decode (.json "invalid envelope")
  invalidStored "envelope validation failed: " envelope.validate
  let claim ← self.decodeClaim
  return {
    schema := workerResultMailboxSchema
    mailboxId := self.mailboxId
    terminalEventKey := self.terminalEventKey
    owner
    autoResumable := self.autoResumable
    envelope
    state := self.state
    claim
    sourceWorkerJobId := self.sourceWorkerJobId
    terminalAtMs := self.terminalAtMs
    createdAtMs := self.createdAtMs
    updatedAtMs := self.updatedAtMs
    acknowledgedAtMs := self.acknowledgedAtMs }

end MailboxRow

-- `owner.coordinator_key().ok()` of an exact owner
def WorkerResultOwnerV1.coordinatorKey (self : WorkerResultOwnerV1) : Option String :=
  match self with
  | .exact owner => owner.coordinatorKey.toOption
  | .legacyIncomplete _ => none

def WorkerResultMailboxInsertV1.row (self : WorkerResultMailboxInsertV1) (mailboxId : Nat)
    (ownerKey : Option String)
    : MailboxRow where
  mailboxId
  schema := workerResultMailboxSchema
  terminalEventKey := self.terminalEventKey
  ownerKind := self.owner.ownerKind
  ownerKey
  coordinatorKey := self.owner.coordinatorKey
  ownerJson := .of self.owner
  autoResumable := self.owner.isAutoResumable
  envelopeJson := .of self.envelope
  eventDigest := terminalEventDigest self
  state := .unread
  claimToken := none
  claimOwner := none
  claimExpiresAtMs := none
  sourceWorkerJobId := self.sourceWorkerJobId
  terminalAtMs := self.terminalAtMs
  createdAtMs := self.terminalAtMs
  updatedAtMs := self.terminalAtMs
  acknowledgedAtMs := none

-- INSERT OR IGNORE
def Mailbox.insertOrIgnore (mailbox : Mailbox) (row : MailboxRow) : Mailbox :=
  (mailbox.insert row).getD mailbox

def Mailbox.findByTerminalEventKey (mailbox : Mailbox) (terminalEventKey : String)
    : Except WorkerResultMailboxError MailboxRow :=
  .ofOption (mailbox.rows.find? fun row => row.terminalEventKey = terminalEventKey)
    (.sqlite "Query returned no rows")

def insertTerminalResult (input : WorkerResultMailboxInsertV1)
    : MailboxTransaction WorkerResultMailboxInsertOutcomeV1 := do
  Transaction.check input.validate
  let ownerKey ← Transaction.check input.owner.ownerKey
  let inserted ← Transaction.query fun mailbox =>
    .ok (mailbox.insert (input.row mailbox.nextId ownerKey)).isSome
  Transaction.write
    (fun mailbox => some (mailbox.insertOrIgnore (input.row mailbox.nextId ownerKey))) Mailbox.sqlite
  let existing ← Transaction.query fun mailbox =>
    mailbox.findByTerminalEventKey input.terminalEventKey
  Transaction.check (.require (existing.eventDigest = terminalEventDigest input)
    (.idempotencyConflict input.terminalEventKey))
  return {
    mailboxId := existing.mailboxId
    inserted
    autoResumable := existing.autoResumable }

/-
Rows are claimed for one exact owner or for all the children of a coordinator: the two families of
functions differ in the key column.
-/
inductive MailboxScope where
  | ownerKey
  | coordinatorKey

def MailboxScope.column (scope : MailboxScope) (row : MailboxRow) : Option String :=
  match scope with
  | .ownerKey => row.ownerKey
  | .coordinatorKey => row.coordinatorKey

def MailboxScope.holds (scope : MailboxScope) (key : String) (row : MailboxRow) : Bool :=
  scope.column row = some key && row.autoResumable

def decodeRows (rows : List MailboxRow)
    : Except WorkerResultMailboxError (List WorkerResultMailboxRecordV1) :=
  rows.mapM MailboxRow.decode

def Mailbox.recordsForScopeState (mailbox : Mailbox) (scope : MailboxScope) (key : String)
    (state : WorkerResultMailboxStateV1) (limit : Nat)
    : Except WorkerResultMailboxError (List WorkerResultMailboxRecordV1) :=
  decodeRows (((mailbox.rows.filter fun row => scope.holds key row && row.state = state).insertionSort
    MailboxRow.le).take limit)

def Mailbox.unreadIdsForScope (mailbox : Mailbox) (scope : MailboxScope) (key : String) (limit : Nat)
    : List Nat :=
  (((mailbox.rows.filter fun row => scope.holds key row && row.state = .unread).insertionSort
    MailboxRow.le).take limit).map MailboxRow.mailboxId

def MailboxRow.isClaimedBy (claimToken : String) (row : MailboxRow) : Bool :=
  row.state = .claimed && row.claimToken = some claimToken

def Mailbox.recordsForScopeClaim (mailbox : Mailbox) (scope : MailboxScope) (key claimToken : String)
    : Except WorkerResultMailboxError (List WorkerResultMailboxRecordV1) :=
  decodeRows ((mailbox.rows.filter fun row =>
    scope.holds key row && row.isClaimedBy claimToken).insertionSort MailboxRow.le)

def Mailbox.countRecordsForScopeClaimState (mailbox : Mailbox) (scope : MailboxScope)
    (key claimToken : String) (state : WorkerResultMailboxStateV1)
    : Nat :=
  mailbox.rows.countP fun row =>
    scope.holds key row && row.claimToken = some claimToken && row.state = state

def validateBatchLimit (limit : Nat) : Except WorkerResultMailboxError Unit :=
  .require (1 ≤ limit && limit ≤ maxMailboxBatchItems)
    (.invalidInput s!"mailbox batch limit must be in 1..={maxMailboxBatchItems}")

def validateClaimOptions (options : WorkerResultMailboxClaimOptionsV1)
    : Except WorkerResultMailboxError Unit := do
  validateIdentifier "claimToken" options.claimToken
  validateIdentifier "claimantId" options.claimantId
  validateTimestamp "nowMs" options.nowMs
  .require (1 ≤ options.leaseMs && options.leaseMs ≤ maxMailboxClaimLeaseMs)
    (.invalidInput s!"leaseMs must be in 1..={maxMailboxClaimLeaseMs}")
  validateBatchLimit options.limit

def MailboxRow.isExpired (nowMs : Int) (row : MailboxRow) : Bool :=
  row.state = .claimed && row.claimExpiresAtMs.any (· ≤ nowMs)

def MailboxRow.release (nowMs : Int) (row : MailboxRow) : MailboxRow :=
  { row with
    state := .unread
    claimToken := none
    claimOwner := none
    claimExpiresAtMs := none
    updatedAtMs := nowMs }

def MailboxRow.claim (options : WorkerResultMailboxClaimOptionsV1) (row : MailboxRow) : MailboxRow :=
  { row with
    state := .claimed
    claimToken := some options.claimToken
    claimOwner := some options.claimantId
    claimExpiresAtMs := some (saturateI64 (options.nowMs + options.leaseMs))
    updatedAtMs := options.nowMs }

def MailboxRow.acknowledge (nowMs : Int) (row : MailboxRow) : MailboxRow :=
  { row with
    state := .acknowledged
    claimExpiresAtMs := none
    acknowledgedAtMs := some nowMs
    updatedAtMs := nowMs }

-- WHERE claim_token=?1 ORDER BY mailbox_id ASC LIMIT 1
def Mailbox.boundRow (mailbox : Mailbox) (claimToken : String) : Option MailboxRow :=
  ((mailbox.rows.filter fun row => row.claimToken = some claimToken).insertionSort
    fun left right => left.mailboxId ≤ right.mailboxId).head?

def claimRows (scope : MailboxScope) (key : String) (options : WorkerResultMailboxClaimOptionsV1)
    (mailboxIds : List Nat)
    : MailboxTransaction Unit :=
  match mailboxIds with
  | [] => return ()
  | mailboxId :: mailboxIds => do
    Transaction.write
      (fun mailbox => mailbox.update
        (fun row => row.mailboxId = mailboxId && scope.holds key row && row.state = .unread)
        (MailboxRow.claim options))
      Mailbox.sqlite
    claimRows scope key options mailboxIds

def claimUnreadForScope (scope : MailboxScope) (key : String)
    (options : WorkerResultMailboxClaimOptionsV1)
    : MailboxTransaction WorkerResultMailboxClaimBatchV1 := do
  Transaction.write
    (fun mailbox => mailbox.update (fun row => scope.holds key row && row.isExpired options.nowMs)
      (MailboxRow.release options.nowMs))
    Mailbox.sqlite
  let batch := fun leaseExpiresAtMs replayedExistingClaim records =>
    { ownerKey := key
      claimToken := options.claimToken
      claimantId := options.claimantId
      leaseExpiresAtMs
      replayedExistingClaim
      records : WorkerResultMailboxClaimBatchV1 }
  match ← Transaction.query fun mailbox => .ok (mailbox.boundRow options.claimToken) with
  | some bound =>
    Transaction.check (.require
      (scope.column bound = some key && bound.claimOwner = some options.claimantId)
      (.claimTokenConflict options.claimToken))
    let records ← Transaction.query fun mailbox =>
      if bound.state = .claimed then mailbox.recordsForScopeClaim scope key options.claimToken
      else .ok []
    return batch (bound.claimExpiresAtMs.getD options.nowMs) true records
  | none =>
    let mailboxIds ← Transaction.query fun mailbox =>
      .ok (mailbox.unreadIdsForScope scope key options.limit)
    claimRows scope key options mailboxIds
    let records ← Transaction.query fun mailbox =>
      mailbox.recordsForScopeClaim scope key options.claimToken
    return batch (saturateI64 (options.nowMs + options.leaseMs)) false records

/-
`backfill_coordinator_keys`, which the coordinator functions run when they initialise the schema.
-/
def MailboxRow.lacksCoordinatorKey (row : MailboxRow) : Bool :=
  row.ownerKind = .exact && row.coordinatorKey.isNone

def backfillRows (rows : List MailboxRow) : MailboxTransaction Unit :=
  match rows with
  | [] => return ()
  | row :: rows => do
    let owner ← Transaction.check (.ofOption row.ownerJson.decode (.json "invalid owner"))
    match owner.coordinatorKey with
    | none => backfillRows rows
    | some coordinatorKey =>
      Transaction.write
        (fun mailbox => mailbox.update
          (fun other => other.mailboxId = row.mailboxId && other.coordinatorKey.isNone)
          (fun other => { other with coordinatorKey := some coordinatorKey }))
        Mailbox.sqlite
      backfillRows rows

def backfillCoordinatorKeys : MailboxTransaction Unit := do
  let rows ← Transaction.query fun mailbox =>
    .ok (mailbox.rows.filter MailboxRow.lacksCoordinatorKey)
  backfillRows rows

def claimUnreadForExactOwner (owner : ExactWorkerResultOwnerV1)
    (options : WorkerResultMailboxClaimOptionsV1)
    : MailboxTransaction WorkerResultMailboxClaimBatchV1 := do
  Transaction.check (validateClaimOptions options)
  let ownerKey ← Transaction.check owner.ownerKey
  claimUnreadForScope .ownerKey ownerKey options

def claimUnreadForCoordinator (owner : ExactWorkerResultOwnerV1)
    (options : WorkerResultMailboxClaimOptionsV1)
    : MailboxTransaction WorkerResultMailboxClaimBatchV1 := do
  Transaction.check (validateClaimOptions options)
  backfillCoordinatorKeys
  let coordinatorKey ← Transaction.check owner.coordinatorKey
  claimUnreadForScope .coordinatorKey coordinatorKey options

def coalescedUnreadForCoordinator (owner : ExactWorkerResultOwnerV1) (limit : Nat)
    : MailboxTransaction (List WorkerResultMailboxRecordV1) := do
  Transaction.check (validateBatchLimit limit)
  backfillCoordinatorKeys
  let coordinatorKey ← Transaction.check owner.coordinatorKey
  Transaction.query fun mailbox =>
    mailbox.recordsForScopeState .coordinatorKey coordinatorKey .unread limit

def acknowledgeClaimForScope (scope : MailboxScope) (key claimToken : String) (nowMs : Int)
    : MailboxTransaction WorkerResultMailboxTransitionV1 := do
  let alreadyAcknowledged ← Transaction.query fun mailbox =>
    .ok (mailbox.countRecordsForScopeClaimState scope key claimToken .acknowledged)
  let hits := fun row => scope.holds key row && MailboxRow.isClaimedBy claimToken row
  let transitioned ← Transaction.query fun mailbox => .ok (mailbox.changed hits)
  Transaction.write (fun mailbox => mailbox.update hits (MailboxRow.acknowledge nowMs)) Mailbox.sqlite
  return {
    matchedRecords := alreadyAcknowledged + transitioned
    transitionedRecords := transitioned }

def releaseClaimForScope (scope : MailboxScope) (key claimToken : String) (nowMs : Int)
    : MailboxTransaction WorkerResultMailboxTransitionV1 := do
  let matched ← Transaction.query fun mailbox =>
    .ok (mailbox.countRecordsForScopeClaimState scope key claimToken .claimed)
  let hits := fun row => scope.holds key row && MailboxRow.isClaimedBy claimToken row
  let transitioned ← Transaction.query fun mailbox => .ok (mailbox.changed hits)
  Transaction.write (fun mailbox => mailbox.update hits (MailboxRow.release nowMs)) Mailbox.sqlite
  return {
    matchedRecords := matched
    transitionedRecords := transitioned }

def validateTransition (claimToken : String) (nowMs : Int)
    : Except WorkerResultMailboxError Unit := do
  validateIdentifier "claimToken" claimToken
  validateTimestamp "nowMs" nowMs

def acknowledgeCoordinatorClaim (owner : ExactWorkerResultOwnerV1) (claimToken : String)
    (nowMs : Int)
    : MailboxTransaction WorkerResultMailboxTransitionV1 := do
  Transaction.check (validateTransition claimToken nowMs)
  let coordinatorKey ← Transaction.check owner.coordinatorKey
  acknowledgeClaimForScope .coordinatorKey coordinatorKey claimToken nowMs

def releaseCoordinatorClaim (owner : ExactWorkerResultOwnerV1) (claimToken : String) (nowMs : Int)
    : MailboxTransaction WorkerResultMailboxTransitionV1 := do
  Transaction.check (validateTransition claimToken nowMs)
  let coordinatorKey ← Transaction.check owner.coordinatorKey
  releaseClaimForScope .coordinatorKey coordinatorKey claimToken nowMs

def acknowledgeClaim (owner : ExactWorkerResultOwnerV1) (claimToken : String) (nowMs : Int)
    : MailboxTransaction WorkerResultMailboxTransitionV1 := do
  Transaction.check (validateTransition claimToken nowMs)
  let ownerKey ← Transaction.check owner.ownerKey
  acknowledgeClaimForScope .ownerKey ownerKey claimToken nowMs

def releaseClaim (owner : ExactWorkerResultOwnerV1) (claimToken : String) (nowMs : Int)
    : MailboxTransaction WorkerResultMailboxTransitionV1 := do
  Transaction.check (validateTransition claimToken nowMs)
  let ownerKey ← Transaction.check owner.ownerKey
  releaseClaimForScope .ownerKey ownerKey claimToken nowMs

def sortIds (ids : List Nat) : List Nat :=
  ids.insertionSort (· ≤ ·)

def Mailbox.claimedRecord (mailbox : Mailbox) (coordinatorKey : String) (claimTokens : List String)
    (mailboxId : Nat)
    : Except WorkerResultMailboxError WorkerResultMailboxRecordV1 := do
  let row ← .ofOption (mailbox.find mailboxId) (.sqlite "Query returned no rows")
  .require (!(row.coordinatorKey ≠ some coordinatorKey || row.state ≠ .claimed
      || !row.claimToken.any claimTokens.contains))
    (.invalidInput s!"mailboxId {mailboxId} is not claimed by this coordinator intent")
  row.decode

def recordLe (left right : WorkerResultMailboxRecordV1) : Prop :=
  left.terminalAtMs < right.terminalAtMs
    ∨ (left.terminalAtMs = right.terminalAtMs ∧ left.mailboxId ≤ right.mailboxId)

instance : DecidableRel recordLe := fun left right =>
  inferInstanceAs (Decidable (left.terminalAtMs < right.terminalAtMs
    ∨ (left.terminalAtMs = right.terminalAtMs ∧ left.mailboxId ≤ right.mailboxId)))

def claimedRecordsForCoordinatorIntent (owner : ExactWorkerResultOwnerV1) (mailboxIds : List Nat)
    (claimTokens : List String) (mailbox : Mailbox)
    : Except WorkerResultMailboxError (List WorkerResultMailboxRecordV1) := do
  .require (!(mailboxIds = [] || mailboxIds.length > maxMailboxBatchItems))
    (.invalidInput "mailboxIds must contain between 1 and 100 entries")
  .require (!(claimTokens = [] || claimTokens.length > maxMailboxBatchItems))
    (.invalidInput "claimTokens must contain between 1 and 100 entries")
  let coordinatorKey ← owner.coordinatorKey
  let uniqueIds := (sortIds mailboxIds).destutter (· ≠ ·)
  .require (uniqueIds.length = mailboxIds.length) (.invalidInput "mailboxIds contains duplicates")
  let records ← uniqueIds.mapM (mailbox.claimedRecord coordinatorKey claimTokens)
  return records.insertionSort recordLe

end Coordinator
