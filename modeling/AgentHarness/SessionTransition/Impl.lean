import AgentHarness.GoalClosure.Impl
import AgentHarness.Lib.Run

/-!
The transitions of a channel session that `/stop` and `/new` ask for: the protected intents, the
receipts of their phases, and what binds them.
-/

namespace SessionTransition

open GoalClosure (GoalClosureLedger invalidInput invalidData validateNonempty)

def channelSessionTransitionIntentSchema : String :=
  "agent-harness.channel-session-transition-intent.v1"
def channelSessionTransitionReceiptSchema : String :=
  "agent-harness.channel-session-transition-receipt.v1"

inductive ChannelSessionTransitionCommandV1 where
  | stop
  | new
  deriving DecidableEq

def ChannelSessionTransitionCommandV1.text (self : ChannelSessionTransitionCommandV1) : String :=
  match self with
  | .stop => "stop"
  | .new => "new"

inductive ChannelGoalBoundaryV1 where
  | notApplicable
  | closureProven
  | closurePending
  | ambiguous
  deriving DecidableEq

def ChannelGoalBoundaryV1.text (self : ChannelGoalBoundaryV1) : String :=
  match self with
  | .notApplicable => "not-applicable"
  | .closureProven => "closure-proven"
  | .closurePending => "closure-pending"
  | .ambiguous => "ambiguous"

inductive ChannelSessionTransitionPhaseV1 where
  | intentRecorded
  | goalClosurePending
  | boundaryReady
  | retryPending
  | boundaryCommitted
  deriving DecidableEq

def ChannelSessionTransitionPhaseV1.text (self : ChannelSessionTransitionPhaseV1) : String :=
  match self with
  | .intentRecorded => "intent-recorded"
  | .goalClosurePending => "goal-closure-pending"
  | .boundaryReady => "boundary-ready"
  | .retryPending => "retry-pending"
  | .boundaryCommitted => "boundary-committed"

inductive ChannelSessionAdmissionV1 where
  | «open»
  | holdPendingNew

structure PrepareChannelSessionTransitionOptionsV1 where
  command : ChannelSessionTransitionCommandV1
  laneDigest : String
  oldSessionKey : String
  proposedNewSessionKey : Option String
  topic : Option String
  reason : Option String
  nowMs : Int

structure ChannelSessionTransitionIntentV1 where
  schema : String
  eventKey : String
  transitionId : String
  commandEffectIdentity : String
  command : ChannelSessionTransitionCommandV1
  laneDigest : String
  oldSessionKey : String
  frozenNewSessionKey : Option String
  topic : Option String
  reason : Option String
  goalBoundary : ChannelGoalBoundaryV1
  goalClosureId : Option String
  goalEvidenceDigest : String
  requestedAtMs : Int
  intentChecksum : String

structure ChannelSessionTransitionReceiptV1 where
  schema : String
  eventKey : String
  transitionId : String
  commandEffectIdentity : String
  laneDigest : String
  oldSessionKeyDigest : String
  frozenNewSessionKeyDigest : Option String
  phase : ChannelSessionTransitionPhaseV1
  goalBoundary : ChannelGoalBoundaryV1
  goalClosureId : Option String
  evidenceDigest : String
  recordedAtMs : Int

structure PreparedChannelSessionTransitionV1 where
  intent : ChannelSessionTransitionIntentV1
  replayed : Bool
  boundaryReady : Bool

/-
What the goal of the lane says about a transition. The evidence is a checksum.
-/
structure GoalBoundaryAssessment where
  goalBoundary : ChannelGoalBoundaryV1
  goalClosureId : Option String
  goalEvidenceDigest : String
  evidence : ¬TextFile.isBlank goalEvidenceDigest

def ChannelSessionTransitionIntentV1.boundaryIsReady (self : ChannelSessionTransitionIntentV1)
    : Bool :=
  self.goalBoundary = .notApplicable || self.goalBoundary = .closureProven

def validateOptions (options : PrepareChannelSessionTransitionOptionsV1) : Except IoError Unit := do
  validateNonempty "lane digest" options.laneDigest
  validateNonempty "old session key" options.oldSessionKey
  match options.command, options.proposedNewSessionKey with
  | .new, some value =>
    validateNonempty "frozen new session key" value
    .require (value ≠ options.oldSessionKey)
      (invalidInput "new session transition target must differ from the old session")
  | .new, none => .error (invalidInput "new session transition requires a frozen target")
  | .stop, some _ => .error (invalidInput "stop transition cannot carry a new session target")
  | .stop, none => .ok ()

def transitionIdentityPayload (command : ChannelSessionTransitionCommandV1)
    (laneDigest oldSessionKey : String)
    : Json :=
  .array [.string command.text, .string laneDigest, .string oldSessionKey]

def intentChecksumPayload (intent : ChannelSessionTransitionIntentV1) : Json :=
  .object [
    ("transitionId", .string intent.transitionId),
    ("command", .string intent.command.text),
    ("laneDigest", .string intent.laneDigest),
    ("oldSessionKey", .string intent.oldSessionKey),
    ("frozenNewSessionKey", .ofOption intent.frozenNewSessionKey),
    ("topic", .ofOption intent.topic),
    ("reason", .ofOption intent.reason),
    ("goalBoundary", .string intent.goalBoundary.text),
    ("goalClosureId", .ofOption intent.goalClosureId),
    ("goalEvidenceDigest", .string intent.goalEvidenceDigest)]

def receiptKeyPayload (transitionId : String) (phase : ChannelSessionTransitionPhaseV1)
    (evidenceDigest : String)
    : Json :=
  .array [.string transitionId, .string phase.text, .string evidenceDigest]

variable (sha256 : CollisionFree)

def transitionIdentity (command : ChannelSessionTransitionCommandV1)
    (laneDigest oldSessionKey : String)
    : String :=
  sha256.checksumJson (transitionIdentityPayload command laneDigest oldSessionKey)

def PrepareChannelSessionTransitionOptionsV1.transitionId
    (self : PrepareChannelSessionTransitionOptionsV1)
    : String :=
  transitionIdentity sha256 self.command self.laneDigest self.oldSessionKey

def validateIntent (intent : ChannelSessionTransitionIntentV1) : Except IoError Unit := do
  .require
    (intent.schema = channelSessionTransitionIntentSchema
      && intent.eventKey = intent.transitionId
      && intent.commandEffectIdentity = intent.transitionId)
    (invalidData "session transition intent identity is invalid")
  let expected := transitionIdentity sha256 intent.command intent.laneDigest intent.oldSessionKey
  .require
    (expected = intent.transitionId
      && sha256.checksumJson (intentChecksumPayload intent) = intent.intentChecksum)
    (invalidData "session transition intent checksum is invalid")

def newIntent (options : PrepareChannelSessionTransitionOptionsV1)
    (assessment : GoalBoundaryAssessment)
    : ChannelSessionTransitionIntentV1 :=
  let transitionId := options.transitionId sha256
  let intent : ChannelSessionTransitionIntentV1 := {
    schema := channelSessionTransitionIntentSchema
    eventKey := transitionId
    transitionId
    commandEffectIdentity := transitionId
    command := options.command
    laneDigest := options.laneDigest
    oldSessionKey := options.oldSessionKey
    frozenNewSessionKey :=
      match options.command with
      | .stop => none
      | .new => options.proposedNewSessionKey
    topic := options.topic
    reason := options.reason
    goalBoundary := assessment.goalBoundary
    goalClosureId := assessment.goalClosureId
    goalEvidenceDigest := assessment.goalEvidenceDigest
    requestedAtMs := options.nowMs
    intentChecksum := "" }
  { intent with intentChecksum := sha256.checksumJson (intentChecksumPayload intent) }

end SessionTransition

/-!
The calls that prepare a transition, record its phases and admit messages to a session, and the system
of any number of them: a call reads, appends and reads again, and others come in between.
-/

namespace SessionTransition

open GoalClosure (GoalClosureLedger goalClosureReceiptsForId invalidInput invalidData)

/-
`protected-intents.jsonl` and `receipts.jsonl` of the transitions, and the ledgers of the goal closures
that the transitions wait for. Only the harness writes to them.
-/
structure TransitionStore where
  intents : List ChannelSessionTransitionIntentV1
  receipts : List ChannelSessionTransitionReceiptV1
  closures : GoalClosureLedger

def TransitionStore.empty : TransitionStore where
  intents := []
  receipts := []
  closures := .empty

variable (sha256 : CollisionFree)

def durableGoalBoundaryIsReady (store : TransitionStore) (intent : ChannelSessionTransitionIntentV1)
    : Except IoError Bool :=
  if intent.boundaryIsReady then
    .ok true
  else
    match intent.goalClosureId with
    | none => .ok false
    | some closureId => do
      let receipts ← goalClosureReceiptsForId sha256 store.closures closureId
      return receipts.any (·.isTerminal)

def receiptBoundary (store : TransitionStore) (intent : ChannelSessionTransitionIntentV1)
    (phase : ChannelSessionTransitionPhaseV1)
    : Except IoError ChannelGoalBoundaryV1 :=
  if phase = .boundaryCommitted && intent.goalBoundary = .closurePending then do
    let ready ← durableGoalBoundaryIsReady sha256 store intent
    return if ready then .closureProven else intent.goalBoundary
  else
    .ok intent.goalBoundary

def newReceipt (intent : ChannelSessionTransitionIntentV1)
    (phase : ChannelSessionTransitionPhaseV1) (evidence : String) (recordedAtMs : Int)
    (goalBoundary : ChannelGoalBoundaryV1)
    : ChannelSessionTransitionReceiptV1 :=
  let evidenceDigest := sha256.checksumJson (.string evidence)
  {
    schema := channelSessionTransitionReceiptSchema
    eventKey := sha256.checksumJson (receiptKeyPayload intent.transitionId phase evidenceDigest)
    transitionId := intent.transitionId
    commandEffectIdentity := intent.commandEffectIdentity
    laneDigest := intent.laneDigest
    oldSessionKeyDigest := sha256.checksumJson (.string intent.oldSessionKey)
    frozenNewSessionKeyDigest :=
      intent.frozenNewSessionKey.map fun key => sha256.checksumJson (.string key)
    phase
    goalBoundary
    goalClosureId := intent.goalClosureId
    evidenceDigest
    recordedAtMs }

def recordChannelSessionTransitionPhase (store : TransitionStore)
    (intent : ChannelSessionTransitionIntentV1) (phase : ChannelSessionTransitionPhaseV1)
    (evidence : String) (recordedAtMs : Int)
    : Outcome TransitionStore ChannelSessionTransitionReceiptV1 :=
  let prepared : Except IoError ChannelSessionTransitionReceiptV1 := do
    validateIntent sha256 intent
    .require (!TextFile.isBlank evidence)
      (invalidInput "session transition phase evidence must not be empty")
    let goalBoundary ← receiptBoundary sha256 store intent phase
    return newReceipt sha256 intent phase evidence recordedAtMs goalBoundary
  match prepared with
  | .error e => (store, .error e)
  | .ok receipt =>
    let (receipts, appended) :=
      Ledger.appendOnce ChannelSessionTransitionReceiptV1.eventKey store.receipts receipt
    ({ store with receipts }, appended.map fun _ => receipt)

def findIntent (intents : List ChannelSessionTransitionIntentV1) (transitionId : String)
    : Option ChannelSessionTransitionIntentV1 :=
  intents.find? (·.transitionId = transitionId)

-- up to the assessment of the goal: the answer of a call that finds the intent of its transition
def replayedTransition (store : TransitionStore)
    (options : PrepareChannelSessionTransitionOptionsV1)
    : Except IoError (Option PreparedChannelSessionTransitionV1) := do
  validateOptions options
  match findIntent store.intents (options.transitionId sha256) with
  | none => return none
  | some intent =>
    validateIntent sha256 intent
    let boundaryReady ← durableGoalBoundaryIsReady sha256 store intent
    return some { intent, replayed := true, boundaryReady }

def appendIntent (store : TransitionStore) (intent : ChannelSessionTransitionIntentV1)
    : Outcome TransitionStore Bool :=
  let (intents, appended) :=
    Ledger.appendOnce ChannelSessionTransitionIntentV1.eventKey store.intents intent
  ({ store with intents }, appended)

def storedIntent (store : TransitionStore) (intent : ChannelSessionTransitionIntentV1)
    : Except IoError ChannelSessionTransitionIntentV1 := do
  let stored ← .ofOption (findIntent store.intents intent.transitionId)
    (invalidData "session transition intent append was not durable")
  validateIntent sha256 stored
  .require (stored.intentChecksum = intent.intentChecksum)
    (invalidData "session transition identity already has different protected intent evidence")
  return stored

def settleTransition (store : TransitionStore) (intent : ChannelSessionTransitionIntentV1)
    (appended : Bool) (nowMs : Int)
    : Outcome TransitionStore PreparedChannelSessionTransitionV1 :=
  match storedIntent sha256 store intent with
  | .error e => (store, .error e)
  | .ok stored =>
    let nextPhase := if stored.boundaryIsReady then .boundaryReady else .goalClosurePending
    (recordChannelSessionTransitionPhase sha256 store stored .intentRecorded
      stored.goalEvidenceDigest nowMs).andThen fun store _ =>
    (recordChannelSessionTransitionPhase sha256 store stored nextPhase
      stored.goalEvidenceDigest nowMs).andThen fun store _ =>
    (store, .ok {
      intent := stored
      replayed := !appended
      boundaryReady := stored.boundaryIsReady })

/-
The whole call, when nothing comes in between. `assessment` is what `assess_goal_boundary` answers.
-/
def prepareChannelSessionTransition (store : TransitionStore)
    (options : PrepareChannelSessionTransitionOptionsV1)
    (assessment : Except IoError GoalBoundaryAssessment)
    : Outcome TransitionStore PreparedChannelSessionTransitionV1 :=
  match replayedTransition sha256 store options with
  | .error e => (store, .error e)
  | .ok (some prepared) => (store, .ok prepared)
  | .ok none =>
    match assessment with
    | .error e => (store, .error e)
    | .ok assessment =>
      let intent := newIntent sha256 options assessment
      (appendIntent store intent).andThen fun store appended =>
        settleTransition sha256 store intent appended options.nowMs

def isCommitted (receipts : List ChannelSessionTransitionReceiptV1)
    (intent : ChannelSessionTransitionIntentV1)
    : Bool :=
  receipts.any fun receipt =>
    receipt.transitionId = intent.transitionId && receipt.phase = .boundaryCommitted

def admissionOf (receipts : List ChannelSessionTransitionReceiptV1)
    (laneDigest activeSessionKey : String)
    : List ChannelSessionTransitionIntentV1 → Except IoError ChannelSessionAdmissionV1
  | [] => .ok .open
  | intent :: rest =>
    if intent.command ≠ .new || intent.laneDigest ≠ laneDigest
        || intent.oldSessionKey ≠ activeSessionKey then
      admissionOf receipts laneDigest activeSessionKey rest
    else do
      validateIntent sha256 intent
      if isCommitted receipts intent then
        admissionOf receipts laneDigest activeSessionKey rest
      else
        return .holdPendingNew

def channelSessionTransitionAdmission (store : TransitionStore)
    (laneDigest activeSessionKey : String)
    : Except IoError ChannelSessionAdmissionV1 :=
  admissionOf sha256 store.receipts laneDigest activeSessionKey store.intents.reverse

/-
Where a call is: it has read nothing, holds the intent that it is about to append, or has appended it.
-/
inductive CallState where
  | idle
  | holding (intent : ChannelSessionTransitionIntentV1)
  | appended (intent : ChannelSessionTransitionIntentV1) (appended : Bool)
  | finished (result : Except IoError PreparedChannelSessionTransitionV1)

structure TransitionCall where
  options : PrepareChannelSessionTransitionOptionsV1
  assessment : Except IoError GoalBoundaryAssessment

structure TransitionSystem (ι : Type) where
  store : TransitionStore
  calls : ι → CallState

inductive TransitionAction (ι : Type) where
  | read (i : ι)
  | append (i : ι)
  | settle (i : ι)
  | record (intent : ChannelSessionTransitionIntentV1) (phase : ChannelSessionTransitionPhaseV1)
    (evidence : String) (recordedAtMs : Int)
  | closure (call : GoalClosure.GoalClosureCall)

namespace TransitionSystem

variable {ι : Type} [DecidableEq ι] (calls : ι → TransitionCall)

def start (ι : Type) : TransitionSystem ι where
  store := .empty
  calls _ := .idle

def enter (self : TransitionSystem ι) (i : ι) (state : CallState) : TransitionSystem ι where
  store := self.store
  calls := Function.update self.calls i state

def readState (store : TransitionStore) (call : TransitionCall) : CallState :=
  match replayedTransition sha256 store call.options with
  | .error e => .finished (.error e)
  | .ok (some prepared) => .finished (.ok prepared)
  | .ok none =>
    match call.assessment with
    | .error e => .finished (.error e)
    | .ok assessment => .holding (newIntent sha256 call.options assessment)

def appendState (intent : ChannelSessionTransitionIntentV1) (result : Except IoError Bool)
    : CallState :=
  match result with
  | .error e => .finished (.error e)
  | .ok appended => .appended intent appended

-- an action that is not the next one of its call does nothing
def step (system : TransitionSystem ι) (action : TransitionAction ι) : TransitionSystem ι :=
  match action with
  | .read i =>
    match system.calls i with
    | .idle => system.enter i (readState sha256 system.store (calls i))
    | _ => system
  | .append i =>
    match system.calls i with
    | .holding intent =>
      let (store, result) := appendIntent system.store intent
      { store, calls := Function.update system.calls i (appendState intent result) }
    | _ => system
  | .settle i =>
    match system.calls i with
    | .appended intent appended =>
      let (store, result) :=
        settleTransition sha256 system.store intent appended (calls i).options.nowMs
      { store, calls := Function.update system.calls i (.finished result) }
    | _ => system
  | .record intent phase evidence recordedAtMs =>
    { system with
      store := (recordChannelSessionTransitionPhase sha256 system.store intent phase evidence
        recordedAtMs).1 }
  | .closure call =>
    { system with
      store := { system.store with closures := GoalClosure.step sha256 system.store.closures call } }

end TransitionSystem

end SessionTransition
