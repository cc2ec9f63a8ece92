import AgentHarness.Lib.Json
import AgentHarness.Lib.Ledger
import Mathlib.Data.List.Sort

/-!
The intents to close a goal and the receipts of the phases of a closure: what they are made of, and
the identities and checksums that bind their parts.
-/

namespace GoalClosure

def goalClosureIntentSchema : String := "agent-harness.goal-closure-intent.v1"
def goalClosureReceiptSchema : String := "agent-harness.goal-closure-receipt.v1"

def invalidInput (message : String) : IoError := { kind := .invalidInput, message }

def invalidData (message : String) : IoError := { kind := .invalidData, message }

inductive GoalClosureTriggerV1 where
  | operatorHistorical
  | channelStop
  | channelNew
  | recovery
  | unknown
  deriving DecidableEq

def GoalClosureTriggerV1.text (self : GoalClosureTriggerV1) : String :=
  match self with
  | .operatorHistorical => "operator-historical"
  | .channelStop => "channel-stop"
  | .channelNew => "channel-new"
  | .recovery => "recovery"
  | .unknown => "unknown"

inductive GoalClosureDispositionV1 where
  | completed
  | canceled
  | unknown
  deriving DecidableEq

def GoalClosureDispositionV1.text (self : GoalClosureDispositionV1) : String :=
  match self with
  | .completed => "completed"
  | .canceled => "canceled"
  | .unknown => "unknown"

inductive GoalClosurePhaseV1 where
  | intentRecorded
  | backendResultRecorded
  | terminalProjectionRecorded
  | lineageReconciled
  | completed
  | unknown
  deriving DecidableEq

namespace GoalClosurePhaseV1

def ordinal (self : GoalClosurePhaseV1) : Nat :=
  match self with
  | .intentRecorded => 0
  | .backendResultRecorded => 1
  | .terminalProjectionRecorded => 2
  | .lineageReconciled => 3
  | .completed => 4
  | .unknown => 255

def text (self : GoalClosurePhaseV1) : String :=
  match self with
  | .intentRecorded => "intent-recorded"
  | .backendResultRecorded => "backend-result-recorded"
  | .terminalProjectionRecorded => "terminal-projection-recorded"
  | .lineageReconciled => "lineage-reconciled"
  | .completed => "completed"
  | .unknown => "unknown"

end GoalClosurePhaseV1

inductive GoalClosureResultV1 where
  | pending
  | succeeded
  | notApplicable
  | retryableFailure
  | rejected
  | unknown
  deriving DecidableEq

def GoalClosureResultV1.text (self : GoalClosureResultV1) : String :=
  match self with
  | .pending => "pending"
  | .succeeded => "succeeded"
  | .notApplicable => "not-applicable"
  | .retryableFailure => "retryable-failure"
  | .rejected => "rejected"
  | .unknown => "unknown"

structure GoalClosureAuthorityV1 where
  laneDigest : String
  concreteSessionKey : String
  virtualSessionId : String
  backendContextGeneration : String
  sourceThreadId : String
  deriving DecidableEq

def GoalClosureAuthorityV1.toJson (self : GoalClosureAuthorityV1) : Json :=
  .object [
    ("laneDigest", .string self.laneDigest),
    ("concreteSessionKey", .string self.concreteSessionKey),
    ("virtualSessionId", .string self.virtualSessionId),
    ("backendContextGeneration", .string self.backendContextGeneration),
    ("sourceThreadId", .string self.sourceThreadId)]

def validateNonempty (label value : String) : Except IoError Unit :=
  .require (!TextFile.isBlank value) (invalidInput s!"{label} must not be empty")

def validateAuthority (authority : GoalClosureAuthorityV1) : Except IoError Unit := do
  validateNonempty "lane digest" authority.laneDigest
  validateNonempty "concrete session key" authority.concreteSessionKey
  validateNonempty "virtual session ID" authority.virtualSessionId
  validateNonempty "backend context generation" authority.backendContextGeneration
  validateNonempty "source thread ID" authority.sourceThreadId

structure GoalClosureIntentV1 where
  schema : String
  eventKey : String
  closureId : String
  trigger : GoalClosureTriggerV1
  disposition : GoalClosureDispositionV1
  authority : GoalClosureAuthorityV1
  authorityDigest : String
  goalIdentity : String
  goalGeneration : String
  expectedProjectionChecksum : Option String
  callerEffectIdentity : String
  callerEffectDigest : String
  reason : String
  intentChecksum : String

def closureIdentityPayload (authority : GoalClosureAuthorityV1)
    (goalIdentity goalGeneration : String) (disposition : GoalClosureDispositionV1)
    (callerEffectIdentity : String)
    : Json :=
  .object [
    ("laneDigest", .string authority.laneDigest),
    ("concreteSessionKey", .string authority.concreteSessionKey),
    ("virtualSessionId", .string authority.virtualSessionId),
    ("backendContextGeneration", .string authority.backendContextGeneration),
    ("sourceThreadId", .string authority.sourceThreadId),
    ("goalIdentity", .string goalIdentity),
    ("goalGeneration", .string goalGeneration),
    ("disposition", .string disposition.text),
    ("callerEffectIdentity", .string callerEffectIdentity)]

def intentChecksumPayload (closureId : String) (trigger : GoalClosureTriggerV1)
    (disposition : GoalClosureDispositionV1) (authority : GoalClosureAuthorityV1)
    (goalIdentity goalGeneration : String) (expectedProjectionChecksum : Option String)
    (callerEffectIdentity reason : String)
    : Json :=
  .object [
    ("closureId", .string closureId),
    ("trigger", .string trigger.text),
    ("disposition", .string disposition.text),
    ("authority", authority.toJson),
    ("goalIdentity", .string goalIdentity),
    ("goalGeneration", .string goalGeneration),
    ("expectedProjectionChecksum", .ofOption expectedProjectionChecksum),
    ("callerEffectIdentity", .string callerEffectIdentity),
    ("reason", .string reason)]

def closureTargetDigestPayload (authorityDigest goalIdentity goalGeneration : String) : Json :=
  .object [
    ("authorityDigest", .string authorityDigest),
    ("goalIdentity", .string goalIdentity),
    ("goalGeneration", .string goalGeneration)]

def receiptIdPayload (closureId : String) (phase : GoalClosurePhaseV1) : Json :=
  .array [.string closureId, .string phase.text]

def phaseChecksumPayload (closureId intentChecksum : String) (phase : GoalClosurePhaseV1)
    (result : GoalClosureResultV1)
    (projectionChecksum lineageChecksum resultEvidenceDigest : Option String)
    : Json :=
  .object [
    ("closureId", .string closureId),
    ("intentChecksum", .string intentChecksum),
    ("phase", .string phase.text),
    ("result", .string result.text),
    ("projectionChecksum", .ofOption projectionChecksum),
    ("lineageChecksum", .ofOption lineageChecksum),
    ("resultEvidenceDigest", .ofOption resultEvidenceDigest)]

structure GoalClosurePhaseInputV1 where
  result : GoalClosureResultV1
  projectionChecksum : Option String
  lineageChecksum : Option String
  resultEvidenceDigest : Option String
  recordedAtMs : Int

structure GoalClosureReceiptV1 where
  schema : String
  eventKey : String
  receiptId : String
  closureId : String
  intentChecksum : String
  authorityDigest : String
  targetDigest : String
  callerEffectDigest : String
  trigger : GoalClosureTriggerV1
  disposition : GoalClosureDispositionV1
  phase : GoalClosurePhaseV1
  result : GoalClosureResultV1
  projectionChecksum : Option String
  lineageChecksum : Option String
  resultEvidenceDigest : Option String
  phaseChecksum : String
  recordedAtMs : Int

variable (sha256 : CollisionFree)

namespace GoalClosureIntentV1

def new (trigger : GoalClosureTriggerV1) (disposition : GoalClosureDispositionV1)
    (authority : GoalClosureAuthorityV1) (goalIdentity goalGeneration : String)
    (expectedProjectionChecksum : Option String) (callerEffectIdentity reason : String)
    : Except IoError GoalClosureIntentV1 := do
  validateAuthority authority
  validateNonempty "goal identity" goalIdentity
  validateNonempty "goal generation" goalGeneration
  validateNonempty "caller effect identity" callerEffectIdentity
  validateNonempty "reason" reason
  .require (expectedProjectionChecksum.any fun value => !TextFile.isBlank value)
    (invalidInput "goal closure intent requires an expected projection checksum")
  .require (trigger ≠ .unknown) (invalidInput "goal closure trigger must be known")
  .require (disposition ≠ .unknown) (invalidInput "goal closure disposition must be known")
  .require (!((trigger = .channelStop || trigger = .channelNew) && disposition ≠ .canceled))
    (invalidInput "automatic channel-command closure may only cancel a goal")
  let closureId := sha256.checksumJson
    (closureIdentityPayload authority goalIdentity goalGeneration disposition callerEffectIdentity)
  return {
    schema := goalClosureIntentSchema
    eventKey := closureId
    closureId
    trigger
    disposition
    authority
    authorityDigest := sha256.checksumJson authority.toJson
    goalIdentity
    goalGeneration
    expectedProjectionChecksum
    callerEffectIdentity
    callerEffectDigest := sha256.checksumJson (.string callerEffectIdentity)
    reason
    intentChecksum := sha256.checksumJson (intentChecksumPayload closureId trigger disposition
      authority goalIdentity goalGeneration expectedProjectionChecksum callerEffectIdentity
      reason) }

def validate (self : GoalClosureIntentV1) : Except IoError Unit := do
  let rebuilt ← new sha256 self.trigger self.disposition self.authority self.goalIdentity
    self.goalGeneration self.expectedProjectionChecksum self.callerEffectIdentity self.reason
  .require
    (self.schema = goalClosureIntentSchema
      && self.eventKey = self.closureId
      && self.closureId = rebuilt.closureId
      && self.authorityDigest = rebuilt.authorityDigest
      && self.callerEffectDigest = rebuilt.callerEffectDigest
      && self.intentChecksum = rebuilt.intentChecksum)
    (invalidData "goal closure intent identity or checksum validation failed")

end GoalClosureIntentV1

def resultIsValidForPhase (phase : GoalClosurePhaseV1) (result : GoalClosureResultV1) : Bool :=
  match phase with
  | .intentRecorded => result = .pending
  | .backendResultRecorded =>
    result = .succeeded
      || result = .notApplicable
      || result = .retryableFailure
      || result = .rejected
  | .terminalProjectionRecorded => result = .succeeded
  | .lineageReconciled => result = .succeeded
  | .completed => result = .succeeded
  | .unknown => false

def validatePhaseEvidence (phase : GoalClosurePhaseV1) (input : GoalClosurePhaseInputV1)
    : Except IoError Unit := do
  .require (input.result ≠ .unknown) (invalidInput "goal closure result must be known")
  .require (resultIsValidForPhase phase input.result)
    (invalidInput "goal closure result is not valid for this durable phase")
  .require (!(phase = .terminalProjectionRecorded && !input.projectionChecksum.any (· ≠ "")))
    (invalidInput "terminal projection phase requires a projection checksum")
  .require
    (!((phase = .lineageReconciled || phase = .completed) && !input.lineageChecksum.any (· ≠ "")))
    (invalidInput "lineage and completion phases require a lineage checksum")

def sameGoalGeneration (left right : GoalClosureIntentV1) : Bool :=
  left.authority = right.authority
    && left.goalIdentity = right.goalIdentity
    && left.goalGeneration = right.goalGeneration

namespace GoalClosureReceiptV1

def input (self : GoalClosureReceiptV1) : GoalClosurePhaseInputV1 where
  result := self.result
  projectionChecksum := self.projectionChecksum
  lineageChecksum := self.lineageChecksum
  resultEvidenceDigest := self.resultEvidenceDigest
  recordedAtMs := self.recordedAtMs

def isTerminal (self : GoalClosureReceiptV1) : Bool :=
  self.phase = .completed && self.result = .succeeded

end GoalClosureReceiptV1

def validateReceipt (receipt : GoalClosureReceiptV1) : Except IoError Unit := do
  .require (receipt.schema = goalClosureReceiptSchema && receipt.eventKey = receipt.receiptId)
    (invalidData "goal closure receipt schema or event key is invalid")
  let expectedId := sha256.checksumJson (receiptIdPayload receipt.closureId receipt.phase)
  let expectedChecksum := sha256.checksumJson (phaseChecksumPayload receipt.closureId
    receipt.intentChecksum receipt.phase receipt.result receipt.projectionChecksum
    receipt.lineageChecksum receipt.resultEvidenceDigest)
  .require (receipt.receiptId = expectedId && receipt.phaseChecksum = expectedChecksum)
    (invalidData "goal closure receipt identity or checksum validation failed")
  validatePhaseEvidence receipt.phase receipt.input

end GoalClosure

/-!
The two ledgers of goal closures, and the calls that record an intent and the phases of a closure.
-/

namespace GoalClosure

/-
`protected-intents.jsonl` and `receipts.jsonl`. Nobody else writes to them, so a row is read back as
it was written.
-/
structure GoalClosureLedger where
  intents : List GoalClosureIntentV1
  receipts : List GoalClosureReceiptV1

def GoalClosureLedger.empty : GoalClosureLedger where
  intents := []
  receipts := []

inductive GoalClosureAppendDispositionV1 where
  | appended
  | replayed

def appendDisposition (appended : Bool) : GoalClosureAppendDispositionV1 :=
  if appended then .appended else .replayed

structure GoalClosureIntentRecordOutcomeV1 where
  disposition : GoalClosureAppendDispositionV1
  intent : GoalClosureIntentV1

structure GoalClosureReceiptRecordOutcomeV1 where
  disposition : GoalClosureAppendDispositionV1
  receipt : GoalClosureReceiptV1

def duplicateEventKey : IoError := invalidData "duplicate event key in append-only closure ledger"

variable (sha256 : CollisionFree)

def contiguous (expected : Nat) : List GoalClosureReceiptV1 → Except IoError Unit
  | [] => .ok ()
  | receipt :: rest =>
    if receipt.phase.ordinal ≠ expected then
      .error (invalidData "goal closure receipt phases are duplicated or non-contiguous")
    else
      contiguous (expected + 1) rest

def goalClosureReceiptsForId (ledger : GoalClosureLedger) (closureId : String)
    : Except IoError (List GoalClosureReceiptV1) := do
  let receipts := ledger.receipts.filter (·.closureId = closureId)
  receipts.forM (validateReceipt sha256)
  let receipts := receipts.insertionSort fun left right =>
    left.phase.ordinal ≤ right.phase.ordinal
  contiguous 0 receipts
  return receipts

def terminalMatches (ledger : GoalClosureLedger)
    : List GoalClosureIntentV1 → Except IoError (List GoalClosureIntentV1)
  | [] => .ok []
  | stored :: rest => do
    stored.validate sha256
    let receipts ← goalClosureReceiptsForId sha256 ledger stored.closureId
    let later ← terminalMatches ledger rest
    return if receipts.getLast?.any (·.isTerminal) then stored :: later else later

def moreThanOneTerminalClosure : IoError :=
  invalidData "more than one terminal closure exists for the same goal generation"

-- what stands in the ledger before the intent is appended, if its goal generation has been closed
def terminalIntent (ledger : GoalClosureLedger) (intent : GoalClosureIntentV1)
    : Except IoError (Option GoalClosureIntentV1) := do
  intent.validate sha256
  let stored ← terminalMatches sha256 ledger
    (ledger.intents.filter fun stored => sameGoalGeneration stored intent)
  match stored with
  | [] => return none
  | [stored] =>
    stored.validate sha256
    return some stored
  | _ => .error moreThanOneTerminalClosure

def recordGoalClosureIntent (ledger : GoalClosureLedger) (intent : GoalClosureIntentV1)
    : Outcome GoalClosureLedger GoalClosureIntentRecordOutcomeV1 :=
  match terminalIntent sha256 ledger intent with
  | .error e => (ledger, .error e)
  | .ok (some stored) => (ledger, .ok { disposition := .replayed, intent := stored })
  | .ok none =>
    let (intents, appended) := Ledger.appendOnce GoalClosureIntentV1.eventKey ledger.intents intent
    ({ ledger with intents }, do
      let appended ← appended
      let found ← Ledger.findOne GoalClosureIntentV1.eventKey intents intent.eventKey
        duplicateEventKey
      let stored ← .ofOption found (invalidData "goal closure intent append was not durable")
      stored.validate sha256
      .require (stored.intentChecksum = intent.intentChecksum)
        (invalidData "closure ID already exists with a different intent checksum")
      return { disposition := appendDisposition appended, intent := stored })

def newReceipt (intent : GoalClosureIntentV1) (phase : GoalClosurePhaseV1)
    (input : GoalClosurePhaseInputV1)
    : GoalClosureReceiptV1 :=
  let receiptId := sha256.checksumJson (receiptIdPayload intent.closureId phase)
  {
    schema := goalClosureReceiptSchema
    eventKey := receiptId
    receiptId
    closureId := intent.closureId
    intentChecksum := intent.intentChecksum
    authorityDigest := intent.authorityDigest
    targetDigest := sha256.checksumJson (closureTargetDigestPayload intent.authorityDigest
      intent.goalIdentity intent.goalGeneration)
    callerEffectDigest := intent.callerEffectDigest
    trigger := intent.trigger
    disposition := intent.disposition
    phase
    result := input.result
    projectionChecksum := input.projectionChecksum
    lineageChecksum := input.lineageChecksum
    resultEvidenceDigest := input.resultEvidenceDigest
    phaseChecksum := sha256.checksumJson (phaseChecksumPayload intent.closureId
      intent.intentChecksum phase input.result input.projectionChecksum input.lineageChecksum
      input.resultEvidenceDigest)
    recordedAtMs := input.recordedAtMs }

-- `u8::saturating_add`
def expectedOrdinal (latest : Option GoalClosureReceiptV1) : Nat :=
  match latest with
  | none => 0
  | some receipt => min (receipt.phase.ordinal + 1) 255

def validateOrder (receipts : List GoalClosureReceiptV1) (intent : GoalClosureIntentV1)
    (phase : GoalClosurePhaseV1) (input : GoalClosurePhaseInputV1)
    : Except IoError Unit := do
  let latest := receipts.getLast?
  let expected := expectedOrdinal latest
  .require (phase.ordinal ≤ expected)
    (invalidInput "goal closure phases must be recorded in durable causal order")
  .require
    (!(phase.ordinal < expected
      && !receipts.any fun receipt =>
        receipt.closureId = intent.closureId && receipt.phase = phase))
    (invalidData "goal closure receipt ledger has a non-contiguous phase history")
  .require
    (!(phase.ordinal = expected && 1 < phase.ordinal && latest.any (·.result ≠ .succeeded)))
    (invalidInput "goal closure cannot advance past an unsuccessful durable phase")
  .require
    (!(phase.ordinal = expected && phase = .completed
      && latest.bind (·.lineageChecksum) ≠ input.lineageChecksum))
    (invalidInput "completion receipt must retain the reconciled lineage checksum")

def phaseReceipt (ledger : GoalClosureLedger) (intent : GoalClosureIntentV1)
    (phase : GoalClosurePhaseV1) (input : GoalClosurePhaseInputV1)
    : Except IoError GoalClosureReceiptV1 := do
  intent.validate sha256
  let found ← Ledger.findOne GoalClosureIntentV1.eventKey ledger.intents intent.eventKey
    duplicateEventKey
  let recorded ← .ofOption found
    (invalidInput "goal closure intent must be durable before phase receipts")
  recorded.validate sha256
  .require (recorded.intentChecksum = intent.intentChecksum)
    (invalidData "durable closure intent checksum differs from the requested phase")
  let receipts ← goalClosureReceiptsForId sha256 ledger intent.closureId
  validateOrder receipts intent phase input
  validatePhaseEvidence phase input
  return newReceipt sha256 intent phase input

def recordGoalClosurePhase (ledger : GoalClosureLedger) (intent : GoalClosureIntentV1)
    (phase : GoalClosurePhaseV1) (input : GoalClosurePhaseInputV1)
    : Outcome GoalClosureLedger GoalClosureReceiptRecordOutcomeV1 :=
  match phaseReceipt sha256 ledger intent phase input with
  | .error e => (ledger, .error e)
  | .ok receipt =>
    let (receipts, appended) := Ledger.appendOnce GoalClosureReceiptV1.eventKey ledger.receipts receipt
    ({ ledger with receipts }, do
      let appended ← appended
      let found ← Ledger.findOne GoalClosureReceiptV1.eventKey receipts receipt.eventKey
        duplicateEventKey
      let stored ← .ofOption found (invalidData "goal closure receipt append was not durable")
      validateReceipt sha256 stored
      .require (stored.phaseChecksum = receipt.phaseChecksum)
        (invalidData "closure phase already exists with a different checksum")
      return { disposition := appendDisposition appended, receipt := stored })

inductive GoalClosureCall where
  | intent (intent : GoalClosureIntentV1)
  | phase (intent : GoalClosureIntentV1) (phase : GoalClosurePhaseV1)
    (input : GoalClosurePhaseInputV1)

def perform (ledger : GoalClosureLedger) (call : GoalClosureCall)
    : Outcome GoalClosureLedger Unit :=
  match call with
  | .intent intent =>
    (recordGoalClosureIntent sha256 ledger intent).andThen fun ledger _ => (ledger, .ok ())
  | .phase intent phase input =>
    (recordGoalClosurePhase sha256 ledger intent phase input).andThen fun ledger _ =>
      (ledger, .ok ())

def step (ledger : GoalClosureLedger) (call : GoalClosureCall) : GoalClosureLedger :=
  (perform sha256 ledger call).1

end GoalClosure
