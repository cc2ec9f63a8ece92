import AgentHarness.Lib.Io
import AgentHarness.Lane

/-!
Who a worker result belongs to and what it says: the exact owner with its keys, the legacy owner and
the result envelope, each with its validation.
-/

namespace Coordinator

def workerResultMailboxSchema : String := "agent-harness.worker-result-mailbox.v1"
def workerResultOwnerSchema : String := "agent-harness.worker-result-owner.v1"
def legacyWorkerResultOwnerSchema : String :=
  "agent-harness.worker-result-owner.legacy-incomplete.v0"
def workerResultEnvelopeSchema : String := "agent-harness.worker-result-envelope.v1"
def maxResultSummaryBytes : Nat := 4 * 1024
def maxResultArtifacts : Nat := 16
def maxMailboxReferenceBytes : Nat := 1024

def ownerHashDomain : String := "agent-harness/worker-result-owner/v1"
def coordinatorHashDomain : String := "agent-harness/worker-result-coordinator/v1"

inductive WorkerResultMailboxError where
  | sqlite (reason : String)
  | json (reason : String)
  | invalidInput (reason : String)
  | invalidStoredData (reason : String)
  | idempotencyConflict (terminalEventKey : String)
  | claimTokenConflict (claimToken : String)
  deriving DecidableEq

def WorkerResultMailboxError.message (self : WorkerResultMailboxError) : String :=
  match self with
  | .sqlite error => s!"mailbox SQLite error: {error}"
  | .json error => s!"mailbox JSON error: {error}"
  | .invalidInput reason => s!"invalid mailbox input: {reason}"
  | .invalidStoredData reason => s!"invalid stored mailbox record: {reason}"
  | .idempotencyConflict terminalEventKey =>
    s!"terminal event key `{terminalEventKey}` already binds different mailbox content"
  | .claimTokenConflict claimToken =>
    s!"claim token `{claimToken}` is already bound to another owner or claimant"

/-
The text of a JSON column: the serialization of a value, or a text that does not deserialize.
-/
inductive Stored (α : Type) where
  | of (value : α)
  | undecodable (text : String)
  deriving DecidableEq

def Stored.decode {α : Type} (self : Stored α) : Option α :=
  match self with
  | .of value => some value
  | .undecodable _ => none

def validateTimestamp (field : String) (value : Int) : Except WorkerResultMailboxError Unit :=
  .require (0 ≤ value) (.invalidInput s!"{field} cannot be negative")

-- `required` is `true` at every call
def validateIdentifier (field value : String) : Except WorkerResultMailboxError Unit := do
  .require (value ≠ "") (.invalidInput s!"{field} is empty")
  .require (value = Text.trim value) (.invalidInput s!"{field} is not canonical")
  let bytes := value.utf8ByteSize
  .require (bytes ≤ maxMailboxReferenceBytes)
    (.invalidInput s!"{field} is {bytes} bytes; maximum is {maxMailboxReferenceBytes}")
  .require (!value.toList.any Text.isControl)
    (.invalidInput s!"{field} contains a control character")

def validateOptionalIdentifier (field : String) (value : Option String)
    : Except WorkerResultMailboxError Unit :=
  match value with
  | none => .ok ()
  | some value => validateIdentifier field value

def hashNamedComponents (domain : String) (components : List (String × String)) : String :=
  let bytes := components.foldl (fun bytes component =>
    Lane.appendComponent bytes component.1 component.2) (Lane.appendComponent [] "domain" domain)
  Text.hex (Sha256.digest bytes)

structure ExactWorkerResultOwnerV1 where
  schema : String
  lane : Lane.FullLaneKeyV1
  virtualSessionId : String
  parentWorkerJobId : Option String
  parentQueueId : Option String
  sourceQueueId : String
  operationPlanId : Option String
  operationPlanItemId : Option String
  deriving DecidableEq

namespace ExactWorkerResultOwnerV1

variable (self : ExactWorkerResultOwnerV1)

def invalidLane {α : Type} (result : Except Lane.FullLaneKeyError α)
    : Except WorkerResultMailboxError α :=
  result.mapError fun error => .invalidInput ("invalid full lane: " ++ error.message)

def validate : Except WorkerResultMailboxError Unit := do
  let schema := self.schema
  .require (schema = workerResultOwnerSchema)
    (.invalidInput s!"unsupported exact owner schema `{schema}`")
  invalidLane self.lane.validate
  .require (!self.lane.hasLegacyUnknowns)
    (.invalidInput "exact mailbox owner contains legacy-unknown lane axes")
  validateIdentifier "virtualSessionId" self.virtualSessionId
  validateOptionalIdentifier "parentWorkerJobId" self.parentWorkerJobId
  validateOptionalIdentifier "parentQueueId" self.parentQueueId
  validateIdentifier "sourceQueueId" self.sourceQueueId
  validateOptionalIdentifier "operationPlanId" self.operationPlanId
  validateOptionalIdentifier "operationPlanItemId" self.operationPlanItemId
  .require (!(self.operationPlanItemId.isSome && self.operationPlanId.isNone))
    (.invalidInput "operationPlanItemId requires operationPlanId")

def ownerKey : Except WorkerResultMailboxError String := do
  self.validate
  let laneHash ← invalidLane self.lane.identityHash
  return hashNamedComponents ownerHashDomain [
    ("schema", self.schema),
    ("laneHash", laneHash),
    ("virtualSessionId", self.virtualSessionId),
    ("parentWorkerJobId", self.parentWorkerJobId.getD ""),
    ("parentQueueId", self.parentQueueId.getD ""),
    ("sourceQueueId", self.sourceQueueId),
    ("operationPlanId", self.operationPlanId.getD ""),
    ("operationPlanItemId", self.operationPlanItemId.getD "")]

def coordinatorKey : Except WorkerResultMailboxError String := do
  self.validate
  let parentQueueId ← .ofOption self.parentQueueId
    (.invalidInput "exact coordinator owner requires parentQueueId")
  let laneHash ← invalidLane self.lane.identityHash
  return hashNamedComponents coordinatorHashDomain [
    ("schema", self.schema),
    ("laneHash", laneHash),
    ("virtualSessionId", self.virtualSessionId),
    ("parentWorkerJobId", self.parentWorkerJobId.getD ""),
    ("parentQueueId", parentQueueId),
    ("operationPlanId", self.operationPlanId.getD ""),
    ("operationPlanItemId", self.operationPlanItemId.getD "")]

end ExactWorkerResultOwnerV1

inductive LegacyOwnerMissingAxisV1 where
  | platform
  | accountId
  | channelId
  | userId
  | agentId
  | runtimeClass
  | rootVirtualSession
  | concreteSession
  | virtualSessionId
  | sourceQueueId
  deriving DecidableEq

structure LegacyIncompleteWorkerResultOwnerV0 where
  schema : String
  legacyOwnerRef : String
  lane : Option Lane.FullLaneKeyV1
  virtualSessionId : Option String
  parentWorkerJobId : Option String
  parentQueueId : Option String
  sourceQueueId : Option String
  operationPlanId : Option String
  operationPlanItemId : Option String
  missingIdentityAxes : List LegacyOwnerMissingAxisV1
  deriving DecidableEq

def LegacyIncompleteWorkerResultOwnerV0.validate (self : LegacyIncompleteWorkerResultOwnerV0)
    : Except WorkerResultMailboxError Unit := do
  let schema := self.schema
  .require (schema = legacyWorkerResultOwnerSchema)
    (.invalidInput s!"unsupported legacy owner schema `{schema}`")
  validateIdentifier "legacyOwnerRef" self.legacyOwnerRef
  match self.lane with
  | none => pure ()
  | some lane =>
    lane.validate.mapError fun error =>
      .invalidInput ("invalid legacy full lane: " ++ error.message)
  validateOptionalIdentifier "virtualSessionId" self.virtualSessionId
  validateOptionalIdentifier "parentWorkerJobId" self.parentWorkerJobId
  validateOptionalIdentifier "parentQueueId" self.parentQueueId
  validateOptionalIdentifier "sourceQueueId" self.sourceQueueId
  validateOptionalIdentifier "operationPlanId" self.operationPlanId
  validateOptionalIdentifier "operationPlanItemId" self.operationPlanItemId
  .require (!self.missingIdentityAxes.isEmpty)
    (.invalidInput "legacy incomplete owner must identify at least one missing identity axis")
  .require self.missingIdentityAxes.Nodup
    (.invalidInput "legacy incomplete owner repeats a missing identity axis")

inductive WorkerResultOwnerV1 where
  | exact (owner : ExactWorkerResultOwnerV1)
  | legacyIncomplete (owner : LegacyIncompleteWorkerResultOwnerV0)
  deriving DecidableEq

inductive OwnerKind where
  | exact
  | legacyIncomplete
  deriving DecidableEq

namespace WorkerResultOwnerV1

def validate (self : WorkerResultOwnerV1) : Except WorkerResultMailboxError Unit :=
  match self with
  | .exact owner => owner.validate
  | .legacyIncomplete owner => owner.validate

def isAutoResumable (self : WorkerResultOwnerV1) : Bool :=
  match self with
  | .exact _ => true
  | .legacyIncomplete _ => false

def ownerKind (self : WorkerResultOwnerV1) : OwnerKind :=
  match self with
  | .exact _ => .exact
  | .legacyIncomplete _ => .legacyIncomplete

def ownerKey (self : WorkerResultOwnerV1) : Except WorkerResultMailboxError (Option String) :=
  match self with
  | .exact owner => owner.ownerKey.map some
  | .legacyIncomplete _ => .ok none

end WorkerResultOwnerV1

inductive WorkerResultOutcomeV1 where
  | succeeded
  | failed
  | canceled
  | expired
  deriving DecidableEq

inductive WorkerResultContentPolicyV1 where
  | redactedSummaryAndOpaquePointersOnly
  deriving DecidableEq

inductive WorkerResultArtifactKindV1 where
  | terminalReceipt
  | transcript
  | trajectory
  | diff
  | testReport
  | audit
  | artifact
  deriving DecidableEq

structure WorkerResultArtifactPointerV1 where
  kind : WorkerResultArtifactKindV1
  reference : String
  sha256 : Option String
  deriving DecidableEq

def validateOpaqueArtifactReference (value : String) : Except WorkerResultMailboxError Unit := do
  validateIdentifier "artifact reference" value
  .require (["artifact:", "receipt:", "harness:", "sha256:"].any (Text.startsWith · value))
    (.invalidInput
      "artifact reference must use artifact:, receipt:, harness:, or sha256: opaque scheme")
  .require (!(["..", "\\", "@", "?", "#"].any (Text.contains value)))
    (.invalidInput
      "artifact reference contains path traversal, credentials, or query material")

def validateSha256 (field value : String) : Except WorkerResultMailboxError Unit :=
  .require (value.utf8ByteSize = 64 && value.toList.all Text.isLowerHexdigit)
    (.invalidInput s!"{field} must be a lowercase hexadecimal SHA-256 digest")

def WorkerResultArtifactPointerV1.validate (self : WorkerResultArtifactPointerV1)
    : Except WorkerResultMailboxError Unit := do
  validateOpaqueArtifactReference self.reference
  match self.sha256 with
  | none => pure ()
  | some sha256 => validateSha256 "artifact sha256" sha256

structure WorkerResultEnvelopeV1 where
  schema : String
  outcome : WorkerResultOutcomeV1
  contentPolicy : WorkerResultContentPolicyV1
  redactedSummary : String
  artifacts : List WorkerResultArtifactPointerV1
  deriving DecidableEq

namespace WorkerResultEnvelopeV1

def validate (self : WorkerResultEnvelopeV1) : Except WorkerResultMailboxError Unit := do
  let schema := self.schema
  .require (schema = workerResultEnvelopeSchema)
    (.invalidInput s!"unsupported result envelope schema `{schema}`")
  .require (self.redactedSummary ≠ "") (.invalidInput "redactedSummary is empty")
  let bytes := self.redactedSummary.utf8ByteSize
  .require (bytes ≤ maxResultSummaryBytes)
    (.invalidInput s!"redactedSummary is {bytes} bytes; maximum is {maxResultSummaryBytes}")
  .require (!self.redactedSummary.toList.any Text.isControl)
    (.invalidInput ("redactedSummary contains a control character; "
      ++ "detailed output belongs in an opaque artifact"))
  let pointers := self.artifacts.length
  .require (pointers ≤ maxResultArtifacts)
    (.invalidInput s!"result contains {pointers} artifact pointers; maximum is {maxResultArtifacts}")
  self.artifacts.forM WorkerResultArtifactPointerV1.validate

def new (outcome : WorkerResultOutcomeV1) (redactedSummary : String)
    (artifacts : List WorkerResultArtifactPointerV1)
    : Except WorkerResultMailboxError WorkerResultEnvelopeV1 := do
  let envelope : WorkerResultEnvelopeV1 := {
    schema := workerResultEnvelopeSchema
    outcome
    contentPolicy := .redactedSummaryAndOpaquePointersOnly
    redactedSummary
    artifacts }
  envelope.validate
  return envelope

end WorkerResultEnvelopeV1

theorem coordinatorKey_validate {owner : ExactWorkerResultOwnerV1} {key : String}
    (h : owner.coordinatorKey = .ok key)
    : owner.validate = .ok () := by
  unfold ExactWorkerResultOwnerV1.coordinatorKey at h
  simp only [Except.bind_eq_ok] at h
  cases h with
  | intro u h => exact h.1

end Coordinator
