import AgentHarness.Lib.Io
import AgentHarness.Lib.Json

/-!
The receipts from which the lineages of the backend goals are read: projections of a goal, authorities of a
virtual session and supersessions of one lineage by another.
-/

namespace GoalLineage

def goalLineageSchema : String := "agent-harness.goal-lineage.v1"
def goalLineageDoctorSchema : String := "agent-harness.goal-lineage-doctor.v1"
def goalLineageSupersessionSchema : String := "agent-harness.goal-lineage-supersession.v1"

inductive GoalLineageDoctorStatus where
  | ready
  | empty
  | reconciliationRequired
  | blocked

inductive GoalLineageDisposition where
  | runnable
  | inactive
  | superseded
  | staleGeneration
  | missingAuthority
  | invalidIdentity
  deriving DecidableEq

inductive GoalProjectionObservationPhaseV1 where
  | resumeSettle
  | ownedTurn
  | goalRehydration
  | compactMaintenance
  | stdoutRecovery
  | governedClosure
  | legacyUnknown
  deriving DecidableEq

inductive GoalProjectionTurnRelationV1 where
  | currentOwnedTurn
  | explicitCampaignContinuation
  | historicalThreadState
  | authoritativeGoalClosure
  | uncorrelated
  deriving DecidableEq

structure GoalProjectionReceipt where
  queueId : Option String
  sessionKey : String
  sourceThreadId : String
  sourceTurnId : Option String
  goalReference : String
  backendGoalRef : Option String
  laneDigest : Option String
  backendContextGeneration : Option String
  objective : String
  status : String
  observationPhase : GoalProjectionObservationPhaseV1
  turnRelation : GoalProjectionTurnRelationV1
  sourceFinalEligible : Bool
  goalChecksum : String
  projectionChecksum : String
  projectionComplete : Bool
  observationOrder : Nat
  observedAtMs : Int
  deriving DecidableEq

structure VirtualSessionAuthorityReceipt where
  queueId : Option String
  virtualSessionId : String
  workingSessionKey : String
  laneDigest : String
  backendContextGeneration : Option String
  status : String
  updatedAtMs : Int

structure GoalLineageSupersessionV1 where
  schema : String
  supersessionId : String
  campaignFamilyId : String
  winnerLineageId : String
  supersededLineageId : String
  laneDigest : String
  virtualSessionId : String
  reason : String
  recordedAtMs : Int

structure GoalLineageV1 where
  schema : String
  lineageId : String
  campaignFamilyId : String
  queueId : Option String
  sourceSessionKey : String
  virtualSessionId : Option String
  laneDigest : Option String
  backendContextGeneration : Option String
  sourceThreadId : String
  sourceTurnId : Option String
  goalReference : String
  backendGoalRef : Option String
  objectiveChecksum : String
  goalChecksum : String
  projectionChecksum : String
  goalStatus : String
  observationPhase : GoalProjectionObservationPhaseV1
  turnRelation : GoalProjectionTurnRelationV1
  sourceFinalEligible : Bool
  observationOrder : Nat
  observedAtMs : Int
  authorityObservedAtMs : Option Int
  disposition : GoalLineageDisposition
  runnable : Bool
  supersededByLineageId : Option String
  reason : String

structure GoalLineageCampaignV1 where
  campaignFamilyId : String
  objectiveChecksum : String
  laneDigest : Option String
  virtualSessionId : Option String
  activeLineages : Nat
  runnableLineages : Nat
  unresolvedActiveLineages : Nat
  canonicalLineageId : Option String
  reconciliationRequired : Bool

def isActiveStatus (status : String) : Bool :=
  let kept := (Text.toAsciiLowercase (Text.trim status)).toList.filter fun ch =>
    ch ≠ '-' && ch ≠ '_' && ch ≠ ' '
  let status := String.ofList kept
  status = "active" || status = "running" || status = "inprogress"

def projectionGoalIdentity (projection : GoalProjectionReceipt) : String :=
  match projection.backendGoalRef.filter fun value => !TextFile.isBlank value with
  | some value => value
  | none =>
    if TextFile.isBlank projection.goalReference then
      projection.goalChecksum
    else
      projection.goalReference

def isAuthoritativeTerminalClosure (projection : GoalProjectionReceipt) : Bool :=
  projection.observationPhase = .governedClosure
    && projection.turnRelation = .authoritativeGoalClosure
    && !projection.sourceFinalEligible
    && !isActiveStatus projection.status

def projectionSourceFinalIsEligible (claimedEligible : Bool)
    (observationPhase : GoalProjectionObservationPhaseV1)
    (turnRelation : GoalProjectionTurnRelationV1)
    : Bool :=
  claimedEligible
    && observationPhase ≠ .legacyUnknown
    && (turnRelation = .currentOwnedTurn || turnRelation = .explicitCampaignContinuation)

-- the separator `\u{1f}` of the keys
def unitSeparator : String := String.singleton (Char.ofNat 0x1f)

def authorityKey (queueId : Option String) (sessionKey : String) : String :=
  queueId.getD "" ++ unitSeparator ++ sessionKey

def GoalProjectionReceipt.key (self : GoalProjectionReceipt) : String :=
  self.sourceThreadId ++ unitSeparator ++ self.backendContextGeneration.getD ""
    ++ unitSeparator ++ projectionGoalIdentity self

def GoalProjectionReceipt.authorityKey (self : GoalProjectionReceipt) : String :=
  GoalLineage.authorityKey self.queueId self.sessionKey

def VirtualSessionAuthorityReceipt.key (self : VirtualSessionAuthorityReceipt) : String :=
  GoalLineage.authorityKey self.queueId self.workingSessionKey

def replacesProjection (current incoming : GoalProjectionReceipt) : Bool :=
  let currentIsClosure := isAuthoritativeTerminalClosure current
  let incomingIsClosure := isAuthoritativeTerminalClosure incoming
  (incomingIsClosure && !currentIsClosure)
    || (incomingIsClosure = currentIsClosure
      && (current.observedAtMs < incoming.observedAtMs
        || (current.observedAtMs = incoming.observedAtMs
          && current.observationOrder ≤ incoming.observationOrder)))

def replacesAuthority (current incoming : VirtualSessionAuthorityReceipt) : Bool :=
  current.updatedAtMs ≤ incoming.updatedAtMs

def familyPayload (laneDigest virtualSessionId : Option String) (objectiveChecksum : String)
    : Json :=
  .object [
    ("laneDigest", .ofOption laneDigest),
    ("objectiveChecksum", .string objectiveChecksum),
    ("virtualSessionId", .ofOption virtualSessionId)]

def lineagePayload (campaignFamilyId : String) (backendContextGeneration : Option String)
    (sourceThreadId goalReference : String)
    : Json :=
  .object [
    ("backendContextGeneration", .ofOption backendContextGeneration),
    ("campaignFamilyId", .string campaignFamilyId),
    ("goalReference", .string goalReference),
    ("sourceThreadId", .string sourceThreadId)]

def supersessionPayload (campaignFamilyId winnerLineageId supersededLineageId : String) : Json :=
  .object [
    ("campaignFamilyId", .string campaignFamilyId),
    ("supersededLineageId", .string supersededLineageId),
    ("winnerLineageId", .string winnerLineageId)]

def lineageLe (left right : GoalLineageV1) : Prop :=
  left.campaignFamilyId < right.campaignFamilyId
    ∨ (left.campaignFamilyId = right.campaignFamilyId
      ∧ (left.observedAtMs < right.observedAtMs
        ∨ (left.observedAtMs = right.observedAtMs ∧ Text.le left.lineageId right.lineageId)))

instance : DecidableRel lineageLe := fun left right =>
  inferInstanceAs (Decidable (left.campaignFamilyId < right.campaignFamilyId ∨ _))

end GoalLineage
