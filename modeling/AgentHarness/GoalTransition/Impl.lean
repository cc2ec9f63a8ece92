import AgentHarness.Lib.Text

/-!
The decision at the end of a goal slice: what becomes of the campaign, which surface the answer may
use and whether the harness goes on by itself.
-/

namespace GoalTransition

def goalTransitionSchema : String := "agent-harness.goal-transition.v1"
def goalSliceSchema : String := "agent-harness.goal-slice.v1"

inductive EventKind where
  | normalCompletion
  | drainCompletion
  | absoluteTimeout
  | idleTimeout
  | toolTimeout
  | compactRollover
  | authDeferred
  | authorityBoundary
  | processRestart
  | operatorStop
  | newerSteer
  | olderCompletion
  | runtimeFailure
  deriving DecidableEq

inductive Authority where
  | notApplicable
  | ready
  | missing
  | stale
  | conflict
  | invalid
  deriving DecidableEq

def Authority.debug (self : Authority) : String :=
  match self with
  | .notApplicable => "NotApplicable"
  | .ready => "Ready"
  | .missing => "Missing"
  | .stale => "Stale"
  | .conflict => "Conflict"
  | .invalid => "Invalid"

inductive Relation where
  | currentGoalSlice
  | authorizedCampaignContinuation
  | freshUnrelatedTurn
  | historicalState
  | unproven
  deriving DecidableEq

inductive CorrelationSource where
  | backendGoal
  | durableContinuation
  | none
  deriving DecidableEq

inductive Decision where
  | continue
  | complete
  | pause
  | stop
  | needsUser
  | needsAuthority
  | needsOperatorAuth
  | rollover
  | budgetExhausted
  | noProgressExhausted
  | failed
  deriving DecidableEq

inductive Surface where
  | campaignFinal
  | ordinaryFinal
  | progressOnly
  | terminalNotice
  | failureNotice
  | suppressStale
  deriving DecidableEq

structure Input where
  queueId : Option String
  event : EventKind
  runtimeStatus : String
  runtimeReason : String
  goalStatus : Option String
  lineageId : Option String
  campaignFamilyId : Option String
  laneDigest : Option String
  virtualSessionId : Option String
  backendContextGeneration : Option String
  sourceThreadId : Option String
  sourceTurnId : Option String
  backendGoalRef : Option String
  correlationSource : CorrelationSource
  goalChecksum : Option String
  sourceSliceGeneration : Nat
  decisionGeneration : Nat
  authority : Authority
  relation : Relation
  retryableFailure : Bool
  contextRolloverRequired : Bool
  budgetExhausted : Bool
  noProgressExhausted : Bool
  observedAtMs : Int

-- the part of a receipt that `evaluateGoalTransition` decides
structure Transition where
  decision : Decision
  surface : Surface
  scheduleContinuation : Bool
  terminal : Bool
  reason : String
  deriving DecidableEq

structure GoalTransitionReceiptV1 extends Transition where
  schema : String
  sliceSchema : String
  queueId : Option String
  event : EventKind
  runtimeStatus : String
  runtimeReason : String
  goalStatus : Option String
  lineageId : Option String
  campaignFamilyId : Option String
  laneDigest : Option String
  virtualSessionId : Option String
  backendContextGeneration : Option String
  sourceThreadId : Option String
  sourceTurnId : Option String
  backendGoalRef : Option String
  correlationSource : CorrelationSource
  goalChecksum : Option String
  sourceSliceGeneration : Nat
  decisionGeneration : Nat
  authority : Authority
  relation : Relation
  allowCampaignFinal : Bool
  observedAtMs : Int
  deriving DecidableEq

def normalizeStatus (value : String) : String :=
  String.ofList ((Text.toAsciiLowercase (Text.trim value)).toList.filter
    fun ch => ch ≠ '-' && ch ≠ '_' && ch ≠ ' ')

namespace Input

def normalizedGoalStatus (self : Input) : String :=
  (self.goalStatus.map normalizeStatus).getD ""

def goalStatusIsActive (self : Input) : Bool :=
  ["active", "running", "inprogress"].contains self.normalizedGoalStatus

def goalStatusIsComplete (self : Input) : Bool :=
  ["completed", "complete", "succeeded", "achieved"].contains self.normalizedGoalStatus

def goalStatusIsPaused (self : Input) : Bool :=
  ["paused", "pause"].contains self.normalizedGoalStatus

def goalStatusIsBlocked (self : Input) : Bool :=
  self.normalizedGoalStatus = "blocked"

def goalStatusIsStopped (self : Input) : Bool :=
  ["stopped", "stop", "canceled", "cancelled"].contains self.normalizedGoalStatus

def goalStatusNeedsUser (self : Input) : Bool :=
  ["needsuser", "needsinput", "needsapproval"].contains self.normalizedGoalStatus

def goalStatusNeedsAuthority (self : Input) : Bool :=
  ["needsauthority", "needsauthorization", "needsauthorisation"].contains self.normalizedGoalStatus

def goalStatusNeedsOperatorAuth (self : Input) : Bool :=
  ["needsoperatorauth", "operatorauthrequired", "authenticationrequired"].contains
    self.normalizedGoalStatus

def goalStatusIsRecognized (self : Input) : Bool :=
  self.goalStatusIsActive || self.goalStatusIsComplete || self.goalStatusIsPaused
    || self.goalStatusIsBlocked || self.goalStatusIsStopped || self.goalStatusNeedsUser
    || self.goalStatusNeedsAuthority || self.goalStatusNeedsOperatorAuth

def campaignRelation (self : Input) : Bool :=
  self.relation = .currentGoalSlice || self.relation = .authorizedCampaignContinuation

def campaignAuthorized (self : Input) : Bool :=
  self.authority = .ready && self.campaignRelation

def activeGoal (self : Input) : Bool :=
  self.goalStatusIsActive && self.campaignAuthorized

end Input

-- a slice that ends while its goal is active
def activeTransition (input : Input) : Transition :=
  match input.event with
  | .compactRollover =>
    ⟨.rollover, .progressOnly, true, false,
      "active goal crosses a verified compact/rollover boundary"⟩
  | .toolTimeout =>
    if input.contextRolloverRequired then
      ⟨.rollover, .progressOnly, true, false,
        "active goal tool timeout requires a fresh context generation"⟩
    else
      goesOn
  | .runtimeFailure =>
    if !input.retryableFailure then
      ⟨.failed, .failureNotice, false, true, "active goal hit a non-retryable runtime failure"⟩
    else
      goesOn
  | _ => goesOn
where
  goesOn : Transition :=
    ⟨.continue, .progressOnly, true, false,
      "slice ended while the authoritative goal remains active"⟩

-- a turn without an active goal
def ordinaryTransition (input : Input) : Transition :=
  match input.event with
  | .normalCompletion | .drainCompletion =>
    ⟨.complete, .ordinaryFinal, false, true,
      "completed non-goal turn owns its normal final surface"⟩
  | .processRestart =>
    if Text.eqIgnoreAsciiCase input.runtimeStatus "completed" then
      ⟨.complete, .ordinaryFinal, false, true,
        "restart reconciliation recovered an already completed non-goal turn"⟩
    else if input.retryableFailure then
      ⟨.continue, .progressOnly, true, false, "restart reconciliation found resumable slice work"⟩
    else
      fails
  | .compactRollover =>
    ⟨.rollover, .progressOnly, true, false,
      "runtime crossed a verified compact/rollover boundary"⟩
  | .absoluteTimeout | .idleTimeout | .toolTimeout | .runtimeFailure =>
    if input.retryableFailure then
      ⟨.continue, .progressOnly, true, false,
        "legacy non-goal work remains retryable under the unified transition"⟩
    else
      fails
  | _ => fails
where
  fails : Transition :=
    ⟨.failed, .failureNotice, false, true,
      "runtime slice failed without an active authoritative goal"⟩

def transition (input : Input) : Transition :=
  if input.event = .newerSteer ∨ input.event = .olderCompletion then
    ⟨.stop, .suppressStale, false, true,
      if input.event = .olderCompletion then
        "a newer authoritative goal lineage suppresses this older slice completion"
      else
        "newer user steer preempts the older slice and suppresses its stale final"⟩
  else if input.event = .operatorStop then
    ⟨.stop, .terminalNotice, false, true,
      "operator stop terminates this goal slice and campaign continuation"⟩
  else if input.event = .authDeferred then
    ⟨.needsOperatorAuth, .progressOnly, false, false,
      "backend auth is not ready; defer without a normal-channel credential or final surface"⟩
  else if input.event = .authorityBoundary then
    ⟨.needsAuthority, .progressOnly, false, false,
      "native Goal continuation crossed a turn boundary without exact current-turn authority"⟩
  else if input.campaignRelation ∧ input.authority ≠ .ready then
    ⟨.needsAuthority, .progressOnly, false, false,
      "goal-correlated work cannot transition because exact authority is "
        ++ input.authority.debug⟩
  else if input.campaignAuthorized ∧ !input.goalStatusIsRecognized then
    ⟨.needsAuthority, .progressOnly, false, false,
      if input.goalStatus.isSome then
        "goal-correlated work has an unrecognized authoritative status `"
          ++ input.normalizedGoalStatus ++ "`"
      else
        "goal-correlated work has no authoritative goal status"⟩
  else if input.goalStatus.isSome ∧ input.relation ≠ .freshUnrelatedTurn
      ∧ !input.campaignAuthorized then
    ⟨.needsAuthority, .progressOnly, false, false,
      "present goal state is not proven to belong to this exact campaign slice"⟩
  else if input.relation ≠ .freshUnrelatedTurn ∧ !input.campaignAuthorized then
    ⟨.needsAuthority, .progressOnly, false, false,
      "non-fresh goal lineage has no authoritative current-slice status"⟩
  else if input.campaignAuthorized ∧ input.goalStatusIsComplete then
    ⟨.complete, .campaignFinal, false, true, "authoritative goal status is complete"⟩
  else if input.campaignAuthorized ∧ input.goalStatusIsPaused then
    ⟨.pause, .terminalNotice, false, true, "authoritative goal status is paused"⟩
  else if input.campaignAuthorized ∧ input.goalStatusIsBlocked then
    ⟨.pause, .terminalNotice, false, true,
      "authoritative goal status is blocked; park without claiming completion"⟩
  else if input.campaignAuthorized ∧ input.goalStatusIsStopped then
    ⟨.stop, .terminalNotice, false, true, "authoritative goal status is stopped"⟩
  else if input.campaignAuthorized ∧ input.goalStatusNeedsUser then
    ⟨.needsUser, .terminalNotice, false, true,
      "authoritative goal status requires user input or authority"⟩
  else if input.campaignAuthorized ∧ input.goalStatusNeedsAuthority then
    ⟨.needsAuthority, .terminalNotice, false, true,
      "authoritative goal status requires additional authority"⟩
  else if input.campaignAuthorized ∧ input.goalStatusNeedsOperatorAuth then
    ⟨.needsOperatorAuth, .terminalNotice, false, true,
      "authoritative goal status requires operator authentication"⟩
  else if input.goalStatusIsActive ∧ input.relation ≠ .freshUnrelatedTurn
      ∧ !input.campaignAuthorized then
    ⟨.needsAuthority, .progressOnly, false, false,
      "active goal cannot transition autonomously because exact authority is "
        ++ input.authority.debug⟩
  else if input.budgetExhausted then
    ⟨.budgetExhausted, .terminalNotice, false, true, "campaign budget is exhausted"⟩
  else if input.noProgressExhausted then
    ⟨.noProgressExhausted, .terminalNotice, false, true,
      "campaign no-progress breaker is exhausted"⟩
  else if input.activeGoal then
    activeTransition input
  else
    ordinaryTransition input

def evaluateGoalTransition (input : Input) : GoalTransitionReceiptV1 :=
  let transition := transition input
  { transition with
    schema := goalTransitionSchema
    sliceSchema := goalSliceSchema
    queueId := input.queueId
    event := input.event
    runtimeStatus := input.runtimeStatus
    runtimeReason := input.runtimeReason
    goalStatus := input.goalStatus
    lineageId := input.lineageId
    campaignFamilyId := input.campaignFamilyId
    laneDigest := input.laneDigest
    virtualSessionId := input.virtualSessionId
    backendContextGeneration := input.backendContextGeneration
    sourceThreadId := input.sourceThreadId
    sourceTurnId := input.sourceTurnId
    backendGoalRef := input.backendGoalRef
    correlationSource := input.correlationSource
    goalChecksum := input.goalChecksum
    sourceSliceGeneration := input.sourceSliceGeneration
    decisionGeneration := input.decisionGeneration
    authority := input.authority
    relation := input.relation
    allowCampaignFinal := transition.surface = .campaignFinal
    observedAtMs := input.observedAtMs }

end GoalTransition
