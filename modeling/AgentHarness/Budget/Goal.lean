import AgentHarness.Lib.Io
import AgentHarness.Lib.Sha256
import AgentHarness.Lib.Text

/-!
The budget of a goal campaign: every observed slice appends a receipt that carries the totals of its
family on from the family's latest receipt.
-/

namespace GoalBudget

def goalCampaignBudgetSchema : String := "agent-harness.goal-campaign-budget.v1"
def defaultGoalSliceHardTimeoutMs : Nat := 30 * 60 * 1000
def defaultGoalSliceIdleTimeoutMs : Nat := 5 * 60 * 1000
def defaultGoalSliceDrainWindowMs : Nat := 3 * 60 * 1000
def defaultGoalWallClockBudgetMs : Nat := 48 * 60 * 60 * 1000
def defaultGoalMaxSlices : Nat := 96
def defaultGoalMaxTotalTokens : Nat := 100000000
def defaultGoalMaxNoProgressSlices : Nat := 6
def defaultGoalMaxRecoverySlices : Nat := 12

inductive GoalTransitionEventKind where
  | normalCompletion
  | drainCompletion
  | absoluteTimeout
  | idleTimeout
  | toolTimeout
  | compactRollover
  | authDeferred
  | authorityBoundary
  | processRestart
  | operatorStop
  | newerSteer
  | olderCompletion
  | runtimeFailure
  deriving DecidableEq

inductive GoalCampaignBudgetBoundary where
  | withinBudget
  | wallClock
  | sliceCount
  | tokenCost
  | noProgress
  | recoveryCount
  deriving DecidableEq

structure GoalCampaignPolicyV1 where
  mode : String := "observe"
  activeLaneDigests : List String := []
  sliceHardTimeoutMs : Nat := defaultGoalSliceHardTimeoutMs
  sliceIdleTimeoutMs : Nat := defaultGoalSliceIdleTimeoutMs
  sliceDrainWindowMs : Nat := defaultGoalSliceDrainWindowMs
  wallClockBudgetMs : Nat := defaultGoalWallClockBudgetMs
  maxSlices : Nat := defaultGoalMaxSlices
  maxTotalTokens : Nat := defaultGoalMaxTotalTokens
  maxNoProgressSlices : Nat := defaultGoalMaxNoProgressSlices
  maxRecoverySlices : Nat := defaultGoalMaxRecoverySlices

def invalidPolicy (message : String) : IoError where
  kind := .invalidData
  message

def GoalCampaignPolicyV1.validate (self : GoalCampaignPolicyV1) : Except IoError Unit := do
  .require (self.mode ∈ ["disabled", "observe", "active"])
    (invalidPolicy "mode must be disabled, observe, or active")
  .require (30 * 60 * 1000 ≤ self.sliceHardTimeoutMs && self.sliceHardTimeoutMs ≤ 45 * 60 * 1000)
    (invalidPolicy "sliceHardTimeoutMs must be between 30 and 45 minutes")
  .require (!(self.sliceIdleTimeoutMs < 60000
      || self.sliceIdleTimeoutMs ≥ self.sliceHardTimeoutMs))
    (invalidPolicy "sliceIdleTimeoutMs must be at least 60000 and below sliceHardTimeoutMs")
  .require (self.sliceDrainWindowMs = min (self.sliceHardTimeoutMs / 10) (3 * 60 * 1000))
    (invalidPolicy "sliceDrainWindowMs must equal min(sliceHardTimeoutMs / 10, 180000)")
  .require (!(self.wallClockBudgetMs < self.sliceHardTimeoutMs
      || self.wallClockBudgetMs > defaultGoalWallClockBudgetMs))
    (invalidPolicy "wallClockBudgetMs must cover one slice and may not exceed 48 hours")
  .require (!(self.maxSlices = 0
      || self.maxTotalTokens = 0
      || self.maxNoProgressSlices = 0
      || self.maxRecoverySlices = 0))
    (invalidPolicy "campaign slice/token/no-progress/recovery budgets must be non-zero")
  .require (!(self.mode = "active" && self.activeLaneDigests.isEmpty))
    (invalidPolicy "active mode requires at least one exact activeLaneDigests entry")
  .require (!self.activeLaneDigests.any fun value =>
      value.utf8ByteSize ≠ 64 || !value.toList.all Text.isLowerHexdigit)
    (invalidPolicy "activeLaneDigests entries must be lowercase 64-character SHA-256 digests")

structure GoalCampaignBudgetInput where
  campaignFamilyId : String
  laneDigest : String
  virtualSessionId : String
  queueId : Option String
  goalChecksum : Option String
  sourceSliceGeneration : Nat
  event : GoalTransitionEventKind
  sliceElapsedMs : Nat
  sliceTokens : Nat
  outputTokens : Nat
  eventCount : Nat
  runtimeStatus : String
  recoverySlice : Bool
  nowMs : Int
  deriving DecidableEq

structure GoalCampaignBudgetReceiptV1 where
  schema : String
  campaignFamilyId : String
  laneDigest : String
  virtualSessionId : String
  queueId : Option String
  goalChecksum : Option String
  sourceSliceGeneration : Nat
  event : GoalTransitionEventKind
  mode : String
  sliceHardTimeoutMs : Nat
  sliceIdleTimeoutMs : Nat
  sliceDrainWindowMs : Nat
  wallClockBudgetMs : Nat
  maxSlices : Nat
  maxTotalTokens : Nat
  maxNoProgressSlices : Nat
  maxRecoverySlices : Nat
  campaignStartedAtMs : Int
  campaignElapsedMs : Nat
  slicesObserved : Nat
  totalTokensObserved : Nat
  consecutiveNoProgressSlices : Nat
  recoverySlicesObserved : Nat
  sliceElapsedMs : Nat
  sliceTokens : Nat
  progressFingerprint : String
  boundary : GoalCampaignBudgetBoundary
  budgetExhausted : Bool
  noProgressExhausted : Bool
  observedAtMs : Int
  deriving DecidableEq

def GoalCampaignBudgetInput.validate (self : GoalCampaignBudgetInput) : Except IoError Unit :=
  [ ("campaignFamilyId", self.campaignFamilyId),
    ("laneDigest", self.laneDigest),
    ("virtualSessionId", self.virtualSessionId) ].forM fun (name, value) =>
      .require (Text.trim value ≠ "") {
        kind := .invalidData
        message := s!"goal campaign budget lacks exact {name}" }

def progressFingerprint (input : GoalCampaignBudgetInput) : String :=
  let canonical := input.goalChecksum.getD "" ++ "\x1f" ++ toString input.outputTokens ++ "\x1f"
    ++ toString input.eventCount ++ "\x1f" ++ input.runtimeStatus
  Text.hex (Sha256.digest (Text.utf8Bytes canonical))

def readBudgetReceipt (line : Nat) (content : JsonLine GoalCampaignBudgetReceiptV1)
    : Except IoError (Option GoalCampaignBudgetReceiptV1) :=
  match content with
  | .blank => .ok none
  | .malformed error =>
    .error {
      kind := .invalidData
      message := s!"invalid goal campaign budget receipt at line {line}: {error}" }
  | .value receipt =>
    let schema := receipt.schema
    if schema = goalCampaignBudgetSchema then
      .ok (some receipt)
    else
      .error {
        kind := .invalidData
        message := s!"unsupported goal campaign budget schema {schema}" }

def readBudgetReceipts (lines : List (JsonLine GoalCampaignBudgetReceiptV1))
    : Except IoError (List GoalCampaignBudgetReceiptV1) :=
  go 1 lines
where
  go (line : Nat) : List (JsonLine GoalCampaignBudgetReceiptV1)
      → Except IoError (List GoalCampaignBudgetReceiptV1)
    | [] => .ok []
    | content :: rest => do
      let receipt ← readBudgetReceipt line content
      let receipts ← go (line + 1) rest
      return receipt.toList ++ receipts

def isReplay (input : GoalCampaignBudgetInput) (receipt : GoalCampaignBudgetReceiptV1) : Bool :=
  receipt.campaignFamilyId = input.campaignFamilyId
    && receipt.queueId = input.queueId
    && receipt.sourceSliceGeneration = input.sourceSliceGeneration
    && receipt.goalChecksum = input.goalChecksum

def latestOf (receipts : List GoalCampaignBudgetReceiptV1) (campaignFamilyId : String)
    : Option GoalCampaignBudgetReceiptV1 :=
  receipts.reverse.find? fun receipt => receipt.campaignFamilyId = campaignFamilyId

def isRecovery (input : GoalCampaignBudgetInput) : Bool :=
  input.recoverySlice
    || input.event = .compactRollover
    || input.event = .processRestart
    || input.event = .toolTimeout

def boundaryOf (policy : GoalCampaignPolicyV1) (campaignElapsedMs slicesObserved
    totalTokensObserved consecutiveNoProgressSlices recoverySlicesObserved : Nat)
    : GoalCampaignBudgetBoundary :=
  if campaignElapsedMs ≥ policy.wallClockBudgetMs then
    .wallClock
  else if slicesObserved ≥ policy.maxSlices then
    .sliceCount
  else if totalTokensObserved ≥ policy.maxTotalTokens then
    .tokenCost
  else if consecutiveNoProgressSlices ≥ policy.maxNoProgressSlices then
    .noProgress
  else if recoverySlicesObserved ≥ policy.maxRecoverySlices then
    .recoveryCount
  else
    .withinBudget

def nextReceipt (policy : GoalCampaignPolicyV1) (input : GoalCampaignBudgetInput)
    (previous : Option GoalCampaignBudgetReceiptV1)
    : GoalCampaignBudgetReceiptV1 :=
  let progressFingerprint := progressFingerprint input
  let campaignStartedAtMs := (previous.map (·.campaignStartedAtMs)).getD input.nowMs
  let campaignElapsedMs := (max (saturateI64 (input.nowMs - campaignStartedAtMs)) 0).toNat
  let slicesObserved := Saturating.add ((previous.map (·.slicesObserved)).getD 0) 1
  let totalTokensObserved :=
    Saturating.add ((previous.map (·.totalTokensObserved)).getD 0) input.sliceTokens
  let repeatedFingerprint := previous.any fun receipt =>
    receipt.progressFingerprint = progressFingerprint || input.eventCount = 0
  let consecutiveNoProgressSlices :=
    if repeatedFingerprint then
      Saturating.add ((previous.map (·.consecutiveNoProgressSlices)).getD 0) 1
    else
      0
  let recoverySlicesObserved := Saturating.add
    ((previous.map (·.recoverySlicesObserved)).getD 0) (isRecovery input).toNat
  let boundary := boundaryOf policy campaignElapsedMs slicesObserved totalTokensObserved
    consecutiveNoProgressSlices recoverySlicesObserved
  { schema := goalCampaignBudgetSchema
    campaignFamilyId := input.campaignFamilyId
    laneDigest := input.laneDigest
    virtualSessionId := input.virtualSessionId
    queueId := input.queueId
    goalChecksum := input.goalChecksum
    sourceSliceGeneration := input.sourceSliceGeneration
    event := input.event
    mode := policy.mode
    sliceHardTimeoutMs := policy.sliceHardTimeoutMs
    sliceIdleTimeoutMs := policy.sliceIdleTimeoutMs
    sliceDrainWindowMs := policy.sliceDrainWindowMs
    wallClockBudgetMs := policy.wallClockBudgetMs
    maxSlices := policy.maxSlices
    maxTotalTokens := policy.maxTotalTokens
    maxNoProgressSlices := policy.maxNoProgressSlices
    maxRecoverySlices := policy.maxRecoverySlices
    campaignStartedAtMs
    campaignElapsedMs
    slicesObserved
    totalTokensObserved
    consecutiveNoProgressSlices
    recoverySlicesObserved
    sliceElapsedMs := input.sliceElapsedMs
    sliceTokens := input.sliceTokens
    progressFingerprint
    boundary
    budgetExhausted :=
      boundary = .wallClock || boundary = .sliceCount || boundary = .tokenCost
        || boundary = .recoveryCount
    noProgressExhausted := boundary = .noProgress
    observedAtMs := input.nowMs }

abbrev Ledger := List (JsonLine GoalCampaignBudgetReceiptV1)

def evaluateGoalCampaignBudget (lines : Ledger) (policy : GoalCampaignPolicyV1)
    (input : GoalCampaignBudgetInput)
    : Outcome Ledger GoalCampaignBudgetReceiptV1 :=
  match policy.validate with
  | .error e => (lines, .error e)
  | .ok () =>
    match input.validate with
    | .error e => (lines, .error e)
    | .ok () =>
      match readBudgetReceipts lines with
      | .error e => (lines, .error e)
      | .ok receipts =>
        match receipts.reverse.find? (isReplay input) with
        | some existing => (lines, .ok existing)
        | none =>
          let receipt := nextReceipt policy input (latestOf receipts input.campaignFamilyId)
          (lines ++ [.value receipt], .ok receipt)

end GoalBudget
