import AgentHarness.Lib.Io
import AgentHarness.Lib.Map
import AgentHarness.Lib.Text

/-!
The budget of a task: a ledger of slices for every family, and the status computed from it.
-/

namespace TaskBudget

def taskBudgetLedgerSchema : String := "agent-harness.task-budget-ledger.v1"
def defaultTaskWallClockBudgetMs : Nat := 8 * 60 * 60 * 1000
def defaultMaxTaskSlices : Nat := 16
def defaultMaxTaskTokens : Nat := 2000000
def defaultMaxNoProgressSlices : Nat := 2
def defaultMaxRecoverySlices : Nat := 4
def defaultMaxDispositionRecovery : Nat := 1

structure TaskBudgetSliceV1 where
  schema : String
  familyId : String
  sliceGeneration : Nat
  wallTimeMs : Nat
  totalTokens : Nat
  progressDigest : String
  recoverySlice : Bool
  dispositionRecovery : Bool
  observedAtMs : Int
  deriving DecidableEq

structure TaskBudgetStatusV1 where
  familyId : String
  slices : Nat
  cumulativeWallTimeMs : Nat
  cumulativeTokens : Nat
  consecutiveNoProgressSlices : Nat
  recoverySlices : Nat
  dispositionRecoveries : Nat
  dispositionRecoveryExhausted : Bool
  exhausted : Bool
  reasonCode : String

def lowerHex (value : String) : Bool :=
  value.toList.all Text.isLowerHexdigit

def sameSliceAccounting (left right : TaskBudgetSliceV1) : Bool :=
  left.schema = right.schema
    && left.familyId = right.familyId
    && left.sliceGeneration = right.sliceGeneration
    && left.wallTimeMs = right.wallTimeMs
    && left.totalTokens = right.totalTokens
    && left.progressDigest = right.progressDigest
    && left.recoverySlice = right.recoverySlice
    && left.dispositionRecovery = right.dispositionRecovery

def validateSlice (slice : TaskBudgetSliceV1) : Except IoError Unit :=
  .require (!(slice.schema ≠ taskBudgetLedgerSchema
      || slice.familyId.utf8ByteSize ≠ 64
      || slice.progressDigest.utf8ByteSize ≠ 64
      || !lowerHex slice.familyId
      || !lowerHex slice.progressDigest))
    { kind := .invalidData, message := "task budget slice has invalid schema or digest identity" }

def readLine (slices : FMap Nat TaskBudgetSliceV1) (line : JsonLine TaskBudgetSliceV1)
    : Except IoError (FMap Nat TaskBudgetSliceV1) :=
  match line with
  | .blank => .ok slices
  | .malformed reason => .error { kind := .other, message := reason }
  | .value slice => do
    validateSlice slice
    let existing := slices.lookup slice.sliceGeneration
    .require (existing.all fun existing => sameSliceAccounting existing slice) {
      kind := .invalidData
      message := "task budget ledger contains conflicting slice generations" }
    return slices.insert slice.sliceGeneration slice

def readSlices (lines : List (JsonLine TaskBudgetSliceV1))
    : Except IoError (FMap Nat TaskBudgetSliceV1) :=
  lines.foldlM readLine ∅

def inOrder (slices : List TaskBudgetSliceV1) : List TaskBudgetSliceV1 :=
  slices.insertionSort fun left right => left.sliceGeneration ≤ right.sliceGeneration

def noProgressRun (ordered : List TaskBudgetSliceV1) : Nat :=
  (ordered.foldl (fun (count, previous) slice =>
    let count := if previous = some slice.progressDigest then saturatingSucc count else 0
    (count, some slice.progressDigest)) (0, none)).1

def reasonCode (cumulativeWallTimeMs slicesCount cumulativeTokens consecutiveNoProgressSlices
    recoverySlices : Nat)
    : String :=
  if cumulativeWallTimeMs ≥ defaultTaskWallClockBudgetMs then
    "wall-clock-budget-exhausted"
  else if slicesCount ≥ defaultMaxTaskSlices then
    "slice-budget-exhausted"
  else if cumulativeTokens ≥ defaultMaxTaskTokens then
    "token-budget-exhausted"
  else if consecutiveNoProgressSlices ≥ defaultMaxNoProgressSlices then
    "no-progress-budget-exhausted"
  else if recoverySlices ≥ defaultMaxRecoverySlices then
    "recovery-budget-exhausted"
  else
    "within-budget"

def status (familyId : String) (slices : List TaskBudgetSliceV1) : TaskBudgetStatusV1 :=
  let ordered := inOrder slices
  let cumulativeWallTimeMs := Saturating.sum (ordered.map (·.wallTimeMs))
  let cumulativeTokens := Saturating.sum (ordered.map (·.totalTokens))
  let recoverySlices := ordered.countP (·.recoverySlice)
  let dispositionRecoveries := ordered.countP (·.dispositionRecovery)
  let consecutiveNoProgressSlices := noProgressRun ordered
  let slicesCount := ordered.length
  let reasonCode := reasonCode cumulativeWallTimeMs slicesCount cumulativeTokens
    consecutiveNoProgressSlices recoverySlices
  { familyId
    slices := slicesCount
    cumulativeWallTimeMs
    cumulativeTokens
    consecutiveNoProgressSlices
    recoverySlices
    dispositionRecoveries
    dispositionRecoveryExhausted := dispositionRecoveries ≥ defaultMaxDispositionRecovery
    exhausted := reasonCode ≠ "within-budget"
    reasonCode }

/-
The ledgers of a harness home, one file for each family. A file that does not exist reads as an
empty one.
-/
structure Home where
  ledger : String → List (JsonLine TaskBudgetSliceV1)

namespace Home

def empty : Home where
  ledger _ := []

-- `append_jsonl_value`
def append (self : Home) (slice : TaskBudgetSliceV1) : Home where
  ledger := Function.update self.ledger slice.familyId
    (self.ledger slice.familyId ++ [.value slice])

def recordTaskBudgetSlice (self : Home) (slice : TaskBudgetSliceV1)
    : Outcome Home TaskBudgetStatusV1 :=
  match validateSlice slice with
  | .error e => (self, .error e)
  | .ok () =>
    match readSlices (self.ledger slice.familyId) with
    | .error e => (self, .error e)
    | .ok byGeneration =>
      match byGeneration.lookup slice.sliceGeneration with
      | some existing =>
        if sameSliceAccounting existing slice then
          (self, .ok (status slice.familyId byGeneration.values))
        else
          (self, .error {
            kind := .invalidData
            message := "task budget slice generation was replayed with different accounting" })
      | none =>
        let byGeneration : FMap Nat TaskBudgetSliceV1 :=
          byGeneration.insert slice.sliceGeneration slice
        (self.append slice, .ok (status slice.familyId byGeneration.values))

def taskBudgetStatus (self : Home) (familyId : String) : Except IoError TaskBudgetStatusV1 :=
  (readSlices (self.ledger familyId)).map fun slices => status familyId slices.values

def recordAll (self : Home) (slices : List TaskBudgetSliceV1) : Home :=
  slices.foldl (fun home slice => (home.recordTaskBudgetSlice slice).1) self

end Home

end TaskBudget
