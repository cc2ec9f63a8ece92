import AgentHarness.Budget.Task
import AgentHarness.Budget.Lemmas.Goal

/-!
The two steps of a budget call: it reads the ledger into its locals, and appends its row under a lock
that only covers the append. Calls of other processes may append in between.
-/

namespace GoalBudget

def readStep (call : Call) (lines : Ledger) : Option (List GoalCampaignBudgetReceiptV1) :=
  match call.policy.validate with
  | .error _ => none
  | .ok () =>
    match call.input.validate with
    | .error _ => none
    | .ok () =>
      match readBudgetReceipts lines with
      | .error _ => none
      | .ok receipts =>
        match receipts.reverse.find? (isReplay call.input) with
        | some _ => none
        | none => some receipts

def appendStep (call : Call) (receipts : List GoalCampaignBudgetReceiptV1) (lines : Ledger)
    : Ledger :=
  lines ++ [.value (nextReceipt call.policy call.input
    (latestOf receipts call.input.campaignFamilyId))]

def interleaved (calls : ι → Call)
    : Race.Calls Ledger (List GoalCampaignBudgetReceiptV1) ι where
  read i := readStep (calls i)
  write i := appendStep (calls i)

theorem atOnce_interleaved (calls : ι → Call) (lines : Ledger) (i : ι)
    : (interleaved calls).atOnce lines i = step lines (calls i) := by
  unfold Race.Calls.atOnce interleaved step evaluateGoalCampaignBudget
  dsimp only
  unfold readStep appendStep
  cases (calls i).policy.validate with
  | error e => rfl
  | ok =>
    cases (calls i).input.validate with
    | error e => rfl
    | ok =>
      dsimp only
      cases readBudgetReceipts lines with
      | error e => rfl
      | ok receipts =>
        dsimp only
        cases receipts.reverse.find? (isReplay (calls i).input) with
        | some existing => rfl
        | none => rfl

end GoalBudget

namespace TaskBudget

def readStep (slice : TaskBudgetSliceV1) (home : Home) : Option (FMap Nat TaskBudgetSliceV1) :=
  match validateSlice slice with
  | .error _ => none
  | .ok () =>
    match readSlices (home.ledger slice.familyId) with
    | .error _ => none
    | .ok byGeneration =>
      match byGeneration.lookup slice.sliceGeneration with
      | some _ => none
      | none => some byGeneration

def interleaved (slices : ι → TaskBudgetSliceV1)
    : Race.Calls Home (FMap Nat TaskBudgetSliceV1) ι where
  read i := readStep (slices i)
  write i _ home := home.append (slices i)

end TaskBudget
