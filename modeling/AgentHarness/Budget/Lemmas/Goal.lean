import AgentHarness.Budget.Goal
import AgentHarness.Lib.Run

/-!
The receipts of a campaign against its history: the totals that each receipt carries on are those of
all distinct observations of the family.
-/

namespace GoalBudget

structure Call where
  policy : GoalCampaignPolicyV1
  input : GoalCampaignBudgetInput

def Call.isValid (self : Call) : Bool :=
  self.policy.validate.isOk && self.input.validate.isOk

def step (lines : Ledger) (call : Call) : Ledger :=
  (evaluateGoalCampaignBudget lines call.policy call.input).1

abbrev Key := Option String × Nat × Option String

def GoalCampaignBudgetInput.key (self : GoalCampaignBudgetInput) : Key :=
  (self.queueId, self.sourceSliceGeneration, self.goalChecksum)

def GoalCampaignBudgetReceiptV1.key (self : GoalCampaignBudgetReceiptV1) : Key :=
  (self.queueId, self.sourceSliceGeneration, self.goalChecksum)

/-
The reference: the distinct observations of a family, and what they add up to.
-/
def observe (family : String) (seen : List GoalCampaignBudgetInput) (call : Call)
    : List GoalCampaignBudgetInput :=
  if call.isValid && call.input.campaignFamilyId = family
      && call.input.key ∉ seen.map GoalCampaignBudgetInput.key then
    seen ++ [call.input]
  else
    seen

def observations (family : String) (calls : List Call) : List GoalCampaignBudgetInput :=
  calls.foldl (observe family) []

def repeats (previous latest : GoalCampaignBudgetInput) : Bool :=
  progressFingerprint previous = progressFingerprint latest || latest.eventCount = 0

def noProgressLength : List GoalCampaignBudgetInput → Nat
  | latest :: previous :: older =>
    if repeats previous latest then noProgressLength (previous :: older) + 1 else 0
  | _ => 0

structure Totals where
  slices : Nat
  tokens : Nat
  noProgress : Nat
  recoveries : Nat

def totalsOf (observed : List GoalCampaignBudgetInput) : Totals where
  slices := min observed.length u64Max
  tokens := min (observed.map (·.sliceTokens)).sum u64Max
  noProgress := min (noProgressLength observed.reverse) u64Max
  recoveries := min (observed.countP isRecovery) u64Max

def GoalCampaignBudgetReceiptV1.totals (self : GoalCampaignBudgetReceiptV1) : Totals where
  slices := self.slicesObserved
  tokens := self.totalTokensObserved
  noProgress := self.consecutiveNoProgressSlices
  recoveries := self.recoverySlicesObserved

def summary (observed : List GoalCampaignBudgetInput) : Option (Totals × String) :=
  observed.getLast?.map fun latest => (totalsOf observed, progressFingerprint latest)

def GoalCampaignBudgetReceiptV1.summary (self : GoalCampaignBudgetReceiptV1) : Totals × String :=
  (self.totals, self.progressFingerprint)

theorem observations_concat (family : String) (calls : List Call) (call : Call)
    : observations family (calls ++ [call]) = observe family (observations family calls) call := by
  unfold observations
  rw [List.foldl_append]
  rfl

theorem nodup_observations (family : String) (calls : List Call)
    : ((observations family calls).map (·.key)).Nodup := by
  induction calls using List.reverseRecOn with
  | nil => exact List.nodup_nil
  | append_singleton calls call ih =>
    rw [observations_concat, observe]
    split
    . next hnew =>
      simp only [Bool.and_eq_true, decide_eq_true_eq] at hnew
      rw [List.map_append, List.map_singleton]
      apply List.Nodup.append ih (by simp)
      simpa using hnew.2
    . exact ih

theorem totals_summary (observed : List GoalCampaignBudgetInput)
    : (summary observed).map Prod.fst = if observed = [] then none else some (totalsOf observed) := by
  cases observed using List.reverseRecOn with
  | nil => rfl
  | append_singleton older latest => simp [summary]

def carry (previous : Option (Totals × String)) (input : GoalCampaignBudgetInput) : Totals where
  slices := Saturating.add ((previous.map (·.1.slices)).getD 0) 1
  tokens := Saturating.add ((previous.map (·.1.tokens)).getD 0) input.sliceTokens
  noProgress :=
    if previous.any fun latest =>
        latest.2 = progressFingerprint input || input.eventCount = 0 then
      Saturating.add ((previous.map (·.1.noProgress)).getD 0) 1
    else
      0
  recoveries := Saturating.add ((previous.map (·.1.recoveries)).getD 0) (isRecovery input).toNat

theorem totals_nextReceipt (policy : GoalCampaignPolicyV1) (input : GoalCampaignBudgetInput)
    (previous : Option GoalCampaignBudgetReceiptV1)
    : (nextReceipt policy input previous).totals = carry (previous.map (·.summary)) input := by
  cases previous with
  | none => rfl
  | some receipt => rfl

theorem totalsOf_concat (observed : List GoalCampaignBudgetInput) (input : GoalCampaignBudgetInput)
    : totalsOf (observed ++ [input]) = carry (summary observed) input := by
  have hrecovery : observed.countP isRecovery + (isRecovery input).toNat
      = (observed ++ [input]).countP isRecovery := by
    cases hinput : isRecovery input <;> simp [hinput]
  cases observed using List.reverseRecOn with
  | nil =>
    have hzero : ∀ n, Saturating.add 0 n = min n u64Max := by simp [Saturating.add]
    unfold totalsOf
    rw [← hrecovery]
    simp [carry, summary, hzero, noProgressLength]
  | append_singleton older latest =>
    have hsummary : summary (older ++ [latest])
        = some (totalsOf (older ++ [latest]), progressFingerprint latest) := by
      simp [summary]
    have hlength : ∀ previous : List GoalCampaignBudgetInput,
        (previous ++ [latest] ++ [input]).reverse = input :: latest :: previous.reverse := by simp
    rw [hsummary]
    unfold carry
    simp only [Option.map_some, Option.getD_some, Option.any_some]
    unfold totalsOf
    dsimp only
    rw [Totals.mk.injEq, ← hrecovery, hlength, noProgressLength]
    simp only [Saturating.add_min]
    refine ⟨by simp, by simp [Nat.add_assoc], ?_, trivial⟩
    unfold repeats
    split
    . simp
    . simp

theorem schema_nextReceipt (policy : GoalCampaignPolicyV1) (input : GoalCampaignBudgetInput)
    (previous : Option GoalCampaignBudgetReceiptV1)
    : (nextReceipt policy input previous).schema = goalCampaignBudgetSchema := rfl

theorem family_nextReceipt (policy : GoalCampaignPolicyV1) (input : GoalCampaignBudgetInput)
    (previous : Option GoalCampaignBudgetReceiptV1)
    : (nextReceipt policy input previous).campaignFamilyId = input.campaignFamilyId := rfl

theorem key_nextReceipt (policy : GoalCampaignPolicyV1) (input : GoalCampaignBudgetInput)
    (previous : Option GoalCampaignBudgetReceiptV1)
    : (nextReceipt policy input previous).key = input.key := rfl

theorem summary_nextReceipt (policy : GoalCampaignPolicyV1) {input : GoalCampaignBudgetInput}
    {previous : Option GoalCampaignBudgetReceiptV1} {observed : List GoalCampaignBudgetInput}
    (h : previous.map (·.summary) = summary observed)
    : some (nextReceipt policy input previous).summary = summary (observed ++ [input]) := by
  have htotals := totals_nextReceipt policy input previous
  rw [h, ← totalsOf_concat] at htotals
  unfold summary GoalCampaignBudgetReceiptV1.summary
  rw [htotals, List.getLast?_concat, Option.map_some]
  rfl

def ofFamily (family : String) (receipts : List GoalCampaignBudgetReceiptV1)
    : List GoalCampaignBudgetReceiptV1 :=
  receipts.filter fun receipt => receipt.campaignFamilyId = family

theorem ofFamily_concat (family : String) (receipts : List GoalCampaignBudgetReceiptV1)
    (receipt : GoalCampaignBudgetReceiptV1)
    : ofFamily family (receipts ++ [receipt])
        = if receipt.campaignFamilyId = family then ofFamily family receipts ++ [receipt]
          else ofFamily family receipts := by
  unfold ofFamily
  rw [List.filter_append, List.filter_singleton]
  split
  . next h => simp [h]
  . next h => simp [h]

theorem latestOf_concat (family : String) (receipts : List GoalCampaignBudgetReceiptV1)
    (receipt : GoalCampaignBudgetReceiptV1)
    : latestOf (receipts ++ [receipt]) family
        = if receipt.campaignFamilyId = family then some receipt else latestOf receipts family := by
  unfold latestOf
  rw [List.reverse_append, List.reverse_singleton, List.singleton_append, List.find?_cons]
  split
  . next h => simp [decide_eq_true_eq.mp h]
  . next h => simp [decide_eq_false_iff_not.mp h]

theorem readBudgetReceipts_values {receipts : List GoalCampaignBudgetReceiptV1}
    (h : ∀ receipt ∈ receipts, receipt.schema = goalCampaignBudgetSchema)
    : readBudgetReceipts (receipts.map .value) = .ok receipts := by
  have hgo : ∀ line, readBudgetReceipts.go line (receipts.map .value) = .ok receipts := by
    induction receipts with
    | nil =>
      intro line
      rfl
    | cons receipt receipts ih =>
      intro line
      rw [List.forall_mem_cons] at h
      rw [List.map_cons, readBudgetReceipts.go, ih h.2]
      unfold readBudgetReceipt
      simp only [h.1, if_true]
      rfl
  exact hgo 1

/-
What the ledger holds after a run: for every family one receipt for each observation, and a latest
receipt with the totals of all of them.
-/
structure Records (receipts : List GoalCampaignBudgetReceiptV1) (calls : List Call) : Prop where
  schema : ∀ receipt ∈ receipts, receipt.schema = goalCampaignBudgetSchema
  keys : ∀ family, (ofFamily family receipts).map (·.key)
    = (observations family calls).map (·.key)
  latest : ∀ family, (latestOf receipts family).map (·.summary)
    = summary (observations family calls)

theorem records_nil : Records [] [] where
  schema := by simp
  keys _ := rfl
  latest _ := rfl

theorem isReplay_iff {input : GoalCampaignBudgetInput} {receipt : GoalCampaignBudgetReceiptV1}
    : isReplay input receipt
        ↔ receipt.campaignFamilyId = input.campaignFamilyId ∧ receipt.key = input.key := by
  unfold isReplay GoalCampaignBudgetReceiptV1.key GoalCampaignBudgetInput.key
  simp only [Bool.and_eq_true, decide_eq_true_eq, Prod.mk.injEq]
  tauto

theorem isValid_iff {call : Call}
    : call.isValid ↔ call.policy.validate = .ok () ∧ call.input.validate = .ok () := by
  have hok : ∀ result : Except IoError Unit, result.isOk ↔ result = .ok () := by
    intro result
    cases result with
    | error e => simp [Except.isOk, Except.toBool]
    | ok u => simp [Except.isOk, Except.toBool]
  unfold Call.isValid
  rw [Bool.and_eq_true, hok, hok]

theorem evaluate_invalid {call : Call} (lines : Ledger) (h : ¬call.isValid)
    : (evaluateGoalCampaignBudget lines call.policy call.input).1 = lines := by
  rw [isValid_iff] at h
  unfold evaluateGoalCampaignBudget
  split
  . rfl
  . next hpolicy =>
    split
    . rfl
    . next hinput => exact absurd ⟨hpolicy, hinput⟩ h

section

variable {receipts : List GoalCampaignBudgetReceiptV1} {calls : List Call} {call : Call}
  (h : Records receipts calls)
include h

theorem Records.replay_iff (input : GoalCampaignBudgetInput)
    : (∃ receipt ∈ receipts, isReplay input receipt)
        ↔ input.key ∈ (observations input.campaignFamilyId calls).map (·.key) := by
  rw [← h.keys, List.mem_map]
  simp only [isReplay_iff, ofFamily, List.mem_filter, decide_eq_true_eq]
  constructor
  . rintro ⟨receipt, hmem, hfamily, hkey⟩
    exact ⟨receipt, ⟨hmem, hfamily⟩, hkey⟩
  . rintro ⟨receipt, ⟨hmem, hfamily⟩, hkey⟩
    exact ⟨receipt, hmem, hfamily, hkey⟩

theorem Records.find_isSome {input : GoalCampaignBudgetInput}
    (hseen : input.key ∈ (observations input.campaignFamilyId calls).map (·.key))
    : (receipts.reverse.find? (isReplay input)).isSome := by
  rw [List.find?_isSome]
  simpa using (h.replay_iff input).mpr hseen

theorem Records.replay_unique {input : GoalCampaignBudgetInput}
    {left right : GoalCampaignBudgetReceiptV1} (hleft : left ∈ receipts) (hright : right ∈ receipts)
    (hreplayLeft : isReplay input left) (hreplayRight : isReplay input right)
    : left = right := by
  rw [isReplay_iff] at hreplayLeft hreplayRight
  have hnodup : ((ofFamily input.campaignFamilyId receipts).map (·.key)).Nodup := by
    rw [h.keys]
    exact nodup_observations input.campaignFamilyId calls
  apply List.inj_on_of_nodup_map hnodup
  . simp [ofFamily, hleft, hreplayLeft.1]
  . simp [ofFamily, hright, hreplayRight.1]
  . rw [hreplayLeft.2, hreplayRight.2]

theorem Records.keep (hcall : ∀ family, observe family (observations family calls) call
      = observations family calls)
    : Records receipts (calls ++ [call]) where
  schema := h.schema
  keys family := by rw [observations_concat, hcall, h.keys]
  latest family := by rw [observations_concat, hcall, h.latest]

theorem Records.add (hvalid : call.isValid)
    (hnew : call.input.key ∉ (observations call.input.campaignFamilyId calls).map (·.key))
    : Records (receipts ++ [nextReceipt call.policy call.input
        (latestOf receipts call.input.campaignFamilyId)]) (calls ++ [call]) where
  schema := by
    rw [List.forall_mem_append]
    refine ⟨h.schema, ?_⟩
    simp [schema_nextReceipt]
  keys family := by
    rw [observations_concat, ofFamily_concat, family_nextReceipt, observe]
    by_cases hfamily : call.input.campaignFamilyId = family
    . subst hfamily
      simp only [hvalid, hnew, not_false_eq_true, decide_true, Bool.and_self, if_true]
      rw [List.map_append, List.map_append, h.keys]
      rfl
    . simp [hfamily, h.keys]
  latest family := by
    rw [observations_concat, latestOf_concat, family_nextReceipt, observe]
    by_cases hfamily : call.input.campaignFamilyId = family
    . subst hfamily
      simp only [hvalid, hnew, not_false_eq_true, decide_true, Bool.and_self, if_true]
      exact summary_nextReceipt call.policy (h.latest call.input.campaignFamilyId)
    . simp [hfamily, h.latest]

theorem Records.evaluate_replay (hvalid : call.isValid)
    {receipt : GoalCampaignBudgetReceiptV1}
    (hfound : receipts.reverse.find? (isReplay call.input) = some receipt)
    : evaluateGoalCampaignBudget (receipts.map .value) call.policy call.input
        = (receipts.map .value, .ok receipt) := by
  obtain ⟨hpolicy, hinput⟩ := isValid_iff.mp hvalid
  unfold evaluateGoalCampaignBudget
  rw [hpolicy, hinput, readBudgetReceipts_values h.schema]
  dsimp only
  rw [hfound]

theorem Records.step (call : Call)
    : ∃ later, GoalBudget.step (receipts.map .value) call = later.map .value
        ∧ Records later (calls ++ [call]) := by
  by_cases hvalid : call.isValid
  . by_cases hnew : call.input.key
        ∈ (observations call.input.campaignFamilyId calls).map (·.key)
    . obtain ⟨receipt, hfound⟩ := Option.isSome_iff_exists.mp (h.find_isSome hnew)
      refine ⟨receipts, ?_, ?_⟩
      . rw [GoalBudget.step, h.evaluate_replay hvalid hfound]
      . apply h.keep
        intro family
        unfold observe
        rw [if_neg]
        simp only [Bool.and_eq_true, decide_eq_true_eq, not_and, not_not]
        intro hfamily
        rw [← hfamily.2]
        exact hnew
    . obtain ⟨hpolicy, hinput⟩ := isValid_iff.mp hvalid
      have hnone : receipts.reverse.find? (isReplay call.input) = none := by
        rw [List.find?_eq_none]
        intro receipt hreceipt hreplay
        exact hnew ((h.replay_iff call.input).mp
          ⟨receipt, List.mem_reverse.mp hreceipt, hreplay⟩)
      refine ⟨_, ?_, h.add hvalid hnew⟩
      unfold GoalBudget.step evaluateGoalCampaignBudget
      rw [hpolicy, hinput, readBudgetReceipts_values h.schema]
      dsimp only
      rw [hnone]
      simp
  . refine ⟨receipts, ?_, ?_⟩
    . rw [GoalBudget.step, evaluate_invalid _ hvalid]
    . apply h.keep
      intro family
      unfold observe
      simp [hvalid]

end

theorem records_run (calls : List Call)
    : ∃ receipts, Run.exec step [] calls = receipts.map .value ∧ Records receipts calls := by
  induction calls using List.reverseRecOn with
  | nil => exact ⟨[], rfl, records_nil⟩
  | append_singleton calls call ih =>
    obtain ⟨receipts, hlines, hrecords⟩ := ih
    rw [Run.exec_concat, hlines]
    exact hrecords.step call

theorem receipts_equal_fold (calls : List Call)
    : ∃ receipts, readBudgetReceipts (Run.exec step [] calls) = .ok receipts
      ∧ (∀ family, (latestOf receipts family).map (·.totals)
        = if observations family calls = [] then none else some (totalsOf (observations family calls)))
      ∧ ∀ call : Call, call.isValid
        → call.input.key ∈ (observations call.input.campaignFamilyId calls).map (·.key)
        → ∃ receipt ∈ receipts, isReplay call.input receipt
          ∧ (∀ other ∈ receipts, isReplay call.input other → other = receipt)
          ∧ evaluateGoalCampaignBudget (Run.exec step [] calls) call.policy call.input
            = (Run.exec step [] calls, .ok receipt) := by
  obtain ⟨receipts, hlines, hrecords⟩ := records_run calls
  rw [hlines, readBudgetReceipts_values hrecords.schema]
  refine ⟨receipts, rfl, ?_, ?_⟩
  . intro family
    have hlatest := congrArg (Option.map Prod.fst) (hrecords.latest family)
    rw [Option.map_map] at hlatest
    rw [← totals_summary]
    exact hlatest
  . intro call hvalid hseen
    have hsome : (receipts.reverse.find? (isReplay call.input)).isSome :=
      hrecords.find_isSome hseen
    obtain ⟨receipt, hfound⟩ := Option.isSome_iff_exists.mp hsome
    have hmem := List.mem_reverse.mp (List.mem_of_find?_eq_some hfound)
    have hreplay := List.find?_some hfound
    refine ⟨receipt, hmem, hreplay, ?_, hrecords.evaluate_replay hvalid hfound⟩
    intro other hother hsame
    exact hrecords.replay_unique hother hmem hsame hreplay

def sampleCall : Call where
  policy := {}
  input := {
    campaignFamilyId := "family"
    laneDigest := "lane"
    virtualSessionId := "session"
    queueId := some "q"
    goalChecksum := none
    sourceSliceGeneration := 0
    event := .normalCompletion
    sliceElapsedMs := 5
    sliceTokens := 10
    outputTokens := 1
    eventCount := 2
    runtimeStatus := "completed"
    recoverySlice := false
    nowMs := 1000 }

theorem sampleCall_replayed
    : ∃ receipts, readBudgetReceipts (Run.exec step [] [sampleCall]) = .ok receipts
      ∧ (latestOf receipts "family").map (·.totals)
        = some { slices := 1, tokens := 10, noProgress := 0, recoveries := 0 }
      ∧ ∃ receipt ∈ receipts,
        evaluateGoalCampaignBudget (Run.exec step [] [sampleCall]) sampleCall.policy sampleCall.input
          = (Run.exec step [] [sampleCall], .ok receipt) := by
  obtain ⟨receipts, hread, htotals, hreplay⟩ := receipts_equal_fold [sampleCall]
  have hobserved : observations "family" [sampleCall] = [sampleCall.input] := by decide +kernel
  have hvalid : sampleCall.isValid := by decide +kernel
  have htotals := htotals "family"
  rw [hobserved] at htotals
  obtain ⟨receipt, hmem, _, _, hagain⟩ := hreplay sampleCall hvalid (by decide +kernel)
  exact ⟨receipts, hread, htotals, receipt, hmem, hagain⟩

end GoalBudget
