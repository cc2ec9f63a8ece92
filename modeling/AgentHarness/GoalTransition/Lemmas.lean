import AgentHarness.GoalTransition.Impl

/-!
Who may end a campaign, and when the harness goes on by itself.
-/

namespace GoalTransition

variable {input : Input}

namespace Input

def preempted (self : Input) : Bool :=
  [.newerSteer, .olderCompletion, .operatorStop, .authDeferred, .authorityBoundary].contains
    self.event

def exhausted (self : Input) : Bool :=
  self.budgetExhausted || self.noProgressExhausted

def mayFinish (self : Input) : Bool :=
  !self.preempted && self.campaignAuthorized && self.goalStatusIsComplete

theorem goalStatusIsComplete_iff
    : input.goalStatusIsComplete ↔ ∃ status, input.goalStatus = some status
        ∧ normalizeStatus status ∈ ["completed", "complete", "succeeded", "achieved"] := by
  unfold goalStatusIsComplete normalizedGoalStatus
  rw [List.contains_iff_mem]
  cases input.goalStatus with
  | none => simp
  | some status => simp

theorem goalStatusIsRecognized_of_isComplete (h : input.goalStatusIsComplete)
    : input.goalStatusIsRecognized := by
  simp [goalStatusIsRecognized, h]

end Input

-- what holds of every slice that is not stopped by its event, its authority or its status
structure Transition.Runs (transition : Transition) : Prop where
  noCampaignFinal : transition.surface ≠ .campaignFinal
  exclusive : ¬(transition.scheduleContinuation = true ∧ transition.terminal = true)

theorem runs_activeTransition (input : Input) : (activeTransition input).Runs := by
  unfold activeTransition activeTransition.goesOn
  constructor
  . split
    . simp
    . split <;> simp
    . split <;> simp
    . simp
  . split
    . simp
    . split <;> simp
    . split <;> simp
    . simp

theorem runs_ordinaryTransition (input : Input) : (ordinaryTransition input).Runs := by
  unfold ordinaryTransition ordinaryTransition.fails
  constructor
  . split <;> (try split_ifs) <;> simp
  . split <;> (try split_ifs) <;> simp

theorem transition_cases {motive : Transition → Prop}
    (hquiet : ∀ t : Transition, input.mayFinish = false → t.surface ≠ .campaignFinal →
      t.scheduleContinuation = false → motive t)
    (hfinal : input.mayFinish →
      motive ⟨.complete, .campaignFinal, false, true, "authoritative goal status is complete"⟩)
    (hruns : ∀ t : Transition, input.mayFinish = false → input.exhausted = false →
      (input.relation = .freshUnrelatedTurn ∨ input.campaignAuthorized) → t.Runs → motive t)
    : motive (transition input) := by
  have hstop : ∀ t : Transition, input.preempted → t.surface ≠ .campaignFinal →
      t.scheduleContinuation = false → motive t := by
    intro t h
    apply hquiet
    simp [Input.mayFinish, h]
  have hunauthorized : ∀ t : Transition, input.campaignAuthorized = false →
      t.surface ≠ .campaignFinal → t.scheduleContinuation = false → motive t := by
    intro t h
    apply hquiet
    simp [Input.mayFinish, h]
  unfold transition
  apply iteInduction
  . intro h
    apply hstop _ _ (by simp) rfl
    cases h with
    | inl h => simp [Input.preempted, h]
    | inr h => simp [Input.preempted, h]
  intro hstale
  apply iteInduction
  . intro h
    exact hstop _ (by simp [Input.preempted, h]) nofun rfl
  intro hoperator
  apply iteInduction
  . intro h
    exact hstop _ (by simp [Input.preempted, h]) nofun rfl
  intro hdeferred
  apply iteInduction
  . intro h
    exact hstop _ (by simp [Input.preempted, h]) nofun rfl
  intro hboundary
  have hevent : input.preempted = false := by
    simp [Input.preempted, not_or.mp hstale, hoperator, hdeferred, hboundary]
  apply iteInduction
  . intro h
    exact hunauthorized _ (by simp [Input.campaignAuthorized, h.2]) nofun rfl
  intro _
  apply iteInduction
  . intro h
    apply hquiet _ _ (by simp) rfl
    have hother := mt Input.goalStatusIsRecognized_of_isComplete (by simpa using h.2)
    simp [Input.mayFinish, hother]
  intro _
  apply iteInduction
  . intro h
    exact hunauthorized _ (by simpa using h.2.2) nofun rfl
  intro _
  apply iteInduction
  . intro h
    exact hunauthorized _ (by simpa using h.2) nofun rfl
  intro hproven
  apply iteInduction
  . intro h
    exact hfinal (by simp [Input.mayFinish, hevent, h.1, h.2])
  intro hunfinished
  have hmay : input.mayFinish = false := by
    cases hauthorized : input.campaignAuthorized with
    | false => simp [Input.mayFinish, hauthorized]
    | true => simpa [Input.mayFinish, hevent, hauthorized] using hunfinished
  have hrest := fun t => hquiet t hmay
  iterate 7
    apply iteInduction
    . intro _
      exact hrest _ nofun rfl
    intro _
  apply iteInduction
  . intro h
    exact hrest _ nofun rfl
  intro hbudget
  apply iteInduction
  . intro h
    exact hrest _ nofun rfl
  intro hprogress
  have hgoesOn := fun t => hruns t hmay (by simp [Input.exhausted, hbudget, hprogress]) (by
    by_cases hfresh : input.relation = .freshUnrelatedTurn
    . exact Or.inl hfresh
    . simpa [hfresh] using hproven)
  apply iteInduction
  . intro _
    exact hgoesOn _ (runs_activeTransition input)
  . intro _
    exact hgoesOn _ (runs_ordinaryTransition input)

theorem surface_transition_iff
    : (transition input).surface = .campaignFinal ↔ input.mayFinish := by
  apply transition_cases (motive := fun t => t.surface = .campaignFinal ↔ input.mayFinish)
  . intro t hmay hsurface _
    simp [hmay, hsurface]
  . intro hmay
    simp [hmay]
  . intro t hmay _ _ hruns
    simp [hmay, hruns.noCampaignFinal]

theorem transition_exclusive
    : ¬((transition input).scheduleContinuation = true ∧ (transition input).terminal = true) := by
  apply transition_cases
    (motive := fun t => ¬(t.scheduleContinuation = true ∧ t.terminal = true))
  . intro t _ _ hschedule
    simp [hschedule]
  . intro _
    simp
  . intro t _ _ _ hruns
    exact hruns.exclusive

theorem scheduleContinuation_eq_false
    (h : input.exhausted ∨ input.relation ≠ .freshUnrelatedTurn ∧ input.campaignAuthorized = false)
    : (transition input).scheduleContinuation = false := by
  apply transition_cases (motive := fun t => t.scheduleContinuation = false)
  . intro t _ _ hschedule
    exact hschedule
  . intro _
    rfl
  . intro t _ hexhausted hrelation _
    cases h with
    | inl h => simp [hexhausted] at h
    | inr h => simp [h.1, h.2] at hrelation

theorem transition_of_fresh (h : input.relation = .freshUnrelatedTurn) (goalStatus : Option String)
    (authority : Authority)
    : transition { input with goalStatus, authority } = transition input := by
  simp [transition, Input.campaignAuthorized, Input.campaignRelation, Input.activeGoal, h]
  rfl

theorem goal_transition_authorised
    : (∀ input, (evaluateGoalTransition input).allowCampaignFinal = true
          ↔ input.event ∉ [.newerSteer, .olderCompletion, .operatorStop, .authDeferred,
            .authorityBoundary]
          ∧ input.authority = .ready
          ∧ (input.relation = .currentGoalSlice ∨ input.relation = .authorizedCampaignContinuation)
          ∧ ∃ status, input.goalStatus = some status
            ∧ normalizeStatus status ∈ ["completed", "complete", "succeeded", "achieved"])
        ∧ (∀ input, ¬((evaluateGoalTransition input).scheduleContinuation = true
          ∧ (evaluateGoalTransition input).terminal = true))
        ∧ (∀ input, input.budgetExhausted = true ∨ input.noProgressExhausted = true
            ∨ input.relation ≠ .freshUnrelatedTurn
              ∧ ¬(input.authority = .ready ∧ (input.relation = .currentGoalSlice
                ∨ input.relation = .authorizedCampaignContinuation)) →
          (evaluateGoalTransition input).scheduleContinuation = false)
        ∧ ∀ (input : Input) goalStatus authority, input.relation = .freshUnrelatedTurn →
          (evaluateGoalTransition { input with goalStatus, authority }).toTransition
            = (evaluateGoalTransition input).toTransition
          ∧ (evaluateGoalTransition { input with goalStatus, authority }).allowCampaignFinal
            = (evaluateGoalTransition input).allowCampaignFinal := by
  refine ⟨?_, ?_, ?_, ?_⟩
  . intro input
    simp only [evaluateGoalTransition, decide_eq_true_eq, surface_transition_iff, Input.mayFinish,
      Bool.and_eq_true, Input.goalStatusIsComplete_iff]
    simp [Input.preempted, Input.campaignAuthorized, Input.campaignRelation, and_assoc]
  . intro input
    exact transition_exclusive
  . intro input h
    apply scheduleContinuation_eq_false
    simpa [Input.exhausted, Input.campaignAuthorized, Input.campaignRelation, or_assoc] using h
  . intro input goalStatus authority hfresh
    simp [evaluateGoalTransition, transition_of_fresh hfresh]

end GoalTransition
