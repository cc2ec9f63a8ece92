import AgentHarness.ExternalEffect.Lemmas.Step
import AgentHarness.Lib.Run

/-!
The transition log over whole runs.
-/

namespace ExternalEffect

/-
The edges an operation may take from `store`.
-/
def Call.edge (env : Env) (store : Store) (call : Call) : Edge := fun effectId source target =>
  match call with
  | .begin .. => source = .requested ∧ (target = .approvalRequired ∨ target = .denied)
  | .resolveApproval .. | .channelAction .. | .publicAction .. =>
    source = .approvalRequired ∧ (target = .approved ∨ target = .denied)
  | .expiryScan .. => source = .approvalRequired ∧ target = .denied
  | .fence .. => (source = .approvalRequired ∨ source = .approved) ∧ target = .denied
  | .transition id next .. =>
    effectId = id ∧ target = next ∧ validTransition source target = true
  | .reconcile id readback _ =>
    effectId = id ∧ validTransition source target = true
      ∧ (source = .submitted ∨ source = .ambiguous)
      ∧ ∃ intent evidence, loadExternalEffectIntent env store id = .ok (some intent)
        ∧ readback intent = .ok evidence ∧ target = evidence.target

variable {store store' : Store} {effectId : String} {edge : Edge}

theorem validTransition_of_edge {env : Env} {call : Call} {source target : EffectState}
    (h : call.edge env store effectId source target)
    : validTransition source target = true := by
  cases call with
  | begin context descriptor policy inputs =>
    rw [h.1]
    cases h.2 with
    | inl h => rw [h]; rfl
    | inr h => rw [h]; rfl
  | resolveApproval token exactLaneDigest decision now order =>
    rw [h.1]
    cases h.2 with
    | inl h => rw [h]; rfl
    | inr h => rw [h]; rfl
  | channelAction action exactLaneDigest now =>
    rw [h.1]
    cases h.2 with
    | inl h => rw [h]; rfl
    | inr h => rw [h]; rfl
  | publicAction request now =>
    rw [h.1]
    cases h.2 with
    | inl h => rw [h]; rfl
    | inr h => rw [h]; rfl
  | expiryScan request =>
    rw [h.1, h.2]
    rfl
  | fence exactLaneDigest reason now order =>
    rw [h.2]
    cases h.1 with
    | inl h => rw [h]; rfl
    | inr h => rw [h]; rfl
  | transition id next reason now => exact h.2.2
  | reconcile id readback now => exact h.2.1

theorem reconcileExternalEffect_cases (env : Env) (store : Store) (effectId : String)
    (readback : Intent → Except IoError Readback) (now : Int)
    : (reconcileExternalEffect env store effectId readback now).1 = store
        ∨ ∃ intent evidence, loadExternalEffectIntent env store effectId = .ok (some intent)
          ∧ (intent.state = .submitted ∨ intent.state = .ambiguous)
          ∧ readback intent = .ok evidence
          ∧ (reconcileExternalEffect env store effectId readback now).1
            = (transitionExternalEffect env store effectId evidence.target evidence.reason now).1
        := by
  unfold reconcileExternalEffect
  split
  . exact .inl rfl
  . exact .inl rfl
  . next intent hload =>
    split
    . exact .inl rfl
    . next hstate =>
      split
      . exact .inl rfl
      . next evidence hevidence =>
        right
        refine ⟨intent, evidence, hload, ?_, hevidence, rfl⟩
        rw [Bool.not_eq_true', Bool.or_eq_false_iff, not_and_or] at hstate
        simpa using hstate

theorem step_transitionExternalEffect (env : Env) {next : EffectState} {reason : String} {now : Int}
    (hedge : ∀ old, store.latest.lookup effectId = some old
      → validTransition old.state next = true → edge effectId old.state next)
    : (transitionExternalEffect env store effectId next reason now).1 = store
        ∨ Store.Step edge store (transitionExternalEffect env store effectId next reason now).1
        := by
  cases transitionExternalEffect_cases env store effectId next reason now with
  | inl h => exact .inl h
  | inr h =>
    obtain ⟨old, hlookup, hvalid, heq⟩ := h
    right
    rw [heq]
    have hid := store.keyed _ _ hlookup
    apply Store.Step.move
    . rw [← hid] at hlookup
      exact hlookup
    . have := hedge old hlookup hvalid
      rw [← hid] at this
      exact this

theorem step_perform_transition (env : Env) (store : Store)
    (effectId : String) (next : EffectState) (reason : String) (now : Int)
    : let call := Call.transition effectId next reason now
      store.perform env call = store
        ∨ Store.Step (call.edge env store) store (store.perform env call) := by
  apply step_transitionExternalEffect env
  intro old _ hvalid
  exact ⟨rfl, rfl, hvalid⟩

theorem step_perform_reconcile (env : Env) (store : Store)
    (effectId : String) (readback : Intent → Except IoError Readback) (now : Int)
    : let call := Call.reconcile effectId readback now
      store.perform env call = store
        ∨ Store.Step (call.edge env store) store (store.perform env call) := by
  dsimp only [Store.perform]
  cases reconcileExternalEffect_cases env store effectId readback now with
  | inl h => exact .inl h
  | inr h =>
    obtain ⟨intent, evidence, hload, hstate, hevidence, heq⟩ := h
    rw [heq]
    apply step_transitionExternalEffect env
    intro old hold hvalid
    have hintent := lookup_of_loadExternalEffectIntent_some env hload
    rw [hold] at hintent
    injection hintent with hintent
    rw [← hintent] at hstate
    exact ⟨rfl, hvalid, hstate, intent, evidence, hload, hevidence, rfl⟩

theorem steps_of_step (h : store' = store ∨ Store.Step edge store store')
    : Store.Steps edge store store' := by
  cases h with
  | inl h => rw [h]
  | inr h => exact .single h

theorem steps_perform (env : Env) (store : Store) (call : Call)
    : Store.Steps (call.edge env store) store (store.perform env call) := by
  cases call with
  | begin context descriptor policy inputs =>
    apply steps_beginExternalEffectRequest env
    . exact fun _ => ⟨rfl, .inl rfl⟩
    . exact fun _ => ⟨rfl, .inr rfl⟩
  | resolveApproval token exactLaneDigest decision now order =>
    apply steps_resolveExternalEffectApproval env
    . exact fun _ => ⟨rfl, .inl rfl⟩
    . exact fun _ => ⟨rfl, .inr rfl⟩
  | channelAction action exactLaneDigest now =>
    apply steps_resolveExternalEffectChannelAction env
    . exact fun _ => ⟨rfl, .inl rfl⟩
    . exact fun _ => ⟨rfl, .inr rfl⟩
  | publicAction request now =>
    apply steps_resolveExternalEffectPublicChannelAction env
    . exact fun _ => ⟨rfl, .inl rfl⟩
    . exact fun _ => ⟨rfl, .inr rfl⟩
  | expiryScan request =>
    apply steps_reconcileExpiredExternalEffectApprovals env
    exact fun _ => ⟨rfl, rfl⟩
  | fence exactLaneDigest reason now order =>
    apply steps_fenceExternalEffectsForLane env
    . exact fun _ => ⟨.inl rfl, rfl⟩
    . exact fun _ => ⟨.inr rfl, rfl⟩
  | transition effectId next reason now =>
    exact steps_of_step (step_perform_transition env store effectId next reason now)
  | reconcile effectId readback now =>
    exact steps_of_step (step_perform_reconcile env store effectId readback now)

def effectRows (store : Store) (effectId : String) : List Transition :=
  store.transitions.filter (fun row => row.effectId = effectId)

def effectState (store : Store) (effectId : String) : Option EffectState :=
  (store.latest.lookup effectId).map Intent.state

def lastState (rows : List Transition) : Option EffectState :=
  rows.getLast?.map Transition.toState

/-
`Chain source rows`: the first row starts in `source` (`none` for an effect that did not exist),
every later row where the row before it ended, and every move is a valid transition.
-/
def Chain : Option EffectState → List Transition → Prop
  | _, [] => True
  | source, row :: rest =>
    row.fromState = source
      ∧ (∀ state, source = some state → validTransition state row.toState = true)
      ∧ Chain (some row.toState) rest

theorem chain_concat {source : Option EffectState} {rows : List Transition} {row : Transition}
    : Chain source (rows ++ [row]) ↔ Chain source rows
        ∧ row.fromState = (lastState rows).or source
        ∧ ∀ state, (lastState rows).or source = some state
          → validTransition state row.toState = true := by
  induction rows generalizing source with
  | nil => simp [Chain, lastState]
  | cons first rows ih =>
    have hlast : (lastState (first :: rows)).or source
        = (lastState rows).or (some first.toState) := by
      cases hrows : rows.getLast? with
      | none =>
        have hnil : rows = [] := by simpa using hrows
        simp [lastState, hnil]
      | some last =>
        have : (first :: rows).getLast? = some last := by
          rw [List.getLast?_cons, hrows]
          rfl
        simp [lastState, this, hrows]
    rw [hlast]
    simp only [List.cons_append, Chain, ih, and_assoc]

structure LogInv (store : Store) (effectId : String) : Prop where
  chain : Chain none (effectRows store effectId)
  state : effectState store effectId = lastState (effectRows store effectId)

theorem effectRows_write (store : Store) (fromState : Option EffectState) (intent : Intent)
    (effectId : String)
    : effectRows (store.write fromState intent) effectId
        = if intent.effectId = effectId
          then effectRows store effectId ++ [transitionRow fromState intent]
          else effectRows store effectId := by
  simp only [effectRows, Store.write, List.filter_append]
  split
  . next h => simp [transitionRow, h]
  . next h => simp [transitionRow, h]

theorem effectState_write (store : Store) (fromState : Option EffectState) (intent : Intent)
    (effectId : String)
    : effectState (store.write fromState intent) effectId
        = if intent.effectId = effectId then some intent.state else effectState store effectId
        := by
  simp only [effectState, Store.write, FMap.lookup_insert_eq]
  split
  . next h => simp [h]
  . next h =>
    rw [if_neg]
    intro heq
    exact h heq.symm

theorem logInv_write {fromState : Option EffectState} {intent : Intent}
    (hinv : LogInv store effectId)
    (hfrom : intent.effectId = effectId → fromState = effectState store effectId
      ∧ ∀ state, fromState = some state → validTransition state intent.state = true)
    : LogInv (store.write fromState intent) effectId := by
  by_cases hid : intent.effectId = effectId
  . have hmove := hfrom hid
    constructor
    . rw [effectRows_write, if_pos hid, chain_concat, Option.or_none, ← hinv.state, ← hmove.1]
      exact ⟨hinv.chain, rfl, hmove.2⟩
    . rw [effectRows_write, effectState_write, if_pos hid, if_pos hid]
      simp [lastState, transitionRow]
  . constructor
    . rw [effectRows_write, if_neg hid]
      exact hinv.chain
    . rw [effectRows_write, effectState_write, if_neg hid, if_neg hid]
      exact hinv.state

theorem logInv_step (hvalid : ∀ effectId source target, edge effectId source target
      → validTransition source target = true) (hstep : Store.Step edge store store')
    (hinv : LogInv store effectId)
    : LogInv store' effectId := by
  cases hstep with
  | create hnew hstate =>
    apply logInv_write hinv
    intro hid
    rw [hid] at hnew
    simp [effectState, hnew]
  | move hold hedge =>
    apply logInv_write hinv
    intro hid
    rw [hid] at hold
    refine ⟨by simp [effectState, hold], ?_⟩
    intro state hstate
    injection hstate with hstate
    rw [← hstate]
    exact hvalid _ _ _ hedge
  | index publicActions => exact ⟨hinv.chain, hinv.state⟩

theorem logInv_steps (hvalid : ∀ effectId source target, edge effectId source target
      → validTransition source target = true) (hsteps : Store.Steps edge store store')
    (hinv : LogInv store effectId)
    : LogInv store' effectId := by
  induction hsteps with
  | refl => exact hinv
  | tail _ hstep ih => exact logInv_step hvalid hstep ih

theorem logInv_empty (effectId : String) : LogInv Store.empty effectId := by
  constructor
  . simp [effectRows, Store.empty, Chain]
  . simp [effectRows, effectState, Store.empty, lastState]

theorem logInv_perform (env : Env) (store : Store) (call : Call) (hinv : LogInv store effectId)
    : LogInv (store.perform env call) effectId := by
  apply logInv_steps _ (steps_perform env store call) hinv
  intro effectId source target hedge
  exact validTransition_of_edge hedge

def EffectState.isFinal (self : EffectState) : Bool :=
  self = .denied || self = .confirmed

theorem not_validTransition_of_isFinal {source target : EffectState} (h : source.isFinal = true)
    : validTransition source target = false := by
  cases source with
  | denied => cases target <;> rfl
  | confirmed => cases target <;> rfl
  | _ => contradiction

theorem final_step (hvalid : ∀ effectId source target, edge effectId source target
      → validTransition source target = true) (hstep : Store.Step edge store store')
    {state : EffectState} (hfinal : state.isFinal = true)
    (hstate : effectState store effectId = some state)
    : effectState store' effectId = some state := by
  cases hstep with
  | create hnew hrequested =>
    rw [effectState_write]
    split
    . next hid =>
      rw [hid] at hnew
      simp [effectState, hnew] at hstate
    . exact hstate
  | move hold hedge =>
    rw [effectState_write]
    split
    . next hid =>
      rw [hid] at hold
      have hmove := hvalid _ _ _ hedge
      simp only [effectState, hold, Option.map_some, Option.some.injEq] at hstate
      rw [hstate, not_validTransition_of_isFinal hfinal] at hmove
      contradiction
    . exact hstate
  | index publicActions => exact hstate

theorem final_steps (hvalid : ∀ effectId source target, edge effectId source target
      → validTransition source target = true) (hsteps : Store.Steps edge store store')
    {state : EffectState} (hfinal : state.isFinal = true)
    (hstate : effectState store effectId = some state)
    : effectState store' effectId = some state := by
  induction hsteps with
  | refl => exact hstate
  | tail _ hstep ih => exact final_step hvalid hstep hfinal ih

theorem final_exec (env : Env) {state : EffectState} (hfinal : state.isFinal = true)
    (hstate : effectState store effectId = some state) (calls : List Call)
    : effectState (Run.exec (Store.perform env) store calls) effectId = some state := by
  apply Run.exec_invariant (fun store => effectState store effectId = some state) _ hstate calls
  intro store call h
  apply final_steps _ (steps_perform env store call) hfinal h
  intro effectId source target hedge
  exact validTransition_of_edge hedge

theorem transitionLog_of_calls (env : Env) (calls : List Call) (effectId : String)
    : let store := Run.exec (Store.perform env) Store.empty calls
      Chain none (effectRows store effectId)
        ∧ effectState store effectId = lastState (effectRows store effectId)
        ∧ ∀ (later : List Call) (state : EffectState), state = .denied ∨ state = .confirmed
          → effectState store effectId = some state
          → effectState (Run.exec (Store.perform env) store later) effectId = some state := by
  intro store
  have hinv : LogInv store effectId :=
    Run.exec_invariant _ (logInv_perform env) (logInv_empty effectId) calls
  refine ⟨hinv.chain, hinv.state, ?_⟩
  intro later state hstate hnow
  apply final_exec env _ hnow later
  cases hstate with
  | inl h => rw [h]; rfl
  | inr h => rw [h]; rfl

def sampleLane : String :=
  "sha256:1111111111111111111111111111111111111111111111111111111111111111"

def sampleContext : RequestContext where
  exactLaneDigest := sampleLane
  logicalLineageId := "virtual-session-1"
  sourceQueueId := "queue-1"
  sourceSessionKeyDigest :=
    "sha256:3333333333333333333333333333333333333333333333333333333333333333"
  approvalAuthorityDigest :=
    "sha256:4444444444444444444444444444444444444444444444444444444444444444"

def sampleDescriptor : ElicitationDescriptor where
  connector := "github"
  action := "create_issue"
  paramsDigest := "sha256:2222222222222222222222222222222222222222222222222222222222222222"
  actionSummary := "github/create_issue: create a tracked issue"

def sampleInputs : RequestInputs where
  requestedAtMs := 1000
  advancedAtMs := 1001
  updatedAtMs := 1002
  randomBytes := List.replicate 24 7

def sampleToken : String := "ahx1_" ++ Text.hex sampleInputs.randomBytes

def sampleEffectId : String := effectIdOf Env.small sampleContext sampleDescriptor

end ExternalEffect

/-!
An effect is submitted again only after its absence was read back. The count of submissions of an
effect is bounded by its state: none before an approval, one for each proof of absence while it is
approved, one more once it has been submitted.
-/

namespace ExternalEffect

def submittedRows (store : Store) (effectId : String) : Nat :=
  (effectRows store effectId).countP (fun row => row.toState = .submitted)

/-
The calls whose readback found the effect absent.
-/
def Call.readsAbsent (env : Env) (store : Store) (effectId : String) (call : Call) : Bool :=
  match call with
  | .reconcile id readback _ =>
    id = effectId
      && match loadExternalEffectIntent env store id with
        | .ok (some intent) =>
          (intent.state = .submitted || intent.state = .ambiguous)
            && match readback intent with
              | .ok .absent => true
              | _ => false
        | _ => false
  | _ => false

def absentReadbacks (env : Env) (effectId : String) : Store → List Call → Nat
  | _, [] => 0
  | store, call :: rest =>
    (call.readsAbsent env store effectId).toNat
      + absentReadbacks env effectId (store.perform env call) rest

/-
The targets a connector driver hands to `transitionExternalEffect`.
-/
def Call.reportsOutcome (call : Call) : Bool :=
  match call with
  | .transition _ next _ _ => next = .submitted || next = .confirmed || next = .ambiguous
  | _ => true

def submissionBudget (state : Option EffectState) (absent : Nat) : Nat :=
  match state with
  | none | some .requested | some .approvalRequired => 0
  | some .approved => absent
  | some .denied | some .submitted | some .confirmed | some .ambiguous => 1 + absent

def SubmissionInv (store : Store) (effectId : String) (absent : Nat) : Prop :=
  submittedRows store effectId ≤ submissionBudget (effectState store effectId) absent

theorem submissionBudget_le (state : Option EffectState) (absent : Nat)
    : submissionBudget state absent ≤ 1 + absent := by
  unfold submissionBudget
  split
  all_goals omega

variable {absent absent' : Nat} {store : Store} {effectId : String}

theorem submissionBudget_mono (state : Option EffectState) (h : absent ≤ absent')
    : submissionBudget state absent ≤ submissionBudget state absent' := by
  unfold submissionBudget
  split
  all_goals omega

theorem submissionBudget_move {source target : EffectState}
    (hvalid : validTransition source target = true) (hle : absent ≤ absent')
    (hback : target = .approved → source = .approvalRequired ∨ absent + 1 ≤ absent')
    : submissionBudget (some source) absent + (decide (target = .submitted)).toNat
        ≤ submissionBudget (some target) absent' := by
  cases source with
  | requested => cases target <;> simp_all [validTransition, submissionBudget]
  | approvalRequired => cases target <;> simp_all [validTransition, submissionBudget]
  | approved =>
    cases target with
    | denied => simp [submissionBudget]; omega
    | submitted => simp [submissionBudget]; omega
    | _ => contradiction
  | denied => cases target <;> contradiction
  | confirmed => cases target <;> contradiction
  | submitted =>
    cases target with
    | confirmed => simp [submissionBudget]; omega
    | ambiguous => simp [submissionBudget]; omega
    | approved =>
      simp at hback
      simp [submissionBudget]
      omega
    | _ => contradiction
  | ambiguous =>
    cases target with
    | confirmed => simp [submissionBudget]; omega
    | approved =>
      simp at hback
      simp [submissionBudget]
      omega
    | _ => contradiction

theorem submittedRows_write (store : Store) (fromState : Option EffectState) (intent : Intent)
    (effectId : String)
    : submittedRows (store.write fromState intent) effectId
        = submittedRows store effectId
          + if intent.effectId = effectId then (decide (intent.state = .submitted)).toNat else 0
        := by
  unfold submittedRows
  rw [effectRows_write]
  split
  . rw [List.countP_append]
    by_cases h : intent.state = .submitted
    . simp [transitionRow, h]
    . simp [transitionRow, h]
  . rfl

theorem submissionInv_mono (hinv : SubmissionInv store effectId absent) (hle : absent ≤ absent')
    : SubmissionInv store effectId absent' := by
  unfold SubmissionInv at *
  have := submissionBudget_mono (effectState store effectId) hle
  omega

theorem submissionInv_step {edge : Edge} (hle : absent ≤ absent') {store' : Store}
    (hedge : ∀ source target, effectState store effectId = some source
      → edge effectId source target → validTransition source target = true
        ∧ (target = .approved → source = .approvalRequired ∨ absent + 1 ≤ absent'))
    (hstep : Store.Step edge store store') (hinv : SubmissionInv store effectId absent)
    : SubmissionInv store' effectId absent' := by
  cases hstep with
  | create hnew hstate =>
    unfold SubmissionInv at *
    rw [submittedRows_write, effectState_write]
    split
    . next hid =>
      rw [hid] at hnew
      simp only [effectState, hnew, Option.map_none, submissionBudget] at hinv
      simp only [hstate, submissionBudget]
      simpa using hinv
    . have := submissionBudget_mono (effectState store effectId) hle
      omega
  | @move old intent hold hmove =>
    unfold SubmissionInv at *
    rw [submittedRows_write, effectState_write]
    split
    . next hid =>
      rw [hid] at hold hmove
      have hstate : effectState store effectId = some old.state := by
        simp [effectState, hold]
      have hallowed := hedge _ _ hstate hmove
      rw [hstate] at hinv
      have := submissionBudget_move hallowed.1 hle hallowed.2
      omega
    . have := submissionBudget_mono (effectState store effectId) hle
      omega
  | index publicActions => exact submissionInv_mono hinv hle

theorem submissionInv_steps {edge : Edge}
    (hedge : ∀ source target, edge effectId source target → validTransition source target = true
      ∧ (target = .approved → source = .approvalRequired)) {store' : Store}
    (hsteps : Store.Steps edge store store') (hinv : SubmissionInv store effectId absent)
    : SubmissionInv store' effectId absent := by
  induction hsteps with
  | refl => exact hinv
  | tail _ hstep ih =>
    apply submissionInv_step (Nat.le_refl absent) _ hstep ih
    intro source target _ h
    refine ⟨(hedge source target h).1, ?_⟩
    intro happroved
    exact .inl ((hedge source target h).2 happroved)

theorem readsAbsent_of_edge {env : Env} {readback : Intent → Except IoError Readback} {now : Int}
    {source target : EffectState}
    (hedge : (Call.reconcile effectId readback now).edge env store effectId source target)
    (hlookup : (effectState store effectId) = some source) (htarget : target = .approved)
    : (Call.reconcile effectId readback now).readsAbsent env store effectId = true := by
  obtain ⟨-, -, hsource, intent, evidence, hload, hevidence, heq⟩ := hedge
  have hstate : intent.state = source := by
    have := lookup_of_loadExternalEffectIntent_some env hload
    simpa [effectState, this] using hlookup
  have habsent : evidence = .absent := by
    rw [htarget] at heq
    cases evidence with
    | absent => rfl
    | _ => contradiction
  rw [habsent] at hevidence
  simp only [Call.readsAbsent, hload, hevidence, hstate]
  simpa using hsource

theorem submissionInv_perform (env : Env) {call : Call} (hcall : call.reportsOutcome = true)
    (hinv : SubmissionInv store effectId absent)
    : SubmissionInv (store.perform env call) effectId
        (absent + (call.readsAbsent env store effectId).toNat) := by
  have hsteps := steps_perform env store call
  have hvalid : ∀ source target, call.edge env store effectId source target
      → validTransition source target = true := by
    intro source target h
    exact validTransition_of_edge h
  -- only a reconciliation can lead back to an approval, and it makes one step
  cases call with
  | reconcile id readback now =>
    cases step_perform_reconcile env store id readback now with
    | inl h =>
      rw [h]
      apply submissionInv_mono hinv
      omega
    | inr hstep =>
      apply submissionInv_step _ _ hstep hinv
      . omega
      . intro source target hstate hedge
        refine ⟨hvalid source target hedge, ?_⟩
        intro htarget
        right
        have hid : effectId = id := hedge.1
        subst hid
        rw [readsAbsent_of_edge hedge hstate htarget]
        simp
  | transition id next reason now =>
    apply submissionInv_steps _ hsteps hinv
    intro source target hedge
    refine ⟨hvalid source target hedge, ?_⟩
    intro htarget
    rw [hedge.2.1] at htarget
    simp [Call.reportsOutcome, htarget] at hcall
  | begin context descriptor policy inputs =>
    apply submissionInv_steps _ hsteps hinv
    intro source target hedge
    refine ⟨hvalid source target hedge, ?_⟩
    intro htarget
    rw [htarget] at hedge
    simp [Call.edge] at hedge
  | resolveApproval token exactLaneDigest decision now order =>
    apply submissionInv_steps _ hsteps hinv
    intro source target hedge
    exact ⟨hvalid source target hedge, fun _ => hedge.1⟩
  | channelAction action exactLaneDigest now =>
    apply submissionInv_steps _ hsteps hinv
    intro source target hedge
    exact ⟨hvalid source target hedge, fun _ => hedge.1⟩
  | publicAction request now =>
    apply submissionInv_steps _ hsteps hinv
    intro source target hedge
    exact ⟨hvalid source target hedge, fun _ => hedge.1⟩
  | expiryScan request =>
    apply submissionInv_steps _ hsteps hinv
    intro source target hedge
    exact ⟨hvalid source target hedge, fun _ => hedge.1⟩
  | fence exactLaneDigest reason now order =>
    apply submissionInv_steps _ hsteps hinv
    intro source target hedge
    refine ⟨hvalid source target hedge, ?_⟩
    intro htarget
    rw [htarget] at hedge
    simp [Call.edge] at hedge

theorem submissionInv_exec (env : Env) {calls : List Call}
    (hcalls : ∀ call ∈ calls, call.reportsOutcome = true)
    (hinv : SubmissionInv store effectId absent)
    : SubmissionInv (Run.exec (Store.perform env) store calls) effectId
        (absent + absentReadbacks env effectId store calls) := by
  induction calls generalizing store absent with
  | nil => exact hinv
  | cons call calls ih =>
    rw [Run.exec_cons]
    unfold absentReadbacks
    rw [← Nat.add_assoc]
    apply ih
    . intro other hother
      apply hcalls
      simp [hother]
    . apply submissionInv_perform env _ hinv
      apply hcalls
      simp

theorem beginExternalEffectRequest_replay (env : Env) {context : RequestContext}
    {descriptor : ElicitationDescriptor} {policy : ConnectorApprovalPolicy} {inputs : RequestInputs}
    {state : EffectState}
    (hstate : effectState store (effectIdOf env context descriptor) = some state)
    (hsettled : state = .submitted ∨ state = .ambiguous ∨ state = .confirmed ∨ state = .denied)
    : (beginExternalEffectRequest env store context descriptor policy inputs).1 = store
        ∧ ∀ intent, (beginExternalEffectRequest env store context descriptor policy inputs).2
          ≠ .ok (.authorized intent) := by
  unfold beginExternalEffectRequest
  split
  . simp
  . split
    . simp
    . next latest hload =>
      have hlookup := lookup_of_loadExternalEffectIntent_some env hload
      have hlatest : latest.state = state := by
        simpa [effectState, hlookup] using hstate
      split
      . simp
      . unfold replayExternalEffectRequest
        rcases hsettled with h | h | h | h
        all_goals
          rw [hlatest, h]
          simp
    . next hload =>
      have hlookup := lookup_of_loadExternalEffectIntent_none env hload
      simp [effectState, hlookup] at hstate

theorem submittedRows_le_of_calls (env : Env) (calls : List Call)
    (hcalls : ∀ call ∈ calls, call.reportsOutcome = true)
    : let store := Run.exec (Store.perform env) Store.empty calls
      (∀ effectId, submittedRows store effectId
          ≤ 1 + absentReadbacks env effectId Store.empty calls)
        ∧ ∀ context descriptor policy inputs state,
          effectState store (effectIdOf env context descriptor) = some state
          → state = .submitted ∨ state = .ambiguous ∨ state = .confirmed ∨ state = .denied
          → (beginExternalEffectRequest env store context descriptor policy inputs).1 = store
            ∧ ∀ intent, (beginExternalEffectRequest env store context descriptor policy inputs).2
              ≠ .ok (.authorized intent) := by
  intro store
  constructor
  . intro effectId
    have hinit : SubmissionInv Store.empty effectId 0 := by
      simp [SubmissionInv, submittedRows, effectRows, Store.empty]
    have hinv : SubmissionInv store effectId _ :=
      submissionInv_exec env hcalls hinit
    have hle := submissionBudget_le (effectState store effectId)
      (0 + absentReadbacks env effectId Store.empty calls)
    unfold SubmissionInv at hinv
    omega
  . intro context descriptor policy inputs state hstate hsettled
    exact beginExternalEffectRequest_replay env hstate hsettled

def sampleSubmissions : List Call := [
  .begin sampleContext sampleDescriptor {} sampleInputs,
  .resolveApproval sampleToken sampleLane .approve 1500 (.insertion String),
  .transition sampleEffectId .submitted "sent" 1600,
  .reconcile sampleEffectId (fun _ => .ok .absent) 1700,
  .transition sampleEffectId .submitted "sent again" 1800]

theorem submittedRows_le_of_sampleSubmissions
    : (∀ call ∈ sampleSubmissions, call.reportsOutcome = true)
        ∧ submittedRows (Run.exec (Store.perform Env.small) Store.empty sampleSubmissions)
            sampleEffectId
          ≤ 1 + absentReadbacks Env.small sampleEffectId Store.empty sampleSubmissions := by
  have hcalls : ∀ call ∈ sampleSubmissions, call.reportsOutcome = true := by decide
  exact ⟨hcalls, (submittedRows_le_of_calls Env.small sampleSubmissions hcalls).1 sampleEffectId⟩

end ExternalEffect
