import AgentHarness.ExternalEffect.Impl

/-!
What an operation can do to the store, said once: a sequence of single steps, each of which creates
an effect, moves one effect along an edge the operation may take, or touches the public action
index only.
-/

namespace ExternalEffect

/-
`edge effectId source target`: the moves an operation may make.
-/
abbrev Edge := String → EffectState → EffectState → Prop

inductive Store.Step (edge : Edge) : Store → Store → Prop where
  | create {store : Store} {intent : Intent} (hnew : store.latest.lookup intent.effectId = none)
      (hstate : intent.state = .requested) : Step edge store (store.write none intent)
  | move {store : Store} {old intent : Intent}
      (hold : store.latest.lookup intent.effectId = some old)
      (hedge : edge intent.effectId old.state intent.state)
      : Step edge store (store.write (some old.state) intent)
  | index {store : Store} (publicActions : FMap String PublicActionIndex)
      : Step edge store { store with publicActions }

abbrev Store.Steps (edge : Edge) : Store → Store → Prop :=
  Relation.ReflTransGen (Store.Step edge)

theorem steps_andThen {edge : Edge} {α β : Type} {store : Store} {first : Outcome Store α}
    {next : Store → α → Outcome Store β} (hfirst : Store.Steps edge store first.1)
    (hnext : ∀ a, first.2 = .ok a → Store.Steps edge first.1 (next first.1 a).1)
    : Store.Steps edge store (first.andThen next).1 := by
  apply Outcome.andThen_fst (Store.Steps edge store) hfirst
  intro a ha
  exact hfirst.trans (hnext a ha)

section

variable (env : Env) {edge : Edge}

variable {store : Store} {intent : Intent} {now : Int} {exactLaneDigest : String}
  {order : HashOrder String}

theorem lookup_of_loadExternalEffectIntent_some {effectId : String}
    (h : loadExternalEffectIntent env store effectId = .ok (some intent))
    : store.latest.lookup effectId = some intent := by
  unfold loadExternalEffectIntent at h
  split at h
  . injection h with h
    contradiction
  . next other hother =>
    split at h
    . contradiction
    . split at h
      . contradiction
      . injection h with h
        rw [hother, h]

theorem lookup_of_loadExternalEffectIntent_none {effectId : String}
    (h : loadExternalEffectIntent env store effectId = .ok none)
    : store.latest.lookup effectId = none := by
  unfold loadExternalEffectIntent at h
  split at h
  . next hnone => exact hnone
  . split at h
    . contradiction
    . split at h
      . contradiction
      . injection h with h
        contradiction

theorem persistTransition_cases (store : Store) (fromState : Option EffectState) (intent : Intent)
    : (∃ e, persistTransition env store fromState intent = (store, .error e))
        ∨ persistTransition env store fromState intent
          = (store.write fromState intent, .ok ()) := by
  unfold persistTransition
  split
  . next e _ =>
    left
    exact ⟨e, rfl⟩
  . split
    . left
      exact ⟨_, rfl⟩
    . right
      rfl

theorem steps_persistTransition {old : Intent}
    (hold : store.latest.lookup intent.effectId = some old)
    (hedge : edge intent.effectId old.state intent.state)
    : Store.Steps edge store (persistTransition env store (some old.state) intent).1 := by
  cases persistTransition_cases env store (some old.state) intent with
  | inl h =>
    cases h with
    | intro e h => rw [h]
  | inr h =>
    rw [h]
    apply Relation.ReflTransGen.single
    exact .move hold hedge

theorem steps_persistTransition_andThen {old : Intent} {α : Type}
    {result : Store → Unit → Except IoError α} (hold : store.latest.lookup old.effectId = some old)
    (hid : intent.effectId = old.effectId) (hedge : edge old.effectId old.state intent.state)
    : Store.Steps edge store
        ((persistTransition env store (some old.state) intent).andThen
          fun store u => (store, result store u)).1 := by
  apply steps_andThen
  . apply steps_persistTransition
    . rw [hid]
      exact hold
    . rw [hid]
      exact hedge
  . intro a _
    exact .refl

theorem steps_ensurePublicActionIndex (store : Store) (intent : Intent)
    (decision : ApprovalDecision)
    : Store.Steps edge store (ensurePublicActionIndex env store intent decision).1 := by
  unfold ensurePublicActionIndex
  split
  . exact .refl
  . dsimp only
    split
    . exact .refl
    . split
      . split
        . exact .refl
        . split
          . exact .refl
          . exact .refl
      . apply Relation.ReflTransGen.single
        exact .index _

theorem steps_ensureExternalEffectPublicActionIndexes (store : Store) (intent : Intent)
    : Store.Steps edge store (ensureExternalEffectPublicActionIndexes env store intent).1 := by
  unfold ensureExternalEffectPublicActionIndexes
  split
  . exact .refl
  . apply steps_andThen
    . apply steps_ensurePublicActionIndex
    . intro a _
      apply steps_ensurePublicActionIndex

theorem steps_advanceRequestedExternalEffect {policy : ConnectorApprovalPolicy}
    {inputs : RequestInputs} (hintent : store.latest.lookup intent.effectId = some intent)
    (hrequire : edge intent.effectId .requested .approvalRequired)
    (hdeny : edge intent.effectId .requested .denied)
    : Store.Steps edge store
        (advanceRequestedExternalEffect env store intent policy inputs).1 := by
  unfold advanceRequestedExternalEffect
  split
  . exact .refl
  . next hstate =>
    have hstate : intent.state = .requested := by simpa using hstate
    rw [← hstate] at hrequire hdeny ⊢
    dsimp only
    split
    . exact steps_persistTransition_andThen env hintent rfl hdeny
    all_goals
      apply steps_andThen
      . exact steps_persistTransition env hintent hrequire
      . intro _ _
        apply steps_andThen
        . apply steps_ensureExternalEffectPublicActionIndexes
        . intro _ _
          exact .refl

theorem steps_beginExternalEffectRequest {context : RequestContext}
    {descriptor : ElicitationDescriptor} {policy : ConnectorApprovalPolicy} {inputs : RequestInputs}
    (hrequire : ∀ effectId, edge effectId .requested .approvalRequired)
    (hdeny : ∀ effectId, edge effectId .requested .denied)
    : Store.Steps edge store
        (beginExternalEffectRequest env store context descriptor policy inputs).1 := by
  unfold beginExternalEffectRequest
  split
  . exact .refl
  . split
    . exact .refl
    . next latest hload =>
      have hlookup := lookup_of_loadExternalEffectIntent_some env hload
      have hid := store.keyed _ _ hlookup
      rw [← hid] at hlookup
      split
      . exact .refl
      . unfold replayExternalEffectRequest
        split
        . exact .refl
        . exact steps_advanceRequestedExternalEffect env hlookup (hrequire _) (hdeny _)
        . apply steps_andThen
          . apply steps_ensureExternalEffectPublicActionIndexes
          . intro _ _
            split
            . exact .refl
            . exact .refl
        all_goals exact .refl
    . next hload =>
      have hlookup := lookup_of_loadExternalEffectIntent_none env hload
      dsimp only
      generalize hintent : requestedIntent env context descriptor inputs.requestedAtMs = intent
      have hid : intent.effectId = effectIdOf env context descriptor := by
        rw [← hintent]
        rfl
      have hstate : intent.state = .requested := by
        rw [← hintent]
        rfl
      rw [← hid] at hlookup
      cases persistTransition_cases env store none intent with
      | inl h =>
        cases h with
        | intro e h => rw [h, Outcome.andThen_error]
      | inr h =>
        rw [h, Outcome.andThen_ok]
        apply Relation.ReflTransGen.head (Store.Step.create hlookup hstate)
        apply steps_advanceRequestedExternalEffect env _ (hrequire _) (hdeny _)
        simp [Store.write]

theorem resolveIntent_cases (intent : Intent) (token exactLaneDigest : String)
    (decision : ApprovalDecision) (nativeAction : Option InboundAction) (now : Int)
    : (∃ kind message,
          resolveIntent env intent token exactLaneDigest decision nativeAction now
            = .reject kind message)
        ∨ ∃ approvalToken, intent.approvalToken = some approvalToken
          ∧ intent.exactLaneDigest = exactLaneDigest
          ∧ nativeAction.any (nativeActionMismatch intent) = false
          ∧ tokenBindingMismatch intent approvalToken (sha256Tagged env (Text.utf8Bytes token))
            = false
          ∧ (nativeAction.isSome && nativeTokenUnbound intent approvalToken) = false
          ∧ resolveIntent env intent token exactLaneDigest decision nativeAction now
            = resolveBoundToken env intent approvalToken decision now := by
  unfold resolveIntent
  dsimp only
  split
  . exact .inl ⟨_, _, rfl⟩
  . next hlane =>
    split
    . exact .inl ⟨_, _, rfl⟩
    . next hnative =>
      split
      . exact .inl ⟨_, _, rfl⟩
      . next approvalToken htoken =>
        split
        . exact .inl ⟨_, _, rfl⟩
        . next hbinding =>
          split
          . exact .inl ⟨_, _, rfl⟩
          . next hunbound =>
            right
            refine ⟨approvalToken, htoken, ?_, ?_, ?_, ?_, rfl⟩
            . simpa using hlane
            . simpa using hnative
            . simpa using hbinding
            . simpa using hunbound

inductive BoundTokenCase (intent : Intent) (approvalToken : ApprovalToken)
    (decision : ApprovalDecision) (now : Int) : Resolution → Prop where
  | late (hlate : intent.expiryResolutionId.isSome = true ∨ approvalToken.expiresAtMs ≤ now)
      : BoundTokenCase intent approvalToken decision now
          { persist := none, result := .error tokenExpired }
  | expire (hlate : approvalToken.expiresAtMs ≤ now) (hfirst : intent.expiryResolutionId = none)
      (hstate : intent.state = .approvalRequired)
      : BoundTokenCase intent approvalToken decision now
          { persist := some (expireIntent env intent approvalToken now)
            result := .error tokenExpired }
  | replay (htime : now < approvalToken.expiresAtMs)
      (hconsumed : approvalToken.consumedAtMs.isSome = true)
      (hfirst : intent.expiryResolutionId = none) (hstate : intent.state = decision.state)
      : BoundTokenCase intent approvalToken decision now
          { persist := none, result := .ok intent }
  | fenced (message : String) (hstate : intent.state ≠ decision.state
        ∨ approvalToken.consumedAtMs = none)
      : BoundTokenCase intent approvalToken decision now (.reject .alreadyExists message)
  | consume (htime : now < approvalToken.expiresAtMs) (hfresh : approvalToken.consumedAtMs = none)
      (hfirst : intent.expiryResolutionId = none) (hstate : intent.state = .approvalRequired)
      : BoundTokenCase intent approvalToken decision now
          { persist := some (consumeIntent intent approvalToken decision now)
            result := .ok (consumeIntent intent approvalToken decision now) }

theorem resolveBoundToken_cases (intent : Intent) (approvalToken : ApprovalToken)
    (decision : ApprovalDecision) (now : Int)
    : BoundTokenCase env intent approvalToken decision now
        (resolveBoundToken env intent approvalToken decision now) := by
  unfold resolveBoundToken
  split
  . next h => exact .late (.inl h)
  . next hfirst =>
    have hfirst : intent.expiryResolutionId = none := by simpa using hfirst
    split
    . next hlate =>
      split
      . next hstate => exact .expire hlate hfirst hstate
      . exact .late (.inr hlate)
    . next htime =>
      have htime : now < approvalToken.expiresAtMs := by omega
      split
      . next hconsumed =>
        split
        . next hstate => exact .replay htime hconsumed hfirst hstate
        . next hstate => exact .fenced _ (.inl hstate)
      . next hfresh =>
        have hfresh : approvalToken.consumedAtMs = none := by simpa using hfresh
        split
        . exact .fenced _ (.inr hfresh)
        . next hstate =>
          apply BoundTokenCase.consume htime hfresh hfirst
          simpa using hstate

variable {token reason : String} {decision : ApprovalDecision}

theorem resolveIntent_persist {next : Intent} {nativeAction : Option InboundAction}
    (h : (resolveIntent env intent token exactLaneDigest decision nativeAction now).persist
      = some next)
    : intent.state = .approvalRequired ∧ next.effectId = intent.effectId
        ∧ (next.state = .approved ∨ next.state = .denied) := by
  cases resolveIntent_cases env intent token exactLaneDigest decision nativeAction now with
  | inl hreject =>
    obtain ⟨kind, message, hreject⟩ := hreject
    rw [hreject] at h
    contradiction
  | inr hbound =>
    obtain ⟨approvalToken, -, -, -, -, -, heq⟩ := hbound
    rw [heq] at h
    have hcase := resolveBoundToken_cases env intent approvalToken decision now
    generalize resolveBoundToken env intent approvalToken decision now = resolution at h hcase
    cases hcase with
    | late => contradiction
    | expire hlate hfirst hstate =>
      injection h with h
      rw [← h]
      exact ⟨hstate, rfl, .inr rfl⟩
    | replay => contradiction
    | fenced => contradiction
    | consume htime hfresh hfirst hstate =>
      injection h with h
      rw [← h]
      refine ⟨hstate, rfl, ?_⟩
      cases decision with
      | approve => exact .inl rfl
      | deny => exact .inr rfl

theorem steps_resolveExternalEffectApprovalLocked
    (hintent : store.latest.lookup intent.effectId = some intent)
    {nativeAction : Option InboundAction}
    (happrove : edge intent.effectId .approvalRequired .approved)
    (hdeny : edge intent.effectId .approvalRequired .denied)
    : Store.Steps edge store
        (resolveExternalEffectApprovalLocked env store intent token exactLaneDigest decision
          nativeAction now).1 := by
  unfold resolveExternalEffectApprovalLocked
  dsimp only
  split
  . exact .refl
  . next next hnext =>
    have hpersist := resolveIntent_persist env hnext
    apply steps_persistTransition_andThen env hintent hpersist.2.1
    rw [hpersist.1]
    cases hpersist.2.2 with
    | inl h =>
      rw [h]
      exact happrove
    | inr h =>
      rw [h]
      exact hdeny

theorem lookup_of_mem_boundedSnapshots (h : intent ∈ boundedSnapshots env store order)
    : store.latest.lookup intent.effectId = some intent := by
  unfold boundedSnapshots at h
  rw [List.mem_filter, List.mem_filterMap] at h
  cases h.1 with
  | intro effectId hlookup =>
    rw [store.keyed _ _ hlookup.2]
    exact hlookup.2

theorem lookup_of_findExternalEffectByToken {tokenDigest : String}
    (h : findExternalEffectByToken env store tokenDigest order = some intent)
    : store.latest.lookup intent.effectId = some intent := by
  unfold findExternalEffectByToken at h
  apply lookup_of_mem_boundedSnapshots env
  exact List.mem_of_find?_eq_some h

theorem steps_resolveExternalEffectApproval
    (happrove : ∀ effectId, edge effectId .approvalRequired .approved)
    (hdeny : ∀ effectId, edge effectId .approvalRequired .denied)
    : Store.Steps edge store
        (resolveExternalEffectApproval env store token exactLaneDigest decision now order).1 := by
  unfold resolveExternalEffectApproval
  split
  . exact .refl
  . dsimp only
    split
    . exact .refl
    . next intent hfind =>
      apply steps_resolveExternalEffectApprovalLocked env _ (happrove _) (hdeny _)
      exact lookup_of_findExternalEffectByToken env hfind

theorem steps_resolveExternalEffectChannelAction {action : InboundAction}
    (happrove : ∀ effectId, edge effectId .approvalRequired .approved)
    (hdeny : ∀ effectId, edge effectId .approvalRequired .denied)
    : Store.Steps edge store
        (resolveExternalEffectChannelAction env store action exactLaneDigest now).1 := by
  unfold resolveExternalEffectChannelAction
  split
  . exact .refl
  . split
    . exact .refl
    . split
      . exact .refl
      . exact .refl
      . next intent hload =>
        have hlookup := lookup_of_loadExternalEffectIntent_some env hload
        apply steps_resolveExternalEffectApprovalLocked env _ (happrove _) (hdeny _)
        rw [store.keyed _ _ hlookup]
        exact hlookup

theorem steps_resolveExternalEffectPublicChannelAction {request : PublicActionRequest}
    (happrove : ∀ effectId, edge effectId .approvalRequired .approved)
    (hdeny : ∀ effectId, edge effectId .approvalRequired .denied)
    : Store.Steps edge store
        (resolveExternalEffectPublicChannelAction env store request now).1 := by
  unfold resolveExternalEffectPublicChannelAction
  split
  . exact .refl
  . exact steps_resolveExternalEffectChannelAction env happrove hdeny

theorem steps_expireEffect (now : Int) (effectId : String)
    (hdeny : ∀ effectId, edge effectId .approvalRequired .denied)
    : Store.Steps edge store (expireEffect env store now effectId).1 := by
  unfold expireEffect
  split
  . exact .refl
  . exact .refl
  . next intent hload =>
    have hlookup := lookup_of_loadExternalEffectIntent_some env hload
    rw [← store.keyed _ _ hlookup] at hlookup
    split
    . split
      . exact .refl
      . exact .refl
    . split
      . exact .refl
      . next hstate =>
        have hstate : intent.state = .approvalRequired := by simpa using hstate
        split
        . exact .refl
        . split
          . exact .refl
          . dsimp only
            apply steps_persistTransition_andThen env hlookup
            . rfl
            . rw [hstate]
              apply hdeny

theorem steps_expireEffects {effectIds : List String}
    (hdeny : ∀ effectId, edge effectId .approvalRequired .denied)
    : Store.Steps edge store (expireEffects env store now effectIds).1 := by
  induction effectIds generalizing store with
  | nil => exact .refl
  | cons effectId rest ih =>
    unfold expireEffects
    apply steps_andThen (steps_expireEffect env now effectId hdeny)
    intro resolution _
    apply steps_andThen
    . apply ih
    . intro _ _
      exact .refl

theorem steps_reconcileExpiredExternalEffectApprovals {request : ExpiryRequest}
    (hdeny : ∀ effectId, edge effectId .approvalRequired .denied)
    : Store.Steps edge store (reconcileExpiredExternalEffectApprovals env store request).1 := by
  unfold reconcileExpiredExternalEffectApprovals
  split
  . exact .refl
  . split
    . exact .refl
    . apply steps_andThen
      . exact steps_expireEffects env hdeny
      . intro _ _
        exact .refl

theorem fenceIntent_some {next : Intent}
    (h : fenceIntent intent exactLaneDigest reason now = some next)
    : intent.exactLaneDigest = exactLaneDigest
        ∧ (intent.state = .approvalRequired ∨ intent.state = .approved)
        ∧ next.effectId = intent.effectId ∧ next.state = .denied := by
  unfold fenceIntent at h
  split at h
  . contradiction
  . next hguard =>
    simp only [Bool.or_eq_true, decide_eq_true_eq, Bool.not_eq_true', Bool.or_eq_false_iff,
      not_or, not_and_or, decide_eq_false_iff_not, not_not] at hguard
    injection h with h
    rw [← h]
    exact ⟨hguard.1, hguard.2, rfl, rfl⟩

theorem steps_fenceEffects {effectIds : List String}
    (hpending : ∀ effectId, edge effectId .approvalRequired .denied)
    (happroved : ∀ effectId, edge effectId .approved .denied)
    : Store.Steps edge store
        (fenceEffects env store exactLaneDigest reason now effectIds).1 := by
  induction effectIds generalizing store with
  | nil => exact .refl
  | cons effectId rest ih =>
    unfold fenceEffects
    dsimp only
    split
    . exact ih
    . next intent hsnapshot =>
      have hlookup := (Option.filter_eq_some_iff.mp hsnapshot).1
      rw [← store.keyed _ _ hlookup] at hlookup
      split
      . exact ih
      . next next hnext =>
        have hfence := fenceIntent_some hnext
        have hhead : Store.Steps edge store
            (persistTransition env store (some intent.state) next).1 := by
          apply steps_persistTransition
          . rw [hfence.2.2.1]
            exact hlookup
          . rw [hfence.2.2.2]
            cases hfence.2.1 with
            | inl h =>
              rw [h]
              apply hpending
            | inr h =>
              rw [h]
              apply happroved
        apply steps_andThen hhead
        intro _ _
        apply steps_andThen
        . apply ih
        . intro _ _
          exact .refl

theorem steps_fenceExternalEffectsForLane
    (hpending : ∀ effectId, edge effectId .approvalRequired .denied)
    (happroved : ∀ effectId, edge effectId .approved .denied)
    : Store.Steps edge store
        (fenceExternalEffectsForLane env store exactLaneDigest reason now order).1 := by
  unfold fenceExternalEffectsForLane
  split
  . exact .refl
  . exact steps_fenceEffects env hpending happroved

theorem transitionExternalEffect_cases (store : Store) (effectId : String) (next : EffectState)
    (reason : String) (now : Int)
    : (transitionExternalEffect env store effectId next reason now).1 = store
        ∨ ∃ old, store.latest.lookup effectId = some old
          ∧ validTransition old.state next = true
          ∧ (transitionExternalEffect env store effectId next reason now).1
            = store.write (some old.state) (movedIntent old next reason now) := by
  unfold transitionExternalEffect
  split
  . exact .inl rfl
  . exact .inl rfl
  . next intent hload =>
    have hlookup := lookup_of_loadExternalEffectIntent_some env hload
    split
    . exact .inl rfl
    . split
      . exact .inl rfl
      . next hvalid =>
        dsimp only
        cases persistTransition_cases env store (some intent.state)
            (movedIntent intent next reason now) with
        | inl h =>
          cases h with
          | intro e h =>
            rw [h]
            exact .inl rfl
        | inr h =>
          rw [h]
          right
          refine ⟨intent, hlookup, ?_, rfl⟩
          simpa using hvalid

end

end ExternalEffect
