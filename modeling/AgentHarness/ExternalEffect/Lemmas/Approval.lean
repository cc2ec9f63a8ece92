import AgentHarness.ExternalEffect.Lemmas.Log

/-!
Approval resolutions. A token moves its effect once: with the exact lane and generation, before it
expires and before it is consumed.
-/

namespace ExternalEffect

inductive ApprovalCall where
  | byToken (token exactLaneDigest : String) (decision : ApprovalDecision) (now : Int)
      (order : HashOrder String)
  | channel (action : InboundAction) (exactLaneDigest : String) (now : Int)
  | publicAction (request : PublicActionRequest) (now : Int)

def ApprovalCall.resolve (env : Env) (store : Store) (call : ApprovalCall) : Outcome Store Intent :=
  match call with
  | .byToken token exactLaneDigest decision now order =>
    resolveExternalEffectApproval env store token exactLaneDigest decision now order
  | .channel action exactLaneDigest now =>
    resolveExternalEffectChannelAction env store action exactLaneDigest now
  | .publicAction request now => resolveExternalEffectPublicChannelAction env store request now

/-
What a resolution brings to the effect it has found.
-/
structure Presented where
  intent : Intent
  token : String
  exactLaneDigest : String
  decision : ApprovalDecision
  nativeAction : Option InboundAction
  now : Int

def presentedChannelAction (env : Env) (store : Store) (action : InboundAction)
    (exactLaneDigest : String) (now : Int)
    : Except IoError Presented :=
  match action.validate with
  | .error e =>
    .error {
      kind := .permissionDenied
      message := s!"invalid channel approval action: {e.display}" }
  | .ok () =>
    match validateDigest exactLaneDigest "exact lane digest" with
    | .error e => .error e
    | .ok () =>
      match loadExternalEffectIntent env store action.effectId with
      | .error e => .error e
      | .ok none => .error channelEffectNotFound
      | .ok (some intent) =>
        .ok {
          intent
          token := action.callbackToken
          exactLaneDigest
          decision := action.decision
          nativeAction := some action
          now }

def ApprovalCall.presented (env : Env) (store : Store) (call : ApprovalCall)
    : Except IoError Presented :=
  match call with
  | .byToken token exactLaneDigest decision now order =>
    match validateDigest exactLaneDigest "exact lane digest" with
    | .error e => .error e
    | .ok () =>
      match findExternalEffectByToken env store (sha256Tagged env (Text.utf8Bytes token)) order with
      | none =>
        .error { kind := .notFound, message := "connector approval token was not found" }
      | some intent =>
        .ok { intent, token, exactLaneDigest, decision, nativeAction := none, now }
  | .channel action exactLaneDigest now =>
    presentedChannelAction env store action exactLaneDigest now
  | .publicAction request now =>
    match publicActionInput env store request with
    | .error e => .error e
    | .ok action => presentedChannelAction env store action request.exactLaneDigest now

def Presented.resolve (env : Env) (store : Store) (p : Presented) : Outcome Store Intent :=
  resolveExternalEffectApprovalLocked env store p.intent p.token p.exactLaneDigest p.decision
    p.nativeAction p.now

/-
The presented token, lane and generation are those of the effect.
-/
structure Presented.Bound (env : Env) (p : Presented) (token : ApprovalToken) : Prop where
  stored : p.intent.approvalToken = some token
  digest : sha256Tagged env (Text.utf8Bytes p.token) = token.tokenDigest
  lane : p.exactLaneDigest = p.intent.exactLaneDigest
  tokenLane : token.exactLaneDigest = p.intent.exactLaneDigest
  generation : token.approvalGeneration = p.intent.approvalGeneration
  nativeGeneration : ∀ action, p.nativeAction = some action
    → action.approvalGeneration = p.intent.approvalGeneration

/-
The binding checks of the resolution, as the code makes them.
-/
structure Presented.Matches (env : Env) (p : Presented) (token : ApprovalToken) : Prop where
  stored : p.intent.approvalToken = some token
  lane : p.intent.exactLaneDigest = p.exactLaneDigest
  native : p.nativeAction.any (nativeActionMismatch p.intent) = false
  binding : tokenBindingMismatch p.intent token (sha256Tagged env (Text.utf8Bytes p.token)) = false
  nativeBinding : (p.nativeAction.isSome && nativeTokenUnbound p.intent token) = false

section

variable (env : Env)

theorem resolveExternalEffectChannelAction_eq (store : Store) (action : InboundAction)
    (exactLaneDigest : String) (now : Int)
    : resolveExternalEffectChannelAction env store action exactLaneDigest now
        = match presentedChannelAction env store action exactLaneDigest now with
          | .error e => (store, .error e)
          | .ok p => p.resolve env store := by
  unfold resolveExternalEffectChannelAction presentedChannelAction
  cases action.validate with
  | error e => rfl
  | ok u =>
    cases validateDigest exactLaneDigest "exact lane digest" with
    | error e => rfl
    | ok u =>
      cases loadExternalEffectIntent env store action.effectId with
      | error e => rfl
      | ok found =>
        cases found with
        | none => rfl
        | some intent => rfl

theorem resolve_eq (store : Store) (call : ApprovalCall)
    : call.resolve env store
        = match call.presented env store with
          | .error e => (store, .error e)
          | .ok p => p.resolve env store := by
  cases call with
  | byToken token exactLaneDigest decision now order =>
    unfold ApprovalCall.resolve ApprovalCall.presented resolveExternalEffectApproval
    dsimp only
    cases validateDigest exactLaneDigest "exact lane digest" with
    | error e => rfl
    | ok u =>
      dsimp only
      cases findExternalEffectByToken env store (sha256Tagged env (Text.utf8Bytes token)) order with
      | none => rfl
      | some intent => rfl
  | channel action exactLaneDigest now =>
    exact resolveExternalEffectChannelAction_eq env store action exactLaneDigest now
  | publicAction request now =>
    unfold ApprovalCall.resolve ApprovalCall.presented resolveExternalEffectPublicChannelAction
    dsimp only
    cases publicActionInput env store request with
    | error e => rfl
    | ok action => exact resolveExternalEffectChannelAction_eq env store _ _ now

variable {store : Store} {p : Presented} {call : ApprovalCall} {intent : Intent}
  {token : ApprovalToken}

theorem presented_byToken {token exactLaneDigest : String} {decision : ApprovalDecision} {now : Int}
    {order : HashOrder String} (hlane : validateDigest exactLaneDigest "exact lane digest" = .ok ())
    (hfind : findExternalEffectByToken env store (sha256Tagged env (Text.utf8Bytes token)) order
      = some intent)
    : (ApprovalCall.byToken token exactLaneDigest decision now order).presented env store
        = .ok { intent, token, exactLaneDigest, decision, nativeAction := none, now } := by
  unfold ApprovalCall.presented
  dsimp only
  rw [hlane]
  dsimp only
  rw [hfind]

theorem lookup_of_presentedChannelAction {action : InboundAction} {exactLaneDigest : String}
    {now : Int} (h : presentedChannelAction env store action exactLaneDigest now = .ok p)
    : store.latest.lookup p.intent.effectId = some p.intent := by
  unfold presentedChannelAction at h
  split at h
  . contradiction
  . split at h
    . contradiction
    . split at h
      . contradiction
      . contradiction
      . next intent hload =>
        have hlookup := lookup_of_loadExternalEffectIntent_some env hload
        injection h with h
        rw [← h]
        dsimp only
        rw [store.keyed _ _ hlookup]
        exact hlookup

theorem lookup_of_presented (h : call.presented env store = .ok p)
    : store.latest.lookup p.intent.effectId = some p.intent := by
  cases call with
  | byToken token exactLaneDigest decision now order =>
    unfold ApprovalCall.presented at h
    dsimp only at h
    split at h
    . contradiction
    . split at h
      . contradiction
      . next intent hfind =>
        injection h with h
        rw [← h]
        exact lookup_of_findExternalEffectByToken env hfind
  | channel action exactLaneDigest now => exact lookup_of_presentedChannelAction env h
  | publicAction request now =>
    unfold ApprovalCall.presented at h
    dsimp only at h
    split at h
    . contradiction
    . exact lookup_of_presentedChannelAction env h

/-
The outcomes of a resolution that has found its effect.
-/
inductive ResolveCase (store : Store) (p : Presented) : Outcome Store Intent → Prop where
  | reject (e : IoError) : ResolveCase store p (store, .error e)
  | expire (token : ApprovalToken) (hmatch : p.Matches env token)
      (hlate : token.expiresAtMs ≤ p.now) (hstate : p.intent.state = .approvalRequired)
      : ResolveCase store p
          (store.write (some .approvalRequired) (expireIntent env p.intent token p.now),
            .error tokenExpired)
  | replay (token : ApprovalToken) (hmatch : p.Matches env token)
      (htime : p.now < token.expiresAtMs) (hconsumed : token.consumedAtMs.isSome = true)
      (hfirst : p.intent.expiryResolutionId = none) (hstate : p.intent.state = p.decision.state)
      : ResolveCase store p (store, .ok p.intent)
  | consume (token : ApprovalToken) (hmatch : p.Matches env token)
      (htime : p.now < token.expiresAtMs) (hfresh : token.consumedAtMs = none)
      (hfirst : p.intent.expiryResolutionId = none)
      (hstate : p.intent.state = .approvalRequired)
      : ResolveCase store p
          (store.write (some .approvalRequired) (consumeIntent p.intent token p.decision p.now),
            .ok (consumeIntent p.intent token p.decision p.now))

theorem Presented.Matches.bound (hmatch : p.Matches env token)
    : p.Bound env token := by
  have hbinding := hmatch.binding
  have hnative := hmatch.native
  simp only [tokenBindingMismatch, Bool.or_eq_false_iff, decide_eq_false_iff_not, ne_eq,
    not_not] at hbinding
  refine ⟨hmatch.stored, hbinding.1.1.1.1.2.symm, hmatch.lane.symm, hbinding.1.1.2, hbinding.2, ?_⟩
  intro action haction
  simp only [haction, Option.any_some, nativeActionMismatch, Bool.or_eq_false_iff,
    decide_eq_false_iff_not, ne_eq, not_not] at hnative
  exact hnative.1.1.1.1.2

theorem resolve_cases (store : Store) (p : Presented)
    : ResolveCase env store p (p.resolve env store) := by
  unfold Presented.resolve resolveExternalEffectApprovalLocked
  dsimp only
  cases resolveIntent_cases env p.intent p.token p.exactLaneDigest p.decision p.nativeAction p.now
  with
  | inl hreject =>
    obtain ⟨kind, message, hreject⟩ := hreject
    rw [hreject]
    exact .reject _
  | inr hmatch =>
    obtain ⟨token, htoken, hlane, hnative, hbinding, hunbound, heq⟩ := hmatch
    have hmatch : p.Matches env token := ⟨htoken, hlane, hnative, hbinding, hunbound⟩
    rw [heq]
    have hcase := resolveBoundToken_cases env p.intent token p.decision p.now
    generalize resolveBoundToken env p.intent token p.decision p.now = resolution at hcase
    cases hcase with
    | late hlate => exact .reject _
    | expire hlate hfirst hstate =>
      dsimp only
      rw [hstate]
      cases persistTransition_cases env store (some .approvalRequired)
          (expireIntent env p.intent token p.now) with
      | inl h =>
        obtain ⟨e, h⟩ := h
        rw [h]
        exact .reject e
      | inr h =>
        rw [h]
        exact .expire token hmatch hlate hstate
    | replay htime hconsumed hfirst hstate => exact .replay token hmatch htime hconsumed hfirst hstate
    | fenced message hstate => exact .reject _
    | consume htime hfresh hfirst hstate =>
      dsimp only
      rw [hstate]
      cases persistTransition_cases env store (some .approvalRequired)
          (consumeIntent p.intent token p.decision p.now) with
      | inl h =>
        obtain ⟨e, h⟩ := h
        rw [h]
        exact .reject e
      | inr h =>
        rw [h]
        exact .consume token hmatch htime hfresh hfirst hstate

theorem resolveIntent_of_matches (hmatch : p.Matches env token)
    : resolveIntent env p.intent p.token p.exactLaneDigest p.decision p.nativeAction p.now
        = resolveBoundToken env p.intent token p.decision p.now := by
  have hstored := hmatch.stored
  have hlane := hmatch.lane
  have hnative := hmatch.native
  have hbinding := hmatch.binding
  have hunbound := hmatch.nativeBinding
  unfold resolveIntent
  simp only [hlane, ne_eq, not_true_eq_false, ↓reduceIte, hnative, Bool.false_eq_true, hstored,
    hbinding, hunbound]

theorem resolve_replay (store : Store) (hmatch : p.Matches env token)
    (hconsumed : token.consumedAtMs.isSome = true) (hfirst : p.intent.expiryResolutionId = none)
    (hstate : p.intent.state = p.decision.state)
    : p.resolve env store
        = (store, if p.now < token.expiresAtMs then .ok p.intent else .error tokenExpired) := by
  have hwaiting : p.intent.state ≠ .approvalRequired := by
    rw [hstate]
    cases p.decision <;> simp [ApprovalDecision.state]
  unfold Presented.resolve resolveExternalEffectApprovalLocked
  rw [resolveIntent_of_matches env hmatch]
  unfold resolveBoundToken
  by_cases htime : p.now < token.expiresAtMs
  . have hnot : ¬token.expiresAtMs ≤ p.now := by omega
    simp [hfirst, hnot, hconsumed, hstate, htime]
  . have hlate : token.expiresAtMs ≤ p.now := by omega
    simp [hfirst, hlate, hwaiting, htime]

theorem outcome_cases (store : Store) (call : ApprovalCall)
    : (∃ e, call.resolve env store = (store, .error e))
        ∨ ∃ p, call.presented env store = .ok p
          ∧ store.latest.lookup p.intent.effectId = some p.intent
          ∧ ResolveCase env store p (call.resolve env store) := by
  rw [resolve_eq]
  cases hpresented : call.presented env store with
  | error e => exact .inl ⟨e, rfl⟩
  | ok p =>
    right
    exact ⟨p, rfl, lookup_of_presented env hpresented, resolve_cases env store p⟩

def settle (store : Store) (calls : List ApprovalCall) : Store :=
  Run.exec (fun store call => (call.resolve env store).1) store calls

theorem resolve_keeps {effectId : String} (hlookup : store.latest.lookup effectId = some intent)
    (hstate : intent.state ≠ .approvalRequired) (call : ApprovalCall)
    : (call.resolve env store).1.latest.lookup effectId = some intent
        ∧ effectRows (call.resolve env store).1 effectId = effectRows store effectId := by
  have hwrite : ∀ p : Presented, store.latest.lookup p.intent.effectId = some p.intent
      → p.intent.state = .approvalRequired → p.intent.effectId ≠ effectId := by
    intro p hp hwaiting hid
    rw [hid, hlookup] at hp
    injection hp with hp
    rw [← hp] at hwaiting
    exact hstate hwaiting
  have hother : ∀ next : Intent, next.effectId ≠ effectId →
      (store.write (some .approvalRequired) next).latest.lookup effectId = some intent
        ∧ effectRows (store.write (some .approvalRequired) next) effectId
          = effectRows store effectId := by
    intro next hne
    refine ⟨?_, ?_⟩
    . simp only [Store.write, FMap.lookup_insert_eq]
      rw [if_neg, hlookup]
      exact fun h => hne h.symm
    . rw [effectRows_write, if_neg hne]
  cases outcome_cases env store call with
  | inl h =>
    obtain ⟨e, h⟩ := h
    rw [h]
    exact ⟨hlookup, rfl⟩
  | inr h =>
    obtain ⟨p, -, hp, hcase⟩ := h
    generalize call.resolve env store = outcome at hcase
    cases hcase with
    | reject e => exact ⟨hlookup, rfl⟩
    | expire token hmatch hlate hwaiting =>
      apply hother
      exact hwrite p hp hwaiting
    | replay => exact ⟨hlookup, rfl⟩
    | consume token hmatch htime hfresh hfirst hwaiting =>
      apply hother
      exact hwrite p hp hwaiting

theorem settle_keeps {effectId : String} (hlookup : store.latest.lookup effectId = some intent)
    (hstate : intent.state ≠ .approvalRequired) (calls : List ApprovalCall)
    : (settle env store calls).latest.lookup effectId = some intent
        ∧ effectRows (settle env store calls) effectId = effectRows store effectId := by
  apply Run.exec_invariant (fun s => s.latest.lookup effectId = some intent
    ∧ effectRows s effectId = effectRows store effectId) _ ⟨hlookup, rfl⟩ calls
  intro s call hs
  have hkeep := resolve_keeps env hs.1 hstate call
  rw [hkeep.2]
  exact ⟨hkeep.1, hs.2⟩

theorem accepted_stored (hpresented : call.presented env store = .ok p)
    (haccepted : (call.resolve env store).2 = .ok intent)
    : (call.resolve env store).1.latest.lookup intent.effectId = some intent
        ∧ intent.effectId = p.intent.effectId
        ∧ intent.expiryResolutionId = none ∧ intent.state = p.decision.state
        ∧ ∃ token, token.consumedAtMs.isSome = true
          ∧ ({ p with intent } : Presented).Matches env token := by
  have hlookup := lookup_of_presented env hpresented
  have hcase := resolve_cases env store p
  rw [resolve_eq, hpresented] at haccepted ⊢
  dsimp only at haccepted ⊢
  generalize p.resolve env store = outcome at haccepted hcase ⊢
  cases hcase with
  | reject e => contradiction
  | expire => contradiction
  | replay token hmatch htime hconsumed hfirst hstate =>
    injection haccepted with haccepted
    subst haccepted
    exact ⟨hlookup, rfl, hfirst, hstate, token, hconsumed, hmatch⟩
  | consume token hmatch htime hfresh hfirst hstate =>
    injection haccepted with haccepted
    subst haccepted
    refine ⟨?_, rfl, hfirst, rfl, { token with consumedAtMs := some p.now }, rfl, ?_⟩
    . simp [Store.write]
    . exact ⟨rfl, hmatch.lane, hmatch.native, hmatch.binding, hmatch.nativeBinding⟩

theorem refused_of_not_matches (hstored : p.intent.approvalToken = some token)
    (hmatch : ¬p.Matches env token)
    : (p.resolve env store).1 = store ∧ ∃ e, (p.resolve env store).2 = .error e := by
  have hsame : ∀ {found}, p.Matches env found → found = token := by
    intro found hfound
    have := hfound.stored
    rw [hstored] at this
    injection this with this
    exact this.symm
  have hcase := resolve_cases env store p
  generalize p.resolve env store = outcome at hcase ⊢
  cases hcase with
  | reject e => exact ⟨rfl, e, rfl⟩
  | expire found hfound => exact absurd (hsame hfound ▸ hfound) hmatch
  | replay found hfound => exact absurd (hsame hfound ▸ hfound) hmatch
  | consume found hfound => exact absurd (hsame hfound ▸ hfound) hmatch

/-
The same presentation again, later and possibly after other resolutions.
-/
def Presented.Repeats (p q : Presented) : Prop :=
  q.intent.effectId = p.intent.effectId ∧ q.token = p.token
    ∧ q.exactLaneDigest = p.exactLaneDigest ∧ q.decision = p.decision
    ∧ q.nativeAction = p.nativeAction

theorem replay_of_accepted (hpresented : call.presented env store = .ok p)
    (haccepted : (call.resolve env store).2 = .ok intent) (between : List ApprovalCall)
    {again : ApprovalCall} {q : Presented}
    (hagain : again.presented env (settle env (call.resolve env store).1 between) = .ok q)
    (hqid : q.intent.effectId = p.intent.effectId) (hdecision : q.decision = p.decision)
    : ∃ token, intent.approvalToken = some token
        ∧ (again.resolve env (settle env (call.resolve env store).1 between)).1
          = settle env (call.resolve env store).1 between
        ∧ (q.Matches env token
          → (again.resolve env (settle env (call.resolve env store).1 between)).2
            = if q.now < token.expiresAtMs then .ok intent else .error tokenExpired)
        ∧ (¬q.Matches env token
          → ∃ e, (again.resolve env (settle env (call.resolve env store).1 between)).2 = .error e) := by
  obtain ⟨hlookup, hid, hfirst, hstate, token, hconsumed, hmatch⟩ :=
    accepted_stored env hpresented haccepted
  have hsettled : intent.state ≠ .approvalRequired := by
    rw [hstate]
    cases p.decision <;> simp [ApprovalDecision.state]
  have hkept := (settle_keeps env hlookup hsettled between).1
  have hqintent : q.intent = intent := by
    have hq := lookup_of_presented env hagain
    rw [hqid, ← hid, hkept] at hq
    injection hq with hq
    exact hq.symm
  have hstored : q.intent.approvalToken = some token := by
    rw [hqintent]
    exact hmatch.stored
  rw [resolve_eq, hagain]
  dsimp only
  have hmatches : q.Matches env token
      → q.resolve env (settle env (call.resolve env store).1 between)
        = (settle env (call.resolve env store).1 between,
            if q.now < token.expiresAtMs then .ok intent else .error tokenExpired) := by
    intro hqmatch
    rw [resolve_replay env _ hqmatch hconsumed, hqintent]
    . rw [hqintent]
      exact hfirst
    . rw [hqintent, hdecision]
      exact hstate
  refine ⟨token, hmatch.stored, ?_, fun hqmatch => by rw [hmatches hqmatch], ?_⟩
  . by_cases hqmatch : q.Matches env token
    . rw [hmatches hqmatch]
    . exact (refused_of_not_matches env hstored hqmatch).1
  . intro hqmatch
    exact (refused_of_not_matches env hstored hqmatch).2

theorem moved_of_resolve {effectId : String} {state : EffectState}
    (hwaiting : effectState store effectId = some .approvalRequired)
    (hmoved : effectState (call.resolve env store).1 effectId = some state)
    (hne : state ≠ .approvalRequired)
    : ∃ p token, call.presented env store = .ok p ∧ p.intent.effectId = effectId
        ∧ p.Bound env token
        ∧ ((p.now < token.expiresAtMs ∧ token.consumedAtMs = none ∧ state = p.decision.state
            ∧ (call.resolve env store).2 = .ok (consumeIntent p.intent token p.decision p.now))
          ∨ (token.expiresAtMs ≤ p.now ∧ state = .denied
            ∧ (call.resolve env store).2 = .error tokenExpired)) := by
  have hunmoved : effectState store effectId ≠ some state := by
    rw [hwaiting]
    intro h
    injection h with h
    exact hne h.symm
  cases outcome_cases env store call with
  | inl h =>
    obtain ⟨e, h⟩ := h
    rw [h] at hmoved
    exact absurd hmoved hunmoved
  | inr h =>
    obtain ⟨p, hpresented, -, hcase⟩ := h
    generalize call.resolve env store = outcome at hmoved hcase ⊢
    cases hcase with
    | reject e => exact absurd hmoved hunmoved
    | replay => exact absurd hmoved hunmoved
    | expire token hmatch hlate hstate =>
      rw [effectState_write] at hmoved
      split at hmoved
      . next hid =>
        injection hmoved with hmoved
        exact ⟨p, token, hpresented, hid, hmatch.bound, .inr ⟨hlate, hmoved.symm, rfl⟩⟩
      . exact absurd hmoved hunmoved
    | consume token hmatch htime hfresh hfirst hstate =>
      rw [effectState_write] at hmoved
      split at hmoved
      . next hid =>
        injection hmoved with hmoved
        exact ⟨p, token, hpresented, hid, hmatch.bound,
          .inl ⟨htime, hfresh, hmoved.symm, rfl⟩⟩
      . exact absurd hmoved hunmoved

theorem rejected_of_resolve {e : IoError} (he : (call.resolve env store).2 = .error e)
    : (call.resolve env store).1 = store
        ∨ ∃ p token, call.presented env store = .ok p ∧ p.Bound env token
          ∧ p.intent.state = .approvalRequired ∧ token.expiresAtMs ≤ p.now
          ∧ (call.resolve env store).1
            = store.write (some .approvalRequired) (expireIntent env p.intent token p.now)
          ∧ ∀ later, (settle env (call.resolve env store).1 later).latest.lookup
                p.intent.effectId = some (expireIntent env p.intent token p.now)
            ∧ effectRows (settle env (call.resolve env store).1 later) p.intent.effectId
              = effectRows (call.resolve env store).1 p.intent.effectId := by
  cases outcome_cases env store call with
  | inl h =>
    obtain ⟨e, h⟩ := h
    rw [h]
    exact .inl rfl
  | inr h =>
    obtain ⟨p, hpresented, -, hcase⟩ := h
    generalize call.resolve env store = outcome at he hcase ⊢
    cases hcase with
    | reject e => exact .inl rfl
    | replay => contradiction
    | consume => contradiction
    | expire token hmatch hlate hstate =>
      right
      refine ⟨p, token, hpresented, hmatch.bound, hstate, hlate, rfl, ?_⟩
      intro later
      apply settle_keeps env
      . have hid : (expireIntent env p.intent token p.now).effectId = p.intent.effectId := rfl
        simp [Store.write, hid]
      . simp [expireIntent]

theorem resolve_expired (hpresented : call.presented env store = .ok p)
    (hmatch : p.Matches env token) (hstate : p.intent.state = .approvalRequired)
    (hfirst : p.intent.expiryResolutionId = none) (hlate : token.expiresAtMs ≤ p.now)
    : call.resolve env store
        = (persistTransition env store (some .approvalRequired)
            (expireIntent env p.intent token p.now)).andThen
              fun store () => (store, .error tokenExpired) := by
  rw [resolve_eq, hpresented]
  dsimp only
  unfold Presented.resolve resolveExternalEffectApprovalLocked
  rw [resolveIntent_of_matches env hmatch]
  unfold resolveBoundToken
  simp [hfirst, hlate, hstate]

theorem approval_exact_and_consumed_once (store : Store) (call : ApprovalCall)
    : (∀ effectId state, effectState store effectId = some .approvalRequired
          → effectState (call.resolve env store).1 effectId = some state
          → state ≠ .approvalRequired
          → ∃ p token, call.presented env store = .ok p ∧ p.intent.effectId = effectId
            ∧ p.Bound env token
            ∧ ((p.now < token.expiresAtMs ∧ token.consumedAtMs = none
                ∧ state = p.decision.state
                ∧ (call.resolve env store).2
                  = .ok (consumeIntent p.intent token p.decision p.now))
              ∨ (token.expiresAtMs ≤ p.now ∧ state = .denied
                ∧ (call.resolve env store).2 = .error tokenExpired)))
        ∧ (∀ p intent, call.presented env store = .ok p
          → (call.resolve env store).2 = .ok intent
          → ∀ (between : List ApprovalCall) (again : ApprovalCall) (q : Presented),
            let store' := settle env (call.resolve env store).1 between
            again.presented env store' = .ok q → q.intent.effectId = p.intent.effectId
            → q.decision = p.decision
            → ∃ token, intent.approvalToken = some token
              ∧ (again.resolve env store').1 = store'
              ∧ (q.Matches env token → (again.resolve env store').2
                = if q.now < token.expiresAtMs then .ok intent else .error tokenExpired)
              ∧ (¬q.Matches env token → ∃ e, (again.resolve env store').2 = .error e))
        ∧ (∀ e, (call.resolve env store).2 = .error e
          → (call.resolve env store).1 = store
            ∨ ∃ p token, call.presented env store = .ok p ∧ p.Bound env token
              ∧ p.intent.state = .approvalRequired ∧ token.expiresAtMs ≤ p.now
              ∧ (call.resolve env store).1
                = store.write (some .approvalRequired) (expireIntent env p.intent token p.now)
              ∧ ∀ later, (settle env (call.resolve env store).1 later).latest.lookup
                    p.intent.effectId = some (expireIntent env p.intent token p.now)
                ∧ effectRows (settle env (call.resolve env store).1 later) p.intent.effectId
                  = effectRows (call.resolve env store).1 p.intent.effectId)
        ∧ (∀ p token, call.presented env store = .ok p → p.Matches env token
          → p.intent.state = .approvalRequired → p.intent.expiryResolutionId = none
          → token.expiresAtMs ≤ p.now
          → call.resolve env store
            = (persistTransition env store (some .approvalRequired)
                (expireIntent env p.intent token p.now)).andThen
                  fun store () => (store, .error tokenExpired)) := by
  refine ⟨?_, ?_, ?_, ?_⟩
  . intro effectId state hwaiting hmoved hne
    exact moved_of_resolve env hwaiting hmoved hne
  . intro p intent hpresented haccepted between again q store' hagain hqid hdecision
    exact replay_of_accepted env hpresented haccepted between hagain hqid hdecision
  . intro e he
    exact rejected_of_resolve env he
  . intro p token hpresented hmatch hstate hfirst hlate
    exact resolve_expired env hpresented hmatch hstate hfirst hlate

end

def sampleApprovedToken : ApprovalToken where
  token := sampleToken
  tokenDigest := sha256Tagged Env.small (Text.utf8Bytes sampleToken)
  effectId := sampleEffectId
  exactLaneDigest := sampleLane
  paramsDigest := sampleDescriptor.paramsDigest
  sourceSessionKeyDigest := sampleContext.sourceSessionKeyDigest
  approvalAuthorityDigest := sampleContext.approvalAuthorityDigest
  approvalGeneration := 1
  expiresAtMs := 901001
  consumedAtMs := some 1500

/-
The sample request after it was approved with its token at 1500.
-/
def sampleApprovedIntent : Intent where
  effectId := sampleEffectId
  exactLaneDigest := sampleLane
  logicalLineageId := sampleContext.logicalLineageId
  sourceQueueId := sampleContext.sourceQueueId
  sourceSessionKeyDigest := sampleContext.sourceSessionKeyDigest
  approvalAuthorityDigest := sampleContext.approvalAuthorityDigest
  connector := sampleDescriptor.connector
  action := sampleDescriptor.action
  paramsDigest := sampleDescriptor.paramsDigest
  approvalGeneration := 1
  state := .approved
  actionSummary := sampleDescriptor.actionSummary
  approvalToken := some sampleApprovedToken
  requestedAtMs := 1000
  updatedAtMs := 1500
  reason := some "explicit action token approved once"
  expiryResolutionId := none
  expiryNoticeId := none

def sampleApprovedStore : Store :=
  Store.empty.write (some .approvalRequired) sampleApprovedIntent

def sampleReplay (now : Int) : ApprovalCall :=
  .byToken sampleToken sampleLane .approve now (.insertion String)

def samplePresented (now : Int) : Presented where
  intent := sampleApprovedIntent
  token := sampleToken
  exactLaneDigest := sampleLane
  decision := .approve
  nativeAction := none
  now

theorem boundedSnapshots_single (env : Env) (store : Store) (intent : Intent)
    (hbytes : env.snapshotBytes intent ≤ maxEffectRecordBytes)
    (hkeys : store.latest.keys = [intent.effectId])
    (hlookup : store.latest.lookup intent.effectId = some intent)
    : boundedSnapshots env store (.insertion String) = [intent] := by
  simp [boundedSnapshots, HashOrder.insertion, hkeys, hlookup, hbytes]

theorem sampleReplay_presented (now : Int)
    : (sampleReplay now).presented Env.small sampleApprovedStore = .ok (samplePresented now) := by
  have hlane : validateDigest sampleLane "exact lane digest" = .ok () := by
    decide +kernel
  have hfind : findExternalEffectByToken Env.small sampleApprovedStore
      (sha256Tagged Env.small (Text.utf8Bytes sampleToken)) (.insertion String)
      = some sampleApprovedIntent := by
    have hsnapshots : boundedSnapshots Env.small sampleApprovedStore (.insertion String)
        = [sampleApprovedIntent] := by
      apply boundedSnapshots_single _ _ _ (by decide)
      . simp [sampleApprovedStore, Store.write, Store.empty]
      . simp [sampleApprovedStore, Store.write]
    have htoken : sampleApprovedIntent.approvalToken = some sampleApprovedToken := rfl
    have hdigest : sampleApprovedToken.tokenDigest
        = sha256Tagged Env.small (Text.utf8Bytes sampleToken) := rfl
    rw [findExternalEffectByToken, hsnapshots]
    simp only [List.find?_cons, htoken, Option.any_some, hdigest, decide_true]
  exact presented_byToken Env.small hlane hfind

theorem tokenBindingMismatch_eq_false {intent : Intent} {token : ApprovalToken}
    {tokenDigest : String} (hschema : token.schema = connectorApprovalTokenSchema)
    (hdigest : token.tokenDigest = tokenDigest) (heffect : token.effectId = intent.effectId)
    (hlane : token.exactLaneDigest = intent.exactLaneDigest)
    (hparams : token.paramsDigest = intent.paramsDigest)
    (hgeneration : token.approvalGeneration = intent.approvalGeneration)
    : tokenBindingMismatch intent token tokenDigest = false := by
  simp [tokenBindingMismatch, hschema, hdigest, heffect, hlane, hparams, hgeneration]

theorem samplePresented_matches (now : Int)
    : (samplePresented now).Matches Env.small sampleApprovedToken := by
  constructor
  . rfl
  . rfl
  . rfl
  . exact tokenBindingMismatch_eq_false rfl rfl rfl rfl rfl rfl
  . rfl

/-
A replay of an accepted approval after the token's time is answered as expired.
-/
theorem replay_after_expiry_rejected
    : ¬∀ (env : Env) (store : Store) (call again : ApprovalCall) (p q : Presented) (intent : Intent),
        call.presented env store = .ok p → (call.resolve env store).2 = .ok intent
        → again.presented env (call.resolve env store).1 = .ok q → p.Repeats q
        → again.resolve env (call.resolve env store).1
          = ((call.resolve env store).1, .ok intent) := by
  intro hclaim
  have hresolve : ∀ now, (sampleReplay now).resolve Env.small sampleApprovedStore
      = (sampleApprovedStore,
          if now < 901001 then .ok sampleApprovedIntent else .error tokenExpired) := by
    intro now
    rw [resolve_eq, sampleReplay_presented]
    exact resolve_replay Env.small _ (samplePresented_matches now) rfl rfl rfl
  have h := hclaim Env.small sampleApprovedStore (sampleReplay 2000) (sampleReplay 901001)
    (samplePresented 2000) (samplePresented 901001) sampleApprovedIntent
    (sampleReplay_presented 2000)
  rw [hresolve 2000] at h
  have hlate := h rfl (sampleReplay_presented 901001) ⟨rfl, rfl, rfl, rfl, rfl⟩
  rw [hresolve 901001] at hlate
  simp at hlate

end ExternalEffect
