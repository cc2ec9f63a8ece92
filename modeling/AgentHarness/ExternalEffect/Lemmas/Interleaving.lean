import AgentHarness.ExternalEffect.Interleaving

/-!
A fence wins over every approval it meets, as long as it does not persist between the load and the
persist of a resolution of the same effect.
-/

namespace ExternalEffect

/-
The lock: a resolver that has loaded an effect holds the lock, and the effect is still as loaded
unless the resolver is not going to approve it. All snapshots stay in their lanes.
-/
structure GuardInv (env : Env) (s : System) : Prop where
  held : ∀ i p, s.resolvers i = .holding p → s.guard = some i
  current : ∀ i p, s.resolvers i = .holding p
    → ∃ current, s.store.latest.lookup p.intent.effectId = some current
      ∧ current.exactLaneDigest = p.intent.exactLaneDigest
      ∧ (current = p.intent ∨ p.approves env = false)
  fenced : ∀ intent next entries, s.fence = .holding intent next entries
    → ∃ current, s.store.latest.lookup next.effectId = some current
      ∧ current.exactLaneDigest = next.exactLaneDigest

def FenceThread.remaining (fence : FenceThread) (effectId : String) : Prop :=
  match fence with
  | .idle => True
  | .reading entries => effectId ∈ entries
  | .holding _ next entries => effectId = next.effectId ∨ effectId ∈ entries
  | .done => False
  | .failed _ => True

/-
The fence's work on one effect: the snapshot stays in its lane, and once the fence has passed the
effect it is neither waiting nor approved.
-/
structure FenceInv (request : FenceRequest) (effectId : String) (s : System) : Prop where
  lane : ∃ intent, s.store.latest.lookup effectId = some intent
    ∧ intent.exactLaneDigest = request.exactLaneDigest
  loaded : ∀ intent next entries, s.fence = .holding intent next entries
    → next.state = .denied ∧ next.exactLaneDigest = request.exactLaneDigest
  passed : ¬s.fence.remaining effectId → ∀ intent, s.store.latest.lookup effectId = some intent
    → intent.state ≠ .approvalRequired ∧ intent.state ≠ .approved

theorem lookup_write (store : Store) (fromState : Option EffectState) (intent : Intent)
    (effectId : String)
    : (store.write fromState intent).latest.lookup effectId
        = if effectId = intent.effectId then some intent else store.latest.lookup effectId := by
  simp only [Store.write, FMap.lookup_insert_eq]

theorem setResolver_holding {s : System} {i j : Nat} {thread : ResolverThread} {p : Presented}
    (h : (s.setResolver i thread).resolvers j = .holding p)
    : (j = i ∧ thread = .holding p) ∨ (j ≠ i ∧ s.resolvers j = .holding p) := by
  simp only [System.setResolver] at h
  split at h
  . next hj => exact .inl ⟨hj, h⟩
  . next hj => exact .inr ⟨hj, h⟩

section

variable (env : Env) (request : FenceRequest)

variable {s : System} {effectId : String}

theorem guardInv_setResolver (hinv : GuardInv env s) {i : Nat} {thread : ResolverThread}
    (hthread : ∀ p, thread ≠ .holding p)
    : GuardInv env (s.setResolver i thread) := by
  constructor
  . intro j p h
    cases setResolver_holding h with
    | inl h => exact absurd h.2 (hthread p)
    | inr h => exact hinv.held j p h.2
  . intro j p h
    cases setResolver_holding h with
    | inl h => exact absurd h.2 (hthread p)
    | inr h => exact hinv.current j p h.2
  . exact hinv.fenced

theorem guardInv_fenceStart (hinv : GuardInv env s)
    : GuardInv env (fenceStart request s) := by
  unfold fenceStart
  split
  . split
    all_goals
      constructor
      . exact hinv.held
      . exact hinv.current
      . intro intent next entries h
        contradiction
  . exact hinv

theorem fenceIntent_lane {intent next : Intent} {exactLaneDigest reason : String} {now : Int}
    (h : fenceIntent intent exactLaneDigest reason now = some next)
    : next.exactLaneDigest = intent.exactLaneDigest := by
  unfold fenceIntent at h
  split at h
  . contradiction
  . injection h with h
    rw [← h]

theorem guardInv_fenceLoad (hinv : GuardInv env s)
    : GuardInv env (fenceLoad env request s) := by
  have hreading : ∀ fence : FenceThread,
      (∀ intent next entries, fence = .holding intent next entries
        → ∃ current, s.store.latest.lookup next.effectId = some current
          ∧ current.exactLaneDigest = next.exactLaneDigest)
      → GuardInv env { s with fence } := by
    intro fence hfence
    exact ⟨hinv.held, hinv.current, hfence⟩
  unfold fenceLoad
  split
  . apply hreading
    simp
  . dsimp only
    split
    . apply hreading
      simp
    . next intent hsome =>
      have hlookup := (Option.filter_eq_some_iff.mp hsome).1
      split
      . apply hreading
        simp
      . next next hnext =>
        apply hreading
        intro intent' next' entries h
        simp only [FenceThread.holding.injEq] at h
        refine ⟨intent, ?_, ?_⟩
        . rw [← h.2.1, (fenceIntent_some hnext).2.2.1, s.store.keyed _ _ hlookup]
          exact hlookup
        . rw [← h.2.1]
          exact (fenceIntent_lane hnext).symm
  . exact hinv

theorem guardInv_fencePersist (hinv : GuardInv env s) (hcond : fenceUndisturbed env s .fencePersist)
    : GuardInv env (fencePersist env s) := by
  unfold fencePersist
  split
  . next intent next rest hfence =>
    obtain ⟨fenced, hfenced, hlane⟩ := hinv.fenced intent next rest hfence
    cases persistTransition_cases env s.store (some intent.state) next with
    | inl h =>
      obtain ⟨e, h⟩ := h
      rw [h]
      refine ⟨hinv.held, hinv.current, ?_⟩
      simp
    | inr h =>
      rw [h]
      refine ⟨hinv.held, ?_, ?_⟩
      . intro i p hp
        obtain ⟨current, hcurrent, hcurrentLane, hsame⟩ := hinv.current i p hp
        dsimp only
        rw [lookup_write]
        split
        . next heq =>
          rw [heq, hfenced] at hcurrent
          injection hcurrent with hcurrent
          refine ⟨next, rfl, ?_, .inr (hcond intent next rest hfence i p hp heq)⟩
          rw [← hlane, hcurrent]
          exact hcurrentLane
        . exact ⟨current, hcurrent, hcurrentLane, hsame⟩
      . simp
  . exact hinv

theorem guardInv_loadResolver (hinv : GuardInv env s) (i : Nat)
    : GuardInv env (loadResolver env s i) := by
  have hfree : s.guard = none → ∀ j p, s.resolvers j ≠ .holding p := by
    intro hguard j p h
    have := hinv.held j p h
    rw [hguard] at this
    contradiction
  unfold loadResolver
  split
  . exact hinv
  . exact hinv
  . next call _ hguard _ =>
    split
    . apply guardInv_setResolver env hinv
      simp
    . next p hpresented =>
      constructor
      . intro j q h
        cases setResolver_holding h with
        | inl h => rw [h.1]
        | inr h => exact absurd h.2 (hfree hguard j q)
      . intro j q h
        cases setResolver_holding h with
        | inl h =>
          have hq := h.2
          injection hq with hq
          rw [← hq]
          exact ⟨p.intent, lookup_of_presented env hpresented, rfl, .inl rfl⟩
        | inr h => exact absurd h.2 (hfree hguard j q)
      . exact hinv.fenced
  . exact hinv

theorem resolve_lookup {p : Presented} {current : Intent}
    (hlookup : s.store.latest.lookup effectId = some current) (hlane : p.intent.effectId = effectId
      → current.exactLaneDigest = p.intent.exactLaneDigest)
    : ∃ intent, (p.resolve env s.store).1.latest.lookup effectId = some intent
        ∧ intent.exactLaneDigest = current.exactLaneDigest := by
  have hcase := resolve_cases env s.store p
  have hwrite : ∀ next : Intent, next.effectId = p.intent.effectId
      → next.exactLaneDigest = p.intent.exactLaneDigest
      → ∃ intent, (s.store.write (some .approvalRequired) next).latest.lookup effectId = some intent
        ∧ intent.exactLaneDigest = current.exactLaneDigest := by
    intro next hid hnext
    rw [lookup_write]
    split
    . next heq =>
      refine ⟨next, rfl, ?_⟩
      rw [hnext]
      apply Eq.symm
      apply hlane
      rw [heq, hid]
    . exact ⟨current, hlookup, rfl⟩
  generalize p.resolve env s.store = outcome at hcase
  cases hcase with
  | reject e => exact ⟨current, hlookup, rfl⟩
  | replay => exact ⟨current, hlookup, rfl⟩
  | expire token hmatch hlate hstate => exact hwrite (expireIntent env p.intent token p.now) rfl rfl
  | consume token hmatch htime hfresh hfirst hstate =>
    exact hwrite (consumeIntent p.intent token p.decision p.now) rfl rfl

theorem guardInv_persistResolver (hinv : GuardInv env s) (i : Nat)
    : GuardInv env (persistResolver env s i) := by
  unfold persistResolver
  split
  . next p hp =>
    have hother : ∀ j q, j ≠ i → s.resolvers j ≠ .holding q := by
      intro j q hne h
      have hi := hinv.held i p hp
      have hj := hinv.held j q h
      rw [hi] at hj
      injection hj with hj
      exact hne hj.symm
    refine ⟨?_, ?_, ?_⟩
    . intro j q h
      cases setResolver_holding h with
      | inl h => exact absurd h.2 (by simp)
      | inr h => exact absurd h.2 (hother j q h.1)
    . intro j q h
      cases setResolver_holding h with
      | inl h => exact absurd h.2 (by simp)
      | inr h => exact absurd h.2 (hother j q h.1)
    . intro intent next entries hfence
      obtain ⟨fenced, hfenced, hlane⟩ := hinv.fenced intent next entries hfence
      obtain ⟨current, hcurrent, hcurrentLane, -⟩ := hinv.current i p hp
      have hkept := resolve_lookup env (p := p) hfenced ?_
      . rw [hlane] at hkept
        exact hkept
      . intro hid
        rw [hid, hfenced] at hcurrent
        injection hcurrent with hcurrent
        rw [hcurrent]
        exact hcurrentLane
  . exact hinv

theorem guardInv_prepareResolver (hinv : GuardInv env s) (i : Nat)
    : GuardInv env (prepareResolver env s i) := by
  unfold prepareResolver
  split
  . split
    . apply guardInv_setResolver env hinv
      simp
    . apply guardInv_setResolver env hinv
      simp
  . exact hinv

theorem guardInv_step (s : System) (action : Action) (hinv : GuardInv env s)
    (hcond : fenceUndisturbed env s action)
    : GuardInv env (s.step env request action) := by
  cases action with
  | fenceStart => exact guardInv_fenceStart env request hinv
  | fenceLoad => exact guardInv_fenceLoad env request hinv
  | fencePersist => exact guardInv_fencePersist env hinv hcond
  | prepare i => exact guardInv_prepareResolver env hinv i
  | load i => exact guardInv_loadResolver env hinv i
  | persist i => exact guardInv_persistResolver env hinv i

theorem fenceInv_of_same {s' : System} (hinv : FenceInv request effectId s)
    (hstore : s'.store = s.store) (hfence : s'.fence = s.fence)
    : FenceInv request effectId s' := by
  constructor
  . rw [hstore]
    exact hinv.lane
  . rw [hfence]
    exact hinv.loaded
  . rw [hstore, hfence]
    exact hinv.passed

theorem fenceInv_fenceStart (hinv : FenceInv request effectId s)
    : FenceInv request effectId (fenceStart request s) := by
  unfold fenceStart
  split
  . split
    . constructor
      . exact hinv.lane
      . intro intent next entries h
        contradiction
      . intro h
        exact absurd trivial h
    . constructor
      . exact hinv.lane
      . intro intent next entries h
        contradiction
      . intro h intent hlookup
        have hmem : effectId ∈ request.order.keys s.store.latest.keys := by
          rw [HashOrder.mem_keys, FMap.mem_keys_iff]
          exact ⟨intent, hlookup⟩
        exact absurd hmem h
  . exact hinv

theorem fenceInv_advance {entry : String} {rest : List String} (hinv : FenceInv request effectId s)
    (hfence : s.fence = .reading (entry :: rest))
    (hentry : effectId = entry → ∀ intent, s.store.latest.lookup effectId = some intent
      → intent.state ≠ .approvalRequired ∧ intent.state ≠ .approved)
    : FenceInv request effectId { s with fence := .reading rest } := by
  constructor
  . exact hinv.lane
  . intro intent next entries h
    contradiction
  . intro h intent hlookup
    by_cases heq : effectId = entry
    . exact hentry heq intent hlookup
    . apply hinv.passed _ intent hlookup
      rw [hfence]
      intro hmem
      cases List.mem_cons.mp hmem with
      | inl hhead => exact heq hhead
      | inr htail => exact h htail

theorem fenceIntent_none {intent : Intent} {exactLaneDigest reason : String} {now : Int}
    (h : fenceIntent intent exactLaneDigest reason now = none)
    (hlane : intent.exactLaneDigest = exactLaneDigest)
    : intent.state ≠ .approvalRequired ∧ intent.state ≠ .approved := by
  unfold fenceIntent at h
  split at h
  . next hguard =>
    rw [hlane] at hguard
    simpa using hguard
  . contradiction

theorem fenceInv_fenceLoad (hinv : FenceInv request effectId s)
    (hcond : fenceUndisturbed env s .fenceLoad)
    : FenceInv request effectId (fenceLoad env request s) := by
  obtain ⟨current, hcurrent, hlane⟩ := hinv.lane
  unfold fenceLoad
  split
  . next hfence =>
    constructor
    . exact hinv.lane
    . intro intent next entries h
      contradiction
    . intro _ intent hlookup
      apply hinv.passed _ intent hlookup
      rw [hfence]
      simp [FenceThread.remaining]
  . next entry rest hfence =>
    dsimp only
    split
    . next hnone =>
      apply fenceInv_advance request hinv hfence
      intro heq
      have hbytes := hcond entry rest current hfence (by rw [← heq, hcurrent])
      rw [← heq, hcurrent] at hnone
      simp at hnone
      omega
    . next intent hsome =>
      have hlookup := (Option.filter_eq_some_iff.mp hsome).1
      split
      . next hskip =>
        apply fenceInv_advance request hinv hfence
        intro heq other hother
        rw [heq, hlookup] at hother
        injection hother with hother
        rw [heq, hlookup] at hcurrent
        injection hcurrent with hcurrent
        rw [← hother]
        rw [← hcurrent] at hlane
        exact fenceIntent_none hskip hlane
      . next next hnext =>
        have hdenial := fenceIntent_some hnext
        constructor
        . exact hinv.lane
        . intro intent' next' entries h
          simp only [FenceThread.holding.injEq] at h
          rw [← h.2.1, fenceIntent_lane hnext]
          exact ⟨hdenial.2.2.2, hdenial.1⟩
        . intro h other hother
          apply hinv.passed _ other hother
          rw [hfence]
          intro hmem
          apply h
          cases List.mem_cons.mp hmem with
          | inl hhead =>
            left
            rw [hdenial.2.2.1, s.store.keyed _ _ hlookup]
            exact hhead
          | inr htail =>
            right
            exact htail
  . exact hinv

theorem fenceInv_fencePersist (hinv : FenceInv request effectId s)
    : FenceInv request effectId (fencePersist env s) := by
  unfold fencePersist
  split
  . next intent next rest hfence =>
    have hnext := hinv.loaded intent next rest hfence
    cases persistTransition_cases env s.store (some intent.state) next with
    | inl h =>
      obtain ⟨e, h⟩ := h
      rw [h]
      constructor
      . exact hinv.lane
      . intro intent next entries h
        contradiction
      . intro h
        exact absurd trivial h
    | inr h =>
      rw [h]
      by_cases heq : effectId = next.effectId
      . have hlookup : (s.store.write (some intent.state) next).latest.lookup effectId
            = some next := by
          rw [lookup_write, if_pos heq]
        constructor
        . exact ⟨next, hlookup, hnext.2⟩
        . intro intent next entries h
          contradiction
        . intro _ other hother
          dsimp only at hother
          rw [hlookup] at hother
          injection hother with hother
          rw [← hother, hnext.1]
          simp
      . have hlookup : (s.store.write (some intent.state) next).latest.lookup effectId
            = s.store.latest.lookup effectId := by
          rw [lookup_write, if_neg heq]
        constructor
        . dsimp only
          rw [hlookup]
          exact hinv.lane
        . intro intent next entries h
          contradiction
        . intro h other hother
          dsimp only at hother
          rw [hlookup] at hother
          apply hinv.passed _ other hother
          rw [hfence]
          intro hmem
          cases hmem with
          | inl hhead => exact heq hhead
          | inr htail => exact h htail
  . exact hinv

theorem state_of_consume {p : Presented} {token : ApprovalToken} (hmatch : p.Matches env token)
    (htime : p.now < token.expiresAtMs) (hfresh : token.consumedAtMs = none)
    (hfirst : p.intent.expiryResolutionId = none) (hstate : p.intent.state = .approvalRequired)
    (happroves : p.approves env = false)
    : p.decision.state = .denied := by
  have hnot : ¬token.expiresAtMs ≤ p.now := by omega
  unfold Presented.approves at happroves
  rw [resolveIntent_of_matches env hmatch] at happroves
  simp only [resolveBoundToken, hfirst, Option.isSome_none, Bool.false_eq_true, ↓reduceIte, hnot,
    hfresh, hstate, ne_eq, not_true_eq_false, consumeIntent, Option.any_some,
    decide_eq_false_iff_not] at happroves
  cases hdecision : p.decision with
  | approve =>
    rw [hdecision] at happroves
    exact absurd rfl happroves
  | deny => rfl

theorem fenceInv_persistResolver (hinv : FenceInv request effectId s) (hguard : GuardInv env s)
    (i : Nat)
    : FenceInv request effectId (persistResolver env s i) := by
  unfold persistResolver
  split
  . next p hp =>
    obtain ⟨current, hcurrent, hcurrentLane, hsame⟩ := hguard.current i p hp
    refine ⟨?_, hinv.loaded, ?_⟩
    . obtain ⟨stored, hstored, hlane⟩ := hinv.lane
      have hkept := resolve_lookup env (p := p) hstored ?_
      . rw [hlane] at hkept
        exact hkept
      . intro hid
        rw [hid, hstored] at hcurrent
        injection hcurrent with hcurrent
        rw [hcurrent]
        exact hcurrentLane
    . intro hpassed
      have hbefore := hinv.passed hpassed
      -- a resolver that meets an effect behind the fence has loaded it before the denial, so it
      -- does not approve
      have hlater : p.intent.effectId = effectId → p.intent.state = .approvalRequired
          → p.approves env = false := by
        intro hid hwaiting
        cases hsame with
        | inl heq =>
          rw [hid] at hcurrent
          have := (hbefore current hcurrent).1
          rw [heq] at this
          exact absurd hwaiting this
        | inr h => exact h
      have hcase := resolve_cases env s.store p
      dsimp only
      generalize p.resolve env s.store = outcome at hcase
      cases hcase with
      | reject e => exact hbefore
      | replay => exact hbefore
      | expire token hmatch hlate hstate =>
        intro other hother
        dsimp only at hother
        rw [lookup_write] at hother
        split at hother
        . injection hother with hother
          rw [← hother]
          simp [expireIntent]
        . exact hbefore other hother
      | consume token hmatch htime hfresh hfirst hstate =>
        intro other hother
        dsimp only at hother
        rw [lookup_write] at hother
        split at hother
        . next heq =>
          injection hother with hother
          have hdenied := state_of_consume env hmatch htime hfresh hfirst hstate
            (hlater heq.symm hstate)
          rw [← hother]
          simp [consumeIntent, hdenied]
        . exact hbefore other hother
  . exact hinv

theorem fenceInv_step (s : System) (action : Action) (hguard : GuardInv env s)
    (hinv : FenceInv request effectId s) (hcond : fenceUndisturbed env s action)
    : FenceInv request effectId (s.step env request action) := by
  cases action with
  | fenceStart => exact fenceInv_fenceStart request hinv
  | fenceLoad => exact fenceInv_fenceLoad env request hinv hcond
  | fencePersist => exact fenceInv_fencePersist env request hinv
  | prepare i =>
    dsimp only [System.step]
    unfold prepareResolver
    split
    . split
      . exact fenceInv_of_same request hinv rfl rfl
      . exact fenceInv_of_same request hinv rfl rfl
    . exact hinv
  | load i =>
    dsimp only [System.step]
    unfold loadResolver
    split
    . exact hinv
    . exact hinv
    . split
      . exact fenceInv_of_same request hinv rfl rfl
      . exact fenceInv_of_same request hinv rfl rfl
    . exact hinv
  | persist i => exact fenceInv_persistResolver env request hinv hguard i

theorem guardInv_start (store : Store) (calls : Nat → ApprovalCall)
    : GuardInv env (System.start store calls) := by
  refine ⟨?_, ?_, ?_⟩
  . intro i p h
    contradiction
  . intro i p h
    contradiction
  . intro intent next entries h
    contradiction

theorem fence_wins_of_undisturbed (store : Store) (calls : Nat → ApprovalCall)
    (before after : List Action)
    (hcond : Run.Guarded (System.step env request) (fenceUndisturbed env) (System.start store calls)
      (before ++ .fenceStart :: after))
    : let atStart := Run.exec (System.step env request) (System.start store calls) before
      let final := Run.exec (System.step env request) (System.start store calls)
        (before ++ .fenceStart :: after)
      atStart.fence = .idle → final.fence = .done
      → ∀ effectId, fenceable atStart.store request.exactLaneDigest effectId
        → effectState final.store effectId ≠ some .approved := by
  intro atStart final hidle hdone effectId hfenceable
  rw [Run.guarded_append] at hcond
  have hguard : GuardInv env atStart :=
    Run.exec_invariant_of_guarded (GuardInv env) (guardInv_step env request)
      (guardInv_start env store calls) hcond.1
  have hstart : FenceInv request effectId atStart := by
    obtain ⟨intent, hlookup, hlane, -⟩ := hfenceable
    constructor
    . exact ⟨intent, hlookup, hlane⟩
    . intro intent next entries h
      rw [hidle] at h
      contradiction
    . rw [hidle]
      intro h
      exact absurd trivial h
  have hrun : GuardInv env final ∧ FenceInv request effectId final := by
    have hfinal : final
        = Run.exec (System.step env request) atStart (.fenceStart :: after) :=
      Run.exec_append _ _ _ _
    rw [hfinal]
    apply Run.exec_invariant_of_guarded
      (fun s => GuardInv env s ∧ FenceInv request effectId s) _ ⟨hguard, hstart⟩ hcond.2
    intro s action hs haction
    exact ⟨guardInv_step env request s action hs.1 haction,
      fenceInv_step env request s action hs.1 hs.2 haction⟩
  have hpassed := hrun.2.passed
  rw [hdone] at hpassed
  intro happroved
  simp only [effectState, Option.map_eq_some_iff] at happroved
  obtain ⟨intent, hlookup, hstate⟩ := happroved
  exact (hpassed (by simp [FenceThread.remaining]) intent hlookup).2 hstate

theorem loadResolver_fence (s : System) (i : Nat) : (loadResolver env s i).fence = s.fence := by
  unfold loadResolver
  split
  . rfl
  . rfl
  . split
    . rfl
    . rfl
  . rfl

theorem loadResolver_store (s : System) (i : Nat) : (loadResolver env s i).store = s.store := by
  unfold loadResolver
  split
  . rfl
  . rfl
  . split
    . rfl
    . rfl
  . rfl

theorem loadResolver_presented {s : System} {i : Nat} {call : ApprovalCall} {p : Presented}
    (hguard : s.guard = none) (hwaiting : s.resolvers i = .waiting call)
    (hcall : ∀ publicRequest now, call ≠ .publicAction publicRequest now)
    (hpresented : call.presented env s.store = .ok p)
    : loadResolver env s i = { s.setResolver i (.holding p) with guard := some i } := by
  unfold loadResolver
  rw [hguard, hwaiting]
  cases call with
  | publicAction publicRequest now => exact absurd rfl (hcall publicRequest now)
  | byToken token exactLaneDigest decision now order => simp only [hpresented]
  | channel action exactLaneDigest now => simp only [hpresented]

/-
The schedule that loses the fence: the resolution loads, the fence reads and persists its denial,
and the resolution persists what it had decided.
-/
def lostFence : List Action :=
  [Action.load 0] ++ Action.fenceStart :: [.fenceLoad, .fencePersist, .persist 0, .fenceLoad]

theorem exec_lostFence {store denied final : Store} {calls : Nat → ApprovalCall} {p : Presented}
    {denial : Intent} {result : Except IoError Intent}
    (hcall : ∀ publicRequest now, calls 0 ≠ .publicAction publicRequest now)
    (hpresented : (calls 0).presented env store = .ok p)
    (hlane : validateDigest request.exactLaneDigest "exact lane digest" = .ok ())
    (hentries : request.order.keys store.latest.keys = [p.intent.effectId])
    (hbytes : env.snapshotBytes p.intent ≤ maxEffectRecordBytes)
    (hdenial : fenceIntent p.intent request.exactLaneDigest request.reason request.now
      = some denial)
    (hfence : persistTransition env store (some p.intent.state) denial = (denied, .ok ()))
    (hresolve : p.resolve env denied = (final, result))
    : Run.exec (System.step env request) (System.start store calls) lostFence
        = { store := final
            guard := none
            fence := .done
            resolvers := ((System.start store calls).setResolver 0 (.finished result)).resolvers }
        := by
  have hlookup := lookup_of_presented env hpresented
  have hload := @loadResolver_presented env (System.start store calls) 0 _ _ rfl rfl hcall hpresented
  simp only [lostFence, List.cons_append, List.nil_append, Run.exec_cons, Run.exec_nil,
    System.step, hload]
  simp only [fenceStart, System.setResolver, System.start, hlane, hentries, fenceLoad, hlookup,
    Option.filter_some, hbytes, decide_true, ↓reduceIte, hdenial, fencePersist, hfence,
    persistResolver, hresolve]
  congr
  funext j
  by_cases hj : j = 0
  . simp [hj]
  . simp [hj]

/-
A schedule that keeps it: one resolution approves between the start of the fence and its load, and
another one, which is about to be refused, loads between the load of the fence and its persist.
-/
def keptFence : List Action :=
  [] ++ Action.fenceStart ::
    [.load 0, .persist 0, .fenceLoad, .load 1, .fencePersist, .persist 1, .fenceLoad]

theorem exec_keptFence {store approved denied : Store} {calls : Nat → ApprovalCall}
    {token token' lane lane' : String} {decision decision' : ApprovalDecision} {now now' : Int}
    {order order' : HashOrder String} {p q : Presented} {intent denial : Intent}
    {result refusal : Except IoError Intent}
    (hfirst : calls 0 = .byToken token lane decision now order)
    (hsecond : calls 1 = .byToken token' lane' decision' now' order')
    (hp : (ApprovalCall.byToken token lane decision now order).presented env store = .ok p)
    (hq : (ApprovalCall.byToken token' lane' decision' now' order').presented env approved = .ok q)
    (hlane : validateDigest request.exactLaneDigest "exact lane digest" = .ok ())
    (hentries : request.order.keys store.latest.keys = [intent.effectId])
    (hresolve : p.resolve env store = (approved, result))
    (hlookup : approved.latest.lookup intent.effectId = some intent)
    (hbytes : env.snapshotBytes intent ≤ maxEffectRecordBytes)
    (hdenial : fenceIntent intent request.exactLaneDigest request.reason request.now = some denial)
    (hfence : persistTransition env approved (some intent.state) denial = (denied, .ok ()))
    (hdenies : q.approves env = false) (hrefused : q.resolve env denied = (denied, refusal))
    : Run.Guarded (System.step env request) (fenceUndisturbed env) (System.start store calls)
        keptFence
      ∧ (Run.exec (System.step env request) (System.start store calls) keptFence).fence = .done := by
  constructor
  . simp only [keptFence, List.nil_append, Run.Guarded, System.step, fenceStart, System.setResolver,
      System.start, hlane, hentries, loadResolver, hfirst, hp, persistResolver, if_true, hresolve,
      fenceLoad, hlookup, Option.filter_some, hbytes, decide_true, hdenial, Nat.one_ne_zero, if_false,
      hsecond, hq, fencePersist, hfence, hrefused, fenceUndisturbed]
    refine ⟨trivial, trivial, trivial, ?_, trivial, ?_, trivial, ?_, trivial⟩
    . intro entry rest other hreading hother
      simp only [FenceThread.reading.injEq, List.cons.injEq] at hreading
      rw [← hreading.1, hlookup] at hother
      injection hother with hother
      rw [← hother]
      exact hbytes
    . intro _ _ _ _ i r hholding _
      split at hholding
      . injection hholding with hholding
        rw [← hholding]
        exact hdenies
      . split at hholding
        . contradiction
        . contradiction
    . intro entry rest other hreading
      simp at hreading
  . simp only [keptFence, List.nil_append, Run.exec_cons, Run.exec_nil, System.step, fenceStart,
      System.setResolver, System.start, hlane, hentries, loadResolver, hfirst, hp, persistResolver,
      if_true, hresolve, fenceLoad, hlookup, Option.filter_some, hbytes, decide_true, hdenial,
      Nat.one_ne_zero, if_false, hsecond, hq, fencePersist, hfence, hrefused]

end

def sampleWaitingId : String :=
  "e8d3b2b98aaf84519be16ec5b3c149b945f3f98e18b1f0c5c9b8eb5d594354a4"

def sampleWaitingToken : ApprovalToken :=
  { sampleApprovedToken with
    tokenDigest := "sha256:5debadffd914c3794775f1ef8bdbd3ec7c00ae51d113d3ff2233822eab5e87ba"
    effectId := sampleWaitingId
    consumedAtMs := none }

/-
The sample request while it waits for its approval.
-/
def sampleWaitingIntent : Intent :=
  { sampleApprovedIntent with
    effectId := sampleWaitingId
    state := .approvalRequired
    approvalToken := some sampleWaitingToken
    updatedAtMs := 1002
    reason := some "explicit lane-bound user approval is required" }

def sampleWaitingStore : Store :=
  Store.empty.write (some .requested) sampleWaitingIntent

def sampleFence : FenceRequest where
  exactLaneDigest := sampleLane
  reason := "stop"
  now := 1600
  order := .insertion String

def sampleApproval (_ : Nat) : ApprovalCall :=
  .byToken sampleToken sampleLane .approve 1700 (.insertion String)

def sampleApprovalPresented : Presented where
  intent := sampleWaitingIntent
  token := sampleToken
  exactLaneDigest := sampleLane
  decision := .approve
  nativeAction := none
  now := 1700

def sampleDenial : Intent :=
  { sampleWaitingIntent with
    approvalToken := some { sampleWaitingToken with consumedAtMs := some 1600 }
    state := .denied
    updatedAtMs := 1600
    reason := some "stop" }

def sampleApproved : Intent :=
  consumeIntent sampleWaitingIntent sampleWaitingToken .approve 1700

theorem lookup_sampleWaitingStore
    : sampleWaitingStore.latest.lookup sampleWaitingId = some sampleWaitingIntent := by
  have hid : sampleWaitingId = sampleWaitingIntent.effectId := rfl
  rw [sampleWaitingStore, lookup_write, if_pos hid]

theorem sampleFence_entries
    : sampleFence.order.keys sampleWaitingStore.latest.keys = [sampleWaitingId] := by
  simp [sampleFence, HashOrder.insertion, sampleWaitingStore, Store.write, Store.empty,
    sampleWaitingIntent]

theorem sampleToken_digest
    : sha256Tagged Env.small (Text.utf8Bytes sampleToken) = sampleWaitingToken.tokenDigest := by
  decide +kernel

theorem sampleLane_valid : validateDigest sampleLane "exact lane digest" = .ok () := by
  rfl

theorem sampleWaitingIntent_valid : validateIntent sampleWaitingIntent = .ok () := by
  decide +kernel

theorem validateIntent_moved {intent : Intent} {token : ApprovalToken}
    (htoken : intent.approvalToken = some token) (consumedAtMs : Option Int) (state : EffectState)
    (updatedAtMs : Int) (reason : Option String)
    : validateIntent
        { intent with
          approvalToken := some { token with consumedAtMs }
          state, updatedAtMs, reason }
      = validateIntent intent := by
  unfold validateIntent
  rw [htoken]
  rfl

theorem fenceIntent_sample {intent : Intent} (hlane : intent.exactLaneDigest = sampleLane)
    (hstate : intent.state = .approvalRequired ∨ intent.state = .approved)
    : fenceIntent intent sampleLane "stop" 1600
        = some {
          intent with
          approvalToken := intent.approvalToken.map fun token =>
            { token with consumedAtMs := some 1600 }
          state := .denied
          updatedAtMs := 1600
          reason := some "stop" } := by
  have hreason : sanitizeBounded "stop" maxSummaryBytes "fenced" = "stop" := by
    rfl
  unfold fenceIntent
  rw [hreason]
  simp only [hlane, hstate, ne_eq, not_true_eq_false, decide_false, decide_true, Bool.false_or,
    ← Bool.decide_or, Bool.not_true, Bool.false_eq_true, if_false]

theorem persistTransition_small {store : Store} {fromState : Option EffectState} {intent : Intent}
    (hvalid : validateIntent intent = .ok ())
    : persistTransition Env.small store fromState intent
        = (store.write fromState intent, .ok ()) := by
  have hbytes : ¬Env.small.transitionBytes (transitionRow fromState intent)
      > maxEffectRecordBytes := by
    simp [Env.small, maxEffectRecordBytes]
  simp only [persistTransition, hvalid, if_neg hbytes]

theorem persistTransition_sampleDenial (store : Store) (fromState : Option EffectState)
    : persistTransition Env.small store fromState sampleDenial
        = (store.write fromState sampleDenial, .ok ()) := by
  apply persistTransition_small
  rw [← sampleWaitingIntent_valid]
  exact validateIntent_moved rfl _ _ _ _

theorem sampleApproval_presented
    : (sampleApproval 0).presented Env.small sampleWaitingStore = .ok sampleApprovalPresented := by
  have hfind : findExternalEffectByToken Env.small sampleWaitingStore
      (sha256Tagged Env.small (Text.utf8Bytes sampleToken)) (.insertion String)
      = some sampleWaitingIntent := by
    have hsnapshots : boundedSnapshots Env.small sampleWaitingStore (.insertion String)
        = [sampleWaitingIntent] := by
      apply boundedSnapshots_single _ _ _ (by decide)
      . simp [sampleWaitingStore, Store.write, Store.empty]
      . exact lookup_sampleWaitingStore
    have htoken : sampleWaitingIntent.approvalToken = some sampleWaitingToken := rfl
    rw [findExternalEffectByToken, hsnapshots, sampleToken_digest]
    simp only [List.find?_cons, htoken, Option.any_some, decide_true]
  exact presented_byToken Env.small sampleLane_valid hfind

theorem sampleApproval_matches : sampleApprovalPresented.Matches Env.small sampleWaitingToken := by
  constructor
  . rfl
  . rfl
  . rfl
  . exact tokenBindingMismatch_eq_false rfl sampleToken_digest.symm rfl rfl rfl rfl
  . rfl

theorem sampleApproval_resolve (store : Store)
    : sampleApprovalPresented.resolve Env.small store
        = (store.write (some .approvalRequired) sampleApproved, .ok sampleApproved) := by
  have hresolution : resolveIntent Env.small sampleApprovalPresented.intent
      sampleApprovalPresented.token sampleApprovalPresented.exactLaneDigest
      sampleApprovalPresented.decision sampleApprovalPresented.nativeAction
      sampleApprovalPresented.now
      = { persist := some sampleApproved, result := .ok sampleApproved } := by
    rw [resolveIntent_of_matches Env.small sampleApproval_matches]
    rfl
  have hvalid : validateIntent sampleApproved = .ok () := by
    rw [← sampleWaitingIntent_valid]
    exact validateIntent_moved rfl _ _ _ _
  rw [Presented.resolve, resolveExternalEffectApprovalLocked, hresolution]
  dsimp only
  rw [persistTransition_small hvalid, Outcome.andThen_ok]
  rfl

/-
The denial that the fence had persisted is overwritten: the fence is done and the effect is
approved.
-/
theorem fence_lost_to_approval
    : ¬∀ (env : Env) (request : FenceRequest) (store : Store) (calls : Nat → ApprovalCall)
        (before after : List Action),
        let atStart := Run.exec (System.step env request) (System.start store calls) before
        let final := Run.exec (System.step env request) (System.start store calls)
          (before ++ .fenceStart :: after)
        atStart.fence = .idle → final.fence = .done
        → (∀ i p, final.resolvers i ≠ .holding p)
        → ∀ effectId, fenceable atStart.store request.exactLaneDigest effectId
          → effectState final.store effectId ≠ some .approved := by
  intro hclaim
  have hcall : ∀ publicRequest now, sampleApproval 0 ≠ .publicAction publicRequest now := by
    simp [sampleApproval]
  have hrun := exec_lostFence Env.small sampleFence hcall sampleApproval_presented sampleLane_valid
    sampleFence_entries (by decide) (fenceIntent_sample rfl (.inl rfl))
    (persistTransition_sampleDenial _ _) (sampleApproval_resolve _)
  have h := hclaim Env.small sampleFence sampleWaitingStore sampleApproval [.load 0]
    [.fenceLoad, .fencePersist, .persist 0, .fenceLoad]
  rw [lostFence] at hrun
  simp only [hrun, Run.exec_cons, Run.exec_nil, System.step, loadResolver_fence,
    loadResolver_store] at h
  refine h rfl trivial ?_ sampleWaitingId ?_ ?_
  . intro i p
    simp only [System.setResolver, System.start]
    split
    . simp
    . simp
  . exact ⟨sampleWaitingIntent, lookup_sampleWaitingStore, rfl, .inl rfl⟩
  . have hid : sampleWaitingId = sampleApproved.effectId := rfl
    rw [effectState, lookup_write, if_pos hid]
    rfl

def sampleResolvedStore : Store :=
  sampleWaitingStore.write (some .approvalRequired) sampleApproved

-- an approval and, behind it, a denial of the same effect
def sampleResolutions : Nat → ApprovalCall
  | 0 => sampleApproval 0
  | _ => .byToken sampleToken sampleLane .deny 1800 (.insertion String)

def sampleRefusal : Presented :=
  { sampleApprovalPresented with intent := sampleApproved, decision := .deny, now := 1800 }

theorem lookup_sampleResolvedStore
    : sampleResolvedStore.latest.lookup sampleApproved.effectId = some sampleApproved := by
  rw [sampleResolvedStore, lookup_write, if_pos rfl]

theorem sampleRefusal_presented
    : (sampleResolutions 1).presented Env.small sampleResolvedStore = .ok sampleRefusal := by
  have hfind : findExternalEffectByToken Env.small sampleResolvedStore
      (sha256Tagged Env.small (Text.utf8Bytes sampleToken)) (.insertion String)
      = some sampleApproved := by
    have hsnapshots : boundedSnapshots Env.small sampleResolvedStore (.insertion String)
        = [sampleApproved] := by
      apply boundedSnapshots_single _ _ _ (by decide)
      . simp [sampleResolvedStore, sampleApproved, consumeIntent, sampleWaitingStore, Store.write,
          Store.empty]
      . exact lookup_sampleResolvedStore
    have htoken : sampleApproved.approvalToken
        = some { sampleWaitingToken with consumedAtMs := some 1700 } := rfl
    rw [findExternalEffectByToken, hsnapshots, sampleToken_digest]
    simp only [List.find?_cons, htoken, Option.any_some, decide_true]
  exact presented_byToken Env.small sampleLane_valid hfind

theorem sampleRefusal_rejected
    : resolveIntent Env.small sampleRefusal.intent sampleRefusal.token
        sampleRefusal.exactLaneDigest sampleRefusal.decision sampleRefusal.nativeAction
        sampleRefusal.now
      = .reject .alreadyExists
        "connector approval token was already consumed for another disposition" := by
  have hmatch : sampleRefusal.Matches Env.small
      { sampleWaitingToken with consumedAtMs := some 1700 } := by
    constructor
    . rfl
    . rfl
    . rfl
    . exact tokenBindingMismatch_eq_false rfl sampleToken_digest.symm rfl rfl rfl rfl
    . rfl
  rw [resolveIntent_of_matches Env.small hmatch]
  rfl

/-
The effect is approved behind the start of the fence, and the fence denies it while a resolution
that will be refused has it loaded.
-/
theorem fence_wins_of_sampleFence
    : let final := Run.exec (System.step Env.small sampleFence)
        (System.start sampleWaitingStore sampleResolutions) keptFence
      final.fence = .done ∧ effectState final.store sampleWaitingId ≠ some .approved := by
  have hrun := @exec_keptFence Env.small sampleFence sampleWaitingStore sampleResolvedStore
    (sampleResolvedStore.write (some .approved) sampleDenial) sampleResolutions _ _ _ _ _ _ _ _ _ _
    sampleApprovalPresented sampleRefusal sampleApproved sampleDenial _ _ rfl rfl
    sampleApproval_presented sampleRefusal_presented sampleLane_valid sampleFence_entries
    (sampleApproval_resolve _) lookup_sampleResolvedStore (by decide)
    (fenceIntent_sample rfl (.inr rfl)) (persistTransition_sampleDenial _ _)
    (by rw [Presented.approves, sampleRefusal_rejected]; rfl)
    (by rw [Presented.resolve, resolveExternalEffectApprovalLocked, sampleRefusal_rejected]; rfl)
  refine ⟨hrun.2, ?_⟩
  apply fence_wins_of_undisturbed Env.small sampleFence sampleWaitingStore sampleResolutions []
    [.load 0, .persist 0, .fenceLoad, .load 1, .fencePersist, .persist 1, .fenceLoad] hrun.1 rfl hrun.2
  exact ⟨sampleWaitingIntent, lookup_sampleWaitingStore, rfl, .inl rfl⟩

end ExternalEffect
