import AgentHarness.GoalClosure.Lemmas.Terminal
import AgentHarness.SessionTransition.Impl

/-!
The target that a transition freezes.
-/

namespace SessionTransition

open GoalClosure (GoalClosureLedger goalClosureReceiptsForId invalidData)

variable {sha256 : CollisionFree}

theorem commandText_injective : Function.Injective ChannelSessionTransitionCommandV1.text := by
  intro left right h
  cases left <;> cases right <;> first | rfl | exact absurd h (by decide)

theorem boundaryText_injective : Function.Injective ChannelGoalBoundaryV1.text := by
  intro left right h
  cases left <;> cases right <;> first | rfl | exact absurd h (by decide)

section Intents

variable {intent stored : ChannelSessionTransitionIntentV1}

theorem validateIntent_iff
    : validateIntent sha256 intent = .ok () ↔
        (intent.schema = channelSessionTransitionIntentSchema
          ∧ intent.eventKey = intent.transitionId
          ∧ intent.commandEffectIdentity = intent.transitionId)
          ∧ transitionIdentity sha256 intent.command intent.laneDigest intent.oldSessionKey
            = intent.transitionId
          ∧ sha256.checksumJson (intentChecksumPayload intent) = intent.intentChecksum := by
  unfold validateIntent
  simp only [Except.bind_eq_ok, Except.require_eq_ok, Bool.and_eq_true, decide_eq_true_eq]
  constructor
  . rintro ⟨_, ⟨⟨hschema, hkey⟩, heffect⟩, hid, hchecksum⟩
    exact ⟨⟨hschema, hkey, heffect⟩, hid, hchecksum⟩
  . rintro ⟨⟨hschema, hkey, heffect⟩, hid, hchecksum⟩
    exact ⟨(), ⟨⟨hschema, hkey⟩, heffect⟩, hid, hchecksum⟩

theorem transitionIdentity_inj {command command' : ChannelSessionTransitionCommandV1}
    {lane lane' session session' : String}
    : transitionIdentity sha256 command lane session
          = transitionIdentity sha256 command' lane' session' ↔
        command = command' ∧ lane = lane' ∧ session = session' := by
  simp [transitionIdentity, transitionIdentityPayload, commandText_injective.eq_iff]

theorem newIntent_valid (options : PrepareChannelSessionTransitionOptionsV1)
    (assessment : GoalBoundaryAssessment)
    : validateIntent sha256 (newIntent sha256 options assessment) = .ok () := by
  rw [validateIntent_iff]
  exact ⟨⟨rfl, rfl, rfl⟩, rfl, rfl⟩

theorem not_isBlank_transitionId (h : validateIntent sha256 intent = .ok ())
    : ¬TextFile.isBlank intent.eventKey := by
  rw [validateIntent_iff] at h
  rw [h.1.2.1, ← h.2.1]
  exact sha256.not_isBlank_checksumJson _

/-
What two calls for one transition can differ in.
-/
def SameProposal (stored intent : ChannelSessionTransitionIntentV1) : Prop :=
  stored.frozenNewSessionKey = intent.frozenNewSessionKey
    ∧ stored.topic = intent.topic
    ∧ stored.reason = intent.reason
    ∧ stored.goalBoundary = intent.goalBoundary
    ∧ stored.goalClosureId = intent.goalClosureId
    ∧ stored.goalEvidenceDigest = intent.goalEvidenceDigest

instance (stored intent : ChannelSessionTransitionIntentV1) : Decidable (SameProposal stored intent) :=
  inferInstanceAs (Decidable (_ ∧ _))

theorem intentChecksum_eq_iff (hstored : validateIntent sha256 stored = .ok ())
    (hintent : validateIntent sha256 intent = .ok ())
    (hid : stored.transitionId = intent.transitionId)
    : stored.intentChecksum = intent.intentChecksum ↔ SameProposal stored intent := by
  rw [validateIntent_iff] at hstored hintent
  have hparts := hid
  rw [← hstored.2.1, ← hintent.2.1, transitionIdentity_inj] at hparts
  rw [← hstored.2.2, ← hintent.2.2, sha256.checksumJson_inj]
  simp [intentChecksumPayload, SameProposal, hid, hparts,
    boundaryText_injective.eq_iff]

end Intents

namespace TransitionStore

structure Sound (sha256 : CollisionFree) (store : TransitionStore) : Prop where
  valid : ∀ intent ∈ store.intents, validateIntent sha256 intent = .ok ()
  evidence : ∀ intent ∈ store.intents, ¬TextFile.isBlank intent.goalEvidenceDigest
  nodup : (store.intents.map (·.transitionId)).Nodup
  closures : store.closures.Sound sha256

theorem sound_empty : empty.Sound sha256 where
  valid := by simp [empty]
  evidence := by simp [empty]
  nodup := by simp [empty]
  closures := GoalClosureLedger.sound_empty

variable {store : TransitionStore}

theorem Sound.eq_of_transitionId (h : store.Sound sha256)
    {intent other : ChannelSessionTransitionIntentV1} (hintent : intent ∈ store.intents)
    (hother : other ∈ store.intents) (hid : intent.transitionId = other.transitionId)
    : intent = other :=
  List.inj_on_of_nodup_map h.nodup hintent hother hid

theorem findIntent_eq_some (h : store.Sound sha256) {transitionId : String}
    {intent : ChannelSessionTransitionIntentV1}
    : findIntent store.intents transitionId = some intent ↔
        intent ∈ store.intents ∧ intent.transitionId = transitionId := by
  constructor
  . intro hfind
    refine ⟨List.mem_of_find?_eq_some hfind, ?_⟩
    simpa using List.find?_some hfind
  . rintro ⟨hmem, hid⟩
    cases hfind : findIntent store.intents transitionId with
    | none =>
      have := List.find?_eq_none.mp hfind intent hmem
      simp [hid] at this
    | some found =>
      have hfound := List.mem_of_find?_eq_some hfind
      have hfoundId : found.transitionId = transitionId := by simpa using List.find?_some hfind
      rw [h.eq_of_transitionId hfound hmem (by rw [hfoundId, hid])]

theorem Sound.durableGoalBoundaryIsReady (h : store.Sound sha256)
    (intent : ChannelSessionTransitionIntentV1)
    : ∃ ready, durableGoalBoundaryIsReady sha256 store intent = .ok ready := by
  unfold SessionTransition.durableGoalBoundaryIsReady
  split
  . exact ⟨_, rfl⟩
  . split
    . exact ⟨_, rfl⟩
    . rw [h.closures.receiptsForId]
      exact ⟨_, rfl⟩

theorem Sound.receiptBoundary (h : store.Sound sha256) (intent : ChannelSessionTransitionIntentV1)
    (phase : ChannelSessionTransitionPhaseV1)
    : ∃ boundary, receiptBoundary sha256 store intent phase = .ok boundary := by
  unfold SessionTransition.receiptBoundary
  split
  . obtain ⟨ready, hready⟩ := h.durableGoalBoundaryIsReady intent
    rw [hready]
    exact ⟨_, rfl⟩
  . exact ⟨_, rfl⟩

end TransitionStore

section Record

variable {store : TransitionStore}

theorem recordPhase_frame (sha256 : CollisionFree) (store : TransitionStore)
    (intent : ChannelSessionTransitionIntentV1)
    (phase : ChannelSessionTransitionPhaseV1) (evidence : String) (recordedAtMs : Int)
    : let later := (recordChannelSessionTransitionPhase sha256 store intent phase evidence
        recordedAtMs).1
      later.intents = store.intents ∧ later.closures = store.closures
        ∧ store.receipts <+: later.receipts := by
  dsimp only
  unfold recordChannelSessionTransitionPhase
  dsimp only
  split
  . exact ⟨rfl, rfl, List.prefix_rfl⟩
  . next receipt _ =>
    have hextends := Ledger.appendOnce_prefix ChannelSessionTransitionReceiptV1.eventKey
      store.receipts receipt
    generalize Ledger.appendOnce _ store.receipts receipt = appended at hextends ⊢
    exact ⟨rfl, rfl, hextends⟩

theorem recordPhase_isOk (h : store.Sound sha256) {intent : ChannelSessionTransitionIntentV1}
    (hintent : validateIntent sha256 intent = .ok ()) (phase : ChannelSessionTransitionPhaseV1)
    {evidence : String} (hevidence : ¬TextFile.isBlank evidence) (recordedAtMs : Int)
    : ∃ receipt, (recordChannelSessionTransitionPhase sha256 store intent phase evidence
        recordedAtMs).2 = .ok receipt := by
  obtain ⟨boundary, hboundary⟩ := h.receiptBoundary intent phase
  have hblank : ¬TextFile.isBlank
      (newReceipt sha256 intent phase evidence recordedAtMs boundary).eventKey :=
    sha256.not_isBlank_checksumJson _
  obtain ⟨appended, happended⟩ := @Ledger.appendOnce_isOk _
    ChannelSessionTransitionReceiptV1.eventKey _ store.receipts hblank
  have hevidence : TextFile.isBlank evidence = false := by simpa using hevidence
  unfold recordChannelSessionTransitionPhase
  simp only [hintent, hboundary, Except.require, hevidence, bind, Except.bind, Bool.not_false,
    if_true, pure, Except.pure, happended, Except.map]
  exact ⟨_, rfl⟩

theorem sound_of_frame {later : TransitionStore} (h : store.Sound sha256)
    (hintents : later.intents = store.intents) (hclosures : later.closures = store.closures)
    : later.Sound sha256 where
  valid := by
    rw [hintents]
    exact h.valid
  evidence := by
    rw [hintents]
    exact h.evidence
  nodup := by
    rw [hintents]
    exact h.nodup
  closures := by
    rw [hclosures]
    exact h.closures

end Record

section Store

variable {store : TransitionStore}

theorem appendIntent_eq {intent : ChannelSessionTransitionIntentV1} (h : store.Sound sha256)
    (hvalid : validateIntent sha256 intent = .ok ())
    : appendIntent store intent =
        if ∃ stored ∈ store.intents, stored.transitionId = intent.transitionId then
          (store, .ok false)
        else
          ({ store with intents := store.intents ++ [intent] }, .ok true) := by
  have hkey : ∀ stored ∈ store.intents, stored.eventKey = stored.transitionId := by
    intro stored hstored
    exact (validateIntent_iff.mp (h.valid stored hstored)).1.2.1
  have hintent := (validateIntent_iff.mp hvalid).1.2.1
  have hblank := not_isBlank_transitionId hvalid
  unfold appendIntent
  by_cases hfound : ∃ stored ∈ store.intents, stored.transitionId = intent.transitionId
  . rw [if_pos hfound]
    obtain ⟨stored, hmem, hid⟩ := hfound
    have happend := @Ledger.appendOnce_stored _ ChannelSessionTransitionIntentV1.eventKey
      store.intents intent hblank ⟨stored, hmem, by rw [hkey stored hmem, hintent, hid]⟩
    rw [happend]
  . rw [if_neg hfound]
    have hnone : ∀ stored ∈ store.intents, stored.eventKey ≠ intent.eventKey := by
      intro stored hmem hid
      rw [hkey stored hmem, hintent] at hid
      exact hfound ⟨stored, hmem, hid⟩
    have happend := @Ledger.appendOnce_fresh _ ChannelSessionTransitionIntentV1.eventKey
      store.intents intent hblank hnone
    rw [happend]

theorem sound_appendIntent {intent : ChannelSessionTransitionIntentV1} (h : store.Sound sha256)
    (hvalid : validateIntent sha256 intent = .ok ())
    (hevidence : ¬TextFile.isBlank intent.goalEvidenceDigest)
    : (appendIntent store intent).1.Sound sha256 := by
  rw [appendIntent_eq h hvalid]
  split
  . exact h
  . next hfresh =>
    constructor
    . intro stored hstored
      rw [List.mem_append, List.mem_singleton] at hstored
      cases hstored with
      | inl hstored => exact h.valid stored hstored
      | inr hstored =>
        rw [hstored]
        exact hvalid
    . intro stored hstored
      rw [List.mem_append, List.mem_singleton] at hstored
      cases hstored with
      | inl hstored => exact h.evidence stored hstored
      | inr hstored =>
        rw [hstored]
        exact hevidence
    . apply Ledger.nodup_concat h.nodup
      intro stored hstored hid
      exact hfresh ⟨stored, hstored, hid⟩
    . exact h.closures

theorem appendIntent_frame (store : TransitionStore) (intent : ChannelSessionTransitionIntentV1)
    : let later := (appendIntent store intent).1
      store.intents <+: later.intents ∧ later.receipts = store.receipts
        ∧ later.closures = store.closures := by
  have hextends := Ledger.appendOnce_prefix ChannelSessionTransitionIntentV1.eventKey store.intents
    intent
  unfold appendIntent
  generalize Ledger.appendOnce _ store.intents intent = appended at hextends ⊢
  exact ⟨hextends, rfl, rfl⟩

theorem storedIntent_eq {stored intent : ChannelSessionTransitionIntentV1} (h : store.Sound sha256)
    (hintent : validateIntent sha256 intent = .ok ()) (hmem : stored ∈ store.intents)
    (hid : stored.transitionId = intent.transitionId)
    : storedIntent sha256 store intent =
        if SameProposal stored intent then
          .ok stored
        else
          .error (invalidData
            "session transition identity already has different protected intent evidence") := by
  have hfind : findIntent store.intents intent.transitionId = some stored :=
    (TransitionStore.findIntent_eq_some h).mpr ⟨hmem, hid⟩
  have hvalid := h.valid stored hmem
  have hchecksum := intentChecksum_eq_iff hvalid hintent hid
  unfold storedIntent
  split
  . next hsame =>
    have heq := hchecksum.mpr hsame
    simp [-bind_pure_comp, hfind, Except.ofOption, hvalid, heq, bind, Except.bind, Except.require,
      pure, Except.pure]
  . next hdiffer =>
    have hne : stored.intentChecksum ≠ intent.intentChecksum := by
      intro heq
      exact hdiffer (hchecksum.mp heq)
    simp [-bind_pure_comp, hfind, Except.ofOption, hvalid, hne, bind, Except.bind, Except.require]

theorem settleTransition_frame (sha256 : CollisionFree) (store : TransitionStore)
    (intent : ChannelSessionTransitionIntentV1)
    (appended : Bool) (nowMs : Int)
    : let later := (settleTransition sha256 store intent appended nowMs).1
      later.intents = store.intents ∧ later.closures = store.closures
        ∧ store.receipts <+: later.receipts := by
  dsimp only
  unfold settleTransition
  split
  . exact ⟨rfl, rfl, List.prefix_rfl⟩
  . next stored _ =>
    dsimp only
    have hfirst := recordPhase_frame sha256 store stored .intentRecorded stored.goalEvidenceDigest
      nowMs
    apply Outcome.andThen_fst (fun later : TransitionStore =>
      later.intents = store.intents ∧ later.closures = store.closures
        ∧ store.receipts <+: later.receipts) hfirst
    intro _ _
    generalize (recordChannelSessionTransitionPhase sha256 store stored .intentRecorded
      stored.goalEvidenceDigest nowMs).1 = first at hfirst ⊢
    have hsecond := recordPhase_frame sha256 first stored
      (if stored.boundaryIsReady then .boundaryReady else .goalClosurePending)
      stored.goalEvidenceDigest nowMs
    have hboth : ∀ later : TransitionStore,
        later.intents = first.intents ∧ later.closures = first.closures
          ∧ first.receipts <+: later.receipts →
        later.intents = store.intents ∧ later.closures = store.closures
          ∧ store.receipts <+: later.receipts := by
      rintro later ⟨hintents, hclosures, hreceipts⟩
      exact ⟨hintents.trans hfirst.1, hclosures.trans hfirst.2.1, hfirst.2.2.trans hreceipts⟩
    apply Outcome.andThen_fst (fun later : TransitionStore =>
      later.intents = store.intents ∧ later.closures = store.closures
        ∧ store.receipts <+: later.receipts)
    . exact hboth _ hsecond
    . intro _ _
      exact hboth _ hsecond

theorem settleTransition_isOk {stored intent : ChannelSessionTransitionIntentV1}
    (h : store.Sound sha256) (hintent : validateIntent sha256 intent = .ok ())
    (hmem : stored ∈ store.intents) (hid : stored.transitionId = intent.transitionId)
    (hsame : SameProposal stored intent) (appended : Bool) (nowMs : Int)
    : ∃ prepared, (settleTransition sha256 store intent appended nowMs).2 = .ok prepared
        ∧ prepared.intent = stored := by
  have hvalid := h.valid stored hmem
  have hevidence := h.evidence stored hmem
  unfold settleTransition
  rw [storedIntent_eq h hintent hmem hid, if_pos hsame]
  dsimp only
  obtain ⟨receipt, hreceipt⟩ := recordPhase_isOk h hvalid .intentRecorded hevidence nowMs
  have hframe := recordPhase_frame sha256 store stored .intentRecorded stored.goalEvidenceDigest
    nowMs
  generalize recordChannelSessionTransitionPhase sha256 store stored .intentRecorded
    stored.goalEvidenceDigest nowMs = first at hreceipt hframe ⊢
  obtain ⟨middle, result⟩ := first
  have hmiddle : middle.Sound sha256 := sound_of_frame h hframe.1 hframe.2.1
  obtain rfl : result = .ok receipt := hreceipt
  rw [Outcome.andThen_ok]
  obtain ⟨receipt', hreceipt'⟩ := recordPhase_isOk hmiddle hvalid
    (if stored.boundaryIsReady then .boundaryReady else .goalClosurePending) hevidence nowMs
  generalize recordChannelSessionTransitionPhase sha256 middle stored
    (if stored.boundaryIsReady then .boundaryReady else .goalClosurePending)
    stored.goalEvidenceDigest nowMs = second at hreceipt' ⊢
  obtain ⟨final, result⟩ := second
  obtain rfl : result = .ok receipt' := hreceipt'
  rw [Outcome.andThen_ok]
  exact ⟨_, rfl, rfl⟩

end Store

section Admission

variable {store : TransitionStore}

def newIsPending (store : TransitionStore) (laneDigest activeSessionKey : String) : Bool :=
  store.intents.any fun intent =>
    intent.command = .new && intent.laneDigest = laneDigest
      && intent.oldSessionKey = activeSessionKey && !isCommitted store.receipts intent

theorem admissionOf_eq {intents : List ChannelSessionTransitionIntentV1}
    (hvalid : ∀ intent ∈ intents, validateIntent sha256 intent = .ok ())
    (receipts : List ChannelSessionTransitionReceiptV1) (laneDigest activeSessionKey : String)
    : admissionOf sha256 receipts laneDigest activeSessionKey intents = .ok
        (if intents.any fun intent =>
            intent.command = .new && intent.laneDigest = laneDigest
              && intent.oldSessionKey = activeSessionKey && !isCommitted receipts intent then
          .holdPendingNew
        else
          .open) := by
  induction intents with
  | nil => simp [admissionOf]
  | cons intent rest ih =>
    have ih := ih fun later hlater => hvalid later (List.mem_cons_of_mem _ hlater)
    have hvalid := hvalid intent List.mem_cons_self
    unfold admissionOf
    rw [List.any_cons]
    split
    . next hother =>
      have hskip : (intent.command = .new && intent.laneDigest = laneDigest
          && intent.oldSessionKey = activeSessionKey && !isCommitted receipts intent) = false := by
        rw [Bool.eq_false_iff]
        intro hsame
        simp only [Bool.and_eq_true, decide_eq_true_eq] at hsame
        simp [hsame] at hother
      rw [hskip, Bool.false_or, ih]
    . next hsame =>
      rw [hvalid]
      cases hcommitted : isCommitted receipts intent with
      | true => simpa [bind, Except.bind, hcommitted] using ih
      | false => simp_all [bind, Except.bind, pure, Except.pure]

theorem TransitionStore.Sound.admission (h : store.Sound sha256)
    (laneDigest activeSessionKey : String)
    : channelSessionTransitionAdmission sha256 store laneDigest activeSessionKey = .ok
        (if newIsPending store laneDigest activeSessionKey then .holdPendingNew else .open) := by
  have hvalid : ∀ intent ∈ store.intents.reverse, validateIntent sha256 intent = .ok () := by
    intro intent hintent
    exact h.valid intent (List.mem_reverse.mp hintent)
  unfold channelSessionTransitionAdmission
  rw [admissionOf_eq hvalid, List.any_reverse]
  rfl

theorem isCommitted_mono {receipts later : List ChannelSessionTransitionReceiptV1}
    (hgrows : receipts <+: later) {intent : ChannelSessionTransitionIntentV1}
    (hcommitted : isCommitted receipts intent)
    : isCommitted later intent := by
  unfold isCommitted at hcommitted ⊢
  rw [List.any_eq_true] at hcommitted ⊢
  obtain ⟨receipt, hmem, hreceipt⟩ := hcommitted
  exact ⟨receipt, hgrows.subset hmem, hreceipt⟩

theorem not_newIsPending_of_isCommitted (h : store.Sound sha256)
    {intent : ChannelSessionTransitionIntentV1} (hmem : intent ∈ store.intents)
    (hnew : intent.command = .new) (hcommitted : isCommitted store.receipts intent)
    : newIsPending store intent.laneDigest intent.oldSessionKey = false := by
  unfold newIsPending
  rw [List.any_eq_false]
  intro other hother hpending
  simp only [Bool.and_eq_true, decide_eq_true_eq, Bool.not_eq_true'] at hpending
  obtain ⟨⟨⟨hcommand, hlane⟩, hsession⟩, hopen⟩ := hpending
  have hid : other.transitionId = intent.transitionId := by
    rw [← (validateIntent_iff.mp (h.valid other hother)).2.1,
      ← (validateIntent_iff.mp (h.valid intent hmem)).2.1, hcommand, hlane, hsession, hnew]
  rw [h.eq_of_transitionId hother hmem hid, hcommitted] at hopen
  cases hopen

end Admission

namespace TransitionSystem

attribute [local irreducible] TextFile.isBlank

variable {ι : Type} [DecidableEq ι] {calls : ι → TransitionCall} {system : TransitionSystem ι}

def Holds (sha256 : CollisionFree) (call : TransitionCall) (state : CallState) : Prop :=
  match state with
  | .holding intent | .appended intent _ =>
    ∃ assessment, intent = newIntent sha256 call.options assessment
  | .idle | .finished _ => True

structure Sound (sha256 : CollisionFree) (calls : ι → TransitionCall) (system : TransitionSystem ι)
    : Prop where
  store : system.store.Sound sha256
  held : ∀ i, Holds sha256 (calls i) (system.calls i)

omit [DecidableEq ι] in
theorem sound_start : (start ι).Sound sha256 calls where
  store := TransitionStore.sound_empty
  held _ := trivial

variable {state : CallState} {call : TransitionCall}

theorem holds_update (hheld : ∀ j, Holds sha256 (calls j) (system.calls j)) {i : ι}
    (hstate : Holds sha256 (calls i) state) (j : ι)
    : Holds sha256 (calls j) (Function.update system.calls i state j) := by
  by_cases hj : j = i
  . subst hj
    simpa using hstate
  . rw [Function.update_of_ne hj]
    exact hheld j

theorem sound_update (h : system.Sound sha256 calls) {store : TransitionStore}
    (hstore : store.Sound sha256) {i : ι} (hstate : Holds sha256 (calls i) state)
    : Sound sha256 calls { store, calls := Function.update system.calls i state } where
  store := hstore
  held := holds_update h.held hstate

theorem newIntent_evidence (options : PrepareChannelSessionTransitionOptionsV1)
    (assessment : GoalBoundaryAssessment)
    : ¬TextFile.isBlank (newIntent sha256 options assessment).goalEvidenceDigest :=
  assessment.evidence

theorem holds_readState (store : TransitionStore) (call : TransitionCall)
    : Holds sha256 call (readState sha256 store call) := by
  unfold readState
  split
  . trivial
  . trivial
  . split
    . trivial
    . exact ⟨_, rfl⟩

theorem holds_appendState {intent : ChannelSessionTransitionIntentV1}
    (h : Holds sha256 call (.holding intent)) (result : Except IoError Bool)
    : Holds sha256 call (appendState intent result) := by
  unfold appendState
  split
  . trivial
  . exact h

theorem sound_step (h : system.Sound sha256 calls) (action : TransitionAction ι)
    : (step sha256 calls system action).Sound sha256 calls := by
  cases action with
  | read i =>
    simp only [step]
    split
    . exact sound_update h h.store (holds_readState _ _)
    . exact h
  | append i =>
    simp only [step]
    split
    . next intent hstate =>
      have hheld := h.held i
      rw [hstate] at hheld
      apply sound_update h _ (holds_appendState hheld _)
      obtain ⟨assessment, rfl⟩ := hheld
      exact sound_appendIntent h.store (newIntent_valid _ _) (newIntent_evidence _ _)
    . exact h
  | settle i =>
    simp only [step]
    split
    . have hframe := settleTransition_frame sha256 system.store
      apply sound_update h
      . exact sound_of_frame h.store (hframe _ _ _).1 (hframe _ _ _).2.1
      . trivial
    . exact h
  | record intent phase evidence recordedAtMs =>
    refine ⟨?_, h.held⟩
    have hframe := recordPhase_frame sha256 system.store intent phase evidence
      recordedAtMs
    exact sound_of_frame h.store hframe.1 hframe.2.1
  | closure call =>
    refine ⟨?_, h.held⟩
    exact ⟨h.store.valid, h.store.evidence, h.store.nodup, GoalClosure.step_sound h.store.closures call⟩

theorem step_extends (sha256 : CollisionFree) (calls : ι → TransitionCall)
    (system : TransitionSystem ι) (action : TransitionAction ι)
    : let later := step sha256 calls system action
      system.store.intents <+: later.store.intents
        ∧ system.store.receipts <+: later.store.receipts := by
  cases action with
  | read i =>
    simp only [step]
    split
    . exact ⟨List.prefix_rfl, List.prefix_rfl⟩
    . exact ⟨List.prefix_rfl, List.prefix_rfl⟩
  | append i =>
    simp only [step]
    split
    . next intent _ =>
      obtain ⟨hgrows, hreceipts, _⟩ := appendIntent_frame system.store intent
      refine ⟨hgrows, ?_⟩
      rw [hreceipts]
    . exact ⟨List.prefix_rfl, List.prefix_rfl⟩
  | settle i =>
    simp only [step]
    split
    . next intent appended _ =>
      have hframe := settleTransition_frame sha256 system.store intent appended
        (calls i).options.nowMs
      refine ⟨?_, hframe.2.2⟩
      rw [hframe.1]
    . exact ⟨List.prefix_rfl, List.prefix_rfl⟩
  | record intent phase evidence recordedAtMs =>
    have hframe := recordPhase_frame sha256 system.store intent phase evidence
      recordedAtMs
    simp only [step]
    refine ⟨?_, hframe.2.2⟩
    rw [hframe.1]
  | closure call => exact ⟨List.prefix_rfl, List.prefix_rfl⟩

/-
A call that finds no intent can assess its goal, and a call that appends finds none or one that proposes
what it proposes.
-/
def RacesAgree (sha256 : CollisionFree) (calls : ι → TransitionCall) (system : TransitionSystem ι)
    (action : TransitionAction ι)
    : Prop :=
  match action with
  | .read i =>
    findIntent system.store.intents ((calls i).options.transitionId sha256) = none →
      ∃ assessment, (calls i).assessment = .ok assessment
  | .append i =>
    match system.calls i with
    | .holding intent => ∀ stored ∈ system.store.intents,
      stored.transitionId = intent.transitionId → SameProposal stored intent
    | _ => True
  | _ => True

def Agrees (sha256 : CollisionFree) (store : TransitionStore) (call : TransitionCall)
    (state : CallState)
    : Prop :=
  match state with
  | .idle | .holding _ => True
  | .appended intent _ =>
    ∃ stored ∈ store.intents, stored.transitionId = intent.transitionId ∧ SameProposal stored intent
  | .finished result => validateOptions call.options = .ok () →
    ∃ prepared, result = .ok prepared ∧ prepared.intent ∈ store.intents
      ∧ prepared.intent.transitionId = call.options.transitionId sha256

theorem agrees_mono {store later : TransitionStore} (hgrows : store.intents <+: later.intents)
    (h : Agrees sha256 store call state)
    : Agrees sha256 later call state := by
  cases state with
  | idle => trivial
  | holding intent => trivial
  | appended intent appended =>
    obtain ⟨stored, hmem, hstored⟩ := h
    exact ⟨stored, hgrows.subset hmem, hstored⟩
  | finished result =>
    intro hvalid
    obtain ⟨prepared, hresult, hmem, hid⟩ := h hvalid
    exact ⟨prepared, hresult, hgrows.subset hmem, hid⟩

theorem agrees_readState {store : TransitionStore} (h : store.Sound sha256)
    (hassessed : findIntent store.intents (call.options.transitionId sha256) = none →
      ∃ assessment, call.assessment = .ok assessment)
    : Agrees sha256 store call (readState sha256 store call) := by
  unfold readState replayedTransition
  cases hoptions : validateOptions call.options with
  | error e =>
    intro hvalid
    rw [hoptions] at hvalid
    cases hvalid
  | ok =>
    cases hfind : findIntent store.intents (call.options.transitionId sha256) with
    | none =>
      obtain ⟨assessment, hassessment⟩ := hassessed hfind
      simp [-bind_pure_comp, bind, Except.bind, pure, Except.pure, hassessment, Agrees]
    | some stored =>
      obtain ⟨hmem, hid⟩ := (TransitionStore.findIntent_eq_some h).mp hfind
      obtain ⟨ready, hready⟩ := h.durableGoalBoundaryIsReady stored
      simp only [bind, Except.bind, h.valid stored hmem, hready, pure, Except.pure]
      intro _
      exact ⟨_, rfl, hmem, hid⟩

theorem agrees_update {store later : TransitionStore} {states : ι → CallState}
    (h : ∀ j, Agrees sha256 store (calls j) (states j)) (hgrows : store.intents <+: later.intents)
    {i : ι} (hstate : Agrees sha256 later (calls i) state) (j : ι)
    : Agrees sha256 later (calls j) (Function.update states i state j) := by
  by_cases hj : j = i
  . subst hj
    simpa using hstate
  . rw [Function.update_of_ne hj]
    exact agrees_mono hgrows (h j)

theorem agrees_step (h : system.Sound sha256 calls)
    (hagrees : ∀ i, Agrees sha256 system.store (calls i) (system.calls i))
    {action : TransitionAction ι} (hguard : RacesAgree sha256 calls system action) (j : ι)
    : let later := step sha256 calls system action
      Agrees sha256 later.store (calls j) (later.calls j) := by
  cases action with
  | read i =>
    simp only [step]
    split
    . exact agrees_update hagrees List.prefix_rfl (agrees_readState h.store hguard) j
    . exact hagrees j
  | append i =>
    simp only [step]
    split
    . next intent hstate =>
      have hheld := h.held i
      rw [hstate] at hheld
      obtain ⟨assessment, hown⟩ := hheld
      have hvalid : validateIntent sha256 intent = .ok () := by
        rw [hown]
        exact newIntent_valid _ _
      have hsame : ∀ stored ∈ system.store.intents, stored.transitionId = intent.transitionId →
          SameProposal stored intent := by
        simpa only [RacesAgree, hstate] using hguard
      apply agrees_update hagrees (appendIntent_frame system.store intent).1
      rw [appendIntent_eq h.store hvalid]
      split
      . next hstored =>
        obtain ⟨stored, hmem, hid⟩ := hstored
        exact ⟨stored, hmem, hid, hsame stored hmem hid⟩
      . exact ⟨intent, by simp, rfl, rfl, rfl, rfl, rfl, rfl, rfl⟩
    . exact hagrees j
  | settle i =>
    simp only [step]
    split
    . next intent appended hstate =>
      have hheld := h.held i
      have hstands := hagrees i
      rw [hstate] at hheld hstands
      obtain ⟨assessment, hown⟩ := hheld
      obtain ⟨stored, hmem, hid, hsame⟩ := hstands
      have hvalid : validateIntent sha256 intent = .ok () := by
        rw [hown]
        exact newIntent_valid _ _
      have hframe := settleTransition_frame sha256 system.store intent appended
        (calls i).options.nowMs
      obtain ⟨prepared, hok, hprepared⟩ := settleTransition_isOk h.store hvalid hmem hid hsame
        appended (calls i).options.nowMs
      apply agrees_update hagrees
      . rw [hframe.1]
      . intro _
        refine ⟨prepared, hok, ?_, ?_⟩
        . rw [hframe.1, hprepared]
          exact hmem
        . rw [hprepared, hid, hown]
          rfl
    . exact hagrees j
  | record intent phase evidence recordedAtMs =>
    exact agrees_mono (step_extends sha256 calls system
      (.record intent phase evidence recordedAtMs)).1 (hagrees j)
  | closure call => exact agrees_mono List.prefix_rfl (hagrees j)

end TransitionSystem

end SessionTransition
