import AgentHarness.GoalClosure.Lemmas.Ledger

/-!
How often a goal generation is closed.
-/

namespace GoalClosure

variable {sha256 : CollisionFree}

namespace GoalClosureLedger

variable {ledger : GoalClosureLedger}

def HasFailed (self : GoalClosureLedger) (closureId : String) : Prop :=
  ∃ receipt ∈ self.receiptsOf closureId,
    receipt.phase = .backendResultRecorded ∧ receipt.result ≠ .succeeded

instance (ledger : GoalClosureLedger) (closureId : String)
    : Decidable (ledger.HasFailed closureId) :=
  inferInstanceAs (Decidable (∃ receipt ∈ ledger.receiptsOf closureId,
    receipt.phase = .backendResultRecorded ∧ receipt.result ≠ .succeeded))

theorem Sound.not_isClosed_of_hasFailed (h : ledger.Sound sha256) {closureId : String}
    (hfailed : ledger.HasFailed closureId)
    : ¬ledger.IsClosed closureId := by
  rintro ⟨last, hlast, hterminal⟩
  obtain ⟨backend, hbackend, hphase, hresult⟩ := hfailed
  have history := h.histories closureId
  obtain ⟨n, hn⟩ := List.mem_iff_getElem?.mp hlast
  have hlt := (List.getElem?_eq_some_iff.mp hn).1
  have hcompleted : last.phase = .completed := by
    unfold GoalClosureReceiptV1.isTerminal at hterminal
    simp_all
  have hordinal := history.ordinal_at hn
  rw [hcompleted] at hordinal
  have hfour : (4 : Nat) = n := hordinal
  exact hresult (history.succeeded (by omega) backend hbackend hphase)

end GoalClosureLedger

theorem receiptsOf_step {ledger : GoalClosureLedger} (h : ledger.Sound sha256)
    (call : GoalClosureCall) {closureId : String} {receipt : GoalClosureReceiptV1}
    (hmem : receipt ∈ ledger.receiptsOf closureId)
    : receipt ∈ (step sha256 ledger call).receiptsOf closureId := by
  rw [GoalClosureLedger.mem_receiptsOf] at hmem ⊢
  exact ⟨(step_extends h call).2.subset hmem.1, hmem.2⟩

theorem hasFailed_step {ledger : GoalClosureLedger} (h : ledger.Sound sha256)
    (call : GoalClosureCall) {closureId : String} (hfailed : ledger.HasFailed closureId)
    : (step sha256 ledger call).HasFailed closureId := by
  obtain ⟨receipt, hmem, hreceipt⟩ := hfailed
  exact ⟨receipt, receiptsOf_step h call hmem, hreceipt⟩

theorem hasFailed_exec {ledger : GoalClosureLedger} (h : ledger.Sound sha256)
    (calls : List GoalClosureCall) {closureId : String} (hfailed : ledger.HasFailed closureId)
    : (Run.exec (step sha256) ledger calls).Sound sha256
        ∧ (Run.exec (step sha256) ledger calls).HasFailed closureId := by
  apply Run.exec_invariant
    (fun ledger => GoalClosureLedger.Sound sha256 ledger ∧ ledger.HasFailed closureId) _ _ calls
  . rintro ledger call ⟨h, hfailed⟩
    exact ⟨step_sound h call, hasFailed_step h call hfailed⟩
  . exact ⟨h, hfailed⟩

/-
An intent comes under a new closure ID only when no other closure of its goal generation is open.
-/
def OpensAlone (ledger : GoalClosureLedger) (call : GoalClosureCall) : Prop :=
  match call with
  | .intent intent => ∀ stored ∈ ledger.intents, sameGoalGeneration stored intent →
    stored.closureId ≠ intent.closureId →
      ledger.IsClosed stored.closureId ∨ ledger.HasFailed stored.closureId
  | .phase _ _ _ => True

instance (ledger : GoalClosureLedger) (call : GoalClosureCall) : Decidable (OpensAlone ledger call) :=
  match call with
  | .intent intent => inferInstanceAs (Decidable (∀ stored ∈ ledger.intents,
    sameGoalGeneration stored intent → stored.closureId ≠ intent.closureId →
      ledger.IsClosed stored.closureId ∨ ledger.HasFailed stored.closureId))
  | .phase _ _ _ => isTrue trivial

def OneIsOpen (ledger : GoalClosureLedger) : Prop :=
  ∀ left ∈ ledger.intents, ∀ right ∈ ledger.intents, sameGoalGeneration left right →
    left.closureId ≠ right.closureId →
      ledger.HasFailed left.closureId ∨ ledger.HasFailed right.closureId

theorem sameGoalGeneration_symm {left right : GoalClosureIntentV1}
    (h : sameGoalGeneration left right)
    : sameGoalGeneration right left := by
  unfold sameGoalGeneration at h ⊢
  simp_all

theorem oneIsOpen_addIntent {ledger : GoalClosureLedger} (hone : OneIsOpen ledger)
    {intent : GoalClosureIntentV1} (hadmits : ledger.Admits sha256 intent)
    (hguard : OpensAlone ledger (.intent intent))
    : OneIsOpen (ledger.addIntent intent) := by
  have hfailed : ∀ stored ∈ ledger.intents, sameGoalGeneration stored intent →
      stored.closureId ≠ intent.closureId → ledger.HasFailed stored.closureId := by
    intro stored hstored hsame hne
    cases hguard stored hstored hsame hne with
    | inr hfailed => exact hfailed
    | inl hclosed =>
      have hmem := GoalClosureLedger.mem_closedOf.mpr ⟨hstored, hsame, hclosed⟩
      rw [hadmits.notClosed] at hmem
      cases hmem
  intro left hleft right hright hsame hne
  cases List.mem_append.mp hleft with
  | inl hleft =>
    cases List.mem_append.mp hright with
    | inl hright => exact hone left hleft right hright hsame hne
    | inr hright =>
      rw [List.mem_singleton.mp hright] at hsame hne
      exact .inl (hfailed left hleft hsame hne)
  | inr hleft =>
    cases List.mem_append.mp hright with
    | inl hright =>
      rw [List.mem_singleton.mp hleft] at hsame hne
      exact .inr (hfailed right hright (sameGoalGeneration_symm hsame) hne.symm)
    | inr hright =>
      rw [List.mem_singleton.mp hleft, List.mem_singleton.mp hright] at hne
      exact absurd rfl hne

theorem oneIsOpen_step {ledger : GoalClosureLedger} (h : ledger.Sound sha256)
    (hone : OneIsOpen ledger) {call : GoalClosureCall} (hguard : OpensAlone ledger call)
    : OneIsOpen (step sha256 ledger call) := by
  obtain hsame | ⟨intent, hcall, hadmits, hperform⟩ | ⟨intent, phase, input, _, hadvances, hperform⟩ :=
    perform_cases h call
  . rw [hsame]
    exact hone
  . rw [step, hperform]
    rw [hcall] at hguard
    exact oneIsOpen_addIntent hone hadmits hguard
  . intro left hleft right hright hsame hne
    have hintents : (step sha256 ledger call).intents = ledger.intents := by
      rw [step, hperform]
      rfl
    rw [hintents] at hleft hright
    cases hone left hleft right hright hsame hne with
    | inl hfailed => exact .inl (hasFailed_step h call hfailed)
    | inr hfailed => exact .inr (hasFailed_step h call hfailed)

theorem eq_of_isClosed {ledger : GoalClosureLedger} (h : ledger.Sound sha256)
    (hone : OneIsOpen ledger) {left right : GoalClosureIntentV1} (hleft : left ∈ ledger.intents)
    (hright : right ∈ ledger.intents) (hsame : sameGoalGeneration left right)
    (hleftClosed : ledger.IsClosed left.closureId) (hrightClosed : ledger.IsClosed right.closureId)
    : left.closureId = right.closureId := by
  by_contra hne
  cases hone left hleft right hright hsame hne with
  | inl hfailed => exact h.not_isClosed_of_hasFailed hfailed hleftClosed
  | inr hfailed => exact h.not_isClosed_of_hasFailed hfailed hrightClosed

theorem validate_ne_moreThanOneTerminalClosure {intent : GoalClosureIntentV1}
    : intent.validate sha256 ≠ .error moreThanOneTerminalClosure := by
  unfold GoalClosureIntentV1.validate GoalClosureIntentV1.new validateAuthority validateNonempty
  simp [Except.bind_eq_error, Except.require_eq_error, moreThanOneTerminalClosure, invalidData,
    invalidInput]

theorem recordGoalClosureIntent_ne_moreThanOne {ledger : GoalClosureLedger}
    (h : ledger.Sound sha256) {intent : GoalClosureIntentV1}
    (hclosed : (ledger.closedOf intent).length ≤ 1)
    : (recordGoalClosureIntent sha256 ledger intent).2 ≠ .error moreThanOneTerminalClosure := by
  have hterminal : terminalIntent sha256 ledger intent ≠ .error moreThanOneTerminalClosure := by
    by_cases hvalid : intent.validate sha256 = .ok ()
    . rw [h.terminalIntent hvalid]
      split
      . simp
      . simp
      . next hnil hsingle =>
        exfalso
        match hmatch : ledger.closedOf intent with
        | [] => exact hnil hmatch
        | [stored] => exact hsingle stored hmatch
        | _ :: _ :: _ =>
          rw [hmatch] at hclosed
          simp at hclosed
    . unfold terminalIntent
      intro herror
      rw [Except.bind_eq_error] at herror
      cases herror with
      | inl herror => exact validate_ne_moreThanOneTerminalClosure herror
      | inr hok =>
        obtain ⟨_, hok, _⟩ := hok
        exact hvalid hok
  by_cases hadmits : ledger.Admits sha256 intent
  . rw [hadmits.recordGoalClosureIntent h]
    simp
  . unfold recordGoalClosureIntent
    split
    . next e herror =>
      rw [herror] at hterminal
      simpa using hterminal
    . simp
    . next hnone =>
      have hvalid : intent.validate sha256 = .ok () := by
        unfold terminalIntent at hnone
        rw [Except.bind_eq_ok] at hnone
        obtain ⟨_, hok, _⟩ := hnone
        exact hok
      have hopen : ledger.closedOf intent = [] := by
        rw [h.terminalIntent hvalid] at hnone
        split at hnone
        . next hnil => exact hnil
        . cases hnone
        . cases hnone
      have hstored : ∃ stored ∈ ledger.intents, stored.eventKey = intent.eventKey := by
        by_contra hfresh
        push Not at hfresh
        exact hadmits ⟨hvalid, hopen, hfresh⟩
      have happend := @Ledger.appendOnce_stored _ GoalClosureIntentV1.eventKey _ _
        (GoalClosureIntentV1.not_isBlank_eventKey hvalid) hstored
      obtain ⟨stored, hmem, hkey⟩ := hstored
      have hfind := Ledger.findOne_of_mem h.intentKeys hmem duplicateEventKey
      rw [hkey] at hfind
      have hstored := h.intents stored hmem
      simp [-bind_pure_comp, happend, hfind, hstored, Except.bind_eq_error,
        Except.require_eq_error, Except.ofOption, Except.pure_ne_error,
        moreThanOneTerminalClosure, invalidData]

/-
When no intent is recorded beside an open closure of its goal generation, the generation is closed
once and every intent is taken.
-/
theorem closed_once (calls : List GoalClosureCall)
    (hguard : Run.Guarded (step sha256) OpensAlone .empty calls)
    : let ledger := ledgerAfter sha256 calls
      (∀ left ∈ ledger.intents, ∀ right ∈ ledger.intents, sameGoalGeneration left right →
        ledger.IsClosed left.closureId → ledger.IsClosed right.closureId →
          left.closureId = right.closureId)
        ∧ ∀ intent, (recordGoalClosureIntent sha256 ledger intent).2
          ≠ .error moreThanOneTerminalClosure := by
  intro ledger
  have hinv : ledger.Sound sha256 ∧ OneIsOpen ledger := by
    apply Run.exec_invariant_of_guarded
      (fun ledger => GoalClosureLedger.Sound sha256 ledger ∧ OneIsOpen ledger) _ _ hguard
    . rintro ledger call ⟨h, hone⟩ hcall
      exact ⟨step_sound h call, oneIsOpen_step h hone hcall⟩
    . refine ⟨GoalClosureLedger.sound_empty, ?_⟩
      intro left hleft
      cases hleft
  obtain ⟨h, hone⟩ := hinv
  have honce : ∀ left ∈ ledger.intents, ∀ right ∈ ledger.intents, sameGoalGeneration left right →
      ledger.IsClosed left.closureId → ledger.IsClosed right.closureId →
        left.closureId = right.closureId := by
    intro left hleft right hright hsame hleftClosed hrightClosed
    exact eq_of_isClosed h hone hleft hright hsame hleftClosed hrightClosed
  refine ⟨honce, ?_⟩
  intro intent
  apply recordGoalClosureIntent_ne_moreThanOne h
  have hnodup : (ledger.closedOf intent).Nodup :=
    (h.intentKeys.of_map _).sublist (List.filter_sublist.trans List.filter_sublist)
  by_contra hmore
  match hclosed : ledger.closedOf intent with
  | [] => simp [hclosed] at hmore
  | [_] => simp [hclosed] at hmore
  | first :: second :: rest =>
    have hfirst := GoalClosureLedger.mem_closedOf.mp
      (show first ∈ ledger.closedOf intent by simp [hclosed])
    have hsecond := GoalClosureLedger.mem_closedOf.mp
      (show second ∈ ledger.closedOf intent by simp [hclosed])
    have hsame : sameGoalGeneration first second := by
      have := hfirst.2.1
      have := hsecond.2.1
      unfold sameGoalGeneration at *
      simp_all
    have hid := honce first hfirst.1 second hsecond.1 hsame hfirst.2.2 hsecond.2.2
    have hkey : first.eventKey = second.eventKey := by
      rw [(GoalClosureIntentV1.parts_of_validate (h.intents first hfirst.1)).1,
        (GoalClosureIntentV1.parts_of_validate (h.intents second hsecond.1)).1, hid]
    have heq := List.inj_on_of_nodup_map h.intentKeys hfirst.1 hsecond.1 hkey
    rw [hclosed, heq] at hnodup
    simp at hnodup

section Samples

def closingInput (phase : GoalClosurePhaseV1) : GoalClosurePhaseInputV1 where
  result := if phase = .intentRecorded then .pending else .succeeded
  projectionChecksum := some "projection"
  lineageChecksum := some "lineage"
  resultEvidenceDigest := none
  recordedAtMs := 0

def closingCalls (intent : GoalClosureIntentV1) (phases : List GoalClosurePhaseV1)
    : List GoalClosureCall :=
  phases.map fun phase => .phase intent phase (closingInput phase)

def closingReceipts (sha256 : CollisionFree) (intent : GoalClosureIntentV1)
    (phases : List GoalClosurePhaseV1)
    : List GoalClosureReceiptV1 :=
  phases.map fun phase => newReceipt sha256 intent phase (closingInput phase)

theorem closingInput_evidence {phase : GoalClosurePhaseV1} (h : phase ∈ phaseOrder)
    : validatePhaseEvidence phase (closingInput phase) = .ok () := by
  cases phase <;> first | rfl | (exfalso; revert h; decide)

theorem closingReceipts_append {ledger : GoalClosureLedger} (h : ledger.Sound sha256)
    {intent : GoalClosureIntentV1} (hstored : intent ∈ ledger.intents)
    (hnone : ledger.receiptsOf intent.closureId = []) {n : Nat} (hn : n ≤ 5)
    : Run.exec (step sha256) ledger (closingCalls intent (phaseOrder.take n))
        = { ledger with
            receipts := ledger.receipts ++ closingReceipts sha256 intent (phaseOrder.take n) } := by
  induction n with
  | zero => simp [closingCalls, closingReceipts]
  | succ n ih =>
    have hlt : n < phaseOrder.length := hn
    have ih := ih (by omega)
    rw [List.take_add_one, List.getElem?_eq_getElem hlt, Option.toList_some]
    unfold closingCalls closingReceipts at ih ⊢
    rw [List.map_append, List.map_singleton, Run.exec_concat, ih]
    generalize hphase : phaseOrder[n] = phase
    have hget : phaseOrder[n]? = some phase := by rw [List.getElem?_eq_getElem hlt, hphase]
    have hordinal := ordinal_of_phaseOrder hget
    have hmem : phase ∈ phaseOrder := List.mem_of_getElem? hget
    have hsound := Run.exec_invariant (GoalClosureLedger.Sound sha256)
      (fun _ call h => step_sound h call) h (closingCalls intent (phaseOrder.take n))
    unfold closingCalls at hsound
    rw [ih] at hsound
    have hreceipts : GoalClosureLedger.receiptsOf
        { ledger with
          receipts := ledger.receipts ++ (phaseOrder.take n).map fun phase =>
            newReceipt sha256 intent phase (closingInput phase) } intent.closureId
        = (phaseOrder.take n).map fun phase =>
          newReceipt sha256 intent phase (closingInput phase) := by
      unfold GoalClosureLedger.receiptsOf at hnone ⊢
      rw [List.filter_append, hnone, List.nil_append, List.filter_eq_self]
      intro receipt hreceipt
      obtain ⟨_, _, rfl⟩ := List.mem_map.mp hreceipt
      simp [newReceipt]
    have hlast : ∀ last, ((phaseOrder.take n).map fun phase =>
        newReceipt sha256 intent phase (closingInput phase)).getLast? = some last →
        last.result = (closingInput last.phase).result ∧ last.lineageChecksum = some "lineage"
          ∧ phaseOrder[n - 1]? = some last.phase := by
      intro last hlast
      rw [List.getLast?_map, Option.map_eq_some_iff] at hlast
      obtain ⟨old, hold, rfl⟩ := hlast
      refine ⟨rfl, rfl, ?_⟩
      rw [List.getLast?_take] at hold
      split at hold
      . cases hold
      . have hsome : (phaseOrder[n - 1]?).isSome := by
          rw [List.getElem?_eq_getElem (by omega)]
          rfl
        rw [Option.or_of_isSome hsome] at hold
        exact hold
    have hadvances : GoalClosureLedger.Advances sha256
        { ledger with
          receipts := ledger.receipts ++ (phaseOrder.take n).map fun phase =>
            newReceipt sha256 intent phase (closingInput phase) } intent phase (closingInput phase) := by
      constructor
      . exact hstored
      . rw [hreceipts, hordinal, List.length_map, List.length_take]
        omega
      . rw [hreceipts]
        intro hone last hlastEq
        obtain ⟨hresult, _, hat⟩ := hlast last hlastEq
        have hlastOrdinal := ordinal_of_phaseOrder hat
        rw [hresult, closingInput, if_neg]
        intro hfirst
        rw [hfirst] at hlastOrdinal
        have : (0 : Nat) = n - 1 := hlastOrdinal
        omega
      . rw [hreceipts]
        intro hcompleted
        cases hlastEq : ((phaseOrder.take n).map fun phase =>
            newReceipt sha256 intent phase (closingInput phase)).getLast? with
        | none =>
          exfalso
          rw [List.getLast?_eq_none_iff, List.map_eq_nil_iff, List.take_eq_nil_iff] at hlastEq
          rw [hcompleted] at hordinal
          have : (4 : Nat) = n := hordinal
          cases hlastEq with
          | inl hzero => omega
          | inr hnil => cases hnil
        | some last => exact (hlast last hlastEq).2.1
      . exact closingInput_evidence hmem
    have hperform := hadvances.recordGoalClosurePhase hsound
    simp only [step, perform, hperform, Outcome.andThen_ok]
    simp [GoalClosureLedger.addReceipt]

def sampleAuthority : GoalClosureAuthorityV1 where
  laneDigest := "lane"
  concreteSessionKey := "session"
  virtualSessionId := "virtual"
  backendContextGeneration := "1"
  sourceThreadId := "thread"

def sampleIntent (sha256 : CollisionFree) (effect : String) : GoalClosureIntentV1 :=
  let closureId := sha256.checksumJson
    (closureIdentityPayload sampleAuthority "goal" "first" .canceled effect)
  {
    schema := goalClosureIntentSchema
    eventKey := closureId
    closureId
    trigger := .recovery
    disposition := .canceled
    authority := sampleAuthority
    authorityDigest := sha256.checksumJson sampleAuthority.toJson
    goalIdentity := "goal"
    goalGeneration := "first"
    expectedProjectionChecksum := some "projection"
    callerEffectIdentity := effect
    callerEffectDigest := sha256.checksumJson (.string effect)
    reason := "reason"
    intentChecksum := sha256.checksumJson (intentChecksumPayload closureId .recovery .canceled
      sampleAuthority "goal" "first" (some "projection") effect "reason") }

theorem sampleIntent_valid {effect : String} (heffect : TextFile.isBlank effect = false)
    : (sampleIntent sha256 effect).validate sha256 = .ok () := by
  have hauthority : validateAuthority sampleAuthority = .ok () := rfl
  have hidentity : validateNonempty "goal identity" "goal" = .ok () := rfl
  have hgeneration : validateNonempty "goal generation" "first" = .ok () := rfl
  have hreason : validateNonempty "reason" "reason" = .ok () := rfl
  have hcaller : validateNonempty "caller effect identity" effect = .ok () := by
    simp [validateNonempty, Except.require, heffect]
  have hprojection : (some "projection").any (fun value => !TextFile.isBlank value) = true := by
    decide
  rw [GoalClosureIntentV1.validate_iff, GoalClosureIntentV1.new]
  simp only [sampleIntent, hauthority, hidentity, hgeneration, hreason, hcaller, hprojection,
    bind, Except.bind, Except.require]
  rfl

theorem sampleIntent_closureId {left right : String}
    : (sampleIntent sha256 left).closureId = (sampleIntent sha256 right).closureId ↔
        left = right := by
  simp [sampleIntent, closureIdentityPayload]

def sampleCalls (sha256 : CollisionFree) : List GoalClosureCall :=
  [GoalClosureCall.intent (sampleIntent sha256 "stop"), .intent (sampleIntent sha256 "new")]
    ++ closingCalls (sampleIntent sha256 "stop") phaseOrder
    ++ closingCalls (sampleIntent sha256 "new") phaseOrder

theorem closedOf_nil {ledger : GoalClosureLedger} (hreceipts : ledger.receipts = [])
    (intent : GoalClosureIntentV1)
    : ledger.closedOf intent = [] := by
  rw [List.eq_nil_iff_forall_not_mem]
  intro stored hstored
  obtain ⟨_, _, receipt, hmem, _⟩ := GoalClosureLedger.mem_closedOf.mp hstored
  rw [GoalClosureLedger.mem_receiptsOf, hreceipts] at hmem
  exact absurd hmem.1 List.not_mem_nil

theorem step_intent {ledger : GoalClosureLedger} (h : ledger.Sound sha256)
    {intent : GoalClosureIntentV1} (hadmits : ledger.Admits sha256 intent)
    : step sha256 ledger (.intent intent) = ledger.addIntent intent := by
  simp only [step, perform, hadmits.recordGoalClosureIntent h, Outcome.andThen_ok]

theorem ledgerAfter_intents
    : ledgerAfter sha256 [.intent (sampleIntent sha256 "stop"), .intent (sampleIntent sha256 "new")]
        = { intents := [sampleIntent sha256 "stop", sampleIntent sha256 "new"], receipts := [] } := by
  have hstop : GoalClosureLedger.empty.Admits sha256 (sampleIntent sha256 "stop") := by
    constructor
    . exact sampleIntent_valid (by decide)
    . exact closedOf_nil rfl _
    . simp [GoalClosureLedger.empty]
  have hstopSound := GoalClosureLedger.sound_empty.addIntent hstop
  have hnew : (GoalClosureLedger.empty.addIntent (sampleIntent sha256 "stop")).Admits sha256
      (sampleIntent sha256 "new") := by
    constructor
    . exact sampleIntent_valid (by decide)
    . exact closedOf_nil rfl _
    . intro stored hstored hkey
      obtain rfl : stored = sampleIntent sha256 "stop" := by
        simpa [GoalClosureLedger.empty, GoalClosureLedger.addIntent] using hstored
      have hid := sampleIntent_closureId.mp hkey
      exact absurd hid (by decide)
  unfold ledgerAfter
  rw [Run.exec_cons, step_intent GoalClosureLedger.sound_empty hstop, Run.exec_cons,
    step_intent hstopSound hnew]
  rfl

theorem receiptsOf_closingReceipts {intents : List GoalClosureIntentV1}
    {intent other : GoalClosureIntentV1} (hne : intent.closureId ≠ other.closureId)
    (phases : List GoalClosurePhaseV1)
    : GoalClosureLedger.receiptsOf { intents, receipts := closingReceipts sha256 intent phases }
        other.closureId = [] := by
  unfold GoalClosureLedger.receiptsOf closingReceipts
  rw [List.filter_eq_nil_iff]
  intro receipt hreceipt
  obtain ⟨_, _, rfl⟩ := List.mem_map.mp hreceipt
  simp [newReceipt, hne]

theorem ledgerAfter_sampleCalls
    : ledgerAfter sha256 (sampleCalls sha256) = {
        intents := [sampleIntent sha256 "stop", sampleIntent sha256 "new"]
        receipts := closingReceipts sha256 (sampleIntent sha256 "stop") phaseOrder
          ++ closingReceipts sha256 (sampleIntent sha256 "new") phaseOrder } := by
  have hstart := @ledgerAfter_intents sha256
  have hsound := @ledgerAfter_sound sha256
    [.intent (sampleIntent sha256 "stop"), .intent (sampleIntent sha256 "new")]
  have hstop := @closingReceipts_append sha256 _ hsound (sampleIntent sha256 "stop")
    (by simp [hstart]) (by rw [hstart]; rfl) 5 (by omega)
  have hstopSound := Run.exec_invariant (GoalClosureLedger.Sound sha256)
    (fun _ call h => step_sound h call) hsound
    (closingCalls (sampleIntent sha256 "stop") (phaseOrder.take 5))
  rw [hstart] at hstop
  rw [hstart, hstop] at hstopSound
  have hne : (sampleIntent sha256 "stop").closureId ≠ (sampleIntent sha256 "new").closureId := by
    rw [Ne, sampleIntent_closureId]
    decide
  have hnew := @closingReceipts_append sha256 _ hstopSound (sampleIntent sha256 "new")
    (by simp) (receiptsOf_closingReceipts hne _) 5 (by omega)
  unfold sampleCalls
  unfold ledgerAfter at hstart ⊢
  rw [Run.exec_append, Run.exec_append, hstart]
  rw [show phaseOrder = phaseOrder.take 5 from rfl, hstop, hnew]
  rfl

theorem isClosed_of_closingReceipts {ledger : GoalClosureLedger} {intent : GoalClosureIntentV1}
    (h : ∀ receipt ∈ closingReceipts sha256 intent phaseOrder, receipt ∈ ledger.receipts)
    : ledger.IsClosed intent.closureId := by
  refine ⟨newReceipt sha256 intent .completed (closingInput .completed), ?_, rfl⟩
  rw [GoalClosureLedger.mem_receiptsOf]
  refine ⟨h _ ?_, rfl⟩
  apply List.mem_map_of_mem
  decide

theorem sampleCalls_closed (effect : String) (heffect : effect = "stop" ∨ effect = "new")
    : (ledgerAfter sha256 (sampleCalls sha256)).IsClosed (sampleIntent sha256 effect).closureId := by
  rw [ledgerAfter_sampleCalls]
  apply @isClosed_of_closingReceipts sha256
  intro receipt hreceipt
  rw [List.mem_append]
  cases heffect with
  | inl hstop =>
    rw [hstop] at hreceipt
    exact .inl hreceipt
  | inr hnew =>
    rw [hnew] at hreceipt
    exact .inr hreceipt

theorem closedOf_eq_intents {ledger : GoalClosureLedger} {intent : GoalClosureIntentV1}
    (h : ∀ stored ∈ ledger.intents,
      sameGoalGeneration stored intent ∧ ledger.IsClosed stored.closureId)
    : ledger.closedOf intent = ledger.intents := by
  have hsame : ledger.intents.filter (sameGoalGeneration · intent) = ledger.intents := by
    rw [List.filter_eq_self]
    intro stored hstored
    exact (h stored hstored).1
  unfold GoalClosureLedger.closedOf
  rw [hsame, List.filter_eq_self]
  intro stored hstored
  rw [decide_eq_true_eq]
  exact (h stored hstored).2

theorem sampleIntent_same (left right : String)
    : sameGoalGeneration (sampleIntent sha256 left) (sampleIntent sha256 right) := by
  simp [sameGoalGeneration, sampleIntent]

theorem refused_of_two_closed {ledger : GoalClosureLedger} (h : ledger.Sound sha256)
    (hintents : ledger.intents = [sampleIntent sha256 "stop", sampleIntent sha256 "new"])
    (hstop : ledger.IsClosed (sampleIntent sha256 "stop").closureId)
    (hnew : ledger.IsClosed (sampleIntent sha256 "new").closureId) {effect : String}
    (heffect : TextFile.isBlank effect = false)
    : (recordGoalClosureIntent sha256 ledger (sampleIntent sha256 effect)).2
        = .error moreThanOneTerminalClosure := by
  have hclosed := @closedOf_eq_intents ledger (sampleIntent sha256 effect) (by
    rw [hintents]
    intro stored hstored
    simp only [List.mem_cons, List.not_mem_nil, or_false] at hstored
    cases hstored with
    | inl hfirst =>
      rw [hfirst]
      exact ⟨sampleIntent_same _ _, hstop⟩
    | inr hsecond =>
      rw [hsecond]
      exact ⟨sampleIntent_same _ _, hnew⟩)
  have hterminal := h.terminalIntent (sampleIntent_valid heffect)
  rw [hclosed, hintents] at hterminal
  unfold recordGoalClosureIntent
  rw [hterminal]

structure TwoClosures (sha256 : CollisionFree) (ledger : GoalClosureLedger) : Prop where
  two : ∃ left ∈ ledger.intents, ∃ right ∈ ledger.intents, sameGoalGeneration left right
    ∧ ledger.IsClosed left.closureId ∧ ledger.IsClosed right.closureId
    ∧ left.closureId ≠ right.closureId
  refused : ∃ intent, (recordGoalClosureIntent sha256 ledger intent).2
    = .error moreThanOneTerminalClosure

theorem sampleCalls_twoClosures (sha256 : CollisionFree)
    : TwoClosures sha256 (ledgerAfter sha256 (sampleCalls sha256)) := by
  have hintents : (ledgerAfter sha256 (sampleCalls sha256)).intents
      = [sampleIntent sha256 "stop", sampleIntent sha256 "new"] := by
    rw [ledgerAfter_sampleCalls]
  have hsound := @ledgerAfter_sound sha256 (sampleCalls sha256)
  have hstop := @sampleCalls_closed sha256 "stop" (.inl rfl)
  have hnew := @sampleCalls_closed sha256 "new" (.inr rfl)
  have hne : (sampleIntent sha256 "stop").closureId ≠ (sampleIntent sha256 "new").closureId := by
    rw [Ne, sampleIntent_closureId]
    decide
  constructor
  . rw [hintents]
    exact ⟨_, List.mem_cons_self, _, List.mem_cons_of_mem _ List.mem_cons_self,
      sampleIntent_same _ _, hstop, hnew, hne⟩
  . exact ⟨sampleIntent sha256 "third", refused_of_two_closed hsound hintents hstop hnew (by decide)⟩

/-
Two intents of one goal generation are recorded, each closure comes to its end, and a third intent is
refused.
-/
theorem two_closures_of_one_generation
    : TwoClosures .extended (ledgerAfter .extended (sampleCalls .extended)) :=
  sampleCalls_twoClosures .extended

def failedInput : GoalClosurePhaseInputV1 where
  result := .retryableFailure
  projectionChecksum := none
  lineageChecksum := none
  resultEvidenceDigest := none
  recordedAtMs := 0

theorem step_phase {ledger : GoalClosureLedger} (h : ledger.Sound sha256)
    {intent : GoalClosureIntentV1} {phase : GoalClosurePhaseV1} {input : GoalClosurePhaseInputV1}
    (hadvances : ledger.Advances sha256 intent phase input)
    : step sha256 ledger (.phase intent phase input)
        = ledger.addReceipt (newReceipt sha256 intent phase input) := by
  simp only [step, perform, hadvances.recordGoalClosurePhase h, Outcome.andThen_ok]

theorem receiptsOf_newReceipt (ledger : GoalClosureLedger) (intent : GoalClosureIntentV1)
    (phase : GoalClosurePhaseV1) (input : GoalClosurePhaseInputV1)
    : (ledger.addReceipt (newReceipt sha256 intent phase input)).receiptsOf intent.closureId
        = ledger.receiptsOf intent.closureId ++ [newReceipt sha256 intent phase input] := by
  have hid : (newReceipt sha256 intent phase input).closureId = intent.closureId := rfl
  rw [GoalClosureLedger.receiptsOf_addReceipt, if_pos hid]

def failedCalls (sha256 : CollisionFree) : List GoalClosureCall :=
  [.intent (sampleIntent sha256 "stop"),
    .phase (sampleIntent sha256 "stop") .intentRecorded (closingInput .intentRecorded),
    .phase (sampleIntent sha256 "stop") .backendResultRecorded failedInput]

theorem ledgerAfter_failedCalls
    : ledgerAfter sha256 (failedCalls sha256) = {
        intents := [sampleIntent sha256 "stop"]
        receipts := [
          newReceipt sha256 (sampleIntent sha256 "stop") .intentRecorded
            (closingInput .intentRecorded),
          newReceipt sha256 (sampleIntent sha256 "stop") .backendResultRecorded failedInput] } := by
  have hadmits : GoalClosureLedger.empty.Admits sha256 (sampleIntent sha256 "stop") := by
    constructor
    . exact sampleIntent_valid (by decide)
    . exact closedOf_nil rfl _
    . simp [GoalClosureLedger.empty]
  have hsound := GoalClosureLedger.sound_empty.addIntent hadmits
  have hstored : sampleIntent sha256 "stop"
      ∈ (GoalClosureLedger.empty.addIntent (sampleIntent sha256 "stop")).intents :=
    List.mem_append_right _ List.mem_cons_self
  have hfirst : (GoalClosureLedger.empty.addIntent (sampleIntent sha256 "stop")).Advances sha256
      (sampleIntent sha256 "stop") .intentRecorded (closingInput .intentRecorded) := by
    constructor
    . exact hstored
    . rfl
    . intro hone
      exact absurd hone (by decide)
    . intro hcompleted
      cases hcompleted
    . rfl
  have hrecorded := hsound.addReceipt hfirst
  have hsecond : ((GoalClosureLedger.empty.addIntent (sampleIntent sha256 "stop")).addReceipt
      (newReceipt sha256 (sampleIntent sha256 "stop") .intentRecorded
        (closingInput .intentRecorded))).Advances sha256 (sampleIntent sha256 "stop")
          .backendResultRecorded failedInput := by
    constructor
    . exact hstored
    . rw [receiptsOf_newReceipt]
      rfl
    . intro hone
      exact absurd hone (by decide)
    . intro hcompleted
      cases hcompleted
    . rfl
  unfold ledgerAfter failedCalls
  rw [Run.exec_cons, step_intent GoalClosureLedger.sound_empty hadmits, Run.exec_cons,
    step_phase hsound hfirst, Run.exec_cons, step_phase hrecorded hsecond]
  rfl

theorem hasFailed_failedCalls
    : (ledgerAfter sha256 (failedCalls sha256)).HasFailed (sampleIntent sha256 "stop").closureId := by
  rw [ledgerAfter_failedCalls]
  refine ⟨newReceipt sha256 (sampleIntent sha256 "stop") .backendResultRecorded failedInput, ?_,
    rfl, GoalClosureResultV1.noConfusion⟩
  rw [GoalClosureLedger.mem_receiptsOf]
  exact ⟨List.mem_cons_of_mem _ List.mem_cons_self, rfl⟩

/-
The backend fails the first closure, and a second one of the same generation is carried to its end.
-/
def failedThenClosed (sha256 : CollisionFree) : List GoalClosureCall :=
  failedCalls sha256
    ++ .intent (sampleIntent sha256 "new") :: closingCalls (sampleIntent sha256 "new") phaseOrder

theorem failedThenClosed_guarded (sha256 : CollisionFree)
    : Run.Guarded (step sha256) OpensAlone .empty (failedThenClosed sha256) := by
  rw [failedThenClosed, Run.guarded_append]
  constructor
  . exact ⟨by simp [OpensAlone, GoalClosureLedger.empty], trivial, trivial, trivial⟩
  . constructor
    . intro stored hstored _ _
      have hledger := @ledgerAfter_failedCalls sha256
      unfold ledgerAfter at hledger
      rw [hledger, List.mem_singleton] at hstored
      rw [hstored]
      exact .inr hasFailed_failedCalls
    . apply Run.guarded_of_forall
      intro call hcall ledger
      obtain ⟨_, _, rfl⟩ := List.mem_map.mp hcall
      trivial

theorem failedThenClosed_closed
    : (ledgerAfter sha256 (failedThenClosed sha256)).IsClosed
        (sampleIntent sha256 "new").closureId := by
  have hsound := @ledgerAfter_sound sha256 (failedCalls sha256)
  have hledger := @ledgerAfter_failedCalls sha256
  have hne : (sampleIntent sha256 "stop").closureId ≠ (sampleIntent sha256 "new").closureId := by
    rw [Ne, sampleIntent_closureId]
    decide
  generalize hfailed : ledgerAfter sha256 (failedCalls sha256) = failed at hsound hledger
  have hadmits : failed.Admits sha256 (sampleIntent sha256 "new") := by
    constructor
    . exact sampleIntent_valid (by decide)
    . rw [List.eq_nil_iff_forall_not_mem]
      intro stored hstored
      obtain ⟨hstored, -, hclosed⟩ := GoalClosureLedger.mem_closedOf.mp hstored
      obtain rfl : stored = sampleIntent sha256 "stop" := by simpa [hledger] using hstored
      exact hsound.not_isClosed_of_hasFailed (hfailed ▸ hasFailed_failedCalls) hclosed
    . rw [hledger]
      intro stored hstored
      obtain rfl := List.mem_singleton.mp hstored
      exact hne
  have hnone : (failed.addIntent (sampleIntent sha256 "new")).receiptsOf
      (sampleIntent sha256 "new").closureId = [] := by
    simp [hledger, GoalClosureLedger.receiptsOf, GoalClosureLedger.addIntent, newReceipt, hne]
  have hclosing := closingReceipts_append (hsound.addIntent hadmits)
    (List.mem_append_right _ List.mem_cons_self) hnone (Nat.le_refl 5)
  have hrun : ledgerAfter sha256 (failedThenClosed sha256)
      = { failed.addIntent (sampleIntent sha256 "new") with
          receipts := failed.receipts
            ++ closingReceipts sha256 (sampleIntent sha256 "new") phaseOrder } := by
    unfold ledgerAfter failedThenClosed at *
    rw [Run.exec_append, hfailed, Run.exec_cons, step_intent hsound hadmits]
    exact hclosing
  rw [hrun]
  apply isClosed_of_closingReceipts
  intro receipt hreceipt
  exact List.mem_append_right _ hreceipt

theorem closed_once_sample
    : let ledger := ledgerAfter .extended (failedThenClosed .extended)
      ledger.IsClosed (sampleIntent .extended "new").closureId
        ∧ (∀ left ∈ ledger.intents, ∀ right ∈ ledger.intents, sameGoalGeneration left right →
          ledger.IsClosed left.closureId → ledger.IsClosed right.closureId →
            left.closureId = right.closureId)
        ∧ ∀ intent, (recordGoalClosureIntent .extended ledger intent).2
          ≠ .error moreThanOneTerminalClosure :=
  ⟨failedThenClosed_closed,
    closed_once (failedThenClosed .extended) (failedThenClosed_guarded .extended)⟩

end Samples

end GoalClosure
