import Mathlib.Tactic.IntervalCases
import AgentHarness.GoalClosure.Impl
import AgentHarness.Lib.Run

/-!
The receipts of a closure: one for each phase of a prefix of the five, for every closure of the ledger
and after any calls.
-/

namespace GoalClosure

variable {sha256 : CollisionFree}

section Json

theorem triggerText_injective : Function.Injective GoalClosureTriggerV1.text := by
  intro left right h
  cases left <;> cases right <;> first | rfl | exact absurd h (by decide)

theorem dispositionText_injective : Function.Injective GoalClosureDispositionV1.text := by
  intro left right h
  cases left <;> cases right <;> first | rfl | exact absurd h (by decide)

theorem phaseText_injective : Function.Injective GoalClosurePhaseV1.text := by
  intro left right h
  cases left <;> cases right <;> first | rfl | exact absurd h (by decide)

theorem authorityJson_injective : Function.Injective GoalClosureAuthorityV1.toJson := by
  intro left right h
  cases left
  cases right
  simpa [GoalClosureAuthorityV1.toJson] using h

end Json

namespace GoalClosureIntentV1

theorem validate_iff {intent : GoalClosureIntentV1}
    : intent.validate sha256 = .ok () ↔
        new sha256 intent.trigger intent.disposition intent.authority intent.goalIdentity
          intent.goalGeneration intent.expectedProjectionChecksum intent.callerEffectIdentity
          intent.reason = .ok intent := by
  unfold validate
  rw [Except.bind_eq_ok]
  simp only [Except.require_eq_ok, Bool.and_eq_true, decide_eq_true_eq]
  constructor
  . rintro ⟨rebuilt, hnew, ⟨⟨⟨⟨hschema, hkey⟩, hid⟩, hauthority⟩, heffect⟩, hchecksum⟩
    rw [hnew]
    simp only [new, Except.bind_eq_ok, Except.pure_eq_ok] at hnew
    obtain ⟨-, -, -, -, -, -, -, -, -, -, -, -, -, -, -, -, -, -, rfl⟩ := hnew
    cases intent
    simp_all
  . intro hnew
    refine ⟨intent, hnew, ?_⟩
    simp only [new, Except.bind_eq_ok, Except.pure_eq_ok] at hnew
    obtain ⟨-, -, -, -, -, -, -, -, -, -, -, -, -, -, -, -, -, -, hsame⟩ := hnew
    rw [← hsame]
    simp

variable {intent other : GoalClosureIntentV1}

theorem parts_of_validate (h : intent.validate sha256 = .ok ())
    : intent.eventKey = intent.closureId
        ∧ intent.closureId = sha256.checksumJson (closureIdentityPayload intent.authority
          intent.goalIdentity intent.goalGeneration intent.disposition intent.callerEffectIdentity)
        ∧ intent.intentChecksum = sha256.checksumJson (intentChecksumPayload intent.closureId
          intent.trigger intent.disposition intent.authority intent.goalIdentity
          intent.goalGeneration intent.expectedProjectionChecksum intent.callerEffectIdentity
          intent.reason) := by
  rw [validate_iff] at h
  simp only [new, Except.bind_eq_ok, Except.pure_eq_ok] at h
  obtain ⟨-, -, -, -, -, -, -, -, -, -, -, -, -, -, -, -, -, -, hsame⟩ := h
  rw [← hsame]
  simp

theorem eq_of_intentChecksum (h : intent.validate sha256 = .ok ())
    (h' : other.validate sha256 = .ok ()) (hsame : intent.intentChecksum = other.intentChecksum)
    : intent = other := by
  rw [(parts_of_validate h).2.2, (parts_of_validate h').2.2, sha256.checksumJson_inj] at hsame
  simp only [intentChecksumPayload, Json.object.injEq, List.cons.injEq, Prod.mk.injEq, true_and,
    Json.string.injEq, and_true, authorityJson_injective.eq_iff, Json.ofOption_inj,
    triggerText_injective.eq_iff, dispositionText_injective.eq_iff] at hsame
  obtain ⟨-, htrigger, hdisposition, hauthority, hidentity, hgeneration, hexpected, heffect,
    hreason⟩ := hsame
  rw [validate_iff] at h h'
  rw [htrigger, hdisposition, hauthority, hidentity, hgeneration, hexpected, heffect, hreason,
    h'] at h
  exact (Except.ok.inj h).symm

theorem not_isBlank_eventKey (h : intent.validate sha256 = .ok ())
    : ¬TextFile.isBlank intent.eventKey := by
  rw [(parts_of_validate h).1, (parts_of_validate h).2.1]
  exact sha256.not_isBlank_checksumJson _

end GoalClosureIntentV1

section Receipts

variable {receipt : GoalClosureReceiptV1}

theorem key_of_validateReceipt (h : validateReceipt sha256 receipt = .ok ())
    : receipt.eventKey
        = sha256.checksumJson (receiptIdPayload receipt.closureId receipt.phase) := by
  unfold validateReceipt at h
  simp only [Except.bind_eq_ok, Except.require_eq_ok, Bool.and_eq_true, decide_eq_true_eq] at h
  obtain ⟨_, ⟨_, hkey⟩, _, ⟨hid, _⟩, _⟩ := h
  rw [hkey, hid]

theorem key_eq_iff {other : GoalClosureReceiptV1} (h : validateReceipt sha256 receipt = .ok ())
    (h' : validateReceipt sha256 other = .ok ())
    : receipt.eventKey = other.eventKey ↔
        receipt.closureId = other.closureId ∧ receipt.phase = other.phase := by
  rw [key_of_validateReceipt h, key_of_validateReceipt h', sha256.checksumJson_inj]
  simp [receiptIdPayload, phaseText_injective.eq_iff]

theorem validateReceipt_newReceipt {intent : GoalClosureIntentV1} {phase : GoalClosurePhaseV1}
    {input : GoalClosurePhaseInputV1} (h : validatePhaseEvidence phase input = .ok ())
    : validateReceipt sha256 (newReceipt sha256 intent phase input) = .ok () := by
  unfold validateReceipt
  simp only [Except.bind_eq_ok, Except.require_eq_ok]
  exact ⟨(), by simp [newReceipt], (), by simp [newReceipt], h⟩

end Receipts

def phaseOrder : List GoalClosurePhaseV1 :=
  [.intentRecorded, .backendResultRecorded, .terminalProjectionRecorded, .lineageReconciled,
    .completed]

theorem ordinal_of_phaseOrder {n : Nat} {phase : GoalClosurePhaseV1} (h : phaseOrder[n]? = some phase)
    : phase.ordinal = n := by
  obtain ⟨hlt, hget⟩ := List.getElem?_eq_some_iff.mp h
  have hlt : n < 5 := hlt
  interval_cases n <;> subst hget <;> rfl

theorem phaseOrder_of_ordinal {phase : GoalClosurePhaseV1} (h : phase.ordinal ≤ 5)
    : phaseOrder[phase.ordinal]? = some phase := by
  cases phase <;> first | rfl | (exfalso; revert h; decide)

theorem ordinals_take : ∀ n ≤ 5,
    (phaseOrder.take n).map GoalClosurePhaseV1.ordinal = List.range' 0 n := by
  decide

/-
The receipts of one closure: the phases come in their order, none is past a backend that did not
succeed, and the end keeps the lineage that was reconciled.
-/
structure History (sha256 : CollisionFree) (receipts : List GoalClosureReceiptV1) : Prop where
  phases : receipts.map (·.phase) = phaseOrder.take receipts.length
  valid : ∀ receipt ∈ receipts, validateReceipt sha256 receipt = .ok ()
  succeeded : 2 < receipts.length → ∀ receipt ∈ receipts,
    receipt.phase = .backendResultRecorded → receipt.result = .succeeded
  lineage : ∀ receipt ∈ receipts, receipt.phase = .lineageReconciled →
    ∀ last ∈ receipts, last.phase = .completed → last.lineageChecksum = receipt.lineageChecksum

namespace History

variable {receipts : List GoalClosureReceiptV1}

theorem nil : History sha256 [] where
  phases := rfl
  valid := by simp
  succeeded := by simp
  lineage := by simp

theorem length_le (h : History sha256 receipts) : receipts.length ≤ 5 := by
  have hlength := congrArg List.length h.phases
  rw [List.length_map, List.length_take] at hlength
  have : phaseOrder.length = 5 := rfl
  omega

theorem phase_at (h : History sha256 receipts) {n : Nat} {receipt : GoalClosureReceiptV1}
    (hget : receipts[n]? = some receipt)
    : phaseOrder[n]? = some receipt.phase := by
  have hsame := congrArg (·[n]?) h.phases
  have hlt : n < receipts.length := (List.getElem?_eq_some_iff.mp hget).1
  simp only [List.getElem?_map, hget, Option.map_some, List.getElem?_take, if_pos hlt] at hsame
  exact hsame.symm

theorem ordinal_at (h : History sha256 receipts) {n : Nat} {receipt : GoalClosureReceiptV1}
    (hget : receipts[n]? = some receipt)
    : receipt.phase.ordinal = n :=
  ordinal_of_phaseOrder (h.phase_at hget)

theorem ordinals (h : History sha256 receipts)
    : receipts.map (·.phase.ordinal) = List.range' 0 receipts.length := by
  rw [← ordinals_take _ h.length_le, ← h.phases, List.map_map]
  rfl

theorem exists_of_ordinal_lt (h : History sha256 receipts) {phase : GoalClosurePhaseV1}
    (hlt : phase.ordinal < receipts.length)
    : ∃ receipt ∈ receipts, receipt.phase = phase := by
  have hget := List.getElem?_eq_getElem hlt
  refine ⟨_, List.getElem_mem hlt, ?_⟩
  have hphase := h.phase_at hget
  rw [phaseOrder_of_ordinal (by have := h.length_le; omega)] at hphase
  exact (Option.some.inj hphase).symm

theorem expectedOrdinal (h : History sha256 receipts)
    : expectedOrdinal receipts.getLast? = receipts.length := by
  cases hlast : receipts.getLast? with
  | none => simp [GoalClosure.expectedOrdinal, List.getLast?_eq_none_iff.mp hlast]
  | some last =>
    have hne : receipts ≠ [] := by
      intro hnil
      simp [hnil] at hlast
    have hpos := List.length_pos_iff.mpr hne
    rw [List.getLast?_eq_getElem?] at hlast
    have hordinal := h.ordinal_at hlast
    have := h.length_le
    simp only [GoalClosure.expectedOrdinal]
    omega

theorem contiguous_of_ordinals {receipts : List GoalClosureReceiptV1} {expected : Nat}
    (h : receipts.map (·.phase.ordinal) = List.range' expected receipts.length)
    : contiguous expected receipts = .ok () := by
  induction receipts generalizing expected with
  | nil => rfl
  | cons receipt rest ih =>
    rw [List.map_cons, List.length_cons, List.range'_succ, List.cons.injEq] at h
    rw [contiguous, if_neg (by simpa using h.1)]
    exact ih h.2

theorem append (h : History sha256 receipts) {receipt : GoalClosureReceiptV1}
    (hvalid : validateReceipt sha256 receipt = .ok ())
    (hphase : phaseOrder[receipts.length]? = some receipt.phase)
    (hsucceeded : 1 < receipt.phase.ordinal →
      ∀ last, receipts.getLast? = some last → last.result = .succeeded)
    (hlineage : receipt.phase = .completed →
      ∀ last, receipts.getLast? = some last → last.lineageChecksum = receipt.lineageChecksum)
    : History sha256 (receipts ++ [receipt]) := by
  have hordinal := ordinal_of_phaseOrder hphase
  have hold : ∀ old ∈ receipts, old.phase ≠ receipt.phase := by
    intro old hmem hsame
    obtain ⟨n, hn⟩ := List.mem_iff_getElem?.mp hmem
    have hat := h.ordinal_at hn
    have hlt : n < receipts.length := (List.getElem?_eq_some_iff.mp hn).1
    rw [hsame] at hat
    omega
  have hlast : ∀ old ∈ receipts, old.phase.ordinal + 1 = receipts.length →
      receipts.getLast? = some old := by
    intro old hmem hnext
    obtain ⟨n, hn⟩ := List.mem_iff_getElem?.mp hmem
    have hat := h.ordinal_at hn
    rw [List.getLast?_eq_getElem?, ← hnext, hat]
    exact hn
  constructor
  . rw [List.map_append, h.phases, List.length_append, List.length_singleton, List.take_add_one,
      hphase]
    rfl
  . intro r hr
    cases List.mem_append.mp hr with
    | inl hr => exact h.valid r hr
    | inr hr =>
      rw [List.mem_singleton.mp hr]
      exact hvalid
  . intro hlength r hr hbackend
    rw [List.length_append, List.length_singleton] at hlength
    cases List.mem_append.mp hr with
    | inr hr =>
      rw [List.mem_singleton.mp hr] at hbackend
      rw [hbackend] at hordinal
      have : (1 : Nat) = receipts.length := hordinal
      omega
    | inl hr =>
      by_cases hmore : 2 < receipts.length
      . exact h.succeeded hmore r hr hbackend
      . apply hsucceeded (by omega)
        apply hlast r hr
        rw [hbackend]
        show 1 + 1 = receipts.length
        omega
  . intro r hr hreconciled last hmem hcompleted
    cases List.mem_append.mp hr with
    | inr hr =>
      -- the lineage cannot be reconciled after the end
      have hr := List.mem_singleton.mp hr
      exfalso
      cases List.mem_append.mp hmem with
      | inr hmem =>
        rw [List.mem_singleton.mp hmem, ← hr, hreconciled] at hcompleted
        cases hcompleted
      | inl hmem =>
        obtain ⟨n, hn⟩ := List.mem_iff_getElem?.mp hmem
        have hat := h.ordinal_at hn
        have hlt : n < receipts.length := (List.getElem?_eq_some_iff.mp hn).1
        rw [hr] at hreconciled
        rw [hcompleted] at hat
        rw [hreconciled] at hordinal
        have : (4 : Nat) = n := hat
        have : (3 : Nat) = receipts.length := hordinal
        omega
    | inl hr =>
      cases List.mem_append.mp hmem with
      | inl hmem => exact h.lineage r hr hreconciled last hmem hcompleted
      | inr hmem =>
        have hmem := List.mem_singleton.mp hmem
        rw [hmem] at hcompleted ⊢
        apply (hlineage hcompleted r _).symm
        apply hlast r hr
        rw [hreconciled, ← hordinal, hcompleted]
        rfl

end History

namespace GoalClosureLedger

def receiptsOf (self : GoalClosureLedger) (closureId : String) : List GoalClosureReceiptV1 :=
  self.receipts.filter (·.closureId = closureId)

structure Sound (sha256 : CollisionFree) (ledger : GoalClosureLedger) : Prop where
  intents : ∀ intent ∈ ledger.intents, intent.validate sha256 = .ok ()
  intentKeys : (ledger.intents.map GoalClosureIntentV1.eventKey).Nodup
  histories : ∀ closureId, History sha256 (ledger.receiptsOf closureId)
  receiptKeys : (ledger.receipts.map GoalClosureReceiptV1.eventKey).Nodup

theorem sound_empty : empty.Sound sha256 where
  intents := by simp [empty]
  intentKeys := by simp [empty]
  histories _ := History.nil
  receiptKeys := by simp [empty]

variable {ledger : GoalClosureLedger}

theorem mem_receiptsOf {closureId : String} {receipt : GoalClosureReceiptV1}
    : receipt ∈ ledger.receiptsOf closureId ↔
        receipt ∈ ledger.receipts ∧ receipt.closureId = closureId := by
  simp [receiptsOf]

theorem Sound.valid (h : ledger.Sound sha256) {receipt : GoalClosureReceiptV1}
    (hreceipt : receipt ∈ ledger.receipts)
    : validateReceipt sha256 receipt = .ok () :=
  (h.histories receipt.closureId).valid receipt (mem_receiptsOf.mpr ⟨hreceipt, rfl⟩)

theorem Sound.receiptsForId (h : ledger.Sound sha256) (closureId : String)
    : goalClosureReceiptsForId sha256 ledger closureId = .ok (ledger.receiptsOf closureId) := by
  have history := h.histories closureId
  have hvalid : (ledger.receiptsOf closureId).forM (validateReceipt sha256) = .ok () := by
    rw [Except.forM_eq_ok]
    exact history.valid
  have hsorted : (ledger.receiptsOf closureId).Pairwise fun left right =>
      left.phase.ordinal ≤ right.phase.ordinal := by
    rw [← List.pairwise_map (f := fun receipt : GoalClosureReceiptV1 => receipt.phase.ordinal)
      (R := (· ≤ ·)), history.ordinals]
    exact List.pairwise_le_range'
  unfold goalClosureReceiptsForId
  rw [Except.bind_eq_ok]
  refine ⟨(), hvalid, ?_⟩
  rw [Except.bind_eq_ok]
  have hsame := hsorted.insertionSort_eq
  unfold receiptsOf at hsame
  rw [hsame]
  exact ⟨(), History.contiguous_of_ordinals history.ordinals, rfl⟩

def IsClosed (self : GoalClosureLedger) (closureId : String) : Prop :=
  ∃ receipt ∈ self.receiptsOf closureId, receipt.isTerminal

instance (ledger : GoalClosureLedger) (closureId : String) : Decidable (ledger.IsClosed closureId) :=
  inferInstanceAs (Decidable (∃ receipt ∈ ledger.receiptsOf closureId, receipt.isTerminal))

theorem Sound.getLast_isTerminal (h : ledger.Sound sha256) (closureId : String)
    : (ledger.receiptsOf closureId).getLast?.any (·.isTerminal) = true ↔
        ledger.IsClosed closureId := by
  have history := h.histories closureId
  constructor
  . intro hlast
    rw [Option.any_eq_true] at hlast
    obtain ⟨receipt, hmem, hterminal⟩ := hlast
    exact ⟨receipt, List.mem_of_getLast? hmem, hterminal⟩
  . rintro ⟨receipt, hmem, hterminal⟩
    obtain ⟨n, hn⟩ := List.mem_iff_getElem?.mp hmem
    have hphase : receipt.phase = .completed := by
      unfold GoalClosureReceiptV1.isTerminal at hterminal
      simp_all
    have hordinal := history.ordinal_at hn
    have hlt : n < (ledger.receiptsOf closureId).length := (List.getElem?_eq_some_iff.mp hn).1
    have hlength := history.length_le
    rw [hphase] at hordinal
    have hfour : (4 : Nat) = n := hordinal
    rw [List.getLast?_eq_getElem?, Option.any_eq_true]
    refine ⟨receipt, ?_, hterminal⟩
    rw [show (ledger.receiptsOf closureId).length - 1 = n by omega]
    exact hn

theorem Sound.terminalMatches (h : ledger.Sound sha256) {stored : List GoalClosureIntentV1}
    (hstored : ∀ intent ∈ stored, intent.validate sha256 = .ok ())
    : terminalMatches sha256 ledger stored
        = .ok (stored.filter fun intent => ledger.IsClosed intent.closureId) := by
  induction stored with
  | nil => rfl
  | cons intent rest ih =>
    rw [List.forall_mem_cons] at hstored
    unfold GoalClosure.terminalMatches
    rw [hstored.1, h.receiptsForId, ih hstored.2]
    have hclosed := h.getLast_isTerminal intent.closureId
    by_cases hlast : ledger.IsClosed intent.closureId
    . rw [List.filter_cons_of_pos (by simpa using hlast)]
      rw [← hclosed] at hlast
      simp only [bind, Except.bind, hlast, if_true]
      rfl
    . rw [List.filter_cons_of_neg (by simpa using hlast)]
      rw [← hclosed] at hlast
      simp only [bind, Except.bind, hlast]
      rfl

def closedOf (self : GoalClosureLedger) (intent : GoalClosureIntentV1)
    : List GoalClosureIntentV1 :=
  (self.intents.filter fun stored => sameGoalGeneration stored intent).filter fun stored =>
    self.IsClosed stored.closureId

theorem mem_closedOf {intent stored : GoalClosureIntentV1}
    : stored ∈ ledger.closedOf intent ↔
        stored ∈ ledger.intents ∧ sameGoalGeneration stored intent
          ∧ ledger.IsClosed stored.closureId := by
  simp only [closedOf, List.mem_filter, decide_eq_true_eq, and_assoc]

theorem Sound.terminalIntent (h : ledger.Sound sha256) {intent : GoalClosureIntentV1}
    (hvalid : intent.validate sha256 = .ok ())
    : terminalIntent sha256 ledger intent =
        match ledger.closedOf intent with
        | [] => .ok none
        | [stored] => .ok (some stored)
        | _ => .error moreThanOneTerminalClosure := by
  have hstored : ∀ stored ∈ ledger.intents.filter fun stored => sameGoalGeneration stored intent,
      stored.validate sha256 = .ok () := by
    intro stored hmem
    exact h.intents stored (List.mem_of_mem_filter hmem)
  unfold GoalClosure.terminalIntent
  rw [hvalid, h.terminalMatches hstored]
  show (match ledger.closedOf intent with
    | [] => _
    | [stored] => _
    | _ => _) = _
  cases hclosed : ledger.closedOf intent with
  | nil => rfl
  | cons stored rest =>
    cases rest with
    | nil =>
      have hmem : stored ∈ ledger.closedOf intent := by simp [hclosed]
      have := h.intents stored (mem_closedOf.mp hmem).1
      simp only [this]
      rfl
    | cons other rest => rfl

def addIntent (self : GoalClosureLedger) (intent : GoalClosureIntentV1) : GoalClosureLedger where
  intents := self.intents ++ [intent]
  receipts := self.receipts

def addReceipt (self : GoalClosureLedger) (receipt : GoalClosureReceiptV1) : GoalClosureLedger where
  intents := self.intents
  receipts := self.receipts ++ [receipt]

theorem receiptsOf_addReceipt (ledger : GoalClosureLedger) (receipt : GoalClosureReceiptV1)
    (closureId : String)
    : (ledger.addReceipt receipt).receiptsOf closureId
        = if receipt.closureId = closureId then ledger.receiptsOf closureId ++ [receipt]
          else ledger.receiptsOf closureId := by
  unfold receiptsOf addReceipt
  rw [List.filter_append]
  split
  . next h => rw [List.filter_cons_of_pos (by simpa using h), List.filter_nil]
  . next h => rw [List.filter_cons_of_neg (by simpa using h), List.filter_nil, List.append_nil]

structure Admits (sha256 : CollisionFree) (ledger : GoalClosureLedger)
    (intent : GoalClosureIntentV1) : Prop where
  valid : intent.validate sha256 = .ok ()
  notClosed : ledger.closedOf intent = []
  fresh : ∀ stored ∈ ledger.intents, stored.eventKey ≠ intent.eventKey

theorem Admits.recordGoalClosureIntent (h : ledger.Sound sha256) {intent : GoalClosureIntentV1}
    (hadmits : ledger.Admits sha256 intent)
    : recordGoalClosureIntent sha256 ledger intent
        = (ledger.addIntent intent, .ok { disposition := .appended, intent }) := by
  have hterminal := h.terminalIntent hadmits.valid
  rw [hadmits.notClosed] at hterminal
  have happend := @Ledger.appendOnce_fresh _ GoalClosureIntentV1.eventKey _ _
    (GoalClosureIntentV1.not_isBlank_eventKey hadmits.valid) hadmits.fresh
  have hkeys := Ledger.nodup_concat h.intentKeys hadmits.fresh
  have hmem : intent ∈ ledger.intents ++ [intent] := by simp
  have hfind := Ledger.findOne_of_mem hkeys hmem duplicateEventKey
  unfold GoalClosure.recordGoalClosureIntent
  rw [hterminal]
  simp only [happend, hfind, bind, Except.bind, Except.ofOption, hadmits.valid, Except.require]
  simp [addIntent, appendDisposition, pure, Except.pure]

theorem recordGoalClosureIntent_cases (h : ledger.Sound sha256) (intent : GoalClosureIntentV1)
    : (recordGoalClosureIntent sha256 ledger intent).1 = ledger
        ∨ ledger.Admits sha256 intent := by
  by_cases hvalid : intent.validate sha256 = .ok ()
  . have hterminal := h.terminalIntent hvalid
    by_cases hclosed : ledger.closedOf intent = []
    . by_cases hfresh : ∀ stored ∈ ledger.intents, stored.eventKey ≠ intent.eventKey
      . exact .inr ⟨hvalid, hclosed, hfresh⟩
      . left
        push Not at hfresh
        rw [hclosed] at hterminal
        have happend := @Ledger.appendOnce_stored _ GoalClosureIntentV1.eventKey _ _
          (GoalClosureIntentV1.not_isBlank_eventKey hvalid) hfresh
        unfold GoalClosure.recordGoalClosureIntent
        simp only [hterminal, happend]
    . left
      unfold GoalClosure.recordGoalClosureIntent
      rw [hterminal]
      split
      . rfl
      . rfl
      . next hnone =>
        split at hnone
        . contradiction
        . cases hnone
        . cases hnone
  . left
    unfold GoalClosure.recordGoalClosureIntent
    split
    . rfl
    . rfl
    . next hnone =>
      unfold GoalClosure.terminalIntent at hnone
      rw [Except.bind_eq_ok] at hnone
      obtain ⟨_, hok, _⟩ := hnone
      exact absurd hok hvalid

structure Advances (sha256 : CollisionFree) (ledger : GoalClosureLedger)
    (intent : GoalClosureIntentV1) (phase : GoalClosurePhaseV1) (input : GoalClosurePhaseInputV1)
    : Prop where
  stored : intent ∈ ledger.intents
  next : phase.ordinal = (ledger.receiptsOf intent.closureId).length
  succeeded : 1 < phase.ordinal →
    ∀ last, (ledger.receiptsOf intent.closureId).getLast? = some last → last.result = .succeeded
  lineage : phase = .completed →
    ((ledger.receiptsOf intent.closureId).getLast?.bind (·.lineageChecksum)) = input.lineageChecksum
  evidence : validatePhaseEvidence phase input = .ok ()

theorem Advances.history (h : ledger.Sound sha256) {intent : GoalClosureIntentV1}
    {phase : GoalClosurePhaseV1} {input : GoalClosurePhaseInputV1}
    (hadvances : ledger.Advances sha256 intent phase input)
    : History sha256
        (ledger.receiptsOf intent.closureId ++ [newReceipt sha256 intent phase input]) := by
  have history := h.histories intent.closureId
  apply history.append
  . exact validateReceipt_newReceipt hadvances.evidence
  . rw [← hadvances.next]
    apply phaseOrder_of_ordinal
    rw [hadvances.next]
    exact history.length_le
  . exact hadvances.succeeded
  . intro hcompleted last hlast
    have hlineage := hadvances.lineage hcompleted
    rw [hlast] at hlineage
    exact hlineage

theorem Advances.fresh (h : ledger.Sound sha256) {intent : GoalClosureIntentV1}
    {phase : GoalClosurePhaseV1} {input : GoalClosurePhaseInputV1}
    (hadvances : ledger.Advances sha256 intent phase input)
    : ∀ receipt ∈ ledger.receipts,
        receipt.eventKey ≠ (newReceipt sha256 intent phase input).eventKey := by
  intro receipt hreceipt hkey
  rw [key_eq_iff (h.valid hreceipt) (validateReceipt_newReceipt hadvances.evidence)] at hkey
  obtain ⟨hid, hphase⟩ := hkey
  have hmem := mem_receiptsOf.mpr ⟨hreceipt, hid⟩
  obtain ⟨n, hn⟩ := List.mem_iff_getElem?.mp hmem
  have hlt := (List.getElem?_eq_some_iff.mp hn).1
  have hordinal := (h.histories _).ordinal_at hn
  rw [hphase] at hordinal
  have hnext := hadvances.next
  have hsame : phase.ordinal = n := hordinal
  have hlt : n < (ledger.receiptsOf intent.closureId).length := hlt
  omega

theorem validateOrder_iff {receipts : List GoalClosureReceiptV1} (history : History sha256 receipts)
    {intent : GoalClosureIntentV1} {phase : GoalClosurePhaseV1} {input : GoalClosurePhaseInputV1}
    (hnext : phase.ordinal = receipts.length)
    : validateOrder receipts intent phase input = .ok () ↔
        (1 < phase.ordinal → ∀ last, receipts.getLast? = some last → last.result = .succeeded)
          ∧ (phase = .completed →
            receipts.getLast?.bind (·.lineageChecksum) = input.lineageChecksum) := by
  unfold validateOrder
  simp only [Except.bind_eq_ok, Except.require_eq_ok, history.expectedOrdinal, hnext]
  constructor
  . rintro ⟨_, _, _, _, _, hsucceeded, hlineage⟩
    constructor
    . intro hone last hlast
      simpa [hone, hlast] using hsucceeded
    . intro hcompleted
      simpa [hcompleted] using hlineage
  . rintro ⟨hsucceeded, hlineage⟩
    refine ⟨(), by simp, (), by simp, (), ?_, ?_⟩
    . cases hlast : receipts.getLast? with
      | none => simp
      | some last =>
        by_cases hone : 1 < receipts.length
        . simp [hsucceeded hone last hlast]
        . simp [hone]
    . by_cases hcompleted : phase = .completed
      . simp [hcompleted, hlineage hcompleted]
      . simp [hcompleted]

section Phase

variable {intent : GoalClosureIntentV1} {phase : GoalClosurePhaseV1}
  {input : GoalClosurePhaseInputV1}

theorem phaseReceipt_eq_ok (h : ledger.Sound sha256) {receipt : GoalClosureReceiptV1}
    : phaseReceipt sha256 ledger intent phase input = .ok receipt ↔
        intent ∈ ledger.intents
          ∧ validateOrder (ledger.receiptsOf intent.closureId) intent phase input = .ok ()
          ∧ validatePhaseEvidence phase input = .ok ()
          ∧ newReceipt sha256 intent phase input = receipt := by
  unfold phaseReceipt
  simp only [Except.bind_eq_ok, Except.ofOption_eq_ok, Except.require_eq_ok, decide_eq_true_eq,
    Except.pure_eq_ok, h.receiptsForId]
  constructor
  . rintro ⟨_, hvalid, _, hfound, recorded, rfl, _, _, _, hsame, _, hreceipts, _, horder, _,
      hevidence, hnew⟩
    rw [← Except.ok.inj hreceipts] at horder
    have hmem := (Ledger.findOne_eq_some hfound).1
    have hintent := GoalClosureIntentV1.eq_of_intentChecksum (h.intents recorded hmem) hvalid hsame
    rw [hintent] at hmem
    exact ⟨hmem, horder, hevidence, hnew⟩
  . rintro ⟨hmem, horder, hevidence, hnew⟩
    have hvalid := h.intents intent hmem
    have hfound := Ledger.findOne_of_mem h.intentKeys hmem duplicateEventKey
    exact ⟨(), hvalid, some intent, hfound, intent, rfl, (), hvalid, (), rfl, _, rfl, (), horder,
      (), hevidence, hnew⟩

theorem Advances.recordGoalClosurePhase (h : ledger.Sound sha256)
    (hadvances : ledger.Advances sha256 intent phase input)
    : recordGoalClosurePhase sha256 ledger intent phase input
        = (ledger.addReceipt (newReceipt sha256 intent phase input),
            .ok { disposition := .appended, receipt := newReceipt sha256 intent phase input }) := by
  have horder : validateOrder (ledger.receiptsOf intent.closureId) intent phase input = .ok () :=
    (validateOrder_iff (h.histories intent.closureId) hadvances.next).mpr
      ⟨hadvances.succeeded, hadvances.lineage⟩
  have hreceipt := (phaseReceipt_eq_ok h).mpr
    ⟨hadvances.stored, horder, hadvances.evidence, rfl⟩
  have hvalid := @validateReceipt_newReceipt sha256 intent phase input hadvances.evidence
  have hblank : ¬TextFile.isBlank (newReceipt sha256 intent phase input).eventKey :=
    sha256.not_isBlank_checksumJson _
  have happend := @Ledger.appendOnce_fresh _ GoalClosureReceiptV1.eventKey _ _ hblank
    (hadvances.fresh h)
  have hkeys := Ledger.nodup_concat h.receiptKeys (hadvances.fresh h)
  have hfind := Ledger.findOne_of_mem hkeys (List.mem_append_right _ List.mem_cons_self)
    duplicateEventKey
  unfold GoalClosure.recordGoalClosurePhase
  rw [hreceipt]
  simp only [happend, hfind, bind, Except.bind, Except.ofOption, hvalid, Except.require]
  simp [addReceipt, appendDisposition, pure, Except.pure]

theorem recordGoalClosurePhase_cases (h : ledger.Sound sha256) (intent : GoalClosureIntentV1)
    (phase : GoalClosurePhaseV1) (input : GoalClosurePhaseInputV1)
    : (recordGoalClosurePhase sha256 ledger intent phase input).1 = ledger
        ∨ ledger.Advances sha256 intent phase input := by
  cases hreceipt : phaseReceipt sha256 ledger intent phase input with
  | error e =>
    left
    unfold GoalClosure.recordGoalClosurePhase
    rw [hreceipt]
  | ok receipt =>
    obtain ⟨hstored, horder, hevidence, hnew⟩ := (phaseReceipt_eq_ok h).mp hreceipt
    have history := h.histories intent.closureId
    have hle : phase.ordinal ≤ (ledger.receiptsOf intent.closureId).length := by
      unfold validateOrder at horder
      simp only [Except.bind_eq_ok, Except.require_eq_ok, history.expectedOrdinal,
        decide_eq_true_eq] at horder
      obtain ⟨_, hle, _⟩ := horder
      exact hle
    by_cases hnext : phase.ordinal = (ledger.receiptsOf intent.closureId).length
    . obtain ⟨hsucceeded, hlineage⟩ := (validateOrder_iff history hnext).mp horder
      exact .inr ⟨hstored, hnext, hsucceeded, hlineage, hevidence⟩
    . left
      obtain ⟨old, hold, hphase⟩ := history.exists_of_ordinal_lt (Nat.lt_of_le_of_ne hle hnext)
      rw [mem_receiptsOf] at hold
      have hvalid := @validateReceipt_newReceipt sha256 intent phase input hevidence
      have hkey : old.eventKey = (newReceipt sha256 intent phase input).eventKey :=
        (key_eq_iff (h.valid hold.1) hvalid).mpr ⟨hold.2, hphase⟩
      have hblank : ¬TextFile.isBlank (newReceipt sha256 intent phase input).eventKey :=
        sha256.not_isBlank_checksumJson _
      have happend := @Ledger.appendOnce_stored _ GoalClosureReceiptV1.eventKey _ _ hblank
        ⟨old, hold.1, hkey⟩
      unfold GoalClosure.recordGoalClosurePhase
      rw [hreceipt, ← hnew]
      simp only [happend]

end Phase

theorem Sound.addIntent (h : ledger.Sound sha256) {intent : GoalClosureIntentV1}
    (hadmits : ledger.Admits sha256 intent)
    : (ledger.addIntent intent).Sound sha256 where
  intents := by
    intro stored hstored
    cases List.mem_append.mp hstored with
    | inl hold => exact h.intents stored hold
    | inr hnew =>
      rw [List.mem_singleton.mp hnew]
      exact hadmits.valid
  intentKeys := Ledger.nodup_concat h.intentKeys hadmits.fresh
  histories := h.histories
  receiptKeys := h.receiptKeys

theorem Sound.addReceipt (h : ledger.Sound sha256) {intent : GoalClosureIntentV1}
    {phase : GoalClosurePhaseV1} {input : GoalClosurePhaseInputV1}
    (hadvances : ledger.Advances sha256 intent phase input)
    : (ledger.addReceipt (newReceipt sha256 intent phase input)).Sound sha256 where
  intents := h.intents
  intentKeys := h.intentKeys
  histories closureId := by
    rw [receiptsOf_addReceipt]
    split
    . next hid =>
      rw [← hid]
      exact hadvances.history h
    . exact h.histories closureId
  receiptKeys := Ledger.nodup_concat h.receiptKeys (hadvances.fresh h)

end GoalClosureLedger

theorem perform_cases {ledger : GoalClosureLedger} (h : ledger.Sound sha256)
    (call : GoalClosureCall)
    : step sha256 ledger call = ledger
        ∨ (∃ intent, call = .intent intent ∧ ledger.Admits sha256 intent
          ∧ perform sha256 ledger call = (ledger.addIntent intent, .ok ()))
        ∨ (∃ intent phase input, call = .phase intent phase input
          ∧ ledger.Advances sha256 intent phase input
          ∧ perform sha256 ledger call
            = (ledger.addReceipt (newReceipt sha256 intent phase input), .ok ())) := by
  cases call with
  | intent intent =>
    cases GoalClosureLedger.recordGoalClosureIntent_cases h intent with
    | inl hsame =>
      left
      unfold step perform
      apply Outcome.andThen_fst (· = ledger) hsame
      intro _ _
      exact hsame
    | inr hadmits =>
      refine .inr (.inl ⟨intent, rfl, hadmits, ?_⟩)
      simp only [perform, hadmits.recordGoalClosureIntent h, Outcome.andThen_ok]
  | phase intent phase input =>
    cases GoalClosureLedger.recordGoalClosurePhase_cases h intent phase input with
    | inl hsame =>
      left
      unfold step perform
      apply Outcome.andThen_fst (· = ledger) hsame
      intro _ _
      exact hsame
    | inr hadvances =>
      refine .inr (.inr ⟨intent, phase, input, rfl, hadvances, ?_⟩)
      simp only [perform, hadvances.recordGoalClosurePhase h, Outcome.andThen_ok]

theorem step_sound {ledger : GoalClosureLedger} (h : ledger.Sound sha256) (call : GoalClosureCall)
    : (step sha256 ledger call).Sound sha256 := by
  obtain hsame | ⟨intent, _, hadmits, hperform⟩ | ⟨intent, phase, input, _, hadvances, hperform⟩ :=
    perform_cases h call
  . rw [hsame]
    exact h
  . rw [step, hperform]
    exact h.addIntent hadmits
  . rw [step, hperform]
    exact h.addReceipt hadvances

def ledgerAfter (sha256 : CollisionFree) (calls : List GoalClosureCall) : GoalClosureLedger :=
  Run.exec (step sha256) .empty calls

theorem ledgerAfter_sound (calls : List GoalClosureCall)
    : (ledgerAfter sha256 calls).Sound sha256 :=
  Run.exec_invariant (GoalClosureLedger.Sound sha256) (fun _ call h => step_sound h call)
    GoalClosureLedger.sound_empty calls

theorem step_extends {ledger : GoalClosureLedger} (h : ledger.Sound sha256) (call : GoalClosureCall)
    : ledger.intents <+: (step sha256 ledger call).intents
        ∧ ledger.receipts <+: (step sha256 ledger call).receipts := by
  obtain hsame | ⟨intent, _, hadmits, hperform⟩ | ⟨intent, phase, input, _, hadvances, hperform⟩ :=
    perform_cases h call
  . rw [hsame]
    exact ⟨List.prefix_rfl, List.prefix_rfl⟩
  . rw [step, hperform]
    exact ⟨List.prefix_append _ _, List.prefix_rfl⟩
  . rw [step, hperform]
    exact ⟨List.prefix_rfl, List.prefix_append _ _⟩

theorem step_of_error {ledger : GoalClosureLedger} (h : ledger.Sound sha256)
    {call : GoalClosureCall} {e : IoError} (herror : (perform sha256 ledger call).2 = .error e)
    : step sha256 ledger call = ledger := by
  obtain hsame | ⟨intent, _, _, hperform⟩ | ⟨intent, phase, input, _, _, hperform⟩ :=
    perform_cases h call
  . exact hsame
  . rw [hperform] at herror
    cases herror
  . rw [hperform] at herror
    cases herror

/-
After any calls the receipts of a closure are one for each phase of a prefix of the five, the end comes
only after a backend that succeeded and keeps the lineage that was reconciled, the receipts can be
read, and a further call keeps every receipt and leaves the ledgers alone when it fails.
-/
theorem phase_ledger (sha256 : CollisionFree) (calls : List GoalClosureCall)
    : let ledger := ledgerAfter sha256 calls
      (∀ closureId, (ledger.receiptsOf closureId).map (·.phase)
        = phaseOrder.take (ledger.receiptsOf closureId).length)
        ∧ (∀ last ∈ ledger.receipts, last.phase = .completed →
          ∃ backend ∈ ledger.receiptsOf last.closureId, ∃ lineage ∈ ledger.receiptsOf last.closureId,
            backend.phase = .backendResultRecorded ∧ backend.result = .succeeded
              ∧ lineage.phase = .lineageReconciled
              ∧ last.lineageChecksum = lineage.lineageChecksum)
        ∧ (∀ closureId, goalClosureReceiptsForId sha256 ledger closureId
          = .ok (ledger.receiptsOf closureId))
        ∧ ∀ call, ledger.receipts <+: (step sha256 ledger call).receipts
          ∧ ((perform sha256 ledger call).2.isOk = false → step sha256 ledger call = ledger) := by
  intro ledger
  have h : ledger.Sound sha256 := ledgerAfter_sound calls
  refine ⟨fun closureId => (h.histories closureId).phases, ?_, h.receiptsForId, ?_⟩
  . intro last hlast hcompleted
    have history := h.histories last.closureId
    have hmem := GoalClosureLedger.mem_receiptsOf.mpr ⟨hlast, rfl⟩
    obtain ⟨n, hn⟩ := List.mem_iff_getElem?.mp hmem
    have hlt : n < (ledger.receiptsOf last.closureId).length :=
      (List.getElem?_eq_some_iff.mp hn).1
    have hfour : (4 : Nat) = n := by
      have hordinal := history.ordinal_at hn
      rw [hcompleted] at hordinal
      exact hordinal
    obtain ⟨backend, hbackend, hbackendPhase⟩ :=
      @History.exists_of_ordinal_lt _ _ history .backendResultRecorded
        (by show 1 < _; omega)
    obtain ⟨lineage, hlineage, hlineagePhase⟩ :=
      @History.exists_of_ordinal_lt _ _ history .lineageReconciled (by show 3 < _; omega)
    exact ⟨backend, hbackend, lineage, hlineage, hbackendPhase,
      history.succeeded (by omega) backend hbackend hbackendPhase, hlineagePhase,
      history.lineage lineage hlineage hlineagePhase last hmem hcompleted⟩
  . intro call
    refine ⟨(step_extends h call).2, ?_⟩
    intro herror
    cases hperform : (perform sha256 ledger call).2 with
    | error e => exact step_of_error h hperform
    | ok _ =>
      rw [hperform] at herror
      cases herror

end GoalClosure
