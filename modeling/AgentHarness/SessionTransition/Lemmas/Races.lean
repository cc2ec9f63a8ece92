import AgentHarness.SessionTransition.Lemmas.Target

/-!
Calls for one transition that race.
-/

namespace SessionTransition

open GoalClosure (invalidData)

variable {sha256 : CollisionFree}

namespace TransitionSystem

variable {ι : Type} [DecidableEq ι]

theorem sound_exec {calls : ι → TransitionCall} {system : TransitionSystem ι}
    (h : system.Sound sha256 calls) (actions : List (TransitionAction ι))
    : (Run.exec (step sha256 calls) system actions).Sound sha256 calls :=
  Run.exec_invariant (Sound sha256 calls) (fun _ action h => sound_step h action) h actions

theorem exec_prefix (sha256 : CollisionFree) (calls : ι → TransitionCall)
    (system : TransitionSystem ι) (actions : List (TransitionAction ι))
    : let later := Run.exec (step sha256 calls) system actions
      system.store.intents <+: later.store.intents
        ∧ system.store.receipts <+: later.store.receipts := by
  apply Run.exec_invariant (fun later : TransitionSystem ι =>
    system.store.intents <+: later.store.intents ∧ system.store.receipts <+: later.store.receipts)
  . rintro later action ⟨hintents, hreceipts⟩
    have hstep := step_extends sha256 calls later action
    exact ⟨hintents.trans hstep.1, hreceipts.trans hstep.2⟩
  . exact ⟨List.prefix_rfl, List.prefix_rfl⟩

theorem agrees_exec {calls : ι → TransitionCall} {actions : List (TransitionAction ι)}
    (hguard : Run.Guarded (step sha256 calls) (RacesAgree sha256 calls) (start ι) actions) (i : ι)
    : let system := Run.exec (step sha256 calls) (start ι) actions
      Agrees sha256 system.store (calls i) (system.calls i) := by
  have hinv : ∀ i, Agrees sha256 (Run.exec (step sha256 calls) (start ι) actions).store (calls i)
      ((Run.exec (step sha256 calls) (start ι) actions).calls i) := by
    refine (Run.exec_invariant_of_guarded (fun system : TransitionSystem ι =>
      system.Sound sha256 calls ∧ ∀ i, Agrees sha256 system.store (calls i) (system.calls i))
      ?_ ⟨sound_start, fun _ => trivial⟩ hguard).2
    rintro system action ⟨h, hagrees⟩ haction
    exact ⟨sound_step h action, agrees_step h hagrees haction⟩
  exact hinv i

theorem filter_eq_singleton {store : TransitionStore} (h : store.Sound sha256)
    {intent : ChannelSessionTransitionIntentV1} (hmem : intent ∈ store.intents)
    : store.intents.filter (·.transitionId = intent.transitionId) = [intent] := by
  have hnodup : (store.intents.filter (·.transitionId = intent.transitionId)).Nodup :=
    (h.nodup.of_map _).sublist List.filter_sublist
  have hall : ∀ other ∈ store.intents.filter (·.transitionId = intent.transitionId),
      other = intent := by
    intro other hother
    rw [List.mem_filter, decide_eq_true_eq] at hother
    exact h.eq_of_transitionId hother.1 hmem hother.2
  have hfound : intent ∈ store.intents.filter (·.transitionId = intent.transitionId) := by
    simp [hmem]
  generalize store.intents.filter (·.transitionId = intent.transitionId) = rows
    at hnodup hall hfound
  match rows with
  | [] => cases hfound
  | [row] => rw [hall row List.mem_cons_self]
  | first :: second :: rest =>
    have hfirst := hall first List.mem_cons_self
    have hsecond := hall second (List.mem_cons_of_mem _ List.mem_cons_self)
    rw [hfirst, hsecond] at hnodup
    simp at hnodup

theorem admission_exec (calls : ι → TransitionCall) (actions : List (TransitionAction ι))
    (laneDigest sessionKey : String)
    : let store := (Run.exec (step sha256 calls) (start ι) actions).store
      channelSessionTransitionAdmission sha256 store laneDigest sessionKey = .ok
        (if newIsPending store laneDigest sessionKey then .holdPendingNew else .open) :=
  (sound_exec sound_start actions).store.admission laneDigest sessionKey

theorem admission_stays_open {calls : ι → TransitionCall} {system : TransitionSystem ι}
    (h : system.Sound sha256 calls) {intent : ChannelSessionTransitionIntentV1}
    (hmem : intent ∈ system.store.intents) (hnew : intent.command = .new)
    (hcommitted : isCommitted system.store.receipts intent) (later : List (TransitionAction ι))
    : channelSessionTransitionAdmission sha256 (Run.exec (step sha256 calls) system later).store
        intent.laneDigest intent.oldSessionKey = .ok .open := by
  have hlater := sound_exec h later
  have hgrows := exec_prefix sha256 calls system later
  rw [hlater.store.admission, not_newIsPending_of_isCommitted hlater.store
    (hgrows.1.subset hmem) hnew (isCommitted_mono hgrows.2 hcommitted)]
  rfl

/-
With nothing in between, the three steps of a call are the whole call.
-/
theorem exec_prepareChannelSessionTransition {calls : ι → TransitionCall} {system : TransitionSystem ι}
    {i : ι} (hidle : system.calls i = .idle)
    : let prepared := prepareChannelSessionTransition sha256 system.store (calls i).options
        (calls i).assessment
      Run.exec (step sha256 calls) system [.read i, .append i, .settle i]
        = { store := prepared.1, calls := Function.update system.calls i (.finished prepared.2) } := by
  unfold prepareChannelSessionTransition
  simp only [Run.exec_cons, Run.exec_nil, step, hidle, enter]
  unfold readState
  cases hread : replayedTransition sha256 system.store (calls i).options with
  | error e => simp
  | ok replayed =>
    cases replayed with
    | some prepared => simp
    | none =>
      cases (calls i).assessment with
      | error e => simp
      | ok assessment =>
        rcases happend : appendIntent system.store (newIntent sha256 (calls i).options assessment)
          with ⟨store, e | appended⟩
        . simp [happend, appendState, Outcome.andThen]
        . simp [happend, appendState, Outcome.andThen]

/-
The calls of a run in which the races agree answer with the one row of their transition. The session is
held while a `/new` of it is stored without its boundary, and stays open once the boundary is committed.
-/
theorem one_target (calls : ι → TransitionCall) (actions : List (TransitionAction ι))
    (hguard : Run.Guarded (step sha256 calls) (RacesAgree sha256 calls) (start ι) actions)
    : let system := Run.exec (step sha256 calls) (start ι) actions
      (∀ i result, system.calls i = .finished result → validateOptions (calls i).options = .ok () →
        ∃ prepared, result = .ok prepared
          ∧ system.store.intents.filter (·.transitionId = (calls i).options.transitionId sha256)
            = [prepared.intent])
        ∧ (∀ laneDigest sessionKey,
          channelSessionTransitionAdmission sha256 system.store laneDigest sessionKey = .ok
            (if newIsPending system.store laneDigest sessionKey then .holdPendingNew else .open))
        ∧ ∀ intent ∈ system.store.intents, intent.command = .new →
          isCommitted system.store.receipts intent → ∀ later,
            channelSessionTransitionAdmission sha256
              (Run.exec (step sha256 calls) system later).store intent.laneDigest
              intent.oldSessionKey = .ok .open := by
  intro system
  have h : system.Sound sha256 calls := sound_exec sound_start actions
  refine ⟨?_, admission_exec calls actions,
    fun intent hmem hnew hcommitted later => admission_stays_open h hmem hnew hcommitted later⟩
  intro i result hresult hvalid
  have hagrees := agrees_exec hguard i
  dsimp only at hagrees
  rw [show (Run.exec (step sha256 calls) (start ι) actions).calls i = .finished result
    from hresult] at hagrees
  obtain ⟨prepared, hok, hmem, hid⟩ := hagrees hvalid
  refine ⟨prepared, hok, ?_⟩
  rw [← hid]
  exact filter_eq_singleton h.store hmem

section Samples

def sampleOptions (target : String) : PrepareChannelSessionTransitionOptionsV1 where
  command := .new
  laneDigest := "lane"
  oldSessionKey := "old"
  proposedNewSessionKey := some target
  topic := none
  reason := none
  nowMs := 0

def sampleAssessment : GoalBoundaryAssessment where
  goalBoundary := .notApplicable
  goalClosureId := none
  goalEvidenceDigest := "no goal"
  evidence := by decide

def sampleCalls (second : Bool) : TransitionCall where
  options := sampleOptions (if second then "second" else "first")
  assessment := .ok sampleAssessment

def sampleReplay : List (TransitionAction Bool) :=
  [.read false, .append false, .settle false, .read true]

theorem sampleReplay_guarded (sha256 : CollisionFree)
    : Run.Guarded (step sha256 sampleCalls) (RacesAgree sha256 sampleCalls) (start Bool)
        sampleReplay := by
  refine ⟨fun _ => ⟨_, rfl⟩, ?_, trivial, fun _ => ⟨_, rfl⟩, trivial⟩
  simp only [RacesAgree]
  split
  . intro stored hstored
    exact absurd hstored List.not_mem_nil
  . trivial

theorem one_target_sample
    : let system := Run.exec (step .extended sampleCalls) (start Bool) sampleReplay
      (∀ i result, system.calls i = .finished result →
        validateOptions (sampleCalls i).options = .ok () →
        ∃ prepared, result = .ok prepared
          ∧ system.store.intents.filter
              (·.transitionId = (sampleCalls i).options.transitionId .extended)
            = [prepared.intent])
        ∧ (∀ laneDigest sessionKey,
          channelSessionTransitionAdmission .extended system.store laneDigest sessionKey = .ok
            (if newIsPending system.store laneDigest sessionKey then .holdPendingNew else .open))
        ∧ ∀ intent ∈ system.store.intents, intent.command = .new →
          isCommitted system.store.receipts intent → ∀ later,
            channelSessionTransitionAdmission .extended
              (Run.exec (step .extended sampleCalls) system later).store intent.laneDigest
              intent.oldSessionKey = .ok .open :=
  one_target sampleCalls sampleReplay (sampleReplay_guarded .extended)

def sampleRace : List (TransitionAction Bool) :=
  [.read false, .read true, .append false, .append true, .settle true]

def sampleIntent (sha256 : CollisionFree) (second : Bool) : ChannelSessionTransitionIntentV1 :=
  newIntent sha256 (sampleCalls second).options sampleAssessment

def sampleStore (sha256 : CollisionFree) : TransitionStore :=
  { TransitionStore.empty with intents := [sampleIntent sha256 false] }

theorem sampleIntent_valid (sha256 : CollisionFree) (second : Bool)
    : validateIntent sha256 (sampleIntent sha256 second) = .ok () :=
  newIntent_valid _ _

theorem sampleStore_sound (sha256 : CollisionFree) : (sampleStore sha256).Sound sha256 := by
  have hvalid := sampleIntent_valid sha256 false
  have hsound := sound_appendIntent TransitionStore.sound_empty hvalid (newIntent_evidence _ _)
  rw [appendIntent_eq TransitionStore.sound_empty hvalid, if_neg] at hsound
  . exact hsound
  . rintro ⟨stored, hstored, _⟩
    exact absurd hstored List.not_mem_nil

theorem sampleIntent_transitionId (sha256 : CollisionFree)
    : (sampleIntent sha256 false).transitionId = (sampleIntent sha256 true).transitionId := rfl

theorem readState_sample (sha256 : CollisionFree) (second : Bool)
    : readState sha256 .empty (sampleCalls second) = .holding (sampleIntent sha256 second) := by
  cases second <;> rfl

theorem appendIntent_sample (sha256 : CollisionFree)
    : appendIntent .empty (sampleIntent sha256 false) = (sampleStore sha256, .ok true)
        ∧ appendIntent (sampleStore sha256) (sampleIntent sha256 true)
          = (sampleStore sha256, .ok false) := by
  constructor
  . rw [appendIntent_eq TransitionStore.sound_empty (sampleIntent_valid sha256 false), if_neg]
    . rfl
    . rintro ⟨stored, hstored, _⟩
      exact absurd hstored List.not_mem_nil
  . rw [appendIntent_eq (sampleStore_sound sha256) (sampleIntent_valid sha256 true), if_pos]
    exact ⟨_, List.mem_cons_self, sampleIntent_transitionId sha256⟩

theorem settleTransition_sample (sha256 : CollisionFree)
    : (settleTransition sha256 (sampleStore sha256) (sampleIntent sha256 true) false 0).2
        = .error (invalidData
          "session transition identity already has different protected intent evidence") := by
  have hstored := storedIntent_eq (sampleStore_sound sha256)
    (sampleIntent_valid sha256 true) List.mem_cons_self
    (sampleIntent_transitionId sha256)
  have hdiffer : ¬SameProposal (sampleIntent sha256 false) (sampleIntent sha256 true) := by
    rintro ⟨hfrozen, _⟩
    have hfrozen : some "first" = some "second" := hfrozen
    exact absurd hfrozen (by decide)
  rw [if_neg hdiffer] at hstored
  unfold settleTransition
  rw [hstored]

theorem exec_sampleRace (sha256 : CollisionFree)
    : (Run.exec (step sha256 sampleCalls) (start Bool) sampleRace).calls true
        = .finished (.error (invalidData
          "session transition identity already has different protected intent evidence")) := by
  obtain ⟨hfirst, hsecond⟩ := appendIntent_sample sha256
  have hfails := settleTransition_sample sha256
  simp [sampleRace, step, start, enter, readState_sample, hfirst, hsecond, appendState]
  exact hfails

/-
Two messages `/new` both read before either appends. The one that appends second gets an error; had it
read a little later it would have been answered with the stored intent.
-/
theorem two_targets_race
    : validateOptions (sampleCalls true).options = .ok ()
        ∧ (Run.exec (step .extended sampleCalls) (start Bool) sampleRace).calls true
          = .finished (.error (invalidData
            "session transition identity already has different protected intent evidence")) :=
  ⟨rfl, exec_sampleRace .extended⟩

end Samples

/-
However the calls race, a transition has one row of intent, and no call changes or drops a row.
-/
theorem rows_are_kept (sha256 : CollisionFree) (calls : ι → TransitionCall)
    (earlier later : List (TransitionAction ι))
    : let before := (Run.exec (step sha256 calls) (start ι) earlier).store
      let after := (Run.exec (step sha256 calls) (start ι) (earlier ++ later)).store
      (after.intents.map (·.transitionId)).Nodup ∧ before.intents <+: after.intents
        ∧ before.receipts <+: after.receipts := by
  refine ⟨(sound_exec sound_start _).store.nodup, ?_⟩
  rw [Run.exec_append]
  exact exec_prefix sha256 calls _ later

end TransitionSystem

end SessionTransition

/-!
What a retryable failure of the backend leaves to a transition. The receipt of the failed phase stays the
one of its closure, no later phase is recorded after it, and the transition that waits for the closure
waits for ever.
-/

namespace SessionTransition

open GoalClosure (GoalClosureLedger GoalClosureCall GoalClosureIntentV1 GoalClosureReceiptV1
  GoalClosurePhaseInputV1 GoalClosurePhaseV1 ledgerAfter)

variable {sha256 : CollisionFree}

theorem durableGoalBoundaryIsReady_of_not_isClosed {store : TransitionStore}
    (h : store.closures.Sound sha256) {intent : ChannelSessionTransitionIntentV1} {closureId : String}
    (hclosure : intent.goalClosureId = some closureId) (hwaits : intent.boundaryIsReady = false)
    (hopen : ¬store.closures.IsClosed closureId)
    : durableGoalBoundaryIsReady sha256 store intent = .ok false := by
  have hnone : (store.closures.receiptsOf closureId).any (·.isTerminal) = false := by
    rw [Bool.eq_false_iff, Ne, List.any_eq_true]
    exact hopen
  unfold durableGoalBoundaryIsReady
  simp [hwaits, hclosure, h.receiptsForId, hnone, bind, Except.bind, pure, Except.pure]

def AwaitsRetry (ledger : GoalClosureLedger) (intent : GoalClosureIntentV1) : Prop :=
  intent ∈ ledger.intents ∧ ∃ receipt, (ledger.receiptsOf intent.closureId).getLast? = some receipt
    ∧ receipt.phase = .backendResultRecorded ∧ receipt.result = .retryableFailure

theorem AwaitsRetry.not_isClosed {calls : List GoalClosureCall} {intent : GoalClosureIntentV1}
    (hretry : AwaitsRetry (ledgerAfter sha256 calls) intent) (later : List GoalClosureCall)
    : ¬(ledgerAfter sha256 (calls ++ later)).IsClosed intent.closureId := by
  obtain ⟨_, receipt, hlast, hphase, hresult⟩ := hretry
  have hfailed : (ledgerAfter sha256 calls).HasFailed intent.closureId := by
    refine ⟨receipt, List.mem_of_getLast? hlast, hphase, ?_⟩
    rw [hresult]
    decide
  have hlater := GoalClosure.hasFailed_exec (GoalClosure.ledgerAfter_sound calls) later hfailed
  have happend : ledgerAfter sha256 (calls ++ later)
      = Run.exec (GoalClosure.step sha256) (ledgerAfter sha256 calls) later :=
    Run.exec_append _ _ _ _
  rw [happend]
  exact hlater.1.not_isClosed_of_hasFailed hlater.2

/-
No call after a retryable failure closes the closure, and no transition that waits for it becomes ready.
-/
theorem no_retry (calls : List GoalClosureCall) (intent : GoalClosureIntentV1)
    (hretry : AwaitsRetry (ledgerAfter sha256 calls) intent)
    : ∀ later, let closures := ledgerAfter sha256 (calls ++ later)
        ¬closures.IsClosed intent.closureId
          ∧ ∀ intents receipts, ∀ transition : ChannelSessionTransitionIntentV1,
            transition.goalClosureId = some intent.closureId → transition.boundaryIsReady = false →
              durableGoalBoundaryIsReady sha256 { intents, receipts, closures } transition
                = .ok false := by
  intro later closures
  have hopen := hretry.not_isClosed later
  refine ⟨hopen, ?_⟩
  intro intents receipts transition hclosure hwaits
  exact durableGoalBoundaryIsReady_of_not_isClosed (GoalClosure.ledgerAfter_sound _) hclosure hwaits
    hopen

section Samples

open GoalClosure (sampleIntent failedCalls)

theorem failedCalls_awaitsRetry (sha256 : CollisionFree)
    : AwaitsRetry (ledgerAfter sha256 (failedCalls sha256)) (sampleIntent sha256 "stop") := by
  rw [GoalClosure.ledgerAfter_failedCalls]
  refine ⟨List.mem_cons_self, GoalClosure.newReceipt sha256 (sampleIntent sha256 "stop")
    .backendResultRecorded GoalClosure.failedInput, ?_, rfl, rfl⟩
  simp [GoalClosureLedger.receiptsOf, GoalClosure.newReceipt]

theorem no_retry_sample
    : ¬(ledgerAfter .extended (failedCalls .extended
        ++ GoalClosure.closingCalls (sampleIntent .extended "stop") [.backendResultRecorded])).IsClosed
          (sampleIntent .extended "stop").closureId :=
  (no_retry (failedCalls .extended) (sampleIntent .extended "stop")
    (failedCalls_awaitsRetry .extended) _).1

theorem failedCalls_not_closed (sha256 : CollisionFree)
    : AwaitsRetry (ledgerAfter sha256 (failedCalls sha256)) (sampleIntent sha256 "stop")
        ∧ ¬∃ later, (ledgerAfter sha256 (failedCalls sha256 ++ later)).IsClosed
          (sampleIntent sha256 "stop").closureId := by
  have hretry := failedCalls_awaitsRetry sha256
  refine ⟨hretry, ?_⟩
  rintro ⟨later, hclosed⟩
  exact hretry.not_isClosed later hclosed

/-
The backend answers with a retryable failure, and nothing that is called later closes the closure.
-/
theorem retryable_failure_is_final
    : AwaitsRetry (ledgerAfter .extended (failedCalls .extended)) (sampleIntent .extended "stop")
        ∧ ¬∃ later, (ledgerAfter .extended (failedCalls .extended ++ later)).IsClosed
          (sampleIntent .extended "stop").closureId :=
  failedCalls_not_closed .extended

end Samples

end SessionTransition
