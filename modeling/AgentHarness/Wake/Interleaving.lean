import Mathlib.Data.List.DropRight
import AgentHarness.Lib.Text
import AgentHarness.Lib.Run

/-!
The sequence file of a wake lane: what a signal writes to it, and what a wait that polls the file reads.
-/

namespace Wake

def wakeSequenceSchema : String := "agent-harness.wake-sequence.v1"

structure WakeSequenceRecord where
  schema : String
  lane : String
  sequence : Nat
  reason : String
  updatedAtMs : Int

inductive WakeFile where
  | missing
  | blank
  | malformed
  | record (record : WakeSequenceRecord)

inductive WakeSignalMode where
  | signaled
  | fallback

structure WakeReceipt where
  schema : String
  lane : String
  eventName : String
  sequence : Nat
  reason : String
  updatedAtMs : Int
  mode : WakeSignalMode

-- `none` for a file that does not parse
def readWakeSequence (file : WakeFile) : Option Nat :=
  match file with
  | .missing => some 0
  | .blank => some 0
  | .malformed => none
  | .record record => some record.sequence

def maxSequence : Nat := 2 ^ 64 - 1

def nextWakeSequence (file : WakeFile) : Option Nat :=
  match file with
  | .missing => some 1
  | file => (readWakeSequence file).map fun existing => min (existing + 1) maxSequence

def normalizeWakeLane (lane : String) : String :=
  let parts := lane.toList.map fun c =>
    if c.isAlphanum || c = '-' || c = '_' then c.toLower else '-'
  let sanitized := (parts.foldl push []).rdropWhile (· = '-')
  if sanitized = [] then "lane" else String.ofList sanitized
where
  -- no dash at the start, and none behind another one
  push (sanitized : List Char) (part : Char) : List Char :=
    if part = '-' && (sanitized = [] || sanitized.getLast? = some '-') then
      sanitized
    else
      sanitized ++ [part]

structure Signal where
  lane : String
  reason : String
  updatedAtMs : Int

def Signal.record (signal : Signal) (next : Nat) : WakeSequenceRecord where
  schema := wakeSequenceSchema
  lane := normalizeWakeLane signal.lane
  sequence := next
  reason := signal.reason
  updatedAtMs := signal.updatedAtMs

def polled (file : WakeFile) (previous : Nat) : Nat :=
  (readWakeSequence file).getD previous

def loadWakeRecord (file : WakeFile) (sequence : Nat) (nowMs : Int) : Option WakeSequenceRecord :=
  match file with
  | .malformed => none
  | .record record => some record
  | _ => some
    { schema := wakeSequenceSchema
      lane := ""
      sequence := sequence
      reason := "wake observed"
      updatedAtMs := nowMs }

def loadWakeReceipt (eventName : String) (sequence : Nat) (record : WakeSequenceRecord)
    : WakeReceipt where
  schema := wakeSequenceSchema
  lane := normalizeWakeLane record.lane
  eventName := eventName
  sequence := sequence
  reason := record.reason
  updatedAtMs := record.updatedAtMs
  mode := .fallback

end Wake

/-!
Signals and a waiter side by side on one sequence file. A signal reads the sequence and writes the next
one without a lock, so another one may write in between; the waiter polls.
-/

namespace Wake

def interleaved (signals : ι → Signal) : Race.Calls WakeFile Nat ι where
  read _ file := nextWakeSequence file
  write i next _ := .record ((signals i).record next)

inductive WaitPhase where
  | polling
  | found
  | loaded (sequence : Nat)

-- A waiter that waits again with the sequence of the receipt; `unseen`: a signal has written since it last read.
structure Waiter where
  previous : Nat
  phase : WaitPhase
  receipts : List WakeReceipt
  unseen : Bool

inductive Action (ι : Type w) where
  | signal (action : Race.Action ι)
  | wait (nowMs : Int)

-- `overtaken`: another signal has written since this one read
structure State (ι : Type w) where
  signals : Race.State WakeFile Nat ι
  overtaken : ι → Bool
  waiter : Waiter

def State.file (state : State ι) : WakeFile := state.signals.shared

def storedSequence (file : WakeFile) : Nat := (readWakeSequence file).getD 0

def Waiter.observed (waiter : Waiter) : Nat :=
  match waiter.phase with
  | .loaded sequence => sequence
  | _ => waiter.previous

def wakes (file : WakeFile) (previous : Nat) : Bool :=
  previous < polled file previous

def waitStep (eventName : String) (nowMs : Int) (file : WakeFile) (waiter : Waiter) : Waiter :=
  match waiter.phase with
  | .polling =>
    if wakes file waiter.previous then
      { waiter with phase := .found }
    else
      { waiter with previous := polled file waiter.previous, unseen := false }
  | .found =>
    match readWakeSequence file with
    | none => { waiter with phase := .polling }
    | some sequence => { waiter with phase := .loaded sequence, unseen := false }
  | .loaded sequence =>
    match loadWakeRecord file sequence nowMs with
    | none => { waiter with phase := .polling }
    | some record =>
      let receipt := loadWakeReceipt eventName sequence record
      { waiter with
        previous := receipt.sequence
        phase := .polling
        receipts := waiter.receipts ++ [receipt] }

variable [DecidableEq ι]

def State.writes (state : State ι) (action : Race.Action ι) : Bool :=
  match action with
  | .read _ => false
  | .write i =>
    match state.signals.phase i with
    | .holding _ => true
    | _ => false

def State.overtake (state : State ι) (action : Race.Action ι) : ι → Bool :=
  match action with
  | .read i =>
    match state.signals.phase i with
    | .idle => Function.update state.overtaken i false
    | _ => state.overtaken
  | .write i => if state.writes (.write i) then fun _ => true else state.overtaken

def step (signals : ι → Signal) (eventName : String) (state : State ι) : Action ι → State ι
  | .signal action =>
    { signals := Race.step (interleaved signals) state.signals action
      overtaken := state.overtake action
      waiter := { state.waiter with unseen := state.waiter.unseen || state.writes action } }
  | .wait nowMs =>
    { state with waiter := waitStep eventName nowMs state.file state.waiter }

def start (file : WakeFile) : State ι where
  signals := Race.start file
  overtaken _ := false
  waiter :=
    { previous := storedSequence file
      phase := .polling
      receipts := []
      unseen := false }

def Action.isWait (action : Action ι) : Bool :=
  match action with
  | .signal _ => false
  | .wait _ => true

/-
A signal that writes was not overtaken by another one, and there is a sequence left to write.
-/
def Undisturbed (state : State ι) : Action ι → Prop
  | .signal (.write i) => state.writes (.write i) = true →
    state.overtaken i = false ∧ storedSequence state.file < maxSequence
  | _ => True

instance (state : State ι) (action : Action ι) : Decidable (Undisturbed state action) :=
  match action with
  | .signal (.write _) => inferInstanceAs (Decidable (_ → _ ∧ _))
  | .signal (.read _) => isTrue trivial
  | .wait _ => isTrue trivial

section

variable {signals : ι → Signal} {eventName : String} {state : State ι} {i : ι}

theorem file_read : (step signals eventName state (.signal (.read i))).file = state.file := by
  show (Race.step (interleaved signals) state.signals (.read i)).shared = state.signals.shared
  rw [Race.step]
  split
  . split
    . rfl
    . rfl
  . rfl
  . rfl

theorem waiter_read : (step signals eventName state (.signal (.read i))).waiter = state.waiter := by
  simp [step, State.writes]

theorem step_write_of_holding {next : Nat} (h : state.signals.phase i = .holding next)
    : (step signals eventName state (.signal (.write i))).file = .record ((signals i).record next)
      ∧ (step signals eventName state (.signal (.write i))).waiter
        = { state.waiter with unseen := true } := by
  simp [step, State.file, State.writes, Race.step, h, interleaved, Race.State.publish]

theorem step_write_of_not_holding (h : ∀ next, state.signals.phase i ≠ .holding next)
    : (step signals eventName state (.signal (.write i))).file = state.file
      ∧ (step signals eventName state (.signal (.write i))).waiter = state.waiter
      ∧ (step signals eventName state (.signal (.write i))).signals.phase = state.signals.phase
      ∧ (step signals eventName state (.signal (.write i))).overtaken = state.overtaken := by
  cases hphase : state.signals.phase i with
  | idle => simp [step, State.file, State.writes, State.overtake, Race.step, hphase]
  | holding next => exact absurd hphase (h next)
  | finished => simp [step, State.file, State.writes, State.overtake, Race.step, hphase]

theorem wakes_iff {file : WakeFile} {previous : Nat} (h : previous ≤ storedSequence file)
    : wakes file previous = true ↔ previous < storedSequence file := by
  unfold wakes polled storedSequence at *
  cases hread : readWakeSequence file with
  | none =>
    rw [hread] at h
    simp only [Option.getD_none, Nat.le_zero] at h
    simp [h]
  | some sequence => simp

end

theorem loadWakeRecord_isSome {file : WakeFile} (h : (readWakeSequence file).isSome) (sequence : Nat)
    (nowMs : Int)
    : ∃ record, loadWakeRecord file sequence nowMs = some record := by
  cases file with
  | malformed => simp [readWakeSequence] at h
  | missing => exact ⟨_, rfl⟩
  | blank => exact ⟨_, rfl⟩
  | record record => exact ⟨record, rfl⟩

/-
What holds as long as no signal is overtaken: the waiter is not ahead of the file, what it found or missed is
still there, and a signal that was not overtaken still holds the number behind the stored one.
-/
structure Good (state : State ι) : Prop where
  observed : state.waiter.observed ≤ storedSequence state.file
  noticed : state.waiter.unseen → state.waiter.observed < storedSequence state.file
  found : state.waiter.phase = .found → state.waiter.previous < storedSequence state.file
  loaded : ∀ sequence, state.waiter.phase = .loaded sequence → (readWakeSequence state.file).isSome
  next : ∀ i next, state.signals.phase i = .holding next → state.overtaken i = false →
    nextWakeSequence state.file = some next

omit [DecidableEq ι] in
theorem good_start (file : WakeFile) : Good (start file : State ι) where
  observed := le_rfl
  noticed := by simp [start]
  found := by simp [start]
  loaded := by simp [start]
  next := by simp [start, Race.start]

theorem next_of_nextWakeSequence {file : WakeFile} {next : Nat}
    (h : nextWakeSequence file = some next) (hroom : storedSequence file < maxSequence)
    : next = storedSequence file + 1 := by
  cases file with
  | missing =>
    cases h
    rfl
  | blank =>
    cases h
    rfl
  | malformed => cases h
  | record record =>
    cases h
    exact Nat.min_eq_left hroom

section

variable {signals : ι → Signal} {eventName : String} {state : State ι} {i : ι}

theorem readWakeSequence_of_stored {file : WakeFile} {n : Nat} (h : n < storedSequence file)
    : readWakeSequence file = some (storedSequence file) := by
  unfold storedSequence at *
  cases hread : readWakeSequence file with
  | none => simp [hread] at h
  | some sequence => rfl

theorem good_wait (h : Good state) (nowMs : Int) : Good (step signals eventName state (.wait nowMs)) := by
  have hobserved := h.observed
  have hnoticed := h.noticed
  show Good { state with waiter := waitStep eventName nowMs state.file state.waiter }
  cases hphase : state.waiter.phase with
  | polling =>
    have hprevious : state.waiter.observed = state.waiter.previous := by
      simp [Waiter.observed, hphase]
    rw [hprevious] at hobserved hnoticed
    have hwakes := wakes_iff hobserved
    by_cases hless : state.waiter.previous < storedSequence state.file
    . have hwaiter : waitStep eventName nowMs state.file state.waiter
          = { state.waiter with phase := .found } := by
        simp [waitStep, hphase, hwakes.mpr hless]
      rw [hwaiter]
      exact ⟨hobserved, hnoticed, fun _ => hless, nofun, h.next⟩
    . have hsame : polled state.file state.waiter.previous = state.waiter.previous := by
        unfold polled storedSequence at *
        cases hread : readWakeSequence state.file with
        | none => rfl
        | some sequence =>
          simp only [hread, Option.getD_some] at hobserved hless ⊢
          omega
      have hwaiter : waitStep eventName nowMs state.file state.waiter
          = { state.waiter with unseen := false } := by
        simp [waitStep, hphase, mt hwakes.mp hless, hsame]
      rw [hwaiter]
      exact ⟨h.observed, nofun, h.found, h.loaded, h.next⟩
  | found =>
    have hread := readWakeSequence_of_stored (h.found hphase)
    have hwaiter : waitStep eventName nowMs state.file state.waiter
        = { state.waiter with phase := .loaded (storedSequence state.file), unseen := false } := by
      simp only [waitStep, hphase, hread]
    rw [hwaiter]
    exact ⟨le_rfl, nofun, nofun, fun _ _ => Option.isSome_of_eq_some hread, h.next⟩
  | loaded sequence =>
    obtain ⟨record, hload⟩ := loadWakeRecord_isSome (h.loaded sequence hphase) sequence nowMs
    have hsequence : state.waiter.observed = sequence := by
      simp [Waiter.observed, hphase]
    rw [hsequence] at hobserved hnoticed
    have hwaiter : waitStep eventName nowMs state.file state.waiter
        = { state.waiter with
            previous := sequence
            phase := .polling
            receipts := state.waiter.receipts ++ [loadWakeReceipt eventName sequence record] } := by
      simp only [waitStep, hphase, hload]
      rfl
    rw [hwaiter]
    exact ⟨hobserved, hnoticed, nofun, nofun, h.next⟩

theorem good_read (h : Good state) : Good (step signals eventName state (.signal (.read i))) := by
  obtain ⟨hobserved, hnoticed, hfound, hloaded, hnext⟩ := h
  constructor
  . rwa [file_read, waiter_read]
  . rwa [file_read, waiter_read]
  . rwa [file_read, waiter_read]
  . rwa [file_read, waiter_read]
  . intro j next hholding hfree
    rw [file_read]
    cases hphase : state.signals.phase i with
    | idle =>
      simp only [step, Race.step, hphase, State.overtake] at hholding hfree
      by_cases hsame : j = i
      . subst hsame
        split at hholding
        . simp [Race.State.enter] at hholding
        . next found hread =>
          simp only [Race.State.enter, Function.update_self, Race.Phase.holding.injEq] at hholding
          rw [← hholding]
          exact hread
      . rw [Function.update_of_ne hsame] at hfree
        refine hnext j next ?_ hfree
        split at hholding <;> simpa [Race.State.enter, hsame] using hholding
    | holding _ =>
      simp only [step, Race.step, hphase, State.overtake] at hholding hfree
      exact hnext j next hholding hfree
    | finished =>
      simp only [step, Race.step, hphase, State.overtake] at hholding hfree
      exact hnext j next hholding hfree

theorem good_write_of_holding {next : Nat} (h : Good state)
    (hholding : state.signals.phase i = .holding next)
    (hundisturbed : Undisturbed state (.signal (.write i)))
    : storedSequence state.file < storedSequence (step signals eventName state (.signal (.write i))).file
        ∧ Good (step signals eventName state (.signal (.write i))) := by
  have hwrites : state.writes (.write i) = true := by
    simp [State.writes, hholding]
  obtain ⟨hfree, hroom⟩ := hundisturbed hwrites
  have hnext := next_of_nextWakeSequence (h.next i next hholding hfree) hroom
  obtain ⟨hfile, hwaiter⟩ := @step_write_of_holding _ _ signals eventName state i next hholding
  have hstored : storedSequence (step signals eventName state (.signal (.write i))).file
      = storedSequence state.file + 1 := by
    rw [hfile, ← hnext]
    rfl
  have hobserved := h.observed
  have hsame : (step signals eventName state (.signal (.write i))).waiter.observed
      = state.waiter.observed := by
    rw [hwaiter]
    rfl
  have hovertaken : (step signals eventName state (.signal (.write i))).overtaken = fun _ => true := by
    simp [step, State.overtake, hwrites]
  refine ⟨by omega, by omega, fun _ => by omega, fun hphase => ?_, fun _ _ => by rw [hfile]; rfl,
    fun j _ _ hfree => ?_⟩
  . rw [hwaiter] at hphase ⊢
    have hfound := h.found hphase
    show state.waiter.previous < _
    omega
  . rw [hovertaken] at hfree
    cases hfree

theorem good_step (h : Good state) {action : Action ι} (hundisturbed : Undisturbed state action)
    : storedSequence state.file ≤ storedSequence (step signals eventName state action).file
        ∧ Good (step signals eventName state action) := by
  cases action with
  | wait nowMs => exact ⟨le_rfl, good_wait h nowMs⟩
  | signal action =>
    cases action with
    | read i => exact ⟨by rw [file_read], good_read h⟩
    | write i =>
      by_cases hholding : ∃ next, state.signals.phase i = .holding next
      . obtain ⟨next, hholding⟩ := hholding
        have hwritten := @good_write_of_holding _ _ signals eventName state i next h hholding
          hundisturbed
        exact ⟨hwritten.1.le, hwritten.2⟩
      . simp only [not_exists] at hholding
        obtain ⟨hfile, hwaiter, hphase, hovertaken⟩ :=
          @step_write_of_not_holding _ _ signals eventName state i hholding
        refine ⟨hfile ▸ le_rfl, ?_⟩
        obtain ⟨hobserved, hnoticed, hfound, hloaded, hnext⟩ := h
        constructor <;>
          rw [hfile]
        . rwa [hwaiter]
        . rwa [hwaiter]
        . rwa [hwaiter]
        . rwa [hwaiter]
        . rwa [hphase, hovertaken]

/-
The waiter is at most `left` steps from a receipt with a greater sequence than it has observed.
-/
structure Toward (observed taken left : Nat) (state : State ι) : Prop where
  stored : observed < storedSequence state.file
  taken : taken ≤ state.waiter.receipts.length
  phase : match state.waiter.phase with
    | .polling => state.waiter.previous = observed ∧ 3 ≤ left
    | .found => state.waiter.previous = observed ∧ 2 ≤ left
    | .loaded sequence => sequence = observed ∧ 4 ≤ left ∨ observed < sequence ∧ 1 ≤ left

def Returned (observed taken : Nat) (state : State ι) : Prop :=
  ∃ receipt ∈ state.waiter.receipts.drop taken, observed < receipt.sequence

variable {observed taken left : Nat}

theorem waitStep_receipts (nowMs : Int) (file : WakeFile) (waiter : Waiter)
    : waiter.receipts <+: (waitStep eventName nowMs file waiter).receipts := by
  unfold waitStep
  repeat' split
  all_goals first
    | exact List.prefix_rfl
    | exact List.prefix_append _ _

theorem returned_step (h : Returned observed taken state) (action : Action ι)
    : Returned observed taken (step signals eventName state action) := by
  obtain ⟨receipt, hreceipt, hlater⟩ := h
  refine ⟨receipt, ?_, hlater⟩
  cases action with
  | signal action => exact hreceipt
  | wait nowMs =>
    exact ((waitStep_receipts nowMs state.file state.waiter).drop taken).subset hreceipt

theorem toward_wait (h : Good state) (htoward : Toward observed taken left state) (nowMs : Int)
    : Returned observed taken (step signals eventName state (.wait nowMs))
        ∨ Toward observed taken (left - 1) (step signals eventName state (.wait nowMs)) := by
  obtain ⟨hstored, htaken, hphase⟩ := htoward
  have hread := readWakeSequence_of_stored hstored
  cases hwaiter : state.waiter.phase with
  | polling =>
    rw [hwaiter] at hphase
    have hwakes : wakes state.file state.waiter.previous = true := by
      simp [wakes, polled, hread, hphase.1, hstored]
    refine .inr ⟨hstored, ?_, ?_⟩
    . simpa [step, waitStep, hwaiter, hwakes] using htaken
    . simp only [step, waitStep, hwaiter, hwakes, if_true]
      omega
  | found =>
    rw [hwaiter] at hphase
    refine .inr ⟨hstored, ?_, ?_⟩
    . simpa [step, waitStep, hwaiter, hread] using htaken
    . simp only [step, waitStep, hwaiter, hread]
      omega
  | loaded sequence =>
    rw [hwaiter] at hphase
    obtain ⟨record, hload⟩ := loadWakeRecord_isSome (h.loaded sequence hwaiter) sequence nowMs
    obtain ⟨rfl, hleft⟩ | ⟨hmore, hleft⟩ := hphase
    . refine .inr ⟨hstored, ?_, ?_⟩
      . simp only [step, waitStep, hwaiter, hload, List.length_append]
        exact Nat.le_add_right_of_le htaken
      . simp only [step, waitStep, hwaiter, hload, loadWakeReceipt, true_and]
        omega
    . refine .inl ⟨loadWakeReceipt eventName sequence record, ?_, hmore⟩
      simp only [step, waitStep, hwaiter, hload]
      rw [List.drop_append_of_le_length htaken]
      exact List.mem_append_right _ List.mem_cons_self

theorem toward_signal (htoward : Toward observed taken left state) {action : Race.Action ι}
    (hstored : storedSequence state.file
      ≤ storedSequence (step signals eventName state (.signal action)).file)
    : Toward observed taken left (step signals eventName state (.signal action)) :=
  ⟨htoward.stored.trans_le hstored, htoward.taken, htoward.phase⟩

theorem returned_of_toward {actions : List (Action ι)} (h : Good state)
    (hguard : Run.Guarded (step signals eventName) Undisturbed state actions)
    (htoward : Returned observed taken state ∨ Toward observed taken left state)
    (hwaits : left ≤ actions.countP Action.isWait)
    : Returned observed taken (Run.exec (step signals eventName) state actions) := by
  induction actions generalizing state left with
  | nil =>
    obtain hreturned | ⟨-, -, hphase⟩ := htoward
    . exact hreturned
    . simp only [List.countP_nil, Nat.le_zero] at hwaits
      split at hphase <;> omega
  | cons action actions ih =>
    obtain ⟨hundisturbed, hguard⟩ := hguard
    obtain ⟨hstored, hnext⟩ := @good_step _ _ signals eventName state h action hundisturbed
    rw [Run.exec_cons]
    rw [List.countP_cons] at hwaits
    obtain hreturned | htoward := htoward
    . exact @ih _ 0 hnext hguard (.inl (returned_step hreturned action)) (Nat.zero_le _)
    . cases action with
      | signal action => exact ih hnext hguard (.inr (toward_signal htoward hstored)) hwaits
      | wait nowMs =>
        refine @ih _ (left - 1) hnext hguard (toward_wait h htoward nowMs) ?_
        simp only [Action.isWait, if_true] at hwaits
        omega

omit [DecidableEq ι] in
theorem toward_of_unseen (h : Good state) (hunseen : state.waiter.unseen = true)
    : Toward state.waiter.observed state.waiter.receipts.length 4 state := by
  refine ⟨h.noticed hunseen, le_rfl, ?_⟩
  split
  . next hphase => simp [Waiter.observed, hphase]
  . next hphase => simp [Waiter.observed, hphase]
  . next hphase => simp [Waiter.observed, hphase]

theorem good_exec {actions : List (Action ι)} (h : Good state)
    (hguard : Run.Guarded (step signals eventName) Undisturbed state actions)
    : storedSequence state.file ≤ storedSequence (Run.exec (step signals eventName) state actions).file
        ∧ Good (Run.exec (step signals eventName) state actions) := by
  induction actions generalizing state with
  | nil => exact ⟨le_rfl, h⟩
  | cons action actions ih =>
    obtain ⟨hstored, hnext⟩ := @good_step _ _ signals eventName state h action hguard.1
    obtain ⟨hlater, hgood⟩ := ih hnext hguard.2
    exact ⟨hstored.trans hlater, hgood⟩

end

/-
When no signal is overtaken by another one, the stored sequence does not decrease; and once a signal has written
behind what the waiter observed, four steps of it are enough for a receipt with a greater sequence, whatever is
written meanwhile.
-/
theorem no_wake_lost (signals : ι → Signal) (eventName : String) (file : WakeFile)
    (actions later : List (Action ι))
    (hguard : Run.Guarded (step signals eventName) Undisturbed (start file) (actions ++ later))
    : let before := Run.exec (step signals eventName) (start file) actions
      let after := Run.exec (step signals eventName) (start file) (actions ++ later)
      storedSequence before.file ≤ storedSequence after.file
        ∧ (before.waiter.unseen = true → 4 ≤ later.countP Action.isWait →
          ∃ receipt ∈ after.waiter.receipts.drop before.waiter.receipts.length,
            before.waiter.observed < receipt.sequence) := by
  intro before after
  rw [Run.guarded_append] at hguard
  have hbefore := (good_exec (good_start file) hguard.1).2
  have happend : after = Run.exec (step signals eventName) before later := Run.exec_append _ _ _ _
  rw [happend]
  refine ⟨(good_exec hbefore hguard.2).1, ?_⟩
  intro hunseen hwaits
  exact returned_of_toward hbefore hguard.2 (.inr (toward_of_unseen hbefore hunseen)) hwaits

def sampleSignal : Signal where
  lane := "worker"
  reason := "queued"
  updatedAtMs := 0

-- the second signal reads behind the write of the first, and writes while the waiter takes that
def oneAfterAnother : List (Action Nat) :=
  [.signal (.read 0), .signal (.write 0), .wait 0, .wait 0, .signal (.read 1), .signal (.write 1)]

theorem no_wake_lost_sample
    : let before := Run.exec (step (fun _ => sampleSignal) "event") (start .missing) oneAfterAnother
      let after := Run.exec (step (fun _ => sampleSignal) "event") (start .missing)
        (oneAfterAnother ++ List.replicate 4 (.wait 0))
      before.waiter.unseen = true
        ∧ storedSequence before.file ≤ storedSequence after.file
        ∧ (before.waiter.unseen = true → 4 ≤ (List.replicate 4 (Action.wait 0 : Action Nat)).countP
            Action.isWait →
          ∃ receipt ∈ after.waiter.receipts.drop before.waiter.receipts.length,
            before.waiter.observed < receipt.sequence) :=
  ⟨by decide +kernel,
    no_wake_lost _ _ _ oneAfterAnother (List.replicate 4 (.wait 0)) (by decide +kernel)⟩

/-
Two signals read the same sequence. The waiter observes what the first one wrote, and waits for ever after the
second one; and a third one's write is undone.
-/
theorem wake_lost
    : let run (actions : List (Action Nat)) := Run.exec (step (fun _ => sampleSignal) "event") (start .missing) actions
      let lost := run [.signal (.read 0), .signal (.read 1), .signal (.write 0), .wait 0, .wait 0, .wait 0,
        .signal (.write 1)]
      let undone := run [.signal (.read 0), .signal (.read 1), .signal (.write 1), .signal (.read 2),
        .signal (.write 2)]
      lost.waiter.unseen = true ∧ wakes lost.file lost.waiter.observed = false
        ∧ storedSequence undone.file = 2
        ∧ storedSequence (step (fun _ => sampleSignal) "event" undone (.signal (.write 0))).file = 1 := by
  decide +kernel

end Wake
