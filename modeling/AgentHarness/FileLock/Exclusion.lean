import AgentHarness.FileLock.Basic

/-!
A lock excludes as long as every takeover removes the file it has judged.
-/

namespace FileLock

def Phase.taken (self : Phase) : Option (Int × Nat) :=
  match self with
  | .created nowMs serial | .holding nowMs serial => some (nowMs, serial)
  | _ => none

def Phase.written (self : Phase) : Bool :=
  match self with
  | .holding _ _ => true
  | _ => false

structure Owner (kind : Kind) (s : System) (p : Nat) (nowMs : Int) (serial : Nat)
    (file : LockFile) : Prop where
  present : s.file = some file
  same : file.serial = serial
  creator : s.creators[serial]? = some p
  modified : nowMs ≤ file.modifiedAtMs
  line : file.line = if (s.phase p).written then some (ownerLine kind p nowMs) else none
  inTime : kind = .runtimeLease → s.clockMs ≤ nowMs + runtimeLeaseLockStaleMs
  fresh : kind = .jsonlAppend → file.line = none
    → s.clockMs - file.modifiedAtMs < jsonlAppendLockStaleMs

/-
What reading a line says about the creator of the file.
-/
def LineOf (kind : Kind) (s : System) (nowMs : Int) (p : Nat) (line : Int) : Prop :=
  match kind with
  | .jsonlAppend => line = p
  | .runtimeLease => nowMs - line > runtimeLeaseLockStaleMs → s.alive p = false

/-
What a process that waits for the lock relies on.
-/
def WaitOk (kind : Kind) (s : System) (phase : Phase) : Prop :=
  match phase with
  | .attempting nowMs _ | .busy nowMs | .inspecting nowMs none | .created nowMs _
  | .holding nowMs _ => nowMs ≤ s.clockMs
  | .inspecting nowMs (some (serial, line)) =>
    nowMs ≤ s.clockMs ∧ ∃ p, s.creators[serial]? = some p ∧ LineOf kind s nowMs p line
  | .removing nowMs serial =>
    nowMs ≤ s.clockMs ∧ ∃ p, s.creators[serial]? = some p ∧ s.alive p = false
  | _ => True

structure LockInv (kind : Kind) (s : System) : Prop where
  owner : ∀ p nowMs serial, s.alive p = true → (s.phase p).taken = some (nowMs, serial)
    → ∃ file, Owner kind s p nowMs serial file
  creator : ∀ file, s.file = some file
    → ∃ p, s.creators[file.serial]? = some p
      ∧ (s.alive p = true → ∃ nowMs, (s.phase p).taken = some (nowMs, file.serial))
      ∧ (kind = .jsonlAppend → ∀ line, file.line = some line → line = p)
  waits : ∀ q, WaitOk kind s (s.phase q)

theorem setPhase_same (s : System) (p : Nat) (phase : Phase)
    : (s.setPhase p phase).phase p = phase := by
  simp [System.setPhase]

theorem setPhase_of_ne (s : System) {p q : Nat} (phase : Phase) (hne : q ≠ p)
    : (s.setPhase p phase).phase q = s.phase q := by
  simp [System.setPhase, hne]

section

variable {kind : Kind} {s s' : System}

variable {p : Nat} {nowMs : Int} {phase : Phase}

theorem waitOk_mono (hwait : WaitOk kind s phase) (hclock : s.clockMs ≤ s'.clockMs)
    (hcreators : ∀ (serial p : Nat), s.creators[serial]? = some p → s'.creators[serial]? = some p)
    (halive : ∀ p, s.alive p = false → s'.alive p = false)
    : WaitOk kind s' phase := by
  have hline : ∀ nowMs p line, LineOf kind s nowMs p line → LineOf kind s' nowMs p line := by
    intro nowMs p line h
    unfold LineOf at *
    cases kind with
    | jsonlAppend => exact h
    | runtimeLease =>
      intro hstale
      exact halive p (h hstale)
  unfold WaitOk at *
  split
  . omega
  . omega
  . omega
  . omega
  . omega
  . cases hwait.2 with
    | intro p h =>
      refine ⟨by omega, p, hcreators _ _ h.1, hline _ _ _ h.2⟩
  . cases hwait.2 with
    | intro p h => exact ⟨by omega, p, hcreators _ _ h.1, halive p h.2⟩
  . trivial

theorem waits_setPhase (hwaits : ∀ q, WaitOk kind s (s.phase q)) (p : Nat) (phase : Phase)
    (hphase : ∀ q, s'.phase q = (s.setPhase p phase).phase q) (hnew : WaitOk kind s' phase)
    (hclock : s.clockMs ≤ s'.clockMs)
    (hcreators : ∀ (serial p : Nat), s.creators[serial]? = some p → s'.creators[serial]? = some p)
    (halive : ∀ p, s.alive p = false → s'.alive p = false)
    : ∀ q, WaitOk kind s' (s'.phase q) := by
  intro q
  rw [hphase]
  by_cases hqp : q = p
  . rw [hqp, setPhase_same]
    exact hnew
  . rw [setPhase_of_ne s phase hqp]
    exact waitOk_mono (hwaits q) hclock hcreators halive

theorem owner_unique (hinv : LockInv kind s) {q : Nat} {pNow qNow : Int} {pSerial qSerial : Nat}
    (hp : s.alive p = true) (hptaken : (s.phase p).taken = some (pNow, pSerial))
    (hq : s.alive q = true) (hqtaken : (s.phase q).taken = some (qNow, qSerial))
    : p = q := by
  cases hinv.owner p pNow pSerial hp hptaken with
  | intro pFile hpown =>
    cases hinv.owner q qNow qSerial hq hqtaken with
    | intro qFile hqown =>
      have hfile : pFile = qFile := by
        have h := hpown.present
        rw [hqown.present] at h
        injection h with h
        exact h.symm
      have hcreator := hpown.creator
      rw [← hpown.same, hfile, hqown.same, hqown.creator] at hcreator
      injection hcreator with hcreator
      exact hcreator.symm

theorem lockInv_setPhase (hinv : LockInv kind s) (hold : (s.phase p).taken = none)
    (hnew : phase.taken = none) (hwait : WaitOk kind s phase)
    : LockInv kind (s.setPhase p phase) := by
  constructor
  . intro q nowMs serial hq htaken
    by_cases hqp : q = p
    . rw [hqp, setPhase_same, hnew] at htaken
      contradiction
    . rw [setPhase_of_ne s phase hqp] at htaken
      cases hinv.owner q nowMs serial hq htaken with
      | intro file hown =>
        refine ⟨file, hown.present, hown.same, hown.creator, hown.modified, ?_, hown.inTime,
          hown.fresh⟩
        rw [setPhase_of_ne s phase hqp]
        exact hown.line
  . intro file hfile
    cases hinv.creator file hfile with
    | intro q h =>
      refine ⟨q, h.1, ?_, h.2.2⟩
      intro hq
      cases h.2.1 hq with
      | intro nowMs htaken =>
        refine ⟨nowMs, ?_⟩
        have hqp : q ≠ p := by
          intro heq
          rw [heq, hold] at htaken
          contradiction
        rw [setPhase_of_ne s phase hqp]
        exact htaken
  . apply waits_setPhase hinv.waits p phase
    . intro q
      rfl
    . exact waitOk_mono hwait (Int.le_refl _) (fun _ _ h => h) (fun _ h => h)
    . exact Int.le_refl _
    . exact fun _ _ h => h
    . exact fun _ h => h

theorem lockInv_clear (hinv : LockInv kind s)
    (halone : ∀ q, q ≠ p → s.alive q = true → (s.phase q).taken = none) (hnew : phase.taken = none)
    (hwait : WaitOk kind s phase)
    : LockInv kind { s.setPhase p phase with file := none } := by
  constructor
  . intro q nowMs serial hq htaken
    dsimp only at htaken
    by_cases hqp : q = p
    . rw [hqp, setPhase_same, hnew] at htaken
      contradiction
    . rw [setPhase_of_ne s phase hqp, halone q hqp hq] at htaken
      contradiction
  . intro file hfile
    contradiction
  . apply waits_setPhase hinv.waits p phase
    . intro q
      rfl
    . exact waitOk_mono hwait (Int.le_refl _) (fun _ _ h => h) (fun _ h => h)
    . exact Int.le_refl _
    . exact fun _ _ h => h
    . exact fun _ h => h

theorem lockInv_startAttempt (hinv : LockInv kind s)
    (hcond : takeoverIsCurrent kind s (.start p nowMs))
    : LockInv kind (startAttempt kind s p nowMs) := by
  have hnow : attemptMs kind s nowMs ≤ s.clockMs := by
    cases kind with
    | jsonlAppend => exact Int.le_refl _
    | runtimeLease => exact hcond
  unfold startAttempt
  split
  . next hphase =>
    apply lockInv_setPhase hinv
    . rw [hphase]
      rfl
    . rfl
    . exact hnow
  . exact hinv

theorem lockInv_giveUp (hinv : LockInv kind s) (p : Nat) : LockInv kind (giveUp s p) := by
  unfold giveUp
  split
  . next hphase =>
    apply lockInv_setPhase hinv
    . rw [hphase]
      rfl
    . rfl
    . simp [WaitOk]
  . next hphase =>
    apply lockInv_setPhase hinv
    . rw [hphase]
      rfl
    . rfl
    . simp [WaitOk]
  . exact hinv

theorem lineOf_file (hinv : LockInv kind s) {file : LockFile} {line : Int}
    (hnow : nowMs ≤ s.clockMs) (hfile : s.file = some file) (hline : file.line = some line)
    : ∃ p, s.creators[file.serial]? = some p ∧ LineOf kind s nowMs p line := by
  cases hinv.creator file hfile with
  | intro creator hcreator =>
    refine ⟨creator, hcreator.1, ?_⟩
    unfold LineOf
    split
    . exact hcreator.2.2 rfl line hline
    . intro hstale
      apply Bool.eq_false_iff.mpr
      intro halive
      cases hcreator.2.1 halive with
      | intro took htaken =>
        cases hinv.owner creator took file.serial halive htaken with
        | intro file' hown =>
          have hsame : file' = file := by
            have h := hown.present
            rw [hfile] at h
            injection h with h
            exact h.symm
          have hwritten := hown.line
          rw [hsame, hline] at hwritten
          split at hwritten
          . simp only [ownerLine, Option.some.injEq] at hwritten
            have := hown.inTime rfl
            omega
          . contradiction

theorem lockInv_readOwner (hinv : LockInv kind s) (p : Nat) : LockInv kind (readOwner s p) := by
  unfold readOwner
  split
  . next nowMs hphase =>
    have hnow := hinv.waits p
    rw [hphase] at hnow
    apply lockInv_setPhase hinv
    . rw [hphase]
      rfl
    . rfl
    . cases hfile : s.file with
      | none => exact hnow
      | some file =>
        cases hline : file.line with
        | none =>
          simp only [Option.bind_some, hline, Option.map_none]
          exact hnow
        | some line =>
          simp only [Option.bind_some, hline, Option.map_some]
          exact ⟨hnow, lineOf_file hinv hnow hfile hline⟩
  . exact hinv

theorem taken_inspecting {seen : Option (Nat × Int)} (hphase : s.phase p = .inspecting nowMs seen)
    : (s.phase p).taken = none := by
  rw [hphase]
  rfl

theorem attempt_inspecting (hinv : LockInv kind s) {seen : Option (Nat × Int)}
    (hphase : s.phase p = .inspecting nowMs seen)
    : nowMs ≤ s.clockMs := by
  have hwait := hinv.waits p
  rw [hphase] at hwait
  cases seen with
  | none => exact hwait
  | some seen => exact hwait.1

theorem lockInv_notStale (hinv : LockInv kind s) {seen : Option (Nat × Int)}
    (hphase : s.phase p = .inspecting nowMs seen)
    : LockInv kind (s.setPhase p (notStale kind nowMs)) := by
  have hold := taken_inspecting hphase
  unfold notStale
  split
  . apply lockInv_setPhase hinv hold
    . rfl
    . exact attempt_inspecting hinv hphase
  . apply lockInv_setPhase hinv hold
    . rfl
    . trivial

theorem dead_of_staleByLine {line : Int} {creator : Nat} (hline : LineOf kind s nowMs creator line)
    (hstale : staleByLine kind s nowMs line = true)
    : s.alive creator = false := by
  unfold LineOf at hline
  unfold staleByLine at hstale
  split at hline
  . rw [hline] at hstale
    simpa using hstale
  . apply hline
    simpa using hstale

theorem dead_of_staleByAge (hinv : LockInv kind s) {file : LockFile} (hfile : s.file = some file)
    (hline : kind = .jsonlAppend → file.line = none) (hstale : staleByAge kind s file = true)
    : ∃ creator, s.creators[file.serial]? = some creator ∧ s.alive creator = false := by
  cases hinv.creator file hfile with
  | intro creator h =>
    refine ⟨creator, h.1, ?_⟩
    apply Bool.eq_false_iff.mpr
    intro halive
    cases h.2.1 halive with
    | intro took htaken =>
      cases hinv.owner creator took file.serial halive htaken with
      | intro file' hown =>
        have hsame : file' = file := by
          have h := hown.present
          rw [hfile] at h
          injection h with h
          exact h.symm
        have hmodified := hown.modified
        have hinTime := hown.inTime
        have hfresh := hown.fresh
        rw [hsame] at hmodified hfresh
        unfold staleByAge at hstale
        split at hstale
        . have := hfresh rfl (hline rfl)
          simp only [decide_eq_true_eq] at hstale
          omega
        . have := hinTime rfl
          simp only [decide_eq_true_eq] at hstale
          omega

theorem lockInv_judgeStale (hinv : LockInv kind s) (hcond : takeoverIsCurrent kind s (.judge p))
    : LockInv kind (judgeStale kind s p) := by
  unfold judgeStale
  split
  . next nowMs serial line hphase =>
    have hwait := hinv.waits p
    rw [hphase] at hwait
    split
    . next hstale =>
      apply lockInv_setPhase hinv (taken_inspecting hphase)
      . rfl
      . cases hwait.2 with
        | intro creator h => exact ⟨hwait.1, creator, h.1, dead_of_staleByLine h.2 hstale⟩
    . exact lockInv_notStale hinv hphase
  . next nowMs hphase =>
    split
    . exact lockInv_notStale hinv hphase
    . next file hfile =>
      split
      . next hstale =>
        apply lockInv_setPhase hinv (taken_inspecting hphase)
        . rfl
        . refine ⟨attempt_inspecting hinv hphase, ?_⟩
          apply dead_of_staleByAge hinv hfile _ hstale
          intro hkind
          subst hkind
          exact hcond nowMs file hphase hfile
      . exact lockInv_notStale hinv hphase
  . exact hinv

theorem lockInv_removeStale (hinv : LockInv kind s) (hcond : takeoverIsCurrent kind s (.remove p))
    : LockInv kind (removeStale s p) := by
  unfold removeStale
  split
  . next nowMs judged hphase =>
    have hwait := hinv.waits p
    rw [hphase] at hwait
    apply lockInv_clear hinv
    . intro q _ hq
      cases htaken : (s.phase q).taken with
      | none => rfl
      | some took =>
        cases hinv.owner q took.1 took.2 hq htaken with
        | intro file hown =>
          -- the file at the path is the judged one, whose creator has stopped
          have hjudged : took.2 = judged := by
            rw [← hown.same]
            cases kind with
            | jsonlAppend => exact hcond nowMs judged file hphase hown.present
            | runtimeLease => exact hcond nowMs judged file hphase hown.present
          cases hwait.2 with
          | intro creator h =>
            have hcreator := hown.creator
            rw [hjudged, h.1] at hcreator
            injection hcreator with hcreator
            rw [hcreator, hq] at h
            exact absurd h.2 (by simp)
    . rfl
    . exact hwait.1
  . exact hinv

theorem not_taken_of_ne (hinv : LockInv kind s) {q : Nat} {took : Int × Nat} (hp : s.alive p = true)
    (htaken : (s.phase p).taken = some took) (hne : q ≠ p) (hq : s.alive q = true)
    : (s.phase q).taken = none := by
  cases hqtaken : (s.phase q).taken with
  | none => rfl
  | some qTook => exact absurd (owner_unique hinv hq hqtaken hp htaken) hne

theorem lockInv_dropLock (hinv : LockInv kind s) (hp : s.alive p = true)
    : LockInv kind (dropLock s p) := by
  unfold dropLock
  split
  . next nowMs serial hphase =>
    have htaken : (s.phase p).taken = some (nowMs, serial) := by
      rw [hphase]
      rfl
    apply lockInv_clear hinv
    . intro q hne hq
      exact not_taken_of_ne hinv hp htaken hne hq
    . rfl
    . trivial
  . exact hinv

theorem getElem?_concat_of_some {xs : List Nat} {n x : Nat} (y : Nat) (h : xs[n]? = some x)
    : (xs ++ [y])[n]? = some x := by
  rw [List.getElem?_append_left]
  . exact h
  . exact (List.getElem?_eq_some_iff.mp h).1

theorem lockInv_create (hinv : LockInv kind s) {again : Bool}
    (hphase : s.phase p = .attempting nowMs again) (hfile : s.file = none)
    (hinTime : kind = .runtimeLease → s.clockMs ≤ nowMs + runtimeLeaseLockStaleMs)
    : LockInv kind
        { s.setPhase p (.created nowMs s.creators.length) with
          file := some {
            serial := s.creators.length
            line := none
            modifiedAtMs := s.clockMs }
          creators := s.creators ++ [p] } := by
  have hnow := hinv.waits p
  rw [hphase] at hnow
  have hcreator : (s.creators ++ [p])[s.creators.length]? = some p := by
    simp
  constructor
  . intro q took serial hq htaken
    dsimp only at htaken
    by_cases hqp : q = p
    . rw [hqp, setPhase_same] at htaken
      simp only [Phase.taken, Option.some.injEq, Prod.mk.injEq] at htaken
      rw [← htaken.1, ← htaken.2, hqp]
      refine ⟨_, rfl, rfl, hcreator, hnow, ?_, hinTime, ?_⟩
      . rw [setPhase_same]
        rfl
      . intro _ _
        simp [jsonlAppendLockStaleMs, System.setPhase]
    . rw [setPhase_of_ne s _ hqp] at htaken
      cases hinv.owner q took serial hq htaken with
      | intro file hown =>
        have h := hown.present
        rw [hfile] at h
        contradiction
  . intro file hnew
    injection hnew with hnew
    rw [← hnew]
    refine ⟨p, hcreator, ?_, ?_⟩
    . intro _
      refine ⟨nowMs, ?_⟩
      dsimp only
      rw [setPhase_same]
      rfl
    . intro _ line hline
      contradiction
  . apply waits_setPhase hinv.waits p (.created nowMs s.creators.length)
    . intro q
      rfl
    . exact hnow
    . exact Int.le_refl _
    . intro serial creator h
      exact getElem?_concat_of_some p h
    . exact fun _ h => h

theorem lockInv_tryCreate (hinv : LockInv kind s) (hpromise : dropsInTime kind s (.create p))
    : LockInv kind (tryCreate kind s p) := by
  unfold tryCreate
  split
  . next nowMs again hphase =>
    have hnow := hinv.waits p
    rw [hphase] at hnow
    split
    . next hfile =>
      apply lockInv_create hinv hphase hfile
      intro hkind
      subst hkind
      exact hpromise nowMs again hphase
    . split
      . apply lockInv_setPhase hinv
        . rw [hphase]
          rfl
        . rfl
        . trivial
      . apply lockInv_setPhase hinv
        . rw [hphase]
          rfl
        . rfl
        . exact hnow
  . exact hinv

theorem lockInv_writeOwner (hinv : LockInv kind s) (hp : s.alive p = true)
    : LockInv kind (writeOwner kind s p) := by
  unfold writeOwner
  split
  . next nowMs serial hphase =>
    have htaken : (s.phase p).taken = some (nowMs, serial) := by
      rw [hphase]
      rfl
    have hnow := hinv.waits p
    rw [hphase] at hnow
    cases hinv.owner p nowMs serial hp htaken with
    | intro file hown =>
      simp only [hown.present, Option.map_some, hown.same, ↓reduceIte]
      constructor
      . intro q took qSerial hq hqtaken
        dsimp only at hqtaken
        by_cases hqp : q = p
        . rw [hqp, setPhase_same] at hqtaken
          simp only [Phase.taken, Option.some.injEq, Prod.mk.injEq] at hqtaken
          rw [← hqtaken.1, ← hqtaken.2, hqp]
          refine ⟨_, rfl, rfl, hown.creator, hnow, ?_, hown.inTime, ?_⟩
          . rw [setPhase_same]
            rfl
          . intro _ hline
            contradiction
        . rw [setPhase_of_ne s _ hqp, not_taken_of_ne hinv hp htaken hqp hq] at hqtaken
          contradiction
      . intro written hwritten
        injection hwritten with hwritten
        rw [← hwritten]
        refine ⟨p, hown.creator, ?_, ?_⟩
        . intro _
          refine ⟨nowMs, ?_⟩
          dsimp only
          rw [setPhase_same]
          rfl
        . intro hkind line hline
          subst hkind
          injection hline with hline
          exact hline.symm
      . apply waits_setPhase hinv.waits p (.holding nowMs serial)
        . intro q
          rfl
        . exact hnow
        . exact Int.le_refl _
        . exact fun _ _ h => h
        . exact fun _ h => h
  . exact hinv

theorem phase_of_taken {serial : Nat} (h : phase.taken = some (nowMs, serial))
    : phase = .created nowMs serial ∨ phase = .holding nowMs serial := by
  unfold Phase.taken at h
  split at h
  . simp_all
  . simp_all
  . contradiction

theorem lockInv_tick (hinv : LockInv kind s) {ms : Nat} (hpromise : dropsInTime kind s (.tick ms))
    (hcond : takeoverIsCurrent kind s (.tick ms))
    : LockInv kind { s with clockMs := s.clockMs + ms } := by
  constructor
  . intro p nowMs serial hp htaken
    cases hinv.owner p nowMs serial hp htaken with
    | intro file hown =>
      refine ⟨file, hown.present, hown.same, hown.creator, hown.modified, hown.line, ?_, ?_⟩
      . intro hkind
        subst hkind
        exact hpromise p nowMs serial hp (phase_of_taken htaken)
      . intro hkind hline
        subst hkind
        cases phase_of_taken htaken with
        | inl hcreated => exact hcond p nowMs serial file hp hcreated hown.present hown.same
        | inr hholding =>
          have hwritten := hown.line
          dsimp only at hholding
          rw [hline, hholding] at hwritten
          contradiction
  . exact hinv.creator
  . intro q
    apply waitOk_mono (hinv.waits q)
    . dsimp only
      omega
    . exact fun _ _ h => h
    . exact fun _ h => h

theorem lockInv_crash (hinv : LockInv kind s) (p : Nat)
    : LockInv kind { s with alive := fun q => if q = p then false else s.alive q } := by
  have hwas : ∀ q, (if q = p then false else s.alive q) = true → s.alive q = true := by
    intro q h
    split at h
    . contradiction
    . exact h
  constructor
  . intro q nowMs serial hq htaken
    cases hinv.owner q nowMs serial (hwas q hq) htaken with
    | intro file hown =>
      exact ⟨file, hown.present, hown.same, hown.creator, hown.modified, hown.line, hown.inTime,
        hown.fresh⟩
  . intro file hfile
    cases hinv.creator file hfile with
    | intro q h =>
      refine ⟨q, h.1, ?_, h.2.2⟩
      intro hq
      exact h.2.1 (hwas q hq)
  . intro q
    apply waitOk_mono (hinv.waits q)
    . exact Int.le_refl _
    . exact fun _ _ h => h
    . intro r hr
      dsimp only
      split
      . rfl
      . exact hr

theorem lockInv_step (s : System) (action : Action) (hinv : LockInv kind s)
    (hguard : dropsInTime kind s action ∧ takeoverIsCurrent kind s action)
    : LockInv kind (s.step kind action) := by
  unfold System.step
  split
  . next hactive =>
    cases action with
    | tick ms => exact lockInv_tick hinv hguard.1 hguard.2
    | start p nowMs => exact lockInv_startAttempt hinv hguard.2
    | create p => exact lockInv_tryCreate hinv hguard.1
    | write p => exact lockInv_writeOwner hinv hactive
    | read p => exact lockInv_readOwner hinv p
    | judge p => exact lockInv_judgeStale hinv hguard.2
    | remove p => exact lockInv_removeStale hinv hguard.2
    | drop p => exact lockInv_dropLock hinv hactive
    | giveUp p => exact lockInv_giveUp hinv p
    | crash p => exact lockInv_crash hinv p
  . exact hinv

theorem lockInv_empty : LockInv kind System.empty := by
  constructor
  . intro p nowMs serial _ htaken
    contradiction
  . intro file hfile
    contradiction
  . intro q
    trivial

end

theorem lock_excludes_of_current_takeovers (kind : Kind) (actions : List Action)
    (hguard : Run.Guarded (System.step kind)
      (fun s action => dropsInTime kind s action ∧ takeoverIsCurrent kind s action) System.empty
      actions)
    : (Run.exec (System.step kind) System.empty actions).Exclusive := by
  have hinv : LockInv kind (Run.exec (System.step kind) System.empty actions) :=
    Run.exec_invariant_of_guarded (LockInv kind) lockInv_step lockInv_empty hguard
  generalize Run.exec (System.step kind) System.empty actions = s at hinv
  have htaken : ∀ p, s.holds p → ∃ took, s.alive p = true ∧ (s.phase p).taken = some took := by
    intro p hp
    cases hp.2 with
    | intro nowMs h =>
      cases h with
      | intro serial h =>
        refine ⟨(nowMs, serial), hp.1, ?_⟩
        rw [h]
        rfl
  constructor
  . intro p q hp hq
    cases htaken p hp with
    | intro pTook hptook =>
      cases htaken q hq with
      | intro qTook hqtook => exact owner_unique hinv hptook.1 hptook.2 hqtook.1 hqtook.2
  . intro p file hp hfile
    cases htaken p hp with
    | intro took htook =>
      cases hinv.owner p took.1 took.2 htook.1 htook.2 with
      | intro own hown =>
        have hsame := hown.present
        rw [hfile] at hsame
        injection hsame with hsame
        rw [hsame, hown.same]
        exact hown.creator

theorem dropsInTime_create {s : System} {p : Nat} {nowMs : Int} {again : Bool}
    (hphase : s.phase p = .attempting nowMs again)
    (htime : s.clockMs ≤ nowMs + runtimeLeaseLockStaleMs)
    : dropsInTime .runtimeLease s (.create p) := by
  intro nowMs' again' h
  rw [hphase] at h
  injection h with h
  omega

/-
Process 0 leaves its file behind and process 1 takes the lock over.
-/
def singleTakeover : List Action :=
  [ .start 0 0, .create 0, .write 0, .crash 0, .tick 30001,
    .start 1 30001, .create 1, .read 1, .judge 1, .remove 1, .create 1, .write 1 ]

theorem singleTakeover_excludes
    : (Run.exec (System.step .runtimeLease) System.empty singleTakeover).holds 1
      ∧ (Run.exec (System.step .runtimeLease) System.empty singleTakeover).Exclusive := by
  refine ⟨⟨rfl, 30001, 1, rfl⟩, ?_⟩
  apply lock_excludes_of_current_takeovers .runtimeLease singleTakeover
  refine ⟨⟨trivial, Int.le_refl _⟩, ⟨dropsInTime_create rfl (by decide), trivial⟩,
    ⟨trivial, trivial⟩, ⟨trivial, trivial⟩, ⟨?_, trivial⟩, ⟨trivial, Int.le_refl _⟩,
    ⟨dropsInTime_create rfl (by decide), trivial⟩, ⟨trivial, trivial⟩, ⟨trivial, trivial⟩,
    ⟨trivial, ?_⟩, ⟨dropsInTime_create rfl (by decide), trivial⟩, ⟨trivial, trivial⟩, trivial⟩
  . intro p nowMs serial halive hphase
    cases p with
    | zero => contradiction
    | succ p =>
      cases hphase with
      | inl h => contradiction
      | inr h => contradiction
  . intro nowMs judged file hphase hfile
    injection hphase with _ hjudged
    injection hfile with hfile
    rw [← hfile, ← hjudged]

/-
Processes 1 and 2 both judge the file of process 0 stale. Process 1 takes the lock over, then
process 2 removes the file of process 1 and takes the lock as well.
-/
def doubleTakeover : List Action :=
  [ .start 0 0, .create 0, .write 0, .crash 0, .tick 30001,
    .start 1 30001, .create 1, .read 1, .judge 1,
    .start 2 30001, .create 2, .read 2, .judge 2,
    .remove 1, .create 1, .write 1,
    .remove 2, .create 2, .write 2 ]

theorem doubleTakeover_inTime (kind : Kind)
    : Run.Guarded (System.step kind) (dropsInTime kind) System.empty doubleTakeover := by
  cases kind with
  | jsonlAppend => simp [Run.Guarded, doubleTakeover, dropsInTime]
  | runtimeLease =>
    refine ⟨trivial, dropsInTime_create rfl (by decide), trivial, trivial, ?_, trivial,
      dropsInTime_create rfl (by decide), trivial, trivial, trivial,
      dropsInTime_create rfl (by decide), trivial, trivial, trivial,
      dropsInTime_create rfl (by decide), trivial, trivial, dropsInTime_create rfl (by decide),
      trivial, trivial⟩
    intro p nowMs serial halive hphase
    cases p with
    | zero => contradiction
    | succ p =>
      cases hphase with
      | inl h => contradiction
      | inr h => contradiction

theorem lock_shared_after_double_takeover
    : (¬∀ actions, Run.Guarded (System.step .jsonlAppend) (dropsInTime .jsonlAppend) System.empty
          actions
        → (Run.exec (System.step .jsonlAppend) System.empty actions).Exclusive)
      ∧ ¬∀ actions, Run.Guarded (System.step .runtimeLease) (dropsInTime .runtimeLease) System.empty
          actions
        → (Run.exec (System.step .runtimeLease) System.empty actions).Exclusive := by
  constructor
  . intro hclaim
    have h := (hclaim doubleTakeover (doubleTakeover_inTime .jsonlAppend)).holder 1 2
      ⟨rfl, 30001, 1, rfl⟩ ⟨rfl, 30001, 2, rfl⟩
    contradiction
  . intro hclaim
    have h := (hclaim doubleTakeover (doubleTakeover_inTime .runtimeLease)).holder 1 2
      ⟨rfl, 30001, 1, rfl⟩ ⟨rfl, 30001, 2, rfl⟩
    contradiction

end FileLock
