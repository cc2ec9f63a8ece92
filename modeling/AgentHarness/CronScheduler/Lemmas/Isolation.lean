import AgentHarness.CronScheduler.Impl

/-!
A lane over a list of entries, with and without one of them.
-/

namespace CronScheduler

section Collect

variable {ι : Type} {step : ι → Step CronSchedulerJobDecision}

variable {tick : Tick}

attribute [local simp] collect in
theorem collect_cons_of_error {input : ι} {later : Tick} {failure : Failure}
    (h : Faulty.exec (step input) tick = (.error failure, later)) (inputs : List ι)
    : collect step (input :: inputs) tick
        = { tick := later, decisions := [], result := .error failure } := by
  rw [collect, h]

theorem collect_cons_of_ok {input : ι} {later : Tick} {decision : CronSchedulerJobDecision}
    (h : Faulty.exec (step input) tick = (.ok decision, later)) (inputs : List ι)
    : collect step (input :: inputs) tick = { collect step inputs later with
        decisions := decision :: (collect step inputs later).decisions } := by
  rw [collect, h]

theorem collect_append_of_error {inputs : List ι} {failure : Failure}
    (h : (collect step inputs tick).result = .error failure) (rest : List ι)
    : collect step (inputs ++ rest) tick = collect step inputs tick := by
  induction inputs generalizing tick with
  | nil => cases h
  | cons input inputs ih =>
    rw [List.cons_append, collect, collect]
    rw [collect] at h
    split at h
    . rfl
    . rw [ih h]

theorem collect_append_of_ok {inputs : List ι} (h : (collect step inputs tick).result = .ok ())
    (rest : List ι)
    : collect step (inputs ++ rest) tick = { collect step rest (collect step inputs tick).tick with
        decisions := (collect step inputs tick).decisions
          ++ (collect step rest (collect step inputs tick).tick).decisions } := by
  induction inputs generalizing tick with
  | nil => rfl
  | cons input inputs ih =>
    rw [List.cons_append, collect, collect]
    rw [collect] at h
    split at h
    . cases h
    . rw [ih h]
      rfl

theorem length_collect_le (inputs : List ι) (tick : Tick)
    : (collect step inputs tick).decisions.length ≤ inputs.length := by
  induction inputs generalizing tick with
  | nil => simp [collect]
  | cons input inputs ih =>
    rw [collect]
    split
    . simp
    . next later _ =>
      have := ih later
      simp
      omega

theorem length_collect_of_ok {inputs : List ι} (h : (collect step inputs tick).result = .ok ())
    : (collect step inputs tick).decisions.length = inputs.length := by
  induction inputs generalizing tick with
  | nil => rfl
  | cons input inputs ih =>
    rw [collect] at h ⊢
    split at h
    . cases h
    . simp [ih h]

/-
What the lanes of the entries behind see of a tick.
-/
def Tick.shared (self : Tick) : World × Nat × List String :=
  (self.world, self.enqueued, self.warnings)

structure SameLane (lane other : Lane) : Prop where
  decisions : lane.decisions = other.decisions
  shared : lane.tick.shared = other.tick.shared
  result : lane.result = other.result

theorem SameLane.refl (lane : Lane) : SameLane lane lane where
  decisions := rfl
  shared := rfl
  result := rfl

theorem collect_erase {before after : List ι} {input : ι}
    (hstep : ∀ tick, ∃ decision later, Faulty.exec (step input) tick = (.ok decision, later)
      ∧ SameLane (collect step after later) (collect step after tick))
    : let lane := collect step (before ++ input :: after) tick
      SameLane { lane with decisions := lane.decisions.eraseIdx before.length }
        (collect step (before ++ after) tick) := by
  intro lane
  unfold lane
  cases hbefore : (collect step before tick).result with
  | error failure =>
    rw [collect_append_of_error hbefore, collect_append_of_error hbefore]
    constructor
    . exact List.eraseIdx_of_length_le (length_collect_le before tick)
    . rfl
    . rfl
  | ok =>
    have ⟨decision, later, hdecision, hsame⟩ := hstep (collect step before tick).tick
    rw [collect_append_of_ok hbefore, collect_append_of_ok hbefore, collect_cons_of_ok hdecision]
    constructor
    . rw [← length_collect_of_ok hbefore]
      simp [List.eraseIdx_append_of_length_le, hsame.decisions]
    . exact hsame.shared
    . exact hsame.result

end Collect

theorem exec_collectEntry {δ : Type} {config : CronSchedulerConfig} {limited : CronSchedulerJobDecision}
    {evaluation : Except Failure (Evaluation δ)} {collectDue : δ → Step CronSchedulerJobDecision}
    (tick : Tick)
    : Faulty.exec (collectEntry config limited evaluation collectDue) tick =
        if tick.enqueued ≥ config.maxEnqueuePerTick then
          (.ok limited, tick)
        else
          match evaluation with
          | .error failure => (.error failure, tick)
          | .ok (.skip decision) => (.ok decision, tick)
          | .ok (.due slot) => Faulty.exec (collectDue slot) tick := by
  unfold collectEntry
  rw [Faulty.exec_bind_ok (Faulty.exec_get tick)]
  split
  . rfl
  . cases evaluation with
    | error failure => rfl
    | ok evaluation =>
      cases evaluation with
      | skip decision => rfl
      | due slot => rfl

section Sample

def heldSample : DeterministicInput where
  entry := {
    entryId := "held"
    crontabFile := "main.crontab"
    lineNumber := 1
    schedule := .cron "* * * * *"
    command := "true"
    scriptPath := none
    action := .cutoverHold
    reason := "hold" }
  canon := none
  crontab := .ok []
  faults := fun _ => none

def sampleOptions : CronSchedulerRunOnceOptions where
  sourceHome := "home"
  sourceWorkspace := "workspace"
  nowMs := 600000
  dryRun := false
  windows := false
  payloadHash key _ := key

def sampleConfig : CronSchedulerConfig where
  enabled := true
  nativeEnabled := true
  includeRegisteredCron := true
  deterministicEnabled := true
  executeShell := true
  maxCatchupPerTick := 10
  maxEnqueuePerTick := 1
  maxActiveRunsPerJob := 1
  maxActiveRunsPerAgent := 4
  maxQueuedPerAgent := 20
  maxEnqueuePerTick_pos := by decide

def sampleInput (entryId expression : String) : DeterministicInput where
  entry := {
    entryId
    crontabFile := "main.crontab"
    lineNumber := 1
    schedule := .cron expression
    command := "run"
    scriptPath := some "run.sh"
    action := .readyCommand
    reason := "ready" }
  canon := some {
    id := none
    catchUpPolicy := some "run-late-once"
    timeoutMs := none
    maxAttempts := none }
  crontab := .ok []
  faults := fun _ => none

def sampleTick : Tick where
  world := { World.empty with receipts := [.tick 0 .completed false] }
  enqueued := 0
  dueCandidates := 0
  warnings := []

end Sample

end CronScheduler
