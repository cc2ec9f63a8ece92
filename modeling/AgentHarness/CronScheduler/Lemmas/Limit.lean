import AgentHarness.CronScheduler.Lemmas.Enqueue

/-!
The jobs of whole ticks and of runs of ticks.
-/

namespace CronScheduler

open CronRuns (Slot CronRun CronRunAdmitOptions)

section Grows

structure Grows (jobs later : Table jobsTable) : Prop where
  kept : jobs.rows <+: later.rows
  added : ∀ job ∈ later.rows, job ∈ jobs.rows ∨ job.IsKeyed

theorem Grows.refl (jobs : Table jobsTable) : Grows jobs jobs where
  kept := List.prefix_rfl
  added _ hjob := .inl hjob

theorem Grows.trans {jobs middle later : Table jobsTable} (h : Grows jobs middle)
    (h' : Grows middle later)
    : Grows jobs later where
  kept := h.kept.trans h'.kept
  added := by
    intro job hjob
    cases h'.added job hjob with
    | inl hmiddle => exact h.added job hmiddle
    | inr hkeyed => exact .inr hkeyed

theorem Spends.grows {α : Type} {uncounted : Failure → Prop} {tick : Tick}
    {outcome : Except Failure α × Tick} (h : Spends uncounted tick outcome)
    : Grows tick.world.jobs outcome.2.world.jobs := by
  rcases h with hledger | ⟨job, hkeyed, hinsert, _⟩
  . have hjobs : outcome.2.world.jobs = tick.world.jobs := congrArg Prod.fst hledger
    rw [hjobs]
    exact Grows.refl _
  . constructor
    . rw [Table.rows_insert hinsert]
      exact List.prefix_append _ _
    . intro other hother
      cases (Table.mem_insert hinsert).mp hother with
      | inl hold => exact .inl hold
      | inr heq =>
        rw [heq]
        exact .inr hkeyed

theorem grows_collect {ι : Type} {step : ι → Step CronSchedulerJobDecision}
    {uncounted : Failure → Prop}
    (h : ∀ input tick, Spends uncounted tick (Faulty.exec (step input) tick)) (inputs : List ι)
    (tick : Tick)
    : Grows tick.world.jobs (collect step inputs tick).tick.world.jobs := by
  induction inputs generalizing tick with
  | nil => exact Grows.refl _
  | cons input inputs ih =>
    have hstep := (h input tick).grows
    rw [collect]
    split
    . next heq =>
      rw [heq] at hstep
      exact hstep
    . next later heq =>
      rw [heq] at hstep
      exact hstep.trans (ih later)

end Grows

section Balance

structure Tick.IsBalanced (tick : Tick) (base limit : Nat) : Prop where
  counted : tick.world.jobs.rows.length = base + tick.enqueued
  limited : tick.enqueued ≤ limit

variable {tick : Tick}

theorem Tick.IsBalanced.length_le {base limit : Nat} (h : tick.IsBalanced base limit)
    : tick.world.jobs.rows.length ≤ base + limit := by
  have := h.counted
  have := h.limited
  omega

def GuardedLane {ι : Type} (step : ι → Step CronSchedulerJobDecision) (guard : ι → Tick → Prop)
    : List ι → Tick → Prop
  | [], _ => True
  | input :: inputs, tick => guard input tick
    ∧ ∀ decision later, Faulty.exec (step input) tick = (.ok decision, later)
      → GuardedLane step guard inputs later

variable {ι : Type} {step : ι → Step CronSchedulerJobDecision} {guard : ι → Tick → Prop}
  {uncounted : Failure → Prop} {base limit : Nat}

theorem Spends.balanced {α : Type} {outcome : Except Failure α × Tick}
    (h : Spends uncounted tick outcome)
    (hlimit : limit ≤ tick.enqueued → outcome.2.ledger = tick.ledger)
    (hbalanced : tick.IsBalanced base limit)
    : outcome.2.IsBalanced base limit
      ∨ ∃ failure, outcome.1 = .error failure ∧ uncounted failure
        ∧ outcome.2.world.jobs.rows.length ≤ base + limit := by
  have hsame : outcome.2.ledger = tick.ledger → outcome.2.IsBalanced base limit := by
    intro hledger
    simp only [Tick.ledger, Prod.mk.injEq] at hledger
    constructor
    . rw [hledger.1, hledger.2]
      exact hbalanced.counted
    . rw [hledger.2]
      exact hbalanced.limited
  rcases h with hledger | ⟨job, _, hinsert, hcount⟩
  . exact .inl (hsame hledger)
  . by_cases hreached : limit ≤ tick.enqueued
    . exact .inl (hsame (hlimit hreached))
    . have hlength : outcome.2.world.jobs.rows.length = tick.world.jobs.rows.length + 1 := by
        rw [Table.rows_insert hinsert]
        simp
      have := hbalanced.counted
      rcases hcount with hcount | ⟨_, failure, hfailure, huncounted⟩
      . left
        constructor
        . omega
        . omega
      . right
        exact ⟨failure, hfailure, huncounted, by omega⟩

theorem collect_balanced
    (hspends : ∀ input tick, guard input tick → Spends uncounted tick (Faulty.exec (step input) tick))
    (hlimit : ∀ input tick, limit ≤ tick.enqueued
      → (Faulty.exec (step input) tick).2.ledger = tick.ledger) {inputs : List ι}
    (hguard : GuardedLane step guard inputs tick) (hbalanced : tick.IsBalanced base limit)
    : let lane := collect step inputs tick
      lane.tick.IsBalanced base limit
      ∨ ∃ failure, lane.result = .error failure ∧ uncounted failure
        ∧ lane.tick.world.jobs.rows.length ≤ base + limit := by
  induction inputs generalizing tick with
  | nil => exact .inl hbalanced
  | cons input inputs ih =>
    have hstep := (hspends input tick hguard.1).balanced (hlimit input tick) hbalanced
    rw [collect]
    split
    . next failure later heq =>
      rw [heq] at hstep
      rcases hstep with hlater | ⟨failure', hfailure, hrest⟩
      . exact .inl hlater
      . injection hfailure with hfailure
        rw [← hfailure] at hrest
        exact .inr ⟨failure, rfl, hrest⟩
    . next decision later heq =>
      rw [heq] at hstep
      rcases hstep with hlater | ⟨failure', hfailure, _⟩
      . exact ih (hguard.2 decision later heq) hlater
      . cases hfailure

theorem guardedLane_any (inputs : List ι) (tick : Tick)
    : GuardedLane step (fun _ _ => True) inputs tick := by
  induction inputs generalizing tick with
  | nil => exact trivial
  | cons input inputs ih => exact ⟨trivial, fun _ later _ => ih later⟩

theorem collect_length_le
    (hspends : ∀ input tick, Spends uncounted tick (Faulty.exec (step input) tick))
    (hlimit : ∀ input tick, limit ≤ tick.enqueued
      → (Faulty.exec (step input) tick).2.ledger = tick.ledger) (inputs : List ι)
    (hbalanced : tick.IsBalanced base limit)
    : (collect step inputs tick).tick.world.jobs.rows.length ≤ base + limit := by
  have hlane := collect_balanced (fun input tick _ => hspends input tick) hlimit
    (guardedLane_any inputs tick) hbalanced
  rcases hlane with hlater | ⟨_, _, _, hlength⟩
  . exact hlater.length_le
  . exact hlength

end Balance

section Native

def ReportsNoError (faults : Faults) (access : Access) : Prop :=
  ∀ e, faults access ≠ some (.error e)

def admittedRun (admission : CronRunAdmitOptions) (runs : CronRuns.Store) : CronRun :=
  (runs.findRunBySlot admission.slot).getD admission.run

/-
If the entry is due and its attempt has no job yet: none of the accesses behind the insert reports an
error, and the run has the identity of the entry and can be linked.
-/
def NativeInput.CountsJob (options : CronSchedulerRunOnceOptions) (config : CronSchedulerConfig)
    (input : NativeInput) (tick : Tick)
    : Prop :=
  options.dryRun = false → tick.enqueued < config.maxEnqueuePerTick →
    ∀ slot agentId, evaluateNativeEntry options config input.entry = .ok (.due slot) →
      input.entry.agentId = some agentId →
        let admission := nativeAdmission options input.entry agentId slot
        let run := admittedRun admission tick.world.runs
        let key := schedulerIdempotencyKey admission.slot run.attempt
        let job := nativeWorkerJob options input.entry agentId slot run key
        (∀ existing ∈ tick.world.jobs.rows, existing.idempotencyKey ≠ key) →
          ReportsNoError input.faults .lifecycle ∧ ReportsNoError input.faults .link
            ∧ ReportsNoError input.faults .insertWatermark
            ∧ validateCronWorkerIdentity run job = .ok () ∧ IsLinkable run job.jobId

theorem admitCronRun_ok {admission : CronRunAdmitOptions} {runs later : CronRuns.Store} {run : CronRun}
    (h : runs.admitCronRun admission = (later, .ok run))
    : run = admittedRun admission runs ∧ run ∈ later.runs.rows := by
  unfold CronRuns.Store.admitCronRun at h
  unfold admittedRun
  split at h
  . next existing hfound =>
    injection h with hlater hrun
    injection hrun with hrun
    rw [hfound, ← hrun, ← hlater]
    exact ⟨rfl, List.mem_of_find?_eq_some hfound⟩
  . next hfound =>
    split at h
    . injection h with _ h
      cases h
    . next table hinsert =>
      injection h with hlater hrun
      have hfind : table.find (CronRuns.cronRunId admission.slot) = some admission.run := by
        have hkey : CronRuns.cronRunsTable.key admission.run = CronRuns.cronRunId admission.slot := rfl
        rw [Table.find_insert hinsert, if_pos hkey]
      simp only [CronRuns.Store.findRunById, hfind, Except.ofOption] at hrun
      injection hrun with hrun
      rw [hfound, ← hlater, ← hrun]
      exact ⟨rfl, (Table.mem_of_find hfind).1⟩

theorem eq_crash_of_fault {faults : Faults} {access : Access} {failure : Failure}
    (h : ReportsNoError faults access) (hfault : faults access = some failure)
    : failure = .crash := by
  cases failure with
  | crash => rfl
  | error e => exact absurd hfault (h e)

theorem countsAdmission_of_countsJob {options : CronSchedulerRunOnceOptions}
    {config : CronSchedulerConfig} {input : NativeInput} {tick : Tick} {slot : Int} {agentId : String}
    (h : input.CountsJob options config tick) (hdry : options.dryRun = false)
    (hlimit : tick.enqueued < config.maxEnqueuePerTick)
    (hdue : evaluateNativeEntry options config input.entry = .ok (.due slot))
    (hagent : input.entry.agentId = some agentId)
    : CountsAdmission (· = .crash) input.faults options.nowMs
        (nativeAdmission options input.entry agentId slot)
        (nativeWorkerJob options input.entry agentId slot) tick.world.runs tick.world.jobs := by
  intro run later hadmit hnone
  obtain ⟨hrun, hmem⟩ := admitCronRun_ok hadmit
  rw [hrun] at hnone
  obtain ⟨hlifecycle, hlink, hwatermark, hidentity, hlinkable⟩ :=
    h hdry hlimit slot agentId hdue hagent hnone
  rw [← hrun] at hidentity hlinkable
  constructor
  . rfl
  . intro e failure he
    exact absurd he (hlifecycle e)
  . intro failure hfault
    exact eq_crash_of_fault hwatermark hfault
  . intro tick' failure hruns hfailure
    apply eq_crash_of_fault hlink
    apply validateAndLink_error _ hidentity hlinkable hfailure
    rw [hruns]
    exact hmem

theorem exec_collectDueNativeEntry_dryRun {options : CronSchedulerRunOnceOptions}
    {config : CronSchedulerConfig} {input : NativeInput} {slot : Int} (h : options.dryRun = true)
    (tick : Tick)
    : (Faulty.exec (collectDueNativeEntry options config input slot) tick).2.ledger = tick.ledger := by
  unfold collectDueNativeEntry
  rw [Faulty.exec_bind_ok (Faulty.exec_modify _ _), if_pos h]
  rfl

theorem collectNativeEntry_spends (options : CronSchedulerRunOnceOptions) (config : CronSchedulerConfig)
    (input : NativeInput) (tick : Tick) (h : input.CountsJob options config tick)
    : Spends (· = .crash) tick (Faulty.exec (collectNativeEntry options config input) tick) := by
  unfold collectNativeEntry
  rw [exec_collectEntry]
  split
  . exact .inl rfl
  . next hlimit =>
    rw [not_le] at hlimit
    cases hevaluation : evaluateNativeEntry options config input.entry with
    | error failure => exact .inl rfl
    | ok evaluation =>
      cases evaluation with
      | skip decision => exact .inl rfl
      | due slot =>
        cases hdry : options.dryRun with
        | true => exact .inl (exec_collectDueNativeEntry_dryRun hdry tick)
        | false =>
          -- up to the admission, the runs and the jobs are those of the tick
          have hspec := entrySpec_spends (· = .crash)
            (fun runs jobs => runs = tick.world.runs ∧ jobs = tick.world.jobs)
          refine hspec.collectDueNativeEntry ?_ tick ⟨rfl, rfl⟩
          rintro agentId hagent tick' ⟨hruns, hjobs⟩
          apply admitAndEnqueue_spends
          . apply isKeyed_cronWorkerJob
          . intro run key
            rfl
          . rw [hruns, hjobs]
            exact countsAdmission_of_countsJob h hdry hlimit hevaluation hagent

end Native

section Tick

theorem exec_limited {δ : Type} {config : CronSchedulerConfig} {limited : CronSchedulerJobDecision}
    {evaluation : Except Failure (Evaluation δ)} {collectDue : δ → Step CronSchedulerJobDecision}
    {tick : Tick} (h : config.maxEnqueuePerTick ≤ tick.enqueued)
    : (Faulty.exec (collectEntry config limited evaluation collectDue) tick).2.ledger = tick.ledger := by
  rw [exec_collectEntry, if_pos h]

theorem jobs_finish (world : World) (input : TickInput) (report : CronSchedulerRunOnceReport)
    : (world.finish input report).1.jobs = world.jobs := by
  have hrotate : (world.rotateReceipts input.oversized).jobs = world.jobs := by
    unfold World.rotateReceipts
    split
    . rfl
    . rfl
  have happend : (world.appendCronSchedulerReceipts input report).1.jobs = world.jobs := by
    unfold World.appendCronSchedulerReceipts
    split
    . rfl
    . exact hrotate
  unfold World.finish
  split
  . next heq =>
    rw [heq] at happend
    exact happend
  . next heq =>
    rw [heq] at happend
    split
    . exact happend
    . exact happend

def TickInput.nativeLane (self : TickInput) (world : World) : Lane :=
  collectNativeCronDecisions self world.startTick

def TickInput.deterministicLane (self : TickInput) (world : World) : Lane :=
  collectDeterministicCronDecisions self (self.nativeLane world).tick

structure TickInput.Starts (input : TickInput) : Prop where
  started : input.startFault = none
  unlocked : input.lockBusy = false
  enabled : input.config.enabled

theorem jobs_runCronSchedulerOnce (input : TickInput) (world : World)
    : let later := (runCronSchedulerOnce input world).1
      later.jobs = world.jobs
      ∨ (input.Starts ∧ (input.nativeLane world).isCrashed
        ∧ later.jobs = (input.nativeLane world).tick.world.jobs)
      ∨ (input.Starts ∧ (input.nativeLane world).isCrashed = false
        ∧ later.jobs = (input.deterministicLane world).tick.world.jobs) := by
  unfold runCronSchedulerOnce
  split
  . exact .inl rfl
  . next hstarted =>
    split
    . exact .inl (jobs_finish _ _ _)
    . next hunlocked =>
      split
      . exact .inl (jobs_finish _ _ _)
      . next henabled =>
        have hstarts : input.Starts := by
          constructor
          . exact hstarted
          . simpa using hunlocked
          . simpa using henabled
        right
        dsimp only
        split
        . next hcrashed => exact .inl ⟨hstarts, hcrashed, rfl⟩
        . next hcrashed =>
          refine .inr ⟨hstarts, Bool.eq_false_iff.mpr hcrashed, ?_⟩
          split
          . rfl
          . exact jobs_finish _ _ _

theorem grows_native (input : TickInput) (tick : Tick)
    : Grows tick.world.jobs (collectNativeCronDecisions input tick).tick.world.jobs := by
  unfold collectNativeCronDecisions
  split
  . exact Grows.refl _
  . split
    . exact Grows.refl _
    . exact grows_collect (collectNativeEntry_spends_any _ _) _ _

theorem grows_deterministic (input : TickInput) (tick : Tick)
    : Grows tick.world.jobs (collectDeterministicCronDecisions input tick).tick.world.jobs := by
  unfold collectDeterministicCronDecisions
  split
  . exact Grows.refl _
  . split
    . exact Grows.refl _
    . exact grows_collect (collectDeterministicEntry_spends _ _ _) _ _

theorem grows_exec (world : World) (event : Event) : Grows world.jobs (world.exec event).jobs := by
  cases event with
  | runs call => exact Grows.refl _
  | tick input =>
    have hnative : Grows world.jobs (input.nativeLane world).tick.world.jobs :=
      grows_native input world.startTick
    have hdeterministic : Grows world.jobs (input.deterministicLane world).tick.world.jobs :=
      hnative.trans (grows_deterministic input _)
    rw [World.exec]
    rcases jobs_runCronSchedulerOnce input world with heq | ⟨_, _, heq⟩ | ⟨_, _, heq⟩
    . rw [heq]
      exact Grows.refl _
    . rw [heq]
      exact hnative
    . rw [heq]
      exact hdeterministic

theorem grows_run (world : World) (events : List Event)
    : Grows world.jobs (Run.exec World.exec world events).jobs := by
  induction events generalizing world with
  | nil => exact Grows.refl _
  | cons event events ih => exact (grows_exec world event).trans (ih (world.exec event))

end Tick

section Limit

/-
The native lane of the tick counts every job that it inserts, or there is no other lane behind it.
-/
def TickInput.CountsJobs (self : TickInput) (world : World) : Prop :=
  self.Starts → self.config.nativeEnabled → self.config.deterministicEnabled →
    ∀ natives, self.natives = .ok natives →
      GuardedLane (collectNativeEntry self.options self.config)
        (NativeInput.CountsJob self.options self.config) natives world.startTick

def CountsJobs (world : World) (event : Event) : Prop :=
  match event with
  | .tick input => input.CountsJobs world
  | .runs _ => True

theorem startTick_isBalanced (world : World) (limit : Nat)
    : world.startTick.IsBalanced world.jobs.rows.length limit where
  counted := rfl
  limited := Nat.zero_le _

variable {input : TickInput} {world : World}

theorem nativeLane_balanced (h : input.CountsJobs world) (hstarts : input.Starts)
    (hdeterministic : input.config.deterministicEnabled)
    : (input.nativeLane world).tick.IsBalanced world.jobs.rows.length input.config.maxEnqueuePerTick
      ∨ ((input.nativeLane world).isCrashed
        ∧ (input.nativeLane world).tick.world.jobs.rows.length
          ≤ world.jobs.rows.length + input.config.maxEnqueuePerTick) := by
  unfold TickInput.nativeLane collectNativeCronDecisions
  split
  . exact .inl (startTick_isBalanced _ _)
  . next hnative =>
    split
    . exact .inl (startTick_isBalanced _ _)
    . next natives hnatives =>
      have hguard := h hstarts (by simpa using hnative) hdeterministic natives hnatives
      have hlane := collect_balanced (collectNativeEntry_spends input.options input.config)
        (fun _ _ => exec_limited) hguard (startTick_isBalanced world input.config.maxEnqueuePerTick)
      rcases hlane with hbalanced | ⟨failure, hresult, hcrash, hlength⟩
      . exact .inl hbalanced
      . refine .inr ⟨?_, hlength⟩
        rw [Lane.isCrashed, hresult, hcrash]

theorem nativeLane_length_le (input : TickInput) (world : World)
    : (input.nativeLane world).tick.world.jobs.rows.length
        ≤ world.jobs.rows.length + input.config.maxEnqueuePerTick := by
  unfold TickInput.nativeLane collectNativeCronDecisions
  split
  . exact (startTick_isBalanced _ _).length_le
  . split
    . exact (startTick_isBalanced _ _).length_le
    . apply collect_length_le (collectNativeEntry_spends_any _ _) (fun _ _ => exec_limited)
      exact startTick_isBalanced _ _

theorem deterministic_length_le {tick : Tick} {base : Nat}
    (h : tick.IsBalanced base input.config.maxEnqueuePerTick)
    : (collectDeterministicCronDecisions input tick).tick.world.jobs.rows.length
        ≤ base + input.config.maxEnqueuePerTick := by
  unfold collectDeterministicCronDecisions
  split
  . exact h.length_le
  . split
    . exact h.length_le
    . exact collect_length_le (collectDeterministicEntry_spends _ _ _) (fun _ _ => exec_limited) _ h

theorem tick_length_le (h : input.CountsJobs world)
    : (world.exec (.tick input)).jobs.rows.length
        ≤ world.jobs.rows.length + input.config.maxEnqueuePerTick := by
  rw [World.exec]
  rcases jobs_runCronSchedulerOnce input world with heq | ⟨_, _, heq⟩ | ⟨hstarts, hcrashed, heq⟩
  . rw [heq]
    omega
  . rw [heq]
    exact nativeLane_length_le input world
  . rw [heq]
    cases hdeterministic : input.config.deterministicEnabled with
    | false =>
      have hlane : input.deterministicLane world
          = { tick := (input.nativeLane world).tick, decisions := [], result := .ok () } := by
        simp [TickInput.deterministicLane, collectDeterministicCronDecisions, hdeterministic]
      rw [hlane]
      exact nativeLane_length_le input world
    | true =>
      rcases nativeLane_balanced h hstarts hdeterministic with hbalanced | ⟨hcrash, _⟩
      . exact deterministic_length_le hbalanced
      . rw [hcrashed] at hcrash
        cases hcrash

def World.HasOneJobPerAttempt (self : World) : Prop :=
  ∀ job ∈ self.jobs.rows, ∀ other ∈ self.jobs.rows, job.payload.slot = other.payload.slot
    → job.payload.cronRunAttempt = other.payload.cronRunAttempt → job = other

theorem hasOneJobPerAttempt_of_keyed (h : ∀ job ∈ world.jobs.rows, job.IsKeyed)
    : world.HasOneJobPerAttempt := by
  intro job hjob other hother hslot hattempt
  obtain ⟨attempt, hsome, hkey⟩ := h job hjob
  obtain ⟨attempt', hsome', hkey'⟩ := h other hother
  rw [hsome, hsome', Option.some.injEq] at hattempt
  by_contra hne
  have hclash := world.jobs.not_clash (fun job other => by simp [jobsTable, eq_comm]) hjob hother hne
  simp only [jobsTable, decide_eq_false_iff_not] at hclash
  apply hclash
  rw [hkey, hkey', hslot, hattempt]

theorem hasOneJobPerAttempt_run (events : List Event)
    : (Run.exec World.exec World.empty events).HasOneJobPerAttempt := by
  apply hasOneJobPerAttempt_of_keyed
  intro job hjob
  cases (grows_run World.empty events).added job hjob with
  | inl hempty => cases hempty
  | inr hkeyed => exact hkeyed

theorem jobs_kept_run (before after : List Event)
    : (Run.exec World.exec World.empty before).jobs.rows
        <+: (Run.exec World.exec World.empty (before ++ after)).jobs.rows := by
  rw [Run.exec_append]
  exact (grows_run _ after).kept

theorem enqueue_is_bounded_when_counted (events : List Event)
    (h : Run.Guarded World.exec CountsJobs World.empty events)
    : (Run.exec World.exec World.empty events).HasOneJobPerAttempt
      ∧ (∀ before after, events = before ++ after
        → (Run.exec World.exec World.empty before).jobs.rows
            <+: (Run.exec World.exec World.empty events).jobs.rows)
      ∧ ∀ before input after, events = before ++ .tick input :: after
        → let world := Run.exec World.exec World.empty before
          (world.exec (.tick input)).jobs.rows.length
            ≤ world.jobs.rows.length + input.config.maxEnqueuePerTick := by
  refine ⟨hasOneJobPerAttempt_run events, ?_, ?_⟩
  . rintro before after rfl
    exact jobs_kept_run before after
  . rintro before input after rfl
    rw [Run.guarded_append] at h
    exact tick_length_le h.2.1

end Limit

section Sample

def nativeSample (faults : Faults) : NativeInput where
  entry := {
    jobId := "daily"
    agentId := some "main"
    action := .enqueueAgentTurn
    reason := "ready"
    schedule := .cron "*/10 * * * *" none
    sessionKey := none
    sessionPolicy := none
    messageText := none }
  faults

theorem nativeSample_is_bounded
    : let events := [.tick (sampleTickInput [nativeSample fun _ => none]
        [sampleInput "first" "*/10 * * * *"])]
      Run.Guarded World.exec CountsJobs World.empty events
      ∧ (Run.exec World.exec World.empty events).jobs.rows.length = 1
      ∧ (Run.exec World.exec World.empty events).HasOneJobPerAttempt := by
  intro events
  have hguarded : Run.Guarded World.exec CountsJobs World.empty events := by
    refine ⟨?_, trivial⟩
    intro _ _ _ natives hnatives
    cases hnatives
    refine ⟨?_, fun _ _ _ => trivial⟩
    intro _ _ slot agentId hdue hagent
    have hslot : evaluateNativeEntry sampleOptions sampleConfig (nativeSample fun _ => none).entry
        = .ok (.due 600000) := by
      rfl
    have hdue' : evaluateNativeEntry sampleOptions sampleConfig (nativeSample fun _ => none).entry
        = .ok (.due slot) := hdue
    rw [hslot] at hdue'
    cases hdue'
    cases hagent
    intro admission run key job _
    have hrun : run = admission.run := rfl
    refine ⟨by rintro e ⟨⟩, by rintro e ⟨⟩, by rintro e ⟨⟩, ?_, .inl ?_⟩
    . unfold job key
      rw [hrun]
      decide +kernel
    . rw [hrun]
      exact ⟨by decide, rfl⟩
  exact ⟨hguarded, by decide +kernel, (enqueue_is_bounded_when_counted events hguarded).1⟩

/-
The lifecycle record of the native job fails after the insert. The error ends the native lane with nothing
counted, and the deterministic lane still has the whole limit.
-/
theorem uncounted_job_exceeds_limit
    : let faults : Faults := fun access =>
        if access = .lifecycle then some (.error ⟨.other, "disk full"⟩) else none
      let input := sampleTickInput [nativeSample faults] [sampleInput "first" "*/10 * * * *"]
      input.config.maxEnqueuePerTick = 1
      ∧ (World.empty.exec (.tick input)).jobs.rows.length = World.empty.jobs.rows.length + 2 := by
  decide +kernel

end Sample

end CronScheduler
