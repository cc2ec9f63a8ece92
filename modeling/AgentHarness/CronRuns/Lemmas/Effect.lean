import AgentHarness.CronRuns.Impl
import AgentHarness.Lib.Run

/-!
What a call does to the rows of the runs: it changes the run that it names, and it may quarantine active
runs.
-/

namespace CronRuns

/-
The change that a call makes to the run it names, with the WHERE clause that let it happen.
-/
inductive Direct (s : Store) : Call → CronRun → CronRun → Prop where
  | workerEnqueued {runId : String} {attempt : Int} {workerJobId : String} {nowMs : Int}
      {run : CronRun} (hid : run.runId = runId) (hattempt : run.attempt = attempt)
      (hstatus : (run.status ∈ [.admitted, .retryPending] ∧ run.workerJobId = none)
        ∨ (run.status = .workerEnqueued ∧ run.workerJobId = some workerJobId))
    : Direct s (.workerEnqueued runId attempt workerJobId nowMs) run { run with
        status := .workerEnqueued, workerJobId := some workerJobId, updatedAtMs := nowMs }
  | runtimeEnqueued {runId : String} {attempt : Int} {workerJobId runtimeQueueId : String}
      {nowMs : Int} {run : CronRun} (hid : run.runId = runId) (hattempt : run.attempt = attempt)
      (hworker : run.workerJobId = some workerJobId)
      (hstatus : run.status ∈ [.workerEnqueued, .runtimeEnqueued, .runtimeRunning, .retryPending])
    : Direct s (.runtimeEnqueued runId attempt workerJobId runtimeQueueId nowMs) run { run with
        status := .runtimeEnqueued, runtimeQueueId := some runtimeQueueId, updatedAtMs := nowMs }
  | workerStatus {runId : String} {attempt : Int} {workerJobId status reason : String}
      {nowMs : Int} {run : CronRun} (hid : run.runId = runId) (hattempt : run.attempt = attempt)
      (hworker : run.workerJobId = some workerJobId) (hstatus : run.status ∉ settledStatuses)
      (failureReason : Option String) (finishedAtMs : Option Int)
    : Direct s (.workerStatus runId attempt workerJobId status reason nowMs) run { run with
        status := cronStatusFromWorkerStatus status, failureReason, finishedAtMs,
        updatedAtMs := nowMs }
  | expireUnlinked {runId : String} {attempt updatedBeforeMs : Int} {reason : String}
      {nowMs : Int} {run : CronRun} (hid : run.runId = runId) (hattempt : run.attempt = attempt)
      (hstatus : run.status = .admitted)
    : Direct s (.expireUnlinked runId attempt updatedBeforeMs reason nowMs) run { run with
        status := .expired, failureReason := some reason, finishedAtMs := some nowMs,
        updatedAtMs := nowMs }
  | blockUnlinked {runId : String} {attempt updatedBeforeMs : Int} {reason : String}
      {nowMs : Int} {run : CronRun} (hid : run.runId = runId) (hattempt : run.attempt = attempt)
      (hstatus : run.status = .admitted)
    : Direct s (.blockUnlinked runId attempt updatedBeforeMs reason nowMs) run { run with
        status := .admissionBlocked, failureReason := some reason, finishedAtMs := some nowMs,
        updatedAtMs := nowMs, quarantined := true }
  | blockLinked {runId : String} {attempt : Int} {workerJobId reason : String} {nowMs : Int}
      {run : CronRun} (hid : run.runId = runId) (hattempt : run.attempt = attempt)
      (hstatus : run.status ∈ activeStatuses)
    : Direct s (.blockLinked runId attempt workerJobId reason nowMs) run { run with
        status := .admissionBlocked, failureReason := some reason, finishedAtMs := some nowMs,
        updatedAtMs := nowMs, quarantined := true }
  | runtimeStatus {runtimeQueueId status reason : String} {nowMs : Int} {run : CronRun}
      (hqueue : run.runtimeQueueId = some runtimeQueueId) (hstatus : run.status ∉ settledStatuses)
      (failureReason : Option String) (finishedAtMs : Option Int)
    : Direct s (.runtimeStatus runtimeQueueId status reason nowMs) run { run with
        status := cronStatusFromRuntimeStatus status, failureReason, finishedAtMs,
        updatedAtMs := nowMs }
  | runtimeDispatch {runId runtimeQueueId : String} {nowMs : Int} {run : CronRun}
      (hfound : s.findRunById runId = some run) (hblocker : s.cronRunControlBlocker run = none)
      (hqueue : run.runtimeQueueId = none) (hstatus : run.status ∈ [.admitted, .workerEnqueued])
    : Direct s (.runtimeDispatch runId runtimeQueueId nowMs) run { run with
        status := .runtimeEnqueued, runtimeQueueId := some runtimeQueueId, updatedAtMs := nowMs }
  | skip {workers : WorkerJobs} {options : CronRunControlOptions} {run : CronRun}
      (haction : options.action = .skip) (hid : options.runId = some run.runId)
    : Direct s (.control workers options) run { run with
        status := .skipped, finishedAtMs := some options.nowMs,
        failureReason := some options.reason, updatedAtMs := options.nowMs }
  | retry {workers : WorkerJobs} {options : CronRunControlOptions} {run : CronRun}
      (haction : options.action = .retry) (hid : options.runId = some run.runId)
    : Direct s (.control workers options) run { run with
        status := .retryPending, runtimeQueueId := none, workerJobId := none, startedAtMs := none,
        leaseExpiresAtMs := none, finishedAtMs := none, failureReason := some options.reason,
        attempt := run.attempt + 1, updatedAtMs := options.nowMs }

def CronRun.putInQuarantine (self : CronRun) (reason : String) (nowMs : Int) : CronRun :=
  { self with
    quarantined := true, status := .quarantined, failureReason := some reason,
    updatedAtMs := nowMs }

structure IsKept (rel : CronRun → CronRun → Prop) : Prop where
  refl : ∀ run, rel run run
  trans : ∀ run run' run'', rel run run' → rel run' run'' → rel run run''
  quarantine : ∀ run reason nowMs, run.status ∈ activeStatuses
    → rel run (run.putInQuarantine reason nowMs)

section

variable {rel : CronRun → CronRun → Prop} {fresh : CronRun → Prop} {s later : Store}

abbrev Store.Evolves (rel : CronRun → CronRun → Prop) (fresh : CronRun → Prop) (s later : Store)
    : Prop :=
  Table.Evolves rel fresh s.runs later.runs

theorem evolves_updateRuns (hrefl : ∀ run, rel run run) {hits : CronRun → Bool}
    {set : CronRun → CronRun} (hid : ∀ run, (set run).runId = run.runId)
    (hset : ∀ run ∈ s.runs.rows, hits run → rel run (set run))
    : Store.Evolves rel fresh s (s.updateRuns hits set).1 := by
  unfold Store.updateRuns
  split
  . next runs hupdate => exact Table.evolves_update hid hrefl hset hupdate
  . exact Table.Evolves.refl hrefl _

theorem evolves_upsertQuarantine (h : IsKept rel) (agentId : String) (entryId : Option String)
    (reason : String) (nowMs : Int)
    : Store.Evolves rel fresh s (s.upsertQuarantine agentId entryId reason nowMs).1 := by
  unfold Store.upsertQuarantine
  dsimp only
  split
  . exact Table.Evolves.refl h.refl _
  . next quarantines _ =>
    show Store.Evolves rel fresh { s with quarantines } _
    apply evolves_updateRuns h.refl
    . intro run
      rfl
    . intro run _ hhits
      simp only [Bool.and_eq_true, decide_eq_true_eq] at hhits
      exact h.quarantine run reason nowMs hhits.2

theorem Store.runs_updateQuarantines (s : Store) (hits : CronQuarantine → Bool)
    (set : CronQuarantine → CronQuarantine)
    : (s.updateQuarantines hits set).1.runs = s.runs := by
  unfold Store.updateQuarantines
  split
  . rfl
  . rfl

theorem Store.runs_unquarantineByRunId (s : Store) (runId : String) (nowMs : Int)
    : (s.unquarantineByRunId runId nowMs).1.runs = s.runs := by
  unfold Store.unquarantineByRunId
  split
  . rfl
  . exact Store.runs_updateQuarantines s _ _

theorem evolves_andThen (h : IsKept rel) {α β : Type} {first : Outcome Store α}
    {next : Store → α → Outcome Store β} (hfirst : Store.Evolves rel (fun _ => False) s first.1)
    (hnext : ∀ middle a, Store.Evolves rel (fun _ => False) middle (next middle a).1)
    : Store.Evolves rel (fun _ => False) s (first.andThen next).1 := by
  apply Outcome.andThen_fst
  . exact hfirst
  . intro a _
    exact Table.Evolves.trans hfirst (hnext first.1 a) h.trans fun _ _ hfresh _ => hfresh

theorem evolves_refl (h : IsKept rel) (s : Store) : Store.Evolves rel (fun _ => False) s s :=
  Table.Evolves.refl h.refl s.runs

theorem evolves_of_runs (h : IsKept rel) (hruns : later.runs = s.runs)
    : Store.Evolves rel (fun _ => False) s later := by
  unfold Store.Evolves
  rw [hruns]
  exact evolves_refl h s

theorem evolves_maybeQuarantine (h : IsKept rel) (s : Store) (agentId entryId reason : String)
    (nowMs : Int)
    : Store.Evolves rel (fun _ => False) s
        (s.maybeQuarantineAfterFailure agentId entryId reason nowMs).1 := by
  have hupsert : ∀ (s : Store) (entryId : Option String), Store.Evolves rel (fun _ => False) s
      ((s.upsertQuarantine agentId entryId reason nowMs).andThen fun later _ => (later, .ok ())).1 := by
    intro s entryId
    apply evolves_andThen h
    . exact evolves_upsertQuarantine h _ _ _ _
    . intro middle _
      exact evolves_refl h middle
  unfold Store.maybeQuarantineAfterFailure
  apply evolves_andThen h
  . split
    . exact hupsert s (some entryId)
    . exact evolves_refl h s
  . intro middle _
    split
    . exact hupsert middle none
    . exact evolves_refl h middle

end

section

variable {rel : CronRun → CronRun → Prop} (h : IsKept rel) {s : Store}
include h

variable {runId reason workerJobId : String} {nowMs attempt : Int}

theorem evolves_workerEnqueued
    (hdirect : ∀ run run', Direct s (.workerEnqueued runId attempt workerJobId nowMs) run run'
      → rel run run')
    : Store.Evolves rel (fun _ => False) s
        (s.markCronRunWorkerEnqueued runId attempt workerJobId nowMs).1 := by
  unfold Store.markCronRunWorkerEnqueued
  apply evolves_andThen h
  . apply evolves_updateRuns h.refl
    . intro run
      rfl
    . intro run _ hhits
      simp only [Bool.and_eq_true, Bool.or_eq_true, decide_eq_true_eq] at hhits
      apply hdirect
      exact .workerEnqueued hhits.1.1 hhits.1.2 hhits.2
  . intro middle _
    exact evolves_refl h middle

theorem evolves_runtimeEnqueued {runtimeQueueId : String} (hdirect : ∀ run run',
      Direct s (.runtimeEnqueued runId attempt workerJobId runtimeQueueId nowMs) run run'
        → rel run run')
    : Store.Evolves rel (fun _ => False) s
        (s.markCronRunRuntimeEnqueued runId attempt workerJobId runtimeQueueId nowMs).1 := by
  unfold Store.markCronRunRuntimeEnqueued
  apply evolves_andThen h
  . apply evolves_updateRuns h.refl
    . intro run
      rfl
    . intro run _ hhits
      simp only [Bool.and_eq_true, decide_eq_true_eq] at hhits
      apply hdirect
      exact .runtimeEnqueued hhits.1.1.1 hhits.1.1.2 hhits.1.2 hhits.2
  . intro middle _
    exact evolves_refl h middle

theorem evolves_workerStatus {status : String}
    (hdirect : ∀ run run', Direct s (.workerStatus runId attempt workerJobId status reason nowMs)
      run run' → rel run run')
    : Store.Evolves rel (fun _ => False) s
        (s.markCronRunWorkerStatus runId attempt workerJobId status reason nowMs).1 := by
  unfold Store.markCronRunWorkerStatus
  dsimp only
  split
  . exact evolves_refl h s
  . apply evolves_andThen h
    . apply evolves_updateRuns h.refl
      . intro run
        rfl
      . intro run _ hhits
        simp only [Bool.and_eq_true, decide_eq_true_eq] at hhits
        apply hdirect
        exact .workerStatus hhits.1.1.1 hhits.1.1.2 hhits.1.2 hhits.2 _ _
    . intro middle _
      split
      . apply evolves_andThen h
        . exact evolves_maybeQuarantine h _ _ _ _ _
        . intro last _
          exact evolves_refl h last
      . exact evolves_refl h middle

theorem evolves_expireUnlinked {updatedBeforeMs : Int}
    (hdirect : ∀ run run', Direct s (.expireUnlinked runId attempt updatedBeforeMs reason nowMs)
      run run' → rel run run')
    : Store.Evolves rel (fun _ => False) s
        (s.expireUnlinkedAdmittedCronRun runId attempt updatedBeforeMs reason nowMs).1 := by
  unfold Store.expireUnlinkedAdmittedCronRun
  apply evolves_andThen h
  . apply evolves_updateRuns h.refl
    . intro run
      rfl
    . intro run _ hhits
      simp only [Store.isUnlinkedAdmitted, Bool.and_eq_true, decide_eq_true_eq] at hhits
      apply hdirect
      exact .expireUnlinked hhits.1.1.1.1 hhits.1.1.1.2 hhits.1.1.2
  . intro middle _
    exact evolves_refl h middle

theorem evolves_blockUnlinked {updatedBeforeMs : Int}
    (hdirect : ∀ run run', Direct s (.blockUnlinked runId attempt updatedBeforeMs reason nowMs)
      run run' → rel run run')
    : Store.Evolves rel (fun _ => False) s
        (s.blockUnlinkedAdmittedCronRun runId attempt updatedBeforeMs reason nowMs).1 := by
  unfold Store.blockUnlinkedAdmittedCronRun
  apply evolves_andThen h
  . apply evolves_updateRuns h.refl
    . intro run
      rfl
    . intro run _ hhits
      simp only [Store.isUnlinkedAdmitted, Bool.and_eq_true, decide_eq_true_eq] at hhits
      apply hdirect
      exact .blockUnlinked hhits.1.1.1.1 hhits.1.1.1.2 hhits.1.1.2
  . intro middle _
    exact evolves_refl h middle

theorem evolves_blockLinked
    (hdirect : ∀ run run', Direct s (.blockLinked runId attempt workerJobId reason nowMs) run run'
      → rel run run')
    : Store.Evolves rel (fun _ => False) s
        (s.blockLinkedCronRunIdentity runId attempt workerJobId reason nowMs).1 := by
  unfold Store.blockLinkedCronRunIdentity
  apply evolves_andThen h
  . apply evolves_updateRuns h.refl
    . intro run
      rfl
    . intro run _ hhits
      simp only [Bool.and_eq_true, decide_eq_true_eq] at hhits
      apply hdirect
      exact .blockLinked hhits.1.1.1 hhits.1.1.2 hhits.2
  . intro middle _
    exact evolves_refl h middle

theorem evolves_runtimeStatus {runtimeQueueId status : String}
    (hdirect : ∀ run run', Direct s (.runtimeStatus runtimeQueueId status reason nowMs) run run'
      → rel run run')
    : Store.Evolves rel (fun _ => False) s
        (s.markCronRunRuntimeStatusByQueueId runtimeQueueId status reason nowMs).1 := by
  unfold Store.markCronRunRuntimeStatusByQueueId
  split
  . exact evolves_refl h s
  . apply evolves_andThen h
    . apply evolves_updateRuns h.refl
      . intro run
        rfl
      . intro run _ hhits
        simp only [Bool.and_eq_true, decide_eq_true_eq] at hhits
        apply hdirect
        exact .runtimeStatus hhits.1.2 hhits.2 _ _
    . intro middle _
      split
      . exact evolves_maybeQuarantine h _ _ _ _ _
      . exact evolves_refl h middle

theorem evolves_linkRuntimeQueue {runtimeQueueId : String}
    (hlink : ∀ run ∈ s.runs.rows, run.runId = runId → run.runtimeQueueId = none →
      run.status ∈ [.admitted, .workerEnqueued] → rel run { run with
        status := .runtimeEnqueued, runtimeQueueId := some runtimeQueueId, updatedAtMs := nowMs })
    : Store.Evolves rel (fun _ => False) s (s.linkRuntimeQueue runId runtimeQueueId nowMs).1 := by
  apply evolves_updateRuns h.refl
  . intro run
    rfl
  . intro run hrun hhits
    simp only [Bool.and_eq_true, decide_eq_true_eq] at hhits
    exact hlink run hrun hhits.1.1 hhits.1.2 hhits.2

theorem evolves_runtimeDispatch {runtimeQueueId : String}
    (hdirect : ∀ run run', Direct s (.runtimeDispatch runId runtimeQueueId nowMs) run run'
      → rel run run')
    : Store.Evolves rel (fun _ => False) s
        (s.cronRunRuntimeDispatchBlocker runId runtimeQueueId nowMs).1 := by
  unfold Store.cronRunRuntimeDispatchBlocker
  split
  . exact evolves_refl h s
  . next found hfound =>
    split
    . exact evolves_refl h s
    . next hblocker =>
      split
      . split
        . exact evolves_refl h s
        . exact evolves_refl h s
      . next hqueue =>
        split
        . apply evolves_andThen h
          . apply evolves_linkRuntimeQueue h
            intro run hrun hid _ hactive
            have hsame : run = found := Table.eq_of_key hrun (Table.mem_of_find hfound).1 hid
            subst hsame
            apply hdirect
            exact .runtimeDispatch hfound hblocker hqueue hactive
          . intro middle _
            exact evolves_refl h middle
        . exact evolves_refl h s

theorem evolves_retry {workers : WorkerJobs} {options : CronRunControlOptions}
    (haction : options.action = .retry) (hrun : options.runId = some runId)
    (hdirect : ∀ run run', Direct s (.control workers options) run run' → rel run run')
    : Store.Evolves rel (fun _ => False) s
        (s.retryCronRun workers runId options.reason options.nowMs).1 := by
  unfold Store.retryCronRun
  split
  . exact evolves_refl h s
  . next found _ =>
    dsimp only
    -- both the run without a worker and the one whose worker has stopped are retried
    have hretry : ∀ next : Store → Nat → Outcome Store (Nat × List String),
        (∀ middle rows, (next middle rows).1 = middle)
        → Store.Evolves rel (fun _ => False) s
          ((s.updateRuns (fun run => run.runId = runId && run.attempt = found.attempt)
            (fun run => { run with
              status := .retryPending, runtimeQueueId := none, workerJobId := none,
              startedAtMs := none, leaseExpiresAtMs := none, finishedAtMs := none,
              failureReason := some options.reason, attempt := run.attempt + 1,
              updatedAtMs := options.nowMs })).andThen next).1 := by
      intro next hnext
      apply evolves_andThen h
      . apply evolves_updateRuns h.refl
        . intro run
          rfl
        . intro run _ hhits
          simp only [Bool.and_eq_true, decide_eq_true_eq] at hhits
          apply hdirect
          apply Direct.retry haction
          rw [hrun, hhits.1]
      . intro middle rows
        rw [hnext middle rows]
        exact evolves_refl h middle
    split
    . apply hretry
      intro middle rows
      rfl
    . split
      . exact evolves_refl h s
      . exact evolves_refl h s
      . exact evolves_refl h s
      . apply hretry
        intro middle rows
        rfl

theorem evolves_control {workers : WorkerJobs} {options : CronRunControlOptions}
    (hdirect : ∀ run run', Direct s (.control workers options) run run' → rel run run')
    : Store.Evolves rel (fun _ => False) s (s.controlCronRun workers options).1 := by
  have hcounted : ∀ outcome : Outcome Store Nat, Store.Evolves rel (fun _ => False) s outcome.1
      → Store.Evolves rel (fun _ => False) s
        (outcome.andThen fun later affected =>
          ((later, .ok (affected, [])) : Outcome Store (Nat × List String))).1 := by
    intro outcome houtcome
    apply evolves_andThen h houtcome
    intro middle _
    exact evolves_refl h middle
  unfold Store.controlCronRun
  apply evolves_andThen h
  . split
    . next haction =>
      split
      . exact evolves_refl h s
      . next runId hrun =>
        apply hcounted
        apply evolves_updateRuns h.refl
        . intro run
          rfl
        . intro run _ hhits
          simp only [Bool.and_eq_true, decide_eq_true_eq] at hhits
          apply hdirect
          apply Direct.skip haction
          rw [hrun, hhits.1]
    . next haction =>
      split
      . exact evolves_refl h s
      . next runId hrun => exact evolves_retry h haction hrun hdirect
    . split
      . apply hcounted
        unfold Store.quarantineByRunId
        split
        . exact evolves_refl h s
        . exact evolves_upsertQuarantine h _ _ _ _
      . apply hcounted
        exact evolves_upsertQuarantine h _ _ _ _
      . exact evolves_refl h s
    . split
      . apply hcounted
        exact evolves_of_runs h (Store.runs_unquarantineByRunId s _ _)
      . apply hcounted
        exact evolves_of_runs h (Store.runs_updateQuarantines s _ _)
      . exact evolves_refl h s
  . intro middle _
    exact evolves_refl h middle

theorem evolves_admitRun (options : CronRunAdmitOptions)
    : Store.Evolves rel (fun run => run = options.run) s (s.admitCronRun options).1 := by
  unfold Store.admitCronRun
  split
  . exact Table.Evolves.refl h.refl s.runs
  . split
    . exact Table.Evolves.refl h.refl s.runs
    . next runs hinsert => exact Table.evolves_insert h.refl rfl hinsert

end

def Call.adds (self : Call) (run : CronRun) : Prop :=
  ∃ options, self = .admitRun options ∧ run = options.run

theorem evolves_exec {rel : CronRun → CronRun → Prop} (h : IsKept rel) {s : Store} {call : Call}
    (hdirect : ∀ run run', Direct s call run run' → rel run run')
    : Store.Evolves rel call.adds s (s.exec call) := by
  have hkept : ∀ later, Store.Evolves rel (fun _ => False) s later
      → Store.Evolves rel call.adds s later := by
    intro later hlater
    apply Table.Evolves.mono hlater
    . intro run _ run' hrel
      exact hrel
    . intro run hrun
      exact hrun.elim
  cases call with
  | admitRun options =>
    apply Table.Evolves.mono (evolves_admitRun h options)
    . intro run _ run' hrel
      exact hrel
    . intro run hrun
      exact ⟨options, rfl, hrun⟩
  | workerEnqueued => exact hkept _ (evolves_workerEnqueued h hdirect)
  | runtimeEnqueued => exact hkept _ (evolves_runtimeEnqueued h hdirect)
  | workerStatus => exact hkept _ (evolves_workerStatus h hdirect)
  | expireUnlinked => exact hkept _ (evolves_expireUnlinked h hdirect)
  | blockUnlinked => exact hkept _ (evolves_blockUnlinked h hdirect)
  | blockLinked => exact hkept _ (evolves_blockLinked h hdirect)
  | runtimeStatus => exact hkept _ (evolves_runtimeStatus h hdirect)
  | runtimeDispatch => exact hkept _ (evolves_runtimeDispatch h hdirect)
  | control => exact hkept _ (evolves_control h hdirect)

end CronRuns

/-!
The status of a settled run is final for every operation except the two controls of the operator
that name the run.
-/

namespace CronRuns

theorem mem_activeStatuses (status : CronRunStatus)
    : status ∈ activeStatuses ↔ status.isActive = true := by
  cases status <;> decide

theorem mem_settledStatuses (status : CronRunStatus)
    : status ∈ settledStatuses ↔ status.isActive = false := by
  cases status <;> decide

def Call.reopens (self : Call) (runId : String) : Prop :=
  match self with
  | .control _ options => options.action ∈ [.skip, .retry] ∧ options.runId = some runId
  | _ => False

def KeepsStatus (runId : String) (run run' : CronRun) : Prop :=
  run'.runId = run.runId
    ∧ (run.runId = runId → run.status.isActive = false → run'.status = run.status)

theorem isKept_keepsStatus (runId : String) : IsKept (KeepsStatus runId) where
  refl run := ⟨rfl, fun _ _ => rfl⟩
  trans run run' run'' h h' := by
    refine ⟨h'.1.trans h.1, ?_⟩
    intro hid hsettled
    have hstatus := h.2 hid hsettled
    rw [h'.2 (h.1.trans hid) (hstatus ▸ hsettled), hstatus]
  quarantine run reason nowMs hactive := by
    refine ⟨rfl, ?_⟩
    intro _ hsettled
    simp [(mem_activeStatuses run.status).mp hactive] at hsettled

theorem keepsStatus_of_direct {s : Store} {call : Call} {runId : String} {run run' : CronRun}
    (hcall : ¬call.reopens runId) (h : Direct s call run run')
    : KeepsStatus runId run run' := by
  -- each WHERE clause of the others asks for an active status
  have hactive : ∀ run' : CronRun, run'.runId = run.runId → run.status.isActive = true
      → KeepsStatus runId run run' := by
    intro run' hid hactive
    refine ⟨hid, ?_⟩
    intro _ hsettled
    simp [hactive] at hsettled
  have hopen : run.status ∉ settledStatuses → run.status.isActive = true := by
    rw [mem_settledStatuses]
    simp
  cases h with
  | workerEnqueued _ _ hstatus =>
    refine hactive _ rfl ?_
    rcases hstatus with ⟨hstatus, _⟩ | ⟨hstatus, _⟩
    . revert hstatus
      cases run.status <;> simp [CronRunStatus.isActive]
    . rw [hstatus]
      rfl
  | runtimeEnqueued _ _ _ hstatus =>
    refine hactive _ rfl ?_
    revert hstatus
    cases run.status <;> simp [CronRunStatus.isActive]
  | workerStatus _ _ _ hstatus => exact hactive _ rfl (hopen hstatus)
  | expireUnlinked _ _ hstatus =>
    refine hactive _ rfl ?_
    rw [hstatus]
    rfl
  | blockUnlinked _ _ hstatus =>
    refine hactive _ rfl ?_
    rw [hstatus]
    rfl
  | blockLinked _ _ hstatus => exact hactive _ rfl ((mem_activeStatuses _).mp hstatus)
  | runtimeStatus _ hstatus => exact hactive _ rfl (hopen hstatus)
  | runtimeDispatch _ _ _ hstatus =>
    refine hactive _ rfl ?_
    revert hstatus
    cases run.status <;> simp [CronRunStatus.isActive]
  | skip haction hid =>
    refine ⟨rfl, ?_⟩
    intro hrun
    apply absurd _ hcall
    simp [Call.reopens, haction, hid, hrun]
  | retry haction hid =>
    refine ⟨rfl, ?_⟩
    intro hrun
    apply absurd _ hcall
    simp [Call.reopens, haction, hid, hrun]

namespace Store

variable {s : Store}

theorem findRunById_of_mem {run : CronRun} (h : run ∈ s.runs.rows)
    : s.findRunById run.runId = some run :=
  Table.find_of_mem h

theorem findRunById_spec {runId : String} {run : CronRun} (h : s.findRunById runId = some run)
    : run ∈ s.runs.rows ∧ run.runId = runId :=
  Table.mem_of_find h

theorem Evolves.find {rel : CronRun → CronRun → Prop} {fresh : CronRun → Prop} {later : Store}
    (h : Store.Evolves rel fresh s later) {runId : String} {run : CronRun}
    (hrun : s.findRunById runId = some run)
    : ∃ run', later.findRunById runId = some run' ∧ rel run run' := by
  have ⟨hmem, hid⟩ := findRunById_spec hrun
  have ⟨run', hmem', hkey, hrel⟩ := h.kept run hmem
  refine ⟨run', ?_, hrel⟩
  have hsame : run'.runId = runId := hkey.trans hid
  rw [← hsame]
  exact findRunById_of_mem hmem'

end Store

theorem terminal_status_is_final (s : Store) (calls : List Call) {run : CronRun}
    (hrun : s.findRunById run.runId = some run) (hterminal : run.status.isActive = false)
    (hcalls : ∀ call ∈ calls, ¬call.reopens run.runId)
    : ∃ run', (Run.exec Store.exec s calls).findRunById run.runId = some run'
        ∧ run'.status = run.status := by
  have hguard : Run.Guarded Store.exec (fun _ call => ¬call.reopens run.runId) s calls :=
    Run.guarded_of_forall (fun call hcall _ => hcalls call hcall) s
  refine Run.exec_invariant_of_guarded (fun later => ∃ run',
    later.findRunById run.runId = some run' ∧ run'.status = run.status) ?_ ⟨run, hrun, rfl⟩ hguard
  rintro later call ⟨run', hrun', hstatus⟩ hcall
  have hevolves : Store.Evolves (KeepsStatus run.runId) call.adds later (later.exec call) :=
    evolves_exec (isKept_keepsStatus run.runId) fun _ _ => keepsStatus_of_direct hcall
  have ⟨run'', hrun'', hkeeps⟩ := hevolves.find hrun'
  refine ⟨run'', hrun'', ?_⟩
  rw [hkeeps.2 (Store.findRunById_spec hrun').2 (hstatus ▸ hterminal), hstatus]

def sampleAdmission : CronRunAdmitOptions where
  sourceKind := "harness"
  sourceId := "main"
  entryId := "daily"
  agentId := "main"
  scheduledForMs := 100
  runtimeClass := "cron"
  sessionKey := "cron:daily"
  sessionPolicy := "isolated"
  maxAttempts := 3
  nowMs := 100

def sampleRunId : String := "cronrun:harness:main:daily:100"

def expiredSample : CronRun :=
  { sampleAdmission.run with
    status := .expired, failureReason := some "stale", finishedAtMs := some 900, updatedAtMs := 900 }

def expiredStore : Store :=
  Run.exec Store.exec Store.empty
    [.admitRun sampleAdmission, .expireUnlinked sampleRunId 0 500 "stale" 900]

def lateCalls : List Call :=
  [.workerEnqueued sampleRunId 0 "job" 910,
    .workerStatus sampleRunId 0 "job" "succeeded" "done" 920,
    .control (fun _ => .ok none) ⟨.quarantine, some sampleRunId, none, none, "hold", 930⟩]

theorem expiredSample_stays_expired
    : ∃ run', (Run.exec Store.exec expiredStore lateCalls).findRunById sampleRunId = some run'
        ∧ run'.status = .expired := by
  have hid : expiredSample.runId = sampleRunId := by decide +kernel
  have hcalls : ∀ call ∈ lateCalls, ¬call.reopens expiredSample.runId := by
    simp [lateCalls, Call.reopens]
  rw [← hid]
  exact terminal_status_is_final expiredStore lateCalls (by decide +kernel) rfl hcalls

def Call.retries (self : Call) (runId : String) : Prop :=
  match self with
  | .control _ options => options.action = .retry ∧ options.runId = some runId
  | _ => False

def KeepsAttempt (calls : List Call) (run run' : CronRun) : Prop :=
  run'.runId = run.runId ∧ run'.slot = run.slot ∧ run.attempt ≤ run'.attempt
    ∧ ((∀ call ∈ calls, ¬call.retries run.runId) → run'.attempt = run.attempt)

theorem isKept_keepsAttempt (calls : List Call) : IsKept (KeepsAttempt calls) where
  refl _ := ⟨rfl, rfl, Int.le_refl _, fun _ => rfl⟩
  trans _ _ _ h h' := by grind [KeepsAttempt]
  quarantine _ _ _ _ := ⟨rfl, rfl, Int.le_refl _, fun _ => rfl⟩

theorem keepsAttempt_of_direct {s : Store} {calls : List Call} {call : Call} {run run' : CronRun}
    (hmem : call ∈ calls) (h : Direct s call run run')
    : KeepsAttempt calls run run' := by
  cases h with
  | retry haction hid =>
    refine ⟨rfl, rfl, Int.le_add_one (Int.le_refl _), ?_⟩
    intro hcalls
    exact absurd ⟨haction, hid⟩ (hcalls _ hmem)
  | _ => exact ⟨rfl, rfl, Int.le_refl _, fun _ => rfl⟩

/-
No call loses a run or moves it to another slot, and only a Retry that names the run raises its attempt.
-/
theorem runs_are_kept (s : Store) (calls : List Call)
    : Store.Evolves (KeepsAttempt calls) (fun run => 0 ≤ run.attempt) s
        (Run.exec Store.exec s calls) := by
  have hguard : Run.Guarded Store.exec (fun _ call => call ∈ calls) s calls :=
    Run.guarded_of_forall (fun _ hcall _ => hcall) s
  refine Run.exec_invariant_of_guarded (Store.Evolves (KeepsAttempt calls) (0 ≤ ·.attempt) s)
    ?_ (Table.Evolves.refl (isKept_keepsAttempt calls).refl _) hguard
  intro later call hlater hcall
  apply Table.Evolves.trans hlater _ (isKept_keepsAttempt calls).trans
  . intro run run' hrun hkeeps
    exact Int.le_trans hrun hkeeps.2.2.1
  . apply Table.Evolves.mono (evolves_exec (isKept_keepsAttempt calls) fun _ _ =>
      keepsAttempt_of_direct hcall)
    . intro run _ run' hkeeps
      exact hkeeps
    . rintro run ⟨options, _, rfl⟩
      exact Int.le_refl 0

end CronRuns
