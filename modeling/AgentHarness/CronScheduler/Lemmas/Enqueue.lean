import AgentHarness.CronScheduler.Lemmas.Receipts

/-!
The jobs that a tick enqueues. A job that was inserted is counted unless the entry fails after the insert;
what the limit is good for then depends on what comes behind the failure.
-/

namespace CronScheduler

open CronRuns (Slot CronRun CronRunAdmitOptions)

def CronPayload.slot (self : CronPayload) : Slot :=
  (self.sourceKind, self.sourceId, self.entryId, self.scheduledForMs)

def WorkerJob.IsKeyed (self : WorkerJob) : Prop :=
  ∃ attempt, self.payload.cronRunAttempt = some attempt
    ∧ self.idempotencyKey = schedulerIdempotencyKey self.payload.slot attempt

def Tick.ledger (self : Tick) : Table jobsTable × Nat :=
  (self.world.jobs, self.enqueued)

theorem ignoresRuns_ledger : IgnoresRuns Tick.ledger := fun _ _ => rfl

/-
What a step does to the jobs and to their count. A job stays uncounted only if the step ends in one of the
given failures.
-/
def Spends {α : Type} (uncounted : Failure → Prop) (tick : Tick) (outcome : Except Failure α × Tick)
    : Prop :=
  outcome.2.ledger = tick.ledger
    ∨ ∃ job : WorkerJob, job.IsKeyed
      ∧ tick.world.jobs.insert job = some outcome.2.world.jobs
      ∧ (outcome.2.enqueued = tick.enqueued + 1
        ∨ (outcome.2.enqueued = tick.enqueued ∧ ∃ failure, outcome.1 = .error failure ∧ uncounted failure))

theorem Spends.of_ledger {α : Type} {uncounted : Failure → Prop} {tick tick' : Tick}
    {outcome : Except Failure α × Tick} (h : tick'.ledger = tick.ledger) (h' : Spends uncounted tick' outcome)
    : Spends uncounted tick outcome := by
  simp only [Spends, Tick.ledger, Prod.mk.injEq] at h h' ⊢
  rw [h.1, h.2] at h'
  exact h'

section Enqueue

variable {faults : Faults} {nowMs : Int} {tick : Tick}

theorem exec_enqueueWorkerJob (job : WorkerJob)
    : (∃ result, Faulty.exec (enqueueWorkerJob faults job) tick = (result, tick)
        ∧ ∀ report, result = .ok report →
          report.inserted = false ∧ tick.world.findJobByIdempotency job.idempotencyKey ≠ none)
      ∨ ∃ jobs, tick.world.findJobByIdempotency job.idempotencyKey = none
        ∧ tick.world.jobs.insert job = some jobs
        ∧ Faulty.exec (enqueueWorkerJob faults job) tick
          = (match faults .lifecycle with
              | some failure => .error failure
              | none => .ok { job, inserted := true },
            { tick with world := { tick.world with jobs } }) := by
  unfold enqueueWorkerJob
  cases henqueue : faults .enqueue with
  | some failure =>
    left
    refine ⟨.error failure, ?_, by simp⟩
    exact Faulty.exec_bind_error (exec_perform_of_fault henqueue _ _)
  | none =>
    cases hfind : tick.world.findJobByIdempotency job.idempotencyKey with
    | some existing =>
      left
      have hperform : Faulty.exec (perform faults .enqueue (·.insertWorkerJob job)) tick
          = (.ok { job := existing, inserted := false }, tick) := by
        apply exec_perform_of_ok henqueue
        rw [World.insertWorkerJob, hfind]
      rw [Faulty.exec_bind_ok hperform]
      cases hlifecycle : faults .lifecycle with
      | some failure =>
        refine ⟨.error failure, ?_, by simp⟩
        exact Faulty.exec_bind_error (exec_perform_of_fault hlifecycle _ _)
      | none =>
        refine ⟨.ok { job := existing, inserted := false }, ?_, by simp⟩
        exact Faulty.exec_bind_ok (exec_query hlifecycle _ _)
    | none =>
      cases hinsert : tick.world.jobs.insert job with
      | none =>
        left
        refine ⟨.error (.error CronRuns.constraintFailed), ?_, by simp⟩
        apply Faulty.exec_bind_error
        apply exec_perform_of_error henqueue
        rw [World.insertWorkerJob, hfind]
        dsimp only
        rw [hinsert]
      | some jobs =>
        right
        refine ⟨jobs, rfl, rfl, ?_⟩
        have hperform : Faulty.exec (perform faults .enqueue (·.insertWorkerJob job)) tick
            = (.ok { job, inserted := true }, { tick with world := { tick.world with jobs } }) := by
          apply exec_perform_of_ok henqueue
          rw [World.insertWorkerJob, hfind]
          dsimp only
          rw [hinsert]
        rw [Faulty.exec_bind_ok hperform]
        cases hlifecycle : faults .lifecycle with
        | some failure => exact Faulty.exec_bind_error (exec_perform_of_fault hlifecycle _ _)
        | none => exact Faulty.exec_bind_ok (exec_query hlifecycle _ _)

theorem exec_compensated (run : CronRun) (e : IoError)
    : let outcome := Faulty.exec (do
        compensateCronWorkerEnqueueError faults nowMs run e
        throw (.error e) : Step WorkerEnqueueReport) tick
      outcome.2.ledger = tick.ledger ∧ ∃ failure, outcome.1 = .error failure := by
  constructor
  . apply Faulty.Keeps.bind
    . exact keeps_compensate ignoresRuns_ledger _ _ _ _
    . intro _
      exact Faulty.Keeps.throw _
  . rw [Faulty.exec_bind]
    split
    . exact ⟨_, rfl⟩
    . exact ⟨_, rfl⟩

theorem exec_enqueueOrCompensate_eq (run : CronRun) (job : WorkerJob)
    : Faulty.exec (enqueueOrCompensate faults nowMs run job) tick
        = match Faulty.exec (enqueueWorkerJob faults job) tick with
          | (.error (.error e), later) => Faulty.exec (do
              compensateCronWorkerEnqueueError faults nowMs run e
              throw (.error e) : Step WorkerEnqueueReport) later
          | result => result := rfl

theorem exec_enqueueOrCompensate (run : CronRun) (job : WorkerJob)
    : let outcome := Faulty.exec (enqueueOrCompensate faults nowMs run job) tick
      (outcome.2.ledger = tick.ledger ∧ ∀ report, outcome.1 = .ok report →
        report.inserted = false ∧ tick.world.findJobByIdempotency job.idempotencyKey ≠ none)
      ∨ (tick.world.findJobByIdempotency job.idempotencyKey = none
        ∧ tick.world.jobs.insert job = some outcome.2.world.jobs
        ∧ outcome.2.enqueued = tick.enqueued
        ∧ ((outcome.1 = .ok { job, inserted := true } ∧ outcome.2.world.runs = tick.world.runs)
          ∨ ∃ failure, outcome.1 = .error failure
            ∧ (failure = .crash ∨ ∃ e, faults .lifecycle = some (.error e)))) := by
  intro outcome
  unfold outcome
  rw [exec_enqueueOrCompensate_eq]
  cases @exec_enqueueWorkerJob faults tick job with
  | inl hnothing =>
    left
    obtain ⟨result, heq, hinserted⟩ := hnothing
    rw [heq]
    split
    . next e later hresult =>
      injection hresult with _ htick
      have hcompensated := @exec_compensated faults nowMs later run e
      rw [← htick] at hcompensated ⊢
      refine ⟨hcompensated.1, ?_⟩
      obtain ⟨failure, hfailure⟩ := hcompensated.2
      simp [hfailure]
    . exact ⟨rfl, hinserted⟩
  | inr hinsert =>
    right
    obtain ⟨jobs, hfind, hinsert, heq⟩ := hinsert
    rw [heq]
    cases hlifecycle : faults .lifecycle with
    | none => exact ⟨hfind, hinsert, rfl, .inl ⟨rfl, rfl⟩⟩
    | some failure =>
      cases failure with
      | crash => exact ⟨hfind, hinsert, rfl, .inr ⟨.crash, rfl, .inl rfl⟩⟩
      | error e =>
        have hcompensated := @exec_compensated faults nowMs { tick with world := { tick.world with jobs } }
          run e
        obtain ⟨hledger, failure, hfailure⟩ := hcompensated
        simp only [Tick.ledger, Prod.mk.injEq] at hledger
        refine ⟨hfind, ?_, hledger.2, .inr ⟨failure, hfailure, .inr ⟨e, rfl⟩⟩⟩
        rw [hledger.1]
        exact hinsert

end Enqueue

structure CountsInsert (uncounted : Failure → Prop) (faults : Faults) (nowMs : Int) (run : CronRun)
    (job : WorkerJob) (runs : CronRuns.Store)
    : Prop where
  crash : uncounted .crash
  lifecycle : ∀ e failure, faults .lifecycle = some (.error e) → uncounted failure
  watermark : ∀ failure, faults .insertWatermark = some failure → uncounted failure
  link : ∀ tick failure, tick.world.runs = runs
    → (Faulty.exec (validateAndLinkCronWorker faults nowMs run job) tick).1 = .error failure
    → uncounted failure

def CountsAdmission (uncounted : Failure → Prop) (faults : Faults) (nowMs : Int)
    (admission : CronRunAdmitOptions) (job : CronRun → String → WorkerJob) (runs : CronRuns.Store)
    (jobs : Table jobsTable)
    : Prop :=
  ∀ run later, runs.admitCronRun admission = (later, .ok run)
    → (∀ existing ∈ jobs.rows,
        existing.idempotencyKey ≠ schedulerIdempotencyKey admission.slot run.attempt)
    → CountsInsert uncounted faults nowMs run (job run (schedulerIdempotencyKey admission.slot run.attempt))
        later

theorem keeps_insertWatermark (faults : Faults) (watermark : Watermark)
    : Faulty.Keeps Tick.ledger (perform faults .insertWatermark (·.insertWatermark watermark)) := by
  apply keeps_perform
  intro tick
  unfold World.insertWatermark
  split
  . rfl
  . rfl

theorem exec_insertWatermark_error {faults : Faults} {watermark : Watermark} {tick later : Tick}
    {failure : Failure}
    (h : Faulty.exec (perform faults .insertWatermark (·.insertWatermark watermark)) tick
      = (.error failure, later))
    : faults .insertWatermark = some failure := by
  cases hfault : faults .insertWatermark with
  | some failure' =>
    rw [exec_perform_of_fault hfault] at h
    injection h with h
    injection h with h
    rw [h]
  | none =>
    exfalso
    unfold Faulty.exec perform World.insertWatermark at h
    simp only [hfault] at h
    split at h
    . injection h with h
      cases h
    . next heq =>
      split at heq
      . injection heq with _ heq
        cases heq
      . injection heq with _ heq
        cases heq

theorem exec_linkAndCount {uncounted : Failure → Prop} {faults : Faults} {nowMs : Int}
    {admission : CronRunAdmitOptions} {catchUp : Option CronSchedulerCatchUpDecision} {run : CronRun}
    {report : WorkerEnqueueReport} {tick : Tick}
    (hwatermark : ∀ failure, faults .insertWatermark = some failure → uncounted failure)
    (hlink : ∀ failure, (Faulty.exec (validateAndLinkCronWorker faults nowMs run report.job) tick).1
      = .error failure → uncounted failure)
    : let outcome := Faulty.exec (linkAndCount faults nowMs admission catchUp run report) tick
      outcome.2.world.jobs = tick.world.jobs
      ∧ (outcome.2.enqueued = (if report.inserted then tick.enqueued + 1 else tick.enqueued)
        ∨ (outcome.2.enqueued = tick.enqueued ∧ ∃ failure, outcome.1 = .error failure ∧ uncounted failure)) := by
  intro outcome
  unfold outcome linkAndCount
  have hkeeps := keeps_validateAndLink ignoresRuns_ledger faults nowMs run report.job tick
  rw [Faulty.exec_bind]
  rcases hexec : Faulty.exec (validateAndLinkCronWorker faults nowMs run report.job) tick with ⟨result, linked⟩
  rw [hexec] at hkeeps
  simp only [Tick.ledger, Prod.mk.injEq] at hkeeps
  cases result with
  | error failure =>
    refine ⟨hkeeps.1, .inr ⟨hkeeps.2, failure, rfl, ?_⟩⟩
    apply hlink
    rw [hexec]
  | ok =>
    dsimp only
    rw [Faulty.exec_bind]
    generalize hmark : Watermark.mk admission.slot nowMs report.job.jobId _ = watermark
    have hkeeps' := keeps_insertWatermark faults watermark linked
    rcases hexec' : Faulty.exec (perform faults .insertWatermark (·.insertWatermark watermark)) linked
      with ⟨result, marked⟩
    rw [hexec'] at hkeeps'
    simp only [Tick.ledger, Prod.mk.injEq] at hkeeps'
    cases result with
    | error failure =>
      refine ⟨hkeeps'.1.trans hkeeps.1, .inr ⟨hkeeps'.2.trans hkeeps.2, failure, rfl, ?_⟩⟩
      exact hwatermark failure (exec_insertWatermark_error hexec')
    | ok =>
      dsimp only
      rw [Faulty.exec_bind_ok (Faulty.exec_modify _ _)]
      refine ⟨hkeeps'.1.trans hkeeps.1, .inl ?_⟩
      rw [← hkeeps.2, ← hkeeps'.2]
      rfl

theorem admitAndEnqueue_spends {uncounted : Failure → Prop} {faults : Faults} {nowMs : Int}
    {admission : CronRunAdmitOptions} {job : CronRun → String → WorkerJob}
    {catchUp : Option CronSchedulerCatchUpDecision} {tick : Tick}
    (hkeyed : ∀ run : CronRun, (job run (schedulerIdempotencyKey admission.slot run.attempt)).IsKeyed)
    (hkey : ∀ run key, (job run key).idempotencyKey = key)
    (hcounts : CountsAdmission uncounted faults nowMs admission job tick.world.runs tick.world.jobs)
    : Spends uncounted tick
        (Faulty.exec (admitAndEnqueue faults nowMs admission job catchUp) tick) := by
  unfold admitAndEnqueue
  rw [Faulty.exec_bind]
  have hkeeps := keeps_onRuns ignoresRuns_ledger faults .admitRun (·.admitCronRun admission) tick
  rcases hexec : Faulty.exec (perform faults .admitRun (onRuns (·.admitCronRun admission))) tick
    with ⟨result, admitted⟩
  rw [hexec] at hkeeps
  cases result with
  | error failure => exact .inl hkeeps
  | ok run =>
    have hadmit := exec_perform_inv hexec
    have hrun : tick.world.runs.admitCronRun admission = (admitted.world.runs, .ok run) := by
      injection hadmit with hworld hresult
      rw [← hworld, ← hresult]
    have hjobs : admitted.world.jobs = tick.world.jobs := congrArg Prod.fst hkeeps
    apply Spends.of_ledger hkeeps
    dsimp only
    rw [Faulty.exec_bind]
    have henqueue := @exec_enqueueOrCompensate faults nowMs admitted run
      (job run (schedulerIdempotencyKey admission.slot run.attempt))
    rcases hexec' : Faulty.exec (enqueueOrCompensate faults nowMs run
      (job run (schedulerIdempotencyKey admission.slot run.attempt))) admitted with ⟨result, enqueued⟩
    rw [hexec'] at henqueue
    rcases henqueue with ⟨hledger, hinserted⟩ | ⟨hfind, hinsert, hcount, hcases⟩
    . cases result with
      | error failure => exact .inl hledger
      | ok report =>
        apply Spends.of_ledger hledger
        have hlast := @exec_linkAndCount (fun _ => True) faults nowMs admission catchUp run report enqueued
          (fun _ _ => trivial) (fun _ _ => trivial)
        simp only [(hinserted report rfl).1, Bool.false_eq_true, if_false] at hlast
        left
        simp only [Tick.ledger, hlast.1, Prod.mk.injEq, true_and]
        exact hlast.2.elim id And.left
    . right
      refine ⟨_, hkeyed run, ?_⟩
      have hinsert' : CountsInsert uncounted faults nowMs run
          (job run (schedulerIdempotencyKey admission.slot run.attempt)) admitted.world.runs := by
        apply hcounts run admitted.world.runs hrun
        intro existing hexisting heq
        rw [World.findJobByIdempotency, hkey, hjobs, List.find?_eq_none] at hfind
        exact hfind existing hexisting (by simp [heq])
      rcases hcases with ⟨rfl, hruns⟩ | ⟨failure, rfl, hfailure⟩
      . have hlast := @exec_linkAndCount uncounted faults nowMs admission catchUp run
          { job := job run (schedulerIdempotencyKey admission.slot run.attempt), inserted := true } enqueued
          hinsert'.watermark (fun failure => hinsert'.link enqueued failure hruns)
        dsimp only at hcount hinsert hlast ⊢
        rw [if_pos rfl, hcount] at hlast
        rw [hlast.1]
        exact ⟨hinsert, hlast.2⟩
      . refine ⟨hinsert, .inr ⟨hcount, failure, rfl, ?_⟩⟩
        rcases hfailure with rfl | ⟨e, he⟩
        . exact hinsert'.crash
        . exact hinsert'.lifecycle e failure he

/-
A step of an entry that spends as said when the runs and the jobs before it are as given.
-/
def SpendsWhen (uncounted : Failure → Prop) (given : CronRuns.Store → Table jobsTable → Prop)
    (step : Step CronSchedulerJobDecision)
    : Prop :=
  ∀ tick, given tick.world.runs tick.world.jobs → Spends uncounted tick (Faulty.exec step tick)

theorem entrySpec_spends (uncounted : Failure → Prop)
    (given : CronRuns.Store → Table jobsTable → Prop)
    : EntrySpec (SpendsWhen uncounted given) where
  decided decision tick _ := .inl rfl
  failed failure tick _ := .inl rfl
  bind := by
    intro α m next hm hnext tick hgiven
    have hcore := hm tick
    rw [Faulty.exec_bind]
    rcases hexec : Faulty.exec m tick with ⟨result, later⟩
    rw [hexec] at hcore
    simp only [Tick.core, Prod.mk.injEq] at hcore
    obtain ⟨hruns, hjobs, _, _, hcount⟩ := hcore
    have hledger : later.ledger = tick.ledger := by
      simp only [Tick.ledger, hjobs, hcount]
    cases result with
    | error failure => exact .inl hledger
    | ok a =>
      apply Spends.of_ledger hledger
      apply hnext
      rw [hruns, hjobs]
      exact hgiven

theorem isKeyed_cronWorkerJob (options : CronSchedulerRunOnceOptions) (admission : CronRunAdmitOptions)
    (kind : WorkerJobKind) (lane work : String) (dryRun : Bool)
    (catchUp : Option CronSchedulerCatchUpDecision) (maxAttempts : Int) (timeoutMs : Nat) (run : CronRun)
    : (cronWorkerJob options admission kind lane work dryRun catchUp maxAttempts timeoutMs run
        (schedulerIdempotencyKey admission.slot run.attempt)).IsKeyed :=
  ⟨run.attempt, rfl, rfl⟩

theorem countsAdmission_any {faults : Faults} {nowMs : Int} {admission : CronRunAdmitOptions}
    {job : CronRun → String → WorkerJob} {runs : CronRuns.Store} {jobs : Table jobsTable}
    : CountsAdmission (fun _ => True) faults nowMs admission job runs jobs := by
  intro run later _ _
  constructor
  . trivial
  . intros
    trivial
  . intros
    trivial
  . intros
    trivial

theorem collectNativeEntry_spends_any (options : CronSchedulerRunOnceOptions)
    (config : CronSchedulerConfig) (input : NativeInput) (tick : Tick)
    : Spends (fun _ => True) tick (Faulty.exec (collectNativeEntry options config input) tick) := by
  have hspec := entrySpec_spends (fun _ => True) (fun _ _ => True)
  refine hspec.collectEntry ?_ tick trivial
  intro slot
  apply hspec.collectDueNativeEntry
  intro agentId _ tick' _
  apply admitAndEnqueue_spends
  . apply isKeyed_cronWorkerJob
  . intro run key
    rfl
  . exact countsAdmission_any

theorem collectDeterministicEntry_spends (options : CronSchedulerRunOnceOptions)
    (config : CronSchedulerConfig) (previousTickMs : Option Int) (input : DeterministicInput) (tick : Tick)
    : Spends (fun _ => True) tick
        (Faulty.exec (collectDeterministicEntry options config previousTickMs input) tick) := by
  have hspec := entrySpec_spends (fun _ => True) (fun _ _ => True)
  refine hspec.collectEntry ?_ tick trivial
  intro due
  apply hspec.collectDueDeterministicEntry
  intro tick' _
  apply admitAndEnqueue_spends
  . apply isKeyed_cronWorkerJob
  . intro run key
    rfl
  . exact countsAdmission_any

def IsLinkable (run : CronRun) (workerJobId : String) : Prop :=
  (run.status ∈ [.admitted, .retryPending] ∧ run.workerJobId = none)
    ∨ (run.status = .workerEnqueued ∧ run.workerJobId = some workerJobId)

theorem markCronRunWorkerEnqueued_ok {runs : CronRuns.Store} {run : CronRun} {workerJobId : String}
    (hrun : run ∈ runs.runs.rows) (hlinkable : IsLinkable run workerJobId) (nowMs : Int)
    : ∃ later, runs.markCronRunWorkerEnqueued run.runId run.attempt workerJobId nowMs
        = (later, .ok true) := by
  unfold CronRuns.Store.markCronRunWorkerEnqueued CronRuns.Store.updateRuns
  generalize hhits : (fun row : CronRun => row.runId = run.runId && row.attempt = run.attempt
    && ((row.status ∈ [.admitted, .retryPending] && row.workerJobId = none)
      || (row.status = .workerEnqueued && row.workerJobId = some workerJobId)) : CronRun → Bool) = hits
  have hupdate : ∃ table, runs.runs.update hits (fun row => { row with
      status := .workerEnqueued, workerJobId := some workerJobId, updatedAtMs := nowMs }) = some table := by
    apply Table.update_isSome
    . intro row
      rfl
    . intro row _ _
      rfl
    . intro row _ other _ hclash
      unfold Table.rewrite at hclash
      split at hclash
      all_goals
        split at hclash
        all_goals exact hclash
  obtain ⟨table, htable⟩ := hupdate
  have hone : runs.runs.changed hits = 1 := by
    apply Table.changed_eq_one hrun
    . rw [← hhits]
      unfold IsLinkable at hlinkable
      simpa using hlinkable
    . intro other _ hother
      rw [← hhits] at hother
      simp only [Bool.and_eq_true, decide_eq_true_eq] at hother
      exact hother.1.1
  rw [htable]
  exact ⟨{ runs with runs := table }, by simp [Outcome.andThen, hone]⟩

theorem validateAndLink_error {faults : Faults} {nowMs : Int} {run : CronRun} {job : WorkerJob}
    {tick : Tick} {failure : Failure} (hrun : run ∈ tick.world.runs.runs.rows)
    (hidentity : validateCronWorkerIdentity run job = .ok ()) (hlinkable : IsLinkable run job.jobId)
    (h : (Faulty.exec (validateAndLinkCronWorker faults nowMs run job) tick).1 = .error failure)
    : faults .link = some failure := by
  obtain ⟨later, hlater⟩ := markCronRunWorkerEnqueued_ok hrun hlinkable nowMs
  rw [validateAndLinkCronWorker, hidentity] at h
  dsimp only at h
  cases hfault : faults .link with
  | some failure' =>
    rw [Faulty.exec_bind_error (exec_perform_of_fault hfault _ _)] at h
    injection h with h
    rw [h]
  | none =>
    exfalso
    have hperform : Faulty.exec (perform faults .link (onRuns fun runs =>
        runs.markCronRunWorkerEnqueued run.runId run.attempt job.jobId nowMs)) tick
        = (.ok true, { tick with world := { tick.world with runs := later } }) := by
      apply exec_perform_of_ok hfault
      simp only [onRuns, hlater]
    rw [Faulty.exec_bind_ok hperform] at h
    cases h

end CronScheduler
