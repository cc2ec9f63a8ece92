import AgentHarness.WorkerStore.Lemmas.Calls

/-!
Terminal jobs. Every statement but one has a WHERE clause that no terminal row meets, or keeps the
status of a terminal row.
-/

namespace WorkerStore

def KeepsTerminal (row row' : WorkerJob) : Prop :=
  row.status.isTerminal → row'.status = row.status

variable {row : WorkerJob}

theorem keepsTerminal_of_open {row' : WorkerJob} (h : row.status.isTerminal = false)
    : KeepsTerminal row row' := by
  intro hterminal
  rw [h] at hterminal
  cases hterminal

theorem keepsTerminal_quarantineStoredRow (env : Env) (nowMs : Int) (row : WorkerJob)
    : KeepsTerminal row (quarantineStoredRow env nowMs row) := by
  apply quarantineStoredRow_induction env KeepsTerminal
  . intro row _
    rfl
  . intro row row' row'' h h' hterminal
    rw [h' (by rw [h hterminal]; exact hterminal), h hterminal]
  . intro nowMs row hterminal
    simp [clearChildPolicy, quarantinedRow, hterminal]
  . intro nowMs row hterminal
    simp [clearExecutionMode, quarantinedRow, hterminal]

theorem isTerminal_of_isExecuting {status : WorkerJobStatus} (h : status.isExecuting)
    : status.isTerminal = false := by
  cases status with
  | leased => rfl
  | running => rfl
  | _ => cases h

theorem isTerminal_of_isDue {status : WorkerJobStatus} (h : status.isDue)
    : status.isTerminal = false := by
  cases status with
  | pending => rfl
  | failedRetryable => rfl
  | _ => cases h

theorem isTerminal_of_isStaleLeaseOf {job : WorkerJob} {nowMs : Int} (hjob : job.status.isExecuting)
    (h : isStaleLeaseOf job nowMs row)
    : row.status.isTerminal = false := by
  simp only [isStaleLeaseOf, Bool.and_eq_true, decide_eq_true_eq] at h
  rw [h.1.1.1]
  exact isTerminal_of_isExecuting hjob

theorem isTerminal_of_isRunningLeaseOf {workerId : Option String} {attempt : Int}
    (h : isRunningLeaseOf workerId attempt row)
    : row.status.isTerminal = false := by
  simp only [isRunningLeaseOf, Bool.and_eq_true, decide_eq_true_eq] at h
  rw [h.1.1.1]
  rfl

/-
The status that the statement writes over a terminal row, when it is a persist by `job_id`.
-/
def Statement.persists (self : Statement) (row : WorkerJob) : Option WorkerJobStatus :=
  match self with
  | .persistExecutionResult job result _ =>
    if row.jobId = job.jobId then some (persistedStatus job result) else none
  | _ => none

theorem keepsTerminal_of_statement {worker : Option String} {statement : Statement}
    (hproper : (Operation.update statement).Proper worker) (hhits : statement.update.hits row)
    (hpersist : ∀ status, statement.persists row = some status → row.status.isTerminal →
      row.status = status)
    : KeepsTerminal row (statement.update.row row) := by
  have hrow : (statement.update.row row).status = (statement.update.set row).status := by
    simp [Update.row, hhits]
  unfold KeepsTerminal
  rw [hrow]
  simp only [Update.hits, Bool.and_eq_true] at hhits
  have happlies := hhits.2
  cases statement with
  | quarantineInvalidStoredChildPolicy jobId nowMs =>
    intro hterminal
    simp [Statement.update, clearChildPolicy, quarantinedRow, hterminal]
  | quarantineInvalidStoredExecutionMode jobId nowMs =>
    intro hterminal
    simp [Statement.update, clearExecutionMode, quarantinedRow, hterminal]
  | reapForRetry job nowMs =>
    exact keepsTerminal_of_open (isTerminal_of_isStaleLeaseOf hproper happlies)
  | reapExpired job nowMs =>
    exact keepsTerminal_of_open (isTerminal_of_isStaleLeaseOf hproper happlies)
  | cancelWorkerJob jobId nowMs =>
    apply keepsTerminal_of_open
    simpa [Statement.update] using happlies
  | leaseNextJob jobId workerId leaseExpires nowMs =>
    apply keepsTerminal_of_open
    simp only [Statement.update, Bool.and_eq_true] at happlies
    exact isTerminal_of_isDue happlies.1
  | persistExecutionResult job result nowMs =>
    intro hterminal
    have hid : row.jobId = job.jobId := of_decide_eq_true hhits.1
    rw [hpersist (persistedStatus job result) (by simp [Statement.persists, hid]) hterminal]
    rfl
  | persistOwnedExecutionResult job workerId result nowMs =>
    exact keepsTerminal_of_open (isTerminal_of_isRunningLeaseOf happlies)
  | setJobRunning job workerId nowMs =>
    apply keepsTerminal_of_open
    simp only [Statement.update, Bool.and_eq_true, decide_eq_true_eq] at happlies
    rw [happlies.1.1.1]
    rfl
  | renewLease jobId workerId attempt expiresAtMs nowMs =>
    exact keepsTerminal_of_open (isTerminal_of_isRunningLeaseOf happlies)
  | rescheduleWatchdog job nowMs =>
    exact keepsTerminal_of_open (isTerminal_of_isRunningLeaseOf happlies)
  | setRuntimeTerminal job workerStatus nowMs =>
    apply keepsTerminal_of_open
    simp only [Statement.update, decide_eq_true_eq] at happlies
    rw [happlies]
    rfl

section Run

variable (env : Env)

/-
When a process executes the UPDATE of `persist_execution_result`, the row with that `job_id` is not
terminal, or already has the status that the UPDATE writes.
-/
def PersistsOpenRow (workers : Workers) (action : PoolAction RenewalEvent) : Prop :=
  ∀ i job result nowMs lost won, action = .run i →
    workers.processes i = .op (.update (.persistExecutionResult job result nowMs)) lost won →
    ∀ row, workers.shared.store.findJobById job.jobId = some row → row.status.isTerminal →
      row.status = persistedStatus job result

def StaysTerminal (workers : Workers) (schedule : List (PoolAction RenewalEvent)) : Prop :=
  ∀ earlier later rest, schedule = earlier ++ later ++ rest →
    ∀ jobId row,
      (Run.exec (step env) workers earlier).shared.store.findJobById jobId = some row →
      row.status.isTerminal →
      ((Run.exec (step env) workers (earlier ++ later)).shared.store.findJobById jobId).map
        (·.status) = some row.status

theorem evolves_keepsTerminal {calls : Nat → WorkerCall} {workers : Workers}
    (hproper : ProperWorkers calls workers) {action : PoolAction RenewalEvent}
    (hguard : PersistsOpenRow workers action)
    : Evolves KeepsTerminal (fun _ => True) workers.shared.store
        (step env workers action).shared.store := by
  apply evolves_of_step env
  . intro row _
    rfl
  . intro i statement lost won haction hprocess row hrow hhits
    apply keepsTerminal_of_statement (proper_of_process hproper hprocess) hhits
    intro status hpersists hterminal
    cases statement with
    | persistExecutionResult job result nowMs =>
      simp only [Statement.persists] at hpersists
      split at hpersists
      . next hid =>
        injection hpersists with hpersists
        rw [← hpersists]
        apply hguard i job result nowMs lost won haction hprocess row _ hterminal
        rw [← hid]
        exact Store.findJobById_of_mem hrow
      . cases hpersists
    | _ => cases hpersists
  . intro jobId workerId attempt expiresAtMs nowMs row _
    unfold Update.row
    split
    . rfl
    . rfl
  . exact keepsTerminal_quarantineStoredRow env
  . intros
    exact trivial

theorem staysTerminal_of_guarded {calls : Nat → WorkerCall} {workers : Workers}
    (hproper : ProperWorkers calls workers) {schedule : List (PoolAction RenewalEvent)}
    (hguarded : Run.Guarded (step env) PersistsOpenRow workers schedule)
    : StaysTerminal env workers schedule := by
  intro earlier later rest hschedule jobId row hrow hterminal
  rw [hschedule, Run.guarded_append, Run.guarded_append] at hguarded
  have hearlier := properWorkers_exec env hproper earlier
  rw [Run.exec_append]
  have hinv : ProperWorkers calls (Run.exec (step env) (Run.exec (step env) workers earlier) later)
      ∧ ∃ row', (Run.exec (step env) (Run.exec (step env) workers earlier) later).shared.store.findJobById
          jobId = some row' ∧ row'.status = row.status := by
    apply Run.exec_invariant_of_guarded
      (fun workers => ProperWorkers calls workers
        ∧ ∃ row', workers.shared.store.findJobById jobId = some row' ∧ row'.status = row.status)
      _ ⟨hearlier, row, hrow, rfl⟩ hguarded.1.2
    intro workers action h hguard
    refine ⟨properWorkers_step env h.1 action, ?_⟩
    cases h.2 with
    | intro row' hrow' =>
      have hevolves := (evolves_keepsTerminal env h.1 hguard).kept jobId row' hrow'.1
      cases hevolves with
      | intro row'' hrow'' =>
        refine ⟨row'', hrow''.1, ?_⟩
        rw [hrow''.2 (by rw [hrow'.2]; exact hterminal), hrow'.2]
  cases hinv.2 with
  | intro row' hrow' => rw [hrow'.1, Option.map_some, hrow'.2]

theorem findJobById_persist {store store' : Store} {job row : WorkerJob} {result : WorkerJobStatus}
    {nowMs : Int} (hrow : store.findJobById job.jobId = some row)
    (h : store.execute (Statement.persistExecutionResult job result nowMs).update = some store')
    : (store'.findJobById job.jobId).map (·.status) = some (persistedStatus job result) := by
  have hid := (Store.mem_of_findJobById hrow).2
  unfold Store.execute at h
  split at h
  . injection h with h
    rw [← h]
    unfold Store.findJobById at hrow ⊢
    rw [Store.find_map store.jobs (Update.row_jobId _), hrow, Option.map_some, Option.map_some]
    simp [Update.row, Update.hits, Statement.update, persistedRow, hid]
  . cases h

theorem execute_persist_isSome {store : Store} {job row : WorkerJob} (result : WorkerJobStatus)
    (nowMs : Int) (hrow : store.findJobById job.jobId = some row)
    : ∃ store', store.execute (Statement.persistExecutionResult job result nowMs).update
        = some store' := by
  have hmem := Store.mem_of_findJobById hrow
  have hany : store.jobs.any (Statement.persistExecutionResult job result nowMs).update.hits := by
    rw [List.any_eq_true]
    refine ⟨row, hmem.1, ?_⟩
    simp [Update.hits, Statement.update, hmem.2]
  simp [Store.execute, hany]

theorem guarded_of_staysTerminal {workers : Workers} {schedule : List (PoolAction RenewalEvent)}
    (h : StaysTerminal env workers schedule)
    : Run.Guarded (step env) PersistsOpenRow workers schedule := by
  induction schedule generalizing workers with
  | nil => exact trivial
  | cons action schedule ih =>
    constructor
    . intro i job result nowMs lost won haction hprocess row hrow hterminal
      have hstep := h [] [action] schedule (by simp) job.jobId row hrow hterminal
      cases execute_persist_isSome result nowMs hrow with
      | intro store' hexecute =>
        have hstore : (step env workers action).shared.store = store' := by
          simp [step, Pool.step, haction, hprocess, Script.step, Operation.apply, hexecute]
        rw [List.nil_append, Run.exec_cons, Run.exec_nil, hstore, findJobById_persist hrow hexecute,
          Option.some.injEq] at hstep
        exact hstep.symm
    . apply ih
      intro earlier later rest hschedule jobId row hrow hterminal
      have hsplit : action :: schedule = (action :: earlier) ++ later ++ rest := by
        rw [hschedule]
        simp
      exact h (action :: earlier) later rest hsplit jobId row hrow hterminal

end Run

/-
Any number of workers, reapers and cancellations side by side: terminal jobs stay terminal exactly in
the runs in which every persist by `job_id` finds its row open or with the status it writes.
-/
theorem staysTerminal_iff (env : Env) (store : Store) (calls : Nat → WorkerCall)
    (schedule : List (PoolAction RenewalEvent))
    : StaysTerminal env (start env store calls) schedule
        ↔ Run.Guarded (step env) PersistsOpenRow (start env store calls) schedule := by
  constructor
  . exact guarded_of_staysTerminal env
  . exact staysTerminal_of_guarded env (properWorkers_start env store calls)

def sampleEnv : Env where
  childPolicyParses _ := true
  executionModeParses _ := true
  executionModeOwnerAgrees _ _ := true

def sampleConfig : WorkerDispatchConfig where
  globalConcurrencyLimit := 4
  groupConcurrencyLimit := 2
  channelConcurrencyLimit := 1
  laneConcurrencyLimits := []
  rateLeaseLimit := 0
  rateLeaseWindowMs := 60000

def sampleHarness : Harness where
  config := sampleConfig
  runtimeTerminal _ := none
  cronBlocked _ := false
  shell _ := some .succeeded
  turnQueued _ := true
  reviewDone _ := true
  coordinator _ _ := none
  wakeupJobId _ := "job:1000:master_wakeup:0"
  elapsedMs := 5

def sampleJob (kind : WorkerJobKind) (attempt : Int) : WorkerJob where
  jobId := "job-1"
  kind
  lane := "shell"
  status := .pending
  jobGroupId := some "group"
  masterAgentId := none
  masterSessionKey := none
  wakePolicy := none
  payload := []
  childPolicyJson := none
  resultOwnerJson := none
  executionModeJson := none
  idempotencyKey := "key-1"
  priority := 0
  availableAtMs := 0
  leaseOwner := none
  leaseExpiresAtMs := none
  attempt
  maxAttempts := 3
  rateKey := none
  concurrencyGroupKey := none
  createdAtMs := 0
  updatedAtMs := 0
  finishedAtMs := none

def sampleStore (job : WorkerJob) : Store where
  jobs := [job]
  rateLeases := []
  nodup := List.nodup_singleton _

def sampleRunOnce (workerId : String) (nowMs : Int) : WorkerCall :=
  .runWorkerOnce { lane := none, workerId, nowMs, leaseMs := 1000 } sampleHarness

/-
A watchdog job that was rescheduled on its last attempt. The worker has selected it as exhausted when
it is canceled, and then makes it failed-terminal.
-/
theorem canceled_job_becomes_failedTerminal
    : ¬ ∀ env store calls schedule, StaysTerminal env (start env store calls) schedule := by
  intro h
  let calls := fun process : Nat =>
    if process = 0 then sampleRunOnce "worker-1" 1000 else .cancelWorkerJob "job-1" 1001
  let selected : List (PoolAction RenewalEvent) := [.run 0, .run 0, .run 0, .run 0, .run 0]
  let canceled := { sampleJob .watchdog 3 with
    status := .canceled, updatedAtMs := 1001, finishedAtMs := some 1001 }
  have hstatus := h sampleEnv (sampleStore (sampleJob .watchdog 3)) calls
    (selected ++ [.run 1, .run 1] ++ [.run 0]) (selected ++ [.run 1, .run 1]) [.run 0] [] rfl
    "job-1" canceled (by decide +kernel) rfl
  revert hstatus
  decide +kernel

end WorkerStore

/-!
Leases of worker jobs. An attempt number is given out by one UPDATE only, which raises it and names
the owner; every other statement keeps both or clears the owner. So an attempt has one holder in a
whole run, and the WHERE clause of `persist_owned_execution_result` lets through that holder only.
-/

namespace WorkerStore

/-
How a row goes on: with a higher attempt, or with the same attempt and no other owner than before.
-/
structure Succeeds (row row' : WorkerJob) : Prop where
  maxAttempts : row'.maxAttempts = row.maxAttempts
  owner : row.attempt < row'.attempt
    ∨ (row'.attempt = row.attempt ∧ (row'.leaseOwner = row.leaseOwner ∨ row'.leaseOwner = none))
  attempt : row.attempt ≤ row.maxAttempts → row'.attempt ≤ row'.maxAttempts

namespace Succeeds

theorem of_same_attempt {row row' : WorkerJob} (hmax : row'.maxAttempts = row.maxAttempts)
    (hattempt : row'.attempt = row.attempt)
    (howner : row'.leaseOwner = row.leaseOwner ∨ row'.leaseOwner = none)
    : Succeeds row row' where
  maxAttempts := hmax
  owner := .inr ⟨hattempt, howner⟩
  attempt := by
    intro h
    rw [hattempt, hmax]
    exact h

theorem refl (row : WorkerJob) : Succeeds row row :=
  of_same_attempt rfl rfl (.inl rfl)

theorem trans {row row' row'' : WorkerJob} (h : Succeeds row row') (h' : Succeeds row' row'')
    : Succeeds row row'' where
  maxAttempts := by rw [h'.maxAttempts, h.maxAttempts]
  owner := by
    cases h.owner with
    | inl hlt =>
      left
      cases h'.owner with
      | inl hlt' => omega
      | inr hsame' => omega
    | inr hsame =>
      cases h'.owner with
      | inl hlt' =>
        left
        omega
      | inr hsame' =>
        right
        constructor
        . omega
        . cases hsame'.2 with
          | inl hkept =>
            rw [hkept]
            exact hsame.2
          | inr hcleared =>
            right
            exact hcleared
  attempt := by
    intro hrow
    apply h'.attempt
    apply h.attempt
    exact hrow

theorem owner_eq {row row' : WorkerJob} (h : Succeeds row row') (hattempt : row'.attempt = row.attempt)
    {worker worker' : String} (howner : row.leaseOwner = some worker)
    (howner' : row'.leaseOwner = some worker')
    : worker' = worker := by
  cases h.owner with
  | inl hlt => omega
  | inr hsame =>
    cases hsame.2 with
    | inl hkept =>
      rw [hkept, howner, Option.some.injEq] at howner'
      exact howner'.symm
    | inr hcleared =>
      rw [hcleared] at howner'
      cases howner'

end Succeeds

theorem succeeds_quarantineStoredRow (env : Env) (nowMs : Int) (row : WorkerJob)
    : Succeeds row (quarantineStoredRow env nowMs row) := by
  apply quarantineStoredRow_induction env Succeeds
  . exact Succeeds.refl
  . intro row row' row''
    exact Succeeds.trans
  . intro nowMs row
    exact Succeeds.of_same_attempt rfl rfl (.inr rfl)
  . intro nowMs row
    exact Succeeds.of_same_attempt rfl rfl (.inr rfl)

theorem succeeds_of_statement (statement : Statement) {row : WorkerJob}
    (hhits : statement.update.hits row)
    : Succeeds row (statement.update.row row) := by
  have hrow : statement.update.row row = { statement.update.set row with jobId := row.jobId } := by
    simp [Update.row, hhits]
  rw [hrow]
  cases statement with
  | leaseNextJob jobId workerId leaseExpires nowMs =>
    have hattempt : row.attempt < row.maxAttempts := by
      simp only [Update.hits, Statement.update, Bool.and_eq_true, decide_eq_true_eq] at hhits
      exact hhits.2.2
    constructor
    . rfl
    . left
      simp only [Statement.update]
      omega
    . intro _
      simp only [Statement.update]
      omega
  | setJobRunning job workerId nowMs => exact Succeeds.of_same_attempt rfl rfl (.inl rfl)
  | renewLease jobId workerId attempt expiresAtMs nowMs =>
    exact Succeeds.of_same_attempt rfl rfl (.inl rfl)
  | _ => exact Succeeds.of_same_attempt rfl rfl (.inr rfl)

structure IsFresh (row : WorkerJob) : Prop where
  status : row.status = .pending
  attempt : row.attempt = 0
  leaseOwner : row.leaseOwner = none
  leaseExpiresAtMs : row.leaseExpiresAtMs = none
  maxAttempts : 0 ≤ row.maxAttempts

def HoldsLease (store : Store) (jobId : String) (attempt : Int) (workerId : String) : Prop :=
  ∃ row, store.findJobById jobId = some row
    ∧ row.attempt = attempt
    ∧ row.leaseOwner = some workerId

theorem holdsLease_of_persist {store store' : Store} {job : WorkerJob} {workerId : String}
    {result : WorkerJobStatus} {nowMs : Int}
    (h : store.execute (Statement.persistOwnedExecutionResult job workerId result nowMs).update
      = some store')
    : HoldsLease store job.jobId job.attempt workerId := by
  unfold Store.execute at h
  split at h
  . next hany =>
    rw [List.any_eq_true] at hany
    cases hany with
    | intro row hrow =>
      simp only [Update.hits, Statement.update, isRunningLeaseOf, Bool.and_eq_true,
        decide_eq_true_eq] at hrow
      refine ⟨row, ?_, hrow.2.2.2, hrow.2.2.1.2⟩
      rw [← of_decide_eq_true hrow.2.1]
      exact Store.findJobById_of_mem hrow.1
  . cases h

section Run

variable (env : Env)

variable {calls : Nat → WorkerCall} {workers : Workers}

theorem evolves_succeeds (hproper : ProperWorkers calls workers) (action : PoolAction RenewalEvent)
    : Evolves Succeeds (fun row => row.attempt ≤ row.maxAttempts) workers.shared.store
        (step env workers action).shared.store := by
  apply evolves_of_step env Succeeds.refl
  . intro i statement lost won _ _ row _ hhits
    exact succeeds_of_statement statement hhits
  . intro jobId workerId attempt expiresAtMs nowMs row
    unfold Update.row
    split
    . exact Succeeds.of_same_attempt rfl rfl (.inl rfl)
    . exact Succeeds.refl row
  . exact succeeds_quarantineStoredRow env
  . intro i o lost won job _ hprocess hinserts
    have ho := proper_of_process hproper hprocess
    have hmax : job.maxAttempts = 3 := by
      cases o with
      | enqueueWorkerJob job' nowMs =>
        injection hinserts with hinserts
        rw [← hinserts]
        exact ho
      | insertCoordinatorResumeJob job' =>
        injection hinserts with hinserts
        rw [← hinserts]
        exact ho
      | _ => cases hinserts
    simp [freshRow, hmax]

theorem succeeds_exec (hproper : ProperWorkers calls workers)
    (schedule : List (PoolAction RenewalEvent)) {jobId : String} {row : WorkerJob}
    (hrow : workers.shared.store.findJobById jobId = some row)
    : ∃ row', (Run.exec (step env) workers schedule).shared.store.findJobById jobId = some row'
        ∧ Succeeds row row' := by
  have hinv : ProperWorkers calls (Run.exec (step env) workers schedule)
      ∧ ∃ row', (Run.exec (step env) workers schedule).shared.store.findJobById jobId = some row'
          ∧ Succeeds row row' := by
    apply Run.exec_invariant
      (fun workers => ProperWorkers calls workers
        ∧ ∃ row', workers.shared.store.findJobById jobId = some row' ∧ Succeeds row row')
      _ ⟨hproper, row, hrow, Succeeds.refl row⟩
    intro workers action h
    refine ⟨properWorkers_step env h.1 action, ?_⟩
    cases h.2 with
    | intro row' hrow' =>
      cases (evolves_succeeds env h.1 action).kept jobId row' hrow'.1 with
      | intro row'' hrow'' => exact ⟨row'', hrow''.1, hrow'.2.trans hrow''.2⟩
  exact hinv.2

theorem attempt_le_exec (hproper : ProperWorkers calls workers)
    (hattempt : ∀ row ∈ workers.shared.store.jobs, row.attempt ≤ row.maxAttempts)
    (schedule : List (PoolAction RenewalEvent))
    : ∀ row ∈ (Run.exec (step env) workers schedule).shared.store.jobs,
        row.attempt ≤ row.maxAttempts := by
  have hinv : ProperWorkers calls (Run.exec (step env) workers schedule)
      ∧ ∀ row ∈ (Run.exec (step env) workers schedule).shared.store.jobs,
          row.attempt ≤ row.maxAttempts := by
    apply Run.exec_invariant
      (fun workers => ProperWorkers calls workers
        ∧ ∀ row ∈ workers.shared.store.jobs, row.attempt ≤ row.maxAttempts)
      _ ⟨hproper, hattempt⟩
    intro workers action h
    refine ⟨properWorkers_step env h.1 action, ?_⟩
    intro row' hrow'
    cases (evolves_succeeds env h.1 action).origin row' hrow' with
    | inl hold =>
      cases hold with
      | intro row hrow => exact hrow.2.attempt (h.2 row hrow.1)
    | inr hnew => exact hnew
  exact hinv.2

theorem holder_unique_of_isPrefix (hproper : ProperWorkers calls workers)
    {first second : List (PoolAction RenewalEvent)} (hinitial : first <+: second)
    {jobId worker worker' : String} {attempt : Int}
    (h : HoldsLease (Run.exec (step env) workers first).shared.store jobId attempt worker)
    (h' : HoldsLease (Run.exec (step env) workers second).shared.store jobId attempt worker')
    : worker' = worker := by
  cases hinitial with
  | intro rest hrest =>
    rw [← hrest, Run.exec_append] at h'
    cases h with
    | intro row hrow =>
      cases h' with
      | intro row' hrow' =>
        have hsucceeds := succeeds_exec env (properWorkers_exec env hproper first) rest hrow.1
        cases hsucceeds with
        | intro row'' hrow'' =>
          rw [hrow'.1, Option.some.injEq] at hrow''
          rw [← hrow''.1] at hrow''
          apply hrow''.2.owner_eq _ hrow.2.2 hrow'.2.2
          rw [hrow'.2.1, hrow.2.1]

end Run

/-
Workers, reapers and cancellations side by side, from freshly enqueued jobs: no job is attempted more
often than it may be, an attempt of a job has one holder in the whole run, and a result that
`persist_owned_execution_result` writes comes from the call of the worker that holds the lease of the
attempt that the row has then.
-/
theorem worker_lease_exclusive (env : Env) {store : Store} (hfresh : ∀ row ∈ store.jobs, IsFresh row)
    (calls : Nat → WorkerCall) (schedule : List (PoolAction RenewalEvent))
    : let state := fun earlier => Run.exec (step env) (start env store calls) earlier
      (∀ row ∈ (state schedule).shared.store.jobs, row.attempt ≤ row.maxAttempts)
      ∧ (∀ first second, first <+: schedule → second <+: schedule →
          ∀ jobId attempt worker worker',
            HoldsLease (state first).shared.store jobId attempt worker →
            HoldsLease (state second).shared.store jobId attempt worker' →
            worker = worker')
      ∧ (∀ earlier i rest job workerId result nowMs lost won store',
          schedule = earlier ++ .run i :: rest →
          (state earlier).processes i
            = .op (.update (.persistOwnedExecutionResult job workerId result nowMs)) lost won →
          (state earlier).shared.store.execute
            (Statement.persistOwnedExecutionResult job workerId result nowMs).update
            = some store' →
          (calls i).workerId = some workerId
            ∧ HoldsLease (state earlier).shared.store job.jobId job.attempt workerId) := by
  have hproper := properWorkers_start env store calls
  refine ⟨?_, ?_, ?_⟩
  . apply attempt_le_exec env hproper
    intro row hrow
    have := hfresh row hrow
    rw [this.attempt]
    exact this.maxAttempts
  . intro first second hfirst hsecond jobId attempt worker worker' h h'
    cases List.prefix_or_prefix_of_prefix hfirst hsecond with
    | inl hle => exact (holder_unique_of_isPrefix env hproper hle h h').symm
    | inr hle => exact holder_unique_of_isPrefix env hproper hle h' h
  . intro earlier i rest job workerId result nowMs lost won store' _ hprocess hexecute
    constructor
    . exact proper_of_process (properWorkers_exec env hproper earlier) hprocess
    . exact holdsLease_of_persist hexecute

theorem worker_lease_exclusive_run
    : HoldsLease
        (Run.exec (step sampleEnv)
          (start sampleEnv (sampleStore (sampleJob .deterministicShell 0))
            fun _ => sampleRunOnce "worker-1" 1000)
          (List.replicate 15 (.run 0))).shared.store
        "job-1" 1 "worker-1" := by
  have hfresh : ∀ row ∈ (sampleStore (sampleJob .deterministicShell 0)).jobs, IsFresh row := by
    intro row hrow
    rw [List.mem_singleton.mp hrow]
    constructor
    . rfl
    . rfl
    . rfl
    . rfl
    . decide
  have h := worker_lease_exclusive sampleEnv hfresh (fun _ => sampleRunOnce "worker-1" 1000)
    (List.replicate 16 (.run 0))
  exact (h.2.2 (List.replicate 15 (.run 0)) 0 []
    { sampleJob .deterministicShell 1 with
      status := .leased
      leaseOwner := some "worker-1"
      leaseExpiresAtMs := some 2000
      updatedAtMs := 1000 }
    "worker-1" .succeeded 1005 .failed .done _ rfl rfl rfl).2

-- the columns that no statement writes but a quarantine
def WorkerJob.work (self : WorkerJob) : WorkerJob :=
  { self with
    status := .pending, availableAtMs := 0, leaseOwner := none, leaseExpiresAtMs := none,
    attempt := 0, updatedAtMs := 0, finishedAtMs := none, childPolicyJson := none,
    executionModeJson := none }

structure KeepsWork (row row' : WorkerJob) : Prop where
  work : row'.work = row.work
  attempt : row.attempt ≤ row'.attempt
  childPolicyJson : row'.childPolicyJson ∈ [row.childPolicyJson, none]
  executionModeJson : row'.executionModeJson ∈ [row.executionModeJson, none]

theorem KeepsWork.refl (row : WorkerJob) : KeepsWork row row := by
  constructor <;> simp

theorem KeepsWork.trans {row row' row'' : WorkerJob} (h : KeepsWork row row')
    (h' : KeepsWork row' row'')
    : KeepsWork row row'' := by
  cases h
  cases h'
  constructor <;> grind

theorem keepsWork_set (statement : Statement) (row : WorkerJob)
    : KeepsWork row { statement.update.set row with jobId := row.jobId } := by
  cases statement with
  | leaseNextJob =>
    refine ⟨rfl, Int.le_add_one (Int.le_refl _), ?_, ?_⟩ <;> simp [Statement.update]
  | _ =>
    constructor <;> simp [Statement.update, WorkerJob.work, clearChildPolicy, clearExecutionMode,
      quarantinedRow, persistedRow]

theorem keepsWork_row (statement : Statement) (row : WorkerJob)
    : KeepsWork row (statement.update.row row) := by
  unfold Update.row
  split
  . exact keepsWork_set statement row
  . exact .refl row

theorem keepsWork_step (env : Env) (workers : Workers) (action : PoolAction RenewalEvent)
    : Evolves KeepsWork (fun _ => True) workers.shared.store
        (step env workers action).shared.store := by
  apply evolves_of_step env KeepsWork.refl
  . intro i statement lost won _ _ row _ _
    exact keepsWork_row statement row
  . intro jobId workerId attempt expiresAtMs nowMs row
    exact keepsWork_row _ row
  . apply quarantineStoredRow_induction env KeepsWork .refl fun _ _ _ => .trans
    . intro nowMs row
      exact keepsWork_set (.quarantineInvalidStoredChildPolicy row.jobId nowMs) row
    . intro nowMs row
      exact keepsWork_set (.quarantineInvalidStoredExecutionMode row.jobId nowMs) row
  . intros
    trivial

def Store.KeepsJobs (store store' : Store) : Prop :=
  ∀ jobId row, store.findJobById jobId = some row →
    ∃ row', store'.findJobById jobId = some row' ∧ KeepsWork row row'

/-
Workers, reapers and cancellations side by side never lose a job or change what it asks for.
-/
theorem jobs_are_kept (env : Env) (store : Store) (calls : Nat → WorkerCall)
    (schedule : List (PoolAction RenewalEvent))
    : store.KeepsJobs (Run.exec (step env) (start env store calls) schedule).shared.store := by
  apply Run.exec_invariant fun workers : Workers => store.KeepsJobs workers.shared.store
  . intro workers action h jobId row hrow
    obtain ⟨row', hrow', hkeeps⟩ := h jobId row hrow
    obtain ⟨row'', hrow'', hkeeps'⟩ := (keepsWork_step env workers action).kept jobId row' hrow'
    exact ⟨row'', hrow'', hkeeps.trans hkeeps'⟩
  . intro jobId row hrow
    exact ⟨row, hrow, .refl row⟩

end WorkerStore
