import AgentHarness.WorkerStore.Impl

/-!
What a step does to the rows of `jobs`: every row stays, changed at most by one statement, and a new row
is a fresh one.
-/

namespace WorkerStore

namespace Store

theorem find_map (jobs : List WorkerJob) {f : WorkerJob → WorkerJob}
    (hf : ∀ job, (f job).jobId = job.jobId) (jobId : String)
    : (jobs.map f).find? (fun job => job.jobId = jobId)
        = (jobs.find? fun job => job.jobId = jobId).map f := by
  rw [List.find?_map]
  congr 1
  congr 1
  funext job
  simp only [Function.comp_apply, hf]

theorem mem_of_findJobById {store : Store} {jobId : String} {job : WorkerJob}
    (h : store.findJobById jobId = some job)
    : job ∈ store.jobs ∧ job.jobId = jobId := by
  refine ⟨List.mem_of_find?_eq_some h, ?_⟩
  simpa using List.find?_some h

theorem findJobById_of_mem {store : Store} {job : WorkerJob} (h : job ∈ store.jobs)
    : store.findJobById job.jobId = some job := by
  cases hfind : store.findJobById job.jobId with
  | none =>
    exfalso
    have := List.find?_eq_none.mp hfind job h
    simp at this
  | some found =>
    have hfound := mem_of_findJobById hfind
    rw [Option.some.injEq]
    exact List.inj_on_of_nodup_map store.nodup hfound.1 h hfound.2

end Store

/-
`rel` relates the rows of a job before and after, `fresh` holds of the rows that are new.
-/
structure Evolves (rel : WorkerJob → WorkerJob → Prop) (fresh : WorkerJob → Prop)
    (store store' : Store) : Prop where
  kept : ∀ jobId row, store.findJobById jobId = some row →
    ∃ row', store'.findJobById jobId = some row' ∧ rel row row'
  origin : ∀ row' ∈ store'.jobs, (∃ row ∈ store.jobs, rel row row') ∨ fresh row'

section Evolves

variable {rel : WorkerJob → WorkerJob → Prop} {fresh : WorkerJob → Prop} {store store' : Store}

theorem evolves_of_map {f : WorkerJob → WorkerJob} (hf : ∀ job, (f job).jobId = job.jobId)
    (hjobs : store'.jobs = store.jobs.map f) (hrel : ∀ row ∈ store.jobs, rel row (f row))
    : Evolves rel fresh store store' where
  kept := by
    intro jobId row hrow
    refine ⟨f row, ?_, hrel row (Store.mem_of_findJobById hrow).1⟩
    unfold Store.findJobById at hrow ⊢
    rw [hjobs, Store.find_map store.jobs hf, hrow, Option.map_some]
  origin := by
    intro row' hrow'
    rw [hjobs, List.mem_map] at hrow'
    cases hrow' with
    | intro row hrow =>
      refine .inl ⟨row, hrow.1, ?_⟩
      rw [← hrow.2]
      exact hrel row hrow.1

theorem evolves_of_same (hrefl : ∀ row, rel row row) (hjobs : store'.jobs = store.jobs)
    : Evolves rel fresh store store' := by
  apply evolves_of_map (f := id)
  . intro job
    rfl
  . simpa using hjobs
  . intro row _
    exact hrefl row

theorem Evolves.insert {job : WorkerJob} (h : Evolves rel fresh store store')
    (hfresh : fresh (freshRow job)) {store'' : Store} (hinsert : store'.insertJob job = some store'')
    : Evolves rel fresh store store'' := by
  unfold Store.insertJob at hinsert
  split at hinsert
  . injection hinsert with hinsert
    rw [← hinsert]
    exact h
  . split at hinsert
    . cases hinsert
    . injection hinsert with hinsert
      subst hinsert
      constructor
      . intro jobId row hrow
        cases h.kept jobId row hrow with
        | intro row' hrow' =>
          refine ⟨row', ?_, hrow'.2⟩
          unfold Store.findJobById at hrow' ⊢
          rw [List.find?_append, hrow'.1, Option.some_or]
      . intro row' hrow'
        rw [List.mem_append, List.mem_singleton] at hrow'
        cases hrow' with
        | inl hold => exact h.origin row' hold
        | inr hnew =>
          right
          rw [hnew]
          exact hfresh

theorem evolves_of_execute (hrefl : ∀ row, rel row row) {update : Update}
    (hrel : ∀ row ∈ store.jobs, update.hits row → rel row (update.row row))
    (h : store.execute update = some store')
    : Evolves rel fresh store store' := by
  unfold Store.execute at h
  split at h
  . injection h with h
    rw [← h]
    apply evolves_of_map update.row_jobId rfl
    intro row hrow
    by_cases hhits : update.hits row
    . exact hrel row hrow hhits
    . simpa [Update.row, hhits] using hrefl row
  . cases h

end Evolves

section Step

variable (env : Env)

def Operation.inserts (self : Operation) : Option WorkerJob :=
  match self with
  | .enqueueWorkerJob job _ => some job
  | .insertCoordinatorResumeJob job => some job
  | _ => none

theorem evolves_of_step {rel : WorkerJob → WorkerJob → Prop} {fresh : WorkerJob → Prop}
    (hrefl : ∀ row, rel row row) (workers : Workers) (action : PoolAction RenewalEvent)
    (hupdate : ∀ i statement lost won, action = .run i →
      workers.processes i = .op (.update statement) lost won →
      ∀ row ∈ workers.shared.store.jobs, statement.update.hits row →
        rel row (statement.update.row row))
    (hrenew : ∀ jobId workerId attempt expiresAtMs nowMs row,
      rel row ((Statement.renewLease jobId workerId attempt expiresAtMs nowMs).update.row row))
    (hquarantine : ∀ nowMs row, rel row (quarantineStoredRow env nowMs row))
    (hfresh : ∀ i o lost won job, action = .run i → workers.processes i = .op o lost won →
      o.inserts = some job → fresh (freshRow job))
    : Evolves rel fresh workers.shared.store (step env workers action).shared.store := by
  have hsame : Evolves rel fresh workers.shared.store workers.shared.store :=
    evolves_of_same hrefl rfl
  have hstop : ∀ i, (workers.shared.stopRenewal i).store = workers.shared.store := by
    intro i
    unfold Machine.stopRenewal
    split
    . rfl
    . rfl
  unfold step
  apply Pool.shared_step fun m : Machine => Evolves rel fresh workers.shared.store m.store
  . exact hsame
  . intro i o lost won m haction hprocess happly
    cases o with
    | update statement =>
      simp only [Operation.apply, Option.map_eq_some_iff] at happly
      cases happly with
      | intro store h =>
        rw [← h.2]
        exact evolves_of_execute hrefl (hupdate i statement lost won haction hprocess) h.1
    | enqueueWorkerJob job nowMs =>
      simp only [Operation.apply, Option.map_eq_some_iff, Store.enqueueWorkerJob] at happly
      cases happly with
      | intro store h =>
        rw [← h.2]
        apply Evolves.insert _ (hfresh i _ lost won job haction hprocess rfl) h.1
        apply evolves_of_map (quarantineStoredRow_jobId env nowMs) rfl
        intro row _
        exact hquarantine nowMs row
    | insertCoordinatorResumeJob job =>
      simp only [Operation.apply, Option.map_eq_some_iff] at happly
      cases happly with
      | intro store h =>
        rw [← h.2]
        exact hsame.insert (hfresh i _ lost won job haction hprocess rfl) h.1
    | insertRateLease lease =>
      injection happly with happly
      rw [← happly]
      exact evolves_of_same hrefl rfl
    | deleteRateLeases before =>
      injection happly with happly
      rw [← happly]
      exact evolves_of_same hrefl rfl
    | startRenewal process jobId workerId attempt leaseMs =>
      injection happly with happly
      rw [← happly]
      exact hsame
    | stopRenewal process =>
      injection happly with happly
      rw [← happly, hstop]
      exact hsame
  . intro i
    rw [hstop]
    exact hsame
  . intro event
    cases event with
    | renew process nowMs =>
      simp only [RenewalEvent.apply]
      split
      . split
        . next store hexecute =>
          apply evolves_of_execute hrefl _ hexecute
          intro row _ _
          apply hrenew
        . exact hsame
      . exact hsame
    | fail process reason =>
      simp only [RenewalEvent.apply]
      split
      . exact hsame
      . exact hsame

end Step

end WorkerStore

/-!
What the statements of a call hold, whatever the call reads: the reaper names rows that it read as
executing, a result is persisted under the worker id of the call and never as an executing one, and
new jobs have three attempts.
-/

namespace WorkerStore

def Operation.Proper (worker : Option String) (self : Operation) : Prop :=
  match self with
  | .update (.reapForRetry job _) => job.status.isExecuting
  | .update (.reapExpired job _) => job.status.isExecuting
  | .update (.persistOwnedExecutionResult _ workerId _ _) => worker = some workerId
  | .enqueueWorkerJob job _ => job.maxAttempts = 3
  | .insertCoordinatorResumeJob job => job.maxAttempts = 3
  | _ => True

/-
All that is known of the operations of a call; `Proper` is what the leases need of it. With `leasing`
the call can still lease a job.
-/
def Operation.Issued (worker : Option String) (leasing : Bool) (self : Operation) : Prop :=
  match self with
  | .update (.leaseNextJob _ _ _ _) => leasing
  | .update (.reapForRetry job _) => job.status.isExecuting
  | .update (.reapExpired job _) => job.status.isExecuting
  | .update (.persistExecutionResult _ result _) => result.isTerminal
  | .update (.persistOwnedExecutionResult _ workerId result _) =>
    worker = some workerId ∧ result.isExecuting = false
  | .update (.setRuntimeTerminal _ workerStatus _) => workerStatus.isTerminal
  | .enqueueWorkerJob job _ => job.maxAttempts = 3
  | .insertCoordinatorResumeJob job => job.maxAttempts = 3
  | _ => True

variable {o : Operation}

theorem Operation.proper_of_issued {worker : Option String} {leasing : Bool}
    (h : o.Issued worker leasing)
    : o.Proper worker := by
  cases o with
  | update statement =>
    cases statement with
    | reapForRetry job nowMs => exact h
    | reapExpired job nowMs => exact h
    | persistOwnedExecutionResult job workerId result nowMs => exact h.1
    | _ => exact trivial
  | enqueueWorkerJob job nowMs => exact h
  | insertCoordinatorResumeJob job => exact h
  | _ => exact trivial

def WorkerCall.workerId (self : WorkerCall) : Option String :=
  match self with
  | .runWorkerOnce options _ => some options.workerId
  | _ => none

abbrev IssuedScript (worker : Option String) (leasing : Bool) (script : WorkerScript) : Prop :=
  Script.Ops (Operation.Issued worker leasing) script

section Issued

variable (env : Env) (harness : Harness) {worker : Option String} {leasing : Bool} {next : WorkerScript}

theorem issued_quarantineInvalidStoredChildPolicies (nowMs : Int) (hnext : IssuedScript worker leasing next)
    : IssuedScript worker leasing (quarantineInvalidStoredChildPolicies env nowMs next) := by
  intro m
  apply Script.Ops.foldr hnext
  intro job _ rest hrest
  exact Script.Ops.ignoring trivial hrest

theorem issued_quarantineInvalidStoredExecutionModes (nowMs : Int)
    (hnext : IssuedScript worker leasing next)
    : IssuedScript worker leasing (quarantineInvalidStoredExecutionModes env nowMs next) := by
  intro m
  apply Script.Ops.foldr hnext
  intro job _ rest hrest
  exact Script.Ops.ignoring trivial hrest

variable {onError : WorkerScript}

theorem issued_findJobById (jobId : String) {next : Option WorkerJob → WorkerScript}
    (herror : IssuedScript worker leasing onError)
    (hnext : ∀ job, IssuedScript worker leasing (next job))
    : IssuedScript worker leasing (findJobById env jobId onError next) := by
  intro m
  dsimp only
  split
  . apply hnext
  . split
    . apply hnext
    . exact herror

variable {includeQuarantined : Bool} {result : WorkerJobStatus}

theorem issued_resolveTolerantWorkerRows (q : WorkerJob → Prop) (nowMs : Int)
    (hq : includeQuarantined = true → ∀ job, q job) {next : List WorkerJob → WorkerScript}
    (herror : IssuedScript worker leasing onError)
    (hnext : ∀ jobs, (∀ job ∈ jobs, q job) → IssuedScript worker leasing (next jobs))
    (jobs rows : List WorkerJob) (hjobs : ∀ job ∈ jobs, q job) (hrows : ∀ row ∈ rows, q row)
    : IssuedScript worker leasing
        (resolveTolerantWorkerRows env nowMs includeQuarantined onError next jobs rows) := by
  induction rows generalizing jobs with
  | nil => exact hnext jobs hjobs
  | cons row rows ih =>
    have hrest : ∀ row ∈ rows, q row := fun row hrow => hrows row (List.mem_cons_of_mem _ hrow)
    unfold resolveTolerantWorkerRows
    split
    . apply Script.Ops.ignoring trivial
      split
      . next hinclude =>
        apply issued_findJobById env row.jobId herror
        intro job
        apply ih _ _ hrest
        intro job _
        exact hq hinclude job
      . exact ih jobs hjobs hrest
    . apply ih _ _ hrest
      intro job hjob
      rw [List.mem_append, List.mem_singleton] at hjob
      cases hjob with
      | inl hjob => exact hjobs job hjob
      | inr hjob =>
        rw [hjob]
        exact hrows row List.mem_cons_self

theorem issued_selectTolerantJobs (q : WorkerJob → Prop) {select : Store → List WorkerJob}
    (nowMs : Int) (hq : includeQuarantined = true → ∀ job, q job)
    (hselect : ∀ store, ∀ row ∈ select store, q row) {next : List WorkerJob → WorkerScript}
    (herror : IssuedScript worker leasing onError)
    (hnext : ∀ jobs, (∀ job ∈ jobs, q job) → IssuedScript worker leasing (next jobs))
    : IssuedScript worker leasing
        (selectTolerantJobs env select nowMs includeQuarantined onError next) := by
  intro m
  dsimp only
  split
  . apply issued_resolveTolerantWorkerRows env q nowMs hq herror hnext
    . simp
    . exact hselect m.store
  . exact herror

theorem issued_selectJobs {select : Store → List WorkerJob} (nowMs : Int)
    {next : List WorkerJob → WorkerScript} (herror : IssuedScript worker leasing onError)
    (hnext : ∀ jobs, IssuedScript worker leasing (next jobs))
    : IssuedScript worker leasing
        (selectTolerantJobs env select nowMs includeQuarantined onError next) := by
  apply issued_selectTolerantJobs env (fun _ => True) nowMs
  . simp
  . simp
  . exact herror
  . intro jobs _
    exact hnext jobs

theorem issued_reapExpiredWorkerJobs (nowMs : Int) (hnext : IssuedScript worker leasing next)
    : IssuedScript worker leasing (reapExpiredWorkerJobs env nowMs next) := by
  apply issued_selectTolerantJobs env (fun job => job.status.isExecuting) nowMs
  . simp
  . intro store row hrow
    simp only [Store.jobsWithExpiredLeases, List.mem_filter, Bool.and_eq_true] at hrow
    exact hrow.2.1
  . exact trivial
  . intro stale hstale
    apply Script.Ops.foldr hnext
    intro job hjob rest hrest
    split
    . exact Script.Ops.ignoring (hstale job hjob) hrest
    . exact Script.Ops.ignoring (hstale job hjob) hrest

theorem isTerminal_workerTerminalHandling {status : String} {source : Option String}
    {workerStatus : WorkerJobStatus} (h : workerTerminalHandling status source = some workerStatus)
    : workerStatus.isTerminal := by
  unfold workerTerminalHandling at h
  split at h
  . cases h
    rfl
  . split at h
    . cases h
      rfl
    . split at h
      . split at h
        . cases h
          rfl
        . split at h
          . cases h
            rfl
          . cases h
      . split at h
        . cases h
          rfl
        . cases h

theorem issued_reconcileRuntimeQueuedJobs (nowMs : Int) (hnext : IssuedScript worker leasing next)
    : IssuedScript worker leasing (reconcileRuntimeQueuedJobs env harness nowMs next) := by
  intro m
  dsimp only
  split
  . exact hnext
  . intro m
    dsimp only
    split
    . apply Script.Ops.foldr hnext
      intro job _ rest hrest
      split
      . exact hrest
      . next workerStatus hstatus =>
        refine ⟨?_, trivial, hrest⟩
        rw [Option.bind_eq_some_iff] at hstatus
        cases hstatus with
        | intro terminal hterminal => exact isTerminal_workerTerminalHandling hterminal.2
    . exact trivial

theorem issued_persistExecutionResult (job : WorkerJob) (nowMs : Int) (hresult : result.isTerminal)
    (hnext : IssuedScript worker leasing next)
    : IssuedScript worker leasing (persistExecutionResult job result nowMs next) := by
  unfold persistExecutionResult
  split
  . exact hnext
  . exact Script.Ops.ignoring hresult hnext

theorem issued_terminalizeExhaustedPendingJobs (nowMs : Int) (hnext : IssuedScript worker leasing next)
    : IssuedScript worker leasing (terminalizeExhaustedPendingJobs env nowMs next) := by
  intro m
  dsimp only
  split
  . apply Script.Ops.foldr hnext
    intro job _ rest hrest
    exact issued_persistExecutionResult job nowMs rfl hrest
  . exact trivial

section Lease

variable (config : WorkerDispatchConfig) (nowMs : Int)

theorem issued_rateLeaseBlocked (job : WorkerJob) {next : Bool → WorkerScript}
    (hnext : ∀ blocked, IssuedScript worker leasing (next blocked))
    : IssuedScript worker leasing (rateLeaseBlocked config nowMs job next) := by
  unfold rateLeaseBlocked
  split
  . apply hnext
  . split
    . apply hnext
    . apply Script.Ops.ignoring trivial
      intro m
      apply hnext

theorem issued_recordRateLease (job : WorkerJob) (hnext : IssuedScript worker leasing next)
    : IssuedScript worker leasing (recordRateLease config nowMs job next) := by
  unfold recordRateLease
  split
  . exact hnext
  . split
    . exact hnext
    . apply Script.Ops.ignoring trivial
      exact Script.Ops.ignoring trivial hnext

theorem issued_capacityBlocker (job : WorkerJob) {next : Bool → WorkerScript}
    (hnext : ∀ blocked, IssuedScript worker leasing (next blocked))
    : IssuedScript worker leasing (capacityBlocker env config nowMs job next) := by
  have hrate := issued_rateLeaseBlocked config nowMs job hnext
  have hchannel : IssuedScript worker leasing (channelBlocked env config nowMs job fun channel =>
      if channel then next true else rateLeaseBlocked config nowMs job next) := by
    have hafter : ∀ channel : Bool, IssuedScript worker leasing
        (if channel then next true else rateLeaseBlocked config nowMs job next) := by
      intro channel
      split
      . apply hnext
      . exact hrate
    unfold channelBlocked
    split
    . apply hafter
    . apply issued_selectJobs env nowMs
      . exact trivial
      . intro jobs
        apply hafter
  intro m
  dsimp only
  split
  . apply hnext
  . intro m
    dsimp only
    split
    . apply hnext
    . unfold groupBlocked
      split
      . exact hchannel
      . intro m
        dsimp only
        split
        . apply hnext
        . exact hchannel

theorem issued_leaseFirst (workerId : String) (leaseMs : Int)
    {next : Option WorkerJob → WorkerScript} (hnext : ∀ job, IssuedScript worker true (next job))
    (candidates : List WorkerJob)
    : IssuedScript worker true (leaseFirst env config nowMs workerId leaseMs next candidates) := by
  induction candidates with
  | nil => apply hnext
  | cons job candidates ih =>
    apply issued_capacityBlocker
    intro blocked
    split
    . exact ih
    . refine ⟨rfl, ih, ?_⟩
      apply issued_recordRateLease
      apply issued_findJobById
      . exact trivial
      . exact hnext

theorem issued_leaseNextJob (laneFilter : Option String) (workerId : String) (leaseMs : Int)
    {next : Option WorkerJob → WorkerScript} (hnext : ∀ job, IssuedScript worker true (next job))
    : IssuedScript worker true (leaseNextJob env config nowMs laneFilter workerId leaseMs next) := by
  unfold leaseNextJob pendingCandidates
  apply issued_selectJobs env nowMs
  . exact trivial
  . exact issued_leaseFirst env config nowMs workerId leaseMs hnext

end Lease

section Execute

variable (job : WorkerJob) (nowMs : Int) {next : Option WorkerJobStatus → WorkerScript}
  (hnext : ∀ outcome : Option WorkerJobStatus, outcome.all (!·.isExecuting) →
    IssuedScript worker leasing (next outcome))

include hnext

theorem issued_rescheduleWatchdog : IssuedScript worker leasing (rescheduleWatchdog job nowMs next) :=
  ⟨trivial, hnext none rfl, hnext _ rfl⟩

theorem issued_runWatchdogJob
    : IssuedScript worker leasing (runWatchdogJob env harness job nowMs next) := by
  have hreschedule := issued_rescheduleWatchdog job nowMs hnext
  unfold runWatchdogJob
  split
  . exact hnext _ rfl
  . apply issued_selectJobs env nowMs
    . exact hnext _ rfl
    . intro children
      dsimp only
      split
      . split
        . unfold runDurableCoordinatorWatchdog
          split
          . exact hnext _ rfl
          . exact hnext _ rfl
          . exact hreschedule
          . exact ⟨rfl, hnext none rfl, hnext _ rfl⟩
        . exact ⟨rfl, hnext none rfl, hnext _ rfl⟩
      . exact hreschedule

theorem issued_executeWorkerJob
    : IssuedScript worker leasing (executeWorkerJob env harness job nowMs next) := by
  have hqueued : ∀ queued : Bool, IssuedScript worker leasing
      (next (if queued then some .runtimeQueued else none)) := by
    intro queued
    apply hnext
    split
    . rfl
    . rfl
  have hdone : ∀ done : Bool, IssuedScript worker leasing (next (if done then some .succeeded else none)) := by
    intro done
    apply hnext
    split
    . rfl
    . rfl
  unfold executeWorkerJob
  split
  . split
    . exact hnext _ rfl
    . exact hnext _ rfl
    . exact hnext _ rfl
    . apply hnext
      split
      . rfl
      . rfl
  . apply hqueued
  . apply hqueued
  . apply hqueued
  . exact issued_runWatchdogJob env harness job nowMs hnext
  . apply hdone
  . apply hdone
  . apply hdone
  . exact hnext _ rfl
  . exact hnext _ rfl

end Execute

theorem issued_persistOwnedExecutionResult (job : WorkerJob) (workerId : String) (nowMs : Int)
    (hresult : result.isExecuting = false)
    : IssuedScript (some workerId) leasing (persistOwnedExecutionResult job workerId result nowMs) := by
  unfold persistOwnedExecutionResult
  split
  . intro m
    dsimp only
    split
    . exact trivial
    . exact trivial
  . exact ⟨⟨rfl, hresult⟩, trivial, trivial⟩

theorem isExecuting_normalizeExhaustedRetryableResult (job : WorkerJob)
    (h : result.isExecuting = false)
    : (normalizeExhaustedRetryableResult job result).isExecuting = false := by
  unfold normalizeExhaustedRetryableResult
  split
  . rfl
  . exact h

theorem issued_runLeasedJob (process : Nat) (options : WorkerRunOnceOptions) (job : WorkerJob)
    : IssuedScript (some options.workerId) leasing (runLeasedJob env harness process options job) := by
  refine ⟨trivial, trivial, ?_⟩
  intro m
  dsimp only
  split
  . apply Script.Ops.ignoring trivial
    apply issued_executeWorkerJob
    intro outcome houtcome
    apply Script.Ops.ignoring trivial
    intro m
    apply issued_persistOwnedExecutionResult
    split
    . rfl
    . apply isExecuting_normalizeExhaustedRetryableResult
      cases outcome with
      | none => rfl
      | some status => simpa using houtcome
  . exact trivial

theorem issued_runWorkerOnce (process : Nat) (options : WorkerRunOnceOptions)
    : IssuedScript (some options.workerId) true (runWorkerOnce env harness process options) := by
  unfold runWorkerOnce
  dsimp only
  split
  . exact trivial
  . apply issued_quarantineInvalidStoredChildPolicies
    apply issued_quarantineInvalidStoredExecutionModes
    apply issued_reapExpiredWorkerJobs
    apply issued_reconcileRuntimeQueuedJobs
    apply issued_terminalizeExhaustedPendingJobs
    apply issued_leaseNextJob
    intro leased
    split
    . exact trivial
    . split
      . apply issued_persistExecutionResult _ _ rfl
        exact trivial
      . apply issued_runLeasedJob

end Issued

variable (env : Env)

theorem issued_script (process : Nat) (call : WorkerCall)
    : IssuedScript call.workerId true (call.script env process) := by
  cases call with
  | runWorkerOnce options harness => exact issued_runWorkerOnce env harness process options
  | reapStaleWorkerJobs nowMs =>
    apply issued_quarantineInvalidStoredChildPolicies
    apply issued_quarantineInvalidStoredExecutionModes
    apply issued_reapExpiredWorkerJobs
    exact trivial
  | cancelWorkerJob jobId nowMs =>
    simp only [WorkerCall.script, cancelWorkerJob]
    apply issued_findJobById
    . exact trivial
    . intro job
      exact Script.Ops.ignoring trivial trivial

def IssuedWorkers (calls : Nat → WorkerCall) (workers : Workers) : Prop :=
  Pool.Ops (fun i => Operation.Issued (calls i).workerId true) workers

theorem issuedWorkers_start (store : Store) (calls : Nat → WorkerCall)
    : IssuedWorkers calls (start env store calls) := by
  intro i
  exact issued_script env i (calls i)

variable {calls : Nat → WorkerCall} {workers : Workers}

theorem issuedWorkers_exec (hissued : IssuedWorkers calls workers)
    (schedule : List (PoolAction RenewalEvent))
    : IssuedWorkers calls (Run.exec (step env) workers schedule) := by
  apply Run.exec_invariant (IssuedWorkers calls) _ hissued
  intro workers action h
  exact h.step action

theorem issued_of_process (hissued : IssuedWorkers calls workers) {i : Nat}
    {lost won : WorkerScript} (hprocess : workers.processes i = .op o lost won)
    : o.Issued (calls i).workerId true := by
  have hi := hissued i
  rw [hprocess] at hi
  exact hi.1

def ProperWorkers (calls : Nat → WorkerCall) (workers : Workers) : Prop :=
  Pool.Ops (fun i => Operation.Proper (calls i).workerId) workers

theorem properWorkers_start (store : Store) (calls : Nat → WorkerCall)
    : ProperWorkers calls (start env store calls) := by
  intro i
  apply (issuedWorkers_start env store calls i).mono
  intro o
  exact Operation.proper_of_issued

theorem properWorkers_step (h : ProperWorkers calls workers) (action : PoolAction RenewalEvent)
    : ProperWorkers calls (step env workers action) :=
  h.step action

theorem properWorkers_exec (hproper : ProperWorkers calls workers)
    (schedule : List (PoolAction RenewalEvent))
    : ProperWorkers calls (Run.exec (step env) workers schedule) := by
  apply Run.exec_invariant (ProperWorkers calls) _ hproper
  intro workers action h
  exact properWorkers_step env h action

theorem proper_of_process (hproper : ProperWorkers calls workers) {i : Nat}
    {lost won : WorkerScript} (hprocess : workers.processes i = .op o lost won)
    : o.Proper (calls i).workerId := by
  have hi := hproper i
  rw [hprocess] at hi
  exact hi.1

end WorkerStore
