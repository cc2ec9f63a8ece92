import AgentHarness.WorkerStore.Lemmas.Lease
import Mathlib.Data.List.Perm.Subperm
import Mathlib.Tactic.IntervalCases

/-!
The capacity limits of the dispatch.
-/

namespace WorkerStore

/-
A job that executes afterwards was executing before, in the same lane and group.
-/
structure KeepsIdle (row row' : WorkerJob) : Prop where
  jobId : row'.jobId = row.jobId
  lane : row'.lane = row.lane
  group : row'.concurrencyGroupKey = row.concurrencyGroupKey
  executing : row'.status.isExecuting → row.status.isExecuting

namespace KeepsIdle

theorem refl (row : WorkerJob) : KeepsIdle row row :=
  ⟨rfl, rfl, rfl, id⟩

theorem trans {row row' row'' : WorkerJob} (h : KeepsIdle row row') (h' : KeepsIdle row' row'')
    : KeepsIdle row row'' where
  jobId := by rw [h'.jobId, h.jobId]
  lane := by rw [h'.lane, h.lane]
  group := by rw [h'.group, h.group]
  executing := by
    intro hexecuting
    apply h.executing
    apply h'.executing
    exact hexecuting

end KeepsIdle

theorem isExecuting_quarantinedRow (nowMs : Int) {row : WorkerJob}
    (h : (quarantinedRow nowMs row).status.isExecuting)
    : row.status.isExecuting := by
  simp only [quarantinedRow] at h
  split at h
  . exact h
  . cases h

theorem keepsIdle_clearChildPolicy (nowMs : Int) (row : WorkerJob)
    : KeepsIdle row (clearChildPolicy nowMs row) :=
  ⟨rfl, rfl, rfl, isExecuting_quarantinedRow nowMs⟩

theorem keepsIdle_clearExecutionMode (nowMs : Int) (row : WorkerJob)
    : KeepsIdle row (clearExecutionMode nowMs row) :=
  ⟨rfl, rfl, rfl, isExecuting_quarantinedRow nowMs⟩

theorem isExecuting_persistedStatus (job : WorkerJob) {result : WorkerJobStatus}
    (h : result.isExecuting = false)
    : (persistedStatus job result).isExecuting = false := by
  unfold persistedStatus
  dsimp only
  split
  . rfl
  . apply isExecuting_normalizeExhaustedRetryableResult
    exact h

theorem isExecuting_of_isTerminal {status : WorkerJobStatus} (h : status.isTerminal)
    : status.isExecuting = false := by
  cases status with
  | leased => cases h
  | running => cases h
  | _ => rfl

theorem keepsIdle_of_statement {worker : Option String} {statement : Statement}
    (hissued : (Operation.update statement).Issued worker false) {row : WorkerJob}
    (hhits : statement.update.hits row)
    : KeepsIdle row (statement.update.row row) := by
  have hrow : statement.update.row row = { statement.update.set row with jobId := row.jobId } := by
    simp [Update.row, hhits]
  rw [hrow]
  simp only [Update.hits, Bool.and_eq_true] at hhits
  have happlies := hhits.2
  cases statement with
  | quarantineInvalidStoredChildPolicy jobId nowMs => exact keepsIdle_clearChildPolicy nowMs row
  | quarantineInvalidStoredExecutionMode jobId nowMs => exact keepsIdle_clearExecutionMode nowMs row
  | leaseNextJob jobId workerId leaseExpires nowMs => cases hissued
  | persistExecutionResult job result nowMs =>
    refine ⟨rfl, rfl, rfl, ?_⟩
    intro hexecuting
    simp only [Statement.update, persistedRow] at hexecuting
    rw [isExecuting_persistedStatus job (isExecuting_of_isTerminal hissued)] at hexecuting
    cases hexecuting
  | persistOwnedExecutionResult job workerId result nowMs =>
    refine ⟨rfl, rfl, rfl, ?_⟩
    intro hexecuting
    simp only [Statement.update, persistedRow] at hexecuting
    rw [isExecuting_persistedStatus job hissued.2] at hexecuting
    cases hexecuting
  | setJobRunning job workerId nowMs =>
    refine ⟨rfl, rfl, rfl, ?_⟩
    intro _
    simp only [Statement.update, Bool.and_eq_true, decide_eq_true_eq] at happlies
    rw [happlies.1.1.1]
    rfl
  | renewLease jobId workerId attempt expiresAtMs nowMs => exact ⟨rfl, rfl, rfl, id⟩
  | setRuntimeTerminal job workerStatus nowMs =>
    refine ⟨rfl, rfl, rfl, ?_⟩
    intro hexecuting
    simp only [Statement.update] at hexecuting
    rw [isExecuting_of_isTerminal hissued] at hexecuting
    cases hexecuting
  | _ =>
    refine ⟨rfl, rfl, rfl, ?_⟩
    intro hexecuting
    cases hexecuting

namespace Store

def isCounted (lane group : Option String) (job : WorkerJob) : Bool :=
  job.status.isExecuting
    && lane.all (job.lane = ·)
    && group.all (job.concurrencyGroupKey = some ·)

theorem executingCount_eq (store : Store) (lane group : Option String)
    : store.executingCount lane group = store.jobs.countP (isCounted lane group) := rfl

theorem isCounted_of_keepsIdle {lane group : Option String} {row row' : WorkerJob}
    (h : KeepsIdle row row') (hcounted : isCounted lane group row')
    : isCounted lane group row := by
  simp only [isCounted, Bool.and_eq_true] at hcounted ⊢
  rw [h.lane, h.group] at hcounted
  exact ⟨⟨h.executing hcounted.1.1, hcounted.1.2⟩, hcounted.2⟩

theorem executingCount_le_of_evolves {store store' : Store}
    (h : Evolves KeepsIdle (fun row => row.status.isExecuting = false) store store')
    (lane group : Option String)
    : store'.executingCount lane group ≤ store.executingCount lane group := by
  have hnodup : ((store'.jobs.filter (isCounted lane group)).map (·.jobId)).Nodup := by
    apply List.Nodup.sublist _ store'.nodup
    apply List.Sublist.map
    exact List.filter_sublist
  have hsubset : (store'.jobs.filter (isCounted lane group)).map (·.jobId)
      ⊆ (store.jobs.filter (isCounted lane group)).map (·.jobId) := by
    intro jobId hjobId
    simp only [List.mem_map, List.mem_filter] at hjobId ⊢
    cases hjobId with
    | intro row' hrow' =>
      cases h.origin row' hrow'.1.1 with
      | inl hold =>
        cases hold with
        | intro row hrow =>
          refine ⟨row, ⟨hrow.1, isCounted_of_keepsIdle hrow.2 hrow'.1.2⟩, ?_⟩
          rw [← hrow'.2, hrow.2.jobId]
      | inr hfresh =>
        have := hrow'.1.2
        simp [isCounted, hfresh] at this
  have hlength := (List.subperm_of_subset hnodup hsubset).length_le
  simpa only [executingCount_eq, List.countP_eq_length_filter, List.length_map] using hlength

theorem countP_le_add {α : Type} {p q r : α → Bool} {l : List α} (h : ∀ a ∈ l, p a → q a ∨ r a)
    : l.countP p ≤ l.countP q + l.countP r := by
  induction l with
  | nil => simp
  | cons a l ih =>
    have hl := ih fun b hb => h b (List.mem_cons_of_mem a hb)
    have ha := h a List.mem_cons_self
    simp only [List.countP_cons]
    cases hp : p a with
    | false =>
      simp only [Bool.false_eq_true, if_false]
      omega
    | true =>
      cases ha hp with
      | inl hq =>
        simp only [hq, if_true]
        omega
      | inr hr =>
        simp only [hr, if_true]
        omega

theorem countP_jobId_le_one (store : Store) (jobId : String)
    : store.jobs.countP (fun job => job.jobId = jobId) ≤ 1 := by
  have h := List.nodup_iff_count_le_one.mp store.nodup jobId
  rw [List.count, List.countP_map] at h
  apply Nat.le_trans _ h
  apply List.countP_mono_left
  simp

theorem executingCount_lease {store store' : Store} {row : WorkerJob} (hrow : row ∈ store.jobs)
    {workerId : String} {leaseExpires nowMs : Int}
    (h : store.execute (Statement.leaseNextJob row.jobId workerId leaseExpires nowMs).update
      = some store')
    (lane group : Option String)
    : store'.executingCount lane group ≤ store.executingCount lane group + 1
      ∧ (isCounted lane group { row with status := .leased } = false →
          store'.executingCount lane group ≤ store.executingCount lane group) := by
  have hjobs : store'.jobs = store.jobs.map
      (Statement.leaseNextJob row.jobId workerId leaseExpires nowMs).update.row := by
    unfold execute at h
    split at h
    . injection h with h
      rw [← h]
    . cases h
  have hcases : ∀ other ∈ store.jobs, isCounted lane group
        ((Statement.leaseNextJob row.jobId workerId leaseExpires nowMs).update.row other) →
      isCounted lane group other
        ∨ (other.jobId = row.jobId ∧ isCounted lane group { row with status := .leased }) := by
    intro other hother hcounted
    unfold Update.row at hcounted
    split at hcounted
    . next hhits =>
      right
      simp only [Update.hits, Statement.update, Bool.and_eq_true] at hhits
      have hid := of_decide_eq_true hhits.1
      have heq : other = row := List.inj_on_of_nodup_map store.nodup hother hrow hid
      refine ⟨hid, ?_⟩
      rw [heq] at hcounted
      exact hcounted
    . left
      exact hcounted
  rw [executingCount_eq, executingCount_eq, hjobs, List.countP_map]
  constructor
  . have hone := countP_jobId_le_one store row.jobId
    have hsum : store.jobs.countP (isCounted lane group
          ∘ (Statement.leaseNextJob row.jobId workerId leaseExpires nowMs).update.row)
        ≤ store.jobs.countP (isCounted lane group)
          + store.jobs.countP (fun job => job.jobId = row.jobId) := by
      apply countP_le_add
      intro other hother hcounted
      cases hcases other hother hcounted with
      | inl hold => exact .inl hold
      | inr hnew => exact .inr (decide_eq_true hnew.1)
    omega
  . intro hfalse
    apply List.countP_mono_left
    intro other hother hcounted
    cases hcases other hother hcounted with
    | inl hold => exact hold
    | inr hnew =>
      rw [hfalse] at hnew
      cases hnew.2

end Store

section Limits

variable (config : WorkerDispatchConfig)

def WorkerDispatchConfig.laneLimit (lane : String) : Nat :=
  (config.laneConcurrencyLimits.lookup lane).getD config.globalConcurrencyLimit

structure WithinLimits (store : Store) : Prop where
  global : store.executingCount none none ≤ config.globalConcurrencyLimit
  lane : ∀ lane, store.executingCount (some lane) none ≤ config.laneLimit lane
  group : ∀ group, store.executingCount none (some group) ≤ config.groupConcurrencyLimit

structure Admits (store : Store) (job : WorkerJob) : Prop where
  global : store.executingCount none none < config.globalConcurrencyLimit
  lane : store.executingCount (some job.lane) none < config.laneLimit job.lane
  group : ∀ group, job.concurrencyGroupKey = some group →
    store.executingCount none (some group) < config.groupConcurrencyLimit

def Shrinks (m m' : Machine) : Prop :=
  ∀ lane group, m'.store.executingCount lane group ≤ m.store.executingCount lane group

variable {config}

theorem WithinLimits.shrinks {m m' : Machine} (h : WithinLimits config m.store)
    (hshrinks : Shrinks m m')
    : WithinLimits config m'.store where
  global := Nat.le_trans (hshrinks none none) h.global
  lane lane := Nat.le_trans (hshrinks (some lane) none) (h.lane lane)
  group group := Nat.le_trans (hshrinks none (some group)) (h.group group)

theorem Admits.shrinks {m m' : Machine} {job : WorkerJob} (h : Admits config m.store job)
    (hshrinks : Shrinks m m')
    : Admits config m'.store job where
  global := Nat.lt_of_le_of_lt (hshrinks none none) h.global
  lane := Nat.lt_of_le_of_lt (hshrinks (some job.lane) none) h.lane
  group group hgroup := Nat.lt_of_le_of_lt (hshrinks none (some group)) (h.group group hgroup)

theorem WithinLimits.lease {store store' : Store} {row : WorkerJob} (h : WithinLimits config store)
    (hrow : row ∈ store.jobs) (hadmits : Admits config store row) {workerId : String}
    {leaseExpires nowMs : Int}
    (hlease : store.execute (Statement.leaseNextJob row.jobId workerId leaseExpires nowMs).update
      = some store')
    : WithinLimits config store' where
  global := by
    have hcount := (Store.executingCount_lease hrow hlease none none).1
    have hroom := hadmits.global
    omega
  lane := by
    intro lane
    have hcount := Store.executingCount_lease hrow hlease (some lane) none
    by_cases hlane : row.lane = lane
    . have hroom := hadmits.lane
      rw [hlane] at hroom
      have := hcount.1
      omega
    . apply Nat.le_trans (hcount.2 _) (h.lane lane)
      simp [Store.isCounted, hlane]
  group := by
    intro group
    have hcount := Store.executingCount_lease hrow hlease none (some group)
    by_cases hgroup : row.concurrencyGroupKey = some group
    . have hroom := hadmits.group group hgroup
      have := hcount.1
      omega
    . apply Nat.le_trans (hcount.2 _) (h.group group)
      simp [Store.isCounted, hgroup]

end Limits

section Apply

variable {env : Env}

variable {m : Machine}

variable {m' : Machine}

theorem shrinks_of_evolves
    (h : Evolves KeepsIdle (fun row => row.status.isExecuting = false) m.store m'.store)
    : Shrinks m m' :=
  Store.executingCount_le_of_evolves h

theorem shrinks_of_same (h : m'.store.jobs = m.store.jobs) : Shrinks m m' :=
  shrinks_of_evolves (evolves_of_same KeepsIdle.refl h)

theorem shrinks_of_execute {worker : Option String} {statement : Statement}
    (hissued : (Operation.update statement).Issued worker false) {store : Store}
    (h : m.store.execute statement.update = some store)
    : Shrinks m { m with store } := by
  apply shrinks_of_evolves
  apply evolves_of_execute KeepsIdle.refl _ h
  intro row _ hhits
  exact keepsIdle_of_statement hissued hhits

theorem jobs_stopRenewal (m : Machine) (process : Nat)
    : (m.stopRenewal process).store.jobs = m.store.jobs := by
  unfold Machine.stopRenewal
  split
  . rfl
  . rfl

theorem shrinks_of_apply {worker : Option String} {o : Operation} (hissued : o.Issued worker false)
    (h : o.apply env m = some m')
    : Shrinks m m' := by
  cases o with
  | update statement =>
    simp only [Operation.apply, Option.map_eq_some_iff] at h
    cases h with
    | intro store h =>
      rw [← h.2]
      exact shrinks_of_execute hissued h.1
  | enqueueWorkerJob job nowMs =>
    simp only [Operation.apply, Option.map_eq_some_iff, Store.enqueueWorkerJob] at h
    cases h with
    | intro store h =>
      rw [← h.2]
      have hfresh : (freshRow job).status.isExecuting = false := rfl
      apply shrinks_of_evolves
      apply Evolves.insert _ hfresh h.1
      apply evolves_of_map (quarantineStoredRow_jobId env nowMs) rfl
      intro row _
      apply quarantineStoredRow_induction env KeepsIdle KeepsIdle.refl
      . intro row row' row''
        exact KeepsIdle.trans
      . exact keepsIdle_clearChildPolicy
      . exact keepsIdle_clearExecutionMode
  | insertCoordinatorResumeJob job =>
    simp only [Operation.apply, Option.map_eq_some_iff] at h
    cases h with
    | intro store h =>
      rw [← h.2]
      have hfresh : (freshRow job).status.isExecuting = false := rfl
      apply shrinks_of_evolves
      exact (evolves_of_same KeepsIdle.refl rfl).insert hfresh h.1
  | stopRenewal process =>
    injection h with h
    rw [← h]
    exact shrinks_of_same (jobs_stopRenewal m process)
  | _ =>
    injection h with h
    rw [← h]
    exact shrinks_of_same rfl

end Apply

section Check

variable (env : Env) (config : WorkerDispatchConfig) (candidates : List WorkerJob)

def LeasesAdmitted (o : Operation) (m : Machine) : Prop :=
  ∀ jobId workerId leaseExpires nowMs,
    o = .update (.leaseNextJob jobId workerId leaseExpires nowMs) →
    ∃ job ∈ candidates, job.jobId = jobId ∧ Admits config m.store job

abbrev Checked (script : WorkerScript) (m : Machine) : Prop :=
  Script.Relies (Operation.apply env) Shrinks (LeasesAdmitted config candidates) script m

variable {env config candidates}

variable {worker : Option String} {next : Bool → WorkerScript}

theorem leasesAdmitted_of_issued {o : Operation} (h : o.Issued worker false) (m : Machine)
    : LeasesAdmitted config candidates o m := by
  intro jobId workerId leaseExpires nowMs ho
  rw [ho] at h
  cases h

theorem checked_of_issued {script : WorkerScript} (h : IssuedScript worker false script)
    (m : Machine)
    : Checked env config candidates script m := by
  apply Script.Relies.of_ops
  apply Script.Ops.mono h
  intro o ho m
  exact leasesAdmitted_of_issued ho m

variable {known : Machine → Prop} {m : Machine}

theorem checked_ignoring (hknown : ∀ m m', Shrinks m m' → known m → known m')
    (worker : Option String) {o : Operation} {next : WorkerScript} (hm : known m)
    (hissued : o.Issued worker false) (hnext : ∀ m, known m → Checked env config candidates next m)
    : Checked env config candidates (.ignoring o next) m := by
  apply Script.Relies.ignoring
  . exact leasesAdmitted_of_issued hissued
  . intro t ht
    apply hnext
    exact hknown m t ht hm
  . intro t t' ht ht'
    apply hnext
    apply hknown t t' (shrinks_of_apply hissued ht')
    exact hknown m t ht hm

theorem checked_resolveTolerantWorkerRows (hknown : ∀ m m', Shrinks m m' → known m → known m')
    (nowMs : Int) {onError : WorkerScript} {next : List WorkerJob → WorkerScript}
    (hnext : ∀ jobs m, known m → Checked env config candidates (next jobs) m)
    (jobs rows : List WorkerJob) (hm : known m)
    : Checked env config candidates
        (resolveTolerantWorkerRows env nowMs false onError next jobs rows) m := by
  induction rows generalizing jobs m with
  | nil =>
    apply hnext
    exact hm
  | cons row rows ih =>
    unfold resolveTolerantWorkerRows
    split
    . apply checked_ignoring hknown none hm
      . exact trivial
      . intro m hm
        apply ih
        exact hm
    . apply ih
      exact hm

theorem checked_channelBlocked (hknown : ∀ m m', Shrinks m m' → known m → known m') (nowMs : Int)
    (job : WorkerJob)
    (hnext : ∀ blocked m, known m → Checked env config candidates (next blocked) m) (hm : known m)
    : Checked env config candidates (channelBlocked env config nowMs job next) m := by
  unfold channelBlocked
  split
  . apply hnext
    exact hm
  . intro t ht
    dsimp only
    split
    . apply checked_resolveTolerantWorkerRows hknown
      . intro jobs m hm
        apply hnext
        exact hm
      . exact hknown m t ht hm
    . exact trivial

theorem checked_rateLeaseBlocked (hknown : ∀ m m', Shrinks m m' → known m → known m') (nowMs : Int)
    (job : WorkerJob)
    (hnext : ∀ blocked m, known m → Checked env config candidates (next blocked) m) (hm : known m)
    : Checked env config candidates (rateLeaseBlocked config nowMs job next) m := by
  unfold rateLeaseBlocked
  split
  . apply hnext
    exact hm
  . split
    . apply hnext
      exact hm
    . apply checked_ignoring hknown none hm
      . exact trivial
      . intro m hm t ht
        apply hnext
        exact hknown m t ht hm

theorem checked_capacityBlocker (nowMs : Int) (job : WorkerJob)
    (hblocked : ∀ m, Checked env config candidates (next true) m)
    (hfree : ∀ m, Admits config m.store job → Checked env config candidates (next false) m)
    (m : Machine)
    : Checked env config candidates (capacityBlocker env config nowMs job next) m := by
  have hknown : ∀ m m', Shrinks m m' → Admits config m.store job → Admits config m'.store job := by
    intro m m' hshrinks h
    exact h.shrinks hshrinks
  have hnext : ∀ blocked m, Admits config m.store job →
      Checked env config candidates (next blocked) m := by
    intro blocked m hm
    cases blocked with
    | false => exact hfree m hm
    | true => exact hblocked m
  have hchannel : ∀ m, Admits config m.store job → Checked env config candidates
      (channelBlocked env config nowMs job fun channel =>
        if channel then next true else rateLeaseBlocked config nowMs job next) m := by
    intro m hm
    apply checked_channelBlocked hknown nowMs job _ hm
    intro channel m hm
    split
    . exact hblocked m
    . exact checked_rateLeaseBlocked hknown nowMs job hnext hm
  -- one SELECT for each limit; what the first ones have counted is at most as much later
  intro t ht
  dsimp only
  split
  . apply hblocked
  . next hglobal =>
    intro t' ht'
    dsimp only
    split
    . apply hblocked
    . next hlane =>
      have hglobal' : t'.store.executingCount none none < config.globalConcurrencyLimit := by
        have := ht' none none
        omega
      have hlane' : t'.store.executingCount (some job.lane) none < config.laneLimit job.lane := by
        unfold WorkerDispatchConfig.laneLimit
        omega
      unfold groupBlocked
      split
      . next hgroup =>
        simp only [Bool.false_eq_true, if_false]
        apply hchannel
        constructor
        . exact hglobal'
        . exact hlane'
        . intro group hsome
          rw [hgroup] at hsome
          cases hsome
      . next group hgroup =>
        intro t'' ht''
        dsimp only
        split
        . apply hblocked
        . next hcount =>
          simp only [decide_eq_true_eq] at hcount
          apply hchannel
          constructor
          . have := ht'' none none
            omega
          . have := ht'' (some job.lane) none
            omega
          . intro group' hsome
            rw [hgroup, Option.some.injEq] at hsome
            rw [← hsome]
            omega

theorem checked_leaseFirst (nowMs : Int) (workerId : String) (leaseMs : Int)
    {next : Option WorkerJob → WorkerScript} (hnext : ∀ job, IssuedScript worker false (next job))
    (rest : List WorkerJob) (hrest : ∀ job ∈ rest, job ∈ candidates) (m : Machine)
    : Checked env config candidates (leaseFirst env config nowMs workerId leaseMs next rest) m := by
  induction rest generalizing m with
  | nil =>
    apply checked_of_issued
    apply hnext
  | cons job rest ih =>
    have htail : ∀ m, Checked env config candidates
        (leaseFirst env config nowMs workerId leaseMs next rest) m := by
      intro m
      apply ih
      intro other hother
      exact hrest other (List.mem_cons_of_mem job hother)
    apply checked_capacityBlocker
    . exact htail
    . intro m hadmits t ht
      refine ⟨?_, htail t, ?_⟩
      . intro jobId workerId' leaseExpires nowMs' heq
        cases heq
        exact ⟨job, hrest job List.mem_cons_self, rfl, hadmits.shrinks ht⟩
      . intro t' _
        apply checked_of_issued
        apply issued_recordRateLease
        apply issued_findJobById
        . exact trivial
        . exact hnext

end Check

section Run

variable (env : Env)

def TakesLease (workers : Workers) (i : Nat) (row : WorkerJob) : Prop :=
  row ∈ workers.shared.store.jobs
    ∧ ∃ workerId leaseExpires nowMs lost won,
      workers.processes i
          = .op (.update (.leaseNextJob row.jobId workerId leaseExpires nowMs)) lost won
        ∧ (Statement.leaseNextJob row.jobId workerId leaseExpires nowMs).update.hits row

def NoLease (workers : Workers) (action : PoolAction RenewalEvent) : Prop :=
  ∀ i row, action = .run i → ¬TakesLease workers i row

def afterLease (harness : Harness) (process : Nat) (options : WorkerRunOnceOptions)
    (leased : Option WorkerJob)
    : WorkerScript :=
  match leased with
  | none => .done
  | some job =>
    if harness.cronBlocked job then
      persistExecutionResult job .canceled options.nowMs .done
    else
      runLeasedJob env harness process options job

/-
The call is at the head of the loop of `lease_next_job`, before the counts for the next candidate, and
the row is not among the candidates under another lane or group.
-/
def AboutToCheck (calls : Nat → WorkerCall) (workers : Workers) (i : Nat) (row : WorkerJob) : Prop :=
  ∃ options harness candidates, calls i = .runWorkerOnce options harness
    ∧ workers.processes i
        = leaseFirst env harness.config options.nowMs options.workerId options.leaseMs
          (afterLease env harness i options) candidates
    ∧ ∀ job ∈ candidates, job.jobId = row.jobId →
        job.lane = row.lane ∧ job.concurrencyGroupKey = row.concurrencyGroupKey

/-
When the next step takes a lease, no job was leased since the call of that step was about to count.
-/
def FreshCheck (calls : Nat → WorkerCall) (workers : Workers)
    (earlier : List (PoolAction RenewalEvent)) (action : PoolAction RenewalEvent)
    : Prop :=
  ∀ i row, action = .run i → TakesLease (Run.exec (step env) workers earlier) i row →
    ∃ before since, earlier = before ++ since
      ∧ AboutToCheck env calls (Run.exec (step env) workers before) i row
      ∧ Run.Guarded (step env) NoLease (Run.exec (step env) workers before) since

variable {env}

theorem issued_of_noLease {worker : Option String} {o : Operation} (h : o.Issued worker true)
    (hlease : ∀ jobId workerId leaseExpires nowMs,
      o ≠ .update (.leaseNextJob jobId workerId leaseExpires nowMs))
    : o.Issued worker false := by
  cases o with
  | update statement =>
    cases statement with
    | leaseNextJob jobId workerId leaseExpires nowMs =>
      exfalso
      apply hlease
      rfl
    | _ => exact h
  | _ => exact h

variable {workers : Workers} {calls : Nat → WorkerCall} {i : Nat}

theorem takesLease_of_apply {jobId workerId : String} {leaseExpires nowMs : Int}
    {lost won : WorkerScript} {m : Machine} (hprocess : workers.processes i
      = .op (.update (.leaseNextJob jobId workerId leaseExpires nowMs)) lost won)
    (happly : Operation.apply env (.update (.leaseNextJob jobId workerId leaseExpires nowMs))
      workers.shared = some m)
    : ∃ row, TakesLease workers i row := by
  simp only [Operation.apply, Option.map_eq_some_iff] at happly
  cases happly with
  | intro store h =>
    have hexecute := h.1
    unfold Store.execute at hexecute
    split at hexecute
    . next hany =>
      rw [List.any_eq_true] at hany
      cases hany with
      | intro row hrow =>
        have hid : row.jobId = jobId := by
          have := hrow.2
          simp only [Update.hits, Statement.update, Bool.and_eq_true] at this
          exact of_decide_eq_true this.1
        refine ⟨row, hrow.1, workerId, leaseExpires, nowMs, lost, won, ?_, ?_⟩
        . rw [hprocess, hid]
        . rw [hid]
          exact hrow.2
    . cases hexecute

theorem shrinks_step (hissued : IssuedWorkers calls workers) {action : PoolAction RenewalEvent}
    (hlease : NoLease workers action)
    : Shrinks workers.shared (step env workers action).shared := by
  have hsame : ∀ m : Machine, m.store = workers.shared.store → Shrinks workers.shared m := by
    intro m hm
    apply shrinks_of_same
    rw [hm]
  unfold step
  apply Pool.shared_step (Shrinks workers.shared)
  . exact hsame _ rfl
  . intro i o lost won m haction hprocess happly
    have ho := issued_of_process hissued hprocess
    apply shrinks_of_apply (issued_of_noLease ho _) happly
    intro jobId workerId leaseExpires nowMs heq
    subst heq
    cases takesLease_of_apply hprocess happly with
    | intro row hrow => exact hlease i row haction hrow
  . intro i
    apply shrinks_of_same
    apply jobs_stopRenewal
  . intro event
    cases event with
    | renew process nowMs =>
      simp only [RenewalEvent.apply]
      split
      . next jobId workerId attempt leaseMs hactive =>
        split
        . next store hexecute =>
          have hrenew : (Operation.update (Statement.renewLease jobId workerId attempt
              (saturateI64 (nowMs + max leaseMs 1)) nowMs)).Issued none false := trivial
          exact shrinks_of_execute hrenew hexecute
        . exact hsame _ rfl
      . exact hsame _ rfl
    | fail process reason =>
      simp only [RenewalEvent.apply]
      split
      . exact hsame _ rfl
      . exact hsame _ rfl

theorem checked_step (hissued : IssuedWorkers calls workers) {action : PoolAction RenewalEvent}
    (hlease : NoLease workers action) {config : WorkerDispatchConfig} {candidates : List WorkerJob}
    (h : Checked env config candidates (workers.processes i) workers.shared)
    : Checked env config candidates ((step env workers action).processes i)
        (step env workers action).shared := by
  have hshrinks : Shrinks workers.shared (step env workers action).shared :=
    shrinks_step hissued hlease
  have hmoved := h.moved (fun _ _ _ hst htu lane group =>
    Nat.le_trans (htu lane group) (hst lane group)) hshrinks
  cases action with
  | run j =>
    by_cases hj : i = j
    . have hstep := h.step fun _ _ _ => Nat.le_refl _
      simpa [step, Pool.step, Pool.set, hj] using hstep
    . simpa [step, Pool.step, Pool.set, hj] using hmoved
  | abort j =>
    by_cases hj : i = j
    . simp [step, Pool.step, Pool.set, hj, Checked, Script.Relies]
    . simpa [step, Pool.step, Pool.set, hj] using hmoved
  | event e => exact hmoved

theorem checked_exec (hissued : IssuedWorkers calls workers)
    {since : List (PoolAction RenewalEvent)}
    (hguarded : Run.Guarded (step env) NoLease workers since) {config : WorkerDispatchConfig}
    {candidates : List WorkerJob}
    (h : Checked env config candidates (workers.processes i) workers.shared)
    : Checked env config candidates ((Run.exec (step env) workers since).processes i)
        (Run.exec (step env) workers since).shared := by
  have hinv := Run.exec_invariant_of_guarded
    (fun workers => IssuedWorkers calls workers
      ∧ Checked env config candidates (workers.processes i) workers.shared)
    (by
      intro workers action h hguard
      exact ⟨h.1.step action, checked_step h.1 hguard h.2⟩)
    ⟨hissued, h⟩ hguarded
  exact hinv.2

theorem issued_afterLease (harness : Harness) (process : Nat) (options : WorkerRunOnceOptions)
    (leased : Option WorkerJob)
    : IssuedScript (some options.workerId) false (afterLease env harness process options leased) := by
  unfold afterLease
  split
  . exact trivial
  . split
    . apply issued_persistExecutionResult _ _ rfl
      exact trivial
    . apply issued_runLeasedJob

theorem admits_of_freshCheck (hissued : IssuedWorkers calls workers) {config : WorkerDispatchConfig}
    (hconfig : ∀ i options harness, calls i = .runWorkerOnce options harness →
      harness.config = config) {earlier : List (PoolAction RenewalEvent)} {row : WorkerJob}
    (hfresh : FreshCheck env calls workers earlier (.run i))
    (htakes : TakesLease (Run.exec (step env) workers earlier) i row)
    : Admits config (Run.exec (step env) workers earlier).shared.store row := by
  obtain ⟨before, since, hsplit, ⟨options, harness, candidates, hcall, hprocess, hagrees⟩, hquiet⟩ :=
    hfresh i row rfl htakes
  have hchecked : Checked env config candidates
      ((Run.exec (step env) workers before).processes i)
      (Run.exec (step env) workers before).shared := by
    rw [hprocess, hconfig i options harness hcall]
    apply checked_leaseFirst _ _ _ (issued_afterLease harness i options)
    simp
  have hlast := checked_exec (issuedWorkers_exec env hissued before) hquiet hchecked
  rw [← Run.exec_append, ← hsplit] at hlast
  obtain ⟨_, workerId, leaseExpires, nowMs, lost, won, hop, _⟩ := htakes
  rw [hop] at hlast
  have hadmitted := (hlast _ fun _ _ => Nat.le_refl _).1 row.jobId workerId leaseExpires nowMs rfl
  obtain ⟨job, hjob, hid, hadmits⟩ := hadmitted
  have hsame := hagrees job hjob hid
  constructor
  . exact hadmits.global
  . rw [← hsame.1]
    exact hadmits.lane
  . intro group hgroup
    apply hadmits.group
    rw [hsame.2, hgroup]

theorem withinLimits_step (hissued : IssuedWorkers calls workers) {config : WorkerDispatchConfig}
    (hlimits : WithinLimits config workers.shared.store) (action : PoolAction RenewalEvent)
    (hadmits : ∀ i row, action = .run i → TakesLease workers i row →
      Admits config workers.shared.store row)
    : WithinLimits config (step env workers action).shared.store := by
  by_cases hlease : NoLease workers action
  . exact hlimits.shrinks (shrinks_step hissued hlease)
  . simp only [NoLease, not_forall, not_not] at hlease
    obtain ⟨i, row, haction, htakes⟩ := hlease
    have hroom := hadmits i row haction htakes
    obtain ⟨hrow, workerId, leaseExpires, nowMs, lost, won, hop, _⟩ := htakes
    subst haction
    simp only [step, Pool.step, hop, Script.step, Operation.apply]
    cases hexecute : workers.shared.store.execute
        (Statement.leaseNextJob row.jobId workerId leaseExpires nowMs).update with
    | none => exact hlimits
    | some store => exact hlimits.lease hrow hroom hexecute

end Run

/-
Any number of workers, reapers and cancellations side by side, one statement at a time. As long as no
job is leased between the counts of a call and its own lease, the executing jobs stay within the
global limit and the limits of the lanes and concurrency groups.
-/
theorem withinLimits_of_freshChecks (env : Env) (config : WorkerDispatchConfig) {store : Store}
    (hstart : WithinLimits config store) (calls : Nat → WorkerCall)
    (hconfig : ∀ i options harness, calls i = .runWorkerOnce options harness →
      harness.config = config)
    (schedule : List (PoolAction RenewalEvent))
    (hfresh : ∀ earlier action rest, schedule = earlier ++ action :: rest →
      FreshCheck env calls (start env store calls) earlier action)
    : ∀ earlier, earlier <+: schedule →
        WithinLimits config
          (Run.exec (step env) (start env store calls) earlier).shared.store := by
  intro earlier
  induction earlier using List.reverseRecOn with
  | nil =>
    intro _
    exact hstart
  | append_singleton earlier action ih =>
    intro hinitial
    obtain ⟨rest, hrest⟩ := hinitial
    rw [List.append_assoc, List.singleton_append] at hrest
    have hissued := issuedWorkers_start env store calls
    rw [Run.exec_concat]
    apply withinLimits_step (issuedWorkers_exec env hissued earlier)
    . apply ih
      exact ⟨action :: rest, hrest⟩
    . intro i row haction htakes
      apply admits_of_freshCheck hissued hconfig _ htakes
      rw [← haction]
      exact hfresh earlier action rest hrest.symm

theorem withinLimits_of_idle (config : WorkerDispatchConfig) {store : Store}
    (h : ∀ row ∈ store.jobs, row.status.isExecuting = false)
    : WithinLimits config store := by
  have hzero : ∀ lane group, store.executingCount lane group = 0 := by
    intro lane group
    rw [Store.executingCount_eq, List.countP_eq_zero]
    intro row hrow
    simp [Store.isCounted, h row hrow]
  constructor
  . simp [hzero]
  . simp [hzero]
  . simp [hzero]

def sampleSingleConfig : WorkerDispatchConfig :=
  { sampleConfig with globalConcurrencyLimit := 1 }

def sampleLaneRun (lane : String) : WorkerCall :=
  .runWorkerOnce { lane := some lane, workerId := lane, nowMs := 1000, leaseMs := 1000 }
    { sampleHarness with config := sampleSingleConfig }

def samplePair : Store where
  jobs := [sampleJob .deterministicShell 0,
    { sampleJob .llmSubagent 0 with jobId := "job-2", lane := "llm", idempotencyKey := "key-2" }]
  rateLeases := []
  nodup := by decide

def samplePairRuns : Nat → WorkerCall
  | 0 => sampleLaneRun "shell"
  | _ => sampleLaneRun "llm"

theorem samplePair_withinLimits : WithinLimits sampleSingleConfig samplePair := by
  apply withinLimits_of_idle
  decide

theorem samplePairRuns_config (i : Nat) (options : WorkerRunOnceOptions) (harness : Harness)
    (hcall : samplePairRuns i = .runWorkerOnce options harness)
    : harness.config = sampleSingleConfig := by
  cases i with
  | zero =>
    cases hcall
    rfl
  | succ i =>
    cases hcall
    rfl

-- worker 1 has its candidates, worker 0 counts and leases, and then worker 1 counts
def countedInTurn : List (PoolAction RenewalEvent) :=
  List.replicate 6 (.run 1) ++ List.replicate 9 (.run 0) ++ List.replicate 3 (.run 1)

theorem countedInTurn_freshChecks (earlier : List (PoolAction RenewalEvent))
    (action : PoolAction RenewalEvent) (rest : List (PoolAction RenewalEvent))
    (hsplit : countedInTurn = earlier ++ action :: rest)
    : FreshCheck sampleEnv samplePairRuns (start sampleEnv samplePair samplePairRuns) earlier
        action := by
  intro i row haction htakes
  subst haction
  have hearlier : earlier = countedInTurn.take earlier.length := by
    rw [hsplit, List.take_left]
  have haction : countedInTurn[earlier.length]? = some (.run i) := by
    simp [hsplit]
  have hlength : earlier.length < 18 := by
    have := congrArg List.length hsplit
    simp [countedInTurn] at this
    omega
  -- the fifteenth step is the lease; its call came to the counts two steps before
  by_cases hlast : earlier.length = 14
  . rw [hlast] at hearlier haction
    cases haction
    rw [hearlier] at htakes
    refine ⟨countedInTurn.take 12, [.run 0, .run 0], hearlier, ?_, ?_⟩
    . refine ⟨_, _, [sampleJob .deterministicShell 0], rfl, rfl, ?_⟩
      obtain ⟨hrow, workerId, leaseExpires, nowMs, lost, won, hop, _⟩ := htakes
      have hid : row.jobId = "job-1" := by
        injection hop with hop
        injection hop with hop
        injection hop with hop
        exact hop.symm
      have hrows : row ∈ samplePair.jobs := hrow
      simp only [samplePair, List.mem_cons, List.not_mem_nil, or_false] at hrows
      cases hrows with
      | inl hfirst => simp [hfirst]
      | inr hsecond => simp [hsecond] at hid
    . refine ⟨?_, ?_, trivial⟩
      . rintro j other hj ⟨_, workerId, leaseExpires, nowMs, lost, won, hop, _⟩
        injection hj with hj
        subst hj
        cases hop
      . rintro j other hj ⟨_, workerId, leaseExpires, nowMs, lost, won, hop, _⟩
        injection hj with hj
        subst hj
        cases hop
  . exfalso
    obtain ⟨_, workerId, leaseExpires, nowMs, lost, won, hop, _⟩ := htakes
    rw [hearlier] at hop
    generalize earlier.length = k at hop hlength hlast haction
    interval_cases k
    all_goals first | exact hlast rfl | (cases haction; cases hop)

theorem withinLimits_of_counts_in_turn
    : let final := Run.exec (step sampleEnv) (start sampleEnv samplePair samplePairRuns)
        countedInTurn
      WithinLimits sampleSingleConfig final.shared.store
        ∧ final.shared.store.executingCount none none = 1 :=
  ⟨withinLimits_of_freshChecks sampleEnv sampleSingleConfig samplePair_withinLimits samplePairRuns
    samplePairRuns_config countedInTurn countedInTurn_freshChecks _ (List.prefix_refl _), rfl⟩

/-
Two workers for two lanes with one slot for both. Each counts no executing job, and each leases one.
-/
theorem leases_exceed_global_limit
    : ¬ ∀ env config store calls schedule, WithinLimits config store →
        (∀ i options harness, calls i = .runWorkerOnce options harness →
          harness.config = config) →
        ∀ earlier, earlier <+: schedule →
          WithinLimits config (Run.exec (step env) (start env store calls) earlier).shared.store := by
  intro h
  let schedule : List (PoolAction RenewalEvent) :=
    List.replicate 8 (.run 0) ++ List.replicate 8 (.run 1) ++ [.run 0, .run 1]
  have hlimits := h sampleEnv sampleSingleConfig samplePair samplePairRuns schedule
    samplePair_withinLimits samplePairRuns_config schedule (List.prefix_refl schedule)
  have hglobal := hlimits.global
  revert hglobal
  decide +kernel

end WorkerStore
