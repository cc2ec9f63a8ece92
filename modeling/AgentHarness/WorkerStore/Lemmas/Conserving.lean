import AgentHarness.WorkerStore.Lemmas.Lease

/-!
What a lease that nobody interrupts leaves behind when it returns no job.
-/

namespace WorkerStore

variable (env : Env) (config : WorkerDispatchConfig) (nowMs : Int)

-- `lease_next_job` returns without an error and without a job
def LeasesNothing (laneFilter : Option String) (workerId : String) (leaseMs : Int) (m : Machine) : Prop :=
  (leaseNextJob env config nowMs laneFilter workerId leaseMs fun leased =>
    if leased.isNone then .done else .failed).succeeds (Operation.apply env) m

-- `capacity_blocker` returns `None`
def Unblocked (m : Machine) (job : WorkerJob) : Prop :=
  (capacityBlocker env config nowMs job fun blocked =>
    if blocked then .failed else .done).succeeds (Operation.apply env) m

-- `capacity_blocker` returns a blocker; the third answer is an error
def Blocked (m : Machine) (job : WorkerJob) : Prop :=
  (capacityBlocker env config nowMs job fun blocked =>
    if blocked then .done else .failed).succeeds (Operation.apply env) m

def IsDue (laneFilter : Option String) (job : WorkerJob) : Prop :=
  job.status.isDue ∧ job.attempt < job.maxAttempts ∧ job.availableAtMs ≤ nowMs
    ∧ laneFilter.all (job.lane = ·)

def HasRunnable (laneFilter : Option String) (m : Machine) : Prop :=
  ∃ job ∈ m.store.jobs, IsDue nowMs laneFilter job ∧ rowToJob env job ∧ Unblocked env config nowMs m job

def AllBlocked (laneFilter : Option String) (m : Machine) : Prop :=
  ∀ row ∈ m.store.pendingCandidates laneFilter nowMs,
    rowToJobToleratingInvalidChildPolicy env row
      ∧ (storedChildPolicyIsInvalid env row = false → Blocked env config nowMs m row)

def executingRows (m : Machine) : List WorkerJob :=
  m.store.jobs.filter (·.status.isExecuting)

def hasPolicy (job : WorkerJob) : Bool :=
  !storedChildPolicyIsInvalid env job

def rateSince : Int :=
  saturateI64 (nowMs - config.rateLeaseWindowMs)

def rateBlocked (m : Machine) (job : WorkerJob) : Bool :=
  job.rateKey.any fun rateKey =>
    config.rateLeaseLimit ≠ 0
      && config.rateLeaseLimit ≤ m.store.rateLeaseCount rateKey (rateSince config nowMs)

def blocksChannel (m : Machine) (job : WorkerJob) : Option Bool :=
  let readable := (executingRows m).filter (hasPolicy env)
  match workerChannelKey job with
  | none => some (rateBlocked config nowMs m job)
  | some channelKey =>
    if readable.all (rowToJobToleratingInvalidChildPolicy env) then
      some (config.channelConcurrencyLimit
          ≤ readable.countP (fun other => workerChannelKey other = some channelKey)
        || rateBlocked config nowMs m job)
    else
      none

def blocks (m : Machine) (job : WorkerJob) : Option Bool :=
  if config.globalConcurrencyLimit ≤ m.store.executingCount none none
      ∨ (config.laneConcurrencyLimits.lookup job.lane).getD config.globalConcurrencyLimit
        ≤ m.store.executingCount (some job.lane) none
      ∨ ∃ group ∈ job.concurrencyGroupKey,
        config.groupConcurrencyLimit ≤ m.store.executingCount none (some group) then
    some true
  else
    blocksChannel env config nowMs m job

/-
What a lease does to the store before it has found a job: rows with an unreadable policy are taken out of the
queue, and rate leases that are too old are removed.
-/
structure Cleans (m m' : Machine) : Prop where
  kept : ∀ row ∈ m.store.jobs, hasPolicy env row → row ∈ m'.store.jobs
  origin : ∀ row ∈ m'.store.jobs, row ∈ m.store.jobs ∨ row.childPolicyJson = none
  executing : (executingRows m').Sublist (executingRows m)
  readable : (executingRows m').filter (hasPolicy env) = (executingRows m).filter (hasPolicy env)
  rates : ∀ rateKey, m'.store.rateLeaseCount rateKey (rateSince config nowMs)
    = m.store.rateLeaseCount rateKey (rateSince config nowMs)

section

variable {env config nowMs} {m m' m'' : Machine} {laneFilter : Option String}

theorem Cleans.refl (m : Machine) : Cleans env config nowMs m m where
  kept _ hrow _ := hrow
  origin _ hrow := .inl hrow
  executing := .refl _
  readable := rfl
  rates _ := rfl

theorem Cleans.trans (h : Cleans env config nowMs m m') (h' : Cleans env config nowMs m' m'')
    : Cleans env config nowMs m m'' where
  kept row hrow hpolicy := h'.kept row (h.kept row hrow hpolicy) hpolicy
  origin row hrow := by
    cases h'.origin row hrow with
    | inl hmiddle => exact h.origin row hmiddle
    | inr hnone => exact .inr hnone
  executing := h'.executing.trans h.executing
  readable := h'.readable.trans h.readable
  rates rateKey := (h'.rates rateKey).trans (h.rates rateKey)

theorem filter_map_sublist {α : Type u} {p : α → Bool} {f : α → α} {l : List α}
    (h : ∀ a ∈ l, f a = a ∨ p (f a) = false)
    : ((l.map f).filter p).Sublist (l.filter p) := by
  induction l with
  | nil => exact .refl _
  | cons a l ih =>
    have hrest := ih fun b hb => h b (List.mem_cons_of_mem a hb)
    rw [List.map_cons, List.filter_cons, List.filter_cons]
    cases h a List.mem_cons_self with
    | inl hsame =>
      rw [hsame]
      split
      . exact hrest.cons_cons a
      . exact hrest
    | inr hdropped =>
      simp only [hdropped, Bool.false_eq_true, if_false]
      split
      . exact hrest.cons a
      . exact hrest

theorem filter_map_eq {α : Type u} {p : α → Bool} {f : α → α} {l : List α}
    (h : ∀ a ∈ l, f a = a ∨ (p (f a) = false ∧ p a = false))
    : (l.map f).filter p = l.filter p := by
  induction l with
  | nil => rfl
  | cons a l ih =>
    have hrest := ih fun b hb => h b (List.mem_cons_of_mem a hb)
    rw [List.map_cons, List.filter_cons, List.filter_cons, hrest]
    cases h a List.mem_cons_self with
    | inl hsame => rw [hsame]
    | inr hdropped => simp [hdropped]

theorem cleans_quarantine {row : WorkerJob}
    (hpolicy : ∀ stored ∈ m.store.jobs, stored.jobId = row.jobId → stored.childPolicyJson ≠ none
      → hasPolicy env stored = false)
    (happly : Operation.apply env (.update (.quarantineInvalidStoredChildPolicy row.jobId nowMs)) m
      = some m')
    : Cleans env config nowMs m m' := by
  let update := (Statement.quarantineInvalidStoredChildPolicy row.jobId nowMs).update
  simp only [Operation.apply, Option.map_eq_some_iff] at happly
  obtain ⟨store, hstore, rfl⟩ := happly
  obtain ⟨hjobs, hrates⟩ : store.jobs = m.store.jobs.map update.row
      ∧ store.rateLeases = m.store.rateLeases := by
    unfold Store.execute at hstore
    split at hstore
    . cases hstore
      exact ⟨rfl, rfl⟩
    . cases hstore
  have hrow : ∀ stored ∈ m.store.jobs, update.row stored = stored
      ∨ (hasPolicy env stored = false ∧ (update.row stored).childPolicyJson = none
        ∧ (update.row stored).status.isExecuting = false) := by
    intro stored hstored
    unfold Update.row
    split
    . next hhits =>
      simp only [update, Update.hits, Statement.update, Bool.and_eq_true, decide_eq_true_eq] at hhits
      refine .inr ⟨hpolicy stored hstored hhits.1 (Option.isSome_iff_ne_none.1 hhits.2), rfl, ?_⟩
      simp only [update, Statement.update, clearChildPolicy, quarantinedRow]
      cases hstatus : stored.status with
      | _ => rfl
    . exact .inl rfl
  constructor
  . intro stored hstored hstays
    rw [hjobs, List.mem_map]
    refine ⟨stored, hstored, ?_⟩
    cases hrow stored hstored with
    | inl hsame => exact hsame
    | inr hcleared => simp [hcleared.1] at hstays
  . intro stored hstored
    rw [hjobs, List.mem_map] at hstored
    obtain ⟨origin, horigin, rfl⟩ := hstored
    cases hrow origin horigin with
    | inl hsame =>
      rw [hsame]
      exact .inl horigin
    | inr hcleared => exact .inr hcleared.2.1
  . unfold executingRows
    rw [hjobs]
    apply filter_map_sublist
    intro stored hstored
    cases hrow stored hstored with
    | inl hsame => exact .inl hsame
    | inr hcleared => exact .inr hcleared.2.2
  . unfold executingRows
    rw [hjobs, List.filter_filter, List.filter_filter]
    apply filter_map_eq
    intro stored hstored
    cases hrow stored hstored with
    | inl hsame => exact .inl hsame
    | inr hcleared => exact .inr (by simp [hcleared])
  . intro rateKey
    simp only [Store.rateLeaseCount, hrates]

theorem resolveTolerantWorkerRows_succeeds {base : Machine} {onError : WorkerScript}
    {next : List WorkerJob → WorkerScript} (rows : List WorkerJob)
    (hrows : ∀ row ∈ rows, row ∈ base.store.jobs) (jobs : List WorkerJob) (m : Machine)
    (h : Cleans env config nowMs base m)
    : ∃ m', Cleans env config nowMs base m'
        ∧ (resolveTolerantWorkerRows env nowMs false onError next jobs rows).succeeds
            (Operation.apply env) m
          = (next (jobs ++ rows.filter (hasPolicy env))).succeeds (Operation.apply env) m' := by
  induction rows generalizing jobs m with
  | nil =>
    refine ⟨m, h, ?_⟩
    rw [List.filter_nil, List.append_nil]
    rfl
  | cons row rows ih =>
    have ih := ih fun other hother => hrows other (List.mem_cons_of_mem row hother)
    unfold resolveTolerantWorkerRows
    rw [List.filter_cons]
    cases hinvalid : storedChildPolicyIsInvalid env row with
    | false =>
      simp only [Bool.false_eq_true, if_false, hasPolicy, hinvalid, Bool.not_false, if_true]
      obtain ⟨m', hm', heq⟩ := ih (jobs ++ [row]) m h
      refine ⟨m', hm', ?_⟩
      rw [heq, List.append_assoc]
      rfl
    | true =>
      simp only [Bool.false_eq_true, if_false, hasPolicy, hinvalid, Bool.not_true, if_true]
      have hstep : ∀ later, Operation.apply env
          (.update (.quarantineInvalidStoredChildPolicy row.jobId nowMs)) m = some later
            → Cleans env config nowMs base later := by
        intro later happly
        apply h.trans (cleans_quarantine _ happly)
        intro stored hstored hid hsome
        cases h.origin stored hstored with
        | inl hbase =>
          have hsame : stored = row :=
            List.inj_on_of_nodup_map base.store.nodup hbase (hrows row List.mem_cons_self) hid
          simp [hasPolicy, hsame, hinvalid]
        | inr hnone => exact absurd hnone hsome
      unfold Script.ignoring
      cases happly : Operation.apply env
          (.update (.quarantineInvalidStoredChildPolicy row.jobId nowMs)) m with
      | none =>
        obtain ⟨m', hm', heq⟩ := ih jobs m h
        refine ⟨m', hm', ?_⟩
        simp only [Script.succeeds, happly]
        exact heq
      | some later =>
        obtain ⟨m', hm', heq⟩ := ih jobs later (hstep later happly)
        refine ⟨m', hm', ?_⟩
        simp only [Script.succeeds, happly]
        exact heq

variable (env config nowMs) in
theorem selectTolerantJobs_succeeds (select : Store → List WorkerJob)
    (next : List WorkerJob → WorkerScript) (m : Machine)
    (hselect : ∀ row ∈ select m.store, row ∈ m.store.jobs)
    : ∃ m', Cleans env config nowMs m m'
        ∧ (selectTolerantJobs env select nowMs false .failed next).succeeds (Operation.apply env) m
          = ((select m.store).all (rowToJobToleratingInvalidChildPolicy env)
            && (next ((select m.store).filter (hasPolicy env))).succeeds (Operation.apply env) m') := by
  have hrefl : Cleans env config nowMs m m := .refl m
  obtain ⟨m', hm', heq⟩ := resolveTolerantWorkerRows_succeeds (select m.store) hselect [] m hrefl
  refine ⟨m', hm', ?_⟩
  unfold selectTolerantJobs
  simp only [Script.succeeds]
  split
  . next hall =>
    rw [hall, Bool.true_and]
    exact heq
  . next hall => simp [hall, Script.succeeds]

variable (env config nowMs) in
theorem rateLeaseBlocked_succeeds (job : WorkerJob) (next : Bool → WorkerScript) (m : Machine)
    : ∃ m', Cleans env config nowMs m m'
        ∧ (rateLeaseBlocked config nowMs job next).succeeds (Operation.apply env) m
          = (next (rateBlocked config nowMs m job)).succeeds (Operation.apply env) m' := by
  unfold rateLeaseBlocked rateBlocked
  cases job.rateKey with
  | none => exact ⟨m, .refl m, rfl⟩
  | some rateKey =>
    dsimp only [Option.any_some]
    split
    . next hzero =>
      refine ⟨m, .refl m, ?_⟩
      simp [hzero]
    . next hlimit =>
      let kept := m.store.rateLeases.filter fun lease => rateSince config nowMs ≤ lease.leasedAtMs
      have hcount : ∀ rateKey, kept.countP (fun lease => decide (lease.rateKey = rateKey)
          && decide (rateSince config nowMs ≤ lease.leasedAtMs))
            = m.store.rateLeaseCount rateKey (rateSince config nowMs) := by
        intro rateKey
        simp only [kept, List.countP_filter, Store.rateLeaseCount]
        apply List.countP_congr
        intro lease _
        simp
      refine ⟨{ m with store := { m.store with rateLeases := kept } }, ?_, ?_⟩
      . exact ⟨fun _ hrow _ => hrow, fun _ hrow => .inl hrow, .refl _, rfl, hcount⟩
      . simp only [hlimit, ne_eq, not_false_eq_true, decide_true, Bool.true_and]
        rw [← hcount rateKey]
        rfl

theorem executingCount_eq (m : Machine) (lane group : Option String)
    : m.store.executingCount lane group = (executingRows m).countP fun job =>
        lane.all (job.lane = ·) && group.all (job.concurrencyGroupKey = some ·) := by
  unfold Store.executingCount executingRows
  rw [List.countP_filter]
  apply List.countP_congr
  intro job _
  simp only [Bool.and_eq_true]
  tauto

theorem groupBlocked_succeeds (job : WorkerJob) (next : Bool → WorkerScript) (m : Machine)
    : (groupBlocked config job next).succeeds (Operation.apply env) m
        = (next (decide (∃ group ∈ job.concurrencyGroupKey,
            config.groupConcurrencyLimit ≤ m.store.executingCount none (some group)))).succeeds
          (Operation.apply env) m := by
  unfold groupBlocked
  cases job.concurrencyGroupKey with
  | none => simp
  | some group => simp [Script.succeeds]

theorem all_tolerant (rows : List WorkerJob)
    : rows.all (rowToJobToleratingInvalidChildPolicy env)
        = (rows.filter (hasPolicy env)).all (rowToJobToleratingInvalidChildPolicy env) := by
  rw [List.all_filter]
  congr 1
  funext row
  cases hinvalid : storedChildPolicyIsInvalid env row with
  | true => simp [rowToJobToleratingInvalidChildPolicy, hasPolicy, hinvalid]
  | false => simp [hasPolicy, hinvalid]

theorem Cleans.rateBlocked_eq (h : Cleans env config nowMs m m') (job : WorkerJob)
    : rateBlocked config nowMs m' job = rateBlocked config nowMs m job := by
  simp only [rateBlocked, h.rates]

variable (env config nowMs) in
theorem channelBlocked_succeeds (job : WorkerJob) (next : Bool → WorkerScript) (m : Machine)
    : ∃ m', Cleans env config nowMs m m'
        ∧ (channelBlocked env config nowMs job fun channel =>
            if channel then next true else rateLeaseBlocked config nowMs job next).succeeds
              (Operation.apply env) m
          = (blocksChannel env config nowMs m job).any fun blocked =>
            (next blocked).succeeds (Operation.apply env) m' := by
  unfold channelBlocked blocksChannel
  cases workerChannelKey job with
  | none =>
    obtain ⟨m', hm', heq⟩ := rateLeaseBlocked_succeeds env config nowMs job next m
    refine ⟨m', hm', ?_⟩
    simpa using heq
  | some channelKey =>
    unfold executingChannelCount
    obtain ⟨middle, hmiddle, heq⟩ := selectTolerantJobs_succeeds env config nowMs
      (fun store => store.jobs.filter (·.status.isExecuting))
      (fun jobs => if config.channelConcurrencyLimit
          ≤ jobs.countP (fun other => workerChannelKey other = some channelKey) then
        next true
      else
        rateLeaseBlocked config nowMs job next) m (fun row hrow => List.mem_of_mem_filter hrow)
    obtain ⟨m', hm', hrate⟩ := rateLeaseBlocked_succeeds env config nowMs job next middle
    rw [hmiddle.rateBlocked_eq] at hrate
    rw [all_tolerant] at heq
    simp only [decide_eq_true_eq]
    unfold executingRows
    generalize (m.store.jobs.filter (·.status.isExecuting)).filter (hasPolicy env) = readable at heq ⊢
    by_cases hfull : config.channelConcurrencyLimit
        ≤ readable.countP (fun other => workerChannelKey other = some channelKey)
    . refine ⟨middle, hmiddle, ?_⟩
      rw [heq, if_pos hfull, decide_eq_true hfull, Bool.true_or]
      cases readable.all (rowToJobToleratingInvalidChildPolicy env) with
      | true => rfl
      | false => rfl
    . refine ⟨m', hmiddle.trans hm', ?_⟩
      rw [heq, if_neg hfull, hrate, decide_eq_false hfull, Bool.false_or]
      cases readable.all (rowToJobToleratingInvalidChildPolicy env) with
      | true => rfl
      | false => rfl

variable (env config nowMs) in
theorem capacityBlocker_succeeds (job : WorkerJob) (next : Bool → WorkerScript) (m : Machine)
    : ∃ m', Cleans env config nowMs m m'
        ∧ (capacityBlocker env config nowMs job next).succeeds (Operation.apply env) m
          = (blocks env config nowMs m job).any fun blocked =>
            (next blocked).succeeds (Operation.apply env) m' := by
  unfold capacityBlocker blocks
  simp only [Script.succeeds]
  by_cases hglobal : config.globalConcurrencyLimit ≤ m.store.executingCount none none
  . exact ⟨m, .refl m, by simp [hglobal]⟩
  . rw [if_neg hglobal]
    simp only [Script.succeeds]
    by_cases hlane : (config.laneConcurrencyLimits.lookup job.lane).getD config.globalConcurrencyLimit
        ≤ m.store.executingCount (some job.lane) none
    . exact ⟨m, .refl m, by simp [hlane]⟩
    . rw [if_neg hlane, groupBlocked_succeeds]
      simp only [hglobal, hlane, false_or, decide_eq_true_eq]
      by_cases hgroup : ∃ group ∈ job.concurrencyGroupKey,
          config.groupConcurrencyLimit ≤ m.store.executingCount none (some group)
      . refine ⟨m, .refl m, ?_⟩
        rw [if_pos hgroup, if_pos hgroup]
        rfl
      . rw [if_neg hgroup, if_neg hgroup]
        apply channelBlocked_succeeds

theorem Cleans.executingCount_le (h : Cleans env config nowMs m m') (lane group : Option String)
    : m'.store.executingCount lane group ≤ m.store.executingCount lane group := by
  rw [executingCount_eq, executingCount_eq]
  apply h.executing.countP_le

theorem Cleans.executingRows_eq (h : Cleans env config nowMs m m')
    (hpolicies : ∀ row ∈ executingRows m, hasPolicy env row)
    : executingRows m' = executingRows m := by
  have hreadable := h.readable
  rw [List.filter_eq_self.2 hpolicies,
    List.filter_eq_self.2 fun row hrow => hpolicies row (h.executing.subset hrow)] at hreadable
  exact hreadable

theorem Cleans.blocks_eq (h : Cleans env config nowMs m m')
    (hpolicies : ∀ row ∈ executingRows m, hasPolicy env row) (job : WorkerJob)
    : blocks env config nowMs m' job = blocks env config nowMs m job := by
  simp only [blocks, blocksChannel, executingCount_eq, h.executingRows_eq hpolicies, h.rateBlocked_eq]

theorem Cleans.blocks_true (h : Cleans env config nowMs m m') {job : WorkerJob}
    (hblocks : blocks env config nowMs m' job = some true)
    : blocks env config nowMs m job = some true := by
  unfold blocks blocksChannel at hblocks ⊢
  dsimp only at hblocks ⊢
  split
  . rfl
  . next hfree =>
    rw [if_neg, h.readable, h.rateBlocked_eq] at hblocks
    . exact hblocks
    . intro hfull
      apply hfree
      rcases hfull with hglobal | hlane | ⟨group, hgroup, hfull⟩
      . exact .inl (hglobal.trans (h.executingCount_le _ _))
      . exact .inr (.inl (hlane.trans (h.executingCount_le _ _)))
      . exact .inr (.inr ⟨group, hgroup, hfull.trans (h.executingCount_le _ _)⟩)

theorem blocked_iff (m : Machine) (job : WorkerJob)
    : Blocked env config nowMs m job ↔ blocks env config nowMs m job = some true := by
  unfold Blocked
  obtain ⟨m', _, heq⟩ := capacityBlocker_succeeds env config nowMs job
    (fun blocked => if blocked then .done else .failed) m
  rw [heq]
  cases blocks env config nowMs m job with
  | none => simp
  | some blocked =>
    cases blocked with
    | true => simp [Script.succeeds]
    | false => simp [Script.succeeds]

variable (env config nowMs) in
theorem recordRateLease_succeeds (job : WorkerJob) (next : WorkerScript) (m : Machine)
    : ∃ m', m'.store.jobs = m.store.jobs
        ∧ (recordRateLease config nowMs job next).succeeds (Operation.apply env) m
          = next.succeeds (Operation.apply env) m' := by
  unfold recordRateLease
  cases job.rateKey with
  | none => exact ⟨m, rfl, rfl⟩
  | some rateKey =>
    dsimp only
    split
    . exact ⟨m, rfl, rfl⟩
    . let kept := m.store.rateLeases.filter fun lease => rateSince config nowMs ≤ lease.leasedAtMs
      let lease : RateLease := { rateKey, jobId := job.jobId, leasedAtMs := nowMs }
      exact ⟨{ m with store := { m.store with rateLeases := kept ++ [lease] } }, rfl, rfl⟩

theorem lease_fails {job : WorkerJob} (hjob : job ∈ m.store.jobs) (hdue : IsDue nowMs laneFilter job)
    (workerId : String) (leaseExpires : Int) (lost : WorkerScript)
    : (execute (.leaseNextJob job.jobId workerId leaseExpires nowMs) lost
          (recordRateLease config nowMs job (findJobById env job.jobId .failed fun leased =>
            if leased.isNone then .done else .failed))).succeeds (Operation.apply env) m = false := by
  let update := (Statement.leaseNextJob job.jobId workerId leaseExpires nowMs).update
  have hhits : update.hits job := by
    simp [update, Update.hits, Statement.update, hdue.1, hdue.2.1]
  obtain ⟨store, hstore, hjobs⟩ : ∃ store, m.store.execute update = some store
      ∧ store.jobs = m.store.jobs.map update.row := by
    unfold Store.execute
    rw [if_pos (List.any_eq_true.2 ⟨job, hjob, hhits⟩)]
    exact ⟨_, rfl, rfl⟩
  obtain ⟨m', hm', heq⟩ := recordRateLease_succeeds env config nowMs job
    (findJobById env job.jobId .failed fun leased => if leased.isNone then .done else .failed)
    { m with store }
  have hfound : m'.store.findJobById job.jobId = some (update.row job) := by
    have hmem : update.row job ∈ m'.store.jobs := by
      rw [hm', hjobs]
      apply List.mem_map_of_mem hjob
    have := Store.findJobById_of_mem hmem
    rwa [Update.row_jobId] at this
  have happly : Operation.apply env (.update (.leaseNextJob job.jobId workerId leaseExpires nowMs)) m
      = some { m with store } := by
    simp only [Operation.apply]
    rw [hstore]
    rfl
  unfold execute
  simp only [Script.succeeds, happly]
  rw [heq]
  unfold findJobById
  simp only [Script.succeeds, hfound]
  split
  . rfl
  . rfl

theorem leaseFirst_succeeds {base : Machine} (workerId : String) (leaseMs : Int)
    (candidates : List WorkerJob)
    (hcandidates : ∀ job ∈ candidates, job ∈ base.store.jobs ∧ hasPolicy env job
      ∧ IsDue nowMs laneFilter job)
    (m : Machine) (h : Cleans env config nowMs base m)
    (hnothing : (leaseFirst env config nowMs workerId leaseMs (fun leased =>
      if leased.isNone then .done else .failed) candidates).succeeds (Operation.apply env) m)
    : ∀ job ∈ candidates, blocks env config nowMs base job = some true := by
  induction candidates generalizing m with
  | nil => simp
  | cons job candidates ih =>
    have ih := ih fun other hother => hcandidates other (List.mem_cons_of_mem job hother)
    unfold leaseFirst at hnothing
    obtain ⟨m', hm', heq⟩ := capacityBlocker_succeeds env config nowMs job
      (fun blocked => if blocked then _ else _) m
    rw [heq] at hnothing
    cases hblocks : blocks env config nowMs m job with
    | none => simp [hblocks] at hnothing
    | some blocked =>
      rw [hblocks] at hnothing
      cases blocked with
      | true =>
        intro other hother
        cases List.mem_cons.1 hother with
        | inl hsame =>
          rw [hsame]
          apply h.blocks_true hblocks
        | inr hrest => exact ih m' (h.trans hm') hnothing other hrest
      | false =>
        exfalso
        have ⟨hbase, hpolicy, hdue⟩ := hcandidates job List.mem_cons_self
        have hjob := hm'.kept job (h.kept job hbase hpolicy) hpolicy
        simp only [Option.any_some, Bool.false_eq_true, if_false] at hnothing
        rw [lease_fails hjob hdue] at hnothing
        cases hnothing

theorem leaseFirst_of_blocked {base : Machine} (workerId : String) (leaseMs : Int)
    (hpolicies : ∀ row ∈ executingRows base, hasPolicy env row) (candidates : List WorkerJob)
    (hblocked : ∀ job ∈ candidates, blocks env config nowMs base job = some true)
    (m : Machine) (h : Cleans env config nowMs base m)
    : (leaseFirst env config nowMs workerId leaseMs (fun leased =>
        if leased.isNone then .done else .failed) candidates).succeeds (Operation.apply env) m := by
  induction candidates generalizing m with
  | nil => rfl
  | cons job candidates ih =>
    unfold leaseFirst
    obtain ⟨m', hm', heq⟩ := capacityBlocker_succeeds env config nowMs job
      (fun blocked => if blocked then _ else _) m
    rw [heq, h.blocks_eq hpolicies, hblocked job List.mem_cons_self]
    apply ih (fun other hother => hblocked other (List.mem_cons_of_mem job hother)) m' (h.trans hm')

theorem mem_pendingCandidates {row : WorkerJob} (hrow : row ∈ m.store.pendingCandidates laneFilter nowMs)
    : row ∈ m.store.jobs ∧ IsDue nowMs laneFilter row := by
  have hdue := List.mem_of_mem_take hrow
  rw [List.mem_insertionSort, List.mem_filter] at hdue
  simpa [IsDue, and_assoc] using hdue

theorem leaseNextJob_succeeds (laneFilter : Option String) (workerId : String) (leaseMs : Int) (m : Machine)
    : ∃ m', Cleans env config nowMs m m'
        ∧ (LeasesNothing env config nowMs laneFilter workerId leaseMs m
          ↔ (m.store.pendingCandidates laneFilter nowMs).all (rowToJobToleratingInvalidChildPolicy env)
            ∧ (leaseFirst env config nowMs workerId leaseMs (fun leased =>
                if leased.isNone then .done else .failed)
              ((m.store.pendingCandidates laneFilter nowMs).filter (hasPolicy env))).succeeds
                (Operation.apply env) m') := by
  obtain ⟨m', hm', heq⟩ := selectTolerantJobs_succeeds env config nowMs
    (·.pendingCandidates laneFilter nowMs) (leaseFirst env config nowMs workerId leaseMs fun leased =>
      if leased.isNone then .done else .failed) m (fun row hrow => (mem_pendingCandidates hrow).1)
  refine ⟨m', hm', ?_⟩
  unfold LeasesNothing leaseNextJob pendingCandidates
  rw [heq, Bool.and_eq_true]

theorem allBlocked_of_leasesNothing {workerId : String} {leaseMs : Int}
    (h : LeasesNothing env config nowMs laneFilter workerId leaseMs m)
    : AllBlocked env config nowMs laneFilter m := by
  obtain ⟨m', hm', hiff⟩ := leaseNextJob_succeeds laneFilter workerId leaseMs m
  have ⟨hall, hlease⟩ := hiff.1 h
  intro row hrow
  refine ⟨List.all_eq_true.1 hall row hrow, ?_⟩
  intro hpolicy
  rw [blocked_iff]
  have hcandidates : ∀ job ∈ (m.store.pendingCandidates laneFilter nowMs).filter (hasPolicy env),
      job ∈ m.store.jobs ∧ hasPolicy env job ∧ IsDue nowMs laneFilter job := by
    intro job hjob
    rw [List.mem_filter] at hjob
    exact ⟨(mem_pendingCandidates hjob.1).1, hjob.2, (mem_pendingCandidates hjob.1).2⟩
  apply leaseFirst_succeeds workerId leaseMs _ hcandidates m' hm' hlease
  rw [List.mem_filter]
  exact ⟨hrow, by simp [hasPolicy, hpolicy]⟩

theorem leasesNothing_of_allBlocked (h : AllBlocked env config nowMs laneFilter m)
    (hpolicies : ∀ row ∈ executingRows m, hasPolicy env row) (workerId : String) (leaseMs : Int)
    : LeasesNothing env config nowMs laneFilter workerId leaseMs m := by
  obtain ⟨m', hm', hiff⟩ := leaseNextJob_succeeds laneFilter workerId leaseMs m
  rw [hiff]
  refine ⟨List.all_eq_true.2 fun row hrow => (h row hrow).1, ?_⟩
  apply leaseFirst_of_blocked workerId leaseMs hpolicies _ _ m' hm'
  intro job hjob
  rw [List.mem_filter] at hjob
  rw [← blocked_iff]
  apply (h job hjob.1).2
  simpa [hasPolicy] using hjob.2

end

/-
A lease returns no job only if the first rows that are due are all blocked. So nothing runnable is left behind,
unless a runnable job stands behind a hundred blocked ones.
-/
theorem lease_conserves_iff (env : Env) (config : WorkerDispatchConfig) (nowMs : Int)
    (laneFilter : Option String) (workerId : String) (leaseMs : Int) (m : Machine)
    : (¬(HasRunnable env config nowMs laneFilter m ∧ AllBlocked env config nowMs laneFilter m)
        → LeasesNothing env config nowMs laneFilter workerId leaseMs m
        → ¬HasRunnable env config nowMs laneFilter m)
      ∧ ((∀ row ∈ executingRows m, hasPolicy env row)
        → ((LeasesNothing env config nowMs laneFilter workerId leaseMs m
            → ¬HasRunnable env config nowMs laneFilter m)
          ↔ ¬(HasRunnable env config nowMs laneFilter m ∧ AllBlocked env config nowMs laneFilter m))) := by
  have hfirst : ¬(HasRunnable env config nowMs laneFilter m ∧ AllBlocked env config nowMs laneFilter m)
      → LeasesNothing env config nowMs laneFilter workerId leaseMs m
      → ¬HasRunnable env config nowMs laneFilter m := by
    intro hnot hnothing hrunnable
    exact hnot ⟨hrunnable, allBlocked_of_leasesNothing hnothing⟩
  refine ⟨hfirst, ?_⟩
  intro hpolicies
  constructor
  . intro h hboth
    exact h (leasesNothing_of_allBlocked hboth.2 hpolicies workerId leaseMs) hboth.1
  . exact hfirst

def waitingJob (jobId lane : String) (priority : Int) : WorkerJob :=
  { sampleJob .deterministicShell 0 with jobId, lane, priority }

def closedLaneConfig : WorkerDispatchConfig :=
  { sampleConfig with laneConcurrencyLimits := [("closed", 0)] }

def machineOf (jobs : List WorkerJob) (nodup : (jobs.map (·.jobId)).Nodup) : Machine where
  store := { jobs, rateLeases := [], nodup }
  renewal _ := .absent

-- the first job by priority is blocked, the second is free
def halfClosedMachine : Machine :=
  machineOf [waitingJob "first" "closed" 1, waitingJob "open" "open" 0] (by decide)

theorem halfClosedMachine_leases
    : HasRunnable sampleEnv closedLaneConfig 0 none halfClosedMachine
      ∧ ¬LeasesNothing sampleEnv closedLaneConfig 0 none "worker" 1000 halfClosedMachine := by
  have hrunnable : HasRunnable sampleEnv closedLaneConfig 0 none halfClosedMachine := by
    refine ⟨waitingJob "open" "open" 0, List.mem_of_mem_tail List.mem_cons_self, ?_, rfl, ?_⟩
    . unfold IsDue
      decide
    . unfold Unblocked
      decide +kernel
  refine ⟨hrunnable, fun hnothing => ?_⟩
  apply (lease_conserves_iff sampleEnv closedLaneConfig 0 none "worker" 1000 halfClosedMachine).1 _
    hnothing hrunnable
  rintro ⟨_, hall⟩
  revert hall
  unfold AllBlocked Blocked
  decide +kernel

def crowdedJobs : List WorkerJob :=
  (List.range 100).map (fun i => waitingJob (String.ofList (List.replicate i 'x')) "closed" 1)
    ++ [waitingJob "open" "open" 0]

theorem nodup_crowdedJobs : (crowdedJobs.map (·.jobId)).Nodup := by
  decide +kernel

theorem lease_passes_over
    : ¬∀ (env : Env) (config : WorkerDispatchConfig) (nowMs : Int) (laneFilter : Option String)
        (workerId : String) (leaseMs : Int) (m : Machine),
        LeasesNothing env config nowMs laneFilter workerId leaseMs m
          → ¬HasRunnable env config nowMs laneFilter m := by
  intro h
  apply h sampleEnv closedLaneConfig 0 none "worker" 1000 (machineOf crowdedJobs nodup_crowdedJobs)
  . unfold LeasesNothing
    decide +kernel
  . refine ⟨waitingJob "open" "open" 0, ?_, ?_, rfl, ?_⟩
    . apply List.mem_append_right
      apply List.mem_singleton_self
    . unfold IsDue
      decide
    . unfold Unblocked
      decide +kernel

end WorkerStore
