import AgentHarness.Lib.Io
import AgentHarness.Lib.Text
import Mathlib.Data.List.Sort

/-!
The worker store: the tables `jobs` and `rate_leases`, the queries of the worker dispatch and its
UPDATE statements, each with its WHERE clause.
-/

namespace WorkerStore

inductive WorkerJobStatus where
  | pending
  | leased
  | running
  | runtimeQueued
  | succeeded
  | failedRetryable
  | failedTerminal
  | canceled
  | expired
  deriving DecidableEq

def WorkerJobStatus.isTerminal (self : WorkerJobStatus) : Bool :=
  match self with
  | .succeeded | .failedTerminal | .canceled | .expired => true
  | _ => false

-- `status IN ('pending','failed-retryable')`
def WorkerJobStatus.isDue (self : WorkerJobStatus) : Bool :=
  self = .pending || self = .failedRetryable

-- `status IN ('leased','running')`
def WorkerJobStatus.isExecuting (self : WorkerJobStatus) : Bool :=
  self = .leased || self = .running

inductive WorkerJobKind where
  | deterministicShell
  | llmSubagent
  | watchdog
  | masterWakeup
  | coordinatorResume
  | memoryMaintenance
  | memoryEmbeddingBackfill
  | learningReview
  | skillSynthesis
  | pluginCall
  deriving DecidableEq

structure WakePolicy where
  mode : Option String
  deadlineMs : Option Int
  deriving DecidableEq

/-
A row of `jobs`. `payload` holds the string fields of the payload object; the JSON texts are those
of the columns, whether they parse or not.
-/
structure WorkerJob where
  jobId : String
  kind : WorkerJobKind
  lane : String
  status : WorkerJobStatus
  jobGroupId : Option String
  masterAgentId : Option String
  masterSessionKey : Option String
  wakePolicy : Option WakePolicy
  payload : List (String × String)
  childPolicyJson : Option String
  resultOwnerJson : Option String
  executionModeJson : Option String
  idempotencyKey : String
  priority : Int
  availableAtMs : Int
  leaseOwner : Option String
  leaseExpiresAtMs : Option Int
  attempt : Int
  maxAttempts : Int
  rateKey : Option String
  concurrencyGroupKey : Option String
  createdAtMs : Int
  updatedAtMs : Int
  finishedAtMs : Option Int
  deriving DecidableEq

structure RateLease where
  rateKey : String
  jobId : String
  leasedAtMs : Int

-- `job_id` is the primary key
structure Store where
  jobs : List WorkerJob
  rateLeases : List RateLease
  nodup : (jobs.map (·.jobId)).Nodup

structure WorkerDispatchConfig where
  globalConcurrencyLimit : Nat
  groupConcurrencyLimit : Nat
  channelConcurrencyLimit : Nat
  laneConcurrencyLimits : List (String × Nat)
  rateLeaseLimit : Nat
  rateLeaseWindowMs : Int

/-
Which texts of the columns deserialize: `child_policy_json` as a child execution policy,
`execution_mode_json` as an execution mode snapshot, and whether the owner in the snapshot is the
stored result owner.
-/
structure Env where
  childPolicyParses : String → Bool
  executionModeParses : String → Bool
  executionModeOwnerAgrees : String → Option String → Bool

def stringPath (payload : List (String × String)) (key : String) : Option String :=
  payload.lookup key

def backoffMs (attempt : Int) : Int :=
  1000 * 2 ^ (max 0 (min attempt 6)).toNat

def normalizeKeyPart (value : String) : String :=
  let out := Text.mapChars (fun ch =>
    if ch.isAlphanum || ch = '-' || ch = '_' || ch = '.' then ch.toLower else '_') value
  if out = "" then "unknown" else out

def workerChannelKey (job : WorkerJob) : Option String := do
  let agent ← job.masterAgentId
    <|> stringPath job.payload "agentId"
    <|> stringPath job.payload "masterAgentId"
    <|> job.concurrencyGroupKey
  let platform := (stringPath job.payload "platform").getD job.lane
  let channelId ← stringPath job.payload "channelId"
    <|> stringPath job.payload "jobId"
    <|> stringPath job.payload "runId"
  some (normalizeKeyPart agent ++ ":" ++ normalizeKeyPart platform ++ ":"
    ++ normalizeKeyPart channelId)

section Rows

variable (env : Env)

def storedChildPolicyIsInvalid (job : WorkerJob) : Bool :=
  job.childPolicyJson.any fun text => !env.childPolicyParses text

def storedExecutionModeIsInvalid (job : WorkerJob) : Bool :=
  job.executionModeJson.any fun text =>
    !env.executionModeParses text || !env.executionModeOwnerAgrees text job.resultOwnerJson

-- whether `row_to_job` returns a row; a row that it does not return fails the whole query
def rowToJob (job : WorkerJob) : Bool :=
  !storedChildPolicyIsInvalid env job && job.executionModeJson.all env.executionModeParses

def rowToJobToleratingInvalidChildPolicy (job : WorkerJob) : Bool :=
  storedChildPolicyIsInvalid env job || rowToJob env job

end Rows

namespace Store

variable (self : Store)

def findJobById (jobId : String) : Option WorkerJob :=
  self.jobs.find? fun job => job.jobId = jobId

def findJobByIdempotency (key : String) : Option WorkerJob :=
  self.jobs.find? fun job => job.idempotencyKey = key

def executingCount (lane group : Option String) : Nat :=
  self.jobs.countP fun job =>
    job.status.isExecuting
      && lane.all (job.lane = ·)
      && group.all (job.concurrencyGroupKey = some ·)

def rateLeaseCount (rateKey : String) (since : Int) : Nat :=
  self.rateLeases.countP fun lease => lease.rateKey = rateKey && since ≤ lease.leasedAtMs

def jobsWithExpiredLeases (nowMs : Int) : List WorkerJob :=
  self.jobs.filter fun job => job.status.isExecuting && job.leaseExpiresAtMs.any (· < nowMs)

def exhaustedPendingJobs : List WorkerJob :=
  self.jobs.filter fun job => job.status.isDue && job.maxAttempts ≤ job.attempt

def runtimeQueuedJobs : List WorkerJob :=
  (self.jobs.filter fun job => job.status = .runtimeQueued).insertionSort fun a b =>
    a.createdAtMs ≤ b.createdAtMs

def groupChildren (groupId selfId : String) : List WorkerJob :=
  (self.jobs.filter fun job => job.jobGroupId = some groupId && job.jobId ≠ selfId).insertionSort
    fun a b => a.createdAtMs ≤ b.createdAtMs

-- ORDER BY priority DESC, available_at_ms ASC, created_at_ms ASC
def candidateBefore (a b : WorkerJob) : Prop :=
  b.priority < a.priority
    ∨ (a.priority = b.priority
      ∧ (a.availableAtMs < b.availableAtMs
        ∨ (a.availableAtMs = b.availableAtMs ∧ a.createdAtMs ≤ b.createdAtMs)))

instance : DecidableRel candidateBefore := fun _ _ => inferInstanceAs (Decidable (_ ∨ _))

def pendingCandidates (laneFilter : Option String) (nowMs : Int) : List WorkerJob :=
  let due := self.jobs.filter fun job =>
    job.status.isDue
      && decide (job.attempt < job.maxAttempts)
      && decide (job.availableAtMs ≤ nowMs)
      && laneFilter.all (job.lane = ·)
  (due.insertionSort candidateBefore).take 100

end Store

/-
An UPDATE of `jobs`: the row it names, the rest of its WHERE clause and its SET clause. A comparison
with NULL is not true.
-/
structure Update where
  jobId : String
  applies : WorkerJob → Bool
  set : WorkerJob → WorkerJob

namespace Update

def hits (self : Update) (job : WorkerJob) : Bool :=
  job.jobId = self.jobId && self.applies job

def row (self : Update) (job : WorkerJob) : WorkerJob :=
  if self.hits job then { self.set job with jobId := job.jobId } else job

@[simp]
theorem row_jobId (self : Update) (job : WorkerJob) : (self.row job).jobId = job.jobId := by
  unfold row
  split
  . rfl
  . rfl

end Update

theorem Store.map_jobId (jobs : List WorkerJob) {f : WorkerJob → WorkerJob}
    (hf : ∀ job, (f job).jobId = job.jobId)
    : (jobs.map f).map (·.jobId) = jobs.map (·.jobId) := by
  rw [List.map_map]
  apply List.map_congr_left
  intro job _
  exact hf job

-- `none` when the statement changed no row
def Store.execute (self : Store) (update : Update) : Option Store :=
  if self.jobs.any update.hits then
    some {
      jobs := self.jobs.map update.row
      rateLeases := self.rateLeases
      nodup := by
        rw [Store.map_jobId self.jobs update.row_jobId]
        exact self.nodup
    }
  else
    none

end WorkerStore

/-!
The statements by which the worker dispatch writes `jobs`, as its functions execute them, and the
thread that renews the lease of a running job.
-/

namespace WorkerStore

/-
`job` is the row as the process has read it, `result` the status of an execution result.
-/
inductive Statement where
  | quarantineInvalidStoredChildPolicy (jobId : String) (nowMs : Int)
  | quarantineInvalidStoredExecutionMode (jobId : String) (nowMs : Int)
  | reapForRetry (job : WorkerJob) (nowMs : Int)
  | reapExpired (job : WorkerJob) (nowMs : Int)
  | cancelWorkerJob (jobId : String) (nowMs : Int)
  | leaseNextJob (jobId workerId : String) (leaseExpires nowMs : Int)
  | persistExecutionResult (job : WorkerJob) (result : WorkerJobStatus) (nowMs : Int)
  | persistOwnedExecutionResult (job : WorkerJob) (workerId : String) (result : WorkerJobStatus)
      (nowMs : Int)
  | setJobRunning (job : WorkerJob) (workerId : String) (nowMs : Int)
  | renewLease (jobId workerId : String) (attempt expiresAtMs nowMs : Int)
  | rescheduleWatchdog (job : WorkerJob) (nowMs : Int)
  | setRuntimeTerminal (job : WorkerJob) (workerStatus : WorkerJobStatus) (nowMs : Int)

def normalizeExhaustedRetryableResult (job : WorkerJob) (result : WorkerJobStatus)
    : WorkerJobStatus :=
  if result = .failedRetryable ∧ job.maxAttempts ≤ job.attempt then .failedTerminal else result

/-
The status that a result is stored with: a retryable failure makes the job pending again.
-/
def persistedStatus (job : WorkerJob) (result : WorkerJobStatus) : WorkerJobStatus :=
  let result := normalizeExhaustedRetryableResult job result
  if result = .failedRetryable then .pending else result

def persistedRow (job : WorkerJob) (result : WorkerJobStatus) (nowMs : Int) (row : WorkerJob)
    : WorkerJob :=
  let status := persistedStatus job result
  { row with
    status
    availableAtMs :=
      if status = .pending then saturateI64 (nowMs + backoffMs job.attempt) else job.availableAtMs
    leaseOwner := none
    leaseExpiresAtMs := none
    updatedAtMs := nowMs
    finishedAtMs := if status.isTerminal then some nowMs else none }

def quarantinedRow (nowMs : Int) (row : WorkerJob) : WorkerJob :=
  { row with
    status := if row.status.isTerminal then row.status else .failedTerminal
    leaseOwner := none
    leaseExpiresAtMs := none
    updatedAtMs := nowMs
    finishedAtMs := if row.status.isTerminal then row.finishedAtMs else some nowMs }

def clearChildPolicy (nowMs : Int) (row : WorkerJob) : WorkerJob :=
  { quarantinedRow nowMs row with childPolicyJson := none }

def clearExecutionMode (nowMs : Int) (row : WorkerJob) : WorkerJob :=
  { quarantinedRow nowMs row with executionModeJson := none }

-- `status=?6 AND attempt=?7 AND lease_owner IS ?8 AND lease_expires_at_ms < ?3`
def isStaleLeaseOf (job : WorkerJob) (nowMs : Int) (row : WorkerJob) : Bool :=
  row.status = job.status
    && row.attempt = job.attempt
    && row.leaseOwner = job.leaseOwner
    && row.leaseExpiresAtMs.any (· < nowMs)

-- `status='running' AND lease_owner=?9 AND attempt=?10`
def isRunningLeaseOf (workerId : Option String) (attempt : Int) (row : WorkerJob) : Bool :=
  row.status = .running
    && row.leaseOwner.isSome
    && row.leaseOwner = workerId
    && row.attempt = attempt

def Statement.update (self : Statement) : Update :=
  match self with
  | .quarantineInvalidStoredChildPolicy jobId nowMs =>
    { jobId
      applies := fun row => row.childPolicyJson.isSome
      set := clearChildPolicy nowMs }
  | .quarantineInvalidStoredExecutionMode jobId nowMs =>
    { jobId
      applies := fun row => row.executionModeJson.isSome
      set := clearExecutionMode nowMs }
  | .reapForRetry job nowMs =>
    { jobId := job.jobId
      applies := isStaleLeaseOf job nowMs
      set := fun row =>
        { row with
          status := .pending
          leaseOwner := none
          leaseExpiresAtMs := none
          availableAtMs := saturateI64 (nowMs + backoffMs job.attempt)
          updatedAtMs := nowMs } }
  | .reapExpired job nowMs =>
    { jobId := job.jobId
      applies := isStaleLeaseOf job nowMs
      set := fun row =>
        { row with
          status := .expired
          leaseOwner := none
          leaseExpiresAtMs := none
          updatedAtMs := nowMs
          finishedAtMs := some nowMs } }
  | .cancelWorkerJob jobId nowMs =>
    { jobId
      applies := fun row => !row.status.isTerminal
      set := fun row =>
        { row with
          status := .canceled
          leaseOwner := none
          leaseExpiresAtMs := none
          updatedAtMs := nowMs
          finishedAtMs := some nowMs } }
  | .leaseNextJob jobId workerId leaseExpires nowMs =>
    { jobId
      applies := fun row => row.status.isDue && row.attempt < row.maxAttempts
      set := fun row =>
        { row with
          status := .leased
          leaseOwner := some workerId
          leaseExpiresAtMs := some leaseExpires
          attempt := row.attempt + 1
          updatedAtMs := nowMs } }
  | .persistExecutionResult job result nowMs =>
    { jobId := job.jobId
      applies := fun _ => true
      set := persistedRow job result nowMs }
  | .persistOwnedExecutionResult job workerId result nowMs =>
    { jobId := job.jobId
      applies := isRunningLeaseOf (some workerId) job.attempt
      set := persistedRow job result nowMs }
  | .setJobRunning job workerId nowMs =>
    { jobId := job.jobId
      applies := fun row =>
        row.status = .leased
          && row.leaseOwner = some workerId
          && row.attempt = job.attempt
          && row.leaseExpiresAtMs.isSome
      set := fun row => { row with status := .running, updatedAtMs := nowMs } }
  | .renewLease jobId workerId attempt expiresAtMs nowMs =>
    { jobId
      applies := isRunningLeaseOf (some workerId) attempt
      set := fun row => { row with leaseExpiresAtMs := some expiresAtMs, updatedAtMs := nowMs } }
  | .rescheduleWatchdog job nowMs =>
    { jobId := job.jobId
      applies := isRunningLeaseOf job.leaseOwner job.attempt
      set := fun row =>
        { row with
          status := .pending
          availableAtMs := saturateI64 (nowMs + backoffMs job.attempt)
          leaseOwner := none
          leaseExpiresAtMs := none
          updatedAtMs := nowMs } }
  | .setRuntimeTerminal job workerStatus nowMs =>
    { jobId := job.jobId
      applies := fun row => row.status = .runtimeQueued
      set := fun row =>
        { row with
          status := workerStatus
          leaseOwner := none
          leaseExpiresAtMs := none
          updatedAtMs := nowMs
          finishedAtMs := some nowMs } }

section Insert

variable (env : Env)

def quarantineStoredRow (nowMs : Int) (row : WorkerJob) : WorkerJob :=
  let row := if storedChildPolicyIsInvalid env row then clearChildPolicy nowMs row else row
  if storedExecutionModeIsInvalid env row then clearExecutionMode nowMs row else row

theorem quarantineStoredRow_induction (motive : WorkerJob → WorkerJob → Prop)
    (hsame : ∀ row, motive row row)
    (htrans : ∀ row row' row'', motive row row' → motive row' row'' → motive row row'')
    (hpolicy : ∀ nowMs row, motive row (clearChildPolicy nowMs row))
    (hmode : ∀ nowMs row, motive row (clearExecutionMode nowMs row)) (nowMs : Int)
    (row : WorkerJob)
    : motive row (quarantineStoredRow env nowMs row) := by
  have hmode' : ∀ row, motive row
      (if storedExecutionModeIsInvalid env row then clearExecutionMode nowMs row else row) := by
    intro row
    split
    . apply hmode
    . apply hsame
  unfold quarantineStoredRow
  apply htrans row _ _ _ (hmode' _)
  split
  . apply hpolicy
  . apply hsame

theorem quarantineStoredRow_jobId (nowMs : Int) (row : WorkerJob)
    : (quarantineStoredRow env nowMs row).jobId = row.jobId := by
  apply quarantineStoredRow_induction env fun row row' => row'.jobId = row.jobId
  . intro row
    rfl
  . intro row row' row'' h h'
    rw [h', h]
  . intro nowMs row
    rfl
  . intro nowMs row
    rfl

def Store.quarantineStoredRows (self : Store) (nowMs : Int) : Store where
  jobs := self.jobs.map (quarantineStoredRow env nowMs)
  rateLeases := self.rateLeases
  nodup := by
    rw [Store.map_jobId self.jobs (quarantineStoredRow_jobId env nowMs)]
    exact self.nodup

-- the columns that INSERT fills with the same values for every job
def freshRow (job : WorkerJob) : WorkerJob :=
  { job with
    status := .pending
    leaseOwner := none
    leaseExpiresAtMs := none
    attempt := 0
    finishedAtMs := none }

/-
An existing job with the idempotency key stands for the new one; a repeated primary key fails the
statement.
-/
def Store.insertJob (self : Store) (job : WorkerJob) : Option Store :=
  match self.findJobByIdempotency job.idempotencyKey with
  | some _ => some self
  | none =>
    if h : job.jobId ∈ self.jobs.map (·.jobId) then
      none
    else
      some {
        jobs := self.jobs ++ [freshRow job]
        rateLeases := self.rateLeases
        nodup := by
          rw [List.map_append, List.map_singleton]
          exact List.nodup_append.mpr ⟨self.nodup, List.nodup_singleton _, by
            intro a ha b hb heq
            apply h
            rw [List.mem_singleton] at hb
            rw [heq, hb] at ha
            exact ha⟩
      }

-- `enqueue_worker_job_v4_in_transaction`, for a job without policy, owner and execution mode
def Store.enqueueWorkerJob (self : Store) (job : WorkerJob) (nowMs : Int) : Option Store :=
  (self.quarantineStoredRows env nowMs).insertJob job

end Insert

/-
The renewal thread of a process. It stops when it is told to, or by itself with the reason.
-/
inductive LeaseRenewal where
  | absent
  | active (jobId workerId : String) (attempt leaseMs : Int)
  | stopped (failure : Option String)

structure Machine where
  store : Store
  renewal : Nat → LeaseRenewal

def Machine.setRenewal (self : Machine) (process : Nat) (renewal : LeaseRenewal) : Machine :=
  { self with renewal := fun i => if i = process then renewal else self.renewal i }

def Machine.stopRenewal (self : Machine) (process : Nat) : Machine :=
  match self.renewal process with
  | .active _ _ _ _ => self.setRenewal process (.stopped none)
  | _ => self

def Machine.renewalFailure (self : Machine) (process : Nat) : Option String :=
  match self.renewal process with
  | .stopped failure => failure
  | _ => none

inductive Operation where
  | update (statement : Statement)
  | enqueueWorkerJob (job : WorkerJob) (nowMs : Int)
  | insertCoordinatorResumeJob (job : WorkerJob)
  | insertRateLease (lease : RateLease)
  | deleteRateLeases (before : Int)
  | startRenewal (process : Nat) (jobId workerId : String) (attempt leaseMs : Int)
  | stopRenewal (process : Nat)

def Operation.apply (env : Env) (self : Operation) (m : Machine) : Option Machine :=
  match self with
  | .update statement => (m.store.execute statement.update).map ({ m with store := · })
  | .enqueueWorkerJob job nowMs =>
    (m.store.enqueueWorkerJob env job nowMs).map ({ m with store := · })
  | .insertCoordinatorResumeJob job => (m.store.insertJob job).map ({ m with store := · })
  | .insertRateLease lease =>
    some { m with store := { m.store with rateLeases := m.store.rateLeases ++ [lease] } }
  | .deleteRateLeases before =>
    let kept := m.store.rateLeases.filter fun lease => before ≤ lease.leasedAtMs
    some { m with store := { m.store with rateLeases := kept } }
  | .startRenewal process jobId workerId attempt leaseMs =>
    some (m.setRenewal process (.active jobId workerId attempt leaseMs))
  | .stopRenewal process => some (m.stopRenewal process)

inductive RenewalEvent where
  | renew (process : Nat) (nowMs : Int)
  | fail (process : Nat) (reason : String)

def exactRenewalFailure (attempt : Int) : String :=
  "exact lease renewal updated 0 rows for attempt " ++ toString attempt

def RenewalEvent.apply (self : RenewalEvent) (m : Machine) : Machine :=
  match self with
  | .renew process nowMs =>
    match m.renewal process with
    | .active jobId workerId attempt leaseMs =>
      let expiresAtMs := saturateI64 (nowMs + max leaseMs 1)
      let statement := Statement.renewLease jobId workerId attempt expiresAtMs nowMs
      match m.store.execute statement.update with
      | some store => { m with store }
      | none => m.setRenewal process (.stopped (some (exactRenewalFailure attempt)))
    | _ => m
  | .fail process reason =>
    match m.renewal process with
    | .active _ _ _ _ => m.setRenewal process (.stopped (some reason))
    | _ => m

end WorkerStore
