import AgentHarness.CronRuns.Lemmas.Effect

/-!
A quarantine is written twice: in the row of its scope, and as a flag on the runs that were active when
it was recorded.
-/

namespace CronRuns

structure RecordsNothing (s later : Store) : Prop where
  scopes : ∀ quarantine' ∈ later.quarantines.rows, quarantine'.active = true
    → ∃ quarantine ∈ s.quarantines.rows, quarantine.active = true
      ∧ quarantine.agentId = quarantine'.agentId ∧ quarantine.entryId = quarantine'.entryId
  flags : ∀ run' ∈ later.runs.rows, run'.quarantined = true
    → ∃ run ∈ s.runs.rows, run.runId = run'.runId ∧ run.quarantined = true

namespace Store

variable (self : Store)

def IsJobQuarantined (run : CronRun) : Prop :=
  ∃ quarantine ∈ self.quarantines.rows, quarantine.agentId = run.agentId
    ∧ quarantine.entryId = some run.entryId ∧ quarantine.active = true

def IsAgentQuarantined (run : CronRun) : Prop :=
  ∃ quarantine ∈ self.quarantines.rows, quarantine.agentId = run.agentId
    ∧ quarantine.entryId = none ∧ quarantine.active = true

def IsQuiet (call : Call) : Prop :=
  RecordsNothing self (self.exec call)

def Succeeds (workers : WorkerJobs) (options : CronRunControlOptions) : Prop :=
  ∃ report, (self.controlCronRun workers options).2 = .ok report ∧ 0 < report.affected

def IsDispatchable (runId : String) : Prop :=
  ∀ workerJobId runtimeQueueId nowMs blocker,
    self.cronRunWorkerDispatchBlocker runId workerJobId = some blocker
      ∨ (self.cronRunRuntimeDispatchBlocker runId runtimeQueueId nowMs).2 = .ok (some blocker)
    → blocker.isQuarantine = false

/-
An Unquarantine of the run and then a Retry of it succeed, and no quarantine is recorded between them or
after: the new attempt is not held.
-/
def RestoresDispatch (runId : String) : Prop :=
  ∀ (workers workers' : WorkerJobs) (lift retry : CronRunControlOptions) (between after : List Call),
    lift.action = .unquarantine → lift.runId = some runId → self.Succeeds workers lift
    → Run.Guarded exec IsQuiet (self.exec (.control workers lift)) between
    → retry.action = .retry → retry.runId = some runId
    → (Run.exec exec (self.exec (.control workers lift)) between).Succeeds workers' retry
    → Run.Guarded exec IsQuiet
        ((Run.exec exec (self.exec (.control workers lift)) between).exec (.control workers' retry)) after
    → (Run.exec exec ((Run.exec exec (self.exec (.control workers lift)) between).exec
        (.control workers' retry)) after).IsDispatchable runId

def IsClear (runId : String) : Prop :=
  ∃ run, self.findRunById runId = some run ∧ run.quarantined = false ∧ run.status ≠ .quarantined
    ∧ ¬self.IsJobQuarantined run ∧ ¬self.IsAgentQuarantined run

end Store

def CronRun.IsFlagged (self : CronRun) : Prop :=
  self.status = .quarantined → self.quarantined = true

def KeepsFlag (run run' : CronRun) : Prop :=
  run'.agentId = run.agentId ∧ run'.entryId = run.entryId ∧ (run.IsFlagged → run'.IsFlagged)

theorem isKept_keepsFlag : IsKept KeepsFlag where
  refl _ := ⟨rfl, rfl, id⟩
  trans _ _ _ h h' := ⟨h'.1.trans h.1, h'.2.1.trans h.2.1, h'.2.2 ∘ h.2.2⟩
  quarantine _ _ _ _ := ⟨rfl, rfl, fun _ _ => rfl⟩

theorem cronStatusFromWorkerStatus_ne (status : String)
    : cronStatusFromWorkerStatus status ≠ .quarantined := by
  unfold cronStatusFromWorkerStatus
  split_ifs <;> simp

theorem cronStatusFromRuntimeStatus_ne (status : String)
    : cronStatusFromRuntimeStatus status ≠ .quarantined := by
  unfold cronStatusFromRuntimeStatus
  split_ifs <;> simp

theorem keepsFlag_of_direct {s : Store} {call : Call} {run run' : CronRun} (h : Direct s call run run')
    : KeepsFlag run run' := by
  have hother : ∀ run' : CronRun, run'.agentId = run.agentId → run'.entryId = run.entryId
      → run'.status ≠ .quarantined → KeepsFlag run run' := by
    intro run' hagent hentry hne
    exact ⟨hagent, hentry, fun _ hstatus => absurd hstatus hne⟩
  cases h with
  | workerEnqueued => exact hother _ rfl rfl (by simp)
  | runtimeEnqueued => exact hother _ rfl rfl (by simp)
  | workerStatus => exact hother _ rfl rfl (cronStatusFromWorkerStatus_ne _)
  | expireUnlinked => exact hother _ rfl rfl (by simp)
  | blockUnlinked => exact hother _ rfl rfl (by simp)
  | blockLinked => exact hother _ rfl rfl (by simp)
  | runtimeStatus => exact hother _ rfl rfl (cronStatusFromRuntimeStatus_ne _)
  | runtimeDispatch => exact hother _ rfl rfl (by simp)
  | skip => exact hother _ rfl rfl (by simp)
  | retry => exact hother _ rfl rfl (by simp)

theorem evolves_keepsFlag (s : Store) (call : Call)
    : Store.Evolves KeepsFlag call.adds s (s.exec call) :=
  evolves_exec isKept_keepsFlag fun _ _ => keepsFlag_of_direct

theorem isFlagged_run (calls : List Call)
    : ∀ run ∈ (Run.exec Store.exec Store.empty calls).runs.rows, run.IsFlagged := by
  refine Run.exec_invariant (fun s : Store => ∀ run ∈ s.runs.rows, run.IsFlagged) ?_ ?_ calls
  . intro s call hflagged run' hrun'
    rcases (evolves_keepsFlag s call).origin run' hrun' with ⟨run, hrun, _, hrel⟩ | ⟨options, _, rfl⟩
    . exact hrel.2.2 (hflagged run hrun)
    . rintro ⟨⟩
  . intro run hrun
    cases hrun

theorem isClear_of_quiet {s : Store} {runId : String} (h : s.IsClear runId) {call : Call}
    (hquiet : s.IsQuiet call)
    : (s.exec call).IsClear runId := by
  have ⟨run, hrun, hflag, hstatus, hjob, hagent⟩ := h
  have ⟨run', hrun', hkeeps⟩ := (evolves_keepsFlag s call).find hrun
  have hflag' : run'.quarantined = false := by
    rw [Bool.eq_false_iff]
    intro hflag'
    have ⟨old, hold, hid, holdflag⟩ := hquiet.flags run' (Store.findRunById_spec hrun').1 hflag'
    have hsame : old = run := by
      apply Table.eq_of_key hold (Store.findRunById_spec hrun).1
      exact hid.trans ((Store.findRunById_spec hrun').2.trans (Store.findRunById_spec hrun).2.symm)
    rw [hsame, hflag] at holdflag
    cases holdflag
  refine ⟨run', hrun', hflag', ?_, ?_, ?_⟩
  . intro hstatus'
    have hflagged := hkeeps.2.2 (fun hstatus'' => absurd hstatus'' hstatus) hstatus'
    rw [hflag'] at hflagged
    cases hflagged
  . rintro ⟨quarantine', hmem', hagent', hentry', hactive'⟩
    have ⟨quarantine, hmem, hactive, hsame, hsame'⟩ := hquiet.scopes quarantine' hmem' hactive'
    apply hjob
    exact ⟨quarantine, hmem, by rw [hsame, hagent', hkeeps.1], by rw [hsame', hentry', hkeeps.2.1],
      hactive⟩
  . rintro ⟨quarantine', hmem', hagent', hentry', hactive'⟩
    have ⟨quarantine, hmem, hactive, hsame, hsame'⟩ := hquiet.scopes quarantine' hmem' hactive'
    apply hagent
    exact ⟨quarantine, hmem, by rw [hsame, hagent', hkeeps.1], by rw [hsame', hentry'], hactive⟩

theorem isClear_run {s : Store} {runId : String} (h : s.IsClear runId) {calls : List Call}
    (hquiet : Run.Guarded Store.exec Store.IsQuiet s calls)
    : (Run.exec Store.exec s calls).IsClear runId :=
  Run.exec_invariant_of_guarded (fun later : Store => later.IsClear runId)
    (fun _ _ hclear hcall => isClear_of_quiet hclear hcall) h hquiet

section

variable {s : Store}

theorem isSome_foldl {step : Option CronQuarantine → CronQuarantine → Option CronQuarantine}
    (hstep : ∀ best quarantine, (step best quarantine).isSome = true) (covering : List CronQuarantine)
    (best : Option CronQuarantine)
    : (covering.foldl step best).isSome = true ↔ best.isSome = true ∨ covering ≠ [] := by
  induction covering generalizing best with
  | nil => simp
  | cons quarantine covering ih => simp [ih, hstep]

theorem quarantineReason_isSome (agentId : String) (entryId : Option String)
    : (s.quarantineReason agentId entryId).isSome = true ↔ ∃ quarantine ∈ s.quarantines.rows,
        quarantine.agentId = agentId ∧ quarantine.active = true
          ∧ (quarantine.entryId = none ∨ (entryId.isSome = true ∧ quarantine.entryId = entryId)) := by
  unfold Store.quarantineReason
  rw [Option.isSome_map, isSome_foldl, Ne, List.filter_eq_nil_iff]
  . simp only [Option.isSome_none, Bool.false_eq_true, false_or, not_forall, not_not, exists_prop,
      Bool.and_eq_true, Bool.or_eq_true, decide_eq_true_eq, and_assoc]
  . intro best quarantine
    cases best with
    | none => rfl
    | some best =>
      dsimp only
      split <;> rfl

theorem quarantineReason_none {run : CronRun} (hjob : ¬s.IsJobQuarantined run)
    (hagent : ¬s.IsAgentQuarantined run) (entryId : Option String)
    (hentry : entryId = none ∨ entryId = some run.entryId)
    : s.quarantineReason run.agentId entryId = none := by
  rw [← Option.not_isSome_iff_eq_none, quarantineReason_isSome]
  rintro ⟨quarantine, hmem, hsame, hactive, hnone | ⟨hsome, hcovers⟩⟩
  . exact hagent ⟨quarantine, hmem, hsame, hnone, hactive⟩
  . rcases hentry with rfl | rfl
    . cases hsome
    . exact hjob ⟨quarantine, hmem, hsame, hcovers, hactive⟩

theorem cronRunControlBlocker_clear {run : CronRun} (hflag : run.quarantined = false)
    (hstatus : run.status ≠ .quarantined) (hjob : ¬s.IsJobQuarantined run)
    (hagent : ¬s.IsAgentQuarantined run) {blocker : DispatchBlocker}
    (h : s.cronRunControlBlocker run = some blocker)
    : blocker.isQuarantine = false := by
  unfold Store.cronRunControlBlocker at h
  rw [quarantineReason_none hjob hagent _ (.inr rfl), quarantineReason_none hjob hagent _ (.inl rfl)] at h
  split at h
  . cases h
    simpa [DispatchBlocker.isQuarantine] using hstatus
  . simp [hflag, hstatus] at h

theorem isDispatchable_of_clear {runId : String} (h : s.IsClear runId) : s.IsDispatchable runId := by
  have ⟨run, hrun, hflag, hstatus, hjob, hagent⟩ := h
  rintro workerJobId runtimeQueueId nowMs blocker (hworker | hruntime)
  . simp only [Store.cronRunWorkerDispatchBlocker, hrun] at hworker
    split at hworker
    . next hblocker =>
      cases hworker
      exact cronRunControlBlocker_clear hflag hstatus hjob hagent hblocker
    . split at hworker
      . cases hworker
        rfl
      . split at hworker
        . cases hworker
        . cases hworker
          rfl
  . simp only [Store.cronRunRuntimeDispatchBlocker, hrun] at hruntime
    split at hruntime
    . next hblocker =>
      cases hruntime
      exact cronRunControlBlocker_clear hflag hstatus hjob hagent hblocker
    . split at hruntime
      . split at hruntime
        . cases hruntime
          rfl
        . cases hruntime
      . split at hruntime
        . unfold Outcome.andThen at hruntime
          split at hruntime
          . cases hruntime
          . cases hruntime
        . cases hruntime
          rfl

theorem not_isDispatchable {runId : String} {run : CronRun} (hrun : s.findRunById runId = some run)
    (hactive : run.status.isActive = true)
    (hheld : run.quarantined = true ∨ s.IsAgentQuarantined run)
    : ¬s.IsDispatchable runId := by
  have hblocker : ∃ blocker, s.cronRunControlBlocker run = some blocker
      ∧ blocker.isQuarantine = true := by
    unfold Store.cronRunControlBlocker
    rw [if_neg (by simp [hactive])]
    split
    . exact ⟨_, rfl, rfl⟩
    . next hflag =>
      have hsome : (s.quarantineReason run.agentId (some run.entryId)).isSome = true := by
        rw [quarantineReason_isSome]
        rcases hheld with hflag' | ⟨quarantine, hmem, hagent, hentry, hscope⟩
        . simp [hflag'] at hflag
        . exact ⟨quarantine, hmem, hagent, hscope, .inl hentry⟩
      rw [Option.isSome_iff_exists] at hsome
      have ⟨reason, hreason⟩ := hsome
      simp only [hreason]
      exact ⟨_, rfl, rfl⟩
  have ⟨blocker, hcontrol, hquarantine⟩ := hblocker
  intro h
  have hnot := h "" "" 0 blocker (.inl (by simp [Store.cronRunWorkerDispatchBlocker, hrun, hcontrol]))
  rw [hquarantine] at hnot
  cases hnot

end

section

variable {s : Store} {runId : String} {run : CronRun}

def CronRun.isHeldBy (self : CronRun) (quarantine : CronQuarantine) : Bool :=
  quarantine.agentId = self.agentId && quarantine.entryId = some self.entryId && quarantine.active

theorem controlCronRun_unquarantine (hrun : s.findRunById runId = some run) (workers : WorkerJobs)
    {lift : CronRunControlOptions} (haction : lift.action = .unquarantine)
    (hid : lift.runId = some runId)
    : ∃ quarantines, s.quarantines.update run.isHeldBy
          (fun quarantine => { quarantine with active := false, updatedAtMs := lift.nowMs })
          = some quarantines
        ∧ s.controlCronRun workers lift = ({ s with quarantines }, .ok {
            action := .unquarantine
            affected := s.quarantines.changed run.isHeldBy
            reason := lift.reason
            warnings := [] }) := by
  obtain ⟨quarantines, hupdate⟩ : ∃ quarantines, s.quarantines.update run.isHeldBy
      (fun quarantine => { quarantine with active := false, updatedAtMs := lift.nowMs })
      = some quarantines := by
    apply Table.update_isSome
    . intro quarantine
      rfl
    . intro quarantine _ _
      rfl
    . intro quarantine _ other _ hclash
      cases hclash
  refine ⟨quarantines, hupdate, ?_⟩
  have hheld : s.unquarantineByRunId runId lift.nowMs
      = ({ s with quarantines }, .ok (s.quarantines.changed run.isHeldBy)) := by
    simp only [Store.unquarantineByRunId, hrun, Store.updateQuarantines]
    split
    . next hlater =>
      cases hlater.symm.trans hupdate
      rfl
    . next hnone => cases hnone.symm.trans hupdate
  simp [Store.controlCronRun, haction, hid, hheld]

theorem succeeds_unquarantine_iff (hrun : s.findRunById runId = some run) (workers : WorkerJobs)
    {lift : CronRunControlOptions} (haction : lift.action = .unquarantine)
    (hid : lift.runId = some runId)
    : s.Succeeds workers lift ↔ s.IsJobQuarantined run := by
  have ⟨quarantines, _, hcontrol⟩ := controlCronRun_unquarantine hrun workers haction hid
  simp [Store.Succeeds, hcontrol, Store.IsJobQuarantined, Table.changed, CronRun.isHeldBy, and_assoc]

theorem isClear_unquarantine (hrun : s.findRunById runId = some run) (workers : WorkerJobs)
    {lift : CronRunControlOptions} (haction : lift.action = .unquarantine)
    (hid : lift.runId = some runId) (hflag : run.quarantined = false)
    (hstatus : run.status ≠ .quarantined) (hagent : ¬s.IsAgentQuarantined run)
    : (s.exec (.control workers lift)).IsClear runId := by
  have ⟨quarantines, hupdate, hcontrol⟩ := controlCronRun_unquarantine hrun workers haction hid
  have hexec : s.exec (.control workers lift) = { s with quarantines } := by
    simp [Store.exec, hcontrol]
  rw [hexec]
  -- a scope that is still active was left out by the UPDATE
  have hactive : ∀ quarantine' ∈ quarantines.rows, quarantine'.active = true
      → quarantine' ∈ s.quarantines.rows ∧ run.isHeldBy quarantine' = false := by
    intro quarantine' hmem' hactive'
    have ⟨quarantine, hmem, heq⟩ := (Table.mem_update hupdate).mp hmem'
    unfold Table.rewrite at heq
    split at heq
    . rw [← heq] at hactive'
      cases hactive'
    . next hheld =>
      rw [← heq]
      exact ⟨hmem, by simpa using hheld⟩
  refine ⟨run, hrun, hflag, hstatus, ?_, ?_⟩
  . rintro ⟨quarantine', hmem', hagent', hentry', hactive'⟩
    have hheld := (hactive quarantine' hmem' hactive').2
    simp [CronRun.isHeldBy, hagent', hentry', hactive'] at hheld
  . rintro ⟨quarantine', hmem', hagent', hentry', hactive'⟩
    apply hagent
    exact ⟨quarantine', (hactive quarantine' hmem' hactive').1, hagent', hentry', hactive'⟩

theorem isAgentQuarantined_unquarantine (hrun : s.findRunById runId = some run) (workers : WorkerJobs)
    {lift : CronRunControlOptions} (haction : lift.action = .unquarantine)
    (hid : lift.runId = some runId) (hagent : s.IsAgentQuarantined run)
    : (s.exec (.control workers lift)).IsAgentQuarantined run := by
  have ⟨quarantines, hupdate, hcontrol⟩ := controlCronRun_unquarantine hrun workers haction hid
  have hexec : s.exec (.control workers lift) = { s with quarantines } := by
    simp [Store.exec, hcontrol]
  have ⟨quarantine, hmem, hsame, hentry, hactive⟩ := hagent
  rw [hexec]
  refine ⟨quarantine, ?_, hsame, hentry, hactive⟩
  apply (Table.mem_update hupdate).mpr
  refine ⟨quarantine, hmem, ?_⟩
  simp [Table.rewrite, CronRun.isHeldBy, hentry]

def CronRun.retried (self : CronRun) (reason : String) (nowMs : Int) : CronRun :=
  { self with
    status := .retryPending
    runtimeQueueId := none
    workerJobId := none
    startedAtMs := none
    leaseExpiresAtMs := none
    finishedAtMs := none
    failureReason := some reason
    attempt := self.attempt + 1
    updatedAtMs := nowMs }

def CronRun.isRetriedAs (self : CronRun) (run : CronRun) : Bool :=
  run.runId = self.runId && run.attempt = self.attempt

-- an UPDATE that sets neither the id nor the slot does not fail
theorem updateRuns_eq (s : Store) {hits : CronRun → Bool} {set : CronRun → CronRun}
    (hid : ∀ run, (set run).runId = run.runId) (hslot : ∀ run, (set run).slot = run.slot)
    : ∃ runs, s.runs.update hits set = some runs
        ∧ s.updateRuns hits set = ({ s with runs }, .ok (s.runs.changed hits)) := by
  have hrewrite : ∀ run, (Table.rewrite hits set run).slot = run.slot := by
    intro run
    unfold Table.rewrite
    split
    . apply hslot
    . rfl
  have ⟨runs, hupdate⟩ : ∃ runs, s.runs.update hits set = some runs := by
    apply Table.update_isSome
    . exact hid
    . intro run _ _
      rfl
    . intro run _ other _ hclash
      simp only [cronRunsTable, hrewrite] at hclash
      exact hclash
  refine ⟨runs, hupdate, ?_⟩
  simp [Store.updateRuns, hupdate]

theorem updateRuns_retried (s : Store) (run : CronRun) (reason : String) (nowMs : Int)
    : ∃ runs, s.runs.update run.isRetriedAs (fun other => other.retried reason nowMs) = some runs
        ∧ s.updateRuns run.isRetriedAs (fun other => other.retried reason nowMs)
          = ({ s with runs }, .ok (s.runs.changed run.isRetriedAs)) := by
  apply updateRuns_eq
  . intro other
    rfl
  . intro other
    rfl

theorem retryCronRun_of_stopped (hrun : s.findRunById runId = some run) {workers : WorkerJobs}
    (hworkers : ∀ workerJobId, run.workerJobId = some workerJobId → workers workerJobId = .ok (some false))
    (reason : String) (nowMs : Int)
    : s.retryCronRun workers runId reason nowMs
        = (s.updateRuns run.isRetriedAs (fun other => other.retried reason nowMs)).andThen
          fun later rows => (later, .ok (rows, [])) := by
  have hid := (Store.findRunById_spec hrun).2
  subst hid
  simp only [Store.retryCronRun, hrun]
  cases hjob : run.workerJobId with
  | none => rfl
  | some workerJobId =>
    dsimp only
    rw [hworkers workerJobId hjob]
    rfl

theorem retryCronRun_cases (s : Store) (workers : WorkerJobs) (runId reason : String) (nowMs : Int)
    : (s.retryCronRun workers runId reason nowMs).1 = s
      ∨ ∃ run runs, s.findRunById runId = some run
        ∧ s.runs.update run.isRetriedAs (fun other => other.retried reason nowMs) = some runs
        ∧ (s.retryCronRun workers runId reason nowMs).1 = { s with runs } := by
  cases hrun : s.findRunById runId with
  | none =>
    left
    simp [Store.retryCronRun, hrun]
  | some run =>
    have ⟨runs, hupdate, hupdateRuns⟩ := updateRuns_retried s run reason nowMs
    by_cases hworkers : ∀ workerJobId, run.workerJobId = some workerJobId
        → workers workerJobId = .ok (some false)
    . right
      refine ⟨run, runs, rfl, hupdate, ?_⟩
      rw [retryCronRun_of_stopped hrun hworkers, hupdateRuns]
      rfl
    . left
      simp only [not_forall] at hworkers
      have ⟨workerJobId, hjob, hworker⟩ := hworkers
      simp only [Store.retryCronRun, hrun, hjob]
      split
      . rfl
      . rfl
      . rfl
      . next hstopped => exact absurd hstopped hworker

theorem RecordsNothing.refl (s : Store) : RecordsNothing s s where
  scopes quarantine hmem hactive := ⟨quarantine, hmem, hactive, rfl, rfl⟩
  flags run hmem hflag := ⟨run, hmem, rfl, hflag⟩

theorem exec_retry (s : Store) (workers : WorkerJobs) {retry : CronRunControlOptions}
    (haction : retry.action = .retry) (hid : retry.runId = some runId)
    : s.exec (.control workers retry) = (s.retryCronRun workers runId retry.reason retry.nowMs).1 := by
  simp only [Store.exec, Store.controlCronRun, haction, hid]
  cases s.retryCronRun workers runId retry.reason retry.nowMs with
  | mk later result =>
    cases result with
    | error e => rfl
    | ok affected => rfl

theorem isQuiet_retry (s : Store) (workers : WorkerJobs) {retry : CronRunControlOptions}
    (haction : retry.action = .retry) (hid : retry.runId = some runId)
    : s.IsQuiet (.control workers retry) := by
  unfold Store.IsQuiet
  rw [exec_retry s workers haction hid]
  rcases retryCronRun_cases s workers runId retry.reason retry.nowMs with
    hsame | ⟨run, runs, _, hupdate, hretried⟩
  . rw [hsame]
    exact RecordsNothing.refl s
  . rw [hretried]
    constructor
    . intro quarantine hmem hactive
      exact ⟨quarantine, hmem, hactive, rfl, rfl⟩
    . intro run' hrun' hflag
      have ⟨old, hold, heq⟩ := (Table.mem_update hupdate).mp hrun'
      refine ⟨old, hold, ?_⟩
      unfold Table.rewrite at heq
      split at heq
      . rw [← heq] at hflag ⊢
        exact ⟨rfl, hflag⟩
      . rw [heq]
        exact ⟨rfl, hflag⟩

theorem succeeds_retry (hrun : s.findRunById runId = some run) {retry : CronRunControlOptions}
    (haction : retry.action = .retry) (hid : retry.runId = some runId)
    : s.Succeeds (fun _ => .ok (some false)) retry
        ∧ (s.exec (.control (fun _ => .ok (some false)) retry)).findRunById runId
          = some (run.retried retry.reason retry.nowMs)
        ∧ (s.exec (.control (fun _ => .ok (some false)) retry)).quarantines = s.quarantines := by
  have ⟨runs, hupdate, hupdateRuns⟩ := updateRuns_retried s run retry.reason retry.nowMs
  have hretried : s.retryCronRun (fun _ => .ok (some false)) runId retry.reason retry.nowMs
      = ({ s with runs }, .ok (s.runs.changed run.isRetriedAs, [])) := by
    rw [retryCronRun_of_stopped hrun (fun _ _ => rfl), hupdateRuns]
    rfl
  have hself : run.isRetriedAs run = true := by
    simp [CronRun.isRetriedAs]
  have hchanged : 0 < s.runs.changed run.isRetriedAs := by
    rw [Table.changed, List.countP_pos_iff]
    exact ⟨run, (Store.findRunById_spec hrun).1, hself⟩
  rw [exec_retry s _ haction hid, hretried]
  refine ⟨?_, ?_, rfl⟩
  . simp [Store.Succeeds, Store.controlCronRun, haction, hid, hretried, hchanged]
  . have hfind : runs.find runId = _ := Table.find_update (fun _ => by rfl) hupdate runId
    have hold : s.runs.find runId = some run := hrun
    rw [hold, Option.map_some, Table.rewrite, if_pos hself] at hfind
    exact hfind

end

/-
The code keeps the promise exactly for the runs that were not flagged when the quarantine was recorded
and whose agent is not quarantined as a whole.
-/
theorem unquarantine_restores_dispatch_iff (calls : List Call) (runId : String)
    : (Run.exec Store.exec Store.empty calls).RestoresDispatch runId
        ↔ ∀ run, (Run.exec Store.exec Store.empty calls).findRunById runId = some run
          → (Run.exec Store.exec Store.empty calls).IsJobQuarantined run
          → run.quarantined = false
            ∧ ¬(Run.exec Store.exec Store.empty calls).IsAgentQuarantined run := by
  have hflagged := isFlagged_run calls
  generalize Run.exec Store.exec Store.empty calls = s at hflagged
  constructor
  . intro h run hrun hjob
    -- the run is retried at once, and its worker has stopped
    let lift : CronRunControlOptions := ⟨.unquarantine, some runId, none, none, "", 0⟩
    let retry : CronRunControlOptions := ⟨.retry, some runId, none, none, "", 0⟩
    let stopped : WorkerJobs := fun _ => .ok (some false)
    have hlift : s.Succeeds stopped lift := (succeeds_unquarantine_iff hrun stopped rfl rfl).mpr hjob
    have hruns : (s.exec (.control stopped lift)).findRunById runId = some run := by
      have hruns : (s.exec (.control stopped lift)).runs = s.runs := by
        have ⟨quarantines, _, hcontrol⟩ := @controlCronRun_unquarantine s runId run hrun stopped lift rfl rfl
        simp [Store.exec, hcontrol]
      unfold Store.findRunById
      rw [hruns]
      exact hrun
    have ⟨hretry, hretried, hquarantines⟩ := @succeeds_retry _ runId run hruns retry rfl rfl
    have hdispatch := h stopped stopped lift retry [] [] rfl rfl hlift trivial rfl rfl hretry trivial
    by_contra hheld
    rw [not_and_or, not_not, Bool.not_eq_false] at hheld
    apply not_isDispatchable hretried rfl _ hdispatch
    cases hheld with
    | inl hflag => exact .inl hflag
    | inr hagent =>
      right
      have hagent' := @isAgentQuarantined_unquarantine s runId run hrun stopped lift rfl rfl hagent
      unfold Store.IsAgentQuarantined at hagent' ⊢
      rw [hquarantines]
      exact hagent'
  . intro h workers workers' lift retry between after hlift hliftId hlifted hbetween hretry hretryId
      _ hafter
    cases hrun : s.findRunById runId with
    | none =>
      have ⟨report, hreport, haffected⟩ := hlifted
      simp only [Store.controlCronRun, hlift, hliftId, Store.unquarantineByRunId, hrun] at hreport
      cases hreport
      cases haffected
    | some run =>
      have hjob := (succeeds_unquarantine_iff hrun workers hlift hliftId).mp hlifted
      have ⟨hflag, hagent⟩ := h run hrun hjob
      have hstatus : run.status ≠ .quarantined := by
        intro hstatus
        have hflag' := hflagged run (Store.findRunById_spec hrun).1 hstatus
        rw [hflag] at hflag'
        cases hflag'
      have hclear := isClear_unquarantine hrun workers hlift hliftId hflag hstatus hagent
      have hwaiting := isClear_run hclear hbetween
      have hretried := isClear_of_quiet hwaiting (isQuiet_retry _ workers' hretry hretryId)
      exact isDispatchable_of_clear (isClear_run hretried hafter)

def quarantinedSample : List Call :=
  [.admitRun sampleAdmission,
    .control (fun _ => .ok none) ⟨.quarantine, some sampleRunId, none, none, "hold", 200⟩]

-- the quarantine is lifted and the run retried, but its flag is still set
theorem flagged_run_stays_quarantined
    : ¬(Run.exec Store.exec Store.empty quarantinedSample).RestoresDispatch sampleRunId := by
  intro h
  have hlift : (Run.exec Store.exec Store.empty quarantinedSample).Succeeds (fun _ => .ok none)
      ⟨.unquarantine, some sampleRunId, none, none, "lift", 300⟩ :=
    ⟨⟨.unquarantine, 1, "lift", []⟩, by decide +kernel⟩
  have hretry : ((Run.exec Store.exec Store.empty quarantinedSample).exec (.control (fun _ => .ok none)
      ⟨.unquarantine, some sampleRunId, none, none, "lift", 300⟩)).Succeeds (fun _ => .ok none)
      ⟨.retry, some sampleRunId, none, none, "again", 400⟩ :=
    ⟨⟨.retry, 1, "again", []⟩, by decide +kernel⟩
  have hdispatch := h _ _ _ _ [] [] rfl rfl hlift trivial rfl rfl hretry trivial "worker-1" "queue-1" 500
    (.runQuarantined sampleRunId) (.inl (by decide +kernel))
  cases hdispatch

end CronRuns
