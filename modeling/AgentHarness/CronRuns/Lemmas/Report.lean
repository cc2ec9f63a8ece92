import AgentHarness.CronRuns.Lemmas.Fence
import AgentHarness.CronRuns.Lemmas.Quarantine

/-!
Status reports that update no run.
-/

namespace CronRuns

def isCovered (agentId : String) (entryId : Option String) (run : CronRun) : Bool :=
  run.agentId = agentId && (entryId.all fun entryId => run.entryId = entryId)
    && run.status ∈ activeStatuses

def CronRun.stopped (self : CronRun) (reason : String) (nowMs : Int) : CronRun :=
  { self with
    quarantined := true
    status := .quarantined
    failureReason := some reason
    updatedAtMs := nowMs }

namespace Store

variable (self : Store)

def UpdatesNoRow (call : Call) : Prop :=
  match call with
  | .workerStatus runId attempt workerJobId _ _ _ =>
    ∀ run ∈ self.runs.rows, ¬(run.runId = runId ∧ run.attempt = attempt
      ∧ run.workerJobId = some workerJobId ∧ run.status ∉ settledStatuses)
  | .runtimeStatus runtimeQueueId _ _ _ =>
    ∀ found, self.findRunByRuntimeQueueId runtimeQueueId = some found
      → ∀ run ∈ self.runs.rows, ¬(run.runId = found.runId ∧ run.runtimeQueueId = some runtimeQueueId
        ∧ run.status ∉ settledStatuses)
  | _ => False

def Holds (agentId : String) (entryId : Option String) (reason : String) (nowMs : Int) : Prop :=
  (∃ quarantine, self.quarantines.find (quarantineScopeId agentId entryId) = some quarantine
    ∧ quarantine.active = true ∧ quarantine.reason = reason ∧ quarantine.updatedAtMs = nowMs)
    ∧ ∀ run ∈ self.runs.rows, isCovered agentId entryId run = false

def RecordsAgain (call : Call) : Prop :=
  match call with
  | .runtimeStatus runtimeQueueId status reason nowMs =>
    cronStatusFromRuntimeStatus status = .failedTerminal
      ∧ ∃ found, self.findRunByRuntimeQueueId runtimeQueueId = some found
        ∧ ((self.countRecentFailedRuns found.agentId (some found.entryId)
                ≥ defaultJobFailureQuarantineThreshold
              ∧ ¬self.Holds found.agentId (some found.entryId) reason nowMs)
          ∨ (self.countRecentFailedRuns found.agentId none ≥ defaultAgentFailureQuarantineThreshold
              ∧ ¬self.Holds found.agentId none reason nowMs))
  | _ => False

end Store

section

variable {s : Store} {agentId : String} {entryId : Option String} {reason : String} {nowMs : Int}

theorem updateRuns_stopped (s : Store) (agentId : String) (entryId : Option String) (reason : String)
    (nowMs : Int)
    : ∃ runs, s.runs.update (isCovered agentId entryId) (fun run => run.stopped reason nowMs) = some runs
        ∧ s.updateRuns (isCovered agentId entryId) (fun run => run.stopped reason nowMs)
          = ({ s with runs }, .ok (s.runs.changed (isCovered agentId entryId))) := by
  apply updateRuns_eq
  . intro run
    rfl
  . intro run
    rfl

theorem updateQuarantines_renewed (s : Store) (scopeId reason : String) (nowMs : Int)
    : ∃ quarantines, s.quarantines.update (fun quarantine => quarantine.scopeId = scopeId)
        (fun quarantine => { quarantine with reason, active := true, updatedAtMs := nowMs })
          = some quarantines := by
  apply Table.update_isSome
  . intro quarantine
    rfl
  . intro quarantine _ _
    rfl
  . intro quarantine _ other _ hclash
    cases hclash

theorem upsertQuarantine_spec (s : Store) (agentId : String) (entryId : Option String)
    (reason : String) (nowMs : Int)
    : ∃ later, s.upsertQuarantine agentId entryId reason nowMs
          = (later, .ok (s.runs.changed (isCovered agentId entryId)))
        ∧ (∃ quarantine, later.quarantines.find (quarantineScopeId agentId entryId) = some quarantine
          ∧ quarantine.active = true ∧ quarantine.reason = reason ∧ quarantine.updatedAtMs = nowMs)
        ∧ (∀ scopeId, scopeId ≠ quarantineScopeId agentId entryId
          → later.quarantines.find scopeId = s.quarantines.find scopeId)
        ∧ later.runs.rows = s.runs.rows.map
          (Table.rewrite (isCovered agentId entryId) fun run => run.stopped reason nowMs) := by
  cases hfind : s.quarantines.find (quarantineScopeId agentId entryId) with
  | none =>
    let quarantine : CronQuarantine := {
      scopeId := quarantineScopeId agentId entryId
      agentId, entryId, reason, active := true, createdAtMs := nowMs, updatedAtMs := nowMs }
    obtain ⟨quarantines, hinsert⟩ : ∃ quarantines, s.quarantines.insert quarantine = some quarantines := by
      apply Table.insert_isSome
      . intro other hother hkey
        have hstored := Table.find_of_mem hother
        rw [hkey] at hstored
        rw [show cronQuarantineTable.key quarantine = quarantineScopeId agentId entryId from rfl,
          hfind] at hstored
        cases hstored
      . rfl
      . intro other _
        rfl
    obtain ⟨runs, hupdate, hruns⟩ := updateRuns_stopped { s with quarantines } agentId entryId reason nowMs
    refine ⟨{ runs, quarantines }, ?_, ?_, ?_, Table.rows_update hupdate⟩
    . simp only [Store.upsertQuarantine, hfind]
      rw [hinsert]
      apply hruns
    . refine ⟨quarantine, ?_, rfl, rfl, rfl⟩
      dsimp only
      rw [Table.find_insert hinsert]
      apply if_pos rfl
    . intro scopeId hother
      dsimp only
      rw [Table.find_insert hinsert]
      apply if_neg hother.symm
  | some quarantine =>
    obtain ⟨quarantines, hrenewed⟩ :=
      updateQuarantines_renewed s (quarantineScopeId agentId entryId) reason nowMs
    have hkey : ∀ quarantine : CronQuarantine, cronQuarantineTable.key
        { quarantine with reason, active := true, updatedAtMs := nowMs }
          = cronQuarantineTable.key quarantine := fun _ => rfl
    obtain ⟨runs, hupdate, hruns⟩ := updateRuns_stopped { s with quarantines } agentId entryId reason nowMs
    refine ⟨{ runs, quarantines }, ?_, ?_, ?_, Table.rows_update hupdate⟩
    . simp only [Store.upsertQuarantine, hfind]
      rw [hrenewed]
      apply hruns
    . have hscope : quarantine.scopeId = quarantineScopeId agentId entryId :=
        (Table.mem_of_find hfind).2
      dsimp only
      rw [Table.find_update hkey hrenewed, hfind]
      refine ⟨{ quarantine with reason, active := true, updatedAtMs := nowMs }, ?_, rfl, rfl, rfl⟩
      simp [Table.rewrite, hscope]
    . intro scopeId hother
      dsimp only
      rw [Table.find_update hkey hrenewed]
      cases hfound : s.quarantines.find scopeId with
      | none => rfl
      | some found =>
        have hscope : found.scopeId = scopeId := (Table.mem_of_find hfound).2
        simp [Table.rewrite, hscope, hother]

theorem not_isCovered_stopped (run : CronRun)
    : isCovered agentId entryId (run.stopped reason nowMs) = false := by
  simp [isCovered, CronRun.stopped, activeStatuses]

theorem holds_upsert (s : Store) (agentId : String) (entryId : Option String) (reason : String)
    (nowMs : Int)
    : (s.upsertQuarantine agentId entryId reason nowMs).1.Holds agentId entryId reason nowMs := by
  obtain ⟨later, heq, hscope, _, hruns⟩ := upsertQuarantine_spec s agentId entryId reason nowMs
  rw [heq]
  refine ⟨hscope, ?_⟩
  intro run' hrun'
  dsimp only at hrun'
  rw [hruns, List.mem_map] at hrun'
  obtain ⟨run, _, rfl⟩ := hrun'
  unfold Table.rewrite
  split
  . apply not_isCovered_stopped
  . next hmiss => simpa using hmiss

theorem Store.Holds.upsert (h : s.Holds agentId entryId reason nowMs) {agentId' : String}
    {entryId' : Option String}
    (hother : quarantineScopeId agentId entryId ≠ quarantineScopeId agentId' entryId')
    : (s.upsertQuarantine agentId' entryId' reason nowMs).1.Holds agentId entryId reason nowMs := by
  obtain ⟨later, heq, _, hrest, hruns⟩ := upsertQuarantine_spec s agentId' entryId' reason nowMs
  rw [heq]
  refine ⟨?_, ?_⟩
  . dsimp only
    rw [hrest _ hother]
    exact h.1
  . intro run' hrun'
    dsimp only at hrun'
    rw [hruns, List.mem_map] at hrun'
    obtain ⟨run, hrun, rfl⟩ := hrun'
    unfold Table.rewrite
    split
    . apply not_isCovered_stopped
    . exact h.2 run hrun

theorem upsert_of_holds (h : s.Holds agentId entryId reason nowMs)
    : (s.upsertQuarantine agentId entryId reason nowMs).1 = s := by
  obtain ⟨⟨quarantine, hfind, hactive, hreason, htime⟩, hruns⟩ := h
  have hsame : s.quarantines.update
      (fun quarantine => quarantine.scopeId = quarantineScopeId agentId entryId)
      (fun quarantine => { quarantine with reason, active := true, updatedAtMs := nowMs })
        = some s.quarantines := by
    rw [Table.update_eq_some, List.map_congr_left (g := id)]
    . simp
    . intro other hother
      unfold Table.rewrite
      split
      . next hscope =>
        have hquarantine : other = quarantine := by
          apply Table.eq_of_key hother (Table.mem_of_find hfind).1
          rw [(Table.mem_of_find hfind).2]
          exact of_decide_eq_true hscope
        rw [hquarantine]
        cases quarantine
        cases hactive
        cases hreason
        cases htime
        rfl
      . rfl
  simp only [Store.upsertQuarantine, hfind]
  rw [hsame]
  exact congrArg Prod.fst (Store.updateRuns_of_none hruns)

theorem countRecentFailedRuns_upsert (s : Store) (agentId agentId' : String)
    (entryId entryId' : Option String) (reason : String) (nowMs : Int)
    : (s.upsertQuarantine agentId entryId reason nowMs).1.countRecentFailedRuns agentId' entryId'
        = s.countRecentFailedRuns agentId' entryId' := by
  obtain ⟨later, heq, _, _, hruns⟩ := upsertQuarantine_spec s agentId entryId reason nowMs
  rw [heq]
  unfold Store.countRecentFailedRuns
  dsimp only
  rw [hruns, List.countP_map]
  apply List.countP_congr
  intro run _
  unfold Table.rewrite
  rw [Function.comp_apply]
  split
  . next hcovered =>
    have hactive : run.status ∈ activeStatuses := by
      simp only [isCovered, Bool.and_eq_true, decide_eq_true_eq] at hcovered
      exact hcovered.2
    have hfailed : run.status ≠ .failedTerminal := by
      intro hstatus
      rw [hstatus] at hactive
      revert hactive
      decide
    simp [CronRun.stopped, hfailed]
  . rfl

theorem maybeQuarantine_fst (s : Store) (agentId entryId reason : String) (nowMs : Int)
    : (s.maybeQuarantineAfterFailure agentId entryId reason nowMs).1
        = let middle :=
            if s.countRecentFailedRuns agentId (some entryId) ≥ defaultJobFailureQuarantineThreshold then
              (s.upsertQuarantine agentId (some entryId) reason nowMs).1
            else
              s
          if s.countRecentFailedRuns agentId none ≥ defaultAgentFailureQuarantineThreshold then
            (middle.upsertQuarantine agentId none reason nowMs).1
          else
            middle := by
  have hagent : ∀ middle : Store,
      middle.countRecentFailedRuns agentId none = s.countRecentFailedRuns agentId none
        → (if middle.countRecentFailedRuns agentId none ≥ defaultAgentFailureQuarantineThreshold then
            (middle.upsertQuarantine agentId none reason nowMs).andThen fun later _ => (later, .ok ())
          else
            (middle, (.ok () : Except IoError Unit))).1
          = if s.countRecentFailedRuns agentId none ≥ defaultAgentFailureQuarantineThreshold then
              (middle.upsertQuarantine agentId none reason nowMs).1
            else
              middle := by
    intro middle hcount
    obtain ⟨later, heq, _⟩ := upsertQuarantine_spec middle agentId none reason nowMs
    rw [hcount, heq]
    split
    . rfl
    . rfl
  unfold Store.maybeQuarantineAfterFailure
  dsimp only
  split
  . have hcount := countRecentFailedRuns_upsert s agentId agentId (some entryId) none reason nowMs
    obtain ⟨later, heq, _⟩ := upsertQuarantine_spec s agentId (some entryId) reason nowMs
    rw [heq] at hcount ⊢
    apply hagent later hcount
  . apply hagent s rfl

theorem maybeQuarantine_eq_iff (s : Store) (agentId entryId reason : String) (nowMs : Int)
    : (s.maybeQuarantineAfterFailure agentId entryId reason nowMs).1 = s
        ↔ (s.countRecentFailedRuns agentId (some entryId) ≥ defaultJobFailureQuarantineThreshold
            → s.Holds agentId (some entryId) reason nowMs)
          ∧ (s.countRecentFailedRuns agentId none ≥ defaultAgentFailureQuarantineThreshold
            → s.Holds agentId none reason nowMs) := by
  have hscopes : quarantineScopeId agentId (some entryId) ≠ quarantineScopeId agentId none := by
    intro hsame
    have hlead := congrArg (fun scopeId => scopeId.toList.head?) hsame
    simp [quarantineScopeId, String.toList_append] at hlead
  have hjob := holds_upsert s agentId (some entryId) reason nowMs
  rw [maybeQuarantine_fst]
  by_cases hjobs : s.countRecentFailedRuns agentId (some entryId) ≥ defaultJobFailureQuarantineThreshold
  . simp only [hjobs, if_true, true_implies]
    by_cases hagents : s.countRecentFailedRuns agentId none ≥ defaultAgentFailureQuarantineThreshold
    . simp only [hagents, if_true, true_implies]
      have hagent :=
        holds_upsert (s.upsertQuarantine agentId (some entryId) reason nowMs).1 agentId none reason nowMs
      have hboth : ((s.upsertQuarantine agentId (some entryId) reason nowMs).1.upsertQuarantine agentId
          none reason nowMs).1.Holds agentId (some entryId) reason nowMs := hjob.upsert hscopes
      constructor
      . intro h
        rw [h] at hboth hagent
        exact ⟨hboth, hagent⟩
      . intro h
        rw [upsert_of_holds h.1, upsert_of_holds h.2]
    . simp only [hagents, if_false, false_implies, and_true]
      constructor
      . intro h
        rwa [h] at hjob
      . apply upsert_of_holds
  . simp only [hjobs, if_false, false_implies, true_and]
    by_cases hagents : s.countRecentFailedRuns agentId none ≥ defaultAgentFailureQuarantineThreshold
    . simp only [hagents, if_true, true_implies]
      have hagent := holds_upsert s agentId none reason nowMs
      constructor
      . intro h
        rwa [h] at hagent
      . apply upsert_of_holds
    . simp [hagents]

end

/-
A report that updates no run leaves the store as it is, but for one: a failure that the runtime reports for a
run whose job or agent has failed often enough.
-/
theorem rejected_report_iff {s : Store} {call : Call} (h : s.UpdatesNoRow call)
    : s.exec call = s ↔ ¬s.RecordsAgain call := by
  cases call with
  | workerStatus runId attempt workerJobId status reason nowMs =>
    simp only [Store.RecordsAgain, not_false_eq_true, iff_true]
    unfold Store.exec Store.markCronRunWorkerStatus
    dsimp only
    split
    . rfl
    . rw [Store.updateRuns_of_none]
      . simp [Outcome.andThen]
      . intro run hrun
        have hmiss := h run hrun
        simpa [Bool.eq_false_iff, and_assoc] using hmiss
  | runtimeStatus runtimeQueueId status reason nowMs =>
    unfold Store.exec Store.markCronRunRuntimeStatusByQueueId Store.RecordsAgain
    dsimp only
    cases hfound : s.findRunByRuntimeQueueId runtimeQueueId with
    | none => simp
    | some found =>
      dsimp only
      rw [Store.updateRuns_of_none]
      . simp only [Outcome.andThen]
        by_cases hfailed : cronStatusFromRuntimeStatus status = .failedTerminal
        . rw [if_pos hfailed, maybeQuarantine_eq_iff]
          simp only [hfailed, Option.some.injEq, exists_eq_left', true_and, not_or, not_and, not_not]
        . simp [hfailed]
      . intro run hrun
        have hmiss := h found hfound run hrun
        simpa [Bool.eq_false_iff, and_assoc] using hmiss
  | _ => exact h.elim

def failedCalls (scheduledForMs : Int) : List Call :=
  let runId := cronRunId ("harness", "main", "daily", scheduledForMs)
  let queueId := "queue-" ++ toString scheduledForMs
  [.admitRun { sampleAdmission with scheduledForMs },
    .workerEnqueued runId 0 "worker" scheduledForMs,
    .runtimeEnqueued runId 0 "worker" queueId scheduledForMs,
    .runtimeStatus queueId "timeout" "too slow" (scheduledForMs + 50)]

theorem rejected_report_sample
    : (Run.exec Store.exec Store.empty (failedCalls 100)).exec
          (.workerStatus sampleRunId 0 "worker" "failed-terminal" "gone" 900)
        = Run.exec Store.exec Store.empty (failedCalls 100) := by
  have hmiss : (Run.exec Store.exec Store.empty (failedCalls 100)).UpdatesNoRow
      (.workerStatus sampleRunId 0 "worker" "failed-terminal" "gone" 900) := by
    unfold Store.UpdatesNoRow
    decide +kernel
  apply (rejected_report_iff hmiss).2
  rintro ⟨⟩

def liftedSample : Store :=
  Run.exec Store.exec Store.empty
    (failedCalls 100 ++ failedCalls 200 ++ failedCalls 300
      ++ [.control (fun _ => .ok none) ⟨.unquarantine, some sampleRunId, none, none, "lift", 400⟩])

-- three runs have failed and the quarantine is lifted: the last failure is reported once more
theorem rejected_report_quarantines
    : liftedSample.cronRunIsQuarantined "main" "daily" = none
        ∧ ¬∀ (s : Store) (call : Call), s.UpdatesNoRow call → s.exec call = s := by
  refine ⟨by decide +kernel, ?_⟩
  intro h
  have hmiss : liftedSample.UpdatesNoRow (.runtimeStatus "queue-300" "timeout" "too slow" 500) := by
    unfold Store.UpdatesNoRow
    decide +kernel
  have hsame := congrArg (fun s => s.cronRunIsQuarantined "main" "daily") (h _ _ hmiss)
  revert hsame
  decide +kernel

end CronRuns
