import AgentHarness.CronRuns.Lemmas.Effect

/-!
The attempt as a fence. A step of an earlier attempt must not touch the run after a retry: most
operations compare the attempt, those of the runtime know the run by its id or by the queue item.
-/

namespace CronRuns

abbrev QueueOrigin := String → Option (String × Int)

/-
The calls, with the dispatch check of the runtime taken apart: it reads the run, and what the read has
answered may be out of date when it links the item.
-/
inductive Step where
  | call (call : Call)
  | link (runId runtimeQueueId : String) (nowMs : Int)

def Store.perform (self : Store) (step : Step) : Store :=
  match step with
  | .call (.runtimeDispatch _ _ _) => self
  | .call call => self.exec call
  | .link runId runtimeQueueId nowMs => (self.linkRuntimeQueue runId runtimeQueueId nowMs).1

def Step.owner (self : Step) (origin : QueueOrigin) : Option (String × Int) :=
  match self with
  | .call (.workerEnqueued runId attempt _ _) => some (runId, attempt)
  | .call (.runtimeEnqueued runId attempt _ _ _) => some (runId, attempt)
  | .call (.workerStatus runId attempt _ _ _ _) => some (runId, attempt)
  | .call (.expireUnlinked runId attempt _ _ _) => some (runId, attempt)
  | .call (.blockUnlinked runId attempt _ _ _) => some (runId, attempt)
  | .call (.blockLinked runId attempt _ _ _) => some (runId, attempt)
  | .call (.runtimeStatus runtimeQueueId _ _ _) => origin runtimeQueueId
  | .call (.runtimeDispatch _ runtimeQueueId _) => origin runtimeQueueId
  | .link _ runtimeQueueId _ => origin runtimeQueueId
  | .call (.admitRun _) | .call (.control _ _) => none

/-
What the callers promise: the worker passes the run and the attempt of its own job with the item that
it has just created, and the runtime passes the run that is written in the item.
-/
def Step.IsAttributed (self : Step) (origin : QueueOrigin) : Prop :=
  match self with
  | .call (.runtimeEnqueued runId attempt _ runtimeQueueId _) =>
    origin runtimeQueueId = some (runId, attempt)
  | .link runId runtimeQueueId _ => ∃ attempt, origin runtimeQueueId = some (runId, attempt)
  | _ => True

-- a link that finds a run to change finds it at the attempt of its item
def Fenced (origin : QueueOrigin) (s : Store) (step : Step) : Prop :=
  match step with
  | .link runId runtimeQueueId _ => ∀ run, s.findRunById runId = some run
    → run.runtimeQueueId = none → run.status ∈ [.admitted, .workerEnqueued]
    → origin runtimeQueueId = some (runId, run.attempt)
  | .call _ => True

def CronRun.LinksOwnItem (self : CronRun) (origin : QueueOrigin) : Prop :=
  ∀ runtimeQueueId, self.runtimeQueueId = some runtimeQueueId
    → origin runtimeQueueId = some (self.runId, self.attempt)

def Store.LinksOwnItems (self : Store) (origin : QueueOrigin) : Prop :=
  ∀ run ∈ self.runs.rows, run.LinksOwnItem origin

def Store.FencesAttempts (self : Store) (origin : QueueOrigin) (step : Step) : Prop :=
  ∀ runId attempt run, step.owner origin = some (runId, attempt)
    → self.findRunById runId = some run → run.attempt ≠ attempt
    → (self.perform step).findRunById runId = some run

section

variable {origin : QueueOrigin} {s : Store} {step : Step}

theorem isKept_linksOwnItem
    : IsKept (fun run run' => run.LinksOwnItem origin → run'.LinksOwnItem origin) where
  refl _ h := h
  trans _ _ _ h h' := h' ∘ h
  quarantine _ _ _ _ h := h

theorem linksOwnItem_of_direct {call : Call} (hfrom : (Step.call call).IsAttributed origin)
    (hother : ∀ runId runtimeQueueId nowMs, call ≠ .runtimeDispatch runId runtimeQueueId nowMs)
    {run run' : CronRun} (h : Direct s call run run') (hown : run.LinksOwnItem origin)
    : run'.LinksOwnItem origin := by
  cases h with
  | workerEnqueued => exact hown
  | workerStatus => exact hown
  | expireUnlinked => exact hown
  | blockUnlinked => exact hown
  | blockLinked => exact hown
  | runtimeStatus => exact hown
  | skip => exact hown
  | runtimeEnqueued hid hattempt =>
    rintro runtimeQueueId ⟨⟩
    dsimp only
    rw [hid, hattempt]
    exact hfrom
  | runtimeDispatch => exact absurd rfl (hother _ _ _)
  | retry =>
    rintro runtimeQueueId ⟨⟩

theorem Store.LinksOwnItems.of_evolves {later : Store} {fresh : CronRun → Prop}
    (hown : s.LinksOwnItems origin)
    (hevolves : Store.Evolves (fun run run' => run.LinksOwnItem origin → run'.LinksOwnItem origin)
      fresh s later)
    (hfresh : ∀ run, fresh run → run.LinksOwnItem origin)
    : later.LinksOwnItems origin := by
  intro run' hrun'
  rcases hevolves.origin run' hrun' with ⟨run, hrun, _, hrel⟩ | hnew
  . exact hrel (hown run hrun)
  . exact hfresh run' hnew

theorem linksOwnItems_perform (hown : s.LinksOwnItems origin) (hfrom : step.IsAttributed origin)
    (hfenced : Fenced origin s step)
    : (s.perform step).LinksOwnItems origin := by
  unfold Store.perform
  split
  . exact hown
  . next call hother =>
    apply hown.of_evolves
      (evolves_exec isKept_linksOwnItem fun _ _ => linksOwnItem_of_direct hfrom hother)
    rintro _ ⟨options, _, rfl⟩
    rintro runtimeQueueId ⟨⟩
  . next runId runtimeQueueId nowMs =>
    refine hown.of_evolves (evolves_linkRuntimeQueue isKept_linksOwnItem ?_) (fun _ h => h.elim)
    rintro run hrun hid hqueue hstatus _ linked ⟨⟩
    have hfound := Store.findRunById_of_mem hrun
    rw [hid] at hfound
    dsimp only
    rw [hid]
    exact hfenced run hfound hqueue hstatus

end

namespace Store

variable {s : Store}

theorem updateRuns_of_none {hits : CronRun → Bool} {set : CronRun → CronRun}
    (h : ∀ run ∈ s.runs.rows, hits run = false)
    : s.updateRuns hits set = (s, .ok 0) := by
  have hchanged : s.runs.changed hits = 0 := by
    rw [Table.changed, List.countP_eq_zero]
    intro run hrun
    simp [h run hrun]
  simp [updateRuns, Table.update_of_none h, hchanged]

theorem misses_of_attempt {runId : String} {run : CronRun} (hrun : s.findRunById runId = some run)
    {attempt : Int} (hattempt : run.attempt ≠ attempt)
    : ∀ other ∈ s.runs.rows, (decide (other.runId = runId) && decide (other.attempt = attempt)) = false := by
  intro other hother
  rw [Bool.eq_false_iff]
  intro hhits
  simp only [Bool.and_eq_true, decide_eq_true_eq] at hhits
  have ⟨hmem, hid⟩ := findRunById_spec hrun
  have hsame : other = run := Table.eq_of_key hother hmem (hhits.1.trans hid.symm)
  exact hattempt (hsame ▸ hhits.2)

end Store

section

variable {origin : QueueOrigin} {s : Store} {runId : String} {run : CronRun} {attempt : Int}
  (hrun : s.findRunById runId = some run) (hattempt : run.attempt ≠ attempt)
include hrun hattempt

theorem exec_runtimeStatus_stale (hown : s.LinksOwnItems origin) {runtimeQueueId : String}
    (horigin : origin runtimeQueueId = some (runId, attempt)) (status reason : String) (nowMs : Int)
    : s.exec (.runtimeStatus runtimeQueueId status reason nowMs) = s := by
  have hnone : s.findRunByRuntimeQueueId runtimeQueueId = none := by
    rw [Store.findRunByRuntimeQueueId, List.find?_eq_none]
    intro other hother hqueue
    rw [decide_eq_true_eq] at hqueue
    have hlinked := hown other hother runtimeQueueId hqueue
    rw [horigin] at hlinked
    injection hlinked with hlinked
    injection hlinked with hid hsame
    have hfound := Store.findRunById_of_mem hother
    rw [← hid, hrun] at hfound
    injection hfound with hfound
    exact hattempt (hfound ▸ hsame.symm)
  simp [Store.exec, Store.markCronRunRuntimeStatusByQueueId, hnone]

theorem linkRuntimeQueue_stale {runtimeQueueId : String}
    (horigin : origin runtimeQueueId = some (runId, attempt)) {nowMs : Int}
    (hfenced : Fenced origin s (.link runId runtimeQueueId nowMs))
    : (s.linkRuntimeQueue runId runtimeQueueId nowMs).1 = s := by
  unfold Store.linkRuntimeQueue
  rw [Store.updateRuns_of_none]
  intro other hother
  rw [Bool.eq_false_iff]
  intro hhits
  simp only [Bool.and_eq_true, decide_eq_true_eq] at hhits
  obtain rfl : other = run :=
    Table.eq_of_key hother (Store.findRunById_spec hrun).1
      (hhits.1.1.trans (Store.findRunById_spec hrun).2.symm)
  have hsame := hfenced other hrun hhits.1.2 hhits.2
  rw [horigin] at hsame
  injection hsame with hsame
  injection hsame with _ hsame
  exact hattempt hsame.symm

theorem exec_stale {call : Call} (hown : s.LinksOwnItems origin)
    (hother : ∀ runId runtimeQueueId nowMs, call ≠ .runtimeDispatch runId runtimeQueueId nowMs)
    (howner : (Step.call call).owner origin = some (runId, attempt))
    : s.exec call = s := by
  have hmiss := Store.misses_of_attempt hrun hattempt
  cases call with
  | admitRun => cases howner
  | control => cases howner
  | runtimeStatus runtimeQueueId status reason nowMs =>
    exact exec_runtimeStatus_stale hrun hattempt hown howner status reason nowMs
  | runtimeDispatch => exact absurd rfl (hother _ _ _)
  | workerEnqueued =>
    cases howner
    simp only [Store.exec, Store.markCronRunWorkerEnqueued]
    rw [Store.updateRuns_of_none]
    . rfl
    . intro other hother
      simp only [hmiss other hother, Bool.false_and]
  | runtimeEnqueued =>
    cases howner
    simp only [Store.exec, Store.markCronRunRuntimeEnqueued]
    rw [Store.updateRuns_of_none]
    . rfl
    . intro other hother
      simp only [hmiss other hother, Bool.false_and]
  | workerStatus =>
    cases howner
    simp only [Store.exec, Store.markCronRunWorkerStatus, hrun]
    rw [Store.updateRuns_of_none]
    . rfl
    . intro other hother
      simp only [hmiss other hother, Bool.false_and]
  | expireUnlinked =>
    cases howner
    simp only [Store.exec, Store.expireUnlinkedAdmittedCronRun]
    rw [Store.updateRuns_of_none]
    . rfl
    . intro other hother
      simp only [Store.isUnlinkedAdmitted, hmiss other hother, Bool.false_and]
  | blockUnlinked =>
    cases howner
    simp only [Store.exec, Store.blockUnlinkedAdmittedCronRun]
    rw [Store.updateRuns_of_none]
    . rfl
    . intro other hother
      simp only [Store.isUnlinkedAdmitted, hmiss other hother, Bool.false_and]
  | blockLinked =>
    cases howner
    simp only [Store.exec, Store.blockLinkedCronRunIdentity]
    rw [Store.updateRuns_of_none]
    . rfl
    . intro other hother
      simp only [hmiss other hother, Bool.false_and]

theorem perform_stale {step : Step} (hown : s.LinksOwnItems origin)
    (hfrom : step.IsAttributed origin) (hfenced : Fenced origin s step)
    (howner : step.owner origin = some (runId, attempt))
    : s.perform step = s := by
  unfold Store.perform
  split
  . rfl
  . next call hother => exact exec_stale hrun hattempt hown hother howner
  . next runId' runtimeQueueId nowMs =>
    have hsame : runId' = runId := by
      obtain ⟨attempt', horigin⟩ := hfrom
      rw [Step.owner, horigin] at howner
      injection howner with howner
      injection howner
    subst hsame
    exact linkRuntimeQueue_stale hrun hattempt howner hfenced

end

theorem linksOwnItems_run {origin : QueueOrigin} {steps : List Step} {s : Store}
    (hown : s.LinksOwnItems origin) (hfrom : ∀ step ∈ steps, step.IsAttributed origin)
    (hfenced : Run.Guarded Store.perform (Fenced origin) s steps)
    : (Run.exec Store.perform s steps).LinksOwnItems origin := by
  induction steps generalizing s with
  | nil => exact hown
  | cons step steps ih =>
    rw [List.forall_mem_cons] at hfrom
    rw [Run.exec_cons]
    apply ih
    . exact linksOwnItems_perform hown hfrom.1 hfenced.1
    . exact hfrom.2
    . exact hfenced.2

def sampleOrigin : QueueOrigin := fun runtimeQueueId =>
  if runtimeQueueId = "queue-0" then
    some (sampleRunId, 0)
  else if runtimeQueueId = "queue-1" then
    some (sampleRunId, 1)
  else
    none

def retriedSample : List Step :=
  [.call (.admitRun sampleAdmission),
    .call (.workerEnqueued sampleRunId 0 "worker-0" 110),
    .call (.runtimeEnqueued sampleRunId 0 "worker-0" "queue-0" 120),
    .call (.control (fun _ => .ok (some false))
      ⟨.retry, some sampleRunId, none, none, "again", 200⟩),
    .call (.workerEnqueued sampleRunId 1 "worker-1" 210)]

def dispatchSample (runtimeQueueId : String) : List Step :=
  [.call (.runtimeDispatch sampleRunId runtimeQueueId 220), .link sampleRunId runtimeQueueId 220]

theorem retriedSample_attempt
    : ((Run.exec Store.perform Store.empty retriedSample).findRunById sampleRunId).map
        CronRun.attempt = some 1 := by
  decide +kernel

end CronRuns
