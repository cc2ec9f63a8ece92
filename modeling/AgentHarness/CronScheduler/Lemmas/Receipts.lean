import AgentHarness.CronScheduler.Lemmas.Isolation
import AgentHarness.Lib.Run

/-!
What the steps of an entry leave as it was.
-/

namespace CronScheduler

open CronRuns (Slot CronRun CronRunAdmitOptions)

variable {γ α : Type} {view : Tick → γ}

variable {faults : Faults} {access : Access}

theorem exec_perform_of_fault {failure : Failure} (h : faults access = some failure)
    (f : World → Outcome World α) (tick : Tick)
    : Faulty.exec (perform faults access f) tick = (.error failure, tick) := by
  simp only [Faulty.exec, perform, h]

theorem exec_perform_of_ok {f : World → Outcome World α} {tick : Tick} {world : World} {a : α}
    (h : faults access = none) (hf : f tick.world = (world, .ok a))
    : Faulty.exec (perform faults access f) tick = (.ok a, { tick with world }) := by
  simp only [Faulty.exec, perform, h, hf]

theorem exec_perform_of_error {f : World → Outcome World α} {tick : Tick} {world : World}
    {e : IoError} (h : faults access = none) (hf : f tick.world = (world, .error e))
    : Faulty.exec (perform faults access f) tick = (.error (.error e), { tick with world }) := by
  simp only [Faulty.exec, perform, h, hf]

theorem exec_perform_inv {f : World → Outcome World α} {tick later : Tick} {a : α}
    (h : Faulty.exec (perform faults access f) tick = (.ok a, later))
    : f tick.world = (later.world, .ok a) := by
  unfold Faulty.exec perform at h
  split at h
  . injection h with h
    cases h
  . split at h
    . next heq =>
      injection h with ha hlater
      injection ha with ha
      rw [heq, ← hlater, ← ha]
    . injection h with h
      cases h

theorem exec_query (h : faults access = none) (f : World → α) (tick : Tick)
    : Faulty.exec (perform faults access (query f)) tick = (.ok (f tick.world), tick) := by
  simp only [Faulty.exec, perform, h, query]

theorem keeps_perform {f : World → Outcome World α} (faults : Faults) (access : Access)
    (h : ∀ tick, view { tick with world := (f tick.world).1 } = view tick)
    : Faulty.Keeps view (perform faults access f) := by
  intro tick
  have hf := h tick
  unfold Faulty.exec perform
  split
  . rfl
  . split
    . next world a heq =>
      rw [heq] at hf
      exact hf
    . next world e heq =>
      rw [heq] at hf
      exact hf

theorem keeps_query (faults : Faults) (access : Access) (f : World → α)
    : Faulty.Keeps view (perform faults access (query f)) := by
  apply keeps_perform
  intro tick
  rfl

def IgnoresRuns (view : Tick → γ) : Prop :=
  ∀ (tick : Tick) (runs : CronRuns.Store), view { tick with world := { tick.world with runs } } = view tick

structure IgnoresMarks (view : Tick → γ) : Prop where
  watermarks : ∀ (tick : Tick) (watermarks : Table watermarksTable),
    view { tick with world := { tick.world with watermarks } } = view tick
  warnings : ∀ (tick : Tick) (warnings : List String), view { tick with warnings } = view tick
  dueCandidates : ∀ (tick : Tick) (dueCandidates : Nat), view { tick with dueCandidates } = view tick

theorem keeps_onRuns (h : IgnoresRuns view) (faults : Faults) (access : Access)
    (f : CronRuns.Store → Outcome CronRuns.Store α)
    : Faulty.Keeps view (perform faults access (onRuns f)) := by
  apply keeps_perform
  intro tick
  exact h tick _

theorem keeps_validateAndLink (h : IgnoresRuns view) (faults : Faults) (nowMs : Int) (run : CronRun)
    (job : WorkerJob)
    : Faulty.Keeps view (validateAndLinkCronWorker faults nowMs run job) := by
  unfold validateAndLinkCronWorker
  split
  . apply Faulty.Keeps.bind
    . exact keeps_onRuns h _ _ _
    . intro _
      exact Faulty.Keeps.throw _
  . apply Faulty.Keeps.bind
    . exact keeps_onRuns h _ _ _
    . intro linked
      apply Faulty.Keeps.ite
      . exact Faulty.Keeps.pure _
      . apply Faulty.Keeps.bind
        . exact keeps_query _ _ _
        . intro exact
          apply Faulty.Keeps.ite
          . exact Faulty.Keeps.pure _
          . exact Faulty.Keeps.throw _

theorem keeps_lookupByKey (faults : Faults) (key : String)
    : Faulty.Keeps view (lookupByKey faults key) := by
  unfold lookupByKey
  split
  . exact Faulty.Keeps.pure _
  . exact Faulty.Keeps.throw _
  . apply Faulty.Keeps.bind
    . exact Faulty.Keeps.get
    . intro tick
      exact Faulty.Keeps.pure _

theorem keeps_compensate (h : IgnoresRuns view) (faults : Faults) (nowMs : Int) (run : CronRun)
    (enqueueError : IoError)
    : Faulty.Keeps view (compensateCronWorkerEnqueueError faults nowMs run enqueueError) := by
  unfold compensateCronWorkerEnqueueError
  apply Faulty.Keeps.bind
  . exact keeps_lookupByKey _ _
  . intro found
    split
    . exact keeps_validateAndLink h _ _ _ _
    . apply Faulty.Keeps.bind
      . exact keeps_onRuns h _ _ _
      . intro expired
        apply Faulty.Keeps.ite
        . exact Faulty.Keeps.pure _
        . exact Faulty.Keeps.throw _
    . apply Faulty.Keeps.bind
      . exact keeps_onRuns h _ _ _
      . intro _
        exact Faulty.Keeps.throw _

theorem keeps_clearForRetry (h : IgnoresMarks view) (faults : Faults) (source : Source)
    (entryId : String) (scheduledForMs : Int)
    : Faulty.Keeps view (clearForRetry faults source entryId scheduledForMs) := by
  have hdelete : ∀ slot, Faulty.Keeps view (perform faults .clearWatermark (·.deleteWatermark slot)) := by
    intro slot
    apply keeps_perform
    intro tick
    unfold World.deleteWatermark
    split
    . rfl
    . exact h.watermarks tick _
  unfold clearForRetry
  apply Faulty.Keeps.bind
  . exact keeps_query _ _ _
  . intro run
    split
    . apply Faulty.Keeps.bind
      . exact hdelete _
      . intro cleared
        split
        . apply Faulty.Keeps.bind
          . apply Faulty.Keeps.modify
            intro tick
            exact h.warnings tick _
          . intro _
            exact Faulty.Keeps.pure _
        . exact Faulty.Keeps.pure _
    . exact Faulty.Keeps.pure _

def Tick.core (self : Tick) : CronRuns.Store × Table jobsTable × List Receipt × List Receipt × Nat :=
  (self.world.runs, self.world.jobs, self.world.receipts, self.world.archived, self.enqueued)

theorem ignoresMarks_core : IgnoresMarks Tick.core where
  watermarks _ _ := rfl
  warnings _ _ := rfl
  dueCandidates _ _ := rfl

/-
A property of the steps of an entry that is left to prove for the admission only: it holds where nothing
is written, and it passes over what an entry does first.
-/
structure EntrySpec (spec : Step CronSchedulerJobDecision → Prop) : Prop where
  decided : ∀ decision, spec (pure decision)
  failed : ∀ failure, spec (throw failure)
  bind : ∀ {α : Type} (m : Step α) (next : α → Step CronSchedulerJobDecision),
    Faulty.Keeps Tick.core m → (∀ a, spec (next a)) → spec (m >>= next)

section Entry

variable {spec : Step CronSchedulerJobDecision → Prop} (h : EntrySpec spec)
  {options : CronSchedulerRunOnceOptions} {config : CronSchedulerConfig}
include h

theorem EntrySpec.enqueueNativeEntry {input : NativeInput} {scheduledForMs : Int}
    (henqueue : ∀ agentId, input.entry.agentId = some agentId →
      spec (admitAndEnqueue input.faults options.nowMs
        (nativeAdmission options input.entry agentId scheduledForMs)
        (nativeWorkerJob options input.entry agentId scheduledForMs) none))
    (retryPendingRun : Option CronRun)
    : spec (enqueueNativeEntry options config input scheduledForMs retryPendingRun) := by
  unfold CronScheduler.enqueueNativeEntry
  dsimp only
  split
  . exact h.decided _
  . next agentId hagent =>
    apply h.bind
    . exact keeps_query _ _ _
    . intro quarantined
      split
      . exact h.decided _
      . apply h.bind
        . exact keeps_query _ _ _
        . intro activeJob
          split
          . exact h.decided _
          . apply h.bind
            . exact keeps_query _ _ _
            . intro activeAgent
              split
              . exact h.decided _
              . split
                . exact h.decided _
                . exact henqueue agentId hagent

theorem EntrySpec.collectDueNativeEntry {input : NativeInput} {scheduledForMs : Int}
    (henqueue : ∀ agentId, input.entry.agentId = some agentId →
      spec (admitAndEnqueue input.faults options.nowMs
        (nativeAdmission options input.entry agentId scheduledForMs)
        (nativeWorkerJob options input.entry agentId scheduledForMs) none))
    : spec (collectDueNativeEntry options config input scheduledForMs) := by
  unfold CronScheduler.collectDueNativeEntry
  apply h.bind
  . apply Faulty.Keeps.modify
    intro tick
    rfl
  . intro _
    split
    . exact h.decided _
    . apply h.bind
      . exact keeps_clearForRetry ignoresMarks_core _ _ _ _
      . intro retryPendingRun
        apply h.bind
        . exact keeps_query _ _ _
        . intro watermarked
          split
          . exact h.decided _
          . exact h.enqueueNativeEntry henqueue _

theorem EntrySpec.collectDueDeterministicEntry {input : DeterministicInput} {due : DeterministicDue}
    (henqueue : spec (admitAndEnqueue input.faults options.nowMs
      (deterministicAdmission options input due) (deterministicWorkerJob options config input due)
      due.catchUp))
    : spec (collectDueDeterministicEntry options config input due) := by
  unfold CronScheduler.collectDueDeterministicEntry
  apply h.bind
  . apply Faulty.Keeps.modify
    intro tick
    rfl
  . intro _
    split
    . exact h.decided _
    . apply h.bind
      . exact keeps_clearForRetry ignoresMarks_core _ _ _ _
      . intro _
        apply h.bind
        . exact keeps_query _ _ _
        . intro watermarked
          split
          . exact h.decided _
          . apply h.bind
            . unfold legacyWatermarked
              split
              . exact keeps_query _ _ _
              . exact Faulty.Keeps.pure _
            . intro legacy
              split
              . exact h.decided _
              . split
                . exact h.decided _
                . exact henqueue

theorem EntrySpec.collectEntry {δ : Type} {limited : CronSchedulerJobDecision}
    {evaluation : Except Failure (Evaluation δ)} {collectDue : δ → Step CronSchedulerJobDecision}
    (hdue : ∀ slot, spec (collectDue slot))
    : spec (collectEntry config limited evaluation collectDue) := by
  unfold CronScheduler.collectEntry
  apply h.bind
  . exact Faulty.Keeps.get
  . intro tick
    split
    . exact h.decided _
    . split
      . exact h.failed _
      . exact h.decided _
      . exact hdue _

end Entry

theorem collect_tick {ι : Type} {step : ι → Step CronSchedulerJobDecision}
    (h : ∀ input, Faulty.Keeps view (step input)) (inputs : List ι) (tick : Tick)
    : view (collect step inputs tick).tick = view tick := by
  induction inputs generalizing tick with
  | nil => rfl
  | cons input inputs ih =>
    have hstep := h input tick
    rw [collect]
    split
    . next heq =>
      rw [heq] at hstep
      exact hstep
    . next later heq =>
      rw [heq] at hstep
      exact (ih later).trans hstep

end CronScheduler

/-!
The receipts of a tick. An entry that the limit keeps out of the tick leaves a receipt that says when the
tick was. The next catch-up starts behind the tick, so a missed slot that was kept out is lost.
-/

namespace CronScheduler

open CronRuns (CronRun CronRunAdmitOptions)

def Tick.lines (self : Tick) : List Receipt × List Receipt :=
  (self.world.receipts, self.world.archived)

section Keeps

theorem keeps_of_core {α : Type} {m : Step α} (h : Faulty.Keeps Tick.core m)
    : Faulty.Keeps Tick.lines m := by
  intro tick
  have hcore := h tick
  simp only [Tick.core, Prod.mk.injEq] at hcore
  exact Prod.ext hcore.2.2.1 hcore.2.2.2.1

theorem entrySpec_lines
    : EntrySpec (Faulty.Keeps Tick.lines : Step CronSchedulerJobDecision → Prop) where
  decided := Faulty.Keeps.pure
  failed := Faulty.Keeps.throw
  bind _ _ hm hnext := Faulty.Keeps.bind (keeps_of_core hm) hnext

theorem ignoresRuns_lines : IgnoresRuns Tick.lines := fun _ _ => rfl

theorem keeps_enqueueWorkerJob (faults : Faults) (job : WorkerJob)
    : Faulty.Keeps Tick.lines (enqueueWorkerJob faults job) := by
  unfold enqueueWorkerJob
  apply Faulty.Keeps.bind
  . apply keeps_perform
    intro tick
    unfold World.insertWorkerJob
    split
    . rfl
    . split
      . rfl
      . rfl
  . intro report
    apply Faulty.Keeps.bind
    . exact keeps_query _ _ _
    . intro _
      exact Faulty.Keeps.pure _

theorem keeps_enqueueOrCompensate (faults : Faults) (nowMs : Int) (run : CronRun) (job : WorkerJob)
    : Faulty.Keeps Tick.lines (enqueueOrCompensate faults nowMs run job) := by
  intro tick
  have hjob := keeps_enqueueWorkerJob faults job tick
  unfold Faulty.exec enqueueOrCompensate
  unfold Faulty.exec at hjob
  split
  . next e later heq =>
    rw [heq] at hjob
    rw [← hjob]
    apply Faulty.Keeps.bind
    . exact keeps_compensate ignoresRuns_lines _ _ _ _
    . intro _
      exact Faulty.Keeps.throw _
  . exact hjob

theorem keeps_admitAndEnqueue (faults : Faults) (nowMs : Int) (admission : CronRunAdmitOptions)
    (job : CronRun → String → WorkerJob) (catchUp : Option CronSchedulerCatchUpDecision)
    : Faulty.Keeps Tick.lines (admitAndEnqueue faults nowMs admission job catchUp) := by
  unfold admitAndEnqueue
  apply Faulty.Keeps.bind
  . exact keeps_onRuns ignoresRuns_lines _ _ _
  . intro run
    apply Faulty.Keeps.bind
    . exact keeps_enqueueOrCompensate _ _ _ _
    . intro report
      unfold linkAndCount
      apply Faulty.Keeps.bind
      . exact keeps_validateAndLink ignoresRuns_lines _ _ _ _
      . intro _
        apply Faulty.Keeps.bind
        . apply keeps_perform
          intro tick
          unfold World.insertWatermark
          split
          . rfl
          . rfl
        . intro _
          apply Faulty.Keeps.bind
          . apply Faulty.Keeps.modify
            intro tick
            rfl
          . intro _
            exact Faulty.Keeps.pure _

theorem lines_native (input : TickInput) (tick : Tick)
    : (collectNativeCronDecisions input tick).tick.lines = tick.lines := by
  unfold collectNativeCronDecisions
  split
  . rfl
  . split
    . rfl
    . apply collect_tick
      intro native
      apply entrySpec_lines.collectEntry
      intro slot
      apply entrySpec_lines.collectDueNativeEntry
      intro agentId _
      exact keeps_admitAndEnqueue _ _ _ _ _

theorem lines_deterministic (input : TickInput) (tick : Tick)
    : (collectDeterministicCronDecisions input tick).tick.lines = tick.lines := by
  unfold collectDeterministicCronDecisions
  split
  . rfl
  . split
    . rfl
    . apply collect_tick
      intro deterministic
      apply entrySpec_lines.collectEntry
      intro due
      apply entrySpec_lines.collectDueDeterministicEntry
      exact keeps_admitAndEnqueue _ _ _ _ _

end Keeps

section Append

-- the lines of the receipts, those of the rotated files first
def World.lines (self : World) : List Receipt :=
  self.archived ++ self.receipts

def TickInput.WritesReceipts (self : TickInput) : Prop :=
  self.rotateFault = none ∧ ∀ n, self.receiptFaults n = none

theorem appendLines_of_ok {faults : Nat → Option Failure} (h : ∀ n, faults n = none) (n : Nat)
    (lines : List Receipt)
    : appendLines faults n lines = (lines, .ok ()) := by
  induction lines generalizing n with
  | nil => rfl
  | cons line lines ih => simp only [appendLines, h, ih]

theorem finish_world (world : World) (input : TickInput) (report : CronSchedulerRunOnceReport)
    : (world.finish input report).1 = (world.appendCronSchedulerReceipts input report).1 := by
  unfold World.finish
  split
  . next heq => rw [heq]
  . next heq =>
    rw [heq]
    split
    . rfl
    . rfl

theorem lines_rotateReceipts (world : World) (oversized : Bool)
    : (world.rotateReceipts oversized).lines = world.lines := by
  cases oversized with
  | false => rfl
  | true => simp [World.rotateReceipts, World.lines]

theorem lines_finish (world : World) (input : TickInput) (report : CronSchedulerRunOnceReport)
    : ∃ appended, (world.finish input report).1.lines = world.lines ++ appended
        ∧ (input.WritesReceipts
          → appended = report.receipts input.options.nowMs input.options.dryRun) := by
  rw [finish_world]
  unfold World.appendCronSchedulerReceipts
  split
  . next failure hfault =>
    refine ⟨[], (List.append_nil _).symm, ?_⟩
    intro hwrites
    rw [hwrites.1] at hfault
    cases hfault
  . refine ⟨(appendLines input.receiptFaults 0
      (report.receipts input.options.nowMs input.options.dryRun)).1, ?_, ?_⟩
    . rw [← lines_rotateReceipts world input.oversized]
      unfold World.lines
      rw [List.append_assoc]
    . intro hwrites
      rw [appendLines_of_ok hwrites.2]

theorem lines_lanes (world : World) (input : TickInput)
    : (collectNativeCronDecisions input world.startTick).tick.world.lines = world.lines
      ∧ (collectDeterministicCronDecisions input
          (collectNativeCronDecisions input world.startTick).tick).tick.world.lines = world.lines := by
  have hnative := lines_native input world.startTick
  have hdeterministic := lines_deterministic input
    (collectNativeCronDecisions input world.startTick).tick
  rw [hnative] at hdeterministic
  simp only [Tick.lines, Prod.mk.injEq] at hnative hdeterministic
  unfold World.lines
  rw [hnative.1, hnative.2, hdeterministic.1, hdeterministic.2]
  exact ⟨rfl, rfl⟩

theorem lines_exec (world : World) (event : Event)
    : ∃ appended, (world.exec event).lines = world.lines ++ appended := by
  have hsame : ∀ later : World, later.lines = world.lines →
      ∃ appended, later.lines = world.lines ++ appended := by
    intro later hlines
    exact ⟨[], by rw [hlines, List.append_nil]⟩
  cases event with
  | runs call => exact hsame _ rfl
  | tick input =>
    have hfinish : ∀ (later : World) (report : CronSchedulerRunOnceReport), later.lines = world.lines →
        ∃ appended, (later.finish input report).1.lines = world.lines ++ appended := by
      intro later report hlines
      have ⟨appended, hfinish, _⟩ := lines_finish later input report
      exact ⟨appended, by rw [hfinish, hlines]⟩
    have hlanes := lines_lanes world input
    unfold World.exec runCronSchedulerOnce
    dsimp only
    split
    . exact hsame _ rfl
    . split
      . exact hfinish _ _ rfl
      . split
        . exact hfinish _ _ rfl
        . split
          . exact hsame _ hlanes.1
          . split
            . exact hsame _ hlanes.2
            . exact hfinish _ _ hlanes.2

theorem mem_lines_run {world : World} {line : Receipt} (h : line ∈ world.lines) (events : List Event)
    : line ∈ (Run.exec World.exec world events).lines := by
  have hstep : ∀ (world : World) (event : Event), line ∈ world.lines → line ∈ (world.exec event).lines := by
    intro world event hmem
    have ⟨appended, hlines⟩ := lines_exec world event
    rw [hlines]
    exact List.mem_append_left appended hmem
  exact Run.exec_invariant (fun world : World => line ∈ world.lines) hstep h events

end Append

def limitedDecision (options : CronSchedulerRunOnceOptions) (input : DeterministicInput)
    : CronSchedulerJobDecision :=
  (deterministicSource options).decide input.entry.entryId options.nowMs .skippedPolicy limitReason

theorem collect_limited {options : CronSchedulerRunOnceOptions} {config : CronSchedulerConfig}
    {previousTickMs : Option Int} {tick : Tick} (h : config.maxEnqueuePerTick ≤ tick.enqueued)
    (inputs : List DeterministicInput)
    : collect (collectDeterministicEntry options config previousTickMs) inputs tick
        = { tick, decisions := inputs.map (limitedDecision options), result := .ok () } := by
  induction inputs with
  | nil => rfl
  | cons input inputs ih =>
    have hstep : Faulty.exec (collectDeterministicEntry options config previousTickMs input) tick
        = (.ok (limitedDecision options input), tick) := by
      unfold collectDeterministicEntry
      rw [exec_collectEntry, if_pos h]
      rfl
    rw [collect_cons_of_ok hstep, ih]
    rfl

/-
The tick would enqueue the slot, and it comes to its entry after it has enqueued as many jobs as it may.
-/
structure SkipsByLimit (world : World) (input : TickInput) (entry : DeterministicInput) (slot : Int)
    : Prop where
  started : input.startFault = none
  unlocked : input.lockBusy = false
  enabled : input.config.enabled
  deterministicEnabled : input.config.deterministicEnabled
  running : (collectNativeCronDecisions input world.startTick).isCrashed = false
  reached : ∃ before after, input.deterministics = .ok (before ++ entry :: after)
    ∧ (collectDeterministicEntries input.options input.config before
        (collectNativeCronDecisions input world.startTick).tick).result = .ok ()
    ∧ input.config.maxEnqueuePerTick
        ≤ (collectDeterministicEntries input.options input.config before
            (collectNativeCronDecisions input world.startTick).tick).tick.enqueued
  due : ∃ due, evaluateDeterministicEntry input.options input.config world.lastSchedulerTickMs entry
      = .ok (.due due)
    ∧ due.scheduledForMs = slot

theorem decisions_of_skipsByLimit {world : World} {input : TickInput} {entry : DeterministicInput}
    {slot : Int} (h : SkipsByLimit world input entry slot)
    : let lane := collectDeterministicCronDecisions input
        (collectNativeCronDecisions input world.startTick).tick
      limitedDecision input.options entry ∈ lane.decisions ∧ lane.result = .ok () := by
  obtain ⟨before, after, hinputs, hok, hlimit⟩ := h.reached
  unfold collectDeterministicCronDecisions
  simp only [h.deterministicEnabled, hinputs, Bool.not_true, Bool.false_eq_true, if_false]
  unfold collectDeterministicEntries at hok hlimit ⊢
  rw [collect_append_of_ok hok, collect_limited hlimit]
  simp

theorem runCronSchedulerOnce_of_skipsByLimit {world : World} {input : TickInput}
    {entry : DeterministicInput} {slot : Int} (h : SkipsByLimit world input entry slot)
    : let native := collectNativeCronDecisions input world.startTick
      let deterministic := collectDeterministicCronDecisions input native.tick
      runCronSchedulerOnce input world
        = deterministic.tick.world.finish input (report input native deterministic) := by
  intro native deterministic
  have hcrashed : deterministic.isCrashed = false := by
    unfold Lane.isCrashed
    rw [(decisions_of_skipsByLimit h).2]
  unfold runCronSchedulerOnce
  rw [h.started]
  dsimp only
  rw [h.unlocked, h.enabled]
  simp only [Bool.false_eq_true, if_false, Bool.not_true]
  rw [h.running, if_neg (by simp), if_neg (by simp [native, deterministic] at hcrashed ⊢; exact hcrashed)]

/-
The line of a decision for the entry that is no job. It names the slot by the minute of its time, or among
the missed slots of its catch-up.
-/
def Receipt.reportsSkipped (self : Receipt) (entryId : String) (slot : Int) : Bool :=
  match self with
  | .job decision =>
    decision.entryId = entryId && decision.decision ≠ .enqueued
      && (floorToMinute decision.scheduledForMs = slot
        || decision.catchUp.any fun catchUp => slot ∈ catchUp.missedSlots)
  | .tick _ _ _ => false

namespace World

variable (self : World) (options : CronSchedulerRunOnceOptions) (entry : DeterministicInput) (slot : Int)

def Reports : Prop :=
  ∃ line ∈ self.lines, line.reportsSkipped entry.entry.entryId slot

def HasJob : Prop :=
  ∃ job ∈ self.jobs.rows, (job.payload.sourceId, job.payload.entryId, job.payload.scheduledForMs)
    = ((deterministicSource options).id, deterministicCronEvidenceEntryId entry, slot)

instance : Decidable (self.Reports entry slot) :=
  inferInstanceAs (Decidable (∃ line ∈ self.lines, line.reportsSkipped entry.entry.entryId slot))

instance : Decidable (self.HasJob options entry slot) :=
  inferInstanceAs (Decidable (∃ job ∈ self.jobs.rows,
    (job.payload.sourceId, job.payload.entryId, job.payload.scheduledForMs)
      = ((deterministicSource options).id, deterministicCronEvidenceEntryId entry, slot)))

end World

theorem limitedDecision_reports_iff {options : CronSchedulerRunOnceOptions} {entry : DeterministicInput}
    {slot : Int}
    : (Receipt.job (limitedDecision options entry)).reportsSkipped entry.entry.entryId slot
        ↔ slot = floorToMinute options.nowMs := by
  simp [Receipt.reportsSkipped, limitedDecision, Source.decide, eq_comm]

theorem limitedDecision_is_written {world : World} {input : TickInput} {entry : DeterministicInput}
    {slot : Int} (h : SkipsByLimit world input entry slot) (hwrites : input.WritesReceipts)
    : .job (limitedDecision input.options entry) ∈ (world.exec (.tick input)).lines := by
  let native := collectNativeCronDecisions input world.startTick
  let deterministic := collectDeterministicCronDecisions input native.tick
  have hmem : limitedDecision input.options entry ∈ (report input native deterministic).decisions :=
    List.mem_append_right _ (decisions_of_skipsByLimit h).1
  have hline : Receipt.job (limitedDecision input.options entry)
      ∈ (report input native deterministic).receipts input.options.nowMs input.options.dryRun := by
    apply List.mem_append_left
    apply List.mem_map_of_mem
    rw [List.mem_filter]
    exact ⟨hmem, rfl⟩
  have ⟨appended, hlines, hall⟩ := lines_finish deterministic.tick.world input
    (report input native deterministic)
  unfold World.exec
  dsimp only
  rw [runCronSchedulerOnce_of_skipsByLimit h, hlines, hall hwrites]
  exact List.mem_append_right _ hline

section Run

/-
Every slot that a tick of the run would have enqueued but for its limit has a job in the end, or a line
that names it.
-/
def KeepsSkippedSlots (events : List Event) : Prop :=
  ∀ before input after entry slot, events = before ++ .tick input :: after →
    SkipsByLimit (Run.exec World.exec World.empty before) input entry slot →
    let final := Run.exec World.exec World.empty events
    final.HasJob input.options entry slot ∨ final.Reports entry slot

/-
What a tick keeps out because of its limit is there for the minute of the tick, not for a missed one.
-/
def SkipsInTime (world : World) (event : Event) : Prop :=
  match event with
  | .runs _ => True
  | .tick input => ∀ entry slot, SkipsByLimit world input entry slot →
    input.WritesReceipts ∧ slot = floorToMinute input.options.nowMs

def sampleTickInput (natives : List NativeInput) (deterministics : List DeterministicInput)
    : TickInput where
  options := sampleOptions
  config := sampleConfig
  lockBusy := false
  natives := .ok natives
  deterministics := .ok deterministics
  oversized := false
  startFault := none
  rotateFault := none
  receiptFaults _ := none
  endFault := none

def sampleTickAt (nowMs : Int) (oversized : Bool) (deterministics : List DeterministicInput) : Event :=
  .tick { sampleTickInput [] deterministics with options := { sampleOptions with nowMs }, oversized }

def firstEntry : DeterministicInput := sampleInput "first" "*/10 * * * *"
def secondEntry : DeterministicInput := sampleInput "second" "*/5 * * * *"
def lateEntry : DeterministicInput := sampleInput "late" "5 * * * *"

theorem slot_of_skipsByLimit {world : World} {input : TickInput} {entry : DeterministicInput}
    {slot : Int} {inputs : List DeterministicInput} (h : SkipsByLimit world input entry slot)
    (hinputs : input.deterministics = .ok inputs)
    : entry ∈ inputs ∧ ∃ due, evaluateDeterministicEntry input.options input.config
        world.lastSchedulerTickMs entry = .ok (.due due) ∧ due.scheduledForMs = slot := by
  obtain ⟨before, after, hsplit, _⟩ := h.reached
  rw [hinputs, Except.ok.injEq] at hsplit
  rw [hsplit]
  exact ⟨List.mem_append_right before List.mem_cons_self, h.due⟩

end Run

end CronScheduler
