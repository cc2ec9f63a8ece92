import AgentHarness.CronScheduler.Crontab
import AgentHarness.CronScheduler.Lemmas.Enqueue
import AgentHarness.CronScheduler.Lemmas.Slots

/-!
What a malformed entry does to the others. Its text is read for the minute of the tick and, by the
catch-up, for minutes before; either reading may come to a part of it that the other does not reach.
-/

namespace CronScheduler

theorem scriptPath_of_planned {isFile : String → Bool} {runners : List DeterministicCronRunner}
    {allowDeterministicRun : Bool} {entry : DeterministicCronPlanEntry}
    (h : entry ∈ planDeterministicCron isFile runners allowDeterministicRun)
    (hready : entry.action = .readyCommand)
    : entry.scriptPath.isSome := by
  obtain ⟨source, _, rfl⟩ := List.mem_map.mp h
  dsimp only [planEntry] at hready ⊢
  unfold planAction at hready
  split at hready
  . cases hready
  . cases hready
  . next hscript _ => rw [hscript, Option.isSome_some]
  . cases hready

section Gap

variable {schedule : DeterministicCronSchedule} {timezone : Option String}

def IsUnreadable (schedule : DeterministicCronSchedule) (timezone : Option String) (minute : Int) : Prop :=
  ∃ error, deterministicDueSlot schedule timezone minute = .error error

/-
One of the minutes from the slot on cannot be read, and fewer than the limit are due before it.
-/
def MeetsUnreadable (schedule : DeterministicCronSchedule) (timezone : Option String)
    (limit minutes : Nat) (slot : Int)
    : Prop :=
  ∃ n < minutes, IsUnreadable schedule timezone (slot + 60000 * n)
    ∧ (dueMinutes schedule timezone n slot).length < limit

theorem missedSlotsFrom_error_iff {limit minutes : Nat} {slot : Int} {missed : List Int}
    : (∃ error, missedSlotsFrom schedule timezone limit minutes slot missed = .error error)
        ↔ MeetsUnreadable schedule timezone (limit - missed.length) minutes slot := by
  induction minutes generalizing slot missed with
  | zero => simp [missedSlotsFrom, MeetsUnreadable]
  | succ minutes ih =>
    unfold missedSlotsFrom
    by_cases hroom : missed.length < limit
    . rw [if_pos hroom]
      cases hdue : deterministicDueSlot schedule timezone slot with
      | error error =>
        have hfirst : MeetsUnreadable schedule timezone (limit - missed.length) (minutes + 1) slot := by
          refine ⟨0, by omega, ⟨error, by simpa using hdue⟩, ?_⟩
          simp only [dueMinutes, List.length_nil]
          omega
        simp [hfirst, bind, Except.bind]
      | ok due =>
        have hread : ¬IsUnreadable schedule timezone slot := by simp [IsUnreadable, hdue]
        have hslot : ∀ n : Nat, slot + 60000 + 60000 * (n : Int) = slot + 60000 * ((n + 1 : Nat) : Int) := by
          intro n
          omega
        have hcount : ∀ n, (dueMinutes schedule timezone n (slot + 60000)).length
              < limit - (if due.isSome then missed ++ [slot] else missed).length
            ↔ (dueMinutes schedule timezone (n + 1) slot).length < limit - missed.length := by
          intro n
          rw [dueMinutes]
          cases due with
          | none =>
            have hnot : ¬IsDue schedule timezone slot := by simp [IsDue, hdue]
            simp [if_neg hnot]
          | some due =>
            have hisDue : IsDue schedule timezone slot := ⟨due, hdue⟩
            simp only [Option.isSome_some, hisDue, if_true, List.length_append, List.length_cons,
              List.length_nil]
            omega
        simp only [bind, Except.bind]
        rw [ih]
        constructor
        . rintro ⟨n, hn, hunreadable, hfew⟩
          exact ⟨n + 1, by omega, hslot n ▸ hunreadable, (hcount n).mp hfew⟩
        . rintro ⟨n, hn, hunreadable, hfew⟩
          cases n with
          | zero =>
            have hsame : slot + 60000 * ((0 : Nat) : Int) = slot := by omega
            rw [hsame] at hunreadable
            exact absurd hunreadable hread
          | succ n => exact ⟨n, by omega, (hslot n).symm ▸ hunreadable, (hcount n).mpr hfew⟩
    . rw [if_neg hroom]
      have hfull : limit - missed.length = 0 := by omega
      simp [MeetsUnreadable, hfull]

variable {previousTickMs nowMs : Int} {limit : Nat} {policy : String}

def gapFirst (previousTickMs : Int) : Int :=
  wrapI64 (floorToMinute previousTickMs + 60000)

theorem catchUp_error_iff
    : (∃ error, deterministicCatchUpDecision schedule timezone (some previousTickMs) nowMs limit
          (some policy) = .error error)
        ↔ MeetsUnreadable schedule timezone (max limit 1) (gapMinutes (gapFirst previousTickMs) nowMs)
          (gapFirst previousTickMs) := by
  have hmissed := @missedSlotsFrom_error_iff schedule timezone (max limit 1)
    (gapMinutes (gapFirst previousTickMs) nowMs) (gapFirst previousTickMs) []
  rw [List.length_nil, Nat.sub_zero] at hmissed
  rw [← hmissed]
  unfold deterministicCatchUpDecision missedDeterministicDueSlots
  dsimp only
  change (∃ error, (missedSlotsFrom schedule timezone (max limit 1)
    (gapMinutes (gapFirst previousTickMs) nowMs) (gapFirst previousTickMs) [] >>= _) = .error error) ↔ _
  cases missedSlotsFrom schedule timezone (max limit 1) (gapMinutes (gapFirst previousTickMs) nowMs)
      (gapFirst previousTickMs) [] with
  | error error => simp [bind, Except.bind]
  | ok slots =>
    simp only [bind, Except.bind, reduceCtorEq, exists_false, iff_false, not_exists]
    intro error
    cases slots.getLast? with
    | none => simp [pure, Except.pure]
    | some latest =>
      dsimp only
      split
      . simp [pure, Except.pure]
      . split
        . simp [pure, Except.pure]
        . split <;> simp [pure, Except.pure]

def enqueuesLate (policy : String) : Bool :=
  policy = "run-late-once" || policy = "run-immediately-on-restart"

theorem catchUp_ok {plan : Option DeterministicCatchUpPlan}
    (h : deterministicCatchUpDecision schedule timezone (some previousTickMs) nowMs limit (some policy)
      = .ok plan)
    : (∃ slot decision slots, plan = some (.enqueue slot decision slots))
        ↔ enqueuesLate policy
          ∧ dueMinutes schedule timezone (gapMinutes (gapFirst previousTickMs) nowMs)
            (gapFirst previousTickMs) ≠ [] := by
  unfold deterministicCatchUpDecision at h
  obtain ⟨slots, hslots, hplan⟩ := Except.bind_eq_ok.1 h
  have htaken := missedSlotsFrom_eq (by simp) hslots
  rw [List.nil_append, List.length_nil, Nat.sub_zero] at htaken
  change slots = (dueMinutes schedule timezone (gapMinutes (gapFirst previousTickMs) nowMs)
    (gapFirst previousTickMs)).take (max limit 1) at htaken
  cases hlast : slots.getLast? with
  | none =>
    rw [hlast] at hplan
    have hnil : dueMinutes schedule timezone (gapMinutes (gapFirst previousTickMs) nowMs)
        (gapFirst previousTickMs) = [] := by
      rw [List.getLast?_eq_none_iff, htaken, List.take_eq_nil_iff] at hlast
      exact hlast.resolve_left (by omega)
    cases hplan
    simp [hnil]
  | some latest =>
    rw [hlast] at hplan
    have hsome : dueMinutes schedule timezone (gapMinutes (gapFirst previousTickMs) nowMs)
        (gapFirst previousTickMs) ≠ [] := by
      intro hnil
      rw [hnil, List.take_nil] at htaken
      rw [htaken] at hlast
      cases hlast
    rw [and_iff_left hsome]
    unfold enqueuesLate
    dsimp only at hplan
    split at hplan
    . next hlate =>
      cases hplan
      simp [hlate]
    . next hlate =>
      split at hplan
      . next hrestart =>
        cases hplan
        simp [hrestart]
      . next hrestart =>
        split at hplan
        . cases hplan
          simp [hlate, hrestart]
        . cases hplan
          simp [hlate, hrestart]

theorem catchUp_fails_iff {previousTickMs : Option Int} {policy : Option String}
    : (∃ error, deterministicCatchUpDecision schedule timezone previousTickMs nowMs limit policy
          = .error error)
        ↔ ∃ previous policy', previousTickMs = some previous ∧ policy = some policy'
          ∧ MeetsUnreadable schedule timezone (max limit 1) (gapMinutes (gapFirst previous) nowMs)
            (gapFirst previous) := by
  cases previousTickMs with
  | none => simp [deterministicCatchUpDecision]
  | some previous =>
    cases policy with
    | none => simp [deterministicCatchUpDecision]
    | some policy =>
      rw [catchUp_error_iff]
      simp

theorem catchUp_enqueues_iff {previousTickMs : Option Int} {policy : Option String}
    {plan : Option DeterministicCatchUpPlan}
    (h : deterministicCatchUpDecision schedule timezone previousTickMs nowMs limit policy = .ok plan)
    : (∃ slot decision slots, plan = some (.enqueue slot decision slots))
        ↔ ∃ previous policy', previousTickMs = some previous ∧ policy = some policy'
          ∧ enqueuesLate policy'
          ∧ dueMinutes schedule timezone (gapMinutes (gapFirst previous) nowMs) (gapFirst previous)
            ≠ [] := by
  cases previousTickMs with
  | none =>
    cases h
    simp
  | some previous =>
    cases policy with
    | none =>
      cases h
      simp
    | some policy =>
      rw [catchUp_ok h]
      simp

end Gap

section Panic

variable {α β : Type}

def NoPanic (read : Read α) : Prop :=
  read ≠ .error .panic

theorem noPanic_ok (a : α) : NoPanic (.ok a) := by
  rintro ⟨⟩

theorem noPanic_malformed (message : String) : NoPanic (.error (.malformed message) : Read α) := by
  rintro ⟨⟩

theorem NoPanic.bind {read : Read α} {next : α → Read β} (h : NoPanic read)
    (hnext : ∀ a, NoPanic (next a))
    : NoPanic (read >>= next) := by
  cases read with
  | ok a => exact hnext a
  | error error =>
    intro hpanic
    apply h
    cases hpanic
    rfl

theorem noPanic_parseRangeValue (value : String) (min max : Int)
    : NoPanic (parseRangeValue value min max) := by
  unfold parseRangeValue
  split
  . exact noPanic_malformed _
  . split
    . exact noPanic_malformed _
    . exact noPanic_ok _

theorem noPanic_matchesCronRange (rangePart : String) (step : Option Int) (value min max : Int)
    : NoPanic (matchesCronRange rangePart step value min max) := by
  unfold matchesCronRange
  split
  . apply (noPanic_parseRangeValue _ _ _).bind
    intro first
    apply (noPanic_parseRangeValue _ _ _).bind
    intro last
    split
    . exact noPanic_ok _
    . exact noPanic_ok _
  . apply (noPanic_parseRangeValue _ _ _).bind
    intro exact
    exact noPanic_ok _

theorem noPanic_matchesCronPart (part : String) (value min max : Int)
    : NoPanic (matchesCronPart part value min max) := by
  unfold matchesCronPart
  split
  . apply (noPanic_parseRangeValue _ _ _).bind
    intro step
    exact noPanic_ok _
  . split
    . apply (noPanic_parseRangeValue _ _ _).bind
      intro step
      exact noPanic_matchesCronRange _ _ _ _ _
    . exact noPanic_matchesCronRange _ _ _ _ _

theorem noPanic_matchesAnyPart (value min max : Int) (parts : List String)
    : NoPanic (matchesAnyPart value min max parts) := by
  induction parts with
  | nil => exact noPanic_ok _
  | cons part parts ih =>
    rw [matchesAnyPart]
    apply (noPanic_matchesCronPart _ _ _ _).bind
    intro matched
    split
    . exact noPanic_ok _
    . exact ih

theorem noPanic_matchesCronField (field : String) (value min max : Int)
    : NoPanic (matchesCronField field value min max) := by
  unfold matchesCronField
  split
  . exact noPanic_ok _
  . exact noPanic_matchesAnyPart _ _ _ _

variable {timezone : Option String}

theorem noPanic_cronExpressionDueSlot (h : NoPanic (timezoneOffsetMinutes timezone))
    (expression : String) (nowMs : Int)
    : NoPanic (cronExpressionDueSlotWithTimezone expression timezone nowMs) := by
  unfold cronExpressionDueSlotWithTimezone
  split
  . apply h.bind
    intro offset
    apply (noPanic_matchesCronField _ _ _ _).bind
    intro minuteMatches
    split
    . exact noPanic_ok _
    . apply (noPanic_matchesCronField _ _ _ _).bind
      intro hourMatches
      split
      . exact noPanic_ok _
      . apply (noPanic_matchesCronField _ _ _ _).bind
        intro monthMatches
        split
        . exact noPanic_ok _
        . apply (noPanic_matchesCronField _ _ _ _).bind
          intro dayOfMonthMatches
          apply (noPanic_matchesCronField _ _ _ _).bind
          intro dayOfWeekMatches
          exact noPanic_ok _
  . exact noPanic_malformed _

theorem noPanic_macroDueSlot (h : NoPanic (timezoneOffsetMinutes timezone)) (name : String)
    (nowMs : Int)
    : NoPanic (macroDueSlotWithTimezone name timezone nowMs) := by
  unfold macroDueSlotWithTimezone
  apply h.bind
  intro offset
  dsimp only
  split
  . exact noPanic_ok _
  . split
    . exact noPanic_ok _
    . split
      . exact noPanic_ok _
      . exact noPanic_malformed _

theorem noPanic_deterministicDueSlot (h : NoPanic (timezoneOffsetMinutes timezone))
    (schedule : DeterministicCronSchedule) (nowMs : Int)
    : NoPanic (deterministicDueSlot schedule timezone nowMs) := by
  cases schedule with
  | cron expression => exact noPanic_cronExpressionDueSlot h expression nowMs
  | named name => exact noPanic_macroDueSlot h name nowMs
  | unsupported summary => exact noPanic_malformed _

theorem noPanic_readTimezoneLine {entry : DeterministicCronPlanEntry} {result : Option String}
    {line : String} (h : NoPanic (timezoneOffsetMinutes timezone))
    (hline : readTimezoneLine entry timezone line = .ok result)
    : NoPanic (timezoneOffsetMinutes result) := by
  unfold readTimezoneLine at hline
  split at hline
  . injection hline with hsame
    exact hsame ▸ h
  . split at hline
    . dsimp only at hline
      split at hline
      . cases hline
      . cases hline
      . next hoffset =>
        injection hline with hsame
        rw [← hsame, hoffset]
        exact noPanic_ok _
    . injection hline with hsame
      exact hsame ▸ h

theorem noPanic_readTimezoneLines {entry : DeterministicCronPlanEntry} {lines : List String}
    {result : Option String} (h : NoPanic (timezoneOffsetMinutes timezone))
    (hlines : lines.foldlM (readTimezoneLine entry) timezone = .ok result)
    : NoPanic (timezoneOffsetMinutes result) := by
  induction lines generalizing timezone with
  | nil =>
    rw [List.foldlM_nil, Except.pure_eq_ok] at hlines
    exact hlines ▸ h
  | cons line lines ih =>
    rw [List.foldlM_cons, Except.bind_eq_ok] at hlines
    have ⟨middle, hline, hrest⟩ := hlines
    exact ih (noPanic_readTimezoneLine h hline) hrest

theorem noPanic_of_timezone {input : DeterministicInput}
    (h : deterministicCrontabTimezone input = .ok timezone)
    : NoPanic (timezoneOffsetMinutes timezone) := by
  unfold deterministicCrontabTimezone at h
  dsimp only at h
  split at h
  . cases h
  . have hnone : NoPanic (timezoneOffsetMinutes none) := noPanic_ok 0
    exact noPanic_readTimezoneLines hnone h

end Panic

section DryRun

variable {options : CronSchedulerRunOnceOptions} {config : CronSchedulerConfig}
  {previousTickMs : Option Int} {tick tick' : Tick}

theorem exec_dryRun (hdry : options.dryRun) (input : DeterministicInput)
    (h : tick'.enqueued = tick.enqueued)
    : (Faulty.exec (collectDeterministicEntry options config previousTickMs input) tick').1
        = (Faulty.exec (collectDeterministicEntry options config previousTickMs input) tick).1
      ∧ (Faulty.exec (collectDeterministicEntry options config previousTickMs input) tick).2.shared
        = tick.shared := by
  unfold collectDeterministicEntry
  rw [exec_collectEntry, exec_collectEntry, h]
  split
  . exact ⟨rfl, rfl⟩
  . split
    . exact ⟨rfl, rfl⟩
    . exact ⟨rfl, rfl⟩
    . unfold collectDueDeterministicEntry
      rw [Faulty.exec_bind_ok (Faulty.exec_modify _ _), Faulty.exec_bind_ok (Faulty.exec_modify _ _)]
      rw [if_pos hdry]
      exact ⟨rfl, rfl⟩

theorem collect_dryRun (hdry : options.dryRun) (inputs : List DeterministicInput)
    (h : tick'.shared = tick.shared)
    : SameLane (collect (collectDeterministicEntry options config previousTickMs) inputs tick')
        (collect (collectDeterministicEntry options config previousTickMs) inputs tick) := by
  induction inputs generalizing tick tick' with
  | nil =>
    constructor
    . rfl
    . exact h
    . rfl
  | cons input inputs ih =>
    have hcount : tick'.enqueued = tick.enqueued := by
      simp only [Tick.shared, Prod.mk.injEq] at h
      exact h.2.1
    have hstep := @exec_dryRun options config previousTickMs _ _ hdry input hcount
    have hlater := (@exec_dryRun options config previousTickMs _ _ hdry input hcount.symm).2
    rcases hexec : Faulty.exec (collectDeterministicEntry options config previousTickMs input) tick
      with ⟨result, later⟩
    rcases hexec' : Faulty.exec (collectDeterministicEntry options config previousTickMs input) tick'
      with ⟨result', later'⟩
    rw [hexec, hexec'] at hstep
    rw [hexec'] at hlater
    obtain ⟨rfl, hshared⟩ := hstep
    have hsame : later'.shared = later.shared := hlater.trans (h.trans hshared.symm)
    cases result' with
    | error failure =>
      rw [collect_cons_of_error hexec, collect_cons_of_error hexec']
      constructor
      . rfl
      . exact hsame
      . rfl
    | ok decision =>
      rw [collect_cons_of_ok hexec, collect_cons_of_ok hexec']
      have hrest := ih hsame
      constructor
      . exact congrArg (decision :: ·) hrest.decisions
      . exact hrest.shared
      . exact hrest.result

end DryRun

section Fresh

variable {α : Type} {faults : Faults} {access : Access} {tick : Tick}

/-
The step fails, which ends the lane, or it takes one of the jobs that the limit leaves.
-/
def Takes (tick : Tick) (outcome : Except Failure α × Tick) : Prop :=
  (∃ failure, outcome.1 = .error failure) ∨ outcome.2.enqueued = tick.enqueued + 1

structure Tick.IsFresh (tick : Tick) : Prop where
  runs : tick.world.runs = CronRuns.Store.empty
  jobs : tick.world.jobs = Table.empty _
  watermarks : tick.world.watermarks = Table.empty _

theorem takes_bind_query {β : Type} {f : World → β} {next : β → Step α}
    (h : Takes tick (Faulty.exec (next (f tick.world)) tick))
    : Takes tick (Faulty.exec (perform faults access (query f) >>= next) tick) := by
  cases hfault : faults access with
  | some failure =>
    rw [Faulty.exec_bind_error (exec_perform_of_fault hfault _ _)]
    exact .inl ⟨failure, rfl⟩
  | none =>
    rw [Faulty.exec_bind_ok (exec_query hfault _ _)]
    exact h

theorem takes_bind_clearForRetry {source : Source} {entryId : String} {scheduledForMs : Int}
    {next : Option CronRuns.CronRun → Step α} (hfresh : tick.IsFresh)
    (h : Takes tick (Faulty.exec (next none) tick))
    : Takes tick (Faulty.exec (clearForRetry faults source entryId scheduledForMs >>= next) tick) := by
  have hnone : ((tick.world.runs.findRunBySlot (source.slot entryId scheduledForMs)).filter fun run =>
      run.status = .retryPending && !run.quarantined) = none := by
    rw [hfresh.runs]
    rfl
  cases hfault : faults .slotLookup with
  | some failure =>
    have hclear : Faulty.exec (clearForRetry faults source entryId scheduledForMs) tick
        = (.error failure, tick) :=
      Faulty.exec_bind_error (exec_perform_of_fault hfault _ _)
    rw [Faulty.exec_bind_error hclear]
    exact .inl ⟨failure, rfl⟩
  | none =>
    have hclear : Faulty.exec (clearForRetry faults source entryId scheduledForMs) tick
        = (.ok none, tick) := by
      unfold clearForRetry
      rw [Faulty.exec_bind_ok (exec_query hfault _ _), hnone]
      rfl
    rw [Faulty.exec_bind_ok hclear]
    exact h

theorem admitAndEnqueue_takes {nowMs : Int} {admission : CronRuns.CronRunAdmitOptions}
    {job : CronRuns.CronRun → String → WorkerJob} {catchUp : Option CronSchedulerCatchUpDecision}
    (hjobs : tick.world.jobs = Table.empty _)
    : Takes tick (Faulty.exec (admitAndEnqueue faults nowMs admission job catchUp) tick) := by
  unfold admitAndEnqueue
  rw [Faulty.exec_bind]
  have hkeeps := keeps_onRuns ignoresRuns_ledger faults .admitRun (·.admitCronRun admission) tick
  rcases hexec : Faulty.exec (perform faults .admitRun (onRuns (·.admitCronRun admission))) tick
    with ⟨result, admitted⟩
  rw [hexec] at hkeeps
  simp only [Tick.ledger, Prod.mk.injEq] at hkeeps
  cases result with
  | error failure => exact .inl ⟨failure, rfl⟩
  | ok run =>
    dsimp only
    rw [Faulty.exec_bind]
    have henqueue := @exec_enqueueOrCompensate faults nowMs admitted run
      (job run (schedulerIdempotencyKey admission.slot run.attempt))
    rcases hexec' : Faulty.exec (enqueueOrCompensate faults nowMs run
      (job run (schedulerIdempotencyKey admission.slot run.attempt))) admitted with ⟨result, enqueued⟩
    rw [hexec'] at henqueue
    cases result with
    | error failure => exact .inl ⟨failure, rfl⟩
    | ok report =>
      dsimp only at henqueue ⊢
      rcases henqueue with ⟨_, hinserted⟩ | ⟨_, _, hcount, hcases⟩
      . exfalso
        apply (hinserted report rfl).2
        rw [World.findJobByIdempotency, hkeeps.1, hjobs]
        rfl
      . have hlast := @exec_linkAndCount (fun _ => True) faults nowMs admission catchUp run report enqueued
          (fun _ _ => trivial) (fun _ _ => trivial)
        rcases hcases with ⟨hreport, _⟩ | ⟨failure, hfailure, _⟩
        . injection hreport with hreport
          rw [hreport] at hlast ⊢
          rcases hlast.2 with hone | ⟨_, failure, hfailure, _⟩
          . right
            rw [hone, if_pos rfl, hcount, hkeeps.2]
          . exact .inl ⟨failure, hfailure⟩
        . cases hfailure

theorem collectDueDeterministicEntry_takes {options : CronSchedulerRunOnceOptions}
    {config : CronSchedulerConfig} {input : DeterministicInput} {due : DeterministicDue}
    (hfresh : tick.IsFresh) (hdry : options.dryRun = false) (hscript : input.entry.scriptPath.isSome)
    : Takes tick (Faulty.exec (collectDueDeterministicEntry options config input due) tick) := by
  have hwatermarks : ∀ slot, tick.world.watermarkExists slot = false := by
    intro slot
    rw [World.watermarkExists, hfresh.watermarks]
    rfl
  obtain ⟨scriptPath, hscript⟩ := Option.isSome_iff_exists.mp hscript
  unfold collectDueDeterministicEntry
  rw [Faulty.exec_bind_ok (Faulty.exec_modify _ _), hdry, if_neg (by simp)]
  generalize hcounted : { tick with dueCandidates := tick.dueCandidates + 1 } = counted
  have hworld : counted.world = tick.world := by rw [← hcounted]
  have hsame : counted.enqueued = tick.enqueued := by rw [← hcounted]
  unfold Takes
  rw [← hsame]
  have hfresh' : counted.IsFresh := by
    rw [← hcounted]
    exact ⟨hfresh.runs, hfresh.jobs, hfresh.watermarks⟩
  apply takes_bind_clearForRetry hfresh'
  apply takes_bind_query
  rw [hworld, hwatermarks, if_neg (by simp)]
  rw [hscript]
  unfold legacyWatermarked
  split
  . apply takes_bind_query
    rw [hworld, hwatermarks, if_neg (by simp)]
    exact admitAndEnqueue_takes hfresh'.jobs
  . exact admitAndEnqueue_takes hfresh'.jobs

end Fresh

section Malformed

variable (options : CronSchedulerRunOnceOptions) (config : CronSchedulerConfig)
  (previousTickMs : Option Int)

def DeterministicInput.IsMalformed (input : DeterministicInput) : Prop :=
  (∃ error, deterministicCrontabTimezone input = .error error)
    ∨ ∃ timezone slot, deterministicCrontabTimezone input = .ok timezone
      ∧ IsUnreadable input.entry.schedule timezone slot

/-
With the entry among others, every other entry gets the decision that it gets without it, the stores end
up alike and so does the lane.
-/
def DeterministicInput.IsIsolated (input : DeterministicInput) : Prop :=
  ∀ (before after : List DeterministicInput) (tick : Tick),
    tick.world.lastSchedulerTickMs = previousTickMs →
    let lane := collectDeterministicEntries options config (before ++ input :: after) tick
    SameLane { lane with decisions := lane.decisions.eraseIdx before.length }
      (collectDeterministicEntries options config (before ++ after) tick)

structure DeterministicInput.IsReady (input : DeterministicInput) : Prop where
  action : input.entry.action = .readyCommand
  policy : ∃ policy, deterministicCronExecutionPolicy input = .ok policy

/-
The entry is not due at the tick itself, and the catch-up comes to a minute that it cannot read.
-/
structure DeterministicInput.FailsInCatchUp (input : DeterministicInput) (timezone : Option String)
    : Prop where
  notDue : deterministicDueSlot input.entry.schedule timezone options.nowMs = .ok none
  catchUp : ∃ previous policy, previousTickMs = some previous
    ∧ input.canon.bind CanonEntry.catchUpPolicy = some policy
    ∧ MeetsUnreadable input.entry.schedule timezone (max config.maxCatchupPerTick 1)
      (gapMinutes (gapFirst previous) options.nowMs) (gapFirst previous)

def DeterministicInput.StopsLane (input : DeterministicInput) : Prop :=
  input.IsReady ∧ (deterministicCrontabTimezone input = .error .panic
    ∨ ∃ timezone, deterministicCrontabTimezone input = .ok timezone
      ∧ input.FailsInCatchUp options config previousTickMs timezone)

structure DeterministicInput.RunsLate (input : DeterministicInput) (timezone : Option String)
    : Prop where
  notDue : deterministicDueSlot input.entry.schedule timezone options.nowMs = .ok none
  catchUp : ∃ previous policy, previousTickMs = some previous
    ∧ input.canon.bind CanonEntry.catchUpPolicy = some policy ∧ enqueuesLate policy
    ∧ dueMinutes input.entry.schedule timezone (gapMinutes (gapFirst previous) options.nowMs)
      (gapFirst previous) ≠ []

def DeterministicInput.IsDueInTick (input : DeterministicInput) : Prop :=
  input.IsReady ∧ ∃ timezone, deterministicCrontabTimezone input = .ok timezone
    ∧ (IsDue input.entry.schedule timezone options.nowMs ∨ input.RunsLate options previousTickMs timezone)

variable {options config previousTickMs} {input : DeterministicInput}

def Evaluates (evaluation : Except Failure (Evaluation DeterministicDue)) (stops due : Prop) : Prop :=
  match evaluation with
  | .error _ => stops
  | .ok (.due _) => ¬stops ∧ due
  | .ok (.skip _) => ¬stops ∧ ¬due

theorem evaluateDeterministicSchedule_spec {policy : DeterministicExecutionPolicy}
    {timezone : Option String} (h : deterministicCrontabTimezone input = .ok timezone)
    : Evaluates (evaluateDeterministicSchedule options config previousTickMs input policy timezone)
        (input.FailsInCatchUp options config previousTickMs timezone)
        (IsDue input.entry.schedule timezone options.nowMs
          ∨ input.RunsLate options previousTickMs timezone) := by
  have hpanic := noPanic_deterministicDueSlot (noPanic_of_timezone h) input.entry.schedule options.nowMs
  unfold evaluateDeterministicSchedule
  dsimp only
  cases hslot : deterministicDueSlot input.entry.schedule timezone options.nowMs with
  | error error =>
    have hstops : ¬input.FailsInCatchUp options config previousTickMs timezone := by
      intro hfails
      cases hslot.symm.trans hfails.notDue
    have hdue : ¬(IsDue input.entry.schedule timezone options.nowMs
        ∨ input.RunsLate options previousTickMs timezone) := by
      rintro (⟨slot, hdue⟩ | hlate)
      . cases hslot.symm.trans hdue
      . cases hslot.symm.trans hlate.notDue
    cases error with
    | panic => exact absurd hslot hpanic
    | malformed message => exact ⟨hstops, hdue⟩
  | ok due =>
    cases due with
    | some slot =>
      refine ⟨?_, .inl ⟨slot, hslot⟩⟩
      intro hfails
      cases hslot.symm.trans hfails.notDue
    | none =>
      have hnotDue : ¬IsDue input.entry.schedule timezone options.nowMs := by
        rintro ⟨slot, hdue⟩
        cases hslot.symm.trans hdue
      cases hcatchUp : deterministicCatchUpDecision input.entry.schedule timezone previousTickMs
          options.nowMs config.maxCatchupPerTick (input.canon.bind CanonEntry.catchUpPolicy) with
      | error error =>
        have hfails : input.FailsInCatchUp options config previousTickMs timezone :=
          ⟨hslot, catchUp_fails_iff.mp ⟨error, hcatchUp⟩⟩
        cases error with
        | malformed message => exact hfails
        | panic => exact hfails
      | ok plan =>
        have hruns : ¬input.FailsInCatchUp options config previousTickMs timezone := by
          intro hfails
          obtain ⟨error, herror⟩ := catchUp_fails_iff.mpr hfails.catchUp
          cases hcatchUp.symm.trans herror
        have hlate := catchUp_enqueues_iff hcatchUp
        have hskip : (∀ slot decision slots, plan ≠ some (.enqueue slot decision slots)) →
            ¬(IsDue input.entry.schedule timezone options.nowMs
              ∨ input.RunsLate options previousTickMs timezone) := by
          rintro hplan (hdue | hrunsLate)
          . exact hnotDue hdue
          . obtain ⟨slot, decision, slots, heq⟩ := hlate.mpr hrunsLate.catchUp
            exact hplan slot decision slots heq
        cases plan with
        | none => exact ⟨hruns, hskip (by simp)⟩
        | some plan =>
          cases plan with
          | enqueue slot decision slots =>
            exact ⟨hruns, .inr ⟨hslot, hlate.mp ⟨slot, decision, slots, rfl⟩⟩⟩
          | suppress decision slots => exact ⟨hruns, hskip (by simp)⟩

theorem evaluateDeterministicEntry_spec
    : Evaluates (evaluateDeterministicEntry options config previousTickMs input)
        (input.StopsLane options config previousTickMs) (input.IsDueInTick options previousTickMs) := by
  have hnotReady : ∀ decision, ¬input.IsReady →
      Evaluates (.ok (.skip decision)) (input.StopsLane options config previousTickMs)
        (input.IsDueInTick options previousTickMs) := by
    intro decision hready
    exact ⟨fun h => hready h.1, fun h => hready h.1⟩
  unfold evaluateDeterministicEntry
  dsimp only
  split
  . next haction =>
    apply hnotReady
    intro hready
    cases haction.symm.trans hready.action
  . split
    . next haction => exact hnotReady _ fun hready => haction hready.action
    . next haction =>
      rw [not_not] at haction
      split
      . next hpolicy =>
        apply hnotReady
        intro hready
        obtain ⟨policy, hok⟩ := hready.policy
        cases hpolicy.symm.trans hok
      . next policy hpolicy =>
        have hready : input.IsReady := ⟨haction, policy, hpolicy⟩
        split
        . next htimezone =>
          constructor
          . rintro ⟨_, hpanic | ⟨timezone, hok, _⟩⟩
            . cases htimezone.symm.trans hpanic
            . cases htimezone.symm.trans hok
          . rintro ⟨_, timezone, hok, _⟩
            cases htimezone.symm.trans hok
        . next htimezone => exact ⟨hready, .inl htimezone⟩
        . next timezone htimezone =>
          have hschedule := @evaluateDeterministicSchedule_spec options config previousTickMs input policy
            timezone htimezone
          have hstops : input.StopsLane options config previousTickMs
              ↔ input.FailsInCatchUp options config previousTickMs timezone := by
            unfold DeterministicInput.StopsLane
            simp [hready, htimezone]
          have hdue : input.IsDueInTick options previousTickMs
              ↔ IsDue input.entry.schedule timezone options.nowMs
                ∨ input.RunsLate options previousTickMs timezone := by
            unfold DeterministicInput.IsDueInTick
            simp [hready, htimezone]
          rw [hstops, hdue]
          exact hschedule

/-
The world in which a tick has one job left of its limit, behind the marker of the last one.
-/
def lastPlaceTick (config : CronSchedulerConfig) (previousTickMs : Option Int) : Tick where
  world := { World.empty with
    receipts := previousTickMs.toList.map fun nowMs => .tick nowMs .completed false }
  enqueued := config.maxEnqueuePerTick - 1
  dueCandidates := 0
  warnings := []

theorem not_isolated_of_takes
    (h : Takes (lastPlaceTick config previousTickMs)
      (Faulty.exec (collectDeterministicEntry options config previousTickMs input)
        (lastPlaceTick config previousTickMs)))
    : ¬input.IsIsolated options config previousTickMs := by
  intro hisolated
  have hlast : (lastPlaceTick config previousTickMs).world.lastSchedulerTickMs = previousTickMs := by
    cases previousTickMs <;> rfl
  have hpos := config.maxEnqueuePerTick_pos
  have hheld : ∀ tick : Tick, tick.enqueued < config.maxEnqueuePerTick →
      Faulty.exec (collectDeterministicEntry options config previousTickMs heldSample) tick
        = (.ok ((deterministicSource options).decide "held" options.nowMs .skippedHeld "hold"), tick) := by
    intro tick hlimit
    rw [collectDeterministicEntry, exec_collectEntry, if_neg (by omega)]
    rfl
  have hlimited : ∀ tick : Tick, tick.enqueued = config.maxEnqueuePerTick →
      Faulty.exec (collectDeterministicEntry options config previousTickMs heldSample) tick
        = (.ok (limitedDecision options heldSample), tick) := by
    intro tick hlimit
    rw [collectDeterministicEntry, exec_collectEntry, if_pos (by omega)]
    rfl
  have hdecisions := (hisolated [] [heldSample] (lastPlaceTick config previousTickMs) hlast).decisions
  have hfirst : (lastPlaceTick config previousTickMs).enqueued = config.maxEnqueuePerTick - 1 := rfl
  unfold collectDeterministicEntries at hdecisions
  rw [hlast, List.nil_append, List.nil_append, collect_cons_of_ok (hheld _ (by omega))] at hdecisions
  rcases hexec : Faulty.exec (collectDeterministicEntry options config previousTickMs input)
    (lastPlaceTick config previousTickMs) with ⟨result, later⟩
  rw [hexec] at h
  cases result with
  | error failure =>
    rw [collect_cons_of_error hexec] at hdecisions
    cases hdecisions
  | ok decision =>
    rcases h with ⟨failure, hfailure⟩ | hcount
    . cases hfailure
    . have hfull : later.enqueued = config.maxEnqueuePerTick := by
        dsimp only at hcount
        omega
      rw [collect_cons_of_ok hexec, collect_cons_of_ok (hlimited later hfull)] at hdecisions
      injection hdecisions with hdecision
      injection hdecision with _ _ _ _ _ _ _ hstatus
      cases hstatus

/-
A malformed entry gets at the others by stopping the lane or, when the part of it that was read is due, by
taking a place that the limit would leave to one of them. A dry run takes no places.
-/
theorem entry_is_isolated_iff (hplanned : input.entry.action = .readyCommand → input.entry.scriptPath.isSome)
    : input.IsIsolated options config previousTickMs
        ↔ ¬input.StopsLane options config previousTickMs
          ∧ (input.IsDueInTick options previousTickMs → options.dryRun) := by
  have hspec := @evaluateDeterministicEntry_spec options config previousTickMs input
  have hlimit : ¬(lastPlaceTick config previousTickMs).enqueued ≥ config.maxEnqueuePerTick := by
    have hpos := config.maxEnqueuePerTick_pos
    have hplaces : (lastPlaceTick config previousTickMs).enqueued = config.maxEnqueuePerTick - 1 := rfl
    omega
  cases hevaluation : evaluateDeterministicEntry options config previousTickMs input with
  | error failure =>
    rw [hevaluation] at hspec
    have hnot : ¬input.IsIsolated options config previousTickMs := by
      apply not_isolated_of_takes
      rw [collectDeterministicEntry, exec_collectEntry, if_neg hlimit, hevaluation]
      exact .inl ⟨failure, rfl⟩
    have hstops : input.StopsLane options config previousTickMs := hspec
    simp [hnot, hstops]
  | ok evaluation =>
    rw [hevaluation] at hspec
    cases evaluation with
    | skip decision =>
      refine iff_of_true ?_ ⟨hspec.1, fun hdue => absurd hdue hspec.2⟩
      intro before after tick hlast
      apply collect_erase
      intro tick'
      rw [hlast, collectDeterministicEntry, exec_collectEntry, hevaluation]
      split
      . exact ⟨_, tick', rfl, SameLane.refl _⟩
      . exact ⟨_, tick', rfl, SameLane.refl _⟩
    | due due =>
      rw [and_iff_right hspec.1, forall_prop_of_true hspec.2]
      constructor
      . intro hisolated
        by_contra hdry
        rw [Bool.not_eq_true] at hdry
        revert hisolated
        apply not_isolated_of_takes
        rw [collectDeterministicEntry, exec_collectEntry, if_neg hlimit, hevaluation]
        apply collectDueDeterministicEntry_takes _ hdry
        . apply hplanned
          exact hspec.2.1.action
        . exact ⟨rfl, rfl, rfl⟩
      . intro hdry before after tick hlast
        apply collect_erase
        intro tick'
        rw [hlast, collectDeterministicEntry, exec_collectEntry, hevaluation]
        split
        . exact ⟨_, tick', rfl, SameLane.refl _⟩
        . dsimp only
          unfold collectDueDeterministicEntry
          rw [Faulty.exec_bind_ok (Faulty.exec_modify _ _), if_pos hdry]
          refine ⟨_, _, rfl, ?_⟩
          exact collect_dryRun hdry after rfl

end Malformed

section Sample

-- between the hour and ten past, the minute of `0 99 * * *` keeps its malformed hour from being read
theorem sampleInput_is_isolated
    : (sampleInput "bad" "0 99 * * *").IsMalformed
      ∧ (sampleInput "bad" "0 99 * * *").IsIsolated sampleOptions sampleConfig (some 0) := by
  have hmalformed : (sampleInput "bad" "0 99 * * *").IsMalformed :=
    .inr ⟨none, 0, rfl, .malformed "cron field value `99` outside supported range 0-23", by
      decide +kernel⟩
  have hskip : ∃ decision, evaluateDeterministicEntry sampleOptions sampleConfig (some 0)
      (sampleInput "bad" "0 99 * * *") = .ok (.skip decision) := ⟨_, rfl⟩
  have ⟨decision, hdecision⟩ := hskip
  have hspec := @evaluateDeterministicEntry_spec sampleOptions sampleConfig (some 0)
    (sampleInput "bad" "0 99 * * *")
  rw [hdecision] at hspec
  exact ⟨hmalformed, (entry_is_isolated_iff (fun _ => rfl)).mpr
    ⟨hspec.1, fun hdue => absurd hdue hspec.2⟩⟩

/-
At ten past the malformed hour of `5 99 * * *` is not read: the minute does not match. The catch-up of the
same tick reads it for five past, and the entry behind gets no decision. The minute of `10,99 * * * *`
matches before its malformed part is read, and the entry behind finds the limit reached.
-/
theorem malformed_entry_stops_lane
    : (sampleInput "bad" "5 99 * * *").IsMalformed
      ∧ ¬(sampleInput "bad" "5 99 * * *").IsIsolated sampleOptions sampleConfig (some 0)
      ∧ (collectDeterministicEntries sampleOptions sampleConfig
          [sampleInput "good" "*/10 * * * *"] sampleTick).decisions.map
            CronSchedulerJobDecision.decision = [.enqueued]
      ∧ (collectDeterministicEntries sampleOptions sampleConfig
          [sampleInput "bad" "5 99 * * *", sampleInput "good" "*/10 * * * *"] sampleTick).decisions
        = []
      ∧ (collectDeterministicEntries sampleOptions sampleConfig
          [sampleInput "bad" "10,99 * * * *", sampleInput "good" "*/10 * * * *"]
          sampleTick).decisions.map CronSchedulerJobDecision.decision = [.enqueued, .skippedPolicy] := by
  have hmalformed : (sampleInput "bad" "5 99 * * *").IsMalformed :=
    .inr ⟨none, 300000, rfl, .malformed "cron field value `99` outside supported range 0-23", by
      decide +kernel⟩
  have halone : (collectDeterministicEntries sampleOptions sampleConfig
      [sampleInput "good" "*/10 * * * *"] sampleTick).decisions.map CronSchedulerJobDecision.decision
        = [.enqueued] := by
    decide +kernel
  have hstopped : (collectDeterministicEntries sampleOptions sampleConfig
      [sampleInput "bad" "5 99 * * *", sampleInput "good" "*/10 * * * *"] sampleTick).decisions = [] := by
    decide +kernel
  refine ⟨hmalformed, ?_, halone, hstopped, by decide +kernel⟩
  intro hisolated
  have hdecisions := (hisolated [] [sampleInput "good" "*/10 * * * *"] sampleTick rfl).decisions
  rw [List.nil_append, List.nil_append, hstopped] at hdecisions
  rw [← hdecisions] at halone
  cases halone

end Sample

end CronScheduler
