import AgentHarness.CronScheduler.Schedule

/-!
The slots of a schedule: the macros are due when the expressions they stand for are, and the slot that a late
run takes is the last one that was collected.
-/

namespace CronScheduler

-- the slot of the minute, in the time of the zone, is an `i64`
def SlotInRange (nowMs offsetMinutes : Int) : Prop :=
  -2 ^ 63 ≤ floorToMinute nowMs + offsetMinutes * 60000
    ∧ floorToMinute nowMs + offsetMinutes * 60000 < 2 ^ 63

theorem matchesCronField_star (value min max : Int) : matchesCronField "*" value min max = .ok true := by
  have hstar : isWildcard "*" := by decide
  unfold matchesCronField
  rw [if_pos hstar]

theorem matchesCronField_zero (value : Int) {max : Int} (h : 0 ≤ max)
    : matchesCronField "0" value 0 max = .ok (decide (value = 0)) := by
  have hparts : Text.splitOn ',' "0" = ["0"] := by decide
  have hstep : Text.dropLead "*/" "0" = none := by decide
  have hslash : splitOnce '/' "0" = none := by decide
  have hdash : splitOnce '-' "0" = none := by decide
  have hparse : Text.parseI64 "0" = some 0 := by decide
  have hplain : ¬isWildcard "0" := by decide
  have hrange : ¬((0 : Int) < 0 ∨ 0 > max) := by omega
  have hvalue : parseRangeValue "0" 0 max = .ok 0 := by
    unfold parseRangeValue
    rw [hparse]
    exact if_neg hrange
  have hpart : matchesCronPart "0" value 0 max = .ok (decide (value = 0)) := by
    unfold matchesCronPart matchesCronRange
    rw [hstep]
    dsimp only
    rw [hslash]
    dsimp only
    rw [hdash, hvalue]
    rfl
  unfold matchesCronField
  rw [if_neg hplain, hparts, matchesAnyPart, hpart]
  cases decide (value = 0) with
  | true => rfl
  | false => rfl

theorem tmod_eq_zero_iff (a b : Int) : a.tmod b = 0 ↔ a % b = 0 := by
  rw [← Int.dvd_iff_tmod_eq_zero, Int.dvd_iff_emod_eq_zero]

theorem expression_eq {expression minuteField hourField weekdayField : String} {timezone : Option String}
    {offset nowMs : Int} (htimezone : timezoneOffsetMinutes timezone = .ok offset)
    (hfields : (Text.splitWhitespace expression).map String.ofList
      = [minuteField, hourField, "*", "*", weekdayField])
    {minuteDue hourDue weekdayDue : Bool}
    (hminute : matchesCronField minuteField
      (wrapI64 (floorToMinute nowMs + offset * 60000) / 60000 % 60) 0 59 = .ok minuteDue)
    (hhour : matchesCronField hourField
      (wrapI64 (floorToMinute nowMs + offset * 60000) / 3600000 % 24) 0 23 = .ok hourDue)
    (hweekday : matchesCronField weekdayField
      ((wrapI64 (floorToMinute nowMs + offset * 60000) / 86400000 + 4) % 7) 0 6 = .ok weekdayDue)
    (hwildcard : isWildcard weekdayField → weekdayDue)
    : cronExpressionDueSlotWithTimezone expression timezone nowMs
        = .ok (if minuteDue && hourDue && weekdayDue then some (floorToMinute nowMs) else none) := by
  have hstar : isWildcard "*" = true := by decide
  unfold cronExpressionDueSlotWithTimezone
  rw [hfields, htimezone]
  simp only [bind, Except.bind, hminute, hhour, hweekday, matchesCronField_star, hstar]
  cases minuteDue with
  | false => rfl
  | true =>
    cases hourDue with
    | false => rfl
    | true =>
      cases weekdayDue with
      | true =>
        cases isWildcard weekdayField with
        | true => rfl
        | false => rfl
      | false =>
        cases hweekdayField : isWildcard weekdayField with
        | true => exact absurd (hwildcard hweekdayField) (by decide)
        | false => rfl

theorem minute_eq (minutes : Int) : 60000 * minutes / 60000 % 60 = minutes % 60 := by
  rw [Int.mul_ediv_cancel_left _ (by omega)]

theorem truncated_minute_iff (minutes : Int)
    : ((60000 * minutes).tdiv 60000).tmod 60 = 0 ↔ minutes % 60 = 0 := by
  rw [tmod_eq_zero_iff, Int.mul_tdiv_cancel_left _ (by omega)]

theorem truncated_hour_iff {minutes : Int} (h : minutes % 60 = 0)
    : ((60000 * minutes).tdiv 3600000).tmod 24 = 0 ↔ 60000 * minutes / 3600000 % 24 = 0 := by
  have hhours : 60000 * minutes = 3600000 * (minutes / 60) := by omega
  rw [hhours, tmod_eq_zero_iff, Int.mul_tdiv_cancel_left _ (by omega),
    Int.mul_ediv_cancel_left _ (by omega)]

theorem truncated_days_eq {minutes : Int} (h : minutes % 60 = 0)
    (hhour : 60000 * minutes / 3600000 % 24 = 0)
    : (60000 * minutes).tdiv 86400000 = 60000 * minutes / 86400000 := by
  have hdays : 60000 * minutes = 86400000 * (minutes / 1440) := by omega
  rw [hdays, Int.mul_tdiv_cancel_left _ (by omega), Int.mul_ediv_cancel_left _ (by omega)]

section

variable {timezone : Option String} {offset nowMs : Int}
  (htimezone : timezoneOffsetMinutes timezone = .ok offset) (hrange : SlotInRange nowMs offset)

include hrange in
theorem localSlot_eq
    : ∃ minutes, wrapI64 (floorToMinute nowMs + offset * 60000) = 60000 * minutes := by
  obtain ⟨hlow, hhigh⟩ := hrange
  refine ⟨nowMs / 60000 + offset, ?_⟩
  unfold wrapI64
  unfold floorToMinute at hlow hhigh ⊢
  omega

include htimezone hrange

theorem hourly_eq
    : macroDueSlotWithTimezone "@hourly" timezone nowMs
        = cronExpressionDueSlotWithTimezone "0 * * * *" timezone nowMs := by
  obtain ⟨minutes, hslot⟩ := localSlot_eq hrange
  rw [expression_eq htimezone (by decide) (matchesCronField_zero _ (by omega))
    (matchesCronField_star _ _ _) (matchesCronField_star _ _ _) (fun _ => rfl)]
  unfold macroDueSlotWithTimezone
  rw [htimezone]
  simp only [bind, Except.bind, hslot, truncated_minute_iff, minute_eq]
  simp
  rfl

theorem daily_eq {name : String} (hname : name = "@daily" ∨ name = "@midnight")
    : macroDueSlotWithTimezone name timezone nowMs
        = cronExpressionDueSlotWithTimezone "0 0 * * *" timezone nowMs := by
  have hother : name ≠ "@hourly" := by
    cases hname with
    | inl h =>
      rw [h]
      decide
    | inr h =>
      rw [h]
      decide
  obtain ⟨minutes, hslot⟩ := localSlot_eq hrange
  rw [expression_eq htimezone (by decide) (matchesCronField_zero _ (by omega))
    (matchesCronField_zero _ (by omega)) (matchesCronField_star _ _ _) (fun _ => rfl)]
  unfold macroDueSlotWithTimezone
  rw [htimezone]
  simp only [bind, Except.bind, hslot, truncated_minute_iff, minute_eq]
  rw [if_neg hother, if_pos hname]
  by_cases hminute : minutes % 60 = 0
  . simp [hminute, truncated_hour_iff hminute]
    rfl
  . simp [hminute]
    rfl

theorem weekly_eq
    : macroDueSlotWithTimezone "@weekly" timezone nowMs
        = cronExpressionDueSlotWithTimezone "0 0 * * 0" timezone nowMs := by
  obtain ⟨minutes, hslot⟩ := localSlot_eq hrange
  rw [expression_eq htimezone (by decide) (matchesCronField_zero _ (by omega))
    (matchesCronField_zero _ (by omega)) (matchesCronField_zero _ (by omega))
    (fun h => absurd h (by decide))]
  unfold macroDueSlotWithTimezone
  rw [htimezone]
  simp only [bind, Except.bind, hslot, truncated_minute_iff, minute_eq]
  rw [if_neg (by decide), if_neg (by decide)]
  by_cases hminute : minutes % 60 = 0
  . by_cases hhour : 60000 * minutes / 3600000 % 24 = 0
    . simp [hminute, truncated_hour_iff hminute, hhour, truncated_days_eq hminute hhour]
      rfl
    . simp [truncated_hour_iff hminute, hhour]
      rfl
  . simp [hminute]
    rfl

end

/-
A macro is due when the expression that it stands for is, before the epoch as well.
-/
theorem macro_eq_expression {timezone : Option String} {offset nowMs : Int}
    (htimezone : timezoneOffsetMinutes timezone = .ok offset) (hrange : SlotInRange nowMs offset)
    : ∀ pair ∈ [("@hourly", "0 * * * *"), ("@daily", "0 0 * * *"), ("@midnight", "0 0 * * *"),
          ("@weekly", "0 0 * * 0")],
        macroDueSlotWithTimezone pair.1 timezone nowMs
          = cronExpressionDueSlotWithTimezone pair.2 timezone nowMs := by
  simp only [List.forall_mem_cons, List.not_mem_nil, false_implies, implies_true, and_true]
  refine ⟨hourly_eq htimezone hrange, daily_eq htimezone hrange (.inl rfl),
    daily_eq htimezone hrange (.inr rfl), weekly_eq htimezone hrange⟩

theorem macro_eq_expression_sample
    : timezoneOffsetMinutes (some "-05:30") = .ok (-330) ∧ SlotInRange (-43200000) (-330)
      ∧ macroDueSlotWithTimezone "@weekly" (some "-05:30") (-43200000)
        = cronExpressionDueSlotWithTimezone "0 0 * * 0" (some "-05:30") (-43200000) := by
  have htimezone : timezoneOffsetMinutes (some "-05:30") = .ok (-330) := by decide
  have hrange : SlotInRange (-43200000) (-330) := by
    unfold SlotInRange floorToMinute
    omega
  exact ⟨htimezone, hrange, macro_eq_expression htimezone hrange ("@weekly", "0 0 * * 0") (by simp)⟩

/-
The catch-up of the slots between two ticks.
-/

def IsDue (schedule : DeterministicCronSchedule) (timezone : Option String) (minute : Int) : Prop :=
  ∃ slot, deterministicDueSlot schedule timezone minute = .ok (some slot)

instance (schedule : DeterministicCronSchedule) (timezone : Option String) (minute : Int)
    : Decidable (IsDue schedule timezone minute) :=
  match h : deterministicDueSlot schedule timezone minute with
  | .ok (some slot) => isTrue ⟨slot, h⟩
  | .ok none => isFalse (by simp [IsDue, h])
  | .error _ => isFalse (by simp [IsDue, h])

structure Missed (schedule : DeterministicCronSchedule) (timezone : Option String)
    (previousTickMs nowMs minute : Int)
    : Prop where
  isMinute : minute % 60000 = 0
  after : floorToMinute previousTickMs < minute
  before : minute < floorToMinute nowMs
  isDue : IsDue schedule timezone minute

def dueMinutes (schedule : DeterministicCronSchedule) (timezone : Option String)
    : Nat → Int → List Int
  | 0, _ => []
  | minutes + 1, slot =>
    let rest := dueMinutes schedule timezone minutes (slot + 60000)
    if IsDue schedule timezone slot then slot :: rest else rest

section

variable {schedule : DeterministicCronSchedule} {timezone : Option String}

theorem mem_dueMinutes {minutes : Nat} {slot minute : Int}
    : minute ∈ dueMinutes schedule timezone minutes slot
        ↔ IsDue schedule timezone minute ∧ slot ≤ minute ∧ minute < slot + 60000 * minutes
          ∧ (minute - slot) % 60000 = 0 := by
  induction minutes generalizing slot with
  | zero =>
    simp only [dueMinutes, List.not_mem_nil, false_iff, not_and]
    omega
  | succ minutes ih =>
    unfold dueMinutes
    dsimp only
    by_cases hslot : minute = slot
    . subst hslot
      have hlater : minute ∉ dueMinutes schedule timezone minutes (minute + 60000) := by
        rw [ih]
        omega
      split
      . next hdue =>
        simp only [List.mem_cons, true_or, true_iff]
        refine ⟨hdue, by omega, by omega, by omega⟩
      . next hdue => simp [hlater, hdue]
    . have hrest : minute ∈ dueMinutes schedule timezone minutes (slot + 60000)
          ↔ IsDue schedule timezone minute ∧ slot ≤ minute ∧ minute < slot + 60000 * (minutes + 1 : Nat)
            ∧ (minute - slot) % 60000 = 0 := by
        rw [ih]
        apply and_congr_right
        intro _
        omega
      split
      . rw [List.mem_cons, or_iff_right hslot, hrest]
      . exact hrest

theorem dueMinutes_sorted (minutes : Nat) (slot : Int)
    : (dueMinutes schedule timezone minutes slot).Pairwise (· < ·) := by
  induction minutes generalizing slot with
  | zero => exact .nil
  | succ minutes ih =>
    unfold dueMinutes
    dsimp only
    split
    . rw [List.pairwise_cons]
      refine ⟨?_, ih _⟩
      intro minute hminute
      rw [mem_dueMinutes] at hminute
      omega
    . apply ih

theorem missedSlotsFrom_eq {maxSlots minutes : Nat} {slot : Int} {missed result : List Int}
    (hmissed : missed.length ≤ maxSlots)
    (h : missedSlotsFrom schedule timezone maxSlots minutes slot missed = .ok result)
    : result = missed
        ++ (dueMinutes schedule timezone minutes slot).take (maxSlots - missed.length) := by
  induction minutes generalizing slot missed with
  | zero =>
    unfold missedSlotsFrom at h
    cases h
    simp [dueMinutes]
  | succ minutes ih =>
    unfold missedSlotsFrom at h
    by_cases hroom : missed.length < maxSlots
    . rw [if_pos hroom] at h
      unfold dueMinutes
      dsimp only
      cases hdue : deterministicDueSlot schedule timezone slot with
      | error e =>
        rw [hdue] at h
        cases h
      | ok due =>
        simp only [hdue, bind, Except.bind] at h
        cases due with
        | none =>
          have hnot : ¬IsDue schedule timezone slot := by simp [IsDue, hdue]
          rw [if_neg hnot]
          apply ih hmissed h
        | some due =>
          have hrest := ih (by simp; omega) h
          have hcount : maxSlots - missed.length = maxSlots - (missed ++ [slot]).length + 1 := by
            rw [List.length_append, List.length_singleton]
            omega
          rw [if_pos ⟨due, hdue⟩, hcount, List.take_succ_cons, hrest]
          simp
    . rw [if_neg hroom, Except.ok.injEq] at h
      have hnone : maxSlots - missed.length = 0 := by omega
      simp [← h, hnone]

theorem take_getLast_greatest_iff {slots : List Int} {limit : Nat} {last : Int}
    (hsorted : slots.Pairwise (· < ·)) (hlast : (slots.take limit).getLast? = some last)
    : (∀ slot ∈ slots, slot ≤ last) ↔ slots.length ≤ limit := by
  have htaken : last ∈ slots.take limit := List.mem_of_getLast? hlast
  constructor
  . intro hgreatest
    by_contra hmore
    have hrest : slots.drop limit ≠ [] := by
      simp only [ne_eq, List.drop_eq_nil_iff]
      omega
    obtain ⟨later, hlater⟩ := List.exists_mem_of_ne_nil _ hrest
    rw [← List.take_append_drop limit slots, List.pairwise_append] at hsorted
    have hbefore := hsorted.2.2 last htaken later hlater
    have hafter := hgreatest later (List.mem_of_mem_drop hlater)
    omega
  . intro hall slot hslot
    rw [List.take_of_length_le hall] at hlast
    obtain ⟨earlier, hslots⟩ := List.getLast?_eq_some_iff.1 hlast
    rw [hslots, List.pairwise_append] at hsorted
    rw [hslots, List.mem_append, List.mem_singleton] at hslot
    cases hslot with
    | inl hearlier =>
      have := hsorted.2.2 slot hearlier last (by simp)
      omega
    | inr hsame => omega

end

def gapMinutes (first nowMs : Int) : Nat :=
  ((floorToMinute nowMs - 60000 - first) / 60000 + 1).toNat

section

variable {schedule : DeterministicCronSchedule} {timezone : Option String}
  {previousTickMs nowMs : Int} {limit : Nat}

theorem missed_iff (minute : Int)
    : Missed schedule timezone previousTickMs nowMs minute
        ↔ minute ∈ dueMinutes schedule timezone
            (gapMinutes (floorToMinute previousTickMs + 60000) nowMs)
            (floorToMinute previousTickMs + 60000) := by
  have hminutes : floorToMinute previousTickMs % 60000 = 0 ∧ floorToMinute nowMs % 60000 = 0 := by
    unfold floorToMinute
    omega
  rw [mem_dueMinutes]
  unfold gapMinutes
  constructor
  . intro h
    obtain ⟨hwhole, hafter, hbefore, hdue⟩ := h
    refine ⟨hdue, by omega, by omega, by omega⟩
  . intro h
    obtain ⟨hdue, hfirst, hlast, hwhole⟩ := h
    exact { isMinute := by omega, after := by omega, before := by omega, isDue := hdue }

theorem lateRun_eq {slot : Int} {decision : String} {missed : List Int} (hlimit : 1 ≤ limit)
    (h : deterministicCatchUpDecision schedule timezone (some previousTickMs) nowMs limit
      (some "run-late-once") = .ok (some (.enqueue slot decision missed)))
    : ∃ first, first = wrapI64 (floorToMinute previousTickMs + 60000)
        ∧ ((dueMinutes schedule timezone (gapMinutes first nowMs) first).take limit).getLast?
          = some slot := by
  refine ⟨_, rfl, ?_⟩
  unfold deterministicCatchUpDecision at h
  obtain ⟨slots, hslots, hplan⟩ := Except.bind_eq_ok.1 h
  have hmax : max limit 1 = limit := by omega
  rw [hmax] at hslots
  have htaken := missedSlotsFrom_eq (by simp) hslots
  rw [List.nil_append, List.length_nil, Nat.sub_zero] at htaken
  unfold gapMinutes
  rw [← htaken]
  cases hlast : slots.getLast? with
  | none => simp [hlast, pure, Except.pure] at hplan
  | some latest =>
    simp only [hlast, if_true, pure, Except.pure, Except.ok.injEq, Option.some.injEq,
      DeterministicCatchUpPlan.enqueue.injEq] at hplan
    rw [hplan.1]

end

/-
The late run takes the latest missed slot exactly when the limit covers all of them: the loop collects from the
oldest minute. A previous tick in the last minutes of the `i64` range wraps around.
-/
theorem late_run_latest_iff {schedule : DeterministicCronSchedule} {timezone : Option String}
    {previousTickMs nowMs : Int} {limit : Nat} {slot : Int} {decision : String} {missed : List Int}
    (hprevious : -2 ^ 63 ≤ previousTickMs) (hnow : nowMs < 2 ^ 63) (hlimit : 1 ≤ limit)
    (h : deterministicCatchUpDecision schedule timezone (some previousTickMs) nowMs limit
      (some "run-late-once") = .ok (some (.enqueue slot decision missed)))
    : (Missed schedule timezone previousTickMs nowMs slot
          ∧ ∀ minute, Missed schedule timezone previousTickMs nowMs minute → minute ≤ slot)
        ↔ floorToMinute previousTickMs + 60000 < 2 ^ 63
          ∧ (dueMinutes schedule timezone
              (gapMinutes (floorToMinute previousTickMs + 60000) nowMs)
              (floorToMinute previousTickMs + 60000)).length ≤ limit := by
  obtain ⟨first, hfirst, hlast⟩ := lateRun_eq hlimit h
  by_cases hoverflow : floorToMinute previousTickMs + 60000 < 2 ^ 63
  . have hexact : first = floorToMinute previousTickMs + 60000 := by
      rw [hfirst]
      unfold wrapI64
      unfold floorToMinute at hoverflow ⊢
      omega
    rw [hexact] at hlast
    have hmissed : Missed schedule timezone previousTickMs nowMs slot := by
      rw [missed_iff]
      apply List.mem_of_mem_take (List.mem_of_getLast? hlast)
    rw [and_iff_right hoverflow, and_iff_right hmissed,
      ← take_getLast_greatest_iff (dueMinutes_sorted _ _) hlast]
    simp only [missed_iff]
  . have hnone : ¬Missed schedule timezone previousTickMs nowMs slot := by
      intro hmissed
      have hafter := hmissed.after
      have hbefore := hmissed.before
      unfold floorToMinute at hafter hbefore hoverflow
      omega
    rw [and_iff_left_of_imp (fun hmissed => absurd hmissed hnone), iff_false_left hnone]
    intro hcondition
    exact hoverflow hcondition.1

theorem late_run_latest_sample
    : deterministicCatchUpDecision (.cron "* * * * *") none (some 0) 240000 3 (some "run-late-once")
          = .ok (some (.enqueue 180000 "run-late-once" [60000, 120000, 180000]))
      ∧ Missed (.cron "* * * * *") none 0 240000 180000
      ∧ ∀ minute, Missed (.cron "* * * * *") none 0 240000 minute → minute ≤ 180000 := by
  have hdecision : deterministicCatchUpDecision (.cron "* * * * *") none (some 0) 240000 3
      (some "run-late-once")
        = .ok (some (.enqueue 180000 "run-late-once" [60000, 120000, 180000])) := by
    decide +kernel
  refine ⟨hdecision, (late_run_latest_iff (by decide) (by decide) (by decide) hdecision).2 ?_⟩
  decide +kernel

-- with the limit at one, the late run takes the oldest of the three
theorem late_run_oldest
    : deterministicCatchUpDecision (.cron "* * * * *") none (some 0) 240000 1 (some "run-late-once")
          = .ok (some (.enqueue 60000 "run-late-once" [60000]))
      ∧ Missed (.cron "* * * * *") none 0 240000 180000 := by
  refine ⟨by decide +kernel, ?_⟩
  rw [missed_iff]
  decide +kernel

end CronScheduler
