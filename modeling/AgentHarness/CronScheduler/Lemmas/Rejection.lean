import AgentHarness.CronScheduler.Lemmas.Calendar
import AgentHarness.CronScheduler.Lemmas.Timezone

/-!
When the rejection of a cron expression does not depend on the time.
-/

namespace CronScheduler

open Calendar (longestMonth)

abbrev Value (min max : Int) := { value : Int // min ≤ value ∧ value ≤ max }

structure LocalTime where
  minute : Value 0 59
  hour : Value 0 23
  month : Value 1 12
  day : Value 1 (longestMonth month)
  weekday : Value 0 6

structure CronFields where
  minute : String
  hour : String
  day : String
  month : String
  weekday : String

namespace CronFields

def ofExpression (expression : String) : Option CronFields :=
  match (Text.splitWhitespace expression).map String.ofList with
  | [minute, hour, day, month, weekday] => some { minute, hour, day, month, weekday }
  | _ => none

def dueAt (fields : CronFields) (minute hour month day weekday : Int) : Read Bool := do
  if !(← matchesCronField fields.minute minute 0 59) then
    return false
  else if !(← matchesCronField fields.hour hour 0 23) then
    return false
  else if !(← matchesCronField fields.month month 1 12) then
    return false
  else
    let dayOfMonthMatches ← matchesCronField fields.day day 1 31
    let dayOfWeekMatches ← matchesCronField fields.weekday weekday 0 6
    return match isWildcard fields.day, isWildcard fields.weekday with
      | true, true => true
      | true, false => dayOfWeekMatches
      | false, true => dayOfMonthMatches
      | false, false => dayOfMonthMatches || dayOfWeekMatches

end CronFields

def Fails (field : String) (value min max : Int) : Prop :=
  ∃ message, matchesCronField field value min max = .error (.malformed message)

def Matches (field : String) (value min max : Int) : Prop :=
  matchesCronField field value min max = .ok true

section

variable {field part : String} {value min max : Int}

theorem parseRangeValue_ne_panic : parseRangeValue field min max ≠ .error .panic := by
  unfold parseRangeValue
  split
  . simp
  . split
    . simp
    . simp

theorem bind_ne_panic {α β : Type} {x : Read α} {f : α → Read β} (hx : x ≠ .error .panic)
    (hf : ∀ a, f a ≠ .error .panic)
    : (x >>= f) ≠ .error .panic := by
  cases x with
  | error e =>
    intro h
    apply hx
    cases h
    rfl
  | ok a => apply hf

theorem matchesCronRange_ne_panic (step : Option Int)
    : matchesCronRange part step value min max ≠ .error .panic := by
  unfold matchesCronRange
  split
  . apply bind_ne_panic parseRangeValue_ne_panic
    intro first
    apply bind_ne_panic parseRangeValue_ne_panic
    intro last
    split
    . simp [pure, Except.pure]
    . simp [pure, Except.pure]
  . apply bind_ne_panic parseRangeValue_ne_panic
    simp [pure, Except.pure]

theorem matchesCronPart_ne_panic : matchesCronPart part value min max ≠ .error .panic := by
  unfold matchesCronPart
  split
  . apply bind_ne_panic parseRangeValue_ne_panic
    simp [pure, Except.pure]
  . split
    . apply bind_ne_panic parseRangeValue_ne_panic
      intro step
      apply matchesCronRange_ne_panic
    . apply matchesCronRange_ne_panic

theorem matchesAnyPart_ne_panic (parts : List String)
    : matchesAnyPart value min max parts ≠ .error .panic := by
  induction parts with
  | nil => simp [matchesAnyPart]
  | cons part parts ih =>
    unfold matchesAnyPart
    apply bind_ne_panic matchesCronPart_ne_panic
    intro found
    split
    . simp [pure, Except.pure]
    . apply ih

theorem matchesCronField_ne_panic : matchesCronField field value min max ≠ .error .panic := by
  unfold matchesCronField
  split
  . simp
  . apply matchesAnyPart_ne_panic

theorem Matches.not_fails (h : Matches field value min max) : ¬Fails field value min max := by
  intro hfails
  obtain ⟨message, hmessage⟩ := hfails
  rw [h] at hmessage
  cases hmessage

/-
A field fails at its first part that is not read as unmatched, where that part is malformed.
-/
theorem fails_iff
    : Fails field value min max ↔ isWildcard field = false
        ∧ ∃ part message, matchesCronPart part value min max = .error (.malformed message)
          ∧ (Text.splitOn ',' field).find?
            (fun part => (matchesCronPart part value min max).toOption ≠ some false) = some part := by
  unfold Fails matchesCronField
  cases isWildcard field with
  | true => simp
  | false =>
    generalize Text.splitOn ',' field = parts
    induction parts with
    | nil => simp [matchesAnyPart]
    | cons part parts ih =>
      unfold matchesAnyPart
      cases hpart : matchesCronPart part value min max with
      | error e => simp [hpart, Except.toOption, bind, Except.bind]
      | ok found =>
        cases found with
        | true => simp +contextual [hpart, Except.toOption, bind, Except.bind, pure, Except.pure]
        | false => simpa [hpart, Except.toOption, bind, Except.bind] using ih

section

variable {step : Option Int} {error : ReadError} (other : Int)

theorem matchesCronRange_error_iff
    : matchesCronRange part step value min max = .error error
        ↔ matchesCronRange part step other min max = .error error := by
  unfold matchesCronRange
  split
  . simp [-bind_pure_comp, Except.bind_eq_error, ← apply_ite pure, Except.pure_ne_error]
  . simp [-bind_pure_comp, Except.bind_eq_error, Except.pure_ne_error]

-- whether a part is malformed does not depend on the value
theorem matchesCronPart_error_iff
    : matchesCronPart part value min max = .error error
        ↔ matchesCronPart part other min max = .error error := by
  unfold matchesCronPart
  split
  . simp [-bind_pure_comp, Except.bind_eq_error, Except.pure_ne_error]
  . split
    . simp only [Except.bind_eq_error, matchesCronRange_error_iff other]
    . apply matchesCronRange_error_iff

end

theorem field_cases (field : String) (value min max : Int)
    : (∃ message, matchesCronField field value min max = .error (.malformed message))
          ∧ Fails field value min max ∧ ¬Matches field value min max
        ∨ matchesCronField field value min max = .ok false
          ∧ ¬Fails field value min max ∧ ¬Matches field value min max
        ∨ matchesCronField field value min max = .ok true
          ∧ ¬Fails field value min max ∧ Matches field value min max := by
  unfold Fails Matches
  cases h : matchesCronField field value min max with
  | error e =>
    cases e with
    | malformed message => simp
    | panic => exact absurd h matchesCronField_ne_panic
  | ok found =>
    cases found with
    | true => simp
    | false => simp

end

namespace CronFields

def RejectsAt (fields : CronFields) (time : LocalTime) : Prop :=
  Fails fields.minute time.minute 0 59 ∨ Matches fields.minute time.minute 0 59
    ∧ (Fails fields.hour time.hour 0 23 ∨ Matches fields.hour time.hour 0 23
      ∧ (Fails fields.month time.month 1 12 ∨ Matches fields.month time.month 1 12
        ∧ (Fails fields.day time.day 1 31 ∨ Fails fields.weekday time.weekday 0 6)))

-- every value of a field that is reached fails or leads to a failure
def AlwaysRejects (fields : CronFields) : Prop :=
  (∀ minute : Value 0 59, Fails fields.minute minute 0 59 ∨ Matches fields.minute minute 0 59)
    ∧ ((∃ minute : Value 0 59, Matches fields.minute minute 0 59)
      → (∀ hour : Value 0 23, Fails fields.hour hour 0 23 ∨ Matches fields.hour hour 0 23)
        ∧ ((∃ hour : Value 0 23, Matches fields.hour hour 0 23)
          → ∀ month : Value 1 12, Fails fields.month month 1 12
            ∨ Matches fields.month month 1 12
              ∧ ((∀ day : Value 1 (longestMonth month), Fails fields.day day 1 31)
                ∨ ∀ weekday : Value 0 6, Fails fields.weekday weekday 0 6)))

-- no value of a field that is reached fails
def NeverRejects (fields : CronFields) : Prop :=
  (∀ minute : Value 0 59, ¬Fails fields.minute minute 0 59)
    ∧ ((∃ minute : Value 0 59, Matches fields.minute minute 0 59)
      → (∀ hour : Value 0 23, ¬Fails fields.hour hour 0 23)
        ∧ ((∃ hour : Value 0 23, Matches fields.hour hour 0 23)
          → ∀ month : Value 1 12, ¬Fails fields.month month 1 12
            ∧ (Matches fields.month month 1 12
              → (∀ day : Value 1 (longestMonth month), ¬Fails fields.day day 1 31)
                ∧ ∀ weekday : Value 0 6, ¬Fails fields.weekday weekday 0 6)))

section

variable {fields : CronFields}

theorem dueAt_cases (fields : CronFields) (time : LocalTime)
    : (∃ message, fields.dueAt time.minute time.hour time.month time.day time.weekday
          = .error (.malformed message)) ∧ fields.RejectsAt time
        ∨ (∃ due, fields.dueAt time.minute time.hour time.month time.day time.weekday = .ok due)
          ∧ ¬fields.RejectsAt time := by
  unfold dueAt RejectsAt
  obtain ⟨⟨message, h⟩, hfails, hnot⟩ | ⟨h, hfails, hnot⟩ | ⟨h, hfails, hmatches⟩ :=
    field_cases fields.minute time.minute 0 59
  . simp [h, hfails, bind, Except.bind]
  . simp [h, hfails, hnot, bind, Except.bind, pure, Except.pure]
  simp only [h, hfails, hmatches, false_or, true_and]
  obtain ⟨⟨message, h⟩, hfails, hnot⟩ | ⟨h, hfails, hnot⟩ | ⟨h, hfails, hmatches⟩ :=
    field_cases fields.hour time.hour 0 23
  . simp [h, hfails, bind, Except.bind]
  . simp [h, hfails, hnot, bind, Except.bind, pure, Except.pure]
  simp only [h, hfails, hmatches, false_or, true_and]
  obtain ⟨⟨message, h⟩, hfails, hnot⟩ | ⟨h, hfails, hnot⟩ | ⟨h, hfails, hmatches⟩ :=
    field_cases fields.month time.month 1 12
  . simp [h, hfails, bind, Except.bind]
  . simp [h, hfails, hnot, bind, Except.bind, pure, Except.pure]
  simp only [h, hfails, hmatches, false_or, true_and]
  obtain ⟨⟨message, h⟩, hfails, _⟩ | ⟨h, hfails, _⟩ | ⟨h, hfails, _⟩ :=
    field_cases fields.day time.day 1 31
  . simp [h, hfails, bind, Except.bind]
  all_goals
    obtain ⟨⟨message, h'⟩, hfails', _⟩ | ⟨h', hfails', _⟩ | ⟨h', hfails', _⟩ :=
      field_cases fields.weekday time.weekday 0 6
    . simp [h, h', hfails', bind, Except.bind]
    . simp [h, h', hfails, hfails', bind, Except.bind, pure, Except.pure]
    . simp [h, h', hfails, hfails', bind, Except.bind, pure, Except.pure]

theorem forall_reject_iff {α : Type} {fails match_ : α → Prop} {rest : Prop}
    (hdisjoint : ∀ a, match_ a → ¬fails a)
    : (∀ a, fails a ∨ match_ a ∧ rest) ↔ (∀ a, fails a ∨ match_ a) ∧ ((∃ a, match_ a) → rest) := by
  constructor
  . intro h
    refine ⟨fun a => (h a).imp_right And.left, ?_⟩
    intro hsome
    obtain ⟨a, ha⟩ := hsome
    cases h a with
    | inl hfails => exact absurd hfails (hdisjoint a ha)
    | inr hrest => exact hrest.2
  . intro h a
    cases h.1 a with
    | inl hfails => exact .inl hfails
    | inr hmatch => exact .inr ⟨hmatch, h.2 ⟨a, hmatch⟩⟩

theorem forall_accept_iff {α : Type} {fails match_ : α → Prop} {rest : Prop}
    : (∀ a, ¬fails a ∧ (match_ a → rest)) ↔ (∀ a, ¬fails a) ∧ ((∃ a, match_ a) → rest) := by
  rw [forall_and, exists_imp]

instance : Nonempty (Value 0 59) := ⟨0, by decide⟩

instance : Nonempty (Value 0 23) := ⟨0, by decide⟩

instance : Nonempty (Value 0 6) := ⟨0, by decide⟩

instance : Nonempty (Value 1 12) := ⟨1, by decide⟩

theorem one_le_longestMonth (month : Int) : 1 ≤ longestMonth month := by
  unfold longestMonth
  split
  . decide
  . split
    . decide
    . decide

instance (month : Int) : Nonempty (Value 1 (longestMonth month)) :=
  ⟨1, Int.le_refl 1, one_le_longestMonth month⟩

theorem forall_time_iff {p : LocalTime → Prop}
    : (∀ time, p time) ↔ ∀ (minute : Value 0 59) (hour : Value 0 23) (month : Value 1 12)
        (day : Value 1 (longestMonth month)) (weekday : Value 0 6),
        p { minute, hour, month, day, weekday } := by
  constructor
  . intro h minute hour month day weekday
    apply h
  . intro h time
    apply h

theorem alwaysRejects_iff : fields.AlwaysRejects ↔ ∀ time, fields.RejectsAt time := by
  have hdisjoint : ∀ field value min max, Matches field value min max → ¬Fails field value min max :=
    fun _ _ _ _ h => h.not_fails
  unfold AlwaysRejects RejectsAt
  rw [forall_time_iff]
  dsimp only
  simp only [forall_or_left, forall_or_right, forall_and_left]
  rw [forall_reject_iff fun _ => hdisjoint _ _ _ _, forall_reject_iff fun _ => hdisjoint _ _ _ _]

theorem neverRejects_iff : fields.NeverRejects ↔ ∀ time, ¬fields.RejectsAt time := by
  unfold NeverRejects RejectsAt
  rw [forall_time_iff]
  dsimp only
  simp only [not_or, not_and, forall_and_left, forall_and_right, ← imp_forall_iff]
  rw [forall_accept_iff, forall_accept_iff]

end

end CronFields

def IsTimeOf (localSlot : Int) (time : LocalTime) : Prop :=
  localSlot / 60000 % 60 = time.minute
    ∧ localSlot / 3600000 % 24 = time.hour
    ∧ (civilDateFromUnixDays (localSlot / 86400000)).2 = (time.month.val, time.day.val)
    ∧ (localSlot / 86400000 + 4) % 7 = time.weekday

section

variable {localSlot offset : Int}

theorem exists_time (h : InI64 localSlot) : ∃ time, IsTimeOf localSlot time := by
  unfold InI64 at h
  have hrange : InCivilRange (localSlot / 86400000) := by
    unfold InCivilRange
    omega
  obtain ⟨_, hdate, _⟩ := civilDate_correct hrange
  obtain ⟨hmonth, hmonth', hday, hday'⟩ := hdate
  have hlongest := Calendar.monthLength_le (civilDateFromUnixDays (localSlot / 86400000)).1
    (civilDateFromUnixDays (localSlot / 86400000)).2.1
  refine ⟨{
    minute := ⟨localSlot / 60000 % 60, by omega⟩,
    hour := ⟨localSlot / 3600000 % 24, by omega⟩,
    month := ⟨(civilDateFromUnixDays (localSlot / 86400000)).2.1, hmonth, hmonth'⟩,
    day := ⟨(civilDateFromUnixDays (localSlot / 86400000)).2.2, hday, Int.le_trans hday' hlongest⟩,
    weekday := ⟨(localSlot / 86400000 + 4) % 7, by omega⟩ }, rfl, rfl, rfl, rfl⟩

theorem exists_slot (time : LocalTime) {era : Int} (hera : era = 0 ∨ era = -1)
    : ∃ localSlot, IsTimeOf localSlot time ∧ localSlot % 60000 = 0
        ∧ 12622780800000 * era ≤ localSlot ∧ localSlot < 12622780800000 * (era + 1) := by
  obtain ⟨days, hlow, hhigh, hdate, hweekday⟩ := exists_civilDate time.month.2 time.day.2
    time.weekday.2 hera
  have hminute := time.minute.2
  have hhour := time.hour.2
  obtain ⟨localSlot, hslot⟩ : ∃ localSlot : Int,
    localSlot = days * 86400000 + time.hour * 3600000 + time.minute * 60000 := ⟨_, rfl⟩
  have hdays : localSlot / 86400000 = days := by omega
  refine ⟨localSlot, ⟨by omega, by omega, ?_, ?_⟩, by omega, by omega, by omega⟩
  . rw [hdays]
    exact hdate
  . rw [hdays]
    exact hweekday

end

-- no step from the tick to the slot in the time of the zone leaves the `i64` range
def InTickRange (timezone : Option String) (nowMs : Int) : Prop :=
  InI64 nowMs ∧ InI64 (floorToMinute nowMs)
    ∧ ∀ offset, timezoneOffsetMinutes timezone = .ok offset
      → InI64 (offset * 60000) ∧ InI64 (floorToMinute nowMs + offset * 60000)

def Rejected (expression : String) (timezone : Option String) (nowMs : Int) : Prop :=
  ∃ message, cronExpressionDueSlotWithTimezone expression timezone nowMs
    = .error (.malformed message)

def Accepted (expression : String) (timezone : Option String) (nowMs : Int) : Prop :=
  ∃ slot, cronExpressionDueSlotWithTimezone expression timezone nowMs = .ok slot

def RejectionFixed (expression : String) (timezone : Option String) : Prop :=
  (∀ nowMs, InTickRange timezone nowMs → Rejected expression timezone nowMs)
    ∨ ∀ nowMs, InTickRange timezone nowMs → Accepted expression timezone nowMs

section

variable {expression : String} {timezone : Option String} {fields : CronFields} {nowMs offset : Int}

def slotOf (minuteSlot : Int) (due : Bool) : Option Int :=
  if due then some minuteSlot else none

theorem field_map {found : Read Bool} {slots : Read (Option Int)} {due : Read Bool} {minuteSlot : Int}
    (h : slots = due.map (slotOf minuteSlot))
    : (do
        if !(← found) then
          return none
        else
          slots)
      = Except.map (slotOf minuteSlot) (do
        if !(← found) then
          return false
        else
          due) := by
  cases found with
  | error e => rfl
  | ok found =>
    cases found with
    | false => rfl
    | true => exact h

theorem split_of_fields (hfields : CronFields.ofExpression expression = some fields)
    : (Text.splitWhitespace expression).map String.ofList
        = [fields.minute, fields.hour, fields.day, fields.month, fields.weekday] := by
  unfold CronFields.ofExpression at hfields
  split at hfields
  . next hsplit =>
    cases hfields
    apply hsplit
  . cases hfields

theorem cronExpression_eq (hfields : CronFields.ofExpression expression = some fields)
    (htimezone : timezoneOffsetMinutes timezone = .ok offset) {time : LocalTime}
    (htime : IsTimeOf (wrapI64 (floorToMinute nowMs + offset * 60000)) time)
    : cronExpressionDueSlotWithTimezone expression timezone nowMs
        = (fields.dueAt time.minute time.hour time.month time.day time.weekday).map
          (slotOf (floorToMinute nowMs)) := by
  obtain ⟨hminute, hhour, hdate, hweekday⟩ := htime
  unfold cronExpressionDueSlotWithTimezone CronFields.dueAt
  rw [split_of_fields hfields]
  obtain ⟨year, hcivil⟩ : ∃ year,
      civilDateFromUnixDays (wrapI64 (floorToMinute nowMs + offset * 60000) / 86400000)
        = (year, time.month.val, time.day.val) := by
    rw [← hdate]
    exact ⟨_, rfl⟩
  have hbind : ∀ f : Int → Read (Option Int), (Except.ok offset >>= f) = f offset := fun _ => rfl
  simp only [htimezone, hbind, hminute, hhour, hcivil, hweekday]
  apply field_map
  apply field_map
  apply field_map
  cases matchesCronField fields.day time.day 1 31 with
  | error e => rfl
  | ok dayOfMonthMatches =>
    cases matchesCronField fields.weekday time.weekday 0 6 with
    | error e => rfl
    | ok dayOfWeekMatches => rfl

theorem rejected_or_accepted (hfields : CronFields.ofExpression expression = some fields)
    (htimezone : timezoneOffsetMinutes timezone = .ok offset) {time : LocalTime}
    (htime : IsTimeOf (wrapI64 (floorToMinute nowMs + offset * 60000)) time)
    : Rejected expression timezone nowMs ∧ ¬Accepted expression timezone nowMs
          ∧ fields.RejectsAt time
        ∨ ¬Rejected expression timezone nowMs ∧ Accepted expression timezone nowMs
          ∧ ¬fields.RejectsAt time := by
  unfold Rejected Accepted
  rw [cronExpression_eq hfields htimezone htime]
  cases fields.dueAt_cases time with
  | inl hrejects =>
    obtain ⟨⟨message, hmessage⟩, hrejects⟩ := hrejects
    simp [hmessage, Except.map, hrejects]
  | inr haccepts =>
    obtain ⟨⟨due, hdue⟩, haccepts⟩ := haccepts
    simp [hdue, Except.map, haccepts]

theorem exists_time_of_tick (htimezone : timezoneOffsetMinutes timezone = .ok offset)
    (hrange : InTickRange timezone nowMs)
    : ∃ time, IsTimeOf (wrapI64 (floorToMinute nowMs + offset * 60000)) time := by
  have hslot := (hrange.2.2 offset htimezone).2
  rw [wrapI64_eq hslot]
  apply exists_time hslot

theorem rejected_of_fields (hfields : CronFields.ofExpression expression = none) (nowMs : Int)
    : Rejected expression timezone nowMs := by
  have hfive : ∀ minute hour day month weekday,
      (Text.splitWhitespace expression).map String.ofList ≠ [minute, hour, day, month, weekday] := by
    intro minute hour day month weekday hsplit
    simp [CronFields.ofExpression, hsplit] at hfields
  unfold Rejected cronExpressionDueSlotWithTimezone
  split
  . next hsplit => exact absurd hsplit (hfive _ _ _ _ _)
  . exact ⟨_, rfl⟩

theorem cronExpression_error (hfields : CronFields.ofExpression expression = some fields)
    {e : ReadError} (htimezone : timezoneOffsetMinutes timezone = .error e) (nowMs : Int)
    : cronExpressionDueSlotWithTimezone expression timezone nowMs = .error e := by
  unfold cronExpressionDueSlotWithTimezone
  simp [split_of_fields hfields, htimezone, bind, Except.bind]

theorem exists_tick (htimezone : timezoneOffsetMinutes timezone = .ok offset)
    (hoffset : InI64 (offset * 60000)) (time : LocalTime)
    : ∃ nowMs, InTickRange timezone nowMs
        ∧ IsTimeOf (wrapI64 (floorToMinute nowMs + offset * 60000)) time := by
  obtain ⟨era, hera, hsign⟩ : ∃ era, (era = 0 ∨ era = -1)
      ∧ (0 ≤ offset ∧ era = 0 ∨ offset < 0 ∧ era = -1) := by
    by_cases hsign : 0 ≤ offset
    . exact ⟨0, by simp, by omega⟩
    . exact ⟨-1, by simp, by omega⟩
  obtain ⟨localSlot, htime, hwhole, hlow, hhigh⟩ := exists_slot time hera
  have hslot : InI64 localSlot := by
    unfold InI64
    omega
  have hminute : floorToMinute (localSlot - offset * 60000) = localSlot - offset * 60000 := by
    unfold floorToMinute
    omega
  have hback : localSlot - offset * 60000 + offset * 60000 = localSlot := by omega
  have hnow : InI64 (localSlot - offset * 60000) := by
    unfold InI64 at hoffset ⊢
    omega
  refine ⟨localSlot - offset * 60000, ⟨hnow, ?_, ?_⟩, ?_⟩
  . rw [hminute]
    apply hnow
  . intro other hother
    rw [htimezone] at hother
    cases hother
    rw [hminute, hback]
    exact ⟨hoffset, hslot⟩
  . rw [hminute, hback, wrapI64_eq hslot]
    apply htime

theorem rejectionFixed_of_offset (hfields : CronFields.ofExpression expression = some fields)
    (htimezone : timezoneOffsetMinutes timezone = .ok offset)
    : RejectionFixed expression timezone
        ↔ ¬InI64 (offset * 60000) ∨ fields.AlwaysRejects ∨ fields.NeverRejects := by
  by_cases hoffset : InI64 (offset * 60000)
  . rw [not_not.2 hoffset |> or_iff_right, CronFields.alwaysRejects_iff, CronFields.neverRejects_iff]
    apply or_congr
    . constructor
      . intro h time
        obtain ⟨nowMs, hrange, htime⟩ := exists_tick htimezone hoffset time
        cases rejected_or_accepted hfields htimezone htime with
        | inl hrejected => exact hrejected.2.2
        | inr haccepted => exact absurd (h nowMs hrange) haccepted.1
      . intro h nowMs hrange
        obtain ⟨time, htime⟩ := exists_time_of_tick htimezone hrange
        cases rejected_or_accepted hfields htimezone htime with
        | inl hrejected => exact hrejected.1
        | inr haccepted => exact absurd (h time) haccepted.2.2
    . constructor
      . intro h time
        obtain ⟨nowMs, hrange, htime⟩ := exists_tick htimezone hoffset time
        cases rejected_or_accepted hfields htimezone htime with
        | inl hrejected => exact absurd (h nowMs hrange) hrejected.2.1
        | inr haccepted => exact haccepted.2.2
      . intro h nowMs hrange
        obtain ⟨time, htime⟩ := exists_time_of_tick htimezone hrange
        cases rejected_or_accepted hfields htimezone htime with
        | inl hrejected => exact absurd hrejected.2.2 (h time)
        | inr haccepted => exact haccepted.2.1
  . apply iff_of_true
    . left
      intro nowMs hrange
      exact absurd (hrange.2.2 offset htimezone).1 hoffset
    . exact .inl hoffset

end

/-
Whether an expression is rejected does not depend on the time exactly when it has not five fields, or its
timezone is rejected, or the fields that are reached reject every time or none.
-/
theorem rejection_fixed_iff (expression : String) (timezone : Option String)
    : RejectionFixed expression timezone
        ↔ ∀ fields, CronFields.ofExpression expression = some fields
          → (∀ text ∈ timezone, ¬CutsCharacter (Text.trim text))
            ∧ ∀ offset, timezoneOffsetMinutes timezone = .ok offset
              → ¬InI64 (offset * 60000) ∨ fields.AlwaysRejects ∨ fields.NeverRejects := by
  cases hfields : CronFields.ofExpression expression with
  | none =>
    apply iff_of_true
    . left
      intro nowMs _
      exact rejected_of_fields hfields nowMs
    . intro fields h
      cases h
  | some fields =>
    simp only [Option.some.injEq, forall_eq']
    cases htimezone : timezoneOffsetMinutes timezone with
    | ok offset =>
      have hcuts : ∀ text ∈ timezone, ¬CutsCharacter (Text.trim text) := by
        intro text htext hcuts
        have hsome : timezone = some text := htext
        subst hsome
        rw [panics_iff.2 hcuts] at htimezone
        cases htimezone
      rw [rejectionFixed_of_offset hfields htimezone, and_iff_right hcuts]
      simp
    | error e =>
      simp only [reduceCtorEq, false_implies, implies_true, and_true]
      cases e with
      | malformed message =>
        apply iff_of_true
        . left
          intro nowMs _
          exact ⟨message, cronExpression_error hfields htimezone nowMs⟩
        . intro text htext hcuts
          have hsome : timezone = some text := htext
          subst hsome
          rw [panics_iff.2 hcuts] at htimezone
          cases htimezone
      | panic =>
        apply iff_of_false
        . intro h
          have hrange : InTickRange timezone 0 := by
            refine ⟨by decide, by decide, ?_⟩
            intro offset hoffset
            rw [htimezone] at hoffset
            cases hoffset
          have hpanic := cronExpression_error hfields htimezone 0
          cases h with
          | inl h =>
            obtain ⟨message, hmessage⟩ := h 0 hrange
            rw [hpanic] at hmessage
            cases hmessage
          | inr h =>
            obtain ⟨slot, hslot⟩ := h 0 hrange
            rw [hpanic] at hslot
            cases hslot
        . intro h
          cases timezone with
          | none => cases htimezone
          | some text => exact h text rfl (panics_iff.1 htimezone)

theorem rejection_depends_on_time
    : Rejected "0 99 * * *" none 0 ∧ Accepted "0 99 * * *" none 60000
      ∧ ¬RejectionFixed "0 99 * * *" none := by
  have hrejected : Rejected "0 99 * * *" none 0 := ⟨_, rfl⟩
  have haccepted : Accepted "0 99 * * *" none 60000 := ⟨none, by decide +kernel⟩
  have hrange : ∀ nowMs, nowMs = 0 ∨ nowMs = 60000 → InTickRange none nowMs := by
    intro nowMs hnow
    unfold InTickRange InI64 floorToMinute
    refine ⟨by omega, by omega, ?_⟩
    intro offset hoffset
    cases hoffset
    omega
  refine ⟨hrejected, haccepted, ?_⟩
  intro h
  cases h with
  | inl h =>
    obtain ⟨message, hmessage⟩ := h 60000 (hrange _ (.inr rfl))
    obtain ⟨slot, hslot⟩ := haccepted
    rw [hslot] at hmessage
    cases hmessage
  | inr h =>
    obtain ⟨slot, hslot⟩ := h 0 (hrange _ (.inl rfl))
    obtain ⟨message, hmessage⟩ := hrejected
    rw [hslot] at hmessage
    cases hmessage

end CronScheduler
