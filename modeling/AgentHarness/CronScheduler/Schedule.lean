import AgentHarness.Lib.Encoding
import AgentHarness.Lib.Io

/-!
The schedules of the cron scheduler: the texts of cron expressions and timezones, the slot in which a
schedule is due, and the slots that were missed between two ticks. Times are in milliseconds since the
Unix epoch.
-/

namespace CronScheduler

-- What reading a text of the configuration may end in: the `Err` of the source, or a panic.
inductive ReadError where
  | malformed (message : String)
  | panic
  deriving DecidableEq

abbrev Read (α : Type) := Except ReadError α

-- `str::split_once` with a character
def splitOnce (separator : Char) (s : String) : Option (String × String) :=
  if separator ∈ s.toList then
    let left := s.toList.takeWhile (· ≠ separator)
    some (String.ofList left, String.ofList (s.toList.drop (left.length + 1)))
  else
    none

-- `str::trim_matches` with a character
def trimMatches (ch : Char) (s : String) : String :=
  String.ofList ((s.toList.dropWhile (· = ch)).reverse.dropWhile (· = ch)).reverse

def wrapI64 (n : Int) : Int :=
  (n + 2 ^ 63) % 2 ^ 64 - 2 ^ 63

def floorToMinute (nowMs : Int) : Int :=
  nowMs / 60000 * 60000

def parseRangeValue (value : String) (min max : Int) : Read Int :=
  match Text.parseI64 value with
  | none => .error (.malformed s!"cron field value `{value}` is not an integer")
  | some parsed =>
    if parsed < min ∨ parsed > max then
      .error (.malformed s!"cron field value `{value}` outside supported range {min}-{max}")
    else
      .ok parsed

def matchesCronRange (rangePart : String) (step : Option Int) (value min max : Int) : Read Bool :=
  match splitOnce '-' rangePart with
  | some (first, last) => do
    let first ← parseRangeValue first min max
    let last ← parseRangeValue last min max
    if value < first ∨ value > last then
      return false
    else
      return step.all fun step => 0 < step && (value - first).tmod step = 0
  | none => do
    let exact ← parseRangeValue rangePart min max
    return value = exact

def matchesCronPart (part : String) (value min max : Int) : Read Bool :=
  match Text.dropLead "*/" part with
  | some step => do
    let step ← parseRangeValue step min max
    return 0 < step && (value - min).tmod step = 0
  | none =>
    match splitOnce '/' part with
    | some (range, step) => do
      let step ← parseRangeValue step 1 max
      matchesCronRange range (some step) value min max
    | none => matchesCronRange part none value min max

def matchesAnyPart (value min max : Int) : List String → Read Bool
  | [] => .ok false
  | part :: parts => do
    if ← matchesCronPart part value min max then
      return true
    else
      matchesAnyPart value min max parts

def isWildcard (field : String) : Bool :=
  field = "*" || field = "?"

def matchesCronField (field : String) (value min max : Int) : Read Bool :=
  if isWildcard field then
    .ok true
  else
    matchesAnyPart value min max (Text.splitOn ',' field)

def parseHoursAndMinutes (sign : Int) (hours minutes : String) : Option Int := do
  let hours ← Text.parseI64 hours
  let minutes ← Text.parseI64 minutes
  if hours > 23 ∨ minutes > 59 then
    none
  else
    some (wrapI64 (sign * wrapI64 (wrapI64 (hours * 60) + minutes)))

def parseNumericTimezoneOffset (value : String) : Read (Option Int) :=
  match value.toList with
  | [] => .ok none
  | lead :: rest =>
    if lead ≠ '+' ∧ lead ≠ '-' then
      .ok none
    else
      let sign := if lead = '+' then 1 else -1
      let rest := String.ofList rest
      match splitOnce ':' rest with
      | some (hours, minutes) => .ok (parseHoursAndMinutes sign hours minutes)
      | none =>
        if rest.utf8ByteSize = 2 then
          .ok (parseHoursAndMinutes sign rest "0")
        else if rest.utf8ByteSize = 4 then
          -- the slice of a text at a byte inside a character panics
          match Text.splitAtByte 2 rest.toList with
          | none => .error .panic
          | some (hours, minutes) =>
            .ok (parseHoursAndMinutes sign (String.ofList hours) (String.ofList minutes))
        else
          .ok none

def timezoneOffsetMinutes (timezone : Option String) : Read Int :=
  match timezone with
  | none => .ok 0
  | some timezone =>
    let normalized := Text.trim timezone
    if normalized = "" || Text.eqIgnoreAsciiCase normalized "utc"
        || Text.eqIgnoreAsciiCase normalized "z" then
      .ok 0
    else if Text.eqIgnoreAsciiCase normalized "Asia/Taipei" then
      .ok (8 * 60)
    else do
      match ← parseNumericTimezoneOffset normalized with
      | some offset => return offset
      | none => .error (.malformed s!"unsupported cron timezone `{normalized}`")

def civilDateFromUnixDays (daysSinceUnixEpoch : Int) : Int × Int × Int :=
  let shifted := saturateI64 (daysSinceUnixEpoch + 719468)
  let era := (if shifted ≥ 0 then shifted else wrapI64 (shifted - 146096)).tdiv 146097
  let dayOfEra := shifted - era * 146097
  let yearOfEra := (dayOfEra - dayOfEra.tdiv 1460 + dayOfEra.tdiv 36524
    - dayOfEra.tdiv 146096).tdiv 365
  let year := yearOfEra + era * 400
  let dayOfYear := dayOfEra - (365 * yearOfEra + yearOfEra.tdiv 4 - yearOfEra.tdiv 100)
  let monthPrime := (5 * dayOfYear + 2).tdiv 153
  let day := dayOfYear - (153 * monthPrime + 2).tdiv 5 + 1
  let month := monthPrime + (if monthPrime < 10 then 3 else -9)
  (if month ≤ 2 then year + 1 else year, month, day)

def cronExpressionDueSlotWithTimezone (expression : String) (timezone : Option String) (nowMs : Int)
    : Read (Option Int) :=
  match (Text.splitWhitespace expression).map String.ofList with
  | [minuteField, hourField, dayField, monthField, weekdayField] => do
    let minuteSlot := floorToMinute nowMs
    let offsetMinutes ← timezoneOffsetMinutes timezone
    let localSlot := wrapI64 (minuteSlot + offsetMinutes * 60000)
    let minute := localSlot / 60000 % 60
    let hour := localSlot / 3600000 % 24
    let days := localSlot / 86400000
    let (_, month, dayOfMonth) := civilDateFromUnixDays days
    let weekday := (days + 4) % 7
    if !(← matchesCronField minuteField minute 0 59) then
      return none
    else if !(← matchesCronField hourField hour 0 23) then
      return none
    else if !(← matchesCronField monthField month 1 12) then
      return none
    else
      let dayOfMonthMatches ← matchesCronField dayField dayOfMonth 1 31
      let dayOfWeekMatches ← matchesCronField weekdayField weekday 0 6
      let dayMatches :=
        match isWildcard dayField, isWildcard weekdayField with
        | true, true => true
        | true, false => dayOfWeekMatches
        | false, true => dayOfMonthMatches
        | false, false => dayOfMonthMatches || dayOfWeekMatches
      return if dayMatches then some minuteSlot else none
  | _ => .error (.malformed s!"cron expression `{expression}` must have five fields")

def macroDueSlotWithTimezone (name : String) (timezone : Option String) (nowMs : Int)
    : Read (Option Int) := do
  let minuteSlot := floorToMinute nowMs
  let offsetMinutes ← timezoneOffsetMinutes timezone
  let localSlot := wrapI64 (minuteSlot + offsetMinutes * 60000)
  let minute := (localSlot.tdiv 60000).tmod 60
  let hour := (localSlot.tdiv 3600000).tmod 24
  let days := localSlot.tdiv 86400000
  let weekday := (days + 4) % 7
  if name = "@hourly" then
    return if minute = 0 then some minuteSlot else none
  else if name = "@daily" ∨ name = "@midnight" then
    return if minute = 0 ∧ hour = 0 then some minuteSlot else none
  else if name = "@weekly" then
    return if minute = 0 ∧ hour = 0 ∧ weekday = 0 then some minuteSlot else none
  else
    .error (.malformed s!"unsupported cron macro `{name}`")

inductive DeterministicCronSchedule where
  | cron (expression : String)
  | named (name : String)
  | unsupported (summary : String)
  deriving DecidableEq

inductive NativeCronSchedule where
  | cron (expression : String) (timezone : Option String)
  | at (text : Option String) (epochMs : Option Int)
  | unknown (summary : String)

def deterministicDueSlot (schedule : DeterministicCronSchedule) (timezone : Option String) (nowMs : Int)
    : Read (Option Int) :=
  match schedule with
  | .cron expression => cronExpressionDueSlotWithTimezone expression timezone nowMs
  | .named name => macroDueSlotWithTimezone name timezone nowMs
  | .unsupported summary =>
    .error (.malformed s!"unsupported deterministic cron schedule: {summary}")

def nativeDueSlot (schedule : NativeCronSchedule) (nowMs : Int) : Read (Option Int) :=
  match schedule with
  | .at _ (some atMs) => .ok (if atMs ≤ nowMs then some atMs else none)
  | .at _ none => .error (.malformed "at schedule has no epoch milliseconds")
  | .cron expression timezone => cronExpressionDueSlotWithTimezone expression timezone nowMs
  | .unknown summary => .error (.malformed s!"unsupported native cron schedule: {summary}")

-- the `while` loop over the minutes, each looked at once
def missedSlotsFrom (schedule : DeterministicCronSchedule) (timezone : Option String) (maxSlots : Nat)
    : Nat → Int → List Int → Read (List Int)
  | 0, _, missed => .ok missed
  | minutes + 1, slot, missed =>
    if missed.length < maxSlots then do
      let due ← deterministicDueSlot schedule timezone slot
      let missed := if due.isSome then missed ++ [slot] else missed
      missedSlotsFrom schedule timezone maxSlots minutes (slot + 60000) missed
    else
      .ok missed

def missedDeterministicDueSlots (schedule : DeterministicCronSchedule) (timezone : Option String)
    (previousTickMs nowMs : Int) (maxSlots : Nat)
    : Read (List Int) :=
  let slot := wrapI64 (floorToMinute previousTickMs + 60000)
  let last := floorToMinute nowMs - 60000
  let minutes := ((last - slot) / 60000 + 1).toNat
  missedSlotsFrom schedule timezone maxSlots minutes slot []

inductive DeterministicCatchUpPlan where
  | enqueue (scheduledForMs : Int) (decision : String) (missedSlots : List Int)
  | suppress (decision : String) (missedSlots : List Int)
  deriving DecidableEq

def deterministicCatchUpDecision (schedule : DeterministicCronSchedule) (timezone : Option String)
    (previousTickMs : Option Int) (nowMs : Int) (maxCatchupPerTick : Nat) (policy : Option String)
    : Read (Option DeterministicCatchUpPlan) :=
  match previousTickMs, policy with
  | some previousTickMs, some policy => do
    let missedSlots ← missedDeterministicDueSlots schedule timezone previousTickMs nowMs
      (max maxCatchupPerTick 1)
    match missedSlots.getLast? with
    | none => return none
    | some latest =>
      if policy = "run-late-once" then
        return some (.enqueue latest "run-late-once" missedSlots)
      else if policy = "run-immediately-on-restart" then
        return some (.enqueue (floorToMinute nowMs) "run-immediately-on-restart" missedSlots)
      else if policy = "guard-source-freshness" then
        return some (.suppress "guard-source-freshness" missedSlots)
      else
        return some (.suppress s!"unsupported-policy:{policy}" missedSlots)
  | _, _ => .ok none

end CronScheduler
