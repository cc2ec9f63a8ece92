import AgentHarness.CronScheduler.Schedule

/-!
Which timezone texts are handled: the parser returns, its sum of minutes is exact, and an accepted offset is
shorter than a day.
-/

namespace CronScheduler

def InI64 (n : Int) : Prop :=
  -2 ^ 63 ≤ n ∧ n < 2 ^ 63

instance (n : Int) : Decidable (InI64 n) :=
  inferInstanceAs (Decidable (_ ∧ _))

theorem wrapI64_eq {n : Int} (h : InI64 n) : wrapI64 n = n := by
  unfold InI64 at h
  unfold wrapI64
  omega

-- the sign of a numeric timezone with the texts of its hours and minutes
def numericParts (value : String) : Read (Option (Int × String × String)) :=
  match value.toList with
  | [] => .ok none
  | lead :: rest =>
    if lead ≠ '+' ∧ lead ≠ '-' then
      .ok none
    else
      let sign := if lead = '+' then 1 else -1
      let rest := String.ofList rest
      match splitOnce ':' rest with
      | some (hours, minutes) => .ok (some (sign, hours, minutes))
      | none =>
        if rest.utf8ByteSize = 2 then
          .ok (some (sign, rest, "0"))
        else if rest.utf8ByteSize = 4 then
          match Text.splitAtByte 2 rest.toList with
          | none => .error .panic
          | some (hours, minutes) =>
            .ok (some (sign, String.ofList hours, String.ofList minutes))
        else
          .ok none

def CutsCharacter (value : String) : Prop :=
  ∃ lead rest, value.toList = lead :: rest ∧ (lead = '+' ∨ lead = '-') ∧ ':' ∉ rest
    ∧ (String.ofList rest).utf8ByteSize = 4 ∧ ¬Text.isCharBoundary (String.ofList rest) 2

structure Written (value : String) (sign hours minutes : Int) : Prop where
  parts : ∃ hoursText minutesText, numericParts value = .ok (some (sign, hoursText, minutesText))
    ∧ Text.parseI64 hoursText = some hours ∧ Text.parseI64 minutesText = some minutes
  hours_le : hours ≤ 23
  minutes_le : minutes ≤ 59

section

variable {value : String}

theorem parseNumericTimezoneOffset_eq (value : String)
    : parseNumericTimezoneOffset value = do
        let parts ← numericParts value
        return parts.bind fun (sign, hours, minutes) => parseHoursAndMinutes sign hours minutes := by
  unfold parseNumericTimezoneOffset numericParts
  cases value.toList with
  | nil => rfl
  | cons lead rest =>
    dsimp only
    split
    . rfl
    . cases splitOnce ':' (String.ofList rest) with
      | some parts => rfl
      | none =>
        dsimp only
        split
        . rfl
        . split
          . cases Text.splitAtByte 2 (String.ofList rest).toList with
            | none => rfl
            | some parts => rfl
          . rfl

theorem splitOnce_eq_none {separator : Char} {chars : List Char}
    : splitOnce separator (String.ofList chars) = none ↔ separator ∉ chars := by
  unfold splitOnce
  rw [String.toList_ofList]
  split
  . next hmem => simp [hmem]
  . next hmem => simp [hmem]

variable {timezone : String} {lead : Char} {rest : List Char} {sign : Int}

theorem cutsCharacter_cons (h : value.toList = lead :: rest)
    : CutsCharacter value ↔ (lead = '+' ∨ lead = '-') ∧ ':' ∉ rest
        ∧ (String.ofList rest).utf8ByteSize = 4 ∧ Text.splitAtByte 2 rest = none := by
  unfold CutsCharacter Text.isCharBoundary
  rw [h]
  constructor
  . intro hcuts
    obtain ⟨_, _, hcons, hsign, hcolon, hsize, hcut⟩ := hcuts
    cases hcons
    simp only [String.toList_ofList, Bool.not_eq_true, Option.isSome_eq_false_iff,
      Option.isNone_iff_eq_none] at hcut
    refine ⟨hsign, hcolon, hsize, hcut⟩
  . intro hcuts
    obtain ⟨hsign, hcolon, hsize, hcut⟩ := hcuts
    refine ⟨lead, rest, rfl, hsign, hcolon, hsize, ?_⟩
    simp [hcut]

theorem numericParts_error_iff {e : ReadError}
    : numericParts value = .error e ↔ e = .panic ∧ CutsCharacter value := by
  cases hvalue : value.toList with
  | nil =>
    unfold numericParts CutsCharacter
    rw [hvalue]
    simp
  | cons lead rest =>
    rw [cutsCharacter_cons hvalue]
    unfold numericParts
    rw [hvalue]
    dsimp only
    rw [String.toList_ofList]
    split
    . next hsign =>
      have hnot : ¬(lead = '+' ∨ lead = '-') := by
        rw [not_or]
        exact hsign
      simp only [reduceCtorEq, hnot, false_and, and_false]
    . next hsign =>
      have hlead : lead = '+' ∨ lead = '-' := by
        rw [not_and_or, not_not, not_not] at hsign
        exact hsign
      rw [and_iff_right hlead]
      cases hsplit : splitOnce ':' (String.ofList rest) with
      | some parts =>
        have hcolon : ¬ ':' ∉ rest := by
          rw [← splitOnce_eq_none, hsplit]
          simp
        simp only [reduceCtorEq, hcolon, false_and, and_false]
      | none =>
        rw [and_iff_right (splitOnce_eq_none.1 hsplit)]
        dsimp only
        split
        . next htwo =>
          have hnot : (String.ofList rest).utf8ByteSize ≠ 4 := by omega
          simp only [reduceCtorEq, hnot, false_and, and_false]
        . split
          . next hfour =>
            rw [and_iff_right hfour]
            cases Text.splitAtByte 2 rest with
            | none => simp [eq_comm]
            | some parts => simp
          . next hfour => simp only [reduceCtorEq, hfour, false_and, and_false]

theorem numericParts_sign {hours minutes : String}
    (h : numericParts value = .ok (some (sign, hours, minutes)))
    : (sign = 1 ∨ sign = -1) ∧ ∃ lead rest, value.toList = lead :: rest ∧ (lead = '+' ∨ lead = '-') := by
  unfold numericParts at h
  cases hvalue : value.toList with
  | nil => simp [hvalue] at h
  | cons lead rest =>
    rw [hvalue] at h
    dsimp only at h
    split at h
    . cases h
    . next hsign =>
      rw [not_and_or, not_not, not_not] at hsign
      refine ⟨?_, lead, rest, rfl, hsign⟩
      have hchoice : (if lead = '+' then (1 : Int) else -1) = 1
          ∨ (if lead = '+' then (1 : Int) else -1) = -1 := by
        split <;> simp
      have hsame : (if lead = '+' then (1 : Int) else -1) = sign := by
        split at h
        . cases h
          rfl
        . split at h
          . cases h
            rfl
          . split at h
            . split at h
              . cases h
              . cases h
                rfl
            . cases h
      rw [← hsame]
      exact hchoice

theorem eqIgnoreAsciiCase_eq_false {first : Char} {others : List Char} {name : String}
    (h : value.toList = lead :: rest) (hsign : lead = '+' ∨ lead = '-')
    (hname : name.toList = first :: others) (hfirst : first.toLower ≠ '+' ∧ first.toLower ≠ '-')
    : Text.eqIgnoreAsciiCase value name = false := by
  unfold Text.eqIgnoreAsciiCase Text.toAsciiLowercase Text.mapChars
  rw [h, hname, decide_eq_false_iff_not]
  intro hsame
  have hchars := congrArg String.toList hsame
  rw [String.toList_ofList, String.toList_ofList, List.map_cons, List.map_cons] at hchars
  have hlower : lead.toLower = first.toLower := (List.cons.inj hchars).1
  cases hsign with
  | inl hplus =>
    rw [hplus] at hlower
    apply hfirst.1 hlower.symm
  | inr hminus =>
    rw [hminus] at hlower
    apply hfirst.2 hlower.symm

theorem timezoneOffsetMinutes_numeric (h : (Text.trim timezone).toList = lead :: rest)
    (hsign : lead = '+' ∨ lead = '-')
    : timezoneOffsetMinutes (some timezone) = (numericParts (Text.trim timezone)).bind fun parts =>
        match parts.bind fun (sign, hours, minutes) => parseHoursAndMinutes sign hours minutes with
        | some offset => .ok offset
        | none => .error (.malformed s!"unsupported cron timezone `{Text.trim timezone}`") := by
  have hnonempty : Text.trim timezone ≠ "" := by
    intro hempty
    rw [hempty] at h
    cases h
  have hutc : Text.eqIgnoreAsciiCase (Text.trim timezone) "utc" = false :=
    eqIgnoreAsciiCase_eq_false h hsign rfl (by decide)
  have hzulu : Text.eqIgnoreAsciiCase (Text.trim timezone) "z" = false :=
    eqIgnoreAsciiCase_eq_false h hsign rfl (by decide)
  have htaipei : Text.eqIgnoreAsciiCase (Text.trim timezone) "Asia/Taipei" = false :=
    eqIgnoreAsciiCase_eq_false h hsign rfl (by decide)
  unfold timezoneOffsetMinutes
  simp only [hnonempty, hutc, hzulu, htaipei, parseNumericTimezoneOffset_eq]
  cases numericParts (Text.trim timezone) with
  | error e => rfl
  | ok parts => rfl

def offsetOf (sign hours minutes : Int) : Int :=
  wrapI64 (sign * wrapI64 (wrapI64 (hours * 60) + minutes))

theorem parseHoursAndMinutes_eq_some_iff {offset : Int} {hoursText minutesText : String}
    : parseHoursAndMinutes sign hoursText minutesText = some offset
        ↔ ∃ hours minutes, Text.parseI64 hoursText = some hours
          ∧ Text.parseI64 minutesText = some minutes ∧ hours ≤ 23 ∧ minutes ≤ 59
          ∧ offset = offsetOf sign hours minutes := by
  unfold parseHoursAndMinutes offsetOf
  cases Text.parseI64 hoursText with
  | none => simp
  | some hours =>
    cases Text.parseI64 minutesText with
    | none => simp
    | some minutes =>
      by_cases hbounds : hours > 23 ∨ minutes > 59
      . have hnot : ¬(hours ≤ 23 ∧ minutes ≤ 59) := by omega
        simp [hbounds]
        omega
      . have hfits : hours ≤ 23 ∧ minutes ≤ 59 := by omega
        simp [hbounds, hfits, eq_comm]

theorem Written.accepted {hours minutes : Int} (h : Written (Text.trim timezone) sign hours minutes)
    : timezoneOffsetMinutes (some timezone) = .ok (offsetOf sign hours minutes) := by
  obtain ⟨hoursText, minutesText, hparts, hhours, hminutes⟩ := h.parts
  obtain ⟨_, lead, rest, hvalue, hsign⟩ := numericParts_sign hparts
  have hoffset : parseHoursAndMinutes sign hoursText minutesText
      = some (offsetOf sign hours minutes) := by
    rw [parseHoursAndMinutes_eq_some_iff]
    exact ⟨hours, minutes, hhours, hminutes, h.hours_le, h.minutes_le, rfl⟩
  rw [timezoneOffsetMinutes_numeric hvalue hsign, hparts]
  simp [Except.bind, hoffset]

theorem accepted_cases {offset : Int} (h : timezoneOffsetMinutes (some timezone) = .ok offset)
    : offset = 0 ∨ offset = 480 ∨ ∃ sign hours minutes,
        Written (Text.trim timezone) sign hours minutes ∧ offset = offsetOf sign hours minutes := by
  unfold timezoneOffsetMinutes at h
  dsimp only at h
  split at h
  . cases h
    exact .inl rfl
  . split at h
    . cases h
      exact .inr (.inl rfl)
    . right
      right
      rw [parseNumericTimezoneOffset_eq] at h
      cases hparts : numericParts (Text.trim timezone) with
      | error e => simp [hparts, bind, Except.bind] at h
      | ok parts =>
        cases parts with
        | none => simp [hparts, bind, Except.bind, pure, Except.pure] at h
        | some parts =>
          obtain ⟨sign, hoursText, minutesText⟩ := parts
          cases hoffset : parseHoursAndMinutes sign hoursText minutesText with
          | none => simp [hparts, hoffset, bind, Except.bind, pure, Except.pure] at h
          | some parsed =>
            simp only [hparts, hoffset, bind, Except.bind, pure, Except.pure, Option.bind_some,
              Except.ok.injEq] at h
            obtain ⟨hours, minutes, hhours, hminutes, hhours_le, hminutes_le, hparsed⟩ :=
              parseHoursAndMinutes_eq_some_iff.1 hoffset
            refine ⟨sign, hours, minutes, ?_, h.symm.trans hparsed⟩
            exact { parts := ⟨hoursText, minutesText, hparts, hhours, hminutes⟩,
                    hours_le := hhours_le, minutes_le := hminutes_le }

theorem panics_iff
    : timezoneOffsetMinutes (some timezone) = .error .panic ↔ CutsCharacter (Text.trim timezone) := by
  constructor
  . intro h
    unfold timezoneOffsetMinutes at h
    dsimp only at h
    split at h
    . cases h
    . split at h
      . cases h
      . rw [parseNumericTimezoneOffset_eq] at h
        cases hparts : numericParts (Text.trim timezone) with
        | error e => apply (numericParts_error_iff.1 hparts).2
        | ok parts =>
          simp only [hparts, bind, Except.bind, pure, Except.pure] at h
          split at h
          . cases h
          . cases h
  . intro hcuts
    obtain ⟨lead, rest, hvalue, hsign, _⟩ := id hcuts
    rw [timezoneOffsetMinutes_numeric hvalue hsign, numericParts_error_iff.2 ⟨rfl, hcuts⟩]
    rfl

end

/-
The timezone text is handled: there is no panic, no step of the sum leaves the `i64` range, and an offset is
within a day.
-/
structure Handled (timezone : Option String) : Prop where
  returns : timezoneOffsetMinutes timezone ≠ .error .panic
  inRange : ∀ text ∈ timezone, ∀ sign hours minutes, Written (Text.trim text) sign hours minutes
    → InI64 (hours * 60) ∧ InI64 (hours * 60 + minutes) ∧ InI64 (sign * (hours * 60 + minutes))
  withinDay : ∀ offset, timezoneOffsetMinutes timezone = .ok offset
    → -(23 * 60 + 59) ≤ offset ∧ offset ≤ 23 * 60 + 59

theorem Written.sign_eq {value : String} {sign hours minutes : Int}
    (h : Written value sign hours minutes)
    : sign = 1 ∨ sign = -1 := by
  obtain ⟨_, _, hparts, _⟩ := h.parts
  apply (numericParts_sign hparts).1

theorem offsetOf_eq {sign hours minutes : Int} (hhours : InI64 (hours * 60))
    (hsum : InI64 (hours * 60 + minutes)) (hoffset : InI64 (sign * (hours * 60 + minutes)))
    : offsetOf sign hours minutes = sign * (hours * 60 + minutes) := by
  unfold offsetOf
  rw [wrapI64_eq hhours, wrapI64_eq hsum, wrapI64_eq hoffset]

/-
The bounds of the parser are upper bounds, and it slices the text at byte two: a text is handled exactly when
neither a sign inside its digits takes it below a day nor the slice a character apart.
-/
theorem timezone_handled_iff (timezone : Option String)
    : Handled timezone ↔ ∀ text ∈ timezone, ¬CutsCharacter (Text.trim text)
        ∧ ∀ sign hours minutes, Written (Text.trim text) sign hours minutes
          → -(23 * 60 + 59) ≤ hours * 60 + minutes := by
  constructor
  . intro h text htext
    have htimezone : timezone = some text := htext
    subst htimezone
    refine ⟨fun hcuts => h.returns (panics_iff.2 hcuts), ?_⟩
    intro sign hours minutes hwritten
    obtain ⟨hhours, hsum, hoffset⟩ := h.inRange text rfl sign hours minutes hwritten
    have hbound := h.withinDay _ hwritten.accepted
    rw [offsetOf_eq hhours hsum hoffset] at hbound
    cases hwritten.sign_eq with
    | inl hsign =>
      rw [hsign] at hbound
      omega
    | inr hsign =>
      rw [hsign] at hbound
      omega
  . intro h
    cases timezone with
    | none =>
      refine ⟨by simp [timezoneOffsetMinutes], by simp, ?_⟩
      intro offset hoffset
      cases hoffset
      decide
    | some text =>
      obtain ⟨hcuts, hlow⟩ := h text rfl
      have hrange : ∀ sign hours minutes, Written (Text.trim text) sign hours minutes
          → InI64 (hours * 60) ∧ InI64 (hours * 60 + minutes)
            ∧ InI64 (sign * (hours * 60 + minutes)) := by
        intro sign hours minutes hwritten
        have hsum := hlow sign hours minutes hwritten
        have hhours := hwritten.hours_le
        have hminutes := hwritten.minutes_le
        unfold InI64
        cases hwritten.sign_eq with
        | inl hsign =>
          rw [hsign]
          omega
        | inr hsign =>
          rw [hsign]
          omega
      refine ⟨fun hpanic => hcuts (panics_iff.1 hpanic), ?_, ?_⟩
      . intro _ htext
        cases htext
        apply hrange
      . intro offset hoffset
        obtain hzero | htaipei | ⟨sign, hours, minutes, hwritten, heq⟩ := accepted_cases hoffset
        . omega
        . omega
        . obtain ⟨hhours, hsum, hsigned⟩ := hrange sign hours minutes hwritten
          have hlow := hlow sign hours minutes hwritten
          have hhours_le := hwritten.hours_le
          have hminutes_le := hwritten.minutes_le
          rw [heq, offsetOf_eq hhours hsum hsigned]
          cases hwritten.sign_eq with
          | inl hsign =>
            rw [hsign]
            omega
          | inr hsign =>
            rw [hsign]
            omega

-- a sign inside the digits, hours whose product wraps around, and a character over the second byte
theorem timezone_not_handled
    : timezoneOffsetMinutes (some "+-9999999:00") = .ok (-599999940)
      ∧ ¬Handled (some "+-9999999:00")
      ∧ timezoneOffsetMinutes (some "+-9223372036854775808:00") = .ok 0
      ∧ ¬Handled (some "+-9223372036854775808:00")
      ∧ timezoneOffsetMinutes (some "+a€") = .error .panic
      ∧ ¬Handled (some "+a€") := by
  have hsigned : timezoneOffsetMinutes (some "+-9999999:00") = .ok (-599999940) := by decide +kernel
  have hhuge : timezoneOffsetMinutes (some "+-9223372036854775808:00") = .ok 0 := by decide +kernel
  have hpanic : timezoneOffsetMinutes (some "+a€") = .error .panic := by decide +kernel
  refine ⟨hsigned, ?_, hhuge, ?_, hpanic, ?_⟩
  . intro h
    have hbound := h.withinDay _ hsigned
    omega
  . intro h
    have hwritten : Written (Text.trim "+-9223372036854775808:00") 1 (-9223372036854775808) 0 :=
      { parts := ⟨"-9223372036854775808", "00", by decide +kernel, by decide +kernel, by decide⟩,
        hours_le := by decide, minutes_le := by decide }
    have hrange := (h.inRange _ rfl _ _ _ hwritten).1
    unfold InI64 at hrange
    omega
  . intro h
    exact h.returns hpanic

end CronScheduler
