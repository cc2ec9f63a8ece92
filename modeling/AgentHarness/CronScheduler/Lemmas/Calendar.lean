import AgentHarness.CronScheduler.Schedule
import AgentHarness.Lib.Calendar

/-!
The closed formula of the scheduler for the date of a day gives the dates of the Gregorian calendar, one
after the other.
-/

namespace CronScheduler

open Calendar

def InCivilRange (day : Int) : Prop :=
  -2 ^ 63 ≤ day + 719468 - 146096 ∧ day + 719468 < 2 ^ 63

theorem era_split {day : Int} (hlow : 0 ≤ day) (hhigh : day ≤ 146096)
    : ∃ c q s : Int, day = 36524 * c + 1461 * q + s ∧ 0 ≤ c ∧ c ≤ 3 ∧ 0 ≤ q ∧ q ≤ 24 ∧ 0 ≤ s
      ∧ s ≤ 1460 ∧ (c = 3 ∨ q ≤ 23 ∨ s ≤ 1459) := by
  obtain ⟨c, hc⟩ : ∃ c, c = day / 36524 - day / 146096 := ⟨_, rfl⟩
  obtain ⟨r, hr⟩ : ∃ r, r = day - 36524 * c := ⟨_, rfl⟩
  refine ⟨c, r / 1461, r % 1461, ?_, ?_, ?_, ?_, ?_, ?_, ?_, ?_⟩
  all_goals omega

theorem yearOfEra_eq {c q s : Int} (hc : 0 ≤ c ∧ c ≤ 3) (hq : 0 ≤ q ∧ q ≤ 24) (hs : 0 ≤ s ∧ s ≤ 1460)
    (hlast : c = 3 ∨ q ≤ 23 ∨ s ≤ 1459)
    : let day := 36524 * c + 1461 * q + s
      (day - day / 1460 + day / 36524 - day / 146096) / 365 = 100 * c + 4 * q + min (s / 365) 3 := by
  dsimp only
  obtain ⟨e, he⟩ : ∃ e, e = (24 * c + q + s) / 1460 := ⟨_, rfl⟩
  have hfirst : (36524 * c + 1461 * q + s) / 1460 = 25 * c + q + e := by omega
  have hcentury : (36524 * c + 1461 * q + s) / 36524 - (36524 * c + 1461 * q + s) / 146096 = c := by
    by_cases hend : c = 3 ∧ q = 24 ∧ s = 1460
    . obtain ⟨rfl, rfl, rfl⟩ := hend
      decide
    . have hera : (36524 * c + 1461 * q + s) / 146096 = 0 := by omega
      have hquot : (36524 * c + 1461 * q + s) / 36524 = c := by omega
      omega
  have hsum : 36524 * c + 1461 * q + s - (36524 * c + 1461 * q + s) / 1460
      + (36524 * c + 1461 * q + s) / 36524 - (36524 * c + 1461 * q + s) / 146096
      = 365 * (100 * c + 4 * q) + (s - e) := by
    omega
  rw [hsum]
  have hrest : (s - e) / 365 = min (s / 365) 3 := by omega
  omega

section

variable {era c q t : Int} (hc : 0 ≤ c ∧ c ≤ 3) (hq : 0 ≤ q ∧ q ≤ 24) (ht : 0 ≤ t ∧ t ≤ 3)
include hc hq ht

theorem marchDay_of_parts
    : marchDay (100 * c + 4 * q + t + era * 400)
        = 146097 * era + 36524 * c + 1461 * q + 365 * t := by
  have hfour : (100 * c + 4 * q + t + era * 400) / 4 = 100 * era + 25 * c + q := by omega
  have hhundred : (100 * c + 4 * q + t + era * 400) / 100 = 4 * era + c := by omega
  have hfourHundred : (100 * c + 4 * q + t + era * 400) / 400 = era := by omega
  unfold marchDay
  rw [hfour, hhundred, hfourHundred]
  omega

omit hc in
theorem marchLength_of_parts (hlast : t = 3 ∧ (c = 3 ∨ q ≤ 23))
    : marchLength (100 * c + 4 * q + t + era * 400) = 366 := by
  obtain ⟨rfl, hlast⟩ := hlast
  unfold marchLength
  rw [if_pos]
  refine ⟨by omega, ?_⟩
  cases Int.lt_or_le 23 q with
  | inl h =>
    right
    omega
  | inr h =>
    left
    omega

end

theorem tdiv_of_nonneg {a : Int} (h : 0 ≤ a) (b : Int) : a.tdiv b = a / b :=
  Int.tdiv_eq_ediv_of_nonneg h

theorem era_eq (shifted : Int)
    : (if shifted ≥ 0 then shifted else shifted - 146096).tdiv 146097 = shifted / 146097 := by
  by_cases h : shifted ≥ 0
  . rw [if_pos h, tdiv_of_nonneg h]
  . have hneg : shifted - 146096 = -(146096 - shifted) := by omega
    rw [if_neg h, hneg, Int.neg_tdiv, tdiv_of_nonneg (by omega)]
    omega

theorem civilDate_of_parts {days era day year t : Int} (h : InCivilRange days)
    (hera : days + 719468 = 146097 * era + day) (hday : 0 ≤ day ∧ day ≤ 146096)
    (hyear : (day - day / 1460 + day / 36524 - day / 146096) / 365 = year) (hpos : 0 ≤ year)
    (ht : t = day - (365 * year + year / 4 - year / 100)) (htpos : 0 ≤ t ∧ t ≤ 365)
    : civilDateFromUnixDays days = ofMarch (year + era * 400) t := by
  have hsaturate : saturateI64 (days + 719468) = days + 719468 := by
    obtain ⟨hlow, hhigh⟩ := h
    unfold saturateI64 i64Max i64Min
    omega
  have hwrap : wrapI64 (days + 719468 - 146096) = days + 719468 - 146096 := by
    obtain ⟨hlow, hhigh⟩ := h
    unfold wrapI64
    omega
  have hquot : (days + 719468) / 146097 = era := by omega
  have hrest : days + 719468 - era * 146097 = day := by omega
  have hsteps : 0 ≤ day - day / 1460 + day / 36524 - day / 146096 := by omega
  have hmonth : 0 ≤ 5 * t + 2 := by omega
  unfold civilDateFromUnixDays
  dsimp only
  rw [hsaturate, hwrap, era_eq, hquot, hrest, tdiv_of_nonneg hday.1, tdiv_of_nonneg hday.1,
    tdiv_of_nonneg hday.1, tdiv_of_nonneg hsteps, hyear, tdiv_of_nonneg hpos, tdiv_of_nonneg hpos, ← ht,
    tdiv_of_nonneg hmonth]
  unfold ofMarch monthOf marchMonth
  have hfirst : 0 ≤ 153 * ((5 * t + 2) / 153) + 2 := by omega
  dsimp only
  rw [tdiv_of_nonneg hfirst]
  clear hyear hsteps hrest hquot hwrap hsaturate ht hera h
  generalize hm : (5 * t + 2) / 153 = m at *
  have hm' : 0 ≤ m := by omega
  by_cases hlate : m < 10
  . rw [if_pos hlate, if_pos hlate, if_pos hlate, if_neg (by omega)]
  . rw [if_neg hlate, if_neg hlate, if_neg hlate]
    have hearly : m - 9 ≤ 2 := by omega
    have hmonth : m + -9 = m - 9 := rfl
    rw [hmonth, if_pos hearly]

theorem civilDate_eq {days : Int} (h : InCivilRange days)
    : ∃ year day, civilDateFromUnixDays days = ofMarch year day
        ∧ marchDay year + day = days + 719468 ∧ 0 ≤ day ∧ day < marchLength year := by
  obtain ⟨era, hera⟩ : ∃ era, (days + 719468) / 146097 = era := ⟨_, rfl⟩
  obtain ⟨day, hday⟩ : ∃ day, day = days + 719468 - era * 146097 := ⟨_, rfl⟩
  have hrange : 0 ≤ day ∧ day ≤ 146096 := by omega
  have hsum : days + 719468 = 146097 * era + day := by omega
  clear hera hday
  obtain ⟨c, q, s, rfl, hc, hc', hq, hq', hs, hs', hlast⟩ := era_split hrange.1 hrange.2
  obtain ⟨t, ht⟩ : ∃ t, min (s / 365) 3 = t := ⟨_, rfl⟩
  have ht' : 0 ≤ t ∧ t ≤ 3 := by omega
  have hmarch := @marchDay_of_parts era c q t ⟨hc, hc'⟩ ⟨hq, hq'⟩ ht'
  refine ⟨100 * c + 4 * q + t + era * 400, s - 365 * t, ?_, by omega, by omega, ?_⟩
  . have hyear := yearOfEra_eq ⟨hc, hc'⟩ ⟨hq, hq'⟩ ⟨hs, hs'⟩ hlast
    dsimp only at hyear
    rw [ht] at hyear
    apply civilDate_of_parts h hsum hrange hyear
    all_goals clear hyear
    . omega
    . have hfour : (100 * c + 4 * q + t) / 4 = 25 * c + q := by omega
      have hhundred : (100 * c + 4 * q + t) / 100 = c := by omega
      rw [hfour, hhundred]
      omega
    . omega
  . by_cases hleap : s = 1460
    . rw [marchLength_of_parts ⟨hq, hq'⟩ ht' ⟨by omega, by omega⟩]
      omega
    . have hbounds := marchLength_bounds (100 * c + 4 * q + t + era * 400)
      omega

theorem civilDate_marchDay {days year day : Int} (h : InCivilRange days)
    (hsum : marchDay year + day = days + 719468) (hday : 0 ≤ day ∧ day < marchLength year)
    : civilDateFromUnixDays days = ofMarch year day := by
  obtain ⟨year', day', hdate, hsum', hday', hlast'⟩ := civilDate_eq h
  obtain ⟨rfl, rfl⟩ := march_unique (hsum'.trans hsum.symm) ⟨hday', hlast'⟩ hday
  apply hdate

theorem exists_civilDate {month day weekday : Int} (hmonth : 1 ≤ month ∧ month ≤ 12)
    (hday : 1 ≤ day ∧ day ≤ longestMonth month) (hweekday : 0 ≤ weekday ∧ weekday ≤ 6)
    {era : Int} (hera : era = 0 ∨ era = -1)
    : ∃ days, 146097 * era ≤ days ∧ days < 146097 * (era + 1)
        ∧ (civilDateFromUnixDays days).2 = (month, day) ∧ (days + 4) % 7 = weekday := by
  -- a year further by four is five days of the week further
  obtain ⟨shift, hshift⟩ : ∃ shift, shift
      = 3 * (weekday - (marchDay 1999 + marchDate month day - 719468 + 4)) % 7 := ⟨_, rfl⟩
  obtain ⟨year, hyear⟩ : ∃ year, year = 1999 + 4 * shift + 400 * era := ⟨_, rfl⟩
  obtain ⟨hlow, hhigh, hdate⟩ := ofMarch_marchDate hmonth hday year
  have hrange : 0 ≤ shift ∧ shift ≤ 6 := by omega
  have hhundred : year / 100 = year / 400 + 15 + 3 * era := by
    by_cases hzero : shift = 0
    . have hcentury : year / 100 = 19 + 4 * era := by omega
      omega
    . have hcentury : year / 100 = 20 + 4 * era := by omega
      omega
  have hfour : year / 4 = 499 + shift + 100 * era := by omega
  have hmarch : marchDay year = 730119 + 1461 * shift + 146097 * era := by
    unfold marchDay
    omega
  have hleap : marchLength year = 366 := by
    have hyearLeap : IsLeap (year + 1) := by
      unfold IsLeap
      omega
    unfold marchLength
    rw [if_pos hyearLeap]
  have hfirst : marchDay 1999 = 730119 := by decide
  rw [hfirst] at hshift
  refine ⟨marchDay year + marchDate month day - 719468, by omega, by omega, ?_, by omega⟩
  rw [@civilDate_marchDay _ year (marchDate month day) ?_ (by omega) (by omega), hdate]
  unfold InCivilRange
  omega

theorem civilDate_next {days : Int} (h : InCivilRange days) (hnext : InCivilRange (days + 1))
    : civilDateFromUnixDays (days + 1) = next (civilDateFromUnixDays days) := by
  obtain ⟨year, day, hdate, hsum, hday, hlast⟩ := civilDate_eq h
  obtain ⟨year', day', hdate', hsum', hday', hlast'⟩ := civilDate_eq hnext
  rw [hdate, hdate']
  by_cases hend : day + 1 < marchLength year
  . obtain ⟨rfl, rfl⟩ := march_unique (by omega : marchDay year' + day' = marchDay year + (day + 1))
      ⟨hday', hlast'⟩ ⟨by omega, hend⟩
    apply (next_ofMarch hday hend).symm
  . have hsucc := marchDay_succ year
    have hbounds := marchLength_bounds (year + 1)
    obtain ⟨rfl, rfl⟩ := march_unique (by omega : marchDay year' + day' = marchDay (year + 1) + 0)
      ⟨hday', hlast'⟩ ⟨by omega, by omega⟩
    apply (next_ofMarch_last (by omega)).symm

/-
Every day has a date, the epoch has its own, and the next day has the next date.
-/
theorem civilDate_correct {days : Int} (h : InCivilRange days)
    : civilDateFromUnixDays 0 = (1970, 1, 1)
      ∧ IsDate (civilDateFromUnixDays days)
      ∧ (InCivilRange (days + 1)
        → civilDateFromUnixDays (days + 1) = next (civilDateFromUnixDays days)) := by
  refine ⟨by decide, ?_, civilDate_next h⟩
  obtain ⟨year, day, hdate, _, hday, hlast⟩ := civilDate_eq h
  rw [hdate]
  apply isDate_ofMarch hday hlast

theorem civilDate_correct_sample
    : InCivilRange 11015 ∧ civilDateFromUnixDays 11016 = next (2000, 2, 28)
      ∧ next (2000, 2, 28) = (2000, 2, 29) := by
  have hrange : InCivilRange 11015 ∧ InCivilRange (11015 + 1) := by
    unfold InCivilRange
    omega
  have hdate : civilDateFromUnixDays 11015 = (2000, 2, 28) := by decide
  have hnext := (civilDate_correct hrange.1).2.2 hrange.2
  rw [hdate] at hnext
  exact ⟨hrange.1, hnext, by decide⟩

end CronScheduler
