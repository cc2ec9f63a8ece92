import Mathlib.Data.Nat.Notation

/-!
The proleptic Gregorian calendar: its dates, the date after each, and the years that start in March,
whose leap day is the last one.
-/

namespace Calendar

def IsLeap (year : Int) : Prop :=
  year % 4 = 0 ∧ (year % 100 ≠ 0 ∨ year % 400 = 0)

instance (year : Int) : Decidable (IsLeap year) :=
  inferInstanceAs (Decidable (_ ∧ _))

def monthLength (year month : Int) : Int :=
  if month = 2 then
    if IsLeap year then 29 else 28
  else if month = 4 ∨ month = 6 ∨ month = 9 ∨ month = 11 then
    30
  else
    31

def longestMonth (month : Int) : Int :=
  if month = 2 then
    29
  else if month = 4 ∨ month = 6 ∨ month = 9 ∨ month = 11 then
    30
  else
    31

theorem monthLength_le (year month : Int) : monthLength year month ≤ longestMonth month := by
  unfold monthLength longestMonth
  split
  . split
    . omega
    . omega
  . omega

abbrev Date := Int × Int × Int

def IsDate (date : Date) : Prop :=
  1 ≤ date.2.1 ∧ date.2.1 ≤ 12 ∧ 1 ≤ date.2.2 ∧ date.2.2 ≤ monthLength date.1 date.2.1

def next (date : Date) : Date :=
  let (year, month, day) := date
  if day < monthLength year month then
    (year, month, day + 1)
  else if month < 12 then
    (year, month + 1, 1)
  else
    (year + 1, 1, 1)

def marchDay (year : Int) : Int :=
  365 * year + year / 4 - year / 100 + year / 400

def marchLength (year : Int) : Int :=
  if IsLeap (year + 1) then 366 else 365

theorem marchDay_succ (year : Int) : marchDay (year + 1) = marchDay year + marchLength year := by
  unfold marchDay marchLength
  by_cases h : IsLeap (year + 1)
  . rw [if_pos h]
    unfold IsLeap at h
    omega
  . rw [if_neg h]
    unfold IsLeap at h
    omega

theorem marchDay_mono {first last : Int} (h : first ≤ last) : marchDay first ≤ marchDay last := by
  unfold marchDay
  omega

theorem march_unique {year day year' day' : Int} (h : marchDay year + day = marchDay year' + day')
    (hday : 0 ≤ day ∧ day < marchLength year) (hday' : 0 ≤ day' ∧ day' < marchLength year')
    : year = year' ∧ day = day' := by
  have hsucc := marchDay_succ year
  have hsucc' := marchDay_succ year'
  have hyear : year = year' := by
    apply Int.le_antisymm
    . apply Int.not_lt.mp
      intro hlt
      have hmono := @marchDay_mono (year' + 1) year (by omega)
      omega
    . apply Int.not_lt.mp
      intro hlt
      have hmono := @marchDay_mono (year + 1) year' (by omega)
      omega
  subst hyear
  omega

theorem marchLength_bounds (year : Int) : 365 ≤ marchLength year ∧ marchLength year ≤ 366 := by
  unfold marchLength
  split
  . omega
  . omega

def marchMonth (month : Int) : Int :=
  (153 * month + 2) / 5

def monthOf (month : Int) : Int :=
  if month < 10 then month + 3 else month - 9

def ofMarch (year day : Int) : Date :=
  let month := (5 * day + 2) / 153
  (if month < 10 then year else year + 1, monthOf month, day - marchMonth month + 1)

theorem month_spec {day month : Int}
    : (5 * day + 2) / 153 = month ↔ marchMonth month ≤ day ∧ day < marchMonth (month + 1) := by
  unfold marchMonth
  omega

theorem monthLength_monthOf {month : Int} (hlow : 0 ≤ month) (hhigh : month ≤ 10) (year : Int)
    : monthLength year (monthOf month) = marchMonth (month + 1) - marchMonth month := by
  have hcases : month = 0 ∨ month = 1 ∨ month = 2 ∨ month = 3 ∨ month = 4 ∨ month = 5 ∨ month = 6
      ∨ month = 7 ∨ month = 8 ∨ month = 9 ∨ month = 10 := by
    omega
  rcases hcases with rfl | rfl | rfl | rfl | rfl | rfl | rfl | rfl | rfl | rfl | rfl
  all_goals simp [monthLength, monthOf, marchMonth]

theorem monthLength_february (year : Int)
    : monthLength (year + 1) (monthOf 11) = marchLength year - marchMonth 11 := by
  have hmonth : monthOf 11 = 2 := by decide
  have hfirst : marchMonth 11 = 337 := by decide
  rw [hmonth, hfirst]
  unfold monthLength marchLength
  rw [if_pos rfl]
  split
  . rfl
  . rfl

section

variable {year day : Int} (hday : 0 ≤ day)
include hday

theorem isDate_ofMarch (hlast : day < marchLength year) : IsDate (ofMarch year day) := by
  have hbounds := marchLength_bounds year
  obtain ⟨month, hmonth⟩ : ∃ month, (5 * day + 2) / 153 = month := ⟨_, rfl⟩
  have hspec := (month_spec).mp hmonth
  have hrange : 0 ≤ month ∧ month ≤ 11 := by omega
  unfold IsDate ofMarch
  dsimp only
  rw [hmonth]
  have hof : 1 ≤ monthOf month ∧ monthOf month ≤ 12 := by
    unfold monthOf
    omega
  refine ⟨hof.1, hof.2, by omega, ?_⟩
  by_cases hfebruary : month = 11
  . subst hfebruary
    rw [if_neg (by omega), monthLength_february]
    omega
  . rw [monthLength_monthOf hrange.1 (by omega)]
    omega

theorem next_ofMarch (hlast : day + 1 < marchLength year)
    : next (ofMarch year day) = ofMarch year (day + 1) := by
  have hbounds := marchLength_bounds year
  obtain ⟨month, hmonth⟩ : ∃ month, (5 * day + 2) / 153 = month := ⟨_, rfl⟩
  have hspec := month_spec.mp hmonth
  have hrange : 0 ≤ month ∧ month ≤ 11 := by omega
  by_cases hsame : day + 1 < marchMonth (month + 1)
  . -- within a month
    have hnext : (5 * (day + 1) + 2) / 153 = month := month_spec.mpr ⟨by omega, hsame⟩
    have hinside : day - marchMonth month + 1
        < monthLength (if month < 10 then year else year + 1) (monthOf month) := by
      by_cases hfebruary : month = 11
      . subst hfebruary
        rw [if_neg (by omega), monthLength_february]
        omega
      . rw [monthLength_monthOf hrange.1 (by omega)]
        omega
    unfold next ofMarch
    dsimp only
    rw [hmonth, hnext, if_pos hinside]
    congr 2
    omega
  . -- the first day of the next month
    have hearly : month ≤ 10 := by
      apply Int.not_lt.mp
      intro hlate
      obtain rfl : month = 11 := by omega
      have hfirst : marchMonth (11 + 1) = 367 := by decide
      omega
    have hfirst : marchMonth (month + 1) ≤ day + 1 := by omega
    have hlong : day + 1 < marchMonth (month + 1 + 1) := by
      unfold marchMonth at hspec ⊢
      omega
    have hnext : (5 * (day + 1) + 2) / 153 = month + 1 := month_spec.mpr ⟨hfirst, hlong⟩
    unfold next ofMarch
    dsimp only
    rw [hmonth, hnext, if_neg]
    . have hcases : month < 9 ∨ month = 9 ∨ month = 10 := by omega
      rcases hcases with hautumn | rfl | rfl
      . have hmonthOf : monthOf month = month + 3 := if_pos (by omega)
        have hmonthOf' : monthOf (month + 1) = month + 1 + 3 := if_pos (by omega)
        rw [hmonthOf, hmonthOf', if_pos (by omega), if_pos (by omega), if_pos (by omega)]
        simp only [Prod.mk.injEq, true_and]
        omega
      . simp only [Int.reduceAdd] at hspec hfirst
        simp [monthOf]
        omega
      . simp only [Int.reduceAdd] at hspec hfirst
        simp [monthOf]
        omega
    . rw [monthLength_monthOf hrange.1 hearly]
      omega

omit hday in
theorem next_ofMarch_last (hlast : day + 1 = marchLength year)
    : next (ofMarch year day) = ofMarch (year + 1) 0 := by
  have hbounds := marchLength_bounds year
  have hfirst : marchMonth 11 = 337 := by decide
  have hmonth : (5 * day + 2) / 153 = 11 := by omega
  have hlength := monthLength_february year
  unfold next ofMarch
  dsimp only
  rw [hmonth, if_neg (by omega : ¬(11 : Int) < 10), if_neg (by omega)]
  simp [monthOf, marchMonth]

end

theorem longestMonth_monthOf {index : Int} (hlow : 0 ≤ index) (hhigh : index ≤ 11)
    : longestMonth (monthOf index) ≤ marchMonth (index + 1) - marchMonth index
        ∧ marchMonth index + longestMonth (monthOf index) ≤ 366 ∧ 0 ≤ marchMonth index := by
  have hcases : index = 0 ∨ index = 1 ∨ index = 2 ∨ index = 3 ∨ index = 4 ∨ index = 5 ∨ index = 6
      ∨ index = 7 ∨ index = 8 ∨ index = 9 ∨ index = 10 ∨ index = 11 := by
    omega
  rcases hcases with rfl | rfl | rfl | rfl | rfl | rfl | rfl | rfl | rfl | rfl | rfl | rfl
  all_goals simp [longestMonth, monthOf, marchMonth]

theorem monthOf_index {month : Int} (hmonth : 1 ≤ month ∧ month ≤ 12)
    : monthOf ((month + 9) % 12) = month := by
  unfold monthOf
  split
  . omega
  . omega

def marchDate (month day : Int) : Int :=
  marchMonth ((month + 9) % 12) + day - 1

theorem ofMarch_marchDate {month day : Int} (hmonth : 1 ≤ month ∧ month ≤ 12)
    (hday : 1 ≤ day ∧ day ≤ longestMonth month) (year : Int)
    : 0 ≤ marchDate month day ∧ marchDate month day ≤ 365
      ∧ (ofMarch year (marchDate month day)).2 = (month, day) := by
  obtain ⟨index, hindex⟩ : ∃ index, (month + 9) % 12 = index := ⟨_, rfl⟩
  have hbounds := @longestMonth_monthOf index (by omega) (by omega)
  have hmonthOf := monthOf_index hmonth
  rw [hindex] at hmonthOf
  rw [hmonthOf] at hbounds
  have hmarch : marchDate month day = marchMonth index + day - 1 := by
    unfold marchDate
    rw [hindex]
  have hspec : (5 * marchDate month day + 2) / 153 = index := by
    rw [month_spec]
    omega
  refine ⟨by omega, by omega, ?_⟩
  unfold ofMarch
  dsimp only
  rw [hspec, hmonthOf, Prod.mk.injEq]
  omega

end Calendar
