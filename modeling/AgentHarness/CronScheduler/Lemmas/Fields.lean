import AgentHarness.CronScheduler.Schedule

/-!
What the fields of a cron expression denote.
-/

namespace CronScheduler

-- A number of the notation as it is written, with leading zeros where the author put them.
structure Numeral where
  digits : List Char
  digits_ne_nil : digits ≠ []
  isDigit : ∀ ch ∈ digits, ch.isDigit
  deriving DecidableEq

namespace Numeral

def value (n : Numeral) : Int :=
  Text.digitsValue n.digits

theorem value_nonneg (n : Numeral) : 0 ≤ n.value :=
  Int.natCast_nonneg _

theorem not_mem_digits (n : Numeral) (ch : Char) (hch : ¬ch.isDigit) : ch ∉ n.digits :=
  fun hmem => hch (n.isDigit ch hmem)

theorem parseI64_eq (n : Numeral) (hvalue : n.value < 2 ^ 63)
    : Text.parseI64 (String.ofList n.digits) = some n.value := by
  have hparse : Text.parseI64.parse n.digits id = some n.value := by
    have hdigits : n.digits.all Char.isDigit = true := List.all_eq_true.mpr n.isDigit
    have hlow : -2 ^ 63 ≤ n.value := by
      have hnonneg := n.value_nonneg
      omega
    have hfits : (decide (-2 ^ 63 ≤ n.value) && decide (n.value < 2 ^ 63)) = true := by
      rw [Bool.and_eq_true, decide_eq_true_iff, decide_eq_true_iff]
      exact ⟨hlow, hvalue⟩
    unfold Text.parseI64.parse
    rw [if_neg (by simp [hdigits, n.digits_ne_nil])]
    apply if_pos hfits
  unfold Text.parseI64
  rw [String.toList_ofList]
  split
  . next digits hsplit =>
    have hsign := n.isDigit '-' (by simp [hsplit])
    exact absurd hsign (by decide)
  . next digits hsplit =>
    have hsign := n.isDigit '+' (by simp [hsplit])
    exact absurd hsign (by decide)
  . exact hparse

theorem parseRangeValue_eq (n : Numeral) {min max : Int} (hmax : max < 2 ^ 63)
    (hmin : min ≤ n.value) (hvalue : n.value ≤ max)
    : parseRangeValue (String.ofList n.digits) min max = .ok n.value := by
  unfold parseRangeValue
  rw [n.parseI64_eq (by omega)]
  dsimp only
  rw [if_neg (by omega)]

end Numeral

inductive CronPart where
  | any
  | exact (n : Numeral)
  | range (first last : Numeral)
  | anyStep (step : Numeral)
  | rangeStep (first last step : Numeral)
  | exactStep (n step : Numeral)
  deriving DecidableEq

namespace CronPart

def text (part : CronPart) : List Char :=
  match part with
  | any => ['*']
  | exact n => n.digits
  | range first last => first.digits ++ '-' :: last.digits
  | anyStep step => '*' :: '/' :: step.digits
  | rangeStep first last step => first.digits ++ '-' :: last.digits ++ '/' :: step.digits
  | exactStep n step => n.digits ++ '/' :: step.digits

/-
The numbers are in the range of the field, and steps are positive: the step of `*/s` is read as a value
of the field, the others as a number from 1 to the maximum.
-/
def InRange (part : CronPart) (min max : Int) : Prop :=
  match part with
  | any => True
  | exact n => min ≤ n.value ∧ n.value ≤ max
  | range first last =>
    (min ≤ first.value ∧ first.value ≤ max) ∧ min ≤ last.value ∧ last.value ≤ max
  | anyStep step => 0 < step.value ∧ min ≤ step.value ∧ step.value ≤ max
  | rangeStep first last step =>
    (min ≤ first.value ∧ first.value ≤ max) ∧ (min ≤ last.value ∧ last.value ≤ max)
      ∧ 1 ≤ step.value ∧ step.value ≤ max
  | exactStep n step =>
    (min ≤ n.value ∧ n.value ≤ max) ∧ 1 ≤ step.value ∧ step.value ≤ max

instance (part : CronPart) (min max : Int) : Decidable (part.InRange min max) := by
  cases part <;> unfold InRange <;> infer_instance

def Stepped (first step value : Int) : Prop :=
  ∃ k : Nat, value = first + k * step

-- The set of values a part stands for, in a field whose values start at `min`.
def Denotes (part : CronPart) (min value : Int) : Prop :=
  match part with
  | any => True
  | exact n => value = n.value
  | range first last => first.value ≤ value ∧ value ≤ last.value
  | anyStep step => Stepped min step.value value
  | rangeStep first last step => Stepped first.value step.value value ∧ value ≤ last.value
  | exactStep n step => Stepped n.value step.value value

def Matched (part : CronPart) (min value : Int) : Prop :=
  match part with
  | any => False
  | exactStep n _ => value = n.value
  | part => part.Denotes min value

def ReachedByStep (part : CronPart) (value : Int) : Prop :=
  match part with
  | exactStep n _ => value ≠ n.value
  | _ => False

theorem stepped_iff {first step value : Int} (hstep : 0 < step) (hfirst : first ≤ value)
    : Stepped first step value ↔ (value - first).tmod step = 0 := by
  rw [← Int.dvd_iff_tmod_eq_zero]
  constructor
  . rintro ⟨k, rfl⟩
    exact ⟨k, by rw [Int.mul_comm]; omega⟩
  . rintro ⟨k, hk⟩
    have hnonneg : 0 ≤ k := by
      have hproduct : 0 ≤ step * k := by omega
      exact Int.nonneg_of_mul_nonneg_right hproduct hstep
    refine ⟨k.toNat, ?_⟩
    rw [Int.toNat_of_nonneg hnonneg, Int.mul_comm]
    omega

theorem le_of_stepped {first step value : Int} (hstep : 0 < step) (h : Stepped first step value)
    : first ≤ value := by
  obtain ⟨k, rfl⟩ := h
  have hnonneg : 0 ≤ (k : Int) * step := Int.mul_nonneg (Int.natCast_nonneg k) (by omega)
  omega

theorem matched_iff {part : CronPart} {min value : Int} (hpart : part ≠ any)
    : part.Matched min value ↔ part.Denotes min value ∧ ¬part.ReachedByStep value := by
  cases part with
  | any => exact absurd rfl hpart
  | exactStep n step =>
    dsimp only [Matched, Denotes, ReachedByStep]
    rw [not_not, iff_and_self]
    rintro rfl
    exact ⟨0, by simp⟩
  | exact n => simp [Matched, ReachedByStep]
  | range first last => simp [Matched, ReachedByStep]
  | anyStep step => simp [Matched, ReachedByStep]
  | rangeStep first last step => simp [Matched, ReachedByStep]

theorem not_mem_text (part : CronPart) (ch : Char) (hdigit : ¬ch.isDigit)
    (hsign : ch ∉ ['*', '-', '/'])
    : ch ∉ part.text := by
  have hdigits : ∀ n : Numeral, ch ∉ n.digits := fun n => n.not_mem_digits ch hdigit
  simp only [List.mem_cons, List.not_mem_nil, or_false, not_or] at hsign
  cases part <;> simp [text, hdigits, hsign]

theorem eq_any_of_text {part : CronPart} (h : part.text = ['*']) : part = any := by
  have hstar : ∀ ch ∈ part.text, ch = '*' := by simp [h]
  cases part with
  | any => rfl
  | exact n =>
    have hmem : '*' ∈ n.digits := by
      show '*' ∈ (exact n).text
      simp [h]
    exact absurd hmem (n.not_mem_digits '*' (by decide))
  | range first last => exact absurd (hstar '-' (by simp [text])) (by decide)
  | anyStep step => exact absurd (hstar '/' (by simp [text])) (by decide)
  | rangeStep first last step => exact absurd (hstar '/' (by simp [text])) (by decide)
  | exactStep n step => exact absurd (hstar '/' (by simp [text])) (by decide)

end CronPart

theorem splitOnce_of_not_mem {separator : Char} {chars : List Char} (h : separator ∉ chars)
    : splitOnce separator (String.ofList chars) = none := by
  unfold splitOnce
  rw [String.toList_ofList, if_neg h]

theorem splitOnce_append {separator : Char} {left : List Char} (right : List Char)
    (h : separator ∉ left)
    : splitOnce separator (String.ofList (left ++ separator :: right))
        = some (String.ofList left, String.ofList right) := by
  have hleft : (left ++ separator :: right).takeWhile (· ≠ separator) = left := by
    rw [List.takeWhile_append_of_pos]
    . simp
    . intro ch hch
      have hne : ch ≠ separator := by
        rintro rfl
        exact h hch
      simpa using hne
  have hright : (left ++ separator :: right).drop (left.length + 1) = right := by
    rw [← List.drop_drop]
    simp
  unfold splitOnce
  rw [String.toList_ofList, if_pos (by simp)]
  dsimp only
  rw [hleft, hright]

theorem dropLead_star_of_digits {chars : List Char} (h : '*' ∉ chars)
    : Text.dropLead "*/" (String.ofList chars) = none := by
  have hchars : (String.ofList chars).toList = chars := String.toList_ofList
  unfold Text.dropLead
  rw [hchars, if_neg]
  intro hlead
  rw [List.isPrefixOf_iff_prefix] at hlead
  have hstar : '*' ∈ "*/".toList := by decide
  exact h (hlead.subset hstar)

section

variable {min max value : Int}

def Answers (answer : Read Bool) (p : Prop) : Prop :=
  ∃ b : Bool, answer = .ok b ∧ (b = true ↔ p)

theorem matchesCronRange_exact (n : Numeral) (step : Option Int) (hmax : max < 2 ^ 63)
    (hn : min ≤ n.value ∧ n.value ≤ max)
    : Answers (matchesCronRange (String.ofList n.digits) step value min max) (value = n.value) := by
  unfold matchesCronRange
  rw [splitOnce_of_not_mem (n.not_mem_digits _ (by decide))]
  dsimp only
  rw [n.parseRangeValue_eq hmax hn.1 hn.2]
  refine ⟨decide (value = n.value), rfl, ?_⟩
  rw [decide_eq_true_iff]

theorem matchesCronRange_range (value : Int) (first last : Numeral) (step : Option Int) (hmax : max < 2 ^ 63)
    (hfirst : min ≤ first.value ∧ first.value ≤ max)
    (hlast : min ≤ last.value ∧ last.value ≤ max)
    : Answers
        (matchesCronRange (String.ofList (first.digits ++ '-' :: last.digits)) step value min max)
        ((first.value ≤ value ∧ value ≤ last.value)
          ∧ ∀ s ∈ step, 0 < s ∧ (value - first.value).tmod s = 0) := by
  unfold matchesCronRange
  rw [splitOnce_append _ (first.not_mem_digits _ (by decide))]
  dsimp only
  rw [first.parseRangeValue_eq hmax hfirst.1 hfirst.2]
  dsimp only [bind, Except.bind]
  rw [last.parseRangeValue_eq hmax hlast.1 hlast.2]
  dsimp only
  split
  . next hout =>
    refine ⟨false, rfl, ?_⟩
    simp only [Bool.false_eq_true, false_iff]
    intro hin
    omega
  . next hin =>
    refine ⟨_, rfl, ?_⟩
    have hbounds : first.value ≤ value ∧ value ≤ last.value := by omega
    cases step with
    | none => simp [hbounds]
    | some s => simp [hbounds]

theorem matchesCronPart_any : ∃ error, matchesCronPart "*" value min max = .error error :=
  ⟨_, rfl⟩

theorem matchesCronPart_eq {part : CronPart} (hmax : max < 2 ^ 63) (hvalue : min ≤ value)
    (hrange : part.InRange min max) (hpart : part ≠ .any)
    : Answers (matchesCronPart (String.ofList part.text) value min max)
        (part.Matched min value) := by
  unfold matchesCronPart
  cases part with
  | any => exact absurd rfl hpart
  | exact n =>
    dsimp only [CronPart.text]
    rw [dropLead_star_of_digits (n.not_mem_digits _ (by decide))]
    dsimp only
    rw [splitOnce_of_not_mem (n.not_mem_digits _ (by decide))]
    apply matchesCronRange_exact n none hmax hrange
  | range first last =>
    have hplain : ∀ ch : Char, ¬ch.isDigit → ch ≠ '-' → ch ∉ first.digits ++ '-' :: last.digits := by
      intro ch hdigit hdash
      simp [first.not_mem_digits ch hdigit, last.not_mem_digits ch hdigit, hdash]
    dsimp only [CronPart.text]
    rw [dropLead_star_of_digits (hplain '*' (by decide) (by decide))]
    dsimp only
    rw [splitOnce_of_not_mem (hplain '/' (by decide) (by decide))]
    obtain ⟨b, hb, hiff⟩ := matchesCronRange_range value first last none hmax hrange.1 hrange.2
    refine ⟨b, hb, ?_⟩
    rw [hiff]
    simp [CronPart.Matched, CronPart.Denotes]
  | anyStep step =>
    obtain ⟨hstep, hlow, hhigh⟩ := hrange
    have hchars : (String.ofList ('*' :: '/' :: step.digits)).toList = '*' :: '/' :: step.digits :=
      String.toList_ofList
    have hlead : Text.dropLead "*/" (String.ofList ('*' :: '/' :: step.digits))
        = some (String.ofList step.digits) := by
      unfold Text.dropLead
      rw [hchars, if_pos (by simp [List.isPrefixOf])]
      rfl
    dsimp only [CronPart.text]
    rw [hlead]
    dsimp only [bind, Except.bind]
    rw [step.parseRangeValue_eq hmax hlow hhigh]
    refine ⟨_, rfl, ?_⟩
    show _ ↔ CronPart.Stepped min step.value value
    rw [CronPart.stepped_iff hstep hvalue]
    simp [hstep]
  | rangeStep first last step =>
    obtain ⟨hfirst, hlast, hlow, hhigh⟩ := hrange
    have hplain : ∀ ch : Char, ¬ch.isDigit → ch ≠ '-' → ch ∉ first.digits ++ '-' :: last.digits := by
      intro ch hdigit hdash
      simp [first.not_mem_digits ch hdigit, last.not_mem_digits ch hdigit, hdash]
    have hstar : '*' ∉ first.digits ++ '-' :: last.digits ++ '/' :: step.digits := by
      simp [first.not_mem_digits '*' (by decide),
        last.not_mem_digits '*' (by decide), step.not_mem_digits '*' (by decide)]
    dsimp only [CronPart.text]
    rw [dropLead_star_of_digits hstar]
    dsimp only
    rw [splitOnce_append _ (hplain '/' (by decide) (by decide))]
    dsimp only [bind, Except.bind]
    rw [step.parseRangeValue_eq hmax hlow hhigh]
    obtain ⟨b, hb, hiff⟩ :=
      matchesCronRange_range value first last (some step.value) hmax hfirst hlast
    refine ⟨b, hb, ?_⟩
    rw [hiff]
    show _ ↔ CronPart.Stepped first.value step.value value ∧ value ≤ last.value
    constructor
    . rintro ⟨⟨hfrom, hto⟩, hstep⟩
      have hstep := hstep _ rfl
      exact ⟨(CronPart.stepped_iff hstep.1 hfrom).mpr hstep.2, hto⟩
    . rintro ⟨hstepped, hto⟩
      have hfrom := CronPart.le_of_stepped (by omega) hstepped
      refine ⟨⟨hfrom, hto⟩, ?_⟩
      rintro s ⟨⟩
      exact ⟨by omega, (CronPart.stepped_iff (by omega) hfrom).mp hstepped⟩
  | exactStep n step =>
    obtain ⟨hn, hlow, hhigh⟩ := hrange
    have hstar : '*' ∉ n.digits ++ '/' :: step.digits := by
      simp [n.not_mem_digits '*' (by decide), step.not_mem_digits '*' (by decide)]
    dsimp only [CronPart.text]
    rw [dropLead_star_of_digits hstar]
    dsimp only
    rw [splitOnce_append _ (n.not_mem_digits _ (by decide))]
    dsimp only [bind, Except.bind]
    rw [step.parseRangeValue_eq hmax hlow hhigh]
    apply matchesCronRange_exact n (some step.value) hmax hn

variable {parts : List CronPart}

theorem matchesAnyPart_iff (hmax : max < 2 ^ 63) (hvalue : min ≤ value)
    (hrange : ∀ part ∈ parts, part.InRange min max)
    : matchesAnyPart value min max (parts.map fun part => String.ofList part.text) = .ok true
        ↔ ∃ part ∈ parts.takeWhile (· ≠ .any), part.Matched min value := by
  induction parts with
  | nil => simp [matchesAnyPart]
  | cons part parts ih =>
    have ih := ih fun part hpart => hrange part (List.mem_cons_of_mem _ hpart)
    rw [List.map_cons]
    unfold matchesAnyPart
    by_cases hpart : part = .any
    . -- a star among other parts ends the matching with an error
      subst hpart
      obtain ⟨error, herror⟩ : ∃ error, matchesCronPart "*" value min max = .error error :=
        matchesCronPart_any
      have hstar : String.ofList CronPart.any.text = "*" := rfl
      rw [hstar, herror]
      simp [bind, Except.bind]
    . obtain ⟨b, hb, hiff⟩ :=
        matchesCronPart_eq hmax hvalue (hrange part List.mem_cons_self) hpart
      rw [hb, List.takeWhile_cons_of_pos (by simpa using hpart)]
      simp only [List.mem_cons, exists_eq_or_imp, ← hiff]
      cases b with
      | true => simp [bind, Except.bind, pure, Except.pure]
      | false => simpa [bind, Except.bind] using ih

def fieldText (parts : List CronPart) : String :=
  String.ofList ([','].intercalate (parts.map CronPart.text))

theorem splitOn_fieldText (hparts : parts ≠ [])
    : Text.splitOn ',' (fieldText parts) = parts.map fun part => String.ofList part.text := by
  have hplain : ∀ chars ∈ parts.map CronPart.text, ',' ∉ chars := by
    intro chars hchars
    obtain ⟨part, _, rfl⟩ := List.mem_map.mp hchars
    exact part.not_mem_text ',' (by decide) (by decide)
  unfold Text.splitOn fieldText
  rw [String.toList_ofList, List.splitOn_intercalate _ hplain (by simpa using hparts),
    List.map_map]
  rfl

theorem isWildcard_fieldText (hparts : parts ≠ [])
    : isWildcard (fieldText parts) = true ↔ parts = [.any] := by
  -- a field of one character is a list of one part
  have hsingle : ∀ ch : Char, ch ≠ ',' → fieldText parts = String.ofList [ch]
      → ∃ part : CronPart, parts = [part] ∧ part.text = [ch] := by
    intro ch hcomma hfield
    have hsplit := splitOn_fieldText hparts
    have hone : Text.splitOn ',' (String.ofList [ch]) = [String.ofList [ch]] := by
      have hsplit : ([','].intercalate [[ch]]).splitOn ',' = [[ch]] :=
        List.splitOn_intercalate _ (by simpa using hcomma.symm) (by simp)
      unfold Text.splitOn
      rw [String.toList_ofList]
      exact congrArg (List.map String.ofList) hsplit
    rw [hfield, hone] at hsplit
    cases parts with
    | nil => exact absurd rfl hparts
    | cons part rest =>
      cases rest with
      | cons other rest => simp at hsplit
      | nil => exact ⟨part, rfl, (String.ofList_injective (List.cons.inj hsplit).1).symm⟩
  unfold isWildcard
  rw [Bool.or_eq_true, decide_eq_true_iff, decide_eq_true_iff]
  constructor
  . rintro (hstar | hquestion)
    . obtain ⟨part, rfl, htext⟩ := hsingle '*' (by decide) hstar
      rw [CronPart.eq_any_of_text htext]
    . obtain ⟨part, rfl, htext⟩ := hsingle '?' (by decide) hquestion
      have habsent := part.not_mem_text '?' (by decide) (by decide)
      rw [htext] at habsent
      exact absurd List.mem_cons_self habsent
  . rintro rfl
    exact .inl rfl

/-
The field is a star alone, or a value it denotes is denoted by a part before every star, and not by the
step of an `n/s`.
-/
def ReadInFull (parts : List CronPart) (min value : Int) : Prop :=
  parts = [.any]
    ∨ ((∃ part ∈ parts, part.Denotes min value)
      → ∃ part ∈ parts.takeWhile (· ≠ .any),
          part.Denotes min value ∧ ¬part.ReachedByStep value)

theorem matchesCronField_iff (hparts : parts ≠ []) (hmax : max < 2 ^ 63) (hvalue : min ≤ value)
    (hrange : ∀ part ∈ parts, part.InRange min max)
    : matchesCronField (fieldText parts) value min max = .ok true
        ↔ parts = [.any]
          ∨ ∃ part ∈ parts.takeWhile (· ≠ .any),
              part.Denotes min value ∧ ¬part.ReachedByStep value := by
  have hmatched : (∃ part ∈ parts.takeWhile (· ≠ .any), part.Matched min value)
      ↔ ∃ part ∈ parts.takeWhile (· ≠ .any),
          part.Denotes min value ∧ ¬part.ReachedByStep value := by
    refine exists_congr fun part => and_congr_right fun hmem => CronPart.matched_iff ?_
    simpa using List.all_eq_true.mp List.all_takeWhile part hmem
  unfold matchesCronField
  by_cases hstar : parts = [.any]
  . rw [if_pos ((isWildcard_fieldText hparts).mpr hstar)]
    simp [hstar]
  . have hwild : ¬isWildcard (fieldText parts) = true := by
      rw [isWildcard_fieldText hparts]
      exact hstar
    rw [if_neg hwild, splitOn_fieldText hparts, matchesAnyPart_iff hmax hvalue hrange, hmatched]
    simp [hstar]

/-
The matcher accepts a value exactly if the field denotes it, for exactly the fields and values that are
read in full.
-/
theorem matches_iff_denotes_iff {parts : List CronPart} (hparts : parts ≠ [])
    (hmax : max < 2 ^ 63) (hvalue : min ≤ value ∧ value ≤ max)
    (hrange : ∀ part ∈ parts, part.InRange min max)
    : (matchesCronField (fieldText parts) value min max = .ok true
        ↔ ∃ part ∈ parts, part.Denotes min value)
      ↔ ReadInFull parts min value := by
  rw [matchesCronField_iff hparts hmax hvalue.1 hrange]
  unfold ReadInFull
  constructor
  . rintro hiff
    by_cases hstar : parts = [.any]
    . exact .inl hstar
    . right
      intro hdenoted
      exact (hiff.mpr hdenoted).resolve_left hstar
  . rintro (rfl | hread)
    . simp [CronPart.Denotes]
    . constructor
      . rintro (rfl | ⟨part, hmem, hdenotes, _⟩)
        . exact ⟨.any, List.mem_cons_self, trivial⟩
        . exact ⟨part, (List.takeWhile_sublist _).subset hmem, hdenotes⟩
      . intro hdenoted
        exact .inr (hread hdenoted)

def fifth : Numeral where
  digits := ['5']
  digits_ne_nil := by simp
  isDigit := by simp [Char.isDigit]

def fifteenth : Numeral where
  digits := ['1', '5']
  digits_ne_nil := by simp
  isDigit := by simp [Char.isDigit]

-- `5/15` is minute 20 as well, and the matcher takes it for minute 5 alone
theorem twenty_not_matched
    : (∀ part ∈ [CronPart.exactStep fifth fifteenth], part.InRange 0 59)
      ∧ fieldText [.exactStep fifth fifteenth] = "5/15"
      ∧ matchesCronField "5/15" 20 0 59 = .ok false
      ∧ ∃ part ∈ [CronPart.exactStep fifth fifteenth], part.Denotes 0 20 := by
  refine ⟨by decide, by decide, by decide, ?_⟩
  refine ⟨_, List.mem_cons_self, 1, ?_⟩
  decide

theorem matches_iff_denotes_iff_sample
    : (∀ part ∈ [CronPart.exactStep fifth fifteenth], part.InRange 0 59)
      ∧ ((matchesCronField (fieldText [.exactStep fifth fifteenth]) 20 0 59 = .ok true
          ↔ ∃ part ∈ [CronPart.exactStep fifth fifteenth], part.Denotes 0 20)
        ↔ ReadInFull [.exactStep fifth fifteenth] 0 20) := by
  have hrange : ∀ part ∈ [CronPart.exactStep fifth fifteenth], part.InRange 0 59 := by decide
  exact ⟨hrange, matches_iff_denotes_iff (by simp) (by decide) (by decide) hrange⟩

end

end CronScheduler
