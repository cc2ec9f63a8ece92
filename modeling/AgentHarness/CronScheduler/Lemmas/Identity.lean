import AgentHarness.CronRuns.Lemmas.Effect
import AgentHarness.CronScheduler.Crontab
import Mathlib

/-!
Which crontab entries and which cron runs have the same id.
-/

namespace CronScheduler

def isEntryChar (ch : Char) : Bool :=
  ch.isAlphanum || ch = '-' || ch = '_' || ch = '.'

def isRunChar (ch : Char) : Bool :=
  isEntryChar ch || ch = '@'

section

variable (kept : Char → Bool)

def AlikeChar (a b : Char) : Prop :=
  (kept a ∧ kept b ∧ a.toLower = b.toLower) ∨ ((¬kept a ∨ a = '_') ∧ (¬kept b ∨ b = '_'))

def Alike (left right : List Char) : Prop :=
  List.Forall₂ (AlikeChar kept) left right

def written (ch : Char) : Char :=
  if kept ch then ch.toLower else '_'

def nameOf (s : String) : List Char :=
  let isFill := fun ch => !kept ch || ch = '_'
  let name := ((s.toList.dropWhile isFill).reverse.dropWhile isFill).reverse
  if name = [] then "unknown".toList else name

theorem toLower_eq_iff {ch other : Char} (hlow : other.toNat < 97)
    (hother : ¬(65 ≤ other.toNat ∧ other.toNat ≤ 90))
    : ch.toLower = other ↔ ch = other := by
  unfold Char.toLower
  split
  . next hupper =>
    simp only [UInt32.le_iff_toNat_le, ge_iff_le] at hupper
    have hbounds : 65 ≤ ch.toNat ∧ ch.toNat ≤ 90 := hupper
    apply iff_of_false
    . intro h
      have hvalue : (ch.val + ('a'.val - 'A'.val)).toNat = other.toNat := congrArg Char.toNat h
      have hsum : (ch.val + ('a'.val - 'A'.val)).toNat = ch.toNat + 32 := by
        rw [UInt32.toNat_add]
        exact Nat.mod_eq_of_lt (by omega : ch.toNat + 32 < 2 ^ 32)
      omega
    . rintro rfl
      exact hother hbounds
  . rfl

theorem written_eq_iff (a b : Char) : written kept a = written kept b ↔ AlikeChar kept a b := by
  have hline : ∀ ch : Char, ch.toLower = '_' ↔ ch = '_' :=
    fun ch => toLower_eq_iff (by decide) (by decide)
  unfold written AlikeChar
  cases kept a with
  | true =>
    cases kept b with
    | true =>
      simp only [if_true, true_and, not_true_eq_false, false_or, iff_self_or]
      rintro ⟨rfl, rfl⟩
      rfl
    | false => simp [hline]
  | false =>
    cases kept b with
    | true =>
      simp only [Bool.false_eq_true, if_false, if_true, false_and, not_false_eq_true, true_or,
        true_and, not_true_eq_false, false_or]
      rw [eq_comm, hline]
    | false => simp

theorem map_written_eq_iff (left right : List Char)
    : left.map (written kept) = right.map (written kept) ↔ Alike kept left right := by
  have hsame := congrFun (congrFun (List.forall₂_eq_eq_eq (α := Char))
    (left.map (written kept))) (right.map (written kept))
  rw [← hsame, List.forall₂_map_left_iff, List.forall₂_map_right_iff]
  simp only [written_eq_iff]
  rfl

theorem notMem_written {ch : Char} (hlow : ch.toNat < 97) (hupper : ¬(65 ≤ ch.toNat ∧ ch.toNat ≤ 90))
    (hkept : kept ch = false) (hline : ch ≠ '_') (name : List Char)
    : ch ∉ name.map (written kept) := by
  intro hmem
  obtain ⟨other, _, hother⟩ := List.mem_map.1 hmem
  unfold written at hother
  split at hother
  . next h =>
    rw [toLower_eq_iff hlow hupper] at hother
    rw [hother, hkept] at h
    cases h
  . exact hline hother.symm

end

section

variable {kind kind' : DeterministicCronRunnerKind} {file file' : String} {line line' : Nat}

theorem normalizeKeyPart_toList {value : String} (h : value.toList ≠ [])
    : (normalizeKeyPart value).toList = value.toList.map (written isEntryChar) := by
  unfold normalizeKeyPart Text.mapChars
  rw [if_neg]
  . rw [String.toList_ofList]
    rfl
  . intro hempty
    have hnil := congrArg String.toList hempty
    rw [String.toList_ofList] at hnil
    exact h (List.map_eq_nil_iff.1 hnil)

theorem written_of_isDigit {ch : Char} (h : ch.isDigit) : written isEntryChar ch = ch := by
  have hkept : isEntryChar ch := by simp [isEntryChar, Char.isAlphanum, h]
  simp only [Char.isDigit, Bool.and_eq_true, decide_eq_true_eq, UInt32.le_iff_toNat_le, ge_iff_le] at h
  have hbounds : 48 ≤ ch.toNat ∧ ch.toNat ≤ 57 := h
  unfold written
  rw [if_pos hkept, toLower_eq_iff (by omega) (by omega)]

theorem map_written_digits (n : Nat)
    : (toString n).toList.map (written isEntryChar) = (toString n).toList := by
  have hsame : ∀ ch ∈ (toString n).toList, written isEntryChar ch = id ch :=
    fun ch hch => written_of_isDigit (Text.isDigit_toString ch hch)
  rw [List.map_congr_left hsame, List.map_id]

theorem toList_deterministicEntryId (kind : DeterministicCronRunnerKind) (file : String) (line : Nat)
    : (deterministicEntryId kind file line).toList
        = (runnerPrefix kind).toList ++ ':'
          :: (file.toList.map (written isEntryChar) ++ '_' :: (toString line).toList) := by
  have hcolon : written isEntryChar ':' = '_' := by decide
  unfold deterministicEntryId
  rw [String.toList_append, String.toList_append, normalizeKeyPart_toList (by simp),
    String.toList_append, String.toList_append, List.map_append, List.map_append, map_written_digits]
  simp [hcolon]

theorem deterministicEntryId_eq_iff
    : deterministicEntryId kind file line = deterministicEntryId kind' file' line'
        ↔ kind = kind' ∧ line = line' ∧ Alike isEntryChar file.toList file'.toList := by
  have hdigits : ∀ n : Nat, '_' ∉ (toString n).toList := by
    intro n hmem
    exact absurd (Text.isDigit_toString _ hmem) (by decide)
  rw [← String.toList_inj, toList_deterministicEntryId, toList_deterministicEntryId]
  constructor
  . intro h
    have hkind : kind = kind' := by
      cases kind with
      | main =>
        cases kind' with
        | main => rfl
        | backup => exact absurd (List.cons.inj h).1 (by decide)
      | backup =>
        cases kind' with
        | main => exact absurd (List.cons.inj h).1 (by decide)
        | backup => rfl
    rw [hkind, List.append_cancel_left_eq] at h
    obtain ⟨hfile, hline⟩ := Text.segment_inj (hdigits _) (hdigits _) (List.cons.inj h).2
    refine ⟨hkind, ?_, (map_written_eq_iff _ _ _).1 hfile⟩
    rw [← Text.digitsValue_toString line, hline, Text.digitsValue_toString]
  . rintro ⟨rfl, rfl, halike⟩
    rw [(map_written_eq_iff _ _ _).2 halike]

end

/-
The ids of cron runs.
-/

open CronRuns (cronRunId CronRunAdmitOptions Slot Store)

def SlotsAlike (slot slot' : Slot) : Prop :=
  Alike isRunChar (nameOf isRunChar slot.1) (nameOf isRunChar slot'.1)
    ∧ Alike isRunChar (nameOf isRunChar slot.2.1) (nameOf isRunChar slot'.2.1)
    ∧ Alike isRunChar (nameOf isRunChar slot.2.2.1) (nameOf isRunChar slot'.2.2.1)
    ∧ slot.2.2.2 = slot'.2.2.2

theorem written_isRunChar (ch : Char)
    : written isRunChar ch
        = if ch.isDigit || ('a' ≤ ch && ch ≤ 'z') || ('A' ≤ ch && ch ≤ 'Z') then
            ch.toLower
          else if ch = '-' || ch = '_' || ch = '.' || ch = '@' then
            ch
          else
            '_' := by
  have halnum : (ch.isDigit || ('a' ≤ ch && ch ≤ 'z') || ('A' ≤ ch && ch ≤ 'Z')) = ch.isAlphanum := by
    rw [Bool.eq_iff_iff]
    simp only [Char.isAlphanum, Char.isAlpha, Char.isUpper, Char.isLower, Bool.or_eq_true,
      Bool.and_eq_true, decide_eq_true_eq, Char.le_def, ge_iff_le]
    tauto
  rw [halnum]
  unfold written isRunChar isEntryChar
  cases ch.isAlphanum with
  | true => simp
  | false =>
    by_cases hmark : ch = '-' ∨ ch = '_' ∨ ch = '.' ∨ ch = '@'
    . rcases hmark with rfl | rfl | rfl | rfl
      all_goals rfl
    . simp only [not_or] at hmark
      simp [hmark]

theorem written_eq_line (ch : Char) : (written isRunChar ch = '_') ↔ (!isRunChar ch || ch = '_') := by
  unfold written
  split
  . next h => simp [h, toLower_eq_iff]
  . next h => simp [h]

theorem toList_normalizeKeyPart (value : String)
    : (CronRuns.normalizeKeyPart value).toList = (nameOf isRunChar value).map (written isRunChar) := by
  have hfill : (fun ch => decide (ch = '_')) ∘ written isRunChar
      = fun ch => !isRunChar ch || decide (ch = '_') := by
    funext ch
    rw [Bool.eq_iff_iff, Function.comp_apply, decide_eq_true_iff]
    apply written_eq_line
  unfold CronRuns.normalizeKeyPart nameOf
  simp only [← written_isRunChar]
  rw [List.dropWhile_map, ← List.map_reverse, List.dropWhile_map, ← List.map_reverse, hfill]
  split
  . next hnil =>
    rw [if_pos (List.map_eq_nil_iff.1 hnil)]
    decide
  . next hne =>
    rw [if_neg (fun hnil => hne (List.map_eq_nil_iff.2 hnil)), String.toList_ofList]

theorem toList_negSucc (n : Nat) : (toString (Int.negSucc n)).toList = '-' :: (toString (n + 1)).toList :=
  String.toList_append

theorem toString_int_inj {time time' : Int} (h : toString time = toString time') : time = time' := by
  have hnat : ∀ {n n' : Nat}, (toString n).toList = (toString n').toList → n = n' := by
    intro n n' hn
    rw [← Text.digitsValue_toString n, hn, Text.digitsValue_toString]
  have hsign : ∀ {n n' : Nat}, (toString n).toList ≠ '-' :: (toString n').toList := by
    intro n n' hn
    have hminus : '-' ∈ (toString n).toList := by
      rw [hn]
      apply List.mem_cons_self
    exact absurd (Text.isDigit_toString _ hminus) (by decide)
  have hchars := congrArg String.toList h
  cases time with
  | ofNat n =>
    cases time' with
    | ofNat n' => exact congrArg Int.ofNat (hnat hchars)
    | negSucc n' => exact absurd (hchars.trans (toList_negSucc n')) hsign
  | negSucc n =>
    cases time' with
    | ofNat n' => exact absurd (hchars.symm.trans (toList_negSucc n)) hsign
    | negSucc n' =>
      rw [toList_negSucc, toList_negSucc] at hchars
      rw [Nat.succ.inj (hnat (List.cons.inj hchars).2)]

theorem cronRunId_eq_iff (slot slot' : Slot) : cronRunId slot = cronRunId slot' ↔ SlotsAlike slot slot' := by
  obtain ⟨kind, source, entry, time⟩ := slot
  obtain ⟨kind', source', entry', time'⟩ := slot'
  have hname : ∀ value, ':' ∉ (CronRuns.normalizeKeyPart value).toList := by
    intro value
    rw [toList_normalizeKeyPart]
    apply notMem_written
    all_goals decide
  have htime : ∀ time : Int, ':' ∉ (toString time).toList := by
    intro time hmem
    have hdigits : ∀ n : Nat, ':' ∉ (toString n).toList :=
      fun n hcolon => absurd (Text.isDigit_toString _ hcolon) (by decide)
    cases time with
    | ofNat n => exact hdigits n hmem
    | negSucc n =>
      rw [toList_negSucc, List.mem_cons] at hmem
      cases hmem with
      | inl hminus => exact absurd hminus (by decide)
      | inr hcolon => exact hdigits _ hcolon
  have hjoin : ∀ before after : List Char, before ++ ":".toList ++ after = before ++ ':' :: after :=
    fun before after => List.append_assoc before [':'] after
  unfold SlotsAlike
  dsimp only
  simp only [← map_written_eq_iff, ← toList_normalizeKeyPart]
  rw [← String.toList_inj]
  unfold cronRunId
  simp only [String.toList_append, hjoin]
  constructor
  . intro h
    obtain ⟨h, hslot⟩ := Text.segment_inj (htime _) (htime _) h
    obtain ⟨h, hentry⟩ := Text.segment_inj (hname _) (hname _) h
    obtain ⟨h, hsource⟩ := Text.segment_inj (hname _) (hname _) h
    exact ⟨List.append_cancel_left h, hsource, hentry, toString_int_inj (String.toList_inj.1 hslot)⟩
  . rintro ⟨hkind, hsource, hentry, rfl⟩
    rw [hkind, hsource, hentry]

/-
The store of cron runs.
-/

open CronRuns (Call CronRun IsKept Direct)

def IsNamed (run : CronRun) : Prop :=
  run.runId = cronRunId run.slot

def KeepsName (run run' : CronRun) : Prop :=
  run'.runId = run.runId ∧ run'.slot = run.slot

theorem isKept_keepsName : IsKept KeepsName where
  refl _ := ⟨rfl, rfl⟩
  trans _ _ _ h h' := ⟨h'.1.trans h.1, h'.2.trans h.2⟩
  quarantine _ _ _ _ := ⟨rfl, rfl⟩

theorem keepsName_of_direct {s : Store} {call : Call} {run run' : CronRun} (h : Direct s call run run')
    : KeepsName run run' := by
  cases h <;> exact ⟨rfl, rfl⟩

theorem isNamed_of_calls (calls : List Call)
    : ∀ run ∈ (Run.exec Store.exec Store.empty calls).runs.rows, IsNamed run := by
  refine Run.exec_invariant (fun s : Store => ∀ run ∈ s.runs.rows, IsNamed run) ?_ ?_ calls
  . intro s call hnamed run' hrun'
    have hevolves := CronRuns.evolves_exec isKept_keepsName
      (fun _ _ => @keepsName_of_direct s call _ _)
    rcases hevolves.origin run' hrun' with ⟨run, hrun, _, hrel⟩ | ⟨options, _, rfl⟩
    . unfold IsNamed
      rw [hrel.1, hrel.2]
      apply hnamed run hrun
    . rfl
  . intro run hrun
    cases hrun

theorem admits_iff (s : Store) {options : CronRunAdmitOptions} (hnew : s.findRunBySlot options.slot = none)
    : (∃ run, (s.admitCronRun options).2 = .ok run)
        ↔ ∀ run ∈ s.runs.rows, run.runId ≠ cronRunId options.slot := by
  unfold Store.admitCronRun
  rw [hnew]
  dsimp only
  constructor
  . rintro ⟨run, hok⟩
    cases hinsert : s.runs.insert options.run with
    | none =>
      rw [hinsert] at hok
      cases hok
    | some runs =>
      have hnodup := runs.admits.nodup
      rw [Table.rows_insert hinsert, List.map_append, List.nodup_append] at hnodup
      intro other hother
      apply hnodup.2.2 _ (List.mem_map_of_mem hother)
      apply List.mem_singleton_self
  . intro hfresh
    have ⟨runs, hinsert⟩ : ∃ runs, s.runs.insert options.run = some runs := by
      apply Table.insert_isSome hfresh rfl
      intro run hrun
      have hslot : ¬run.slot = options.run.slot :=
        fun hsame => List.find?_eq_none.1 hnew run hrun (decide_eq_true hsame)
      simp [CronRuns.cronRunsTable, hslot]
    have hkey : CronRuns.cronRunsTable.key options.run = cronRunId options.slot := rfl
    rw [hinsert]
    refine ⟨options.run, ?_⟩
    dsimp only
    unfold Store.findRunById
    rw [Table.find_insert hinsert, if_pos hkey]
    rfl

theorem id_of_load {runners : List DeterministicCronRunner} {entry : DeterministicCronEntry}
    (h : entry ∈ loadDeterministicCronEntries runners)
    : entry.id = deterministicEntryId entry.runnerKind entry.crontabFile entry.lineNumber := by
  unfold loadDeterministicCronEntries parseCrontabFile at h
  simp only [List.mem_mergeSort, List.mem_flatMap, List.mem_filterMap] at h
  obtain ⟨runner, _, file, _, line, _, hparse⟩ := h
  unfold parseCrontabLine at hparse
  split at hparse
  . obtain ⟨parts, _, hentry⟩ := Option.bind_eq_some_iff.1 hparse
    cases hentry
    rfl
  . dsimp only at hparse
    split at hparse
    . cases hparse
      rfl
    . cases hparse
      rfl

/-
Two entries of a store have one id exactly when they stand in the same line of two files of one kind of runner
whose names are alike; two runs when the names of their slots are alike. A new slot is admitted unless a run
of another slot has its id.
-/
theorem identities_distinct_iff (runners : List DeterministicCronRunner) (slot slot' : Slot)
    (calls : List Call) (options : CronRunAdmitOptions)
    : (∀ entry ∈ loadDeterministicCronEntries runners, ∀ other ∈ loadDeterministicCronEntries runners,
          ((entry.crontabFile, entry.lineNumber) ≠ (other.crontabFile, other.lineNumber)
              → entry.id ≠ other.id)
            ↔ ¬(entry.runnerKind = other.runnerKind ∧ entry.lineNumber = other.lineNumber
              ∧ entry.crontabFile ≠ other.crontabFile
              ∧ Alike isEntryChar entry.crontabFile.toList other.crontabFile.toList))
      ∧ ((slot ≠ slot' → cronRunId slot ≠ cronRunId slot') ↔ ¬(slot ≠ slot' ∧ SlotsAlike slot slot'))
      ∧ ((Run.exec Store.exec Store.empty calls).findRunBySlot options.slot = none
          → ((∃ run, ((Run.exec Store.exec Store.empty calls).admitCronRun options).2 = .ok run)
            ↔ ∀ run ∈ (Run.exec Store.exec Store.empty calls).runs.rows,
              ¬SlotsAlike run.slot options.slot)) := by
  refine ⟨?_, ?_, ?_⟩
  . intro entry hentry other hother
    rw [id_of_load hentry, id_of_load hother, ne_eq, ne_eq, deterministicEntryId_eq_iff, Prod.mk.injEq]
    tauto
  . rw [ne_eq (cronRunId slot), cronRunId_eq_iff]
    tauto
  . intro hnew
    rw [admits_iff _ hnew]
    apply forall₂_congr
    intro run hrun
    rw [isNamed_of_calls calls run hrun, ne_eq, cronRunId_eq_iff]

def dailyAdmission (entryId : String) : CronRunAdmitOptions :=
  { CronRuns.sampleAdmission with entryId }

theorem identities_distinct_sample
    : ∀ run ∈ (Run.exec Store.exec Store.empty [.admitRun (dailyAdmission "daily")]).runs.rows,
        ¬SlotsAlike run.slot (dailyAdmission "weekly").slot :=
  ((identities_distinct_iff [] (dailyAdmission "daily").slot (dailyAdmission "weekly").slot
    [.admitRun (dailyAdmission "daily")] (dailyAdmission "weekly")).2.2 (by decide +kernel)).1 ⟨(dailyAdmission "weekly").run, by decide +kernel⟩

def collidingRunner : DeterministicCronRunner where
  kind := .main
  root := "/r"
  crontabFiles := [("/r/a b.crontab", "@daily jobs/a.py"), ("/r/a_b.crontab", "@daily jobs/b.py")]

-- two crontab files, and two jobs, whose names differ in a space or in upper and lower case
theorem identities_not_distinct
    : (∃ entry ∈ loadDeterministicCronEntries [collidingRunner],
        ∃ other ∈ loadDeterministicCronEntries [collidingRunner],
          (entry.crontabFile, entry.lineNumber) ≠ (other.crontabFile, other.lineNumber)
            ∧ entry.id = other.id)
      ∧ (dailyAdmission "Daily report").slot ≠ (dailyAdmission "daily_report").slot
      ∧ cronRunId (dailyAdmission "Daily report").slot = cronRunId (dailyAdmission "daily_report").slot
      ∧ (Run.exec Store.exec Store.empty [.admitRun (dailyAdmission "Daily report")]).findRunBySlot
          (dailyAdmission "daily_report").slot = none
      ∧ ¬∃ run, ((Run.exec Store.exec Store.empty
          [.admitRun (dailyAdmission "Daily report")]).admitCronRun
            (dailyAdmission "daily_report")).2 = .ok run := by
  refine ⟨?_, by decide +kernel, by decide +kernel, by decide +kernel, ?_⟩
  . refine ⟨scheduledEntry .main "/r" "/r/a b.crontab" 1 (.named "@daily") "jobs/a.py", ?_,
      scheduledEntry .main "/r" "/r/a_b.crontab" 1 (.named "@daily") "jobs/b.py", ?_, by decide, by decide +kernel⟩
    . apply List.mem_mergeSort.2
      decide +kernel
    . apply List.mem_mergeSort.2
      decide +kernel
  . rw [admits_iff _ (by decide +kernel)]
    decide +kernel

end CronScheduler
