import AgentHarness.AgentProgress.EventIndex
import Mathlib.Data.List.Dedup

/-!
What the retention keeps of the rows it is given, and that bounding rows twice is bounding them once.
-/

namespace AgentProgress

open RowNumber (rowNumber newer older)

namespace ProgressEventIndex

abbrev Ascending (rows : List ProgressEventRow) : Prop :=
  rows.Pairwise fun row other => row.lineNumber < other.lineNumber

section Queues

variable {rows : List ProgressEventRow} {queueId : String} {row : ProgressEventRow}

@[simp]
theorem mem_partition
    : row ∈ partition rows queueId ↔ row ∈ rows ∧ row.queueId = queueId := by
  simp [partition]

@[simp]
theorem mem_queueIds : queueId ∈ queueIds rows ↔ ∃ row ∈ rows, row.queueId = queueId := by
  simp [queueIds]

theorem closed_iff
    : closed rows queueId = true ↔ ∃ row ∈ rows, row.queueId = queueId ∧ row.isTerminal := by
  simp [closed, and_assoc]

theorem mem_terminalQueues : queueId ∈ terminalQueues rows ↔ closed rows queueId = true := by
  unfold terminalQueues
  rw [List.mem_filter, mem_queueIds, and_iff_right_iff_imp, closed_iff]
  rintro ⟨row, hrow, hqueue, -⟩
  exact ⟨row, hrow, hqueue⟩

theorem evicted_iff {limits : RetentionLimits}
    : evicted limits rows queueId = true
        ↔ closed rows queueId = true ∧ limits.maxTerminalQueues < queueRank rows queueId := by
  simp [evicted, mem_terminalQueues]

theorem foldl_max_le {lines : List Nat} {start bound : Nat}
    : lines.foldl max start ≤ bound ↔ start ≤ bound ∧ ∀ line ∈ lines, line ≤ bound := by
  induction lines generalizing start with
  | nil => simp
  | cons line lines ih =>
    rw [List.foldl_cons, ih, List.forall_mem_cons, Nat.max_le, and_assoc]

theorem latestLine_le {bound : Nat}
    : latestLine rows queueId ≤ bound
        ↔ ∀ row ∈ rows, row.queueId = queueId → row.lineNumber ≤ bound := by
  unfold latestLine
  rw [foldl_max_le, List.forall_mem_map, and_iff_right (Nat.zero_le _)]
  constructor
  . intro h row hrow hqueue
    exact h row (mem_partition.mpr ⟨hrow, hqueue⟩)
  . intro h row hrow
    rw [mem_partition] at hrow
    exact h row hrow.1 hrow.2

theorem le_latestLine (hrow : row ∈ rows) (hqueue : row.queueId = queueId)
    : row.lineNumber ≤ latestLine rows queueId :=
  latestLine_le.mp (Nat.le_refl _) row hrow hqueue

theorem exists_latestLine (hrow : row ∈ rows) (hqueue : row.queueId = queueId)
    : ∃ last ∈ rows, last.queueId = queueId ∧ last.lineNumber = latestLine rows queueId := by
  by_contra hnone
  push Not at hnone
  have hpositive : 0 < latestLine rows queueId := by
    have hle := le_latestLine hrow hqueue
    have hne := hnone row hrow hqueue
    omega
  have hlt : latestLine rows queueId ≤ latestLine rows queueId - 1 := by
    rw [latestLine_le]
    intro other hother hotherQueue
    have hle := le_latestLine hother hotherQueue
    have hne := hnone other hother hotherQueue
    omega
  omega

theorem latestLine_eq {line : Nat} (hle : ∀ row ∈ rows, row.queueId = queueId → row.lineNumber ≤ line)
    (hlast : ∃ row ∈ rows, row.queueId = queueId ∧ row.lineNumber = line)
    : latestLine rows queueId = line := by
  obtain ⟨row, hrow, hqueue, rfl⟩ := hlast
  exact Nat.le_antisymm (latestLine_le.mpr hle) (le_latestLine hrow hqueue)

theorem queueBefore_iff {other : String}
    : queueBefore rows other queueId = true
        ↔ latestLine rows queueId < latestLine rows other
          ∨ latestLine rows queueId = latestLine rows other ∧ other < queueId := by
  simp [queueBefore]

theorem queueBefore_trans (a b c : String) (hab : queueBefore rows a b) (hbc : queueBefore rows b c)
    : queueBefore rows a c := by
  rw [queueBefore_iff] at hab hbc ⊢
  cases hab with
  | inl hlt =>
    cases hbc with
    | inl hlt' => exact .inl (hlt'.trans hlt)
    | inr heq => exact .inl (heq.1 ▸ hlt)
  | inr heq =>
    cases hbc with
    | inl hlt => exact .inl (heq.1 ▸ hlt)
    | inr heq' => exact .inr ⟨heq'.1.trans heq.1, String.lt_trans heq.2 heq'.2⟩

theorem queueBefore_irrefl (queueId : String) : queueBefore rows queueId queueId = false := by
  simp [queueBefore]

theorem evicted_of_earlier {limits : RetentionLimits} {other : String}
    (hevicted : evicted limits rows other = true) (hclosed : closed rows queueId = true)
    (hearlier : latestLine rows queueId < latestLine rows other)
    : evicted limits rows queueId = true := by
  rw [evicted_iff] at hevicted ⊢
  refine ⟨hclosed, hevicted.2.trans ?_⟩
  apply RowNumber.rowNumber_lt queueBefore_trans (queueBefore_irrefl other)
  . rw [mem_terminalQueues]
    exact hevicted.1
  . rw [queueBefore_iff]
    exact .inl hearlier

end Queues

section Rows

variable {limits : RetentionLimits} {rows : List ProgressEventRow} {row : ProgressEventRow}

def IsFirst (rows : List ProgressEventRow) (row : ProgressEventRow) : Prop :=
  ∀ other ∈ rows, other.queueId = row.queueId → row.lineNumber ≤ other.lineNumber

def IsLatestTerminal (rows : List ProgressEventRow) (row : ProgressEventRow) : Prop :=
  row.isTerminal ∧ ∀ other ∈ rows, other.queueId = row.queueId → other.isTerminal →
    other.lineNumber ≤ row.lineNumber

def Kept (limits : RetentionLimits) (rows : List ProgressEventRow) (row : ProgressEventRow) : Prop :=
  recentRank rows row ≤ limits.eventsPerQueue ∨ IsFirst rows row ∨ IsLatestTerminal rows row

theorem firstRank_eq_one : firstRank rows row = 1 ↔ IsFirst rows row := by
  unfold firstRank IsFirst
  rw [RowNumber.rowNumber_eq_one]
  simp [older]

theorem terminalRank_eq_one (hterminal : row.isTerminal)
    : terminalRank rows row = 1 ↔ IsLatestTerminal rows row := by
  unfold terminalRank IsLatestTerminal
  rw [RowNumber.rowNumber_eq_one, and_iff_right hterminal]
  simp [terminalBefore, hterminal]

theorem retained_iff
    : retained limits rows row = true
        ↔ ¬evicted limits rows row.queueId = true
          ∧ Kept limits rows row := by
  have hfirst : 1 < firstRank rows row ↔ ¬IsFirst rows row := by
    rw [← firstRank_eq_one]
    unfold firstRank rowNumber
    omega
  have hlatest : (row.isTerminal = true ∧ terminalRank rows row = 1) ↔ IsLatestTerminal rows row := by
    constructor
    . rintro ⟨hterminal, hrank⟩
      exact (terminalRank_eq_one hterminal).mp hrank
    . intro h
      exact ⟨h.1, (terminalRank_eq_one h.1).mpr h⟩
  unfold retained Kept
  rw [Bool.not_eq_true', ← Bool.not_eq_true, Bool.or_eq_true, not_or, Bool.and_eq_true,
    Bool.and_eq_true, Bool.not_eq_true', ← Bool.not_eq_true, Bool.and_eq_true, decide_eq_true_eq,
    decide_eq_true_eq, decide_eq_true_eq, hfirst, hlatest, not_and, not_not, and_imp, ← Nat.not_lt]
  tauto

theorem retain_eq_ok {out : List ProgressEventRow}
    : retainBoundedProgressEventPayloads limits rows = .ok out
        ↔ (openQueues rows).length ≤ limits.maxOpenQueues
          ∧ out = rows.filter (retained limits rows) := by
  unfold retainBoundedProgressEventPayloads
  dsimp only
  split
  . next hfull => simp [hfull]
  . next hroom =>
    rw [Nat.not_lt] at hroom
    simp [hroom, eq_comm]

theorem exists_first (hrow : row ∈ rows) : ∃ first ∈ rows, first.queueId = row.queueId ∧ IsFirst rows first := by
  induction hline : row.lineNumber using Nat.strongRecOn generalizing row with
  | ind line ih =>
    by_cases hfirst : IsFirst rows row
    . exact ⟨row, hrow, rfl, hfirst⟩
    . unfold IsFirst at hfirst
      push Not at hfirst
      obtain ⟨other, hother, hqueue, hlt⟩ := hfirst
      obtain ⟨first, hmem, hsame, hleast⟩ := ih other.lineNumber (hline ▸ hlt) hother rfl
      exact ⟨first, hmem, hsame.trans hqueue, hleast⟩

theorem exists_latestTerminal (hrow : row ∈ rows) (hterminal : row.isTerminal)
    : ∃ last ∈ rows, last.queueId = row.queueId ∧ IsLatestTerminal rows last := by
  let terminals := rows.filter (·.isTerminal)
  obtain ⟨last, hlast, hqueue, hline⟩ :=
    exists_latestLine (List.mem_filter.mpr ⟨hrow, hterminal⟩ : row ∈ terminals) rfl
  rw [List.mem_filter] at hlast
  refine ⟨last, hlast.1, hqueue, hlast.2, ?_⟩
  intro other hother hotherQueue hotherTerminal
  rw [hline]
  exact le_latestLine (List.mem_filter.mpr ⟨hother, hotherTerminal⟩) (hotherQueue.trans hqueue)

end Rows

end ProgressEventIndex

end AgentProgress

/-!
Rows that were bounded, with more rows behind them, and bounded again: what is left is what one bounding of
all rows leaves, unless a queue that was dropped gets rows again.
-/

namespace AgentProgress

open RowNumber (rowNumber newer older)

namespace ProgressEventIndex

def bounded (limits : RetentionLimits) (rows : List ProgressEventRow) : List ProgressEventRow :=
  rows.filter (retained limits rows)

/-
The rows behind `read` that belong to a queue that was dropped from it: such a queue has to be closed by
them, and to be dropped again.
-/
def Settled (limits : RetentionLimits) (read more : List ProgressEventRow) : Prop :=
  ∀ queueId ∈ queueIds more, evicted limits read queueId = true →
    closed more queueId = true ∧ evicted limits (read ++ more) queueId = true

instance (limits : RetentionLimits) (read more : List ProgressEventRow)
    : Decidable (Settled limits read more) :=
  inferInstanceAs (Decidable (∀ _ ∈ _, _ → _ ∧ _))

section

variable {limits : RetentionLimits} {read more : List ProgressEventRow}

theorem mem_bounded {rows : List ProgressEventRow} {row : ProgressEventRow}
    : row ∈ bounded limits rows ↔ row ∈ rows ∧ retained limits rows row = true :=
  List.mem_filter

theorem ascending_bounded {rows : List ProgressEventRow} (h : Ascending rows)
    : Ascending (bounded limits rows) :=
  h.sublist List.filter_sublist

theorem bounded_sublist (limits : RetentionLimits) (rows : List ProgressEventRow)
    : (bounded limits rows).Sublist rows :=
  List.filter_sublist

theorem mem_queueIds_bounded {rows : List ProgressEventRow} {queueId : String}
    : queueId ∈ queueIds (bounded limits rows)
        ↔ queueId ∈ queueIds rows ∧ ¬evicted limits rows queueId = true := by
  rw [mem_queueIds, mem_queueIds]
  constructor
  . rintro ⟨row, hrow, rfl⟩
    rw [mem_bounded, retained_iff] at hrow
    exact ⟨⟨row, hrow.1, rfl⟩, hrow.2.1⟩
  . rintro ⟨⟨row, hrow, rfl⟩, hkept⟩
    obtain ⟨first, hfirst, hqueue, hleast⟩ := exists_first hrow
    refine ⟨first, ?_, hqueue⟩
    rw [mem_bounded, retained_iff, hqueue]
    exact ⟨hfirst, hkept, .inr (.inl hleast)⟩

theorem closed_bounded {rows : List ProgressEventRow} {queueId : String}
    (hkept : ¬evicted limits rows queueId = true)
    : closed (bounded limits rows) queueId = closed rows queueId := by
  rw [Bool.eq_iff_iff, closed_iff, closed_iff]
  constructor
  . rintro ⟨row, hrow, h⟩
    exact ⟨row, (bounded_sublist limits rows).subset hrow, h⟩
  . rintro ⟨row, hrow, rfl, hterminal⟩
    obtain ⟨last, hlast, hqueue, hlatest⟩ := exists_latestTerminal hrow hterminal
    refine ⟨last, ?_, hqueue, hlatest.1⟩
    rw [mem_bounded, retained_iff, hqueue]
    exact ⟨hlast, hkept, .inr (.inr hlatest)⟩

theorem closed_append {rows others : List ProgressEventRow} {queueId : String}
    : closed (rows ++ others) queueId = (closed rows queueId || closed others queueId) := by
  unfold closed partition
  rw [List.filter_append, List.any_append]

theorem recentRank_of_latest {rows : List ProgressEventRow} {row : ProgressEventRow}
    (hline : row.lineNumber = latestLine rows row.queueId)
    : recentRank rows row = 1 := by
  unfold recentRank
  rw [RowNumber.rowNumber_eq_one]
  intro other hother
  rw [mem_partition] at hother
  have hle := le_latestLine hother.1 hother.2
  simp [newer]
  omega

variable (hpositive : 0 < limits.eventsPerQueue)
include hpositive

theorem latestLine_bounded {rows : List ProgressEventRow} {queueId : String}
    (hkept : ¬evicted limits rows queueId = true)
    : latestLine (bounded limits rows) queueId = latestLine rows queueId := by
  by_cases hmem : queueId ∈ queueIds rows
  . rw [mem_queueIds] at hmem
    obtain ⟨row, hrow, hqueue⟩ := hmem
    obtain ⟨last, hlast, rfl, hline⟩ := exists_latestLine hrow hqueue
    apply latestLine_eq
    . intro other hother hotherQueue
      exact le_latestLine ((bounded_sublist limits rows).subset hother) hotherQueue
    . refine ⟨last, ?_, rfl, hline⟩
      rw [mem_bounded, retained_iff]
      refine ⟨hlast, hkept, .inl ?_⟩
      rw [recentRank_of_latest hline]
      exact hpositive
  . have hnone : ∀ row ∈ rows, row.queueId ≠ queueId := by
      simpa using hmem
    have hzero : ∀ others : List ProgressEventRow, (∀ row ∈ others, row ∈ rows) →
        latestLine others queueId = 0 := by
      intro others hsub
      rw [← Nat.le_zero, latestLine_le]
      intro row hrow hqueue
      exact absurd hqueue (hnone row (hsub row hrow))
    rw [hzero _ fun row hrow => (bounded_sublist limits rows).subset hrow, hzero _ fun _ h => h]

theorem latestLine_append {queueId : String} (hkept : ¬evicted limits read queueId = true)
    : latestLine (bounded limits read ++ more) queueId = latestLine (read ++ more) queueId := by
  apply Nat.le_antisymm
  . rw [latestLine_le]
    intro row hrow hqueue
    apply le_latestLine _ hqueue
    exact ((bounded_sublist limits read).append_right more).subset hrow
  . rw [latestLine_le]
    intro row hrow hqueue
    rw [List.mem_append] at hrow
    cases hrow with
    | inr hmore => exact le_latestLine (List.mem_append_right _ hmore) hqueue
    | inl hread =>
      have hle := le_latestLine hread hqueue
      rw [← latestLine_bounded hpositive hkept] at hle
      apply hle.trans
      rw [latestLine_le]
      intro other hother hotherQueue
      exact le_latestLine (List.mem_append_left _ hother) hotherQueue

end

section

variable {limits : RetentionLimits} {read more : List ProgressEventRow}

theorem mem_queueIds_append {rows others : List ProgressEventRow} {queueId : String}
    : queueId ∈ queueIds (rows ++ others) ↔ queueId ∈ queueIds rows ∨ queueId ∈ queueIds others := by
  simp only [mem_queueIds, List.mem_append, or_and_right, exists_or]

theorem mem_queueIds_of_closed {rows : List ProgressEventRow} {queueId : String}
    (h : closed rows queueId = true)
    : queueId ∈ queueIds rows := by
  rw [closed_iff] at h
  obtain ⟨row, hrow, hqueue, -⟩ := h
  exact mem_queueIds.mpr ⟨row, hrow, hqueue⟩

theorem nodup_terminalQueues (rows : List ProgressEventRow) : (terminalQueues rows).Nodup :=
  (List.nodup_dedup _).filter _

theorem latestLine_append_of_notMem {queueId : String} (hmore : queueId ∉ queueIds more)
    : latestLine (read ++ more) queueId = latestLine read queueId := by
  have hnone : partition more queueId = [] := by
    rw [List.eq_nil_iff_forall_not_mem]
    intro row hrow
    rw [mem_partition] at hrow
    exact hmore (mem_queueIds.mpr ⟨row, hrow⟩)
  unfold latestLine
  rw [show partition (read ++ more) queueId = partition read queueId ++ partition more queueId from
    List.filter_append .., hnone, List.append_nil]

theorem latestLine_le_append {queueId : String}
    : latestLine read queueId ≤ latestLine (read ++ more) queueId := by
  rw [latestLine_le]
  intro row hrow hqueue
  exact le_latestLine (List.mem_append_left _ hrow) hqueue

theorem evicted_append {queueId : String} (hevicted : evicted limits read queueId = true)
    (hmore : queueId ∉ queueIds more)
    : evicted limits (read ++ more) queueId = true := by
  rw [evicted_iff] at hevicted ⊢
  refine ⟨by rw [closed_append, hevicted.1, Bool.true_or], hevicted.2.trans_le ?_⟩
  apply RowNumber.rowNumber_le_of_forall (nodup_terminalQueues read)
  intro other hother hbefore
  rw [mem_terminalQueues] at hother ⊢
  rw [queueBefore_iff] at hbefore ⊢
  refine ⟨by rw [closed_append, hother, Bool.true_or], ?_⟩
  rw [latestLine_append_of_notMem hmore]
  have hle := @latestLine_le_append read more other
  cases hbefore with
  | inl hlt => exact .inl (hlt.trans_le hle)
  | inr heq =>
    by_cases hsame : latestLine (read ++ more) other = latestLine read other
    . exact .inr ⟨heq.1.trans hsame.symm, heq.2⟩
    . exact .inl (by omega)

variable (hsorted : Ascending (read ++ more))
include hsorted

theorem lineNumber_lt {row other : ProgressEventRow} (hrow : row ∈ read) (hother : other ∈ more)
    : row.lineNumber < other.lineNumber :=
  (List.pairwise_append.mp hsorted).2.2 row hrow other hother

theorem latestLine_of_mem_more {others : List ProgressEventRow} {queueId : String}
    (hothers : ∀ row ∈ others, row ∈ read) (hmore : queueId ∈ queueIds more)
    : latestLine (others ++ more) queueId = latestLine more queueId := by
  rw [mem_queueIds] at hmore
  obtain ⟨row, hrow, hqueue⟩ := hmore
  obtain ⟨last, hlast, hlastQueue, hline⟩ := exists_latestLine hrow hqueue
  rw [← hline]
  apply latestLine_eq
  . intro other hother hotherQueue
    rw [List.mem_append] at hother
    cases hother with
    | inl hread => exact (lineNumber_lt hsorted (hothers other hread) hlast).le
    | inr hmem => exact (le_latestLine hmem hotherQueue).trans hline.ge
  . exact ⟨last, List.mem_append_right _ hlast, hlastQueue, rfl⟩

omit hsorted in
theorem eq_of_lineNumber {rows : List ProgressEventRow} (hrows : Ascending rows)
    {row other : ProgressEventRow} (hrow : row ∈ rows) (hother : other ∈ rows)
    (h : row.lineNumber = other.lineNumber)
    : row = other := by
  have hnodup : (rows.map (·.lineNumber)).Nodup := by
    unfold List.Nodup
    rw [List.pairwise_map]
    exact hrows.imp Nat.ne_of_lt
  exact List.inj_on_of_nodup_map hnodup hrow hother h

omit hsorted in
theorem queueId_eq_of_latestLine {rows : List ProgressEventRow} (hrows : Ascending rows)
    {queueId other : String} (hqueue : queueId ∈ queueIds rows) (hother : other ∈ queueIds rows)
    (h : latestLine rows queueId = latestLine rows other)
    : queueId = other := by
  rw [mem_queueIds] at hqueue hother
  obtain ⟨row, hrow, hqueue⟩ := hqueue
  obtain ⟨otherRow, hotherRow, hother⟩ := hother
  obtain ⟨last, hlast, rfl, hline⟩ := exists_latestLine hrow hqueue
  obtain ⟨otherLast, hotherLast, rfl, hotherLine⟩ := exists_latestLine hotherRow hother
  have hsame : last.lineNumber = otherLast.lineNumber := by
    rw [hline, hotherLine, h]
  rw [eq_of_lineNumber hrows hlast hotherLast hsame]

end

section Both

variable {limits : RetentionLimits} {read more : List ProgressEventRow}
variable (hpositive : 0 < limits.eventsPerQueue) (hsorted : Ascending (read ++ more))
  (hsettled : Settled limits read more)

section Queues

theorem mem_both {row : ProgressEventRow} (h : row ∈ bounded limits read ++ more)
    : row ∈ read ++ more :=
  ((bounded_sublist limits read).append_right more).subset h

theorem ascending_both (hsorted : Ascending (read ++ more))
    : Ascending (bounded limits read ++ more) :=
  hsorted.sublist ((bounded_sublist limits read).append_right more)

theorem mem_more_of_evicted {queueId : String}
    (hqueue : queueId ∈ queueIds (bounded limits read ++ more))
    (hevicted : evicted limits read queueId = true)
    : queueId ∈ queueIds more := by
  rw [mem_queueIds_append, mem_queueIds_bounded] at hqueue
  cases hqueue with
  | inl hread => exact absurd hevicted hread.2
  | inr hmore => exact hmore

include hsettled in
theorem closed_both {queueId : String} (hqueue : queueId ∈ queueIds (bounded limits read ++ more))
    : closed (bounded limits read ++ more) queueId = closed (read ++ more) queueId := by
  rw [closed_append, closed_append]
  by_cases hevicted : evicted limits read queueId = true
  . rw [(hsettled queueId (mem_more_of_evicted hqueue hevicted) hevicted).1, Bool.or_true,
      Bool.or_true]
  . rw [closed_bounded hevicted]

include hpositive hsorted in
theorem latestLine_both {queueId : String}
    (hqueue : queueId ∈ queueIds (bounded limits read ++ more))
    : latestLine (bounded limits read ++ more) queueId = latestLine (read ++ more) queueId := by
  by_cases hevicted : evicted limits read queueId = true
  . have hmore := mem_more_of_evicted hqueue hevicted
    rw [latestLine_of_mem_more hsorted (fun row hrow => (bounded_sublist limits read).subset hrow) hmore,
      latestLine_of_mem_more hsorted (fun _ h => h) hmore]
  . exact latestLine_append hpositive hevicted

include hpositive hsorted in
theorem queueBefore_both {queueId other : String}
    (hqueue : queueId ∈ queueIds (bounded limits read ++ more))
    (hother : other ∈ queueIds (bounded limits read ++ more))
    : queueBefore (bounded limits read ++ more) other queueId
        = queueBefore (read ++ more) other queueId := by
  unfold queueBefore
  rw [latestLine_both hpositive hsorted hqueue, latestLine_both hpositive hsorted hother]

include hpositive hsorted hsettled in
theorem queueRank_le {queueId : String} (hqueue : queueId ∈ queueIds (bounded limits read ++ more))
    : queueRank (bounded limits read ++ more) queueId ≤ queueRank (read ++ more) queueId := by
  apply RowNumber.rowNumber_le_of_forall (nodup_terminalQueues _)
  intro other hother hbefore
  rw [mem_terminalQueues] at hother ⊢
  have hmem := mem_queueIds_of_closed hother
  rw [← closed_both hsettled hmem, ← queueBefore_both hpositive hsorted hqueue hmem]
  exact ⟨hother, hbefore⟩

include hsorted in
theorem mem_of_queueBefore {queueId other : String}
    (hqueue : queueId ∈ queueIds (bounded limits read ++ more))
    (hclosed : closed (read ++ more) queueId = true)
    (hother : other ∈ queueIds (read ++ more))
    (hbefore : queueBefore (read ++ more) other queueId = true)
    : other ∈ queueIds (bounded limits read ++ more) := by
  by_contra hgone
  have hne : queueId ≠ other := fun heq => hgone (heq ▸ hqueue)
  rw [mem_queueIds_append, mem_queueIds_bounded, not_or] at hgone
  have hread : other ∈ queueIds read := by
    rw [mem_queueIds_append] at hother
    exact hother.resolve_right hgone.2
  have hevicted : evicted limits read other = true := by
    by_contra hkept
    exact hgone.1 ⟨hread, hkept⟩
  have hlast := @latestLine_append_of_notMem read more other hgone.2
  have hle : latestLine (read ++ more) queueId ≤ latestLine (read ++ more) other := by
    rw [queueBefore_iff] at hbefore
    omega
  have hlt : latestLine (read ++ more) queueId < latestLine (read ++ more) other := by
    apply lt_of_le_of_ne hle
    intro heq
    apply hne
    apply queueId_eq_of_latestLine hsorted _ hother heq
    exact mem_queueIds_of_closed hclosed
  have hnotMore : queueId ∉ queueIds more := by
    intro hmore
    rw [mem_queueIds] at hmore hread
    obtain ⟨row, hrow, hrowQueue⟩ := hmore
    obtain ⟨otherRow, hotherRow, hotherQueue⟩ := hread
    obtain ⟨last, hlastRow, -, hline⟩ := exists_latestLine hotherRow hotherQueue
    have hafter := lineNumber_lt hsorted hlastRow hrow
    have hbound := le_latestLine (List.mem_append_right read hrow) hrowQueue
    omega
  rw [mem_queueIds_append, mem_queueIds_bounded] at hqueue
  have hkept := (hqueue.resolve_right hnotMore).2
  apply hkept
  apply evicted_of_earlier hevicted
  . have hnone : closed more queueId = false := by
      rw [← Bool.not_eq_true]
      intro hclosed
      exact hnotMore (mem_queueIds_of_closed hclosed)
    rw [closed_append, hnone, Bool.or_false] at hclosed
    exact hclosed
  . rw [← hlast, ← latestLine_append_of_notMem hnotMore]
    exact hlt

include hpositive hsorted hsettled in
theorem evicted_both {queueId : String} (hqueue : queueId ∈ queueIds (bounded limits read ++ more))
    : evicted limits (bounded limits read ++ more) queueId = true
        ↔ evicted limits (read ++ more) queueId = true := by
  rw [evicted_iff, evicted_iff, closed_both hsettled hqueue]
  apply and_congr_right
  intro hclosed
  have hrank : queueRank (bounded limits read ++ more) queueId = queueRank (read ++ more) queueId := by
    apply Nat.le_antisymm (queueRank_le hpositive hsorted hsettled hqueue)
    apply RowNumber.rowNumber_le_of_forall (nodup_terminalQueues _)
    intro other hother hbefore
    rw [mem_terminalQueues] at hother ⊢
    have hmem := mem_of_queueBefore hsorted hqueue hclosed
      (mem_queueIds_of_closed hother) hbefore
    rw [closed_both hsettled hmem, queueBefore_both hpositive hsorted hqueue hmem]
    exact ⟨hother, hbefore⟩
  rw [hrank]

end Queues

section Rows

variable {row : ProgressEventRow}

theorem partition_sublist {rows others : List ProgressEventRow} (h : rows.Sublist others)
    (queueId : String)
    : (partition rows queueId).Sublist (partition others queueId) :=
  h.filter _

theorem Kept.of_sublist {rows others : List ProgressEventRow} (hsub : rows.Sublist others)
    (h : Kept limits others row)
    : Kept limits rows row := by
  cases h with
  | inl hrecent =>
    have hle := RowNumber.rowNumber_le_of_sublist (newer (·.lineNumber))
      (partition_sublist hsub row.queueId) row
    exact .inl (hle.trans hrecent)
  | inr hrest =>
    cases hrest with
    | inl hfirst => exact .inr (.inl fun other hother => hfirst other (hsub.subset hother))
    | inr hlatest =>
      exact .inr (.inr ⟨hlatest.1, fun other hother => hlatest.2 other (hsub.subset hother)⟩)

theorem mem_both_of_kept (hrow : row ∈ read ++ more) (h : Kept limits (read ++ more) row)
    (hread : ¬evicted limits read row.queueId = true)
    : row ∈ bounded limits read ++ more := by
  rw [List.mem_append] at hrow ⊢
  cases hrow with
  | inr hmore => exact .inr hmore
  | inl hmem =>
    left
    rw [mem_bounded, retained_iff]
    exact ⟨hmem, hread, h.of_sublist (List.sublist_append_left _ _)⟩

include hsorted in
theorem partition_both
    : partition (bounded limits read ++ more) row.queueId
        = (partition (read ++ more) row.queueId).filter
            (fun other => other ∈ bounded limits read ++ more) := by
  have hfewer := (@ascending_both limits read more hsorted).sublist
    (List.filter_sublist (p := (·.queueId = row.queueId)))
  have hmore := (hsorted.sublist (List.filter_sublist (p := (·.queueId = row.queueId)))).sublist
    (List.filter_sublist (p := fun other => other ∈ bounded limits read ++ more))
  apply hfewer.eq_of_mem_iff hmore
  intro other
  rw [List.mem_filter, List.mem_filter, List.mem_filter, decide_eq_true_eq, decide_eq_true_eq]
  constructor
  . rintro ⟨hmem, hqueue⟩
    exact ⟨⟨mem_both hmem, hqueue⟩, hmem⟩
  . rintro ⟨⟨-, hqueue⟩, hmem⟩
    exact ⟨hmem, hqueue⟩

include hsorted in
theorem recentRank_both (hrow : row ∈ read ++ more)
    (hread : ¬evicted limits read row.queueId = true)
    (h : recentRank (bounded limits read ++ more) row ≤ limits.eventsPerQueue)
    : recentRank (read ++ more) row ≤ limits.eventsPerQueue := by
  by_contra hlt
  rw [Nat.not_le] at hlt
  have hpartition := hsorted.sublist (List.filter_sublist (p := (·.queueId = row.queueId)))
  have hbeyond : limits.eventsPerQueue < recentRank (bounded limits read ++ more) row := by
    unfold recentRank
    rw [partition_both hsorted]
    apply RowNumber.lt_rowNumber_filter hpartition _ (mem_partition.mpr ⟨hrow, rfl⟩) hlt
    intro other hother hrank
    rw [List.mem_filter, decide_eq_true_eq] at hother
    rw [decide_eq_true_eq]
    have hkept : Kept limits (read ++ more) other := by
      left
      unfold recentRank
      rw [hother.2]
      exact hrank
    exact mem_both_of_kept hother.1 hkept (hother.2 ▸ hread)
  exact absurd h (Nat.not_le.mpr hbeyond)

include hsorted in
theorem kept_both (hrow : row ∈ bounded limits read ++ more)
    (hread : ¬evicted limits read row.queueId = true)
    : Kept limits (bounded limits read ++ more) row ↔ Kept limits (read ++ more) row := by
  have hwhole := mem_both hrow
  constructor
  . intro h
    cases h with
    | inl hrecent => exact .inl (recentRank_both hsorted hwhole hread hrecent)
    | inr hrest =>
      cases hrest with
      | inl hfirst =>
        obtain ⟨first, hmem, hqueue, hleast⟩ := exists_first hwhole
        have hkept := mem_both_of_kept hmem (.inr (.inl hleast)) (hqueue ▸ hread)
        refine .inr (.inl fun other hother hotherQueue => ?_)
        exact (hfirst first hkept hqueue).trans (hleast other hother (hotherQueue.trans hqueue.symm))
      | inr hlatest =>
        obtain ⟨last, hmem, hqueue, hlast⟩ := exists_latestTerminal hwhole hlatest.1
        have hkept := mem_both_of_kept hmem (.inr (.inr hlast)) (hqueue ▸ hread)
        refine .inr (.inr ⟨hlatest.1, fun other hother hotherQueue hterminal => ?_⟩)
        exact (hlast.2 other hother (hotherQueue.trans hqueue.symm) hterminal).trans
          (hlatest.2 last hkept hqueue hlast.1)
  . intro h
    exact h.of_sublist ((bounded_sublist limits read).append_right more)

end Rows

include hpositive hsorted

theorem mem_bounded_both (hsettled : Settled limits read more) {row : ProgressEventRow}
    : row ∈ bounded limits (bounded limits read ++ more) ↔ row ∈ bounded limits (read ++ more) := by
  rw [mem_bounded, mem_bounded, retained_iff, retained_iff]
  constructor
  . rintro ⟨hrow, hkept, h⟩
    have hqueue : row.queueId ∈ queueIds (bounded limits read ++ more) :=
      mem_queueIds.mpr ⟨row, hrow, rfl⟩
    rw [evicted_both hpositive hsorted hsettled hqueue] at hkept
    have hread : ¬evicted limits read row.queueId = true := by
      intro hevicted
      exact hkept (hsettled _ (mem_more_of_evicted hqueue hevicted) hevicted).2
    exact ⟨mem_both hrow, hkept, (kept_both hsorted hrow hread).mp h⟩
  . rintro ⟨hrow, hkept, h⟩
    have hread : ¬evicted limits read row.queueId = true := by
      intro hevicted
      apply hkept
      by_cases hmore : row.queueId ∈ queueIds more
      . exact (hsettled _ hmore hevicted).2
      . exact evicted_append hevicted hmore
    have hmem := mem_both_of_kept hrow h hread
    have hqueue : row.queueId ∈ queueIds (bounded limits read ++ more) :=
      mem_queueIds.mpr ⟨row, hmem, rfl⟩
    rw [evicted_both hpositive hsorted hsettled hqueue]
    exact ⟨hmem, hkept, (kept_both hsorted hmem hread).mpr h⟩

theorem bounded_both_iff
    : bounded limits (bounded limits read ++ more) = bounded limits (read ++ more)
        ↔ Settled limits read more := by
  constructor
  . intro h queueId hmore hevicted
    rw [mem_queueIds] at hmore
    obtain ⟨row, hrow, hqueue⟩ := hmore
    have hgone : evicted limits (read ++ more) queueId = true := by
      by_contra hkept
      -- its first row was dropped and would have to be there
      obtain ⟨readRow, hreadRow, hreadQueue⟩ :=
        mem_queueIds.mp (mem_queueIds_of_closed (evicted_iff.mp hevicted).1)
      obtain ⟨first, hfirst, hfirstQueue, hleast⟩ :=
        exists_first (List.mem_append_left more hreadRow)
      have hfirstRead : first ∈ read := by
        rw [List.mem_append] at hfirst
        refine hfirst.resolve_right fun hfirstMore => ?_
        have hle := hleast readRow (List.mem_append_left more hreadRow) hfirstQueue.symm
        have hlt := lineNumber_lt hsorted hreadRow hfirstMore
        omega
      rw [hreadQueue] at hfirstQueue
      have hmem : first ∈ bounded limits (read ++ more) := by
        rw [mem_bounded, retained_iff, hfirstQueue]
        exact ⟨hfirst, hkept, .inr (.inl hleast)⟩
      rw [← h, mem_bounded, List.mem_append] at hmem
      cases hmem.1 with
      | inl hbounded =>
        rw [mem_bounded, retained_iff, hfirstQueue] at hbounded
        exact hbounded.2.1 hevicted
      | inr hfirstMore =>
        have hlt := lineNumber_lt hsorted hfirstRead hfirstMore
        omega
    refine ⟨?_, hgone⟩
    have hdropped : evicted limits (bounded limits read ++ more) queueId = true := by
      by_contra hkept
      have hmem : queueId ∈ queueIds (bounded limits (bounded limits read ++ more)) := by
        rw [mem_queueIds_bounded]
        exact ⟨mem_queueIds.mpr ⟨row, List.mem_append_right _ hrow, hqueue⟩, hkept⟩
      rw [h, mem_queueIds_bounded] at hmem
      exact hmem.2 hgone
    have hclosed := (evicted_iff.mp hdropped).1
    rw [closed_append, Bool.or_eq_true] at hclosed
    refine hclosed.resolve_left fun hread => ?_
    have hmem := mem_queueIds_of_closed hread
    rw [mem_queueIds_bounded] at hmem
    exact hmem.2 hevicted
  . intro hsettled
    apply (ascending_bounded (ascending_both hsorted)).eq_of_mem_iff (ascending_bounded hsorted)
    intro row
    exact mem_bounded_both hpositive hsorted hsettled

end Both

end ProgressEventIndex

end AgentProgress
