import AgentHarness.RuntimeQueue.StateIndex
import Mathlib

/-!
The queue-state index against the fold of the ledger.
-/

namespace RuntimeQueue

namespace StateIndex

def SameEntries (left right : Entries) : Prop :=
  ∀ queueId, left.lookup queueId = right.lookup queueId

namespace SameEntries

theorem refl (entries : Entries) : SameEntries entries entries := by
  intro queueId
  rfl

variable {left right : Entries}

theorem trans {middle : Entries} (h : SameEntries left middle) (h' : SameEntries middle right)
    : SameEntries left right := by
  intro queueId
  rw [h queueId, h' queueId]

theorem insert (h : SameEntries left right) (queueId : String) (entry : Entry)
    : SameEntries (left.insert queueId entry) (right.insert queueId entry) := by
  intro other
  rw [FMap.lookup_insert_eq, FMap.lookup_insert_eq, h other]

theorem apply (h : SameEntries left right) (line : LedgerLine)
    : SameEntries (applyRuntimeQueueReceiptToIndex left line)
        (applyRuntimeQueueReceiptToIndex right line) := by
  unfold applyRuntimeQueueReceiptToIndex
  split
  . exact h
  . next queueId status _ =>
    rw [h queueId]
    exact h.insert queueId _

theorem foldl (h : SameEntries left right) (lines : List LedgerLine)
    : SameEntries (lines.foldl applyRuntimeQueueReceiptToIndex left)
        (lines.foldl applyRuntimeQueueReceiptToIndex right) := by
  induction lines generalizing left right with
  | nil => exact h
  | cons line lines ih =>
    rw [List.foldl_cons, List.foldl_cons]
    apply ih
    exact h.apply line

end SameEntries

theorem foldLedger_append (before after : List LedgerLine)
    : foldLedger (before ++ after)
        = after.foldl applyRuntimeQueueReceiptToIndex (foldLedger before) := by
  unfold foldLedger
  rw [List.foldl_append]

section Suppression

def Entry.unmarked (self : Entry) : Entry :=
  { self with
    suppressionRecorded := false
    terminalRunOnceEver := false
    latestStatus := none
    terminalControlSource := none }

theorem unmarked_mark (suppression : Suppression) (entry : Entry)
    : (suppression.mark entry).unmarked = entry.unmarked := rfl

theorem unmarked_apply {left right : Entry} (h : left.unmarked = right.unmarked) (status : String)
    (fields : ReceiptFields)
    : (left.apply status fields).unmarked = (right.apply status fields).unmarked := by
  simp only [Entry.unmarked, Entry.mk.injEq] at h
  unfold Entry.apply
  dsimp only
  split
  . simp [Entry.unmarked, Entry.applySuppressed, Entry.applyLatest, h]
  . split
    . simp [Entry.unmarked, Entry.applyTerminal, Entry.applyLatest, h]
    . simp [Entry.unmarked, Entry.applyLatest, h]

theorem isTerminalRunOnceStatus_suppressed : isTerminalRunOnceStatus "suppressed" = true := by
  decide

theorem apply_suppressed {left right : Entry} (h : left.unmarked = right.unmarked)
    (suppression : Suppression)
    : left.apply "suppressed" suppression.receipt.fields
        = right.apply "suppressed" suppression.receipt.fields := by
  simp only [Entry.unmarked, Entry.mk.injEq] at h
  simp [Entry.apply, Entry.applySuppressed, Entry.applyLatest, Suppression.receipt,
    isTerminalRunOnceStatus_suppressed, h]

/-
The entries agree, but for what a mark may have changed in the entry of one queue.
-/
def SameButMark (queueId : String) (left right : Entries) : Prop :=
  (∀ other, other ≠ queueId → left.lookup other = right.lookup other)
    ∧ ((left.lookup queueId).getD .empty).unmarked = ((right.lookup queueId).getD .empty).unmarked

variable {left right : Entries}

theorem sameButMark_apply {queueId : String} (h : SameButMark queueId left right)
    (line : LedgerLine)
    : SameButMark queueId (applyRuntimeQueueReceiptToIndex left line)
        (applyRuntimeQueueReceiptToIndex right line) := by
  unfold applyRuntimeQueueReceiptToIndex
  split
  . exact h
  . next indexed status _ =>
    constructor
    . intro other hother
      rw [FMap.lookup_insert_eq, FMap.lookup_insert_eq]
      split
      . next heq =>
        rw [← heq, h.1 other hother]
      . exact h.1 other hother
    . rw [FMap.lookup_insert_eq, FMap.lookup_insert_eq]
      split
      . next heq =>
        rw [← heq]
        apply unmarked_apply
        exact h.2
      . exact h.2

theorem indexed_receipt (suppression : Suppression)
    : suppression.receipt.indexed = some (suppression.queueId, "suppressed") := by
  simp [LedgerLine.indexed, Suppression.receipt, Line.record, isTrustedRuntimeRunOnceReceipt,
    RecordSchema.isTrusted]

theorem sameEntries_of_receipt {suppression : Suppression}
    (h : SameButMark suppression.queueId left right)
    : SameEntries (applyRuntimeQueueReceiptToIndex left suppression.receipt)
        (applyRuntimeQueueReceiptToIndex right suppression.receipt) := by
  intro other
  unfold applyRuntimeQueueReceiptToIndex
  rw [indexed_receipt]
  dsimp only
  rw [FMap.lookup_insert_eq, FMap.lookup_insert_eq]
  split
  . rw [apply_suppressed h.2]
  . next hother => exact h.1 other hother

theorem sameEntries_foldl_of_mem {suppression : Suppression} {lines : List LedgerLine}
    (hmem : suppression.receipt ∈ lines) (h : SameButMark suppression.queueId left right)
    : SameEntries (lines.foldl applyRuntimeQueueReceiptToIndex left)
        (lines.foldl applyRuntimeQueueReceiptToIndex right) := by
  induction lines generalizing left right with
  | nil => cases hmem
  | cons line lines ih =>
    rw [List.foldl_cons, List.foldl_cons]
    rw [List.mem_cons] at hmem
    cases hmem with
    | inl heq =>
      rw [← heq]
      apply SameEntries.foldl
      exact sameEntries_of_receipt h
    | inr hmem =>
      apply ih hmem
      exact sameButMark_apply h line

theorem sameButMark_markEntries (suppression : Suppression) (entries : Entries)
    : SameButMark suppression.queueId (suppression.markEntries entries) entries := by
  constructor
  . intro other hother
    unfold Suppression.markEntries
    rw [FMap.lookup_insert_eq, if_neg hother]
  . unfold Suppression.markEntries
    rw [FMap.lookup_insert_eq, if_pos rfl]
    exact unmarked_mark suppression _

end Suppression

section Recorded

def EntryOk (entry : Entry) : Prop :=
  entry.suppressionRecorded = false → entry.runOnceStatusCounts.lookup "suppressed" = none

theorem lookup_countStatus {status : String} (hstatus : status ≠ "suppressed")
    (counts : List (String × Nat))
    : (Entry.countStatus status counts).lookup "suppressed" = counts.lookup "suppressed" := by
  induction counts with
  | nil =>
    have : ("suppressed" == status) = false := by simpa using hstatus.symm
    simp [Entry.countStatus, List.lookup, this]
  | cons head counts ih =>
    unfold Entry.countStatus
    split
    . next heq =>
      have : ("suppressed" == head.1) = false := by simpa [heq] using hstatus.symm
      simp [List.lookup, this]
    . simp only [List.lookup]
      rw [ih]

theorem entryOk_apply {entry : Entry} (h : EntryOk entry) (status : String) (fields : ReceiptFields)
    : EntryOk (entry.apply status fields) := by
  unfold EntryOk Entry.apply
  dsimp only
  split
  . intro hrecorded
    cases hrecorded
  . next hstatus =>
    have hlatest : entry.suppressionRecorded = false →
        (Entry.countStatus status entry.runOnceStatusCounts).lookup "suppressed" = none := by
      rw [lookup_countStatus hstatus]
      exact h
    split
    . exact hlatest
    . exact hlatest

def EntriesOk (entries : Entries) : Prop :=
  ∀ queueId, EntryOk ((entries.lookup queueId).getD .empty)

theorem entriesOk_apply {entries : Entries} (h : EntriesOk entries) (line : LedgerLine)
    : EntriesOk (applyRuntimeQueueReceiptToIndex entries line) := by
  intro other
  unfold applyRuntimeQueueReceiptToIndex
  split
  . exact h other
  . rw [FMap.lookup_insert_eq]
    split
    . apply entryOk_apply
      apply h
    . exact h other

theorem entriesOk_foldLedger (lines : List LedgerLine) : EntriesOk (foldLedger lines) := by
  induction lines using List.reverseRecOn with
  | nil =>
    intro queueId _
    simp [foldLedger, Entry.empty]
  | append_singleton lines line ih =>
    rw [foldLedger_append]
    exact entriesOk_apply ih line

theorem recorded_apply {entry : Entry} {status : String} {fields : ReceiptFields}
    (h : entry.suppressionRecorded = true ∨ status = "suppressed")
    : (entry.apply status fields).suppressionRecorded = true := by
  unfold Entry.apply
  dsimp only
  split
  . rfl
  . next hstatus =>
    have hrecorded := h.resolve_right hstatus
    split
    . exact hrecorded
    . exact hrecorded

theorem isRecorded_apply {suppression : Suppression} {entries : Entries} {line : LedgerLine}
    (h : suppression.isRecorded entries ∨ line = suppression.receipt)
    : suppression.isRecorded (applyRuntimeQueueReceiptToIndex entries line) := by
  unfold Suppression.isRecorded at h ⊢
  cases h with
  | inl hrecorded =>
    unfold applyRuntimeQueueReceiptToIndex
    split
    . exact hrecorded
    . rw [FMap.lookup_insert_eq]
      split
      . next heq =>
        rw [Option.any_some]
        apply recorded_apply
        left
        rw [← heq]
        cases hentry : entries.lookup suppression.queueId with
        | none => simp [hentry] at hrecorded
        | some entry => simpa [hentry] using hrecorded
      . exact hrecorded
  | inr heq =>
    rw [heq]
    unfold applyRuntimeQueueReceiptToIndex
    rw [indexed_receipt]
    dsimp only
    rw [FMap.lookup_insert_eq, if_pos rfl, Option.any_some]
    exact recorded_apply (.inr rfl)

theorem isRecorded_of_mem {suppression : Suppression} {lines : List LedgerLine}
    (h : suppression.receipt ∈ lines)
    : suppression.isRecorded (foldLedger lines) := by
  induction lines using List.reverseRecOn with
  | nil => cases h
  | append_singleton lines line ih =>
    rw [foldLedger_append]
    apply isRecorded_apply
    rw [List.mem_append, List.mem_singleton] at h
    cases h with
    | inl hmem => exact .inl (ih hmem)
    | inr heq => exact .inr heq.symm

end Recorded

end StateIndex

end RuntimeQueue
