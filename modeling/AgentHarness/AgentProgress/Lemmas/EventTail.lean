import AgentHarness.AgentProgress.Lemmas.Rebound
import AgentHarness.ChannelDelivery.Lemmas.Tail

/-!
A progress ledger that grows by whole lines: what a refresh gathers from its tail, or from its start.
-/

namespace AgentProgress

open ChannelDelivery (LedgerFile rawLines Closed CursorAt)

namespace ProgressEventIndex

variable (json : ProgressJson)

attribute [local simp] eventRows in
theorem eventRows_cons (lineNumber : Nat) (raw : List UInt8) (raws : List (List UInt8))
    : eventRows json lineNumber (raw :: raws)
        = eventRows json lineNumber [raw] ++ eventRows json (lineNumber + 1) raws := by
  simp only [eventRows]
  split
  . rfl
  . split
    . rfl
    . rfl

theorem eventRows_append (lineNumber : Nat) (raws others : List (List UInt8))
    : eventRows json lineNumber (raws ++ others)
        = eventRows json lineNumber raws ++ eventRows json (lineNumber + raws.length) others := by
  induction raws generalizing lineNumber with
  | nil => rfl
  | cons raw raws ih =>
    rw [List.cons_append, eventRows_cons, ih, eventRows_cons json lineNumber raw raws,
      List.append_assoc, List.length_cons, Nat.add_assoc, Nat.add_comm 1]

theorem mem_eventRows {lineNumber : Nat} {raws : List (List UInt8)} {row : ProgressEventRow}
    (h : row ∈ eventRows json lineNumber raws)
    : lineNumber < row.lineNumber ∧ row.lineNumber ≤ lineNumber + raws.length
      ∧ ∃ event, json.event row.eventJson = .ok event ∧ row.queueId = event.queueId
        ∧ row.isTerminal = progressEventIsTerminal event := by
  induction raws generalizing lineNumber with
  | nil => cases h
  | cons raw raws ih =>
    rw [eventRows_cons, List.mem_append] at h
    rw [List.length_cons]
    cases h with
    | inr hrest =>
      obtain ⟨hlow, hhigh, hevent⟩ := ih hrest
      exact ⟨by omega, by omega, hevent⟩
    | inl hfirst =>
      simp only [eventRows] at hfirst
      split at hfirst
      . cases hfirst
      . next line _ =>
        cases hevent : lineEvent json (Text.trim line) with
        | none => simp [hevent] at hfirst
        | some event =>
          rw [hevent, List.mem_singleton] at hfirst
          rw [hfirst]
          refine ⟨by simp [insertProgressEvent], by simp [insertProgressEvent], event, ?_, rfl, rfl⟩
          unfold lineEvent at hevent
          split at hevent
          . cases hevent
          . split at hevent
            . cases hevent
            . next hparse =>
              split at hevent
              . cases hevent
              . cases hevent
                exact hparse

theorem ascending_eventRows (lineNumber : Nat) (raws : List (List UInt8))
    : Ascending (eventRows json lineNumber raws) := by
  induction raws generalizing lineNumber with
  | nil => exact .nil
  | cons raw raws ih =>
    rw [eventRows_cons]
    apply List.pairwise_append.mpr
    refine ⟨?_, ih _, ?_⟩
    . simp only [eventRows]
      split
      . exact .nil
      . split
        . exact .nil
        . exact List.pairwise_singleton _ _
    . intro row hrow other hother
      have hrow := (mem_eventRows json hrow).2.1
      have hother := (mem_eventRows json hother).1
      simp only [List.length_singleton] at hrow
      omega

def Readable (raws : List (List UInt8)) : Prop :=
  ∀ raw ∈ raws, ∃ line, TextFile.decode raw = some line

def wholeRead (offsetBytes lineNumber : Nat) (raws : List (List UInt8)) : Read where
  rows := eventRows json lineNumber raws
  offsetBytes := offsetBytes + raws.flatten.length
  lineNumber := lineNumber + raws.length
  total := raws.length
  valid := (eventRows json lineNumber raws).length
  invalid := raws.length - (eventRows json lineNumber raws).length

theorem length_eventRows_le (lineNumber : Nat) (raws : List (List UInt8))
    : (eventRows json lineNumber raws).length ≤ raws.length := by
  induction raws generalizing lineNumber with
  | nil => simp [eventRows]
  | cons raw raws ih =>
    have hle := ih (lineNumber + 1)
    simp only [eventRows, List.length_cons]
    split
    . omega
    . split
      . omega
      . rw [List.length_cons]
        omega

theorem readProgressEvents_complete {raws : List (List UInt8)}
    (hcomplete : ∀ raw ∈ raws, raw.getLast? = some TextFile.newline) (offsetBytes lineNumber : Nat)
    (read : Read)
    : readProgressEvents json offsetBytes lineNumber raws = .ok read
        ↔ Readable raws ∧ read = wholeRead json offsetBytes lineNumber raws := by
  induction raws generalizing offsetBytes lineNumber read with
  | nil => simp [readProgressEvents, Readable, wholeRead, eventRows, eq_comm]
  | cons raw raws ih =>
    rw [List.forall_mem_cons] at hcomplete
    have hlength := length_eventRows_le json (lineNumber + 1) raws
    rw [readProgressEvents, Except.bind_eq_ok]
    simp only [Except.ofOption_eq_ok, hcomplete.1, decide_true, Bool.not_true, Bool.false_and,
      Bool.false_eq_true, if_false, Except.bind_eq_ok, ih hcomplete.2, Except.pure_eq_ok]
    unfold Readable
    rw [List.forall_mem_cons]
    constructor
    . rintro ⟨line, hline, _, ⟨hrest, rfl⟩, rfl⟩
      refine ⟨⟨⟨line, hline⟩, hrest⟩, ?_⟩
      cases hevent : lineEvent json (Text.trim line) with
      | none =>
        simp [wholeRead, eventRows, hline, hevent]
        omega
      | some event =>
        simp [wholeRead, eventRows, hline, hevent]
        omega
    . rintro ⟨⟨⟨line, hline⟩, hrest⟩, rfl⟩
      refine ⟨line, hline, _, ⟨hrest, rfl⟩, ?_⟩
      cases hevent : lineEvent json (Text.trim line) with
      | none =>
        simp [wholeRead, eventRows, hline, hevent]
        omega
      | some event =>
        simp [wholeRead, eventRows, hline, hevent]
        omega

structure Stands (index : ProgressEventIndex) (lines : List UInt8) : Prop where
  cursor : ∃ cursor, index.cursor = some cursor ∧ CursorAt cursor.toLedgerCursor lines
  totalLines : index.totalLines = (rawLines lines).length
  validLines : index.validLines = (eventRows json 0 (rawLines lines)).length
  invalidLines : index.invalidLines
    = (rawLines lines).length - (eventRows json 0 (rawLines lines)).length

variable {json}

section Read

variable {file : LedgerFile} {lines rest : List UInt8}

theorem readProgressEventsFromCursor_eq_ok {index gathered : ProgressEventIndex}
    {cursor : ProgressEventLedgerCursor} (hclosed : Closed rest) (hlines : Closed lines)
    (hbytes : file.bytes = lines ++ rest) (hoffset : cursor.offsetBytes = lines.length)
    (hline : cursor.lineNumber = (rawLines lines).length)
    : index.readProgressEventsFromCursor json file cursor = .ok gathered
        ↔ Readable (rawLines rest)
          ∧ gathered = {
            rows := index.rows ++ eventRows json (rawLines lines).length (rawLines rest)
            cursor := some {
              ChannelDelivery.cursorFromProcessedLedger file (lines ++ rest).length
                (rawLines (lines ++ rest)).length with
              projectionGeneration := cursor.projectionGeneration }
            totalLines := index.totalLines + (rawLines rest).length
            validLines := index.validLines
              + (eventRows json (rawLines lines).length (rawLines rest)).length
            invalidLines := index.invalidLines + ((rawLines rest).length
              - (eventRows json (rawLines lines).length (rawLines rest)).length) } := by
  have hstart : min cursor.offsetBytes file.bytes.length = lines.length := by
    rw [hoffset, hbytes, List.length_append]
    omega
  have hnumber : (if cursor.offsetBytes > file.bytes.length then 0 else cursor.lineNumber)
      = (rawLines lines).length := by
    rw [if_neg, hline]
    rw [hoffset, hbytes, List.length_append]
    omega
  have hdrop : file.bytes.drop lines.length = rest := by
    rw [hbytes, List.drop_left]
  unfold readProgressEventsFromCursor
  dsimp only
  rw [hstart, hnumber, hdrop, Except.bind_eq_ok]
  simp only [readProgressEvents_complete json (ChannelDelivery.complete_of_closed hclosed),
    Except.pure_eq_ok]
  have hend : (rawLines (lines ++ rest)).length
      = (rawLines lines).length + (rawLines rest).length := by
    rw [ChannelDelivery.rawLines_append hlines, List.length_append]
  constructor
  . rintro ⟨_, ⟨hreadable, rfl⟩, rfl⟩
    refine ⟨hreadable, ?_⟩
    rw [hend, List.length_append]
    simp only [wholeRead, ChannelDelivery.rawLines_flatten]
  . rintro ⟨hreadable, rfl⟩
    refine ⟨_, ⟨hreadable, rfl⟩, ?_⟩
    rw [hend, List.length_append]
    simp only [wholeRead, ChannelDelivery.rawLines_flatten]

theorem exists_readFromCursor (index : ProgressEventIndex) {cursor : ProgressEventLedgerCursor}
    (hclosed : Closed rest) (hlines : Closed lines) (hbytes : file.bytes = lines ++ rest)
    (hoffset : cursor.offsetBytes = lines.length)
    (hline : cursor.lineNumber = (rawLines lines).length) (hreadable : Readable (rawLines rest))
    : ∃ gathered, index.readProgressEventsFromCursor json file cursor = .ok gathered :=
  ⟨_, (readProgressEventsFromCursor_eq_ok hclosed hlines hbytes hoffset hline).mpr ⟨hreadable, rfl⟩⟩

theorem eventRows_lines (json : ProgressJson) (hlines : Closed lines) (rest : List UInt8)
    : eventRows json 0 (rawLines (lines ++ rest))
        = eventRows json 0 (rawLines lines)
          ++ eventRows json (rawLines lines).length (rawLines rest) := by
  rw [ChannelDelivery.rawLines_append hlines, eventRows_append, Nat.zero_add]

theorem readable_lines (hlines : Closed lines)
    : Readable (rawLines (lines ++ rest)) ↔ Readable (rawLines lines) ∧ Readable (rawLines rest) := by
  unfold Readable
  rw [ChannelDelivery.rawLines_append hlines, List.forall_mem_append]

end Read

/-
The index was made from the first lines of the ledger, and the rest of it was appended since. `read` is
empty when it was not made from anything yet.
-/
structure Behind (json : ProgressJson) (index : ProgressEventIndex) (file : LedgerFile)
    (read rest : List UInt8)
    : Prop where
  bytes : file.bytes = read ++ rest
  readClosed : Closed read
  restClosed : Closed rest
  readable : Readable (rawLines read)
  stands : index = {} ∧ read = [] ∨ Stands json index read

section Gather

variable {index gathered : ProgressEventIndex} {file : LedgerFile} {read rest : List UInt8}
variable (h : Behind json index file read rest)
include h

theorem Behind.mode_cases
    : progressEventRefreshMode file index.cursor = .current ∧ rest = []
      ∨ (∃ cursor, progressEventRefreshMode file index.cursor = .append cursor
          ∧ rest ≠ [] ∧ Stands json index read ∧ CursorAt cursor read)
      ∨ ∃ reason, progressEventRefreshMode file index.cursor = .rebuild reason
          ∧ (index = {} ∧ read = [] ∨ rest = []) := by
  cases h.stands with
  | inl hempty =>
    right
    right
    rw [hempty.1]
    exact ⟨_, rfl, .inl ⟨rfl, hempty.2⟩⟩
  | inr hstands =>
    obtain ⟨cursor, hcursor, hat⟩ := hstands.cursor
    have hmode : progressEventRefreshMode file index.cursor = _ :=
      (congrArg (progressEventRefreshMode file) hcursor).trans
        (hat.ledgerRefreshMode h.bytes "progress event ledger")
    rw [hmode]
    by_cases hrest : rest = []
    . rw [if_pos hrest]
      by_cases hmodified : some file.modifiedAtUnixNanos = cursor.sourceModifiedAtUnixNanos
      . rw [if_pos hmodified]
        exact .inl ⟨rfl, hrest⟩
      . rw [if_neg hmodified]
        exact .inr (.inr ⟨_, rfl, .inr hrest⟩)
    . rw [if_neg hrest]
      exact .inr (.inl ⟨_, rfl, hrest, hstands, hat⟩)

theorem Behind.whole_closed : Closed (read ++ rest) :=
  h.readClosed.append h.restClosed

theorem Behind.gather_eq_ok (hgather : index.gather json file = .ok gathered)
    : Readable (rawLines (read ++ rest))
      ∧ (Stands json gathered (read ++ rest))
      ∧ (gathered.rows = index.rows ++ eventRows json (rawLines read).length (rawLines rest)
        ∨ rest = [] ∧ gathered.rows = eventRows json 0 (rawLines read)) := by
  have hat : ∀ generation, ∃ cursor : ProgressEventLedgerCursor, some
      { ChannelDelivery.cursorFromProcessedLedger file (read ++ rest).length
          (rawLines (read ++ rest)).length with projectionGeneration := generation } = some cursor
        ∧ CursorAt cursor.toLedgerCursor (read ++ rest) := by
    intro generation
    refine ⟨_, rfl, ?_⟩
    apply @ChannelDelivery.cursorAt_processed file (read ++ rest) [] h.whole_closed
    rw [h.bytes, List.append_nil]
  rw [readable_lines h.readClosed]
  unfold gather at hgather
  obtain ⟨hmode, hrest⟩ | ⟨cursor, hmode, -, hstands, hcursor⟩ | ⟨reason, hmode, hwhere⟩ :=
    h.mode_cases
  . rw [hmode] at hgather
    obtain rfl := Except.ok.inj hgather
    rw [hrest, List.append_nil]
    refine ⟨⟨h.readable, List.forall_mem_nil _⟩, ?_, .inl (List.append_nil _).symm⟩
    cases h.stands with
    | inr hstands => exact hstands
    | inl hempty =>
      exfalso
      rw [hempty.1] at hmode
      cases hmode
  . rw [hmode] at hgather
    dsimp only at hgather
    rw [readProgressEventsFromCursor_eq_ok h.restClosed h.readClosed h.bytes hcursor.offsetBytes
      hcursor.lineNumber] at hgather
    obtain ⟨hreadable, rfl⟩ := hgather
    refine ⟨⟨h.readable, hreadable⟩, ?_, .inl rfl⟩
    have hle := length_eventRows_le json 0 (rawLines read)
    have hleRest := length_eventRows_le json (rawLines read).length (rawLines rest)
    constructor
    . exact hat _
    . dsimp only
      rw [hstands.totalLines, ChannelDelivery.rawLines_append h.readClosed, List.length_append]
    . dsimp only
      rw [hstands.validLines, eventRows_lines json h.readClosed, List.length_append]
    . dsimp only
      rw [hstands.invalidLines, eventRows_lines json h.readClosed,
        ChannelDelivery.rawLines_append h.readClosed, List.length_append, List.length_append]
      omega
  . rw [hmode] at hgather
    dsimp only at hgather
    rw [@readProgressEventsFromCursor_eq_ok json file [] (read ++ rest) {} gathered _ h.whole_closed
      ChannelDelivery.closed_nil h.bytes rfl rfl, readable_lines h.readClosed] at hgather
    obtain ⟨hreadable, rfl⟩ := hgather
    refine ⟨hreadable, ?_, ?_⟩
    . constructor
      . exact hat _
      . exact Nat.zero_add _
      . exact Nat.zero_add _
      . exact Nat.zero_add _
    . cases hwhere with
      | inl hempty =>
        rw [hempty.2, hempty.1]
        exact .inl rfl
      | inr hrest =>
        rw [hrest, List.append_nil]
        exact .inr ⟨rfl, rfl⟩

theorem Behind.exists_gather (hreadable : Readable (rawLines rest))
    : ∃ gathered, index.gather json file = .ok gathered := by
  unfold gather
  obtain ⟨hmode, -⟩ | ⟨cursor, hmode, -, -, hcursor⟩ | ⟨reason, hmode, -⟩ := h.mode_cases
  . rw [hmode]
    exact ⟨_, rfl⟩
  . rw [hmode]
    exact exists_readFromCursor index h.restClosed h.readClosed h.bytes hcursor.offsetBytes
      hcursor.lineNumber hreadable
  . rw [hmode]
    apply @exists_readFromCursor json file [] (read ++ rest) {} _ h.whole_closed
      ChannelDelivery.closed_nil h.bytes rfl rfl
    exact (readable_lines h.readClosed).mpr ⟨h.readable, hreadable⟩

theorem Behind.fresh : Behind json {} file [] (read ++ rest) where
  bytes := h.bytes
  readClosed := ChannelDelivery.closed_nil
  restClosed := h.whole_closed
  readable := List.forall_mem_nil _
  stands := .inl ⟨rfl, rfl⟩

end Gather

end ProgressEventIndex

end AgentProgress
