import AgentHarness.RuntimeQueue.Lemmas.StateIndex

/-!
Refreshes, suppression records, appends and compactions side by side.
-/

namespace RuntimeQueue

namespace StateIndex

section Cursor

theorem bytes_pos (line : LedgerLine) : 0 < line.bytes := by
  unfold LedgerLine.bytes
  split
  . omega
  . omega
  . omega

theorem ledgerBytes_append (before after : List LedgerLine)
    : ledgerBytes (before ++ after) = ledgerBytes before + ledgerBytes after := by
  simp [ledgerBytes]

theorem ledgerBytes_eq_zero {lines : List LedgerLine} (h : ledgerBytes lines = 0) : lines = [] := by
  cases lines with
  | nil => rfl
  | cons line lines =>
    have hpos := bytes_pos line
    simp only [ledgerBytes, List.map_cons, List.sum_cons] at h
    omega

variable (cut : LedgerLine → Nat → LedgerLine)

theorem tailFrom_zero (lines : List LedgerLine) : tailFrom cut 0 lines = lines := by
  cases lines with
  | nil => rfl
  | cons line lines =>
    have hpos := bytes_pos line
    have : ¬ line.bytes ≤ 0 := by omega
    simp [tailFrom, this]

theorem tailFrom_append (before after : List LedgerLine)
    : tailFrom cut (ledgerBytes before) (before ++ after) = after := by
  induction before with
  | nil => exact tailFrom_zero cut after
  | cons line before ih =>
    have hbytes : ledgerBytes (line :: before) = line.bytes + ledgerBytes before := by
      simp [ledgerBytes]
    have hle : line.bytes ≤ ledgerBytes (line :: before) := by omega
    have hsub : ledgerBytes (line :: before) - line.bytes = ledgerBytes before := by omega
    simp only [List.cons_append, tailFrom, if_pos hle, hsub]
    exact ih

structure Cursor.At (cursor : Cursor) (lines : List LedgerLine) : Prop where
  offsetBytes : cursor.offsetBytes = ledgerBytes lines
  prefixTail : cursor.prefixTail = prefixTailFingerprint lines

theorem prefix_of_matches {cursor : Cursor} {before lines : List LedgerLine}
    (hat : cursor.At before) (h : prefixTailMatches lines cursor)
    : ∃ after, lines = before ++ after := by
  unfold prefixTailMatches at h
  rw [hat.offsetBytes, hat.prefixTail] at h
  split at h
  . next hzero =>
    rw [ledgerBytes_eq_zero hzero]
    exact ⟨lines, rfl⟩
  . next hzero =>
    simp only [prefixTailFingerprint, hzero, if_false, Option.any_some, Bool.and_eq_true] at h
    cases List.isPrefixOf_iff_prefix.mp h.1 with
    | intro after hafter => exact ⟨after, hafter.symm⟩

end Cursor

def Index.Plain (self : Index) : Prop :=
  ∃ before, self.cursor.At before ∧ SameEntries self.entries (foldLedger before)

def Index.Marked (self : Index) (lines : List LedgerLine) : Prop :=
  ∃ before, ∃ suppression : Suppression, self.cursor.At before
    ∧ SameEntries self.entries (suppression.markEntries (foldLedger before))
    ∧ suppression.isRecorded (foldLedger before) = false
    ∧ suppression.receipt ∈ lines

def Index.Consistent (self : Index) (lines : List LedgerLine) : Prop :=
  self.Plain ∨ self.Marked lines

variable {index : Index}

theorem Index.Consistent.mono {lines lines' : List LedgerLine} (h : index.Consistent lines)
    (hsub : ∀ line ∈ lines, line ∈ lines')
    : index.Consistent lines' := by
  cases h with
  | inl hplain => exact .inl hplain
  | inr hmarked =>
    cases hmarked with
    | intro before h =>
      cases h with
      | intro suppression h => exact .inr ⟨before, suppression, h.1, h.2.1, h.2.2.1, hsub _ h.2.2.2⟩

theorem plain_mark (h : index.Plain) {suppression : Suppression}
    (hrecorded : suppression.isRecorded index.entries = false) {lines : List LedgerLine}
    (hmem : suppression.receipt ∈ lines)
    : Index.Marked { index with entries := suppression.markEntries index.entries } lines := by
  cases h with
  | intro before h =>
    refine ⟨before, suppression, h.1, ?_, ?_, hmem⟩
    . unfold Suppression.markEntries
      rw [h.2 suppression.queueId]
      exact h.2.insert _ _
    . unfold Suppression.isRecorded at hrecorded ⊢
      rw [← h.2 suppression.queueId]
      exact hrecorded

theorem Index.Marked.isAhead {lines : List LedgerLine} (h : index.Marked lines)
    : index.IsAhead := by
  cases h with
  | intro before h =>
    cases h with
    | intro suppression h =>
      have hlookup := h.2.1 suppression.queueId
      unfold Suppression.markEntries at hlookup
      rw [FMap.lookup_insert_eq, if_pos rfl] at hlookup
      refine ⟨suppression.queueId, _, hlookup, rfl, ?_⟩
      apply entriesOk_foldLedger before suppression.queueId
      have hrecorded := h.2.2.1
      unfold Suppression.isRecorded at hrecorded
      cases hentry : (foldLedger before).lookup suppression.queueId with
      | none => rfl
      | some entry => simpa [hentry] using hrecorded

theorem Index.Consistent.plain_of_not_ahead {lines : List LedgerLine} (h : index.Consistent lines)
    (hahead : ¬ index.IsAhead)
    : index.Plain := by
  cases h with
  | inl hplain => exact hplain
  | inr hmarked => exact absurd hmarked.isAhead hahead

theorem mem_after {before after : List LedgerLine} {suppression : Suppression}
    (hrecorded : suppression.isRecorded (foldLedger before) = false)
    (hmem : suppression.receipt ∈ before ++ after)
    : suppression.receipt ∈ after := by
  rw [List.mem_append] at hmem
  cases hmem with
  | inl hbefore =>
    have := isRecorded_of_mem hbefore
    rw [hrecorded] at this
    cases this
  | inr hafter => exact hafter

section Read

variable (cut : LedgerLine → Nat → LedgerLine)

theorem read_consistent {file : LedgerFile} {index : Index} (h : index.Consistent file.lines)
    (hmatches : prefixTailMatches file.lines index.cursor)
    : SameEntries (readRuntimeQueueReceiptsFromCursor cut file index).entries
        (foldLedger file.lines) := by
  unfold readRuntimeQueueReceiptsFromCursor
  dsimp only
  cases h with
  | inl hplain =>
    cases hplain with
    | intro before hplain =>
      cases prefix_of_matches hplain.1 hmatches with
      | intro after hlines =>
        rw [hplain.1.offsetBytes, hlines, tailFrom_append, foldLedger_append]
        exact hplain.2.foldl after
  | inr hmarked =>
    cases hmarked with
    | intro before hmarked =>
      cases hmarked with
      | intro suppression hmarked =>
        cases prefix_of_matches hmarked.1 hmatches with
        | intro after hlines =>
          have hmem := hmarked.2.2.2
          rw [hlines] at hmem
          rw [hmarked.1.offsetBytes, hlines, tailFrom_append, foldLedger_append]
          apply (hmarked.2.1.foldl after).trans
          apply sameEntries_foldl_of_mem (mem_after hmarked.2.2.1 hmem)
          exact sameButMark_markEntries suppression _

theorem read_at (file : LedgerFile) (index : Index)
    : (readRuntimeQueueReceiptsFromCursor cut file index).cursor.At file.lines where
  offsetBytes := rfl
  prefixTail := rfl

theorem plain_read {file : LedgerFile} {index : Index} (h : index.Consistent file.lines)
    (hmatches : prefixTailMatches file.lines index.cursor)
    : (readRuntimeQueueReceiptsFromCursor cut file index).Plain :=
  ⟨file.lines, read_at cut file index, read_consistent cut h hmatches⟩

theorem at_start : Cursor.start.At [] where
  offsetBytes := rfl
  prefixTail := rfl

theorem rebuild_entries (ledger : Option LedgerFile)
    : SameEntries (rebuildRuntimeQueueStateIndex cut ledger).entries
        (foldLedger ((ledger.map (·.lines)).getD [])) := by
  cases ledger with
  | none => exact SameEntries.refl _
  | some file =>
    apply read_consistent
    . exact .inl ⟨[], at_start, SameEntries.refl _⟩
    . rfl

theorem plain_rebuild (ledger : Option LedgerFile)
    : (rebuildRuntimeQueueStateIndex cut ledger).Plain := by
  refine ⟨(ledger.map (·.lines)).getD [], ?_, rebuild_entries cut ledger⟩
  cases ledger with
  | none => exact at_start
  | some file => exact read_at cut file _

end Read

theorem lines_of_current {file : LedgerFile} {cursor : Cursor} {before : List LedgerLine}
    (hat : cursor.At before) (hcheck : checkCursor file cursor = .current)
    : file.lines = before := by
  have hcurrent : ledgerBytes file.lines = cursor.offsetBytes
      ∧ prefixTailMatches file.lines cursor = true := by
    unfold checkCursor at hcheck
    dsimp only at hcheck
    split at hcheck
    . cases hcheck
    . split at hcheck
      . cases hcheck
      . split at hcheck
        . next hlen =>
          split at hcheck
          . next hmatches =>
            rw [Bool.and_eq_true] at hmatches
            exact ⟨hlen, hmatches.2⟩
          . cases hcheck
        . split at hcheck
          . cases hcheck
          . cases hcheck
  cases prefix_of_matches hat hcurrent.2 with
  | intro after hafter =>
    have hbytes := hcurrent.1
    rw [hat.offsetBytes, hafter, ledgerBytes_append] at hbytes
    have hnil : after = [] := ledgerBytes_eq_zero (by omega)
    rw [hafter, hnil, List.append_nil]

theorem plain_of_current {file : LedgerFile} (h : index.Consistent file.lines)
    (hcheck : checkCursor file index.cursor = .current)
    : index.Plain ∧ SameEntries index.entries (foldLedger file.lines) := by
  cases h with
  | inl hplain =>
    refine ⟨hplain, ?_⟩
    cases hplain with
    | intro before hplain =>
      rw [lines_of_current hplain.1 hcheck]
      exact hplain.2
  | inr hmarked =>
    exfalso
    cases hmarked with
    | intro before hmarked =>
      cases hmarked with
      | intro suppression hmarked =>
        have hmem := hmarked.2.2.2
        rw [lines_of_current hmarked.1 hcheck] at hmem
        have := isRecorded_of_mem hmem
        rw [hmarked.2.2.1] at this
        cases this

theorem matches_of_behind {file : LedgerFile} {cursor : Cursor}
    (hcheck : checkCursor file cursor = .behind)
    : prefixTailMatches file.lines cursor := by
  unfold checkCursor at hcheck
  dsimp only at hcheck
  split at hcheck
  . cases hcheck
  . split at hcheck
    . cases hcheck
    . split at hcheck
      . split at hcheck
        . cases hcheck
        . cases hcheck
      . split at hcheck
        . next hmatches => exact hmatches
        . cases hcheck

section Invariant

def PhaseOk (lines : List LedgerLine) (phase : Phase) : Prop :=
  match phase with
  | .checking _ index | .tailing _ index | .appended index => index.Consistent lines
  | .saving _ index | .rebuilt _ index | .refreshed _ index => index.Plain
  | .compacting index | .rewriting index => index.Plain
  | _ => True

variable {phase : Phase} {index : Index} {t : System} {task : Task}

theorem PhaseOk.mono {lines lines' : List LedgerLine} (h : PhaseOk lines phase)
    (hkeep : ∀ index, phase.held = some index → index.Consistent lines → index.Consistent lines')
    : PhaseOk lines' phase := by
  cases phase with
  | checking task index => exact hkeep index rfl h
  | tailing task index => exact hkeep index rfl h
  | appended index => exact hkeep index rfl h
  | _ => exact h

def Phase.isLocked (self : Phase) : Bool :=
  match self with
  | .rebuilt _ _ | .measuring _ | .compacting _ | .snapshotting | .removing _ => true
  | .replacing _ | .unmarking | .rereading | .rewriting _ => true
  | _ => false

def Phase.isMarked (self : Phase) : Bool :=
  match self with
  | .removing _ | .replacing _ | .unmarking => true
  | _ => false

def Phase.isReplacing (self : Phase) : Bool :=
  match self with
  | .replacing _ => true
  | _ => false

theorem not_isMarked (h : phase.isLocked = false) : phase.isMarked = false := by
  cases phase with
  | removing kept => cases h
  | replacing kept => cases h
  | unmarking => cases h
  | _ => rfl

theorem isLocked_of_isReplacing (h : phase.isReplacing = true)
    : phase.isLocked = true := by
  cases phase with
  | replacing kept => rfl
  | _ => cases h

structure Inv (s : System) : Prop where
  index : ∀ index, s.index = some index → index.Consistent s.lines
  phases : ∀ i, PhaseOk s.lines (s.phase i)
  locked : ∀ i, (s.phase i).isLocked = true ↔ s.lock = some i
  marked : s.marker = true → ∃ i, (s.phase i).isMarked = true
  removed : ∀ i, (s.phase i).isReplacing = true → s.ledger = none

def KeepsIndexes (s t : System) : Prop :=
  ∀ index, (s.index = some index ∨ ∃ j, (s.phase j).held = some index) →
    index.Consistent s.lines → index.Consistent t.lines

theorem keepsIndexes_of_lines {s : System} (h : ∀ line ∈ s.lines, line ∈ t.lines)
    : KeepsIndexes s t := by
  intro index _ hconsistent
  exact hconsistent.mono h

variable {s : System}

@[simp]
theorem goto_phase_same (s : System) (i : Nat) (phase : Phase) : (s.goto i phase).phase i = phase := by
  simp [System.goto]

theorem goto_phase_ne (s : System) {i j : Nat} (phase : Phase) (h : j ≠ i)
    : (s.goto i phase).phase j = s.phase j := by
  simp [System.goto, h]

theorem Inv.move (hinv : Inv s) {i : Nat} (hphase : t.phase = s.phase) (hkeep : KeepsIndexes s t)
    (hindex : ∀ index, t.index = some index → s.index = some index ∨ index.Consistent t.lines)
    (hok : PhaseOk t.lines phase) (hlock : phase.isLocked = true ↔ t.lock = some i)
    (hothers : ∀ j, j ≠ i → (t.lock = some j ↔ s.lock = some j)) (hmarked : t.marker = true →
      phase.isMarked = true ∨ (s.marker = true ∧ (s.phase i).isMarked = false))
    (hreplacing : phase.isReplacing = true → t.ledger = none)
    (hremoved : ∀ j, j ≠ i → (s.phase j).isReplacing = true → t.ledger = none)
    : Inv (t.goto i phase) := by
  constructor
  . intro index hi
    cases hindex index hi with
    | inl hold => exact hkeep index (.inl hold) (hinv.index index hold)
    | inr hnew => exact hnew
  . intro j
    by_cases hj : j = i
    . subst hj
      rw [goto_phase_same]
      exact hok
    . rw [goto_phase_ne t phase hj, hphase]
      apply (hinv.phases j).mono
      intro index hheld
      exact hkeep index (.inr ⟨j, hheld⟩)
  . intro j
    by_cases hj : j = i
    . subst hj
      rw [goto_phase_same]
      exact hlock
    . rw [goto_phase_ne t phase hj, hphase, hinv.locked j]
      exact (hothers j hj).symm
  . intro hmarker
    cases hmarked hmarker with
    | inl hi =>
      refine ⟨i, ?_⟩
      rw [goto_phase_same]
      exact hi
    | inr hold =>
      cases hinv.marked hold.1 with
      | intro j hj =>
        have hne : j ≠ i := by
          intro heq
          rw [heq, hold.2] at hj
          cases hj
        refine ⟨j, ?_⟩
        rw [goto_phase_ne t phase hne, hphase]
        exact hj
  . intro j hj
    by_cases hji : j = i
    . rw [hji, goto_phase_same] at hj
      exact hreplacing hj
    . rw [goto_phase_ne t phase hji, hphase] at hj
      exact hremoved j hji hj

theorem Inv.goto (hinv : Inv s) {i : Nat} (hi : (s.phase i).isLocked = false)
    (hphase : phase.isLocked = false) (hok : PhaseOk s.lines phase)
    : Inv (s.goto i phase) := by
  have hfree : s.lock ≠ some i := by
    intro hlock
    rw [(hinv.locked i).mpr hlock] at hi
    cases hi
  apply hinv.move
  . rfl
  . apply keepsIndexes_of_lines
    intro line hline
    exact hline
  . intro index hindex
    exact .inl hindex
  . exact hok
  . simp [hphase, hfree]
  . intro j _
    rfl
  . intro hmarker
    exact .inr ⟨hmarker, not_isMarked hi⟩
  . intro hreplacing
    rw [isLocked_of_isReplacing hreplacing] at hphase
    cases hphase
  . intro j _ hj
    exact hinv.removed j hj

theorem Inv.not_isReplacing (hinv : Inv s) {i j : Nat} (hlock : s.lock = none ∨ s.lock = some i)
    (hj : j ≠ i)
    : (s.phase j).isReplacing = false := by
  cases hreplacing : (s.phase j).isReplacing with
  | false => rfl
  | true =>
    have hlocked := (hinv.locked j).mp (isLocked_of_isReplacing hreplacing)
    cases hlock with
    | inl hnone =>
      rw [hnone] at hlocked
      cases hlocked
    | inr hi =>
      rw [hi, Option.some.injEq] at hlocked
      exact absurd hlocked.symm hj

theorem lines_appendJsonLine (s : System) (line : LedgerLine)
    : (s.appendJsonLine line).lines = s.lines ++ [line] := rfl

theorem mem_append_line {lines : List LedgerLine} {line : LedgerLine} (new : LedgerLine)
    (h : line ∈ lines)
    : line ∈ lines ++ [new] := by
  rw [List.mem_append]
  exact .inl h

theorem Inv.append (hinv : Inv s) (hlock : s.lock = none) (line : LedgerLine)
    : Inv (s.appendJsonLine line) := by
  have hsub : ∀ old ∈ s.lines, old ∈ (s.appendJsonLine line).lines := by
    intro old hold
    rw [lines_appendJsonLine]
    exact mem_append_line line hold
  constructor
  . intro index hindex
    exact (hinv.index index hindex).mono hsub
  . intro i
    apply (hinv.phases i).mono
    intro index _ hconsistent
    exact hconsistent.mono hsub
  . exact hinv.locked
  . exact hinv.marked
  . intro i hi
    have hfree : (s.phase i).isReplacing = false := hinv.not_isReplacing (.inl hlock) (Nat.ne_add_one i)
    exact absurd hi (by rw [show (s.appendJsonLine line).phase = s.phase from rfl, hfree]; simp)

variable (cut : LedgerLine → Nat → LedgerLine)

theorem inv_afterMarker (hinv : Inv s) {i : Nat} (hi : (s.phase i).isLocked = false) (task : Task)
    (cached : Option Index)
    : Inv (s.afterMarker i task cached) := by
  unfold System.afterMarker
  split
  . exact hinv.goto hi rfl trivial
  . split
    . exact hinv.goto hi rfl trivial
    . exact hinv.goto hi rfl trivial

theorem consistent_nil {s : System} (hledger : s.ledger = none) (h : index.Consistent s.lines)
    : index.Plain := by
  cases h with
  | inl hplain => exact hplain
  | inr hmarked =>
    cases hmarked with
    | intro before h =>
      cases h with
      | intro suppression h =>
        have hmem := h.2.2.2
        simp [System.lines, hledger] at hmem

theorem lines_of_ledger {s : System} {file : LedgerFile} (h : s.ledger = some file)
    : s.lines = file.lines := by
  simp [System.lines, h]

theorem inv_check (hinv : Inv s) {i : Nat} (hphase : s.phase i = .checking task index)
    : Inv (s.check i task index) := by
  have hi : (s.phase i).isLocked = false := by rw [hphase]; rfl
  have hconsistent : index.Consistent s.lines := by
    have := hinv.phases i
    rw [hphase] at this
    exact this
  unfold System.check
  split
  . exact inv_afterMarker hinv hi task _
  . split
    . next hledger =>
      split
      . exact hinv.goto hi rfl (consistent_nil hledger hconsistent)
      . exact hinv.goto hi rfl trivial
    . next file hledger =>
      split
      . next hcheck =>
        rw [lines_of_ledger hledger] at hconsistent
        exact hinv.goto hi rfl (plain_of_current hconsistent hcheck).1
      . exact hinv.goto hi rfl hconsistent
      . exact hinv.goto hi rfl trivial

theorem inv_tail (hinv : Inv s) {i : Nat} (hphase : s.phase i = .tailing task index)
    (hguard : ∀ file, s.ledger = some file → prefixTailMatches file.lines index.cursor)
    : Inv (s.tail cut i task index) := by
  have hi : (s.phase i).isLocked = false := by rw [hphase]; rfl
  have hconsistent : index.Consistent s.lines := by
    have := hinv.phases i
    rw [hphase] at this
    exact this
  unfold System.tail
  split
  . split
    . exact inv_afterMarker hinv hi task _
    . exact hinv.goto hi rfl trivial
  . next file hledger =>
    rw [lines_of_ledger hledger] at hconsistent
    have hplain := plain_read cut hconsistent (hguard file hledger)
    dsimp only
    split
    . exact hinv.goto hi rfl hplain
    . exact hinv.goto hi rfl hplain

theorem keepsIndexes_same {s : System} (h : t.ledger = s.ledger) : KeepsIndexes s t := by
  apply keepsIndexes_of_lines
  unfold System.lines
  rw [h]
  intro line hline
  exact hline

theorem Inv.acquire (hinv : Inv s) {i : Nat} (hi : (s.phase i).isLocked = false)
    (hlock : ¬ s.lock.isSome = true) (hphase : phase.isLocked = true)
    (hreplacing : phase.isReplacing = false) (hok : PhaseOk s.lines phase)
    : Inv ({ s with lock := some i }.goto i phase) := by
  have hnone : s.lock = none := by simpa using hlock
  apply hinv.move
  . rfl
  . exact keepsIndexes_same rfl
  . intro index hindex
    exact .inl hindex
  . exact hok
  . simp [hphase]
  . intro j hj
    simp [hnone, hj.symm]
  . intro hmarker
    exact .inr ⟨hmarker, not_isMarked hi⟩
  . intro h
    rw [hreplacing] at h
    cases h
  . intro j _ hj
    exact hinv.removed j hj

theorem Inv.save (hinv : Inv s) {i : Nat} (hi : (s.phase i).isLocked = false)
    (hphase : phase.isLocked = false) (hindex : index.Consistent s.lines)
    (hok : PhaseOk s.lines phase)
    : Inv ({ s with index := some index }.goto i phase) := by
  have hfree : s.lock ≠ some i := by
    intro hlock
    rw [(hinv.locked i).mpr hlock] at hi
    cases hi
  apply hinv.move
  . rfl
  . exact keepsIndexes_same rfl
  . intro other hother
    injection hother with hother
    rw [← hother]
    exact .inr hindex
  . exact hok
  . simp [hphase, hfree]
  . intro j _
    rfl
  . intro hmarker
    exact .inr ⟨hmarker, not_isMarked hi⟩
  . intro hreplacing
    rw [isLocked_of_isReplacing hreplacing] at hphase
    cases hphase
  . intro j _ hj
    exact hinv.removed j hj

theorem inv_rebuild (hinv : Inv s) {i : Nat} {cached : Option Index}
    (hphase : s.phase i = .rebuilding task cached)
    : Inv (s.rebuild cut i task cached) := by
  have hi : (s.phase i).isLocked = false := by rw [hphase]; rfl
  unfold System.rebuild
  split
  . split
    . exact hinv
    . exact hinv.goto hi rfl trivial
  . next hlock => exact hinv.acquire hi hlock rfl rfl (plain_rebuild cut s.ledger)

theorem inv_finishTask (hinv : Inv s) {i : Nat} (hphase : s.phase i = .refreshed task index)
    : Inv (s.finishTask i task index) := by
  have hi : (s.phase i).isLocked = false := by rw [hphase]; rfl
  have hplain : index.Plain := by
    have := hinv.phases i
    rw [hphase] at this
    exact this
  unfold System.finishTask
  split
  . exact hinv.goto hi rfl trivial
  . next suppression =>
    split
    . exact hinv.goto hi rfl trivial
    . next hrecorded =>
      split
      . exact hinv
      . next hlock =>
        have hnone : s.lock = none := by simpa using hlock
        apply (hinv.append hnone suppression.receipt).goto hi rfl
        right
        apply plain_mark hplain (by simpa using hrecorded)
        rw [lines_appendJsonLine]
        simp

theorem Inv.holder (hinv : Inv s) {i : Nat} (hi : (s.phase i).isLocked = true)
    (hphase : t.phase = s.phase) (hkeep : KeepsIndexes s t)
    (hindex : ∀ index, t.index = some index → s.index = some index ∨ index.Consistent t.lines)
    (hok : PhaseOk t.lines phase) (hlock : t.lock = if phase.isLocked = true then s.lock else none)
    (hmarked : t.marker = true →
      phase.isMarked = true ∨ (s.marker = true ∧ (s.phase i).isMarked = false))
    (hreplacing : phase.isReplacing = true → t.ledger = none)
    : Inv (t.goto i phase) := by
  have howner : s.lock = some i := (hinv.locked i).mp hi
  apply hinv.move hphase hkeep hindex hok _ _ hmarked hreplacing
  . intro j hj hother
    rw [hinv.not_isReplacing (.inr howner) hj] at hother
    cases hother
  . rw [hlock]
    cases hp : phase.isLocked with
    | true => simp [howner]
    | false => simp
  . intro j hj
    rw [hlock, howner]
    cases hp : phase.isLocked with
    | true => simp
    | false => simp [hj.symm]

theorem Inv.saveLocked (hinv : Inv s) {i : Nat} (hi : (s.phase i).isLocked = true)
    (hmarked : (s.phase i).isMarked = false) (hindex : index.Plain) (hok : PhaseOk s.lines phase)
    (hreplacing : phase.isReplacing = false) {lock : Option Nat}
    (hlock : lock = if phase.isLocked = true then s.lock else none)
    : Inv ({ s with index := some index, lock }.goto i phase) := by
  apply hinv.holder hi
  . rfl
  . exact keepsIndexes_same rfl
  . intro other hother
    injection hother with hother
    rw [← hother]
    exact .inr (.inl hindex)
  . exact hok
  . exact hlock
  . intro hmarker
    exact .inr ⟨hmarker, hmarked⟩
  . intro h
    rw [hreplacing] at h
    cases h

theorem Inv.gotoLocked (hinv : Inv s) {i : Nat} (hi : (s.phase i).isLocked = true)
    (hmarked : (s.phase i).isMarked = false) (hok : PhaseOk s.lines phase)
    (hreplacing : phase.isReplacing = false) {lock : Option Nat} {pending : List Line}
    (hlock : lock = if phase.isLocked = true then s.lock else none)
    : Inv ({ s with lock, pending }.goto i phase) := by
  apply hinv.holder hi
  . rfl
  . exact keepsIndexes_same rfl
  . intro other hother
    exact .inl hother
  . exact hok
  . exact hlock
  . intro hmarker
    exact .inr ⟨hmarker, hmarked⟩
  . intro h
    rw [hreplacing] at h
    cases h

theorem inv_measure (hinv : Inv s) {i maxBytes : Nat} (hphase : s.phase i = .measuring maxBytes)
    : Inv (s.measure cut i maxBytes) := by
  have hi : (s.phase i).isLocked = true := by rw [hphase]; rfl
  have hmarked : (s.phase i).isMarked = false := by rw [hphase]; rfl
  unfold System.measure
  split
  . apply hinv.gotoLocked hi hmarked
    . exact plain_rebuild cut s.ledger
    . rfl
    . rfl
  . apply hinv.gotoLocked hi hmarked
    . exact trivial
    . rfl
    . rfl

theorem inv_snapshot (hinv : Inv s) {i : Nat} (hphase : s.phase i = .snapshotting)
    : Inv (s.snapshot i) := by
  have hi : (s.phase i).isLocked = true := by rw [hphase]; rfl
  have hmarked : (s.phase i).isMarked = false := by rw [hphase]; rfl
  unfold System.snapshot
  dsimp only
  split
  . apply hinv.gotoLocked hi hmarked
    . exact trivial
    . rfl
    . rfl
  . apply hinv.holder hi
    . rfl
    . exact keepsIndexes_same rfl
    . intro other hother
      exact .inl hother
    . exact trivial
    . rfl
    . intro _
      exact .inl rfl
    . intro h
      cases h

theorem inv_remove (hinv : Inv s) {i : Nat} {kept : List LedgerLine}
    (hphase : s.phase i = .removing kept)
    (hguard : ∀ index, (s.index = some index ∨ ∃ j, (s.phase j).held = some index) →
      ¬ index.IsAhead)
    : Inv ({ s with ledger := none }.goto i (.replacing kept)) := by
  have hi : (s.phase i).isLocked = true := by rw [hphase]; rfl
  apply hinv.holder hi
  . rfl
  . intro index hindex hconsistent
    left
    exact hconsistent.plain_of_not_ahead (hguard index hindex)
  . intro other hother
    exact .inl hother
  . exact trivial
  . rfl
  . intro _
    exact .inl rfl
  . intro _
    rfl

theorem inv_replace (hinv : Inv s) {i : Nat} {kept : List LedgerLine}
    (hphase : s.phase i = .replacing kept)
    : Inv ((s.writeLedger kept).goto i .unmarking) := by
  have hi : (s.phase i).isLocked = true := by rw [hphase]; rfl
  have hledger : s.ledger = none := hinv.removed i (by rw [hphase]; rfl)
  apply hinv.holder hi
  . rfl
  . apply keepsIndexes_of_lines
    intro line hline
    simp [System.lines, hledger] at hline
  . intro other hother
    exact .inl hother
  . exact trivial
  . rfl
  . intro _
    exact .inl rfl
  . intro h
    cases h

theorem inv_unmark (hinv : Inv s) {i : Nat} (hphase : s.phase i = .unmarking)
    : Inv ({ s with marker := false }.goto i .rereading) := by
  have hi : (s.phase i).isLocked = true := by rw [hphase]; rfl
  apply hinv.holder hi
  . rfl
  . exact keepsIndexes_same rfl
  . intro other hother
    exact .inl hother
  . exact trivial
  . rfl
  . intro h
    cases h
  . intro h
    cases h

theorem inv_stepProcess (hinv : Inv s) (i : Nat) (hguard : cursorsAreCurrent s (.step i))
    : Inv (s.stepProcess cut i) := by
  have hok := hinv.phases i
  unfold System.stepProcess
  cases hphase : s.phase i with
  | idle => exact hinv
  | recovering task =>
    dsimp only
    split
    . exact hinv
    . exact hinv.goto (by rw [hphase]; rfl) rfl trivial
  | reading task =>
    dsimp only
    split
    . exact hinv.goto (by rw [hphase]; rfl) rfl trivial
    . next index hindex =>
      exact hinv.goto (by rw [hphase]; rfl) rfl (hinv.index index hindex)
  | checking task index => exact inv_check hinv hphase
  | tailing task index =>
    unfold cursorsAreCurrent at hguard
    simp only [hphase] at hguard
    exact inv_tail cut hinv hphase hguard
  | saving task index =>
    rw [hphase] at hok
    exact hinv.save (by rw [hphase]; rfl) rfl (.inl hok) hok
  | rebuilding task cached => exact inv_rebuild cut hinv hphase
  | rebuilt task index =>
    rw [hphase] at hok
    apply hinv.saveLocked (by rw [hphase]; rfl) (by rw [hphase]; rfl) hok
    . exact hok
    . rfl
    . rfl
  | refreshed task index => exact inv_finishTask hinv hphase
  | appended index =>
    rw [hphase] at hok
    exact hinv.save (by rw [hphase]; rfl) rfl hok trivial
  | finished result => exact hinv
  | locking maxBytes =>
    dsimp only
    split
    . exact hinv
    . next hlock => exact hinv.acquire (by rw [hphase]; rfl) hlock rfl rfl trivial
  | measuring maxBytes => exact inv_measure cut hinv hphase
  | compacting index =>
    rw [hphase] at hok
    apply hinv.saveLocked (by rw [hphase]; rfl) (by rw [hphase]; rfl) hok
    . exact trivial
    . rfl
    . rfl
  | snapshotting => exact inv_snapshot hinv hphase
  | removing kept =>
    unfold cursorsAreCurrent at hguard
    simp only [hphase] at hguard
    exact inv_remove hinv hphase hguard
  | replacing kept => exact inv_replace hinv hphase
  | unmarking => exact inv_unmark hinv hphase
  | rereading =>
    apply hinv.gotoLocked (by rw [hphase]; rfl) (by rw [hphase]; rfl)
    . exact plain_rebuild cut s.ledger
    . rfl
    . rfl
  | rewriting index =>
    rw [hphase] at hok
    apply hinv.saveLocked (by rw [hphase]; rfl) (by rw [hphase]; rfl) hok
    . exact trivial
    . rfl
    . rfl

theorem not_isLocked_of_not_busy (h : ¬ phase.isBusy = true)
    : phase.isLocked = false := by
  cases phase with
  | idle => rfl
  | finished result => rfl
  | _ => exact absurd rfl h

theorem inv_step (s : System) (action : Action) (hinv : Inv s) (hguard : cursorsAreCurrent s action)
    : Inv (s.step cut action) := by
  cases action with
  | append line =>
    simp only [System.step]
    split
    . exact hinv
    . next hlock => exact hinv.append (by simpa using hlock) line
  | appendPending line =>
    simp only [System.step]
    split
    . exact hinv
    . exact ⟨hinv.index, hinv.phases, hinv.locked, hinv.marked, hinv.removed⟩
  | begin i task =>
    simp only [System.step]
    split
    . exact hinv
    . next hbusy =>
      have hi := not_isLocked_of_not_busy hbusy
      split
      . exact hinv.goto hi rfl trivial
      . exact hinv.goto hi rfl trivial
  | compact i maxBytes =>
    simp only [System.step]
    split
    . exact hinv
    . next hbusy => exact hinv.goto (not_isLocked_of_not_busy hbusy) rfl trivial
  | step i => exact inv_stepProcess cut hinv i hguard

theorem inv_start (ledger : Option (List LedgerLine)) (pending : List Line)
    : Inv (System.start ledger pending) := by
  constructor
  . intro index hindex
    cases hindex
  . intro i
    exact trivial
  . intro i
    constructor
    . intro h
      cases h
    . intro h
      cases h
  . intro h
    cases h
  . intro i h
    cases h

end Invariant

section Quiet

variable (cut : LedgerLine → Nat → LedgerLine) {s : System} {i : Nat}

theorem Inv.lock_of_quiet (hinv : Inv s) (hquiet : s.isQuiet) : s.lock = none := by
  cases hlock : s.lock with
  | none => rfl
  | some i =>
    have hlocked := (hinv.locked i).mpr hlock
    rw [not_isLocked_of_not_busy (by simp [hquiet i])] at hlocked
    cases hlocked

theorem Inv.marker_of_quiet (hinv : Inv s) (hquiet : s.isQuiet) : s.marker = false := by
  cases hmarker : s.marker with
  | false => rfl
  | true =>
    cases hinv.marked hmarker with
    | intro i hi =>
      rw [not_isMarked (not_isLocked_of_not_busy (by simp [hquiet i]))] at hi
      cases hi

def Settles (s : System) (i n : Nat) (lines : List LedgerLine) : Prop :=
  ∃ index,
    (Run.exec (System.step cut) s (List.replicate n (.step i))).phase i = .finished (some index)
      ∧ SameEntries index.entries (foldLedger lines)

variable {cut} {n : Nat} {lines : List LedgerLine}

theorem Settles.of_step (h : Settles cut (s.stepProcess cut i) i n lines)
    : Settles cut s i (n + 1) lines := by
  unfold Settles
  rw [List.replicate_succ, Run.exec_cons]
  exact h

variable {index : Index}

theorem settles_finished (hphase : s.phase i = .finished (some index))
    (h : SameEntries index.entries (foldLedger lines))
    : Settles cut s i n lines := by
  induction n with
  | zero => exact ⟨index, hphase, h⟩
  | succ n ih =>
    apply Settles.of_step
    have hstep : s.stepProcess cut i = s := by simp only [System.stepProcess, hphase]
    rw [hstep]
    exact ih

theorem settles_refreshed (hphase : s.phase i = .refreshed (.refresh true) index)
    (h : SameEntries index.entries (foldLedger lines))
    : Settles cut s i (n + 1) lines := by
  apply Settles.of_step
  simp only [System.stepProcess, hphase, System.finishTask]
  exact settles_finished (goto_phase_same s i _) h

theorem settles_saving (hphase : s.phase i = .saving (.refresh true) index)
    (h : SameEntries index.entries (foldLedger lines))
    : Settles cut s i (n + 2) lines := by
  apply Settles.of_step
  simp only [System.stepProcess, hphase]
  exact settles_refreshed (goto_phase_same _ i _) h

theorem settles_rebuilt (hphase : s.phase i = .rebuilt (.refresh true) index)
    (h : SameEntries index.entries (foldLedger lines))
    : Settles cut s i (n + 2) lines := by
  apply Settles.of_step
  simp only [System.stepProcess, hphase]
  exact settles_refreshed (goto_phase_same _ i _) h

theorem settles_rebuilding {cached : Option Index}
    (hphase : s.phase i = .rebuilding (.refresh true) cached) (hlock : s.lock = none)
    : Settles cut s i (n + 3) s.lines := by
  apply Settles.of_step
  simp only [System.stepProcess, hphase, System.rebuild, hlock, Option.isSome_none,
    Bool.false_eq_true, if_false]
  exact settles_rebuilt (goto_phase_same _ i _) (rebuild_entries cut s.ledger)

theorem settles_tailing (hphase : s.phase i = .tailing (.refresh true) index) {file : LedgerFile}
    (hledger : s.ledger = some file) (hindex : index.Consistent file.lines)
    (hmatches : prefixTailMatches file.lines index.cursor)
    : Settles cut s i (n + 3) file.lines := by
  have hentries := read_consistent cut hindex hmatches
  apply Settles.of_step
  simp only [System.stepProcess, hphase, System.tail, hledger]
  split
  . exact settles_refreshed (goto_phase_same s i _) hentries
  . exact settles_saving (goto_phase_same s i _) hentries

theorem blank_entries (hblank : index.isBlank = true)
    : SameEntries index.entries (foldLedger []) := by
  have hkeys : index.entries.keys = [] := by
    simp only [Index.isBlank, Bool.and_eq_true] at hblank
    simpa using hblank.2
  intro queueId
  have hnone : index.entries.lookup queueId = none := by
    rw [AList.lookup_eq_none, AList.mem_keys, hkeys]
    exact List.not_mem_nil
  rw [hnone]
  rfl

theorem settles_checking (hphase : s.phase i = .checking (.refresh true) index)
    (hmarker : s.marker = false) (hlock : s.lock = none) (hindex : index.Consistent s.lines)
    : Settles cut s i (n + 4) s.lines := by
  apply Settles.of_step
  simp only [System.stepProcess, hphase, System.check, hmarker, Bool.false_eq_true, if_false]
  split
  . next hledger =>
    have hlines : s.lines = [] := by simp [System.lines, hledger]
    split
    . next hblank =>
      rw [hlines]
      exact settles_refreshed (goto_phase_same s i _) (blank_entries hblank)
    . exact settles_rebuilding (goto_phase_same s i _) hlock
  . next file hledger =>
    have hlines : s.lines = file.lines := by simp [System.lines, hledger]
    rw [hlines] at hindex ⊢
    split
    . next hcheck =>
      exact settles_refreshed (goto_phase_same s i _) (plain_of_current hindex hcheck).2
    . next hcheck =>
      exact settles_tailing (goto_phase_same s i _) hledger hindex (matches_of_behind hcheck)
    . rw [← hlines]
      exact settles_rebuilding (goto_phase_same s i _) hlock

theorem settles_reading (hphase : s.phase i = .reading (.refresh true))
    (hmarker : s.marker = false) (hlock : s.lock = none)
    (hindex : ∀ index, s.index = some index → index.Consistent s.lines)
    : Settles cut s i (n + 5) s.lines := by
  apply Settles.of_step
  simp only [System.stepProcess, hphase]
  split
  . exact settles_rebuilding (goto_phase_same s i _) hlock
  . next index hsome =>
    exact settles_checking (goto_phase_same s i _) hmarker hlock (hindex index hsome)

theorem settles_recovering (hphase : s.phase i = .recovering (.refresh true))
    (hmarker : s.marker = false) (hlock : s.lock = none)
    (hindex : ∀ index, s.index = some index → index.Consistent s.lines)
    : Settles cut s i (n + 6) s.lines := by
  apply Settles.of_step
  simp only [System.stepProcess, hphase, hmarker, Bool.false_and, Bool.false_eq_true, if_false]
  exact settles_reading (goto_phase_same s i _) hmarker hlock hindex

theorem Inv.refreshOnce (hinv : Inv s) (hquiet : s.isQuiet) (i : Nat)
    : ∃ index, (Run.exec (System.step cut) s (refreshOnce i)).phase i = .finished (some index)
        ∧ SameEntries index.entries (foldLedger s.lines) := by
  have hbegin : s.step cut (.begin i (.refresh true)) = s.goto i (.recovering (.refresh true)) := by
    simp [System.step, hquiet i, Task.blocking]
  unfold StateIndex.refreshOnce
  rw [Run.exec_cons, hbegin]
  exact settles_recovering (n := 0) (goto_phase_same s i _) (hinv.marker_of_quiet hquiet)
    (hinv.lock_of_quiet hquiet) hinv.index

end Quiet

section Runs

/-
Once every process has finished, one more blocking refresh yields the fold of the ledger, when no
refresh of the run read the tail of a ledger that its cursor does not belong to and no compaction
removed a ledger that an index had marks from.
-/
theorem refresh_yields_fold (cut : LedgerLine → Nat → LedgerLine)
    (ledger : Option (List LedgerLine)) (pending : List Line) (actions : List Action)
    (hguard : Run.Guarded (System.step cut) cursorsAreCurrent (System.start ledger pending) actions)
    (hquiet : (Run.exec (System.step cut) (System.start ledger pending) actions).isQuiet) (i : Nat)
    : ∃ index,
        (Run.exec (System.step cut) (System.start ledger pending) (actions ++ refreshOnce i)).phase i
            = .finished (some index)
          ∧ ∀ queueId, index.entries.lookup queueId
              = (foldLedger
                  (Run.exec (System.step cut) (System.start ledger pending) actions).lines).lookup
                    queueId := by
  have hinv : Inv (Run.exec (System.step cut) (System.start ledger pending) actions) := by
    apply Run.exec_invariant_of_guarded Inv (inv_step cut) _ hguard
    exact inv_start ledger pending
  rw [Run.exec_append]
  exact hinv.refreshOnce hquiet i

def sampleFields : ReceiptFields where
  reason := none
  occurredAtMs := none
  runtimeClass := none
  origin := none
  transcriptFile := none
  retrySchedule := none
  sourceClosureKind := none
  sourceClosureReason := none
  terminalControlSource := none
  terminalDisposition := none
  continuationLink := none

def sampleLine (queueId status text : String) : LedgerLine where
  line := .value text text {
    queueId := some queueId
    status := some status
    schema := .absent
    compact := text }
  fields := sampleFields

def samplePending : List Line :=
  [.value "q2 queued" "q2 queued" {
    queueId := some "q2"
    status := some "queued"
    schema := .absent
    compact := "q2 queued" }]

def sampleFirst : LedgerLine := sampleLine "q1" "completed" "q1 completed, a long row"

def sampleSecond : LedgerLine := sampleLine "q2" "retry-pending" "q2 retry"

def steps (i n : Nat) : List Action :=
  List.replicate n (.step i)

/-
Process 0 indexes the first row and the second is appended. Process 1 refreshes; with `between` the
compaction of process 2, which drops the first row, falls between its check and its read.
-/
def sampleActions (between : Bool) : List Action :=
  refreshOnce 0 ++ .append sampleSecond :: .begin 1 (.refresh true) ::
    if between then
      steps 1 3 ++ .compact 2 1 :: steps 2 9 ++ steps 1 3
    else
      steps 1 6 ++ .compact 2 1 :: steps 2 9

def sampleCut (line : LedgerLine) (_ : Nat) : LedgerLine := line

def sampleRun (between : Bool) : System :=
  Run.exec (System.step sampleCut) (System.start (some [sampleFirst]) samplePending)
    (sampleActions between)

theorem sampleRun_isQuiet (between : Bool) : (sampleRun between).isQuiet := by
  intro i
  match i with
  | 0 => cases between with
    | true => decide +kernel
    | false => decide +kernel
  | 1 => cases between with
    | true => decide +kernel
    | false => decide +kernel
  | 2 => cases between with
    | true => decide +kernel
    | false => decide +kernel
  | i + 3 => cases between with
    | true => rfl
    | false => rfl

def isCurrent (s : System) (action : Action) : Bool :=
  match action with
  | .step i =>
    match s.phase i with
    | .tailing _ index => s.ledger.all fun file => prefixTailMatches file.lines index.cursor
    | .removing _ => false
    | _ => true
  | _ => true

theorem cursorsAreCurrent_of_isCurrent (s : System) (action : Action)
    (h : isCurrent s action = true)
    : cursorsAreCurrent s action := by
  cases action with
  | step i =>
    unfold isCurrent at h
    unfold cursorsAreCurrent
    cases hphase : s.phase i with
    | tailing task index =>
      simp only [hphase] at h ⊢
      intro file hfile
      simpa [hfile] using h
    | removing kept => simp [hphase] at h
    | _ => simp only [hphase]
  | _ => exact trivial

theorem not_isAhead {index : Index}
    (h : ∀ entry ∈ index.entries.values, entry.suppressionRecorded = false)
    : ¬ index.IsAhead := by
  intro hahead
  cases hahead with
  | intro queueId hahead =>
    cases hahead with
    | intro entry hahead =>
      have hfalse := h entry (FMap.mem_values_iff.mpr ⟨queueId, hahead.1⟩)
      rw [hfalse] at hahead
      cases hahead.2.1

def sampleRemoving : System :=
  Run.exec (System.step sampleCut) (System.start (some [sampleFirst]) samplePending)
    (refreshOnce 0 ++ .append sampleSecond :: .begin 1 (.refresh true) :: steps 1 6 ++
      .compact 2 1 :: steps 2 4)

theorem sampleRemoving_held (j : Nat) : (sampleRemoving.phase j).held = none := by
  match j with
  | 0 => rfl
  | 1 => rfl
  | 2 => rfl
  | j + 3 => rfl

theorem sampleRemoving_current : cursorsAreCurrent sampleRemoving (.step 2) := by
  have hindex : (sampleRemoving.index.all fun index =>
      index.entries.values.all fun entry => !entry.suppressionRecorded) = true := by
    decide +kernel
  have hguard : ∀ index, (sampleRemoving.index = some index
      ∨ ∃ j, (sampleRemoving.phase j).held = some index) → ¬ index.IsAhead := by
    intro index h
    cases h with
    | inl hfile =>
      apply not_isAhead
      simpa [hfile] using hindex
    | inr hheld =>
      cases hheld with
      | intro j hj =>
        rw [sampleRemoving_held j] at hj
        cases hj
  exact hguard

theorem sampleActions_guarded
    : Run.Guarded (System.step sampleCut) cursorsAreCurrent
        (System.start (some [sampleFirst]) samplePending) (sampleActions false) := by
  have hsplit : sampleActions false
      = (refreshOnce 0 ++ .append sampleSecond :: .begin 1 (.refresh true) :: steps 1 6 ++
          .compact 2 1 :: steps 2 4) ++ .step 2 :: steps 2 4 := rfl
  rw [hsplit, Run.guarded_append]
  refine ⟨?_, sampleRemoving_current, ?_⟩
  . apply Run.guarded_mono cursorsAreCurrent_of_isCurrent
    decide +kernel
  . apply Run.guarded_mono cursorsAreCurrent_of_isCurrent
    decide +kernel

theorem sampleRun_refresh_yields_fold
    : ∃ index, (Run.exec (System.step sampleCut) (System.start (some [sampleFirst]) samplePending)
          (sampleActions false ++ refreshOnce 3)).phase 3 = .finished (some index)
        ∧ ∀ queueId, index.entries.lookup queueId
            = (foldLedger (sampleRun false).lines).lookup queueId := by
  apply refresh_yields_fold sampleCut (some [sampleFirst]) samplePending (sampleActions false)
  . exact sampleActions_guarded
  . exact sampleRun_isQuiet false

def secondEntry : Phase → Option Entry
  | .finished (some index) => index.entries.lookup "q2"
  | _ => some .empty

/-
The tail of process 1 is empty, as its cursor is behind the end of the new ledger, and it writes its
old entries under the cursor of the new ledger.
-/
theorem refresh_misses_receipt
    : ¬ ∀ (cut : LedgerLine → Nat → LedgerLine) (ledger : Option (List LedgerLine))
        (pending : List Line) (actions : List Action),
        (Run.exec (System.step cut) (System.start ledger pending) actions).isQuiet →
        ∀ i, ∃ index,
          (Run.exec (System.step cut) (System.start ledger pending)
              (actions ++ refreshOnce i)).phase i = .finished (some index)
            ∧ ∀ queueId, index.entries.lookup queueId
                = (foldLedger
                    (Run.exec (System.step cut) (System.start ledger pending) actions).lines).lookup
                      queueId := by
  intro hclaim
  have hlost : secondEntry ((Run.exec (System.step sampleCut)
      (System.start (some [sampleFirst]) samplePending)
      (sampleActions true ++ refreshOnce 3)).phase 3) = none := by decide +kernel
  have hfold : (foldLedger (sampleRun true).lines).lookup "q2" ≠ none := by decide +kernel
  cases hclaim sampleCut (some [sampleFirst]) samplePending (sampleActions true)
    (sampleRun_isQuiet true) 3 with
  | intro index h =>
    rw [h.1] at hlost
    apply hfold
    rw [← hlost]
    exact (h.2 "q2").symm

example : (sampleRun true).lines = [sampleSecond] := by decide +kernel
end Runs

end StateIndex

end RuntimeQueue
