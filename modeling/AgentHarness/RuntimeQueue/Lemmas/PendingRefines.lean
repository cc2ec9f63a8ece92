import AgentHarness.RuntimeQueue.Lemmas.PendingIndex

/-!
Runs of appends, reads, queries and prunes: what the index holds in every state of a run, when a call goes
through, and what a prune can do for an index that is full.
-/

namespace RuntimeQueue

open ChannelDelivery (LedgerFile rawLines Closed)
open Run (exec)

namespace PendingIndex

theorem pendingProcessedHeadFingerprint_append (lines rest : List UInt8)
    : pendingProcessedHeadFingerprint (lines ++ rest) lines.length
        = pendingProcessedHeadFingerprint lines lines.length := by
  unfold pendingProcessedHeadFingerprint fingerprintPendingRange
  split
  . rfl
  . rw [List.drop_zero, List.drop_zero, List.take_append_of_le_length (Nat.min_le_left _ _)]

theorem pendingProcessedTailFingerprint_append (lines rest : List UInt8)
    : pendingProcessedTailFingerprint (lines ++ rest) lines.length
        = pendingProcessedTailFingerprint lines lines.length := by
  unfold pendingProcessedTailFingerprint fingerprintPendingRange
  dsimp only
  split
  . rfl
  . rw [List.drop_append_of_le_length (Nat.sub_le _ _), List.take_append_of_le_length]
    rw [List.length_drop]

def finish (file : LedgerFile) (read : Index) : Index :=
  { read with
    cursor := {
      read.cursor with
      sourceLenBytes := file.bytes.length
      sourceModifiedAtUnixNanos := some file.modifiedAtUnixNanos
      processedHeadFingerprint :=
        pendingProcessedHeadFingerprint file.bytes read.cursor.offsetBytes
      processedTailFingerprint :=
        pendingProcessedTailFingerprint file.bytes read.cursor.offsetBytes } }

theorem updatePendingIndexFromCursor_eq_ok {V : Type} (json : PendingJson V) (capacity : Nat)
    (file : LedgerFile) {index : Index} (hoffset : index.cursor.offsetBytes ≤ file.bytes.length)
    (out : Index)
    : updatePendingIndexFromCursor json capacity file index = .ok out ↔
        ∃ read, readPendingLines json capacity
            (rawLines (file.bytes.drop index.cursor.offsetBytes))
            { index with cursor.incompleteFinalLine := false } = .ok read
          ∧ out = finish file read := by
  unfold updatePendingIndexFromCursor
  simp only [Except.bind_eq_ok, Except.require_eq_ok, decide_eq_true_eq, Except.pure_eq_ok]
  constructor
  . rintro ⟨_, -, read, hread, hout⟩
    exact ⟨read, hread, hout.symm⟩
  . rintro ⟨read, hread, hout⟩
    exact ⟨.unit, hoffset, read, hread, hout.symm⟩

end PendingIndex

namespace PendingQueue

variable {V : Type} (json : PendingJson V)

def Readable (self : PendingQueue) : Prop :=
  ∀ raw ∈ rawLines self.bytes, ∃ line, TextFile.decode raw = some line

def Fits (self : PendingQueue) : Prop :=
  (self.expectedRows json).length ≤ PendingIndex.maxActiveRows

/-
The index has read the given lines of the ledger. A cursor that has seen the whole file has seen its last
write too.
-/
structure Synced (queue : PendingQueue) (lines : List UInt8) : Prop where
  closed : Closed lines
  isPrefix : lines <+: queue.bytes
  offsetBytes : queue.index.cursor.offsetBytes = lines.length
  lineNumber : queue.index.cursor.lineNumber = (rawLines lines).length
  head : queue.index.cursor.processedHeadFingerprint
    = PendingIndex.pendingProcessedHeadFingerprint lines lines.length
  tail : queue.index.cursor.processedTailFingerprint
    = PendingIndex.pendingProcessedTailFingerprint lines lines.length
  decodes : ∀ raw ∈ rawLines lines, ∃ line, TextFile.decode raw = some line
  rows : queue.index.rows
    = (queuedRows json 0 (rawLines lines)).filter fun row => !isPruned queue.pruned row
  pruned : ∀ entry ∈ queue.pruned, ∀ queueId ∈ entry.2, Text.trim queueId ≠ "" →
    entry.1 ≤ (rawLines lines).length
  fits : queue.index.rows.length ≤ PendingIndex.maxActiveRows
  sourceLen : queue.index.cursor.sourceLenBytes ≤ queue.bytes.length
  untouched : queue.index.cursor.sourceLenBytes = queue.bytes.length →
    queue.index = {} ∨ ∃ file torn, queue.pending = some file
      ∧ queue.index.cursor.sourceModifiedAtUnixNanos = some file.modifiedAtUnixNanos
      ∧ queue.bytes = lines ++ torn ∧ TextFile.newline ∉ torn
      ∧ ∀ raw ∈ rawLines torn, ∃ line, TextFile.decode raw = some line
  missing : queue.pending = none → queue.index = {}

theorem synced_start (pending : Option LedgerFile) : Synced json (start pending) [] where
  closed := ChannelDelivery.closed_nil
  isPrefix := List.nil_prefix
  offsetBytes := rfl
  lineNumber := rfl
  head := rfl
  tail := rfl
  decodes := by
    intro raw hmem
    cases hmem
  rows := rfl
  pruned := by
    intro entry hmem
    cases hmem
  fits := Nat.zero_le _
  sourceLen := Nat.zero_le _
  untouched := fun _ => .inl rfl
  missing := fun _ => rfl

variable {json} {queue : PendingQueue} {lines : List UInt8}

variable {row : PendingIndex.PendingRow} {later torn : List UInt8}

theorem not_isPruned_of_later (h : Synced json queue lines) {later : List (List UInt8)}
    (hmem : row ∈ queuedRows json (rawLines lines).length later)
    : isPruned queue.pruned row = false := by
  obtain ⟨hline, -, hqueued⟩ := mem_queuedRows json hmem
  have hblank := (PendingIndex.pendingLine_eq_queued json hqueued).1
  unfold isPruned
  rw [List.any_eq_false]
  intro entry hentry hcovered
  rw [Bool.and_eq_true, decide_eq_true_eq, decide_eq_true_eq] at hcovered
  have hle := h.pruned entry hentry row.queueId hcovered.2 hblank
  omega

theorem expectedRows_eq (h : Synced json queue lines) (hlater : Closed later)
    (htorn : TextFile.newline ∉ torn) (hbytes : queue.bytes = lines ++ later ++ torn)
    : queue.expectedRows json
        = queue.index.rows ++ queuedRows json (rawLines lines).length (rawLines later) := by
  unfold expectedRows
  rw [hbytes, completeLines_append_torn (h.closed.append hlater) htorn,
    ChannelDelivery.rawLines_append h.closed, queuedRows_append, List.filter_append, ← h.rows,
    Nat.zero_add]
  congr 1
  rw [List.filter_eq_self]
  intro row hmem
  simp [not_isPruned_of_later h hmem]

theorem readable_iff (h : Synced json queue lines) (hlater : Closed later)
    (hbytes : queue.bytes = lines ++ later ++ torn)
    : queue.Readable ↔
        (∀ raw ∈ rawLines later, ∃ line, TextFile.decode raw = some line)
          ∧ ∀ raw ∈ rawLines torn, ∃ line, TextFile.decode raw = some line := by
  unfold Readable
  rw [hbytes, ChannelDelivery.rawLines_append (h.closed.append hlater),
    ChannelDelivery.rawLines_append h.closed]
  simp only [List.mem_append, or_imp, forall_and]
  exact ⟨fun hall => ⟨hall.1.2, hall.2⟩, fun hall => ⟨⟨h.decodes, hall.1⟩, hall.2⟩⟩

theorem exists_split (h : Synced json queue lines)
    : ∃ later torn, Closed later ∧ TextFile.newline ∉ torn
        ∧ queue.bytes = lines ++ later ++ torn := by
  obtain ⟨closed, torn, hbytes, hclosed, htorn⟩ := ChannelDelivery.exists_closed_torn queue.bytes
  obtain ⟨rest, hrest⟩ := h.isPrefix
  obtain ⟨later, hlater, -⟩ := h.closed.split htorn (hbytes.symm.trans hrest.symm)
  rw [hlater] at hclosed hbytes
  exact ⟨later, torn, hclosed.of_append, htorn, hbytes⟩

theorem update_eq_ok (h : Synced json queue lines) {file : LedgerFile}
    (hfile : queue.pending = some file) (hlater : Closed later) (htorn : TextFile.newline ∉ torn)
    (hbytes : queue.bytes = lines ++ later ++ torn) (out : PendingIndex.Index)
    : PendingIndex.updatePendingIndexFromCursor json PendingIndex.maxActiveRows file queue.index
          = .ok out ↔
        queue.Readable ∧ queue.Fits json
          ∧ out = PendingIndex.finish file
              { (rawLines later).foldl (PendingIndex.advance json)
                  { queue.index with cursor.incompleteFinalLine := false } with
                cursor.incompleteFinalLine := torn ≠ [] || ((rawLines later).foldl
                  (PendingIndex.advance json)
                  { queue.index with
                    cursor.incompleteFinalLine := false }).cursor.incompleteFinalLine } := by
  have hfileBytes : queue.bytes = file.bytes := by
    simp [bytes, hfile]
  have hdrop : file.bytes.drop queue.index.cursor.offsetBytes = later ++ torn := by
    rw [h.offsetBytes, ← hfileBytes, hbytes, List.append_assoc, List.drop_left]
  have hoffset : queue.index.cursor.offsetBytes ≤ file.bytes.length := by
    rw [h.offsetBytes, ← hfileBytes, hbytes, List.length_append, List.length_append]
    omega
  rw [PendingIndex.updatePendingIndexFromCursor_eq_ok json _ _ hoffset, hdrop,
    ChannelDelivery.rawLines_append hlater, readable_iff h hlater hbytes]
  have hbase : ({ queue.index with cursor.incompleteFinalLine := false }
      : PendingIndex.Index).rows.length ≤ PendingIndex.maxActiveRows := h.fits
  simp only [PendingIndex.readPendingLines_append json
    (ChannelDelivery.complete_of_closed hlater) _ hbase,
    PendingIndex.readPendingLines_torn json htorn]
  have hfits : queue.Fits json ↔ queue.index.rows.length
      + (queuedRows json queue.index.cursor.lineNumber (rawLines later)).length
        ≤ PendingIndex.maxActiveRows := by
    rw [Fits, expectedRows_eq h hlater htorn hbytes, List.length_append, h.lineNumber]
  rw [hfits]
  constructor
  . rintro ⟨read, ⟨hdecodes, hroom, htornDecodes, hread⟩, hout⟩
    rw [hread] at hout
    exact ⟨⟨hdecodes, htornDecodes⟩, hroom, hout⟩
  . rintro ⟨⟨hdecodes, htornDecodes⟩, hroom, hout⟩
    exact ⟨_, ⟨hdecodes, hroom, htornDecodes, rfl⟩, hout⟩

theorem synced_update (h : Synced json queue lines) {file : LedgerFile}
    (hfile : queue.pending = some file) (hlater : Closed later) (htorn : TextFile.newline ∉ torn)
    (hbytes : queue.bytes = lines ++ later ++ torn) {out : PendingIndex.Index}
    (hout : PendingIndex.updatePendingIndexFromCursor json PendingIndex.maxActiveRows file
      queue.index = .ok out)
    : Synced json { queue with index := out } (lines ++ later) := by
  obtain ⟨hreadable, hfits, hfinish⟩ := (update_eq_ok h hfile hlater htorn hbytes out).mp hout
  have hfileBytes : file.bytes = queue.bytes := by
    simp [bytes, hfile]
  obtain ⟨hdecodes, htornDecodes⟩ := (readable_iff h hlater hbytes).mp hreadable
  have hexpected := expectedRows_eq h hlater htorn hbytes
  obtain ⟨read, rfl, hrows, hline, hoffset⟩ : ∃ read, out = PendingIndex.finish file read
      ∧ read.rows = queue.index.rows ++ queuedRows json (rawLines lines).length (rawLines later)
      ∧ read.cursor.lineNumber = (rawLines lines).length + (rawLines later).length
      ∧ read.cursor.offsetBytes = (lines ++ later).length := by
    obtain ⟨hrows, hline, hoffset⟩ := PendingIndex.foldl_advance_fields json hdecodes
      { queue.index with cursor.incompleteFinalLine := false }
    refine ⟨_, hfinish, ?_, ?_, ?_⟩
    . rw [← h.lineNumber]
      exact hrows
    . rw [← h.lineNumber]
      exact hline
    . apply hoffset.trans
      rw [ChannelDelivery.rawLines_flatten, List.length_append, ← h.offsetBytes]
  have hclosed := h.closed.append hlater
  have hlines : (rawLines (lines ++ later)).length
      = (rawLines lines).length + (rawLines later).length := by
    rw [ChannelDelivery.rawLines_append h.closed, List.length_append]
  constructor
  . exact hclosed
  . exact ⟨torn, hbytes.symm⟩
  . exact hoffset
  . rw [hlines]
    exact hline
  . simp only [PendingIndex.finish, hoffset, hfileBytes, hbytes]
    exact PendingIndex.pendingProcessedHeadFingerprint_append _ _
  . simp only [PendingIndex.finish, hoffset, hfileBytes, hbytes]
    exact PendingIndex.pendingProcessedTailFingerprint_append _ _
  . intro raw hmem
    rw [ChannelDelivery.rawLines_append h.closed, List.mem_append] at hmem
    cases hmem with
    | inl hmem => exact h.decodes raw hmem
    | inr hmem => exact hdecodes raw hmem
  . simp only [PendingIndex.finish, hrows]
    rw [← hexpected, expectedRows, hbytes, completeLines_append_torn hclosed htorn]
  . intro entry hentry queueId hmem hblank
    have hle := h.pruned entry hentry queueId hmem hblank
    omega
  . simp only [PendingIndex.finish, hrows]
    rw [← hexpected]
    exact hfits
  . simp only [PendingIndex.finish, hfileBytes]
    exact Nat.le_refl _
  . intro _
    right
    exact ⟨file, torn, hfile, rfl, hbytes, htorn, htornDecodes⟩
  . intro hnone
    rw [hfile] at hnone
    cases hnone

theorem refresh_cases (h : Synced json queue lines)
    : (∃ file, queue.pending = some file
        ∧ PendingIndex.refreshPendingIndexLocked json PendingIndex.maxActiveRows queue.pending
            queue.index
          = PendingIndex.updatePendingIndexFromCursor json PendingIndex.maxActiveRows file
              queue.index)
      ∨ PendingIndex.refreshPendingIndexLocked json PendingIndex.maxActiveRows queue.pending
            queue.index
          = .ok queue.index
        ∧ ∃ torn, queue.bytes = lines ++ torn ∧ TextFile.newline ∉ torn
          ∧ ∀ raw ∈ rawLines torn, ∃ line, TextFile.decode raw = some line := by
  unfold PendingIndex.refreshPendingIndexLocked
  cases hfile : queue.pending with
  | none =>
    right
    have hempty := h.missing hfile
    have hlines : lines = [] := by
      have hoffset := h.offsetBytes
      rw [hempty] at hoffset
      exact List.eq_nil_of_length_eq_zero hoffset.symm
    refine ⟨?_, [], ?_, List.not_mem_nil, ?_⟩
    . simp [hempty, PendingIndex.PendingLedgerCursor.isPristine]
    . simp [bytes, hfile, hlines]
    . intro raw hmem
      cases hmem
  | some file =>
    have hfileBytes : queue.bytes = file.bytes := by
      simp [bytes, hfile]
    obtain ⟨rest, hrest⟩ := h.isPrefix
    rw [hfileBytes] at hrest
    have hlength : file.bytes.length = lines.length + rest.length := by
      rw [← hrest, List.length_append]
    have hsourceLen := h.sourceLen
    rw [hfileBytes] at hsourceLen
    have hhead : PendingIndex.pendingProcessedHeadFingerprint file.bytes
        queue.index.cursor.offsetBytes = queue.index.cursor.processedHeadFingerprint := by
      rw [h.offsetBytes, h.head, ← hrest]
      exact PendingIndex.pendingProcessedHeadFingerprint_append _ _
    have htail : PendingIndex.pendingProcessedTailFingerprint file.bytes
        queue.index.cursor.offsetBytes = queue.index.cursor.processedTailFingerprint := by
      rw [h.offsetBytes, h.tail, ← hrest]
      exact PendingIndex.pendingProcessedTailFingerprint_append _ _
    have hoffset := h.offsetBytes
    have hgrown : (decide (file.bytes.length < queue.index.cursor.sourceLenBytes)
        || decide (file.bytes.length < queue.index.cursor.offsetBytes)) = false := by
      simp only [Bool.or_eq_false_iff, decide_eq_false_iff_not]
      omega
    simp only [hgrown, hhead, htail, ne_eq, not_true_eq_false, decide_false, Bool.or_self,
      Bool.false_eq_true, if_false]
    by_cases hsame : file.bytes.length = queue.index.cursor.sourceLenBytes
    . rw [if_pos hsame]
      cases h.untouched (by rw [hfileBytes, hsame]) with
      | inl hempty =>
        left
        refine ⟨file, rfl, ?_⟩
        rw [hempty]
        rfl
      | inr hread =>
        right
        obtain ⟨other, torn, hother, hmodified, hbytes, htorn, hdecodes⟩ := hread
        rw [hfile] at hother
        cases hother
        rw [if_pos hmodified.symm]
        exact ⟨rfl, torn, hbytes, htorn, hdecodes⟩
    . rw [if_neg hsame]
      exact .inl ⟨file, rfl, rfl⟩

theorem refresh_eq_ok (h : Synced json queue lines)
    : ((∃ out, PendingIndex.refreshPendingIndexLocked json PendingIndex.maxActiveRows queue.pending
          queue.index = .ok out) ↔ queue.Readable ∧ queue.Fits json)
      ∧ ∀ out, PendingIndex.refreshPendingIndexLocked json PendingIndex.maxActiveRows queue.pending
          queue.index = .ok out →
        out.rows = queue.expectedRows json
          ∧ ∃ whole, Synced json { queue with index := out } whole
            ∧ (rawLines whole).length = (completeLines queue.bytes).length := by
  cases refresh_cases h with
  | inl hupdate =>
    obtain ⟨file, hfile, hrefresh⟩ := hupdate
    obtain ⟨later, torn, hlater, htorn, hbytes⟩ := exists_split h
    rw [hrefresh]
    have hok := update_eq_ok h hfile hlater htorn hbytes
    constructor
    . constructor
      . rintro ⟨out, hout⟩
        have := (hok out).mp hout
        exact ⟨this.1, this.2.1⟩
      . rintro ⟨hreadable, hfits⟩
        exact ⟨_, (hok _).mpr ⟨hreadable, hfits, rfl⟩⟩
    . intro out hout
      have hsynced := synced_update h hfile hlater htorn hbytes hout
      have hclosed := h.closed.append hlater
      refine ⟨?_, _, hsynced, ?_⟩
      . rw [expectedRows, hbytes, completeLines_append_torn hclosed htorn]
        exact hsynced.rows
      . rw [hbytes, completeLines_append_torn hclosed htorn]
  | inr hcurrent =>
    obtain ⟨hrefresh, torn, hbytes, htorn, hdecodes⟩ := hcurrent
    rw [hrefresh]
    have hbytes' : queue.bytes = lines ++ [] ++ torn := by
      rw [List.append_nil, hbytes]
    have hexpected := expectedRows_eq h ChannelDelivery.closed_nil htorn hbytes'
    have hrows : queue.index.rows = queue.expectedRows json := by
      rw [hexpected]
      exact (List.append_nil _).symm
    constructor
    . constructor
      . intro _
        refine ⟨(readable_iff h ChannelDelivery.closed_nil hbytes').mpr ⟨?_, hdecodes⟩, ?_⟩
        . intro raw hmem
          cases hmem
        . rw [Fits, ← hrows]
          exact h.fits
      . intro _
        exact ⟨_, rfl⟩
    . intro out hout
      cases hout
      refine ⟨hrows, lines, h, ?_⟩
      rw [hbytes, completeLines_append_torn h.closed htorn]

theorem withCurrent_of_ok {operation : PendingIndex.Index → Outcome PendingIndex.Index α}
    {out : PendingIndex.Index}
    (hout : PendingIndex.refreshPendingIndexLocked json PendingIndex.maxActiveRows queue.pending
      queue.index = .ok out)
    : PendingIndex.withCurrentPendingIndex json queue.pending queue.index operation
        = operation out := by
  simp only [PendingIndex.withCurrentPendingIndex, hout]

theorem withCurrent_of_error {operation : PendingIndex.Index → Outcome PendingIndex.Index α}
    {e : IoError}
    (he : PendingIndex.refreshPendingIndexLocked json PendingIndex.maxActiveRows queue.pending
      queue.index = .error e)
    : PendingIndex.withCurrentPendingIndex json queue.pending queue.index operation
        = (queue.index, .error e) := by
  simp only [PendingIndex.withCurrentPendingIndex, he]

theorem readPendingValue_eq_ok {value : V}
    : PendingIndex.readPendingValue json row = .ok value ↔
        json.parse row.rawJson = .ok value ∧ json.isObject value = true := by
  unfold PendingIndex.readPendingValue
  cases hparse : json.parse row.rawJson with
  | error e => simp
  | ok other =>
    by_cases hobject : json.isObject other = true
    . simp only [hobject, if_true, Except.ok.injEq]
      constructor
      . rintro rfl
        exact ⟨rfl, hobject⟩
      . exact fun h => h.1
    . simp only [hobject, if_false, Except.ok.injEq, reduceCtorEq, false_iff, Bool.false_eq_true]
      rintro ⟨rfl, h⟩
      exact hobject h

theorem readPendingValues_of_queued {index : PendingIndex.Index}
    (h : ∀ row ∈ index.rows, PendingIndex.pendingLine json row.rawJson = .queued row.queueId)
    : ∃ values, PendingIndex.readPendingValues json index = .ok values
        ∧ List.Forall₂ (fun row value => json.parse row.rawJson = .ok value) index.rows values := by
  obtain ⟨values, hvalues⟩ : ∃ values,
      index.rows.mapM (PendingIndex.readPendingValue json) = .ok values := by
    apply Except.mapM_isOk
    intro row hmem
    obtain ⟨-, value, hvalue⟩ := PendingIndex.pendingLine_eq_queued json (h row hmem)
    exact ⟨value, readPendingValue_eq_ok.mpr hvalue⟩
  refine ⟨values, hvalues, ?_⟩
  apply (Except.mapM_eq_ok.mp hvalues).imp
  intro row value hvalue
  exact (readPendingValue_eq_ok.mp hvalue).1

theorem queued_of_mem_expectedRows (h : row ∈ queue.expectedRows json)
    : PendingIndex.pendingLine json row.rawJson = .queued row.queueId :=
  (mem_queuedRows json (List.mem_of_mem_filter h)).2.2

theorem mem_pruned_filter (hblank : Text.trim row.queueId ≠ "") (ids : List String)
    : row.queueId ∈ ids.filter (fun queueId => Text.trim queueId ≠ "") ↔ row.queueId ∈ ids := by
  rw [List.mem_filter, decide_eq_true_eq]
  exact and_iff_left hblank

theorem isPruned_concat (pruned : List (Nat × List String)) (entry : Nat × List String)
    (row : PendingIndex.PendingRow)
    : isPruned (pruned ++ [entry]) row
        = (isPruned pruned row
            || decide (row.sourceLine ≤ entry.1) && decide (row.queueId ∈ entry.2)) := by
  simp [isPruned]

theorem synced_prune {whole : List UInt8} (h : Synced json queue whole) {ids : List String}
    (hwhole : ids.filter (fun queueId => Text.trim queueId ≠ "") ≠ [] →
      (rawLines whole).length = (completeLines queue.bytes).length)
    : Synced json {
        queue with
        index := {
          queue.index with
          rows := queue.index.rows.filter
            (·.queueId ∉ ids.filter fun queueId => Text.trim queueId ≠ "") }
        pruned := queue.pruned ++ [((completeLines queue.bytes).length, ids)] } whole := by
  constructor
  . exact h.closed
  . exact h.isPrefix
  . exact h.offsetBytes
  . exact h.lineNumber
  . exact h.head
  . exact h.tail
  . exact h.decodes
  . dsimp only
    rw [h.rows, List.filter_filter]
    apply List.filter_congr
    intro row hmem
    obtain ⟨-, hline, hqueued⟩ := mem_queuedRows json hmem
    have hblank := (PendingIndex.pendingLine_eq_queued json hqueued).1
    have hin := mem_pruned_filter hblank ids
    by_cases hprunes : row.queueId ∈ ids
    . have hne := List.ne_nil_of_mem (hin.mpr hprunes)
      rw [Nat.zero_add, hwhole hne] at hline
      simp [isPruned_concat, hprunes, hline, hblank]
    . simp [isPruned_concat, hprunes]
  . intro entry hentry
    cases List.mem_append.mp hentry with
    | inl hold => exact h.pruned entry hold
    | inr hnew =>
      rw [List.mem_singleton] at hnew
      intro queueId hmem hblank
      rw [hnew] at hmem ⊢
      apply Nat.le_of_eq
      apply Eq.symm
      apply hwhole
      exact List.ne_nil_of_mem (List.mem_filter.mpr ⟨hmem, decide_eq_true hblank⟩)
  . exact Nat.le_trans (List.length_filter_le _ _) h.fits
  . exact h.sourceLen
  . intro hsame
    cases h.untouched hsame with
    | inl hempty =>
      left
      rw [hempty]
      rfl
    | inr hread => exact .inr hread
  . intro hnone
    rw [h.missing hnone]
    rfl

theorem synced_append (h : Synced json queue lines) (more : List UInt8)
    (modifiedAtUnixNanos : Nat)
    : Synced json (queue.append more modifiedAtUnixNanos) lines := by
  unfold append
  split
  . exact h
  . next hmore =>
    have hlength : (queue.bytes ++ more).length = queue.bytes.length + more.length :=
      List.length_append
    have hpos : 0 < more.length := List.length_pos_iff.mpr hmore
    have hsourceLen := h.sourceLen
    constructor
    . exact h.closed
    . exact h.isPrefix.trans (List.prefix_append _ _)
    . exact h.offsetBytes
    . exact h.lineNumber
    . exact h.head
    . exact h.tail
    . exact h.decodes
    . exact h.rows
    . exact h.pruned
    . exact h.fits
    . show queue.index.cursor.sourceLenBytes ≤ (queue.bytes ++ more).length
      omega
    . intro hsame
      have hsame : queue.index.cursor.sourceLenBytes = (queue.bytes ++ more).length := hsame
      omega
    . intro hnone
      cases hnone

def Consistent (json : PendingJson V) (queue : PendingQueue) : Prop :=
  ∃ lines, Synced json queue lines

variable (json)

theorem consistent_step (action : PendingAction) (h : Consistent json queue)
    : Consistent json (queue.step json action) := by
  obtain ⟨lines, h⟩ := h
  cases action with
  | append more modifiedAtUnixNanos => exact ⟨lines, synced_append h more modifiedAtUnixNanos⟩
  | read =>
    cases hrefresh : PendingIndex.refreshPendingIndexLocked json PendingIndex.maxActiveRows
      queue.pending queue.index with
    | error e =>
      simp only [step, read, PendingIndex.readQueuedPendingValuesFromIndex,
        withCurrent_of_error hrefresh]
      exact ⟨lines, h⟩
    | ok out =>
      obtain ⟨-, whole, hsynced, -⟩ := (refresh_eq_ok h).2 out hrefresh
      simp only [step, read, PendingIndex.readQueuedPendingValuesFromIndex,
        withCurrent_of_ok hrefresh]
      exact ⟨whole, hsynced⟩
  | «exists» queueId =>
    by_cases hblank : Text.trim queueId = ""
    . simp only [step, queueIdExists, PendingIndex.pendingQueueIdExistsFromIndex, hblank, if_true]
      exact ⟨lines, h⟩
    . cases hrefresh : PendingIndex.refreshPendingIndexLocked json PendingIndex.maxActiveRows
        queue.pending queue.index with
      | error e =>
        simp only [step, queueIdExists, PendingIndex.pendingQueueIdExistsFromIndex, hblank,
          if_false, withCurrent_of_error hrefresh]
        exact ⟨lines, h⟩
      | ok out =>
        obtain ⟨-, whole, hsynced, -⟩ := (refresh_eq_ok h).2 out hrefresh
        simp only [step, queueIdExists, PendingIndex.pendingQueueIdExistsFromIndex, hblank,
          if_false, withCurrent_of_ok hrefresh]
        exact ⟨whole, hsynced⟩
  | prune ids =>
    by_cases hblank : ids.filter (fun queueId => Text.trim queueId ≠ "") = []
    . have hsynced := synced_prune h (fun hne => absurd hblank hne)
      rw [hblank] at hsynced
      simp only [step, prune, PendingIndex.pruneTerminalQueueIdsFromPendingIndex, hblank, if_true]
      exact ⟨lines, by simpa using hsynced⟩
    . cases hrefresh : PendingIndex.refreshPendingIndexLocked json PendingIndex.maxActiveRows
        queue.pending queue.index with
      | error e =>
        simp only [step, prune, PendingIndex.pruneTerminalQueueIdsFromPendingIndex, hblank,
          if_false, withCurrent_of_error hrefresh]
        exact ⟨lines, h⟩
      | ok out =>
        obtain ⟨-, whole, hsynced, hwhole⟩ := (refresh_eq_ok h).2 out hrefresh
        simp only [step, prune, PendingIndex.pruneTerminalQueueIdsFromPendingIndex, hblank,
          if_false, withCurrent_of_ok hrefresh]
        exact ⟨whole, synced_prune hsynced fun _ => hwhole⟩

theorem consistent_exec (pending : Option LedgerFile) (actions : List PendingAction)
    : Consistent json (exec (step json) (start pending) actions) := by
  apply Run.exec_invariant (Consistent json)
  . intro queue action h
    exact consistent_step json action h
  . exact ⟨[], synced_start json pending⟩

/-
A read returns the values of the expected rows in the order of the ledger, an id is there when one of these rows
has it, a call that fails leaves rows and cursor, and where the rows that are left after a prune fit, the read
after it goes through.
-/
structure Refines (queue : PendingQueue) : Prop where
  read : ∃ values, (queue.read json).2 = .ok values
    ∧ List.Forall₂ (fun row value => json.parse row.rawJson = .ok value)
        (queue.expectedRows json) values
  found : ∀ queueId, Text.trim queueId ≠ "" →
    (queue.queueIdExists json queueId).2
      = .ok ((queue.expectedRows json).any (·.queueId = queueId))
  unchanged : ∀ e, (queue.read json).2 = .error e → (queue.read json).1 = queue.index
  relieved : ∀ ids,
    { queue with pruned := queue.pruned ++ [(queue.index.cursor.lineNumber, ids)] }.Fits json →
      ∃ values, ((queue.step json (.prune ids)).read json).2 = .ok values

variable {json}

theorem read_of_refresh {out : PendingIndex.Index}
    (hout : PendingIndex.refreshPendingIndexLocked json PendingIndex.maxActiveRows queue.pending
      queue.index = .ok out)
    : queue.read json = (out, PendingIndex.readPendingValues json out) := by
  rw [read, PendingIndex.readQueuedPendingValuesFromIndex, withCurrent_of_ok hout]

theorem read_of_fits (h : Consistent json queue) (hreadable : queue.Readable)
    (hfits : queue.Fits json)
    : ∃ values, (queue.read json).2 = .ok values
        ∧ List.Forall₂ (fun row value => json.parse row.rawJson = .ok value)
            (queue.expectedRows json) values := by
  obtain ⟨lines, h⟩ := h
  obtain ⟨hiff, hrows⟩ := refresh_eq_ok h
  obtain ⟨out, hout⟩ := hiff.mpr ⟨hreadable, hfits⟩
  obtain ⟨hexpected, -⟩ := hrows out hout
  rw [read_of_refresh hout, ← hexpected]
  apply readPendingValues_of_queued
  intro row hmem
  rw [hexpected] at hmem
  exact queued_of_mem_expectedRows hmem

theorem fits_of_read (h : Consistent json queue) {values : List V}
    (hread : (queue.read json).2 = .ok values)
    : queue.Readable ∧ queue.Fits json := by
  obtain ⟨lines, h⟩ := h
  cases hrefresh : PendingIndex.refreshPendingIndexLocked json PendingIndex.maxActiveRows
    queue.pending queue.index with
  | error e =>
    rw [read, PendingIndex.readQueuedPendingValuesFromIndex, withCurrent_of_error hrefresh] at hread
    cases hread
  | ok out => exact (refresh_eq_ok h).1.mp ⟨out, hrefresh⟩

theorem fits_prune (hfits : queue.Fits json) (ids : List String)
    : (queue.step json (.prune ids)).Fits json := by
  have hle : ∀ entry, ({ queue with pruned := queue.pruned ++ [entry] }.expectedRows json).length
      ≤ (queue.expectedRows json).length := by
    intro entry
    unfold expectedRows
    apply List.Sublist.length_le
    apply List.monotone_filter_right
    intro row hrow
    rw [isPruned_concat, Bool.not_or, Bool.and_eq_true] at hrow
    exact hrow.1
  unfold step
  dsimp only
  split
  . exact hfits
  . exact Nat.le_trans (hle _) hfits

theorem readable_step (hreadable : queue.Readable) (ids : List String)
    : (queue.step json (.prune ids)).Readable := by
  unfold step
  dsimp only
  split
  . exact hreadable
  . exact hreadable

variable (json)

theorem refines_iff (h : Consistent json queue)
    : queue.Refines json ↔ queue.Readable ∧ queue.Fits json := by
  constructor
  . intro hrefines
    obtain ⟨values, hread, -⟩ := hrefines.read
    exact fits_of_read h hread
  . rintro ⟨hreadable, hfits⟩
    have hread := read_of_fits h hreadable hfits
    constructor
    . exact hread
    . intro queueId hblank
      obtain ⟨lines, h⟩ := h
      obtain ⟨hiff, hrows⟩ := refresh_eq_ok h
      obtain ⟨out, hout⟩ := hiff.mpr ⟨hreadable, hfits⟩
      rw [queueIdExists, PendingIndex.pendingQueueIdExistsFromIndex, if_neg hblank,
        withCurrent_of_ok hout, (hrows out hout).1]
    . intro e he
      obtain ⟨values, hok, -⟩ := hread
      rw [hok] at he
      cases he
    . intro ids _
      obtain ⟨values, hok, -⟩ := read_of_fits (consistent_step json (.prune ids) h)
        (readable_step hreadable ids) (fits_prune hfits ids)
      exact ⟨values, hok⟩

/-
In every state of every run the index stands for its ledger if and only if the ledger is text and its queued rows
fit.
-/
theorem pending_index_refines (pending : Option LedgerFile) (actions : List PendingAction)
    : let queue := exec (step json) (start pending) actions
      queue.Refines json ↔ queue.Readable ∧ queue.Fits json :=
  refines_iff json (consistent_exec json pending actions)

theorem step_prune_of_not_fits (h : Consistent json queue) (hfits : ¬queue.Fits json)
    {ids : List String} (hids : ids.filter (fun queueId => Text.trim queueId ≠ "") ≠ [])
    : queue.step json (.prune ids) = queue := by
  obtain ⟨lines, h⟩ := h
  cases hrefresh : PendingIndex.refreshPendingIndexLocked json PendingIndex.maxActiveRows
    queue.pending queue.index with
  | error e =>
    simp only [step, prune, PendingIndex.pruneTerminalQueueIdsFromPendingIndex, hids, if_false,
      withCurrent_of_error hrefresh]
  | ok out => exact absurd ((refresh_eq_ok h).1.mp ⟨out, hrefresh⟩).2 hfits

/-
A ledger with more copies of one queued row than the index has room for.
-/
def sampleLine : String := "\x7b\"queueId\":\"q1\",\"status\":\"queued\"\x7d"

def sampleJson : PendingJson (String ⊕ List (String × String)) where
  parse text :=
    if text = sampleLine then
      .ok (.inr [("queueId", "q1"), ("status", "queued")])
    else
      .error "expected value at line 1 column 1"
  isObject := Sum.isRight
  get value name :=
    match value with
    | .inl _ => none
    | .inr fields => (fields.lookup name).map .inl
  asStr := Sum.getLeft?

def copies (n : Nat) : List UInt8 :=
  (List.replicate n (ChannelDelivery.lineBytes sampleLine)).flatten

theorem copies_succ (n : Nat) : copies (n + 1) = copies n ++ ChannelDelivery.lineBytes sampleLine := by
  simp [copies, List.replicate_succ']

theorem oneLine_sampleLine : ChannelDelivery.OneLine sampleLine := by
  have h := @ChannelDelivery.oneLine_object "\"queueId\":\"q1\",\"status\":\"queued\"" (by decide)
  exact h

theorem closed_copies (n : Nat) : Closed (copies n) := by
  induction n with
  | zero => exact ChannelDelivery.closed_nil
  | succ n ih =>
    rw [copies_succ]
    exact ih.append (ChannelDelivery.closed_lineBytes _)

theorem rawLines_copies (n : Nat)
    : rawLines (copies n) = List.replicate n (ChannelDelivery.lineBytes sampleLine) := by
  induction n with
  | zero => rfl
  | succ n ih =>
    rw [copies_succ, ChannelDelivery.rawLines_append (closed_copies n), ih,
      ChannelDelivery.rawLines_lineBytes oneLine_sampleLine, List.replicate_succ']

theorem queuedRows_sampleLine (lineNumber : Nat)
    : queuedRows sampleJson lineNumber [ChannelDelivery.lineBytes sampleLine]
        = [{ sourceLine := lineNumber + 1, queueId := "q1", rawJson := sampleLine }] := by
  have htrim : Text.trim (sampleLine ++ "\n") = sampleLine :=
    Text.trim_append_newline oneLine_sampleLine.ne oneLine_sampleLine.trim
  have hqueued : PendingIndex.pendingLine sampleJson sampleLine = .queued "q1" := by
    decide
  simp only [queuedRows, ChannelDelivery.decode_lineBytes, htrim, hqueued]

theorem length_queuedRows_copies (lineNumber n : Nat)
    : (queuedRows sampleJson lineNumber (rawLines (copies n))).length = n := by
  rw [rawLines_copies]
  induction n generalizing lineNumber with
  | zero => rfl
  | succ n ih =>
    rw [List.replicate_succ, queuedRows_cons, List.length_append, queuedRows_sampleLine, ih,
      List.length_singleton, Nat.add_comm]

theorem queueId_of_mem_copies {lineNumber n : Nat}
    (h : row ∈ queuedRows sampleJson lineNumber (rawLines (copies n)))
    : row.queueId = "q1" := by
  rw [rawLines_copies] at h
  induction n generalizing lineNumber with
  | zero => cases h
  | succ n ih =>
    rw [List.replicate_succ, queuedRows_cons, queuedRows_sampleLine, List.singleton_append,
      List.mem_cons] at h
    cases h with
    | inl hfirst => rw [hfirst]
    | inr hrest => exact ih hrest

theorem completeLines_of_closed {whole : List UInt8} (h : Closed whole)
    : completeLines whole = rawLines whole := by
  have hlines := completeLines_append_torn h (List.not_mem_nil (a := TextFile.newline))
  rwa [List.append_nil] at hlines

def filled (n : Nat) : PendingQueue :=
  (start none).append (copies n) 1

def overfull (n : Nat) : PendingQueue :=
  ((filled n).step sampleJson .read).append (ChannelDelivery.lineBytes sampleLine) 2

theorem copies_ne_nil {n : Nat} (h : 0 < n) : copies n ≠ [] := by
  have hlength := length_queuedRows_copies 0 n
  intro hnil
  rw [hnil] at hlength
  have : n = 0 := hlength.symm
  omega

theorem consistent_filled (n : Nat) : Consistent sampleJson (filled n) :=
  ⟨[], synced_append (synced_start sampleJson none) _ 1⟩

theorem consistent_overfull (n : Nat) : Consistent sampleJson (overfull n) := by
  have hstep := consistent_step sampleJson .read (consistent_filled n)
  exact consistent_step sampleJson (.append (ChannelDelivery.lineBytes sampleLine) 2) hstep

section

variable {n : Nat} (hn : 0 < n)

include hn

theorem filled_eq
    : filled n = {
        pending := some { bytes := copies n, modifiedAtUnixNanos := 1 }
        index := {}
        pruned := [] } := by
  unfold filled append
  rw [if_neg (copies_ne_nil hn)]
  rfl

theorem bytes_filled : (filled n).bytes = copies n := by
  rw [filled_eq hn]
  rfl

theorem lineNumber_filled (hroom : n ≤ PendingIndex.maxActiveRows)
    : ((filled n).step sampleJson .read).index.cursor.lineNumber = n := by
  have hexpected : (filled n).expectedRows sampleJson
      = queuedRows sampleJson 0 (rawLines (copies n)) := by
    have hnone : (filled n).pruned = [] := by
      rw [filled_eq hn]
    rw [expectedRows, bytes_filled hn, completeLines_of_closed (closed_copies _), hnone]
    simp [isPruned]
  have hreadable : (filled n).Readable := by
    intro raw hmem
    rw [bytes_filled hn, rawLines_copies] at hmem
    rw [List.eq_of_mem_replicate hmem]
    exact ⟨_, ChannelDelivery.decode_lineBytes _⟩
  have hfits : (filled n).Fits sampleJson := by
    rw [Fits, hexpected, length_queuedRows_copies]
    exact hroom
  have hsynced : Synced sampleJson (filled n) [] := synced_append (synced_start sampleJson none) _ 1
  obtain ⟨hiff, hrows⟩ := refresh_eq_ok hsynced
  obtain ⟨out, hout⟩ := hiff.mpr ⟨hreadable, hfits⟩
  obtain ⟨-, whole, hwhole, hcount⟩ := hrows out hout
  have hline : out.cursor.lineNumber = (rawLines whole).length := hwhole.lineNumber
  show ((filled n).read sampleJson).1.cursor.lineNumber = _
  rw [read_of_refresh hout, hline, hcount, bytes_filled hn,
    completeLines_of_closed (closed_copies _), rawLines_copies, List.length_replicate]

theorem overfull_fields
    : (overfull n).bytes = copies (n + 1) ∧ (overfull n).pruned = []
      ∧ (overfull n).index = ((filled n).step sampleJson .read).index := by
  have hstep : ((filled n).step sampleJson .read).bytes = copies n := bytes_filled hn
  have hpruned : ((filled n).step sampleJson .read).pruned = [] := by
    show (filled n).pruned = []
    rw [filled_eq hn]
  unfold overfull append
  rw [if_neg (by simp [ChannelDelivery.lineBytes])]
  refine ⟨?_, hpruned, rfl⟩
  show ((filled n).step sampleJson .read).bytes ++ _ = _
  rw [hstep, copies_succ]

theorem overfull_not_fits (hfull : PendingIndex.maxActiveRows ≤ n)
    : ¬(overfull n).Fits sampleJson := by
  obtain ⟨hbytes, hpruned, -⟩ := overfull_fields hn
  have hall : ((overfull n).expectedRows sampleJson).length = n + 1 := by
    rw [expectedRows, hbytes, completeLines_of_closed (closed_copies _), hpruned,
      List.filter_eq_self.mpr, length_queuedRows_copies]
    intro row _
    rfl
  rw [Fits, hall]
  omega

theorem overfull_fits_after_prune (hroom : n ≤ PendingIndex.maxActiveRows)
    : { overfull n with pruned := (overfull n).pruned
        ++ [((overfull n).index.cursor.lineNumber, ["q1"])] }.Fits sampleJson := by
  obtain ⟨hbytes, hpruned, hindex⟩ := overfull_fields hn
  have hline : (overfull n).index.cursor.lineNumber = n := by
    rw [hindex]
    exact lineNumber_filled hn hroom
  have hlines : (rawLines (copies n)).length = n := by
    rw [rawLines_copies, List.length_replicate]
  have hold : (queuedRows sampleJson 0 (rawLines (copies n))).filter
      (fun row => !isPruned [(n, ["q1"])] row) = [] := by
    rw [List.filter_eq_nil_iff]
    intro row hmem
    obtain ⟨-, hbefore, -⟩ := mem_queuedRows sampleJson hmem
    have hbefore : row.sourceLine ≤ n := by
      omega
    simp [isPruned, hbefore, queueId_of_mem_copies hmem]
  have hnew : rawLines (copies (n + 1))
      = rawLines (copies n) ++ [ChannelDelivery.lineBytes sampleLine] := by
    rw [copies_succ, ChannelDelivery.rawLines_append (closed_copies n),
      ChannelDelivery.rawLines_lineBytes oneLine_sampleLine]
  have hexpected : { overfull n with pruned := (overfull n).pruned
        ++ [((overfull n).index.cursor.lineNumber, ["q1"])] }.expectedRows sampleJson
      = (queuedRows sampleJson 0 (completeLines (overfull n).bytes)).filter
          fun row => !isPruned [(n, ["q1"])] row := by
    rw [hpruned, hline]
    rfl
  rw [Fits, hexpected, hbytes, completeLines_of_closed (closed_copies _), hnew, queuedRows_append,
    List.filter_append, hold, queuedRows_sampleLine, List.nil_append]
  apply Nat.le_trans (List.length_filter_le _ _)
  rw [List.length_singleton]
  decide

end

/-
The index is full when one more row is queued. The prune of all rows that it holds fails with the error that it
should relieve, and so does every read after it.
-/
theorem full_index_not_relieved
    : ¬∀ pending actions, (exec (step sampleJson) (start pending) actions).Refines sampleJson := by
  obtain ⟨n, hn⟩ : ∃ n, n = PendingIndex.maxActiveRows := ⟨_, rfl⟩
  have hpos : 0 < n := by
    rw [hn]
    decide
  intro h
  have hrefines : (overfull n).Refines sampleJson := h none [
    .append (copies n) 1, .read, .append (ChannelDelivery.lineBytes sampleLine) 2]
  obtain ⟨values, hread⟩ := hrefines.relieved ["q1"] (overfull_fits_after_prune hpos hn.le)
  have hfits := overfull_not_fits hpos hn.ge
  rw [step_prune_of_not_fits sampleJson (consistent_overfull n) hfits (by decide)] at hread
  exact hfits (fits_of_read (consistent_overfull n) hread).2

end PendingQueue

end RuntimeQueue
