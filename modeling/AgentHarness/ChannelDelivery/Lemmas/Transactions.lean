import AgentHarness.ChannelDelivery.Lemmas.Counters

/-!
The transactions of the index: tails, rebuilds and the replay of cold segments.
-/

namespace ChannelDelivery

structure ReceiptFrame (source : ReceiptSource) (before after : Index) : Prop where
  outbox : after.outbox = before.outbox
  historySegments : after.historySegments = before.historySegments
  outboxCursor : after.outboxCursor = before.outboxCursor
  receiptCursor : after.receiptCursor = before.receiptCursor
  records : ∀ record ∈ after.receiptRecords,
    record.source ≠ source → record ∈ before.receiptRecords

theorem ReceiptFrame.refl (source : ReceiptSource) (index : Index)
    : ReceiptFrame source index index where
  outbox := rfl
  historySegments := rfl
  outboxCursor := rfl
  receiptCursor := rfl
  records _ hrecord _ := hrecord

theorem ReceiptFrame.trans {source : ReceiptSource} {first second third : Index}
    (h : ReceiptFrame source first second) (h' : ReceiptFrame source second third)
    : ReceiptFrame source first third where
  outbox := h'.outbox.trans h.outbox
  historySegments := h'.historySegments.trans h.historySegments
  outboxCursor := h'.outboxCursor.trans h.outboxCursor
  receiptCursor := h'.receiptCursor.trans h.receiptCursor
  records record hrecord hsource := h.records record (h'.records record hrecord hsource) hsource

structure OutboxFrame (before after : Index) : Prop where
  states : after.states = before.states
  receiptRecords : after.receiptRecords = before.receiptRecords
  historySegments : after.historySegments = before.historySegments
  receiptCursor : after.receiptCursor = before.receiptCursor

theorem OutboxFrame.trans {first second third : Index} (h : OutboxFrame first second)
    (h' : OutboxFrame second third)
    : OutboxFrame first third where
  states := h'.states.trans h.states
  receiptRecords := h'.receiptRecords.trans h.receiptRecords
  historySegments := h'.historySegments.trans h.historySegments
  receiptCursor := h'.receiptCursor.trans h.receiptCursor

section

variable {formats : Formats} {source : ReceiptSource}

theorem indexReceiptLine_frame {index : Index} {start : Nat} (hread : ReadUpTo index source start)
    {line : Nat × String} (hline : start < line.1)
    : ReceiptFrame source index (Index.indexReceiptLine formats source index line)
      ∧ ReadUpTo (Index.indexReceiptLine formats source index line) source line.1 := by
  have hearlier : ReadUpTo index source line.1 := by
    intro record hrecord hsource
    have := hread record hrecord hsource
    omega
  cases hparse : formats.receipt line.2 with
  | error error =>
    rw [indexReceiptLine_of_error hparse]
    exact ⟨⟨rfl, rfl, rfl, rfl, fun _ hrecord _ => hrecord⟩, hearlier⟩
  | ok receipt =>
    rw [indexReceiptLine_of_ok hparse hread hline, received_eq]
    refine ⟨⟨rfl, rfl, rfl, rfl, ?_⟩, ?_⟩
    . rw [List.forall_mem_append, List.forall_mem_singleton]
      exact ⟨fun _ hrecord _ => hrecord, fun hother => absurd rfl hother⟩
    . unfold ReadUpTo
      rw [List.forall_mem_append, List.forall_mem_singleton]
      exact ⟨hearlier, fun _ => le_refl _⟩

theorem indexReceiptLines {lines : List (Nat × String)} {start last : Nat}
    (hlines : Numbered start last lines) {index : Index} {lastLine : Nat}
    (h : Coherent index lastLine) (hread : ReadUpTo index source start)
    : Coherent (lines.foldl (Index.indexReceiptLine formats source) index) lastLine
      ∧ ReceiptFrame source index (lines.foldl (Index.indexReceiptLine formats source) index)
      ∧ ReadUpTo (lines.foldl (Index.indexReceiptLine formats source) index) source last := by
  induction lines generalizing index start with
  | nil =>
    refine ⟨h, .refl source index, ?_⟩
    intro record hrecord hsource
    exact le_trans (hread record hrecord hsource) hlines
  | cons line rest ih =>
    rw [List.foldl_cons]
    obtain ⟨hframe, hnext⟩ := @indexReceiptLine_frame formats _ _ _ hread _ hlines.1
    obtain ⟨hcoherent, hrest, hlast⟩ := ih hlines.2 (h.indexReceiptLine hread hlines.1) hnext
    exact ⟨hcoherent, hframe.trans hrest, hlast⟩

theorem readReceiptsFromCursor_spec {index later : Index} {file : LedgerFile}
    {cursor next : LedgerCursor} {lastLine : Nat} (h : Coherent index lastLine)
    (hcursor : cursor.offsetBytes ≤ file.bytes.length)
    (hread : ReadUpTo index source cursor.lineNumber)
    (hrun : index.readReceiptsFromCursor formats source file cursor = .ok (later, next))
    : Coherent later lastLine ∧ ReceiptFrame source index later
      ∧ ReadUpTo later source next.lineNumber := by
  obtain ⟨read, hreadLines, hrun⟩ := Except.bind_eq_ok.mp hrun
  obtain ⟨rfl, rfl⟩ := Prod.mk.inj (Except.ok.inj hrun)
  unfold readFromCursor at hreadLines
  dsimp only at hreadLines
  rw [if_neg (by omega)] at hreadLines
  exact indexReceiptLines (readLines_numbered formats _ _ _ hreadLines) h hread

end

def Index.outboxLine (self : Index) : Nat :=
  (self.outboxCursor.map (·.lineNumber)).getD 0

def Index.receiptLine (self : Index) : Nat :=
  (self.receiptCursor.map (·.lineNumber)).getD 0

/-
The tables hold together, and they go up to a line of the outbox and a line of the hot ledger.
-/
structure IndexedUpTo (index : Index) (outboxLine receiptLine : Nat) : Prop where
  coherent : Coherent index outboxLine
  hot : ReadUpTo index .hot receiptLine
  cold : ∀ record ∈ index.receiptRecords, ∀ transactionId, record.source = .cold transactionId
    → ∃ segment ∈ index.historySegments, segment.transactionId = transactionId

def Indexed (index : Index) : Prop :=
  IndexedUpTo index index.outboxLine index.receiptLine

theorem indexed_empty : Indexed {} where
  coherent := {
    rows := rowsOk_nil
    states := fun _ => rfl
    named := by simp
    counters := fun _ => rfl }
  hot := by
    unfold ReadUpTo
    simp
  cold := by simp

theorem Coherent.withoutReceipts {index : Index} {lastLine : Nat} (h : Coherent index lastLine)
    : Coherent index.clearReceipts.resetPlatformDeliveryCounts lastLine where
  rows := h.rows
  states _ := rfl
  named := by simp [Index.clearReceipts, Index.resetPlatformDeliveryCounts]
  counters platform := by
    have hpending : index.clearReceipts.resetPlatformDeliveryCounts.dispositionsOf platform
        = List.replicate (index.dispositionsOf platform).length .pending := by
      rw [List.eq_replicate_iff]
      constructor
      . unfold Index.dispositionsOf
        rw [List.length_map, List.length_map]
        rfl
      . intro disposition hdisposition
        obtain ⟨delivery, _, rfl⟩ := List.mem_map.mp hdisposition
        rfl
    have hcount : (index.summaryOf platform).validOutboxCount
        = (index.dispositionsOf platform).length := by
      rw [h.counters]
      rfl
    have hsummary : index.clearReceipts.summaryOf platform = index.summaryOf platform := rfl
    rw [resetPlatformDeliveryCounts_summaryOf, hsummary, hcount, hpending]
    simp [summarize, List.count_replicate, List.countP_replicate]

section

variable {formats : Formats}

variable {index later : Index} {history : ChannelDeliveryReceiptHistory} {file : LedgerFile}
  {outboxLine : Nat}

theorem outboxFrame_indexOutboxLine {line : Nat × String}
    (h : Index.indexOutboxLine formats index line = .ok later)
    : OutboxFrame index later := by
  unfold Index.indexOutboxLine at h
  split at h
  . obtain ⟨placed, hplaced, hlater⟩ := Except.bind_eq_ok.mp h
    obtain ⟨_, rfl⟩ := insertOutboxMessage_eq_ok.mp hplaced
    obtain rfl := Except.ok.inj hlater
    exact ⟨rfl, rfl, rfl, rfl⟩
  . obtain rfl := Except.ok.inj h
    exact ⟨rfl, rfl, rfl, rfl⟩

theorem outboxFrame_indexOutboxLines {lines : List (Nat × String)}
    (h : lines.foldlM (Index.indexOutboxLine formats) index = .ok later)
    : OutboxFrame index later := by
  induction lines generalizing index with
  | nil =>
    obtain rfl := Except.ok.inj h
    exact ⟨rfl, rfl, rfl, rfl⟩
  | cons line rest ih =>
    rw [List.foldlM_cons] at h
    obtain ⟨next, hnext, h⟩ := Except.bind_eq_ok.mp h
    exact (outboxFrame_indexOutboxLine hnext).trans (ih h)

variable {cursor : LedgerCursor} {receiptLine : Nat}

theorem readOutboxFromCursor_indexed (hcursor : cursor.offsetBytes ≤ file.bytes.length)
    (h : IndexedUpTo index cursor.lineNumber index.receiptLine)
    (hrun : index.readOutboxFromCursor formats file cursor = .ok later)
    : Indexed later := by
  obtain ⟨read, hread, hrun⟩ := Except.bind_eq_ok.mp hrun
  obtain ⟨rows, hrows, hrun⟩ := Except.bind_eq_ok.mp hrun
  obtain rfl := Except.ok.inj hrun
  unfold readFromCursor at hread
  dsimp only at hread
  rw [if_neg (by omega)] at hread
  have hnumbered := readLines_numbered formats _ _ _ hread
  have hframe := outboxFrame_indexOutboxLines hrows
  constructor
  . exact (h.coherent.indexOutboxLines hnumbered hrows).congr rfl rfl rfl rfl
  . unfold ReadUpTo Index.receiptLine
    rw [hframe.receiptRecords, hframe.receiptCursor]
    exact h.hot
  . rw [hframe.receiptRecords, hframe.historySegments]
    exact h.cold

theorem rebuildOutboxIndexLocked_indexed
    (hrun : index.rebuildOutboxIndexLocked formats file = .ok later)
    : Indexed later := by
  apply readOutboxFromCursor_indexed (Nat.zero_le _) _ hrun
  exact ⟨indexed_empty.coherent.congr rfl rfl rfl rfl, indexed_empty.hot, indexed_empty.cold⟩

theorem ledgerRefreshMode_append {label : String} {cursor : Option LedgerCursor}
    {known : LedgerCursor} (h : ledgerRefreshMode label file cursor = .append known)
    : cursor = some known ∧ known.offsetBytes < file.bytes.length := by
  unfold ledgerRefreshMode at h
  cases cursor with
  | none => cases h
  | some cursor =>
    dsimp only at h
    split at h
    . cases h
    . split at h
      . cases h
      . split at h
        . split at h
          . cases h
          . cases h
        . split at h
          . obtain rfl := LedgerRefreshMode.append.inj h
            exact ⟨rfl, by omega⟩
          . cases h

theorem refreshOutboxIndexLocked_indexed (h : Indexed index) {outbox : Option LedgerFile}
    (hrun : index.refreshOutboxIndexLocked formats outbox = .ok later)
    : Indexed later := by
  unfold Index.refreshOutboxIndexLocked at hrun
  cases outbox with
  | none =>
    dsimp only at hrun
    split at hrun
    . obtain rfl := Except.ok.inj hrun
      exact ⟨indexed_empty.coherent.congr rfl rfl rfl rfl, indexed_empty.hot, indexed_empty.cold⟩
    . obtain rfl := Except.ok.inj hrun
      exact h
  | some file =>
    dsimp only at hrun
    split at hrun
    . obtain rfl := Except.ok.inj hrun
      exact h
    . next cursor hmode =>
      obtain ⟨hcursor, hoffset⟩ := ledgerRefreshMode_append hmode
      unfold Indexed Index.outboxLine at h
      rw [hcursor] at h
      exact readOutboxFromCursor_indexed (le_of_lt hoffset) h hrun
    . exact rebuildOutboxIndexLocked_indexed hrun

theorem historySegments_indexReceiptLines (source : ReceiptSource) (lines : List (Nat × String))
    (index : Index)
    : (lines.foldl (Index.indexReceiptLine formats source) index).historySegments
        = index.historySegments := by
  induction lines generalizing index with
  | nil => rfl
  | cons line rest ih =>
    rw [List.foldl_cons, ih]
    unfold Index.indexReceiptLine
    split
    . next receipt _ =>
      show (index.received receipt).historySegments = index.historySegments
      rw [received_eq]
    . rfl

theorem readHotReceipts_indexed {next : LedgerCursor}
    (hcursor : cursor.offsetBytes ≤ file.bytes.length)
    (h : IndexedUpTo index outboxLine cursor.lineNumber)
    (hrun : index.readReceiptsFromCursor formats .hot file cursor = .ok (later, next))
    : IndexedUpTo later outboxLine next.lineNumber ∧ later.outboxCursor = index.outboxCursor := by
  obtain ⟨hcoherent, hframe, hread⟩ := readReceiptsFromCursor_spec h.coherent hcursor h.hot hrun
  refine ⟨⟨hcoherent, hread, ?_⟩, hframe.outboxCursor⟩
  intro record hrecord transactionId hsource
  rw [hframe.historySegments]
  apply h.cold record _ transactionId hsource
  apply hframe.records record hrecord
  rw [hsource]
  simp

theorem appendColdHistorySegment_eq_ok {segment : ChannelDeliveryReceiptHistorySegment}
    : index.appendColdHistorySegment formats history segment = .ok later
        ↔ history.segmentIsValid segment = true
          ∧ (∀ other ∈ index.historySegments, other.transactionId ≠ segment.transactionId)
          ∧ ∃ read, readFromCursor formats
              { bytes := (history.file segment.fileName).getD [], modifiedAtUnixNanos := 0 } {}
                = .ok read
            ∧ later = { read.lines.foldl
                (Index.indexReceiptLine formats (.cold segment.transactionId)) index with
                historySegments := index.historySegments ++ [segment] } := by
  have hsegments : ∀ lines : List (Nat × String), (lines.foldl
      (Index.indexReceiptLine formats (.cold segment.transactionId)) index).historySegments
        = index.historySegments := fun lines => historySegments_indexReceiptLines _ lines index
  constructor
  . intro hrun
    obtain ⟨_, hvalid, hrun⟩ := Except.bind_eq_ok.mp hrun
    obtain ⟨_, hread, hrun⟩ := Except.bind_eq_ok.mp hrun
    obtain ⟨read, hlines, hread⟩ := Except.bind_eq_ok.mp hread
    obtain rfl := Except.ok.inj hread
    obtain ⟨_, hnew, hrun⟩ := Except.bind_eq_ok.mp hrun
    obtain rfl := Except.ok.inj hrun
    rw [Except.require_eq_ok] at hvalid hnew
    simp only [hsegments, Bool.not_eq_true', List.any_eq_false, decide_eq_true_eq] at hnew
    refine ⟨hvalid, hnew, read, hlines, ?_⟩
    simp only [hsegments]
  . rintro ⟨hvalid, hnew, read, hlines, rfl⟩
    unfold Index.appendColdHistorySegment Index.readReceiptsFromCursor
    simp only [Except.bind_eq_ok, Except.require_eq_ok, Except.pure_eq_ok]
    refine ⟨(), hvalid, _, ⟨read, hlines, rfl⟩, (), ?_, ?_⟩
    . simp only [hsegments, Bool.not_eq_true', List.any_eq_false, decide_eq_true_eq]
      exact hnew
    . simp only [hsegments]

theorem IndexedUpTo.unread (h : IndexedUpTo index outboxLine receiptLine) {transactionId : String}
    (hnew : ∀ other ∈ index.historySegments, other.transactionId ≠ transactionId)
    : ReadUpTo index (.cold transactionId) 0 := by
  intro record hrecord hsource
  obtain ⟨other, hother, hsame⟩ := h.cold record hrecord _ hsource
  exact absurd hsame (hnew other hother)

theorem appendColdHistorySegment_indexed {segment : ChannelDeliveryReceiptHistorySegment}
    (h : IndexedUpTo index outboxLine receiptLine)
    (hrun : index.appendColdHistorySegment formats history segment = .ok later)
    : IndexedUpTo later outboxLine receiptLine ∧ later.outboxCursor = index.outboxCursor
      ∧ later.receiptCursor = index.receiptCursor := by
  obtain ⟨_, hnew, read, hread, rfl⟩ := appendColdHistorySegment_eq_ok.mp hrun
  obtain ⟨hcoherent, hframe, _⟩ := readReceiptsFromCursor_spec h.coherent (Nat.zero_le _)
    (h.unread hnew) (Except.bind_eq_ok.mpr ⟨read, hread, rfl⟩)
  refine ⟨⟨hcoherent.congr rfl rfl rfl rfl, ?_, ?_⟩, hframe.outboxCursor, hframe.receiptCursor⟩
  . intro record hrecord hsource
    apply h.hot record _ hsource
    apply hframe.records record hrecord
    rw [hsource]
    simp
  . intro record hrecord transactionId hsource
    by_cases hsame : transactionId = segment.transactionId
    . exact ⟨segment, List.mem_append_right _ (List.mem_singleton_self _), hsame.symm⟩
    . have hold : record ∈ index.receiptRecords := by
        apply hframe.records record hrecord
        rw [hsource]
        simp [hsame]
      obtain ⟨other, hother, hid⟩ := h.cold record hold transactionId hsource
      exact ⟨other, List.mem_append_left _ hother, hid⟩

theorem appendColdHistorySegments_indexed {segments : List ChannelDeliveryReceiptHistorySegment}
    (h : IndexedUpTo index outboxLine receiptLine)
    (hrun : index.appendColdHistorySegments formats history segments = .ok later)
    : IndexedUpTo later outboxLine receiptLine ∧ later.outboxCursor = index.outboxCursor
      ∧ later.receiptCursor = index.receiptCursor := by
  unfold Index.appendColdHistorySegments at hrun
  induction segments generalizing index with
  | nil =>
    obtain rfl := Except.ok.inj hrun
    exact ⟨h, rfl, rfl⟩
  | cons segment segments ih =>
    rw [List.foldlM_cons] at hrun
    obtain ⟨next, hnext, hrun⟩ := Except.bind_eq_ok.mp hrun
    obtain ⟨hindexed, houtbox, hreceipts⟩ := appendColdHistorySegment_indexed h hnext
    obtain ⟨hlater, houtboxLater, hreceiptsLater⟩ := ih hindexed hrun
    exact ⟨hlater, houtboxLater.trans houtbox, hreceiptsLater.trans hreceipts⟩

theorem IndexedUpTo.withCursor (h : IndexedUpTo later index.outboxLine cursor.lineNumber)
    (houtbox : later.outboxCursor = index.outboxCursor)
    : Indexed { later with receiptCursor := some cursor } := by
  unfold Indexed Index.outboxLine
  rw [houtbox]
  exact ⟨h.coherent.congr rfl rfl rfl rfl, h.hot, h.cold⟩

theorem rebuildReceiptIndexLocked_indexed (h : Indexed index) {receipts : Option LedgerFile}
    (hrun : index.rebuildReceiptIndexLocked formats history receipts = .ok later)
    : Indexed later := by
  unfold Index.rebuildReceiptIndexLocked at hrun
  obtain ⟨replayed, hreplay, hrun⟩ := Except.bind_eq_ok.mp hrun
  have hcleared : IndexedUpTo index.clearReceipts.resetPlatformDeliveryCounts index.outboxLine 0 :=
    ⟨h.coherent.withoutReceipts, indexed_empty.hot, indexed_empty.cold⟩
  obtain ⟨hreplayed, houtbox, _⟩ := appendColdHistorySegments_indexed hcleared hreplay
  have hline : replayed.outboxLine = index.outboxLine := by
    unfold Index.outboxLine
    rw [houtbox]
    rfl
  cases receipts with
  | none =>
    obtain rfl := Except.ok.inj hrun
    rw [← hline] at hreplayed
    exact ⟨hreplayed.coherent.congr rfl rfl rfl rfl, hreplayed.hot, hreplayed.cold⟩
  | some file =>
    obtain ⟨⟨read, cursor⟩, hread, hrun⟩ := Except.bind_eq_ok.mp hrun
    obtain rfl := Except.ok.inj hrun
    obtain ⟨hhot, houtboxRead⟩ := readHotReceipts_indexed (Nat.zero_le _) hreplayed hread
    exact hhot.withCursor (houtboxRead.trans houtbox)

theorem refreshReceiptIndexLocked_indexed {recovered : Bool} (h : Indexed index)
    {receipts : Option LedgerFile}
    (hrun : Index.refreshReceiptIndexLocked formats recovered history index receipts = .ok later)
    : Indexed later := by
  unfold Index.refreshReceiptIndexLocked at hrun
  cases receipts with
  | none =>
    dsimp only at hrun
    split at hrun
    . exact rebuildReceiptIndexLocked_indexed h hrun
    . obtain rfl := Except.ok.inj hrun
      exact h
  | some file =>
    dsimp only at hrun
    split at hrun
    . exact rebuildReceiptIndexLocked_indexed h hrun
    . exact rebuildReceiptIndexLocked_indexed h hrun
    . exact rebuildReceiptIndexLocked_indexed h hrun
    . obtain rfl := Except.ok.inj hrun
      exact h
    . obtain ⟨hindexed, houtbox, hreceipts⟩ := appendColdHistorySegments_indexed h hrun
      unfold Indexed Index.outboxLine Index.receiptLine
      rw [houtbox, hreceipts]
      exact hindexed
    . next cursor hmode _ =>
      obtain ⟨hcursor, hoffset⟩ := ledgerRefreshMode_append hmode
      unfold Indexed Index.receiptLine at h
      rw [hcursor] at h
      obtain ⟨⟨read, next⟩, hread, hrun⟩ := Except.bind_eq_ok.mp hrun
      obtain ⟨hhot, houtbox⟩ := readHotReceipts_indexed (le_of_lt hoffset) h hread
      split at hrun
      . obtain ⟨replayed, hreplay, hrun⟩ := Except.bind_eq_ok.mp hrun
        obtain rfl := Except.ok.inj hrun
        obtain ⟨hreplayed, houtboxReplayed, _⟩ := appendColdHistorySegments_indexed hhot hreplay
        exact hreplayed.withCursor (houtboxReplayed.trans houtbox)
      . obtain rfl := Except.ok.inj hrun
        exact hhot.withCursor houtbox

end

/-
A transaction on the index, with the files it finds. One that fails is rolled back.
-/
inductive Transaction where
  | outbox (file : Option LedgerFile)
  | receipts (recovered : Bool) (history : ChannelDeliveryReceiptHistory)
    (file : Option LedgerFile)
  | rebuildOutbox (file : LedgerFile)
  | rebuildReceipts (history : ChannelDeliveryReceiptHistory) (file : Option LedgerFile)

def Transaction.run (formats : Formats) (index : Index) : Transaction → Except IoError Index
  | .outbox file => index.refreshOutboxIndexLocked formats file
  | .receipts recovered history file =>
    Index.refreshReceiptIndexLocked formats recovered history index file
  | .rebuildOutbox file => index.rebuildOutboxIndexLocked formats file
  | .rebuildReceipts history file => index.rebuildReceiptIndexLocked formats history file

def Transaction.commit (formats : Formats) (index : Index) (self : Transaction) : Index :=
  match self.run formats index with
  | .ok later => later
  | .error _ => index

theorem Transaction.indexed_commit {formats : Formats} {index : Index} (h : Indexed index)
    (transaction : Transaction)
    : Indexed (transaction.commit formats index) := by
  unfold Transaction.commit
  split
  . next later hrun =>
    cases transaction with
    | outbox file => exact refreshOutboxIndexLocked_indexed h hrun
    | receipts recovered history file => exact refreshReceiptIndexLocked_indexed h hrun
    | rebuildOutbox file => exact rebuildOutboxIndexLocked_indexed hrun
    | rebuildReceipts history file => exact rebuildReceiptIndexLocked_indexed h hrun
  . exact h

/-
The disposition that the receipts of a delivery call for: that of the last terminal one, or else
of the last one.
-/
def dispositionFor (receipts : List ChannelDeliveryReceipt) : DeliveryDisposition :=
  let last := (receipts.filter fun receipt => isTerminalStatus receipt.status).getLast?
    <|> receipts.getLast?
  match last with
  | none => .pending
  | some receipt =>
    match receipt.status with
    | .delivered => .delivered
    | .skippedPermanent => .skippedPermanent
    | .failed => .failed (receipt.renderedUnits.any fun unit => unit ≠ .delivered)

theorem stateOf_terminalStatus (receipts : List ChannelDeliveryReceipt)
    : (stateOf receipts).bind (·.terminalStatus)
        = ((receipts.filter fun receipt => isTerminalStatus receipt.status).getLast?).map
            (·.status) := by
  induction receipts using List.reverseRecOn with
  | nil => rfl
  | append_singleton receipts receipt ih =>
    rw [stateOf_concat, List.filter_append]
    by_cases hterminal : isTerminalStatus receipt.status
    . simp [nextDeliveryState, hterminal]
    . have hnone : [receipt].filter (fun receipt => isTerminalStatus receipt.status) = [] := by
        simp [hterminal]
      rw [hnone, List.append_nil, ← ih]
      cases hstate : stateOf receipts with
      | none => simp [nextDeliveryState, hterminal]
      | some state => simp [nextDeliveryState, hterminal]

theorem stateOf_last (receipts : List ChannelDeliveryReceipt)
    : (stateOf receipts).map (fun state => (state.lastStatus, state.lastPartialFailure))
        = receipts.getLast?.map fun receipt => (some receipt.status, receipt.status = .failed
            && receipt.renderedUnits.any fun unit => unit ≠ .delivered) := by
  induction receipts using List.reverseRecOn with
  | nil => rfl
  | append_singleton receipts receipt _ =>
    rw [stateOf_concat, List.getLast?_concat]
    rfl

theorem stateOf_attempts (receipts : List ChannelDeliveryReceipt)
    : ((stateOf receipts).map (·.attempts)).getD 0 = min receipts.length u64Max := by
  induction receipts using List.reverseRecOn with
  | nil => rfl
  | append_singleton receipts receipt ih =>
    rw [stateOf_concat, List.length_append, List.length_singleton]
    have hprevious : ((stateOf receipts).getD {}).attempts = min receipts.length u64Max := by
      rw [← ih]
      cases stateOf receipts with
      | none => rfl
      | some state => rfl
    show saturatingSucc ((stateOf receipts).getD {}).attempts = _
    rw [hprevious]
    unfold saturatingSucc
    omega

theorem deliveryDisposition_stateOf (receipts : List ChannelDeliveryReceipt)
    : deliveryDisposition (stateOf receipts) = dispositionFor receipts := by
  have hterminal := stateOf_terminalStatus receipts
  have hlast := stateOf_last receipts
  unfold dispositionFor
  cases hstate : stateOf receipts with
  | none =>
    rw [hstate, Option.map_none] at hlast
    have hempty := List.getLast?_eq_none_iff.mp (Option.map_eq_none_iff.mp hlast.symm)
    rw [hempty]
    rfl
  | some state =>
    rw [hstate, Option.map_some] at hlast
    obtain ⟨receipt, hreceipt, hfields⟩ := Option.map_eq_some_iff.mp hlast.symm
    obtain ⟨hstatus, hpartial⟩ := Prod.mk.inj hfields
    rw [hstate, Option.bind_some] at hterminal
    unfold deliveryDisposition
    rw [Option.bind_some, hterminal, ← hstatus]
    cases hfilter : (receipts.filter fun receipt => isTerminalStatus receipt.status).getLast? with
    | none =>
      rw [hreceipt]
      cases hcase : receipt.status with
      | delivered => simp [hcase]
      | skippedPermanent => simp [hcase]
      | failed => simp [← hpartial, hcase]
    | some terminal =>
      have hmem := List.mem_of_getLast? hfilter
      rw [List.mem_filter] at hmem
      cases hcase : terminal.status with
      | delivered => simp [hcase]
      | skippedPermanent => simp [hcase]
      | failed =>
        have hfalse := hmem.2
        rw [hcase] at hfalse
        cases hfalse

def Index.countWhere (self : Index) (platform : String) (p : DeliveryDisposition → Bool) : Int :=
  (self.deliveries.filter fun delivery =>
    delivery.message.platform = platform
      && p (dispositionFor (self.receiptsOf delivery.deliveryId))).length

theorem countWhere_eq {index : Index} {lastLine : Nat} (h : Coherent index lastLine)
    (platform : String) (p : DeliveryDisposition → Bool)
    : index.countWhere platform p = (index.dispositionsOf platform).countP p := by
  unfold Index.countWhere Index.dispositionsOf Index.dispositionOf
  rw [List.countP_map, List.countP_filter, List.countP_eq_length_filter]
  congr 3
  funext delivery
  rw [Function.comp_apply, h.states, deliveryDisposition_stateOf, Bool.and_comm]

end ChannelDelivery
