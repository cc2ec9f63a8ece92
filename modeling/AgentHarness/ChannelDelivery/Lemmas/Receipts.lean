import AgentHarness.ChannelDelivery.Lemmas.Tail
import AgentHarness.ChannelDelivery.Lemmas.Transactions

/-!
The receipts of the index against those of the ledgers: the cold segments, and the hot ledger up to
where the cursor stands.
-/

namespace ChannelDelivery

def parsedReceipts (formats : Formats) (lines : List (Nat × String))
    : List ChannelDeliveryReceipt :=
  lines.filterMap fun line => (formats.receipt line.2).toOption

def ledgerReceipts (formats : Formats) (bytes : List UInt8)
    : Except IoError (List ChannelDeliveryReceipt) :=
  (readWhole formats bytes).map fun read => parsedReceipts formats read.lines

def coldReceipts (formats : Formats) (history : ChannelDeliveryReceiptHistory)
    : Except IoError (List ChannelDeliveryReceipt) := do
  let receipts ← history.segments.mapM fun segment =>
    ledgerReceipts formats ((history.file segment.fileName).getD [])
  return receipts.flatten

section

variable {formats : Formats}

variable {index : Index}

theorem indexReceiptLine_receipts {source : ReceiptSource} {start : Nat}
    (hread : ReadUpTo index source start) {line : Nat × String} (hline : start < line.1)
    : (Index.indexReceiptLine formats source index line).receiptRecords.map (·.receipt)
        = index.receiptRecords.map (·.receipt) ++ parsedReceipts formats [line] := by
  cases hparse : formats.receipt line.2 with
  | error error =>
    rw [indexReceiptLine_of_error hparse]
    simp [parsedReceipts, hparse, Except.toOption, Index.insertReceiptError]
  | ok receipt =>
    rw [indexReceiptLine_of_ok hparse hread hline]
    simp [parsedReceipts, hparse, Except.toOption, Index.recordOf]

theorem indexReceiptLines_receipts {source : ReceiptSource} {lines : List (Nat × String)}
    {start last : Nat} (hlines : Numbered start last lines) (hread : ReadUpTo index source start)
    : (lines.foldl (Index.indexReceiptLine formats source) index).receiptRecords.map (·.receipt)
        = index.receiptRecords.map (·.receipt) ++ parsedReceipts formats lines := by
  induction lines generalizing index start with
  | nil => simp [parsedReceipts]
  | cons line rest ih =>
    obtain ⟨_, hnext⟩ := @indexReceiptLine_frame formats _ _ _ hread _ hlines.1
    rw [List.foldl_cons, ih hlines.2 hnext, indexReceiptLine_receipts hread hlines.1,
      List.append_assoc, parsedReceipts, parsedReceipts, parsedReceipts, ← List.filterMap_append,
      List.singleton_append]

theorem appendColdHistorySegment_receipts {history : ChannelDeliveryReceiptHistory} {later : Index}
    {segment : ChannelDeliveryReceiptHistorySegment} {outboxLine receiptLine : Nat}
    (h : IndexedUpTo index outboxLine receiptLine)
    (hrun : index.appendColdHistorySegment formats history segment = .ok later)
    : later.historySegments = index.historySegments ++ [segment]
      ∧ ∃ receipts,
        ledgerReceipts formats ((history.file segment.fileName).getD []) = .ok receipts
        ∧ later.receiptRecords.map (·.receipt)
          = index.receiptRecords.map (·.receipt) ++ receipts := by
  obtain ⟨_, hnew, read, hread, rfl⟩ := appendColdHistorySegment_eq_ok.mp hrun
  rw [readFromCursor_start] at hread
  refine ⟨rfl, parsedReceipts formats read.lines, ?_, ?_⟩
  . unfold ledgerReceipts
    rw [hread]
    rfl
  . exact indexReceiptLines_receipts (readLines_numbered formats _ _ _ hread) (h.unread hnew)

theorem appendColdHistorySegments_receipts {history : ChannelDeliveryReceiptHistory}
    {segments : List ChannelDeliveryReceiptHistorySegment} {later : Index}
    {outboxLine receiptLine : Nat} (h : IndexedUpTo index outboxLine receiptLine)
    (hrun : index.appendColdHistorySegments formats history segments = .ok later)
    : later.historySegments = index.historySegments ++ segments
      ∧ ∃ receipts, segments.mapM (fun segment =>
          ledgerReceipts formats ((history.file segment.fileName).getD [])) = .ok receipts
        ∧ later.receiptRecords.map (·.receipt)
          = index.receiptRecords.map (·.receipt) ++ receipts.flatten := by
  unfold Index.appendColdHistorySegments at hrun
  induction segments generalizing index with
  | nil =>
    obtain rfl := Except.ok.inj hrun
    exact ⟨(List.append_nil _).symm, [], rfl, (List.append_nil _).symm⟩
  | cons segment segments ih =>
    rw [List.foldlM_cons] at hrun
    obtain ⟨next, hnext, hrun⟩ := Except.bind_eq_ok.mp hrun
    obtain ⟨hsegment, first, hfirst, hrecords⟩ := appendColdHistorySegment_receipts h hnext
    obtain ⟨hsegments, rest, hrest, hall⟩ := ih (appendColdHistorySegment_indexed h hnext).1 hrun
    refine ⟨?_, first :: rest, ?_, ?_⟩
    . rw [hsegments, hsegment, List.append_assoc, List.singleton_append]
    . rw [List.mapM_cons, hfirst, hrest]
      rfl
    . rw [hall, hrecords, List.flatten_cons, List.append_assoc]

end

/-
The receipts leave the rows of the outbox as they are.
-/
structure SameOutbox (before after : Index) : Prop where
  outbox : after.outbox = before.outbox
  outboxCursor : after.outboxCursor = before.outboxCursor
  outboxTotalLines : after.outboxTotalLines = before.outboxTotalLines
  outboxInvalidLines : after.outboxInvalidLines = before.outboxInvalidLines

theorem SameOutbox.refl (index : Index) : SameOutbox index index :=
  ⟨rfl, rfl, rfl, rfl⟩

theorem SameOutbox.trans {first second third : Index} (h : SameOutbox first second)
    (h' : SameOutbox second third)
    : SameOutbox first third where
  outbox := h'.outbox.trans h.outbox
  outboxCursor := h'.outboxCursor.trans h.outboxCursor
  outboxTotalLines := h'.outboxTotalLines.trans h.outboxTotalLines
  outboxInvalidLines := h'.outboxInvalidLines.trans h.outboxInvalidLines

section

variable {formats : Formats}

theorem sameOutbox_indexReceiptLines (source : ReceiptSource) (lines : List (Nat × String))
    (index : Index)
    : SameOutbox index (lines.foldl (Index.indexReceiptLine formats source) index) := by
  induction lines generalizing index with
  | nil => exact .refl index
  | cons line rest ih =>
    rw [List.foldl_cons]
    apply SameOutbox.trans _ (ih _)
    unfold Index.indexReceiptLine
    split
    . next receipt _ =>
      show SameOutbox index ((index.received receipt).insertReceiptHistoryRecord _)
      rw [received_eq]
      exact ⟨rfl, rfl, rfl, rfl⟩
    . exact ⟨rfl, rfl, rfl, rfl⟩

variable {index later : Index}

theorem sameOutbox_readReceiptsFromCursor {source : ReceiptSource} {file : LedgerFile}
    {cursor next : LedgerCursor}
    (hrun : index.readReceiptsFromCursor formats source file cursor = .ok (later, next))
    : SameOutbox index later := by
  obtain ⟨read, _, hrun⟩ := Except.bind_eq_ok.mp hrun
  obtain ⟨rfl, _⟩ := Prod.mk.inj (Except.ok.inj hrun)
  exact sameOutbox_indexReceiptLines source read.lines index

theorem sameOutbox_appendColdHistorySegments {history : ChannelDeliveryReceiptHistory}
    {segments : List ChannelDeliveryReceiptHistorySegment}
    (hrun : index.appendColdHistorySegments formats history segments = .ok later)
    : SameOutbox index later := by
  unfold Index.appendColdHistorySegments at hrun
  induction segments generalizing index with
  | nil =>
    obtain rfl := Except.ok.inj hrun
    exact .refl index
  | cons segment segments ih =>
    rw [List.foldlM_cons] at hrun
    obtain ⟨next, hnext, hrun⟩ := Except.bind_eq_ok.mp hrun
    apply SameOutbox.trans _ (ih hrun)
    obtain ⟨_, _, read, _, rfl⟩ := appendColdHistorySegment_eq_ok.mp hnext
    have hsame := @sameOutbox_indexReceiptLines formats (.cold segment.transactionId) read.lines
      index
    exact ⟨hsame.outbox, hsame.outboxCursor, hsame.outboxTotalLines, hsame.outboxInvalidLines⟩

theorem SameOutbox.withCursor (h : SameOutbox index later) (cursor : Option LedgerCursor)
    : SameOutbox index { later with receiptCursor := cursor } :=
  ⟨h.outbox, h.outboxCursor, h.outboxTotalLines, h.outboxInvalidLines⟩

theorem sameOutbox_rebuildReceiptIndexLocked {history : ChannelDeliveryReceiptHistory}
    {receipts : Option LedgerFile}
    (hrun : index.rebuildReceiptIndexLocked formats history receipts = .ok later)
    : SameOutbox index later := by
  unfold Index.rebuildReceiptIndexLocked at hrun
  obtain ⟨replayed, hreplay, hrun⟩ := Except.bind_eq_ok.mp hrun
  have hcleared : SameOutbox index index.clearReceipts.resetPlatformDeliveryCounts :=
    ⟨rfl, rfl, rfl, rfl⟩
  have hreplayed := hcleared.trans (sameOutbox_appendColdHistorySegments hreplay)
  cases receipts with
  | none =>
    obtain rfl := Except.ok.inj hrun
    exact hreplayed.withCursor none
  | some file =>
    obtain ⟨⟨read, cursor⟩, hread, hrun⟩ := Except.bind_eq_ok.mp hrun
    obtain rfl := Except.ok.inj hrun
    exact (hreplayed.trans (sameOutbox_readReceiptsFromCursor hread)).withCursor (some cursor)

theorem sameOutbox_refreshReceiptIndexLocked {recovered : Bool}
    {history : ChannelDeliveryReceiptHistory} {receipts : Option LedgerFile}
    (hrun : Index.refreshReceiptIndexLocked formats recovered history index receipts = .ok later)
    : SameOutbox index later := by
  unfold Index.refreshReceiptIndexLocked at hrun
  cases receipts with
  | none =>
    dsimp only at hrun
    split at hrun
    . exact sameOutbox_rebuildReceiptIndexLocked hrun
    . obtain rfl := Except.ok.inj hrun
      exact .refl _
  | some file =>
    dsimp only at hrun
    split at hrun
    . exact sameOutbox_rebuildReceiptIndexLocked hrun
    . exact sameOutbox_rebuildReceiptIndexLocked hrun
    . exact sameOutbox_rebuildReceiptIndexLocked hrun
    . obtain rfl := Except.ok.inj hrun
      exact .refl _
    . exact sameOutbox_appendColdHistorySegments hrun
    . obtain ⟨⟨read, next⟩, hread, hrun⟩ := Except.bind_eq_ok.mp hrun
      have hsame := sameOutbox_readReceiptsFromCursor hread
      split at hrun
      . obtain ⟨replayed, hreplay, hrun⟩ := Except.bind_eq_ok.mp hrun
        obtain rfl := Except.ok.inj hrun
        exact (hsame.trans (sameOutbox_appendColdHistorySegments hreplay)).withCursor (some next)
      . obtain rfl := Except.ok.inj hrun
        exact hsame.withCursor (some next)

end

structure ReceiptsAt (formats : Formats) (history : ChannelDeliveryReceiptHistory)
    (lines : List UInt8) (index : Index)
    : Prop where
  segments : index.historySegments = history.segments
  records : ∃ cold hot, coldReceipts formats history = .ok cold
    ∧ ledgerReceipts formats lines = .ok hot
    ∧ index.receiptRecords.map (·.receipt) = cold ++ hot

def ReceiptsSynced (formats : Formats) (history : ChannelDeliveryReceiptHistory)
    (receipts : Option LedgerFile) (index : Index)
    : Prop :=
  ∀ cursor, index.receiptCursor = some cursor → ∃ file lines rest, receipts = some file
    ∧ file.bytes = lines ++ rest ∧ CursorAt cursor lines ∧ ReceiptsAt formats history lines index

section

variable {formats : Formats} {history : ChannelDeliveryReceiptHistory}

theorem ledgerReceipts_eq_ok {bytes : List UInt8} {receipts : List ChannelDeliveryReceipt}
    : ledgerReceipts formats bytes = .ok receipts
        ↔ ∃ read, readWhole formats bytes = .ok read
          ∧ receipts = parsedReceipts formats read.lines := by
  unfold ledgerReceipts
  cases readWhole formats bytes with
  | error e => simp [Except.map]
  | ok read => simp [Except.map, eq_comm]

variable {index later : Index} {whole : List UInt8}

theorem readHotReceipts_receipts {file : LedgerFile} {cursor next : LedgerCursor} {outboxLine : Nat}
    {lines : List UInt8} {receipts cold : List ChannelDeliveryReceipt}
    (h : IndexedUpTo index outboxLine (rawLines lines).length)
    (hstart : StartsAt formats file cursor lines) (hwhole : WholeLines formats file.bytes whole)
    (hreceipts : ledgerReceipts formats lines = .ok receipts)
    (hrecords : index.receiptRecords.map (·.receipt) = cold ++ receipts)
    (hrun : index.readReceiptsFromCursor formats .hot file cursor = .ok (later, next))
    : CursorAt next whole ∧ ∃ hot, ledgerReceipts formats whole = .ok hot
      ∧ later.receiptRecords.map (·.receipt) = cold ++ hot := by
  obtain ⟨read, hread, hrun⟩ := Except.bind_eq_ok.mp hrun
  obtain ⟨rfl, rfl⟩ := Prod.mk.inj (Except.ok.inj hrun)
  obtain ⟨first, hfirst, rfl⟩ := ledgerReceipts_eq_ok.mp hreceipts
  obtain ⟨hall, hnext⟩ := hstart.readWhole_eq_ok hwhole hfirst hread
  refine ⟨hnext, _, ledgerReceipts_eq_ok.mpr ⟨_, hall, rfl⟩, ?_⟩
  obtain ⟨_, rest, _, hfrom⟩ := hstart
  rw [hfrom] at hread
  rw [indexReceiptLines_receipts (readLines_numbered formats _ _ _ hread) h.hot, hrecords,
    List.append_assoc]
  unfold parsedReceipts Read.andThen
  rw [← List.filterMap_append]

theorem historySegments_readReceiptsFromCursor {source : ReceiptSource} {file : LedgerFile}
    {cursor next : LedgerCursor}
    (hrun : index.readReceiptsFromCursor formats source file cursor = .ok (later, next))
    : later.historySegments = index.historySegments := by
  obtain ⟨read, _, hrun⟩ := Except.bind_eq_ok.mp hrun
  obtain ⟨rfl, _⟩ := Prod.mk.inj (Except.ok.inj hrun)
  exact historySegments_indexReceiptLines source read.lines index

theorem rebuildReceiptIndexLocked_receipts (h : Indexed index) {receipts : Option LedgerFile}
    (hwhole : WholeLines formats (ledgerBytes receipts) whole)
    (hrun : index.rebuildReceiptIndexLocked formats history receipts = .ok later)
    : ReceiptsAt formats history whole later
      ∧ ∀ cursor, later.receiptCursor = some cursor
        → receipts.isSome ∧ CursorAt cursor whole := by
  unfold Index.rebuildReceiptIndexLocked at hrun
  obtain ⟨replayed, hreplay, hrun⟩ := Except.bind_eq_ok.mp hrun
  have hcleared : IndexedUpTo index.clearReceipts.resetPlatformDeliveryCounts index.outboxLine 0 :=
    ⟨h.coherent.withoutReceipts, indexed_empty.hot, indexed_empty.cold⟩
  obtain ⟨hreplayed, _⟩ := appendColdHistorySegments_indexed hcleared hreplay
  obtain ⟨hsegments, receipts', hcold, hrecords⟩ :=
    appendColdHistorySegments_receipts hcleared hreplay
  have hcold : coldReceipts formats history = .ok receipts'.flatten := by
    unfold coldReceipts
    rw [hcold]
    rfl
  cases receipts with
  | none =>
    obtain rfl := Except.ok.inj hrun
    obtain rfl := hwhole.eq_nil
    refine ⟨⟨hsegments, _, [], hcold, rfl, ?_⟩, ?_⟩
    . rw [List.append_nil]
      exact hrecords
    . intro cursor hcursor
      cases hcursor
  | some file =>
    obtain ⟨⟨read, cursor⟩, hread, hrun⟩ := Except.bind_eq_ok.mp hrun
    obtain rfl := Except.ok.inj hrun
    obtain ⟨hcursor, hot, hhot, hall⟩ := readHotReceipts_receipts hreplayed
      (startsAt_start formats file) hwhole rfl (hrecords.trans (List.append_nil _).symm) hread
    refine ⟨⟨?_, _, hot, hcold, hhot, hall⟩, ?_⟩
    . exact (historySegments_readReceiptsFromCursor hread).trans hsegments
    . intro next hnext
      obtain rfl := Option.some.inj hnext
      exact ⟨rfl, hcursor⟩

theorem coldHistoryRefreshMode_ne_append (h : index.historySegments = history.segments)
    (segments : List ChannelDeliveryReceiptHistorySegment)
    : index.coldHistoryRefreshMode history ≠ .append segments := by
  unfold Index.coldHistoryRefreshMode
  have hknown : history.segments.filter (fun segment => (index.historySegments.find? fun other =>
      other.transactionId = segment.transactionId).isNone) = [] := by
    rw [List.filter_eq_nil_iff]
    intro segment hsegment hnone
    rw [Option.isNone_iff_eq_none, List.find?_eq_none, h] at hnone
    have hself := hnone segment hsegment
    simp at hself
  dsimp only
  rw [hknown]
  split
  . simp
  . split
    . simp
    . simp

theorem ReceiptsSynced.of_current {file : LedgerFile} {label : String}
    (h : ReceiptsSynced formats history (some file) index)
    (hmode : ledgerRefreshMode label file index.receiptCursor = .current)
    (hwhole : WholeLines formats file.bytes whole)
    : ∃ cursor, index.receiptCursor = some cursor ∧ CursorAt cursor whole
        ∧ ReceiptsAt formats history whole index := by
  cases hcursor : index.receiptCursor with
  | none =>
    rw [hcursor] at hmode
    cases hmode
  | some cursor =>
    obtain ⟨_, lines, rest, hfile, hbytes, hat, hreceipts⟩ := h cursor hcursor
    obtain rfl := Option.some.inj hfile
    rw [hcursor, hat.ledgerRefreshMode hbytes] at hmode
    split at hmode
    . next hrest =>
      rw [hrest, List.append_nil] at hbytes
      obtain rfl : lines = whole := hwhole.eq_of_closed (hbytes ▸ hat.closed) ▸ hbytes.symm
      exact ⟨cursor, rfl, hat, hreceipts⟩
    . cases hmode

theorem refreshReceiptIndexLocked_receipts {recovered : Bool} (h : Indexed index)
    {receipts : Option LedgerFile} (hwhole : WholeLines formats (ledgerBytes receipts) whole)
    (hsynced : ReceiptsSynced formats history receipts index)
    (hrun : Index.refreshReceiptIndexLocked formats recovered history index receipts = .ok later)
    : ReceiptsAt formats history whole later
      ∧ ∀ cursor, later.receiptCursor = some cursor
        → receipts.isSome ∧ CursorAt cursor whole := by
  unfold Index.refreshReceiptIndexLocked at hrun
  cases receipts with
  | none =>
    dsimp only at hrun
    split at hrun
    . exact rebuildReceiptIndexLocked_receipts h hwhole hrun
    . next hempty =>
      obtain rfl := Except.ok.inj hrun
      obtain rfl := hwhole.eq_nil
      unfold Index.receiptHasRows at hempty
      simp only [Bool.or_eq_true, not_or, Bool.not_eq_true, Bool.not_eq_false',
        List.isEmpty_iff] at hempty
      obtain ⟨⟨hcursor, ⟨⟨_, _⟩, hrecords⟩, hsegments⟩, hhistory⟩ := hempty
      refine ⟨⟨hsegments.trans hhistory.symm, [], [], ?_, rfl, ?_⟩, ?_⟩
      . unfold coldReceipts
        rw [hhistory]
        rfl
      . rw [hrecords]
        rfl
      . intro cursor hsome
        rw [hsome] at hcursor
        cases hcursor
  | some file =>
    dsimp only at hrun
    split at hrun
    . exact rebuildReceiptIndexLocked_receipts h hwhole hrun
    . exact rebuildReceiptIndexLocked_receipts h hwhole hrun
    . exact rebuildReceiptIndexLocked_receipts h hwhole hrun
    . next _ hmode =>
      obtain rfl := Except.ok.inj hrun
      obtain ⟨cursor, hcursor, hat, hreceipts⟩ := hsynced.of_current hmode hwhole
      refine ⟨hreceipts, ?_⟩
      intro other hother
      rw [hcursor] at hother
      obtain rfl := Option.some.inj hother
      exact ⟨rfl, hat⟩
    . next segments happend hmode =>
      obtain ⟨_, _, _, hreceipts⟩ := hsynced.of_current hmode hwhole
      exact absurd happend (coldHistoryRefreshMode_ne_append hreceipts.segments segments)
    . next cursor hmode _ =>
      obtain ⟨hcursor, _⟩ := ledgerRefreshMode_append hmode
      obtain ⟨_, lines, rest, hfile, hbytes, hat, hreceipts⟩ := hsynced cursor hcursor
      obtain rfl := Option.some.inj hfile
      obtain ⟨⟨read, next⟩, hread, hrun⟩ := Except.bind_eq_ok.mp hrun
      obtain ⟨cold, hot, hcold, hhot, hrecords⟩ := hreceipts.records
      unfold Indexed Index.receiptLine at h
      rw [hcursor] at h
      have h : IndexedUpTo index index.outboxLine (rawLines lines).length := by
        rw [← hat.lineNumber]
        exact h
      obtain ⟨hnext, hot', hhot', hrecords'⟩ :=
        readHotReceipts_receipts h (hat.startsAt hbytes) hwhole hhot hrecords hread
      split at hrun
      . next segments happend =>
        exact absurd happend (coldHistoryRefreshMode_ne_append hreceipts.segments segments)
      . obtain rfl := Except.ok.inj hrun
        refine ⟨⟨?_, cold, hot', hcold, hhot', hrecords'⟩, ?_⟩
        . exact (historySegments_readReceiptsFromCursor hread).trans hreceipts.segments
        . intro later hlater
          obtain rfl := Option.some.inj hlater
          exact ⟨rfl, hnext⟩

/-
Without cold segments, a ledger that can be read is all that a refresh needs.
-/
section

variable (hhistory : history.segments = [])
include hhistory

theorem coldHistoryRefreshMode_of_nil (index : Index)
    (segments : List ChannelDeliveryReceiptHistorySegment)
    : index.coldHistoryRefreshMode history ≠ .append segments := by
  unfold Index.coldHistoryRefreshMode
  dsimp only
  rw [hhistory, List.filter_nil, if_pos rfl]
  split
  . simp
  . split
    . simp
    . simp

theorem rebuildReceiptIndexLocked_isOk {receipts : Option LedgerFile} {whole : List UInt8}
    (hwhole : WholeLines formats (ledgerBytes receipts) whole) {all : Read}
    (hall : readWhole formats whole = .ok all) (index : Index)
    : ∃ later, index.rebuildReceiptIndexLocked formats history receipts = .ok later := by
  unfold Index.rebuildReceiptIndexLocked
  rw [hhistory]
  cases receipts with
  | none => exact ⟨_, rfl⟩
  | some file =>
    obtain ⟨_, read, _, hread, _⟩ := (startsAt_start formats file).exists_read hwhole hall
    unfold Index.readReceiptsFromCursor
    simp only [hread]
    exact ⟨_, rfl⟩

theorem refreshReceiptIndexLocked_isOk {recovered : Bool} {index : Index}
    {receipts : Option LedgerFile} {whole : List UInt8}
    (hwhole : WholeLines formats (ledgerBytes receipts) whole)
    (hsynced : ReceiptsSynced formats history receipts index) {all : Read}
    (hall : readWhole formats whole = .ok all)
    : ∃ later, Index.refreshReceiptIndexLocked formats recovered history index receipts
        = .ok later := by
  have hrebuild := rebuildReceiptIndexLocked_isOk hhistory hwhole hall index
  unfold Index.refreshReceiptIndexLocked
  cases receipts with
  | none =>
    dsimp only
    split
    . exact hrebuild
    . exact ⟨index, rfl⟩
  | some file =>
    dsimp only
    split
    . exact hrebuild
    . exact hrebuild
    . exact hrebuild
    . exact ⟨index, rfl⟩
    . next segments happend _ =>
      exact absurd happend (coldHistoryRefreshMode_of_nil hhistory index segments)
    . next cursor hmode _ =>
      obtain ⟨hcursor, _⟩ := ledgerRefreshMode_append hmode
      obtain ⟨_, lines, rest, hfile, hbytes, hat, _⟩ := hsynced cursor hcursor
      obtain rfl := Option.some.inj hfile
      obtain ⟨_, read, _, hread, _⟩ := (hat.startsAt hbytes).exists_read hwhole hall
      unfold Index.readReceiptsFromCursor
      simp only [hread]
      split
      . next segments happend =>
        exact absurd happend (coldHistoryRefreshMode_of_nil hhistory index segments)
      . exact ⟨_, rfl⟩

end

end

end ChannelDelivery
