import AgentHarness.ChannelDelivery.Lemmas.Tail
import AgentHarness.ChannelDelivery.Lemmas.Transactions

/-!
The rows of the index against the lines of the outbox: each line has its row, and the lines can be
indexed exactly when no two of them claim one identity.
-/

namespace ChannelDelivery

def rowFor (formats : Formats) (line : Nat × String) : OutboxRow :=
  match formats.message line.2 with
  | .ok message => .ofMessage line.1 line.2 message
  | .error error => { lineNumber := line.1, content := .parseError error }

theorem rowFor_of_message {formats : Formats} {line : Nat × String}
    {message : ChannelOutboundMessage} (h : formats.message line.2 = .ok message)
    : rowFor formats line = .ofMessage line.1 line.2 message := by
  unfold rowFor
  rw [h]

def idOf (formats : Formats) (line : Nat × String) : Option String :=
  (rowFor formats line).delivery?.map (·.deliveryId)

def rowIds (rows : List OutboxRow) : List String :=
  (rows.filterMap OutboxRow.delivery?).map (·.deliveryId)

theorem rowIds_append (rows : List OutboxRow) (row : OutboxRow)
    : rowIds (rows ++ [row]) = rowIds rows ++ (row.delivery?.map (·.deliveryId)).toList := by
  unfold rowIds
  rw [List.filterMap_append, List.map_append]
  congr 1
  cases hdelivery : row.delivery? with
  | none => simp [hdelivery]
  | some delivery => simp [hdelivery]

theorem clashes_eq_false {rows : List OutboxRow} {lastLine lineNumber : Nat}
    (h : RowsOk rows lastLine) (hline : lastLine < lineNumber) (rawLine : String)
    (message : ChannelOutboundMessage)
    : Index.clashes rows lineNumber (deliveryOf lineNumber rawLine message) = false
        ↔ (deliveryOf lineNumber rawLine message).deliveryId ∉ rowIds rows := by
  unfold Index.clashes rowIds
  rw [List.any_eq_false]
  simp only [List.mem_map, List.mem_filterMap, not_exists, not_and]
  constructor
  . rintro hclash existing ⟨row, hrow, hexisting⟩ hsame
    have hother : row.lineNumber ≠ lineNumber := by
      have := h.bound row hrow
      omega
    have hclash := hclash row hrow
    simp [hother, hexisting, hsame] at hclash
  . intro hids row hrow hclash
    simp only [Bool.and_eq_true, decide_eq_true_eq, Option.any_eq_true, Bool.or_eq_true] at hclash
    obtain ⟨hother, existing, hexisting, hsame⟩ := hclash
    cases hsame with
    | inl hid => exact hids existing ⟨row, hrow, hexisting⟩ hid
    | inr hlegacy =>
      have hcontent : row.content = .delivery existing := by
        unfold OutboxRow.delivery? at hexisting
        split at hexisting
        . next delivery hcontent =>
          obtain rfl := Option.some.inj hexisting
          exact hcontent
        . cases hexisting
      obtain ⟨otherLine, hmade⟩ := h.made row hrow existing hcontent
      rw [hmade] at hlegacy
      exact hother (lineNumber_of_deliveryId hlegacy)

section

variable {formats : Formats}

theorem indexOutboxLine_row {index later : Index} {lastLine : Nat} {line : Nat × String}
    (h : RowsOk index.outbox lastLine) (hline : lastLine < line.1)
    (hrun : Index.indexOutboxLine formats index line = .ok later)
    : later.outbox = index.outbox ++ [rowFor formats line]
      ∧ later.outboxTotalLines = index.outboxTotalLines + 1
      ∧ later.outboxInvalidLines
        = index.outboxInvalidLines + if (rowFor formats line).delivery?.isSome then 0 else 1 := by
  unfold Index.indexOutboxLine at hrun
  unfold rowFor
  cases hmessage : formats.message line.2 with
  | ok message =>
    rw [hmessage] at hrun
    obtain ⟨placed, hplaced, hrun⟩ := Except.bind_eq_ok.mp hrun
    obtain ⟨_, rfl⟩ := insertOutboxMessage_eq_ok.mp hplaced
    obtain rfl := Except.ok.inj hrun
    exact ⟨h.placeRow hline, rfl, (Int.add_zero _).symm⟩
  | error error =>
    rw [hmessage] at hrun
    obtain rfl := Except.ok.inj hrun
    exact ⟨h.placeRow hline, rfl, rfl⟩

theorem indexOutboxLine_isOk {index : Index} {lastLine : Nat} {line : Nat × String}
    (h : RowsOk index.outbox lastLine) (hline : lastLine < line.1)
    : (∃ later, Index.indexOutboxLine formats index line = .ok later)
        ↔ ∀ id ∈ idOf formats line, id ∉ rowIds index.outbox := by
  unfold Index.indexOutboxLine idOf rowFor
  cases hmessage : formats.message line.2 with
  | ok message =>
    simp only [Except.bind_eq_ok, insertOutboxMessage_eq_ok, clashes_eq_false h hline]
    constructor
    . rintro ⟨_, _, ⟨hfree, _⟩, _⟩ id hid
      obtain rfl := Option.some.inj hid
      exact hfree
    . intro hfree
      exact ⟨_, _, ⟨hfree _ rfl, rfl⟩, rfl⟩
  | error error => simp [OutboxRow.delivery?]

theorem indexOutboxLines_isOk {lines : List (Nat × String)} {start last : Nat}
    (hlines : Numbered start last lines) {index : Index} (h : Coherent index start)
    : (∃ later, lines.foldlM (Index.indexOutboxLine formats) index = .ok later)
        ↔ (rowIds index.outbox ++ lines.filterMap (idOf formats)).Nodup := by
  induction lines generalizing index start with
  | nil =>
    rw [List.filterMap_nil, List.append_nil]
    constructor
    . intro _
      exact h.rows.unique
    . intro _
      exact ⟨index, rfl⟩
  | cons line rest ih =>
    have hsplit : ∀ later, Index.indexOutboxLine formats index line = .ok later
        → rowIds index.outbox ++ (line :: rest).filterMap (idOf formats)
          = rowIds later.outbox ++ rest.filterMap (idOf formats) := by
      intro later hlater
      rw [(indexOutboxLine_row h.rows hlines.1 hlater).1, rowIds_append, List.append_assoc]
      congr 1
      unfold idOf
      cases hid : (rowFor formats line).delivery? with
      | none => simp [hid]
      | some delivery => simp [hid]
    constructor
    . rintro ⟨later, hfold⟩
      rw [List.foldlM_cons] at hfold
      obtain ⟨next, hnext, hfold⟩ := Except.bind_eq_ok.mp hfold
      rw [hsplit next hnext]
      exact (ih hlines.2 (h.indexOutboxLine hlines.1 hnext)).mp ⟨later, hfold⟩
    . intro hnodup
      have hfree : ∀ id ∈ idOf formats line, id ∉ rowIds index.outbox := by
        intro id hid hmem
        rw [List.nodup_append] at hnodup
        have hfound : id ∈ (line :: rest).filterMap (idOf formats) :=
          List.mem_filterMap.mpr ⟨line, List.mem_cons_self, hid⟩
        exact hnodup.2.2 id hmem id hfound rfl
      obtain ⟨next, hnext⟩ := (indexOutboxLine_isOk h.rows hlines.1).mpr hfree
      rw [hsplit next hnext] at hnodup
      obtain ⟨later, hfold⟩ := (ih hlines.2 (h.indexOutboxLine hlines.1 hnext)).mpr hnodup
      refine ⟨later, ?_⟩
      rw [List.foldlM_cons]
      exact Except.bind_eq_ok.mpr ⟨next, hnext, hfold⟩

structure Tallied (index : Index) : Prop where
  total : index.outboxTotalLines = index.outbox.length
  valid : index.outboxInvalidLines + index.deliveries.length = index.outbox.length

theorem indexOutboxLines_rows {lines : List (Nat × String)} {start last : Nat}
    (hlines : Numbered start last lines) {index later : Index} (h : Coherent index start)
    (hfold : lines.foldlM (Index.indexOutboxLine formats) index = .ok later)
    : later.outbox = index.outbox ++ lines.map (rowFor formats)
      ∧ (Tallied index → Tallied later) := by
  induction lines generalizing index start with
  | nil =>
    obtain rfl := Except.ok.inj hfold
    exact ⟨(List.append_nil _).symm, id⟩
  | cons line rest ih =>
    rw [List.foldlM_cons] at hfold
    obtain ⟨next, hnext, hfold⟩ := Except.bind_eq_ok.mp hfold
    obtain ⟨houtbox, htallied⟩ := ih hlines.2 (h.indexOutboxLine hlines.1 hnext) hfold
    obtain ⟨hrow, htotal, hinvalid⟩ := indexOutboxLine_row h.rows hlines.1 hnext
    constructor
    . rw [houtbox, hrow, List.append_assoc, List.map_cons, List.singleton_append]
    . intro htally
      apply htallied
      constructor
      . rw [htotal, hrow, htally.total, List.length_append, List.length_singleton]
        rfl
      . have hdeliveries : next.deliveries
            = index.deliveries ++ (rowFor formats line).delivery?.toList := by
          unfold Index.deliveries
          rw [hrow, List.filterMap_append]
          cases hid : (rowFor formats line).delivery? with
          | none => simp [hid]
          | some delivery => simp [hid]
        have hvalid := htally.valid
        rw [hinvalid, hdeliveries, hrow, List.length_append, List.length_append,
          List.length_singleton]
        cases (rowFor formats line).delivery? with
        | none =>
          simp only [Option.isSome_none, Option.toList_none, List.length_nil]
          simp only [Bool.false_eq_true, ↓reduceIte]
          omega
        | some delivery =>
          simp only [Option.isSome_some, Option.toList_some, List.length_singleton, ↓reduceIte]
          omega

end

def OutboxSynced (formats : Formats) (outbox : Option LedgerFile) (index : Index) : Prop :=
  ∀ cursor, index.outboxCursor = some cursor → ∃ file lines rest read, outbox = some file
    ∧ file.bytes = lines ++ rest ∧ CursorAt cursor lines ∧ readWhole formats lines = .ok read
    ∧ index.outbox = read.lines.map (rowFor formats)

section

variable {formats : Formats}

theorem rowIds_map_rowFor (lines : List (Nat × String))
    : rowIds (lines.map (rowFor formats)) = lines.filterMap (idOf formats) := by
  unfold rowIds idOf
  rw [List.filterMap_map, List.map_filterMap]
  rfl

theorem readOutboxFromCursor_rows {index : Index} {file : LedgerFile} {cursor : LedgerCursor}
    {lines whole : List UInt8} (hstart : StartsAt formats file cursor lines)
    (hwhole : WholeLines formats file.bytes whole) {first : Read}
    (hfirst : readWhole formats lines = .ok first)
    (h : Coherent index (rawLines lines).length)
    (hrows : index.outbox = first.lines.map (rowFor formats)) {later : Index}
    (hrun : index.readOutboxFromCursor formats file cursor = .ok later)
    : ∃ read, readWhole formats whole = .ok read
        ∧ later.outbox = read.lines.map (rowFor formats)
        ∧ (∃ next, later.outboxCursor = some next ∧ CursorAt next whole)
        ∧ (Tallied index → Tallied later) := by
  obtain ⟨read, hread, hrun⟩ := Except.bind_eq_ok.mp hrun
  obtain ⟨rows, hfold, hrun⟩ := Except.bind_eq_ok.mp hrun
  obtain rfl := Except.ok.inj hrun
  obtain ⟨hall, hnext⟩ := hstart.readWhole_eq_ok hwhole hfirst hread
  obtain ⟨_, rest, _, hfrom⟩ := hstart
  rw [hfrom] at hread
  obtain ⟨houtbox, htallied⟩ :=
    indexOutboxLines_rows (readLines_numbered formats _ _ _ hread) h hfold
  refine ⟨_, hall, ?_, ⟨_, rfl, hnext⟩, ?_⟩
  . show rows.outbox = _
    rw [houtbox, hrows]
    exact List.map_append.symm
  . intro htally
    have htallied := htallied htally
    exact ⟨htallied.total, htallied.valid⟩

theorem readOutboxFromCursor_isOk {index : Index} {file : LedgerFile} {cursor : LedgerCursor}
    {lines whole : List UInt8} (hstart : StartsAt formats file cursor lines)
    (hwhole : WholeLines formats file.bytes whole) {read : Read}
    (hread : readWhole formats whole = .ok read) {first : Read}
    (hfirst : readWhole formats lines = .ok first)
    (h : Coherent index (rawLines lines).length)
    (hrows : index.outbox = first.lines.map (rowFor formats))
    : (∃ later, index.readOutboxFromCursor formats file cursor = .ok later)
        ↔ (read.lines.filterMap (idOf formats)).Nodup := by
  obtain ⟨first', second, hfirst', hsecond, rfl⟩ := hstart.exists_read hwhole hread
  rw [hfirst] at hfirst'
  obtain rfl := Except.ok.inj hfirst'
  obtain ⟨_, rest, _, hfrom⟩ := hstart
  have hnumbered := readLines_numbered formats _ _ _ (hfrom ▸ hsecond)
  have hids : rowIds index.outbox ++ second.lines.filterMap (idOf formats)
      = (first.andThen second).lines.filterMap (idOf formats) := by
    rw [hrows, rowIds_map_rowFor]
    exact List.filterMap_append.symm
  rw [← hids, ← indexOutboxLines_isOk hnumbered h]
  unfold Index.readOutboxFromCursor
  simp only [hsecond, Except.bind_eq_ok, Except.ok.injEq, exists_eq_left', Except.pure_eq_ok]
  constructor
  . rintro ⟨later, rows, hrows, _⟩
    exact ⟨rows, hrows⟩
  . rintro ⟨rows, hrows⟩
    exact ⟨_, rows, hrows, rfl⟩

def Index.emptied (self : Index) : Index :=
  { self.clearReceipts with
    outbox := []
    platformSummary := ∅
    receiptCursor := none
    outboxTotalLines := 0
    outboxInvalidLines := 0 }

theorem rebuildOutboxIndexLocked_eq (index : Index) (file : LedgerFile)
    : index.rebuildOutboxIndexLocked formats file
        = index.emptied.readOutboxFromCursor formats file {} := rfl

theorem coherent_emptied (index : Index) : Coherent index.emptied 0 :=
  indexed_empty.coherent.congr rfl rfl rfl rfl

theorem tallied_emptied (index : Index) : Tallied index.emptied :=
  ⟨rfl, rfl⟩

section

variable {index : Index} {file : LedgerFile} {whole : List UInt8} (h : Indexed index)
  (hsynced : OutboxSynced formats (some file) index) (hwhole : WholeLines formats file.bytes whole)
include h hsynced hwhole

theorem refreshOutboxIndexLocked_modes
    : (index.refreshOutboxIndexLocked formats (some file) = .ok index
        ∧ ∃ cursor read, index.outboxCursor = some cursor ∧ CursorAt cursor whole
          ∧ readWhole formats whole = .ok read ∧ index.outbox = read.lines.map (rowFor formats))
      ∨ ∃ start cursor lines first, index.refreshOutboxIndexLocked formats (some file)
          = Index.readOutboxFromCursor formats start file cursor
        ∧ StartsAt formats file cursor lines ∧ readWhole formats lines = .ok first
        ∧ Coherent start (rawLines lines).length
        ∧ start.outbox = first.lines.map (rowFor formats) ∧ (Tallied index → Tallied start) := by
  have hrebuild : ∃ start cursor lines first, index.rebuildOutboxIndexLocked formats file
        = Index.readOutboxFromCursor formats start file cursor
      ∧ StartsAt formats file cursor lines ∧ readWhole formats lines = .ok first
      ∧ Coherent start (rawLines lines).length
      ∧ start.outbox = first.lines.map (rowFor formats) ∧ (Tallied index → Tallied start) :=
    ⟨index.emptied, {}, [], ⟨[], 0, 0⟩, rebuildOutboxIndexLocked_eq index file,
      startsAt_start formats file, rfl, coherent_emptied index, rfl,
      fun _ => tallied_emptied index⟩
  unfold Index.refreshOutboxIndexLocked
  dsimp only
  cases hcursor : index.outboxCursor with
  | none => exact .inr hrebuild
  | some cursor =>
    obtain ⟨_, lines, rest, read, hfile, hbytes, hat, hread, hrows⟩ := hsynced cursor hcursor
    obtain rfl := Option.some.inj hfile
    rw [hat.ledgerRefreshMode hbytes]
    by_cases hrest : rest = []
    . rw [if_pos hrest]
      by_cases hmodified : some file.modifiedAtUnixNanos = cursor.sourceModifiedAtUnixNanos
      . rw [if_pos hmodified]
        rw [hrest, List.append_nil] at hbytes
        obtain rfl : lines = whole := hwhole.eq_of_closed (hbytes ▸ hat.closed) ▸ hbytes.symm
        exact .inl ⟨rfl, cursor, read, rfl, hat, hread, hrows⟩
      . rw [if_neg hmodified]
        exact .inr hrebuild
    . rw [if_neg hrest]
      have hcoherent := h.coherent
      unfold Index.outboxLine at hcoherent
      rw [hcursor] at hcoherent
      have hcoherent : Coherent index (rawLines lines).length := by
        rw [← hat.lineNumber]
        exact hcoherent
      exact .inr ⟨index, cursor, lines, read, rfl, hat.startsAt hbytes, hread, hcoherent, hrows,
        id⟩

theorem refreshOutboxIndexLocked_rows {later : Index}
    (hrun : index.refreshOutboxIndexLocked formats (some file) = .ok later)
    : ∃ read, readWhole formats whole = .ok read
        ∧ later.outbox = read.lines.map (rowFor formats)
        ∧ (∃ next, later.outboxCursor = some next ∧ CursorAt next whole)
        ∧ (Tallied index → Tallied later) := by
  cases refreshOutboxIndexLocked_modes h hsynced hwhole with
  | inl hcurrent =>
    obtain ⟨hsame, cursor, read, hcursor, hat, hread, hrows⟩ := hcurrent
    rw [hsame] at hrun
    obtain rfl := Except.ok.inj hrun
    exact ⟨read, hread, hrows, ⟨cursor, hcursor, hat⟩, id⟩
  | inr hreading =>
    obtain ⟨start, cursor, lines, first, hsame, hstart, hfirst, hcoherent, hrows, htallied⟩ :=
      hreading
    rw [hsame] at hrun
    obtain ⟨read, hread, houtbox, hnext, htally⟩ :=
      readOutboxFromCursor_rows hstart hwhole hfirst hcoherent hrows hrun
    exact ⟨read, hread, houtbox, hnext, fun htallies => htally (htallied htallies)⟩

theorem refreshOutboxIndexLocked_isOk {read : Read} (hread : readWhole formats whole = .ok read)
    : (∃ later, index.refreshOutboxIndexLocked formats (some file) = .ok later)
        ↔ (read.lines.filterMap (idOf formats)).Nodup := by
  cases refreshOutboxIndexLocked_modes h hsynced hwhole with
  | inl hcurrent =>
    obtain ⟨hsame, cursor, read', hcursor, hat, hread', hrows⟩ := hcurrent
    rw [hread] at hread'
    obtain rfl := Except.ok.inj hread'
    have hunique : (rowIds index.outbox).Nodup := h.coherent.rows.unique
    rw [hrows, rowIds_map_rowFor] at hunique
    rw [hsame]
    constructor
    . intro _
      exact hunique
    . intro _
      exact ⟨index, rfl⟩
  | inr hreading =>
    obtain ⟨start, cursor, lines, first, hsame, hstart, hfirst, hcoherent, hrows, _⟩ := hreading
    rw [hsame]
    exact readOutboxFromCursor_isOk hstart hwhole hread hfirst hcoherent hrows

end

end

end ChannelDelivery

/-!
The plan that is made from tables which hold together: its counters are in range, and it hands out
the deliveries that their receipts leave open.
-/

namespace ChannelDelivery

structure PlatformSummary.Nonneg (summary : PlatformSummary) : Prop where
  pending : 0 ≤ summary.pending
  delivered : 0 ≤ summary.delivered
  failedRetryable : 0 ≤ summary.failedRetryable
  skippedPermanent : 0 ≤ summary.skippedPermanent
  partialFailed : 0 ≤ summary.partialFailed

theorem nonneg_summarize (dispositions : List DeliveryDisposition)
    : (summarize dispositions).Nonneg where
  pending := Int.natCast_nonneg _
  delivered := Int.natCast_nonneg _
  failedRetryable := Int.natCast_nonneg _
  skippedPermanent := Int.natCast_nonneg _
  partialFailed := Int.natCast_nonneg _

theorem PlatformSummary.Nonneg.add {left right : PlatformSummary} (hleft : left.Nonneg)
    (hright : right.Nonneg)
    : (left.add right).Nonneg where
  pending := Int.add_nonneg hleft.pending hright.pending
  delivered := Int.add_nonneg hleft.delivered hright.delivered
  failedRetryable := Int.add_nonneg hleft.failedRetryable hright.failedRetryable
  skippedPermanent := Int.add_nonneg hleft.skippedPermanent hright.skippedPermanent
  partialFailed := Int.add_nonneg hleft.partialFailed hright.partialFailed

theorem usizeFromI64_of_nonneg {value : Int} (h : 0 ≤ value) (label : String)
    : usizeFromI64 value label = .ok value.toNat :=
  if_pos h

section

variable {index : Index} {lastLine : Nat} (h : Coherent index lastLine)
include h

theorem Coherent.nonneg_readPlatformSummary (platform : Option String)
    : (index.readPlatformSummary platform).Nonneg := by
  cases platform with
  | some platform =>
    show (index.summaryOf platform).Nonneg
    rw [h.counters]
    exact nonneg_summarize _
  | none =>
    have hvalues : ∀ summary ∈ index.platformSummary.values, summary.Nonneg := by
      intro summary hsummary
      obtain ⟨platform, hplatform⟩ := FMap.mem_values_iff.mp hsummary
      have hcounters := h.counters platform
      unfold Index.summaryOf at hcounters
      rw [hplatform, Option.getD_some] at hcounters
      rw [hcounters]
      exact nonneg_summarize _
    have hfold : ∀ (summaries : List PlatformSummary) (total : PlatformSummary), total.Nonneg
        → (∀ summary ∈ summaries, summary.Nonneg)
        → (summaries.foldl PlatformSummary.add total).Nonneg := by
      intro summaries
      induction summaries with
      | nil =>
        intro total htotal _
        exact htotal
      | cons summary summaries ih =>
        intro total htotal hall
        rw [List.forall_mem_cons] at hall
        exact ih _ (htotal.add hall.1) hall.2
    exact hfold _ {} (nonneg_summarize []) hvalues

theorem Coherent.validOutboxCount_le (platform : String)
    : (index.summaryOf platform).validOutboxCount ≤ index.deliveries.length := by
  rw [h.counters]
  show ((index.dispositionsOf platform).length : Int) ≤ _
  unfold Index.dispositionsOf
  rw [List.length_map, Int.ofNat_le]
  exact List.length_filter_le _ _

theorem Coherent.planOf_isOk (htallied : Tallied index) (outboxExists : Bool)
    (platform : Option String) (limit : Nat)
    : ∃ plan, index.planOf outboxExists platform limit = .ok plan := by
  have hnonneg := h.nonneg_readPlatformSummary platform
  have hdeliveries : index.deliveries.length ≤ index.outbox.length :=
    List.length_filterMap_le _ _
  have htotal : max index.outboxTotalLines 0 = index.outbox.length := by
    rw [htallied.total]
    omega
  have hinvalid : max index.outboxInvalidLines 0
      = (index.outbox.length : Int) - index.deliveries.length := by
    have := htallied.valid
    omega
  have hskipped : 0 ≤ (if platform.isSome then (index.outbox.length : Int)
      - (index.outbox.length - index.deliveries.length)
      - (index.readPlatformSummary platform).validOutboxCount else 0) := by
    cases platform with
    | none => exact le_refl _
    | some platform =>
      have := h.validOutboxCount_le platform
      show 0 ≤ _ - (index.summaryOf platform).validOutboxCount
      omega
  have hlines : (0 : Int) ≤ index.outbox.length := Int.natCast_nonneg _
  have hbad : 0 ≤ (index.outbox.length : Int) - index.deliveries.length := by omega
  unfold Index.planOf
  simp only [htotal, hinvalid]
  rw [usizeFromI64_of_nonneg hlines, usizeFromI64_of_nonneg hnonneg.pending,
    usizeFromI64_of_nonneg hnonneg.delivered, usizeFromI64_of_nonneg hnonneg.failedRetryable,
    usizeFromI64_of_nonneg hnonneg.skippedPermanent, usizeFromI64_of_nonneg hnonneg.partialFailed,
    usizeFromI64_of_nonneg hskipped, usizeFromI64_of_nonneg hbad]
  exact ⟨_, rfl⟩

end

def isOpen : DeliveryDisposition → Bool
  | .pending => true
  | .failed _ => true
  | _ => false

theorem stateOf_terminalStatus_ne_failed {receipts : List ChannelDeliveryReceipt}
    {state : DeliveryStateRow} (h : stateOf receipts = some state)
    : state.terminalStatus ≠ some .failed := by
  intro hfailed
  have hterminal := stateOf_terminalStatus receipts
  rw [h, Option.bind_some, hfailed] at hterminal
  obtain ⟨receipt, hreceipt, hstatus⟩ := Option.map_eq_some_iff.mp hterminal.symm
  have hmem := (List.mem_filter.mp (List.mem_of_getLast? hreceipt)).2
  rw [hstatus] at hmem
  cases hmem

theorem Coherent.isPending_eq {index : Index} {lastLine : Nat} (h : Coherent index lastLine)
    (delivery : OutboxDelivery)
    : index.isPending delivery
        = isOpen (dispositionFor (index.receiptsOf delivery.deliveryId)) := by
  unfold Index.isPending
  rw [h.states, ← deliveryDisposition_stateOf]
  unfold deliveryDisposition
  cases hstate : stateOf (index.receiptsOf delivery.deliveryId) with
  | none => rfl
  | some state =>
    have hfailed := stateOf_terminalStatus_ne_failed hstate
    simp only [Option.bind_some]
    cases hterminal : state.terminalStatus with
    | none =>
      cases hlast : state.lastStatus with
      | none => rfl
      | some status =>
        cases status with
        | delivered => rfl
        | failed => rfl
        | skippedPermanent => rfl
    | some status =>
      cases status with
      | delivered => rfl
      | failed => exact absurd hterminal hfailed
      | skippedPermanent => rfl

def openDeliveries (index : Index) (platform : Option String) (deliveries : List OutboxDelivery)
    : List OutboxDelivery :=
  deliveries.filter fun delivery =>
    platform.all (fun platform => delivery.message.platform = platform)
      && isOpen (dispositionFor (index.receiptsOf delivery.deliveryId))

theorem Coherent.readPendingDeliveries_ids {index : Index} {lastLine : Nat}
    (h : Coherent index lastLine) (platform : Option String) (limit : Nat)
    : (index.readPendingDeliveries platform limit).map (·.deliveryId)
        = ((openDeliveries index platform index.deliveries).map (·.deliveryId)).take limit := by
  unfold Index.readPendingDeliveries openDeliveries Index.deliveries
  dsimp only
  rw [← List.map_take, List.map_take, List.map_take, List.map_filterMap, List.filter_filterMap,
    List.map_filterMap]
  congr 2
  funext row
  cases row.delivery? with
  | none => rfl
  | some delivery =>
    simp only [Option.bind_some, Option.filter_some, ← h.isPending_eq]
    split
    . rfl
    . rfl

theorem planOf_pending {index : Index} {outboxExists : Bool} {platform : Option String}
    {limit : Nat} {plan : ChannelDeliveryIndexedPlan}
    (h : index.planOf outboxExists platform limit = .ok plan)
    : plan.pending = index.readPendingDeliveries platform limit := by
  unfold Index.planOf at h
  simp only [Except.bind_eq_ok, Except.pure_eq_ok] at h
  obtain ⟨_, _, _, _, _, _, _, _, _, _, _, _, _, _, _, _, rfl⟩ := h
  rfl

end ChannelDelivery
