import AgentHarness.ChannelDelivery.Lemmas.Outbox
import AgentHarness.ChannelDelivery.Lemmas.Receipts

/-!
A delivery with a terminal receipt is not planned again, as long as the index that the plan is made
from has read the receipts.
-/

namespace ChannelDelivery

def LedgerHas (formats : Formats) (bytes : List UInt8) (receipt : ChannelDeliveryReceipt) : Prop :=
  ∃ raw ∈ rawLines bytes, ∃ line, TextFile.decode raw = some line
    ∧ (raw.getLast? = some TextFile.newline ∨ formats.isValue (Text.trim line) = true)
    ∧ Text.trim line ≠ "" ∧ formats.receipt (Text.trim line) = .ok receipt

section

variable {formats : Formats}

theorem mem_parsedReceipts_after {read : Read} {lineNumber : Nat} {trimmed : String}
    {receipt : ChannelDeliveryReceipt}
    : receipt ∈ parsedReceipts formats (read.after lineNumber trimmed).lines
        ↔ (trimmed ≠ "" ∧ formats.receipt trimmed = .ok receipt)
          ∨ receipt ∈ parsedReceipts formats read.lines := by
  unfold Read.after
  split
  . next hblank => simp [hblank]
  . next hblank =>
    unfold parsedReceipts
    cases hparse : formats.receipt trimmed with
    | error error => simp [hparse, Except.toOption]
    | ok found => simp [hparse, Except.toOption, hblank, eq_comm]

theorem mem_parsedReceipts_complete {raws : List (List UInt8)}
    (hcomplete : ∀ raw ∈ raws, raw.getLast? = some TextFile.newline) {offsetBytes lineNumber : Nat}
    {read : Read} (hread : readLines formats offsetBytes lineNumber raws = .ok read)
    {raw : List UInt8} (hraw : raw ∈ raws) {line : String} (hdecode : TextFile.decode raw = some line)
    (hblank : Text.trim line ≠ "") {receipt : ChannelDeliveryReceipt}
    (hparse : formats.receipt (Text.trim line) = .ok receipt)
    : receipt ∈ parsedReceipts formats read.lines := by
  induction raws generalizing offsetBytes lineNumber read with
  | nil => simp at hraw
  | cons first rest ih =>
    rw [List.forall_mem_cons] at hcomplete
    obtain ⟨firstLine, later, hfirst, hlater, rfl⟩ :=
      (readLines_complete_eq_ok hcomplete.1).mp hread
    rw [mem_parsedReceipts_after]
    cases List.mem_cons.mp hraw with
    | inl hsame =>
      rw [hsame, hfirst] at hdecode
      obtain rfl := Option.some.inj hdecode
      exact .inl ⟨hblank, hparse⟩
    | inr hrest => exact .inr (ih hcomplete.2 hlater hrest)

theorem mem_ledgerReceipts {bytes : List UInt8} {receipts : List ChannelDeliveryReceipt}
    (hreceipts : ledgerReceipts formats bytes = .ok receipts) {receipt : ChannelDeliveryReceipt}
    (hhas : LedgerHas formats bytes receipt)
    : receipt ∈ receipts := by
  obtain ⟨read, hread, rfl⟩ := ledgerReceipts_eq_ok.mp hreceipts
  obtain ⟨closed, torn, rfl, hclosed, htorn⟩ := exists_closed_torn bytes
  obtain ⟨raw, hraw, line, hdecode, hvalue, hblank, hparse⟩ := hhas
  obtain ⟨first, second, hfirst, hsecond, rfl⟩ := (readWhole_append_eq_ok hclosed).mp hread
  have hsplit : parsedReceipts formats (first.andThen second).lines
      = parsedReceipts formats first.lines ++ parsedReceipts formats second.lines :=
    List.filterMap_append
  rw [hsplit, List.mem_append]
  rw [rawLines_append hclosed, List.mem_append] at hraw
  cases hraw with
  | inl hraw =>
    exact .inl (mem_parsedReceipts_complete (complete_of_closed hclosed) hfirst hraw hdecode hblank
      hparse)
  | inr hraw =>
    rw [rawLines_torn htorn] at hraw hsecond
    split at hraw
    . simp at hraw
    . next hne =>
      rw [if_neg hne] at hsecond
      obtain rfl := List.mem_singleton.mp hraw
      have hvalue : formats.isValue (Text.trim line) = true := by
        cases hvalue with
        | inl hlast => exact absurd (List.mem_of_getLast? hlast) htorn
        | inr hvalue => exact hvalue
      rw [readLines, hdecode] at hsecond
      simp only [Except.ofOption, hvalue, hblank, Bool.not_true, Bool.and_false, readLines, bind,
        Except.bind, pure, Except.pure, Bool.false_eq_true, ↓reduceIte, Except.ok.injEq] at hsecond
      rw [← hsecond]
      refine .inr ?_
      simp [parsedReceipts, hparse, Except.toOption]

end

def HasTerminalReceipt (formats : Formats) (channel : Channel) (deliveryId : String) : Prop :=
  ∃ receipt, (LedgerHas formats (ledgerBytes channel.receipts) receipt
      ∨ ∃ segment ∈ channel.history.segments,
        LedgerHas formats ((channel.history.file segment.fileName).getD []) receipt)
    ∧ receipt.deliveryId = deliveryId ∧ isTerminalStatus receipt.status

section

variable {formats : Formats}

variable {channel : Channel} {history : ChannelDeliveryReceiptHistory} {index : Index}

theorem mem_coldReceipts {receipts : List ChannelDeliveryReceipt}
    (hreceipts : coldReceipts formats history = .ok receipts)
    {segment : ChannelDeliveryReceiptHistorySegment} (hsegment : segment ∈ history.segments)
    {receipt : ChannelDeliveryReceipt}
    (hhas : LedgerHas formats ((history.file segment.fileName).getD []) receipt)
    : receipt ∈ receipts := by
  obtain ⟨all, hall, hreceipts⟩ := Except.bind_eq_ok.mp hreceipts
  obtain rfl := Except.ok.inj hreceipts
  obtain ⟨found, hfound, hread⟩ := Except.mem_of_mapM_eq_ok hall hsegment
  exact List.mem_flatten.mpr ⟨found, hfound, mem_ledgerReceipts hread hhas⟩

theorem terminalStatus_of_receiptsAt {lastLine : Nat} (h : Coherent index lastLine)
    (hreceipts : ReceiptsAt formats channel.history (ledgerBytes channel.receipts) index)
    {delivery : OutboxDelivery} (hdelivery : delivery ∈ index.deliveries)
    (hterminal : HasTerminalReceipt formats channel delivery.deliveryId)
    : ((index.states.lookup delivery.deliveryId).bind (·.terminalStatus)).isSome := by
  obtain ⟨receipt, hhas, hid, hstatus⟩ := hterminal
  obtain ⟨cold, hot, hcold, hhot, hrecords⟩ := hreceipts.records
  have hmem : receipt ∈ index.receiptRecords.map (·.receipt) := by
    rw [hrecords, List.mem_append]
    cases hhas with
    | inl hhas => exact .inr (mem_ledgerReceipts hhot hhas)
    | inr hhas =>
      obtain ⟨segment, hsegment, hhas⟩ := hhas
      exact .inl (mem_coldReceipts hcold hsegment hhas)
  obtain ⟨record, hrecord, rfl⟩ := List.mem_map.mp hmem
  have hnamed : record.deliveryId = delivery.deliveryId := by
    cases h.named record hrecord with
    | inl hself => exact hself.trans hid
    | inr hlegacy =>
      obtain ⟨other, hother, hsame, hnamed⟩ := hlegacy
      rw [← hsame, h.rows.eq_of_alias hother hdelivery (.inr (hnamed.trans hid)) (.inl rfl)]
  have hterminal : record.receipt ∈ (index.receiptsOf delivery.deliveryId).filter
      fun receipt => isTerminalStatus receipt.status := by
    unfold Index.receiptsOf
    simp only [List.mem_filter, List.mem_map, decide_eq_true_eq]
    exact ⟨⟨record, ⟨hrecord, hnamed⟩, rfl⟩, hstatus⟩
  rw [h.states, stateOf_terminalStatus, Option.isSome_map, List.getLast?_isSome]
  exact List.ne_nil_of_mem hterminal

theorem mem_readPendingDeliveries {platform : Option String} {limit : Nat}
    {pending : ChannelDeliveryPending} (h : pending ∈ index.readPendingDeliveries platform limit)
    : ∃ delivery ∈ index.deliveries, delivery.deliveryId = pending.deliveryId
        ∧ index.isPending delivery := by
  unfold Index.readPendingDeliveries at h
  obtain ⟨row, hrow, hfound⟩ := List.mem_filterMap.mp (List.mem_of_mem_take h)
  obtain ⟨delivery, hdelivery, hfound⟩ := Option.bind_eq_some_iff.mp hfound
  split at hfound
  . next hpending =>
    rw [Bool.and_eq_true] at hpending
    obtain rfl := Option.some.inj hfound
    exact ⟨delivery, List.mem_filterMap.mpr ⟨row, hrow, hdelivery⟩, rfl, hpending.2⟩
  . cases hfound

theorem not_terminal_of_mem_pending {lastLine : Nat} (h : Coherent index lastLine)
    (hreceipts : ReceiptsAt formats channel.history (ledgerBytes channel.receipts) index)
    {platform : Option String} {limit : Nat} {pending : ChannelDeliveryPending}
    (hpending : pending ∈ index.readPendingDeliveries platform limit)
    : ¬HasTerminalReceipt formats channel pending.deliveryId := by
  intro hterminal
  obtain ⟨delivery, hdelivery, hid, hpending⟩ := mem_readPendingDeliveries hpending
  rw [← hid] at hterminal
  have hstatus := terminalStatus_of_receiptsAt h hreceipts hdelivery hterminal
  unfold Index.isPending at hpending
  simp only [Bool.and_eq_true, Option.isNone_iff_eq_none] at hpending
  rw [hpending.1] at hstatus
  cases hstatus

/-
What holds of a channel at any time: the tables hold together, the hot ledger is made of whole lines,
and the cursor of the receipts, where there is one, says what the index has of them.
-/
structure Sound (formats : Formats) (channel : Channel) : Prop where
  indexed : Indexed channel.index
  closed : Closed (ledgerBytes channel.receipts)
  synced : ReceiptsSynced formats channel.history channel.receipts channel.index

theorem receiptsSynced_of_none {receipts : Option LedgerFile} (h : index.receiptCursor = none)
    : ReceiptsSynced formats history receipts index := by
  intro cursor hcursor
  rw [h] at hcursor
  cases hcursor

theorem ReceiptsAt.outboxFrame {lines : List UInt8} {before after : Index}
    (h : ReceiptsAt formats history lines before) (hframe : OutboxFrame before after)
    : ReceiptsAt formats history lines after where
  segments := by
    rw [hframe.historySegments]
    exact h.segments
  records := by
    rw [hframe.receiptRecords]
    exact h.records

theorem ReceiptsSynced.outboxFrame {receipts : Option LedgerFile} {before after : Index}
    (h : ReceiptsSynced formats history receipts before) (hframe : OutboxFrame before after)
    : ReceiptsSynced formats history receipts after := by
  intro cursor hcursor
  rw [hframe.receiptCursor] at hcursor
  obtain ⟨file, lines, rest, hfile, hbytes, hat, hreceipts⟩ := h cursor hcursor
  exact ⟨file, lines, rest, hfile, hbytes, hat, hreceipts.outboxFrame hframe⟩

theorem refreshOutboxIndexLocked_cases {later : Index}
    (hrun : channel.index.refreshOutboxIndexLocked formats channel.outbox = .ok later)
    : (channel.rebuildsOutbox = false ∧ OutboxFrame channel.index later)
      ∨ (channel.rebuildsOutbox = true ∧ later.receiptCursor = none
        ∧ later.receiptRecords = []) := by
  have hread : ∀ {index : Index} {file : LedgerFile} {cursor : LedgerCursor},
      index.readOutboxFromCursor formats file cursor = .ok later → OutboxFrame index later := by
    intro index file cursor hrun
    obtain ⟨read, _, hrun⟩ := Except.bind_eq_ok.mp hrun
    obtain ⟨rows, hrows, hrun⟩ := Except.bind_eq_ok.mp hrun
    obtain rfl := Except.ok.inj hrun
    have hframe := outboxFrame_indexOutboxLines hrows
    exact ⟨hframe.states, hframe.receiptRecords, hframe.historySegments, hframe.receiptCursor⟩
  unfold Index.refreshOutboxIndexLocked at hrun
  unfold Channel.rebuildsOutbox
  cases houtbox : channel.outbox with
  | none =>
    rw [houtbox] at hrun
    dsimp only at hrun ⊢
    split at hrun
    . next hrows =>
      obtain rfl := Except.ok.inj hrun
      exact .inr ⟨hrows, rfl, rfl⟩
    . next hrows =>
      obtain rfl := Except.ok.inj hrun
      exact .inl ⟨by simpa using hrows, rfl, rfl, rfl, rfl⟩
  | some file =>
    rw [houtbox] at hrun
    dsimp only at hrun ⊢
    split at hrun
    . next hmode =>
      obtain rfl := Except.ok.inj hrun
      rw [hmode]
      exact .inl ⟨rfl, rfl, rfl, rfl, rfl⟩
    . next cursor hmode =>
      rw [hmode]
      exact .inl ⟨rfl, hread hrun⟩
    . next reason hmode =>
      rw [hmode]
      exact .inr ⟨rfl, (hread hrun).receiptCursor, (hread hrun).receiptRecords⟩

theorem Sound.refreshOutbox (h : Sound formats channel)
    : Sound formats (channel.refreshOutbox formats).1 := by
  unfold Channel.refreshOutbox
  split
  . exact h
  . next index hrun =>
    refine ⟨refreshOutboxIndexLocked_indexed h.indexed hrun, h.closed, ?_⟩
    cases refreshOutboxIndexLocked_cases hrun with
    | inl hframe => exact h.synced.outboxFrame hframe.2
    | inr hnone => exact receiptsSynced_of_none hnone.2.1

theorem Sound.refreshReceipts (h : Sound formats channel)
    : Sound formats (channel.refreshReceipts formats).1 := by
  unfold Channel.refreshReceipts
  split
  . exact h
  . next index hrun =>
    refine ⟨refreshReceiptIndexLocked_indexed h.indexed hrun, h.closed, ?_⟩
    intro cursor hcursor
    obtain ⟨hreceipts, hat⟩ := refreshReceiptIndexLocked_receipts h.indexed
      (wholeLines_of_closed formats h.closed) h.synced hrun
    obtain ⟨hsome, hcursorAt⟩ := hat cursor hcursor
    obtain ⟨file, hfile⟩ := Option.isSome_iff_exists.mp hsome
    rw [hfile] at hreceipts hcursorAt
    exact ⟨file, file.bytes, [], hfile, (List.append_nil _).symm, hcursorAt, hreceipts⟩

theorem Sound.appendReceipt (h : Sound formats channel) (receipt : ChannelDeliveryReceipt)
    (modifiedAtUnixNanos : Nat)
    : Sound formats (channel.appendReceipt formats receipt modifiedAtUnixNanos) := by
  refine ⟨h.indexed, closed_concat _, ?_⟩
  intro cursor hcursor
  obtain ⟨file, lines, rest, hfile, hbytes, hat, hreceipts⟩ := h.synced cursor hcursor
  have happended : (Channel.appendLine channel.receipts (formats.renderReceipt receipt)
      modifiedAtUnixNanos).bytes = lines ++ (rest
        ++ ((if TextFile.needsLeadingNewline file.bytes then [TextFile.newline] else [])
        ++ Text.utf8Bytes (formats.renderReceipt receipt) ++ [TextFile.newline])) := by
    unfold Channel.appendLine
    rw [hfile]
    simp only [Option.map_some, Option.getD_some, ← List.append_assoc]
    rw [← hbytes]
  exact ⟨_, lines, _, rfl, happended, hat, hreceipts⟩

theorem Sound.record (h : Sound formats channel) (receipt : ChannelDeliveryReceipt)
    (modifiedAtUnixNanos : Nat)
    : Sound formats
        (channel.recordChannelDeliveryReceipt formats receipt modifiedAtUnixNanos).1 := by
  apply Outcome.andThen_fst (Sound formats) h.refreshReceipts
  intro _ _
  exact (h.refreshReceipts.appendReceipt receipt modifiedAtUnixNanos).refreshReceipts

theorem Sound.withOutbox (h : Sound formats channel) (outbox : Option LedgerFile)
    : Sound formats { channel with outbox } :=
  ⟨h.indexed, h.closed, h.synced⟩

theorem Sound.appendOutbox (h : Sound formats channel) (message : ChannelOutboundMessage)
    (drawnDeliveryId : String) (modifiedAtUnixNanos : Nat)
    : Sound formats (channel.appendChannelOutboxMessageIndexedLocked formats message
        drawnDeliveryId modifiedAtUnixNanos).1 := by
  apply Outcome.andThen_fst (Sound formats) h.refreshOutbox
  intro _ _
  dsimp only
  split
  . split
    . exact h.refreshOutbox
    . exact h.refreshOutbox
  . exact (h.refreshOutbox.withOutbox _).refreshOutbox

theorem Sound.refreshNonblocking (h : Sound formats channel) (outboxBusy receiptsBusy : Bool)
    : Sound formats
        (channel.refreshChannelDeliveryIndexNonblocking formats outboxBusy receiptsBusy).1 := by
  have hfirst : Sound formats
      (if outboxBusy then ((channel, .ok ()) : Outcome Channel Unit)
        else channel.refreshOutbox formats).1 := by
    split
    . exact h
    . exact h.refreshOutbox
  apply Outcome.andThen_fst (Sound formats) hfirst
  intro _ _
  split
  . exact hfirst
  . exact hfirst.refreshReceipts

-- the locked refresh is the other one with both append locks free
theorem Sound.refreshChannelDeliveryIndex (h : Sound formats channel)
    : Sound formats (channel.refreshChannelDeliveryIndex formats).1 :=
  h.refreshNonblocking false false

theorem Sound.step (h : Sound formats channel) (action : Action)
    : Sound formats (channel.step formats action) := by
  cases action with
  | writeOutbox file => exact h.withOutbox file
  | appendOutbox message drawnDeliveryId modifiedAtUnixNanos =>
    exact h.appendOutbox message drawnDeliveryId modifiedAtUnixNanos
  | record receipt modifiedAtUnixNanos => exact h.record receipt modifiedAtUnixNanos
  | recordDeferred receipt modifiedAtUnixNanos =>
    apply Outcome.andThen_fst (Sound formats) h.refreshReceipts
    intro _ _
    exact h.refreshReceipts.appendReceipt receipt modifiedAtUnixNanos
  | plan platform limit outboxBusy receiptsBusy =>
    apply Outcome.andThen_fst (Sound formats) (h.refreshNonblocking outboxBusy receiptsBusy)
    intro _ _
    exact h.refreshNonblocking outboxBusy receiptsBusy

theorem Sound.run (h : Sound formats channel) (actions : List Action)
    : Sound formats (channel.run formats actions) := by
  apply Run.exec_invariant (Sound formats) _ h
  intro channel action h
  exact h.step action

theorem refreshOutbox_eq_ok {later : Channel} {u : Unit}
    : channel.refreshOutbox formats = (later, .ok u)
        ↔ ∃ index, channel.index.refreshOutboxIndexLocked formats channel.outbox = .ok index
          ∧ later = { channel with index } := by
  unfold Channel.refreshOutbox
  cases channel.index.refreshOutboxIndexLocked formats channel.outbox with
  | error e => simp
  | ok index => simp [eq_comm]

theorem refreshReceipts_eq_ok {later : Channel} {u : Unit}
    : channel.refreshReceipts formats = (later, .ok u)
        ↔ ∃ index, Index.refreshReceiptIndexLocked formats false channel.history channel.index
            channel.receipts = .ok index
          ∧ later = { channel with index } := by
  unfold Channel.refreshReceipts
  cases Index.refreshReceiptIndexLocked formats false channel.history channel.index
    channel.receipts with
  | error e => simp
  | ok index => simp [eq_comm]

theorem refreshNonblocking_eq_ok {later : Channel} {outboxBusy receiptsBusy : Bool} {u : Unit}
    (h : channel.refreshChannelDeliveryIndexNonblocking formats outboxBusy receiptsBusy
      = (later, .ok u))
    : ∃ first index, later = { channel with index }
        ∧ (if outboxBusy then first = channel.index
          else channel.index.refreshOutboxIndexLocked formats channel.outbox = .ok first)
        ∧ (if receiptsBusy then index = first
          else Index.refreshReceiptIndexLocked formats false channel.history first channel.receipts
            = .ok index) := by
  obtain ⟨middle, _, hmiddle, h⟩ := Outcome.andThen_eq_ok.mp h
  have hmiddle : ∃ first, middle = { channel with index := first }
      ∧ (if outboxBusy then first = channel.index
        else channel.index.refreshOutboxIndexLocked formats channel.outbox = .ok first) := by
    cases outboxBusy with
    | true =>
      obtain ⟨rfl, _⟩ := Prod.mk.inj hmiddle
      exact ⟨channel.index, rfl, rfl⟩
    | false =>
      obtain ⟨first, hfirst, hmiddle⟩ := refreshOutbox_eq_ok.mp hmiddle
      exact ⟨first, hmiddle, hfirst⟩
  obtain ⟨first, rfl, hfirst⟩ := hmiddle
  cases receiptsBusy with
  | true =>
    obtain ⟨rfl, _⟩ := Prod.mk.inj h
    exact ⟨first, first, rfl, hfirst, rfl⟩
  | false =>
    obtain ⟨index, hindex, rfl⟩ := refreshReceipts_eq_ok.mp h
    exact ⟨first, index, rfl, hfirst, hindex⟩

theorem Sound.first (h : Sound formats channel) {outboxBusy : Bool} {first : Index}
    (hfirst : if outboxBusy then first = channel.index
      else channel.index.refreshOutboxIndexLocked formats channel.outbox = .ok first)
    : Sound formats { channel with index := first } := by
  cases outboxBusy with
  | true =>
    obtain rfl : first = channel.index := hfirst
    exact h
  | false =>
    have hlater := h.refreshOutbox
    rw [(@refreshOutbox_eq_ok formats _ _ ()).mpr ⟨first, hfirst, rfl⟩] at hlater
    exact hlater

theorem Sound.receiptsAt_of_read (h : Sound formats channel) (hread : channel.receiptsRead)
    : ReceiptsAt formats channel.history (ledgerBytes channel.receipts) channel.index := by
  unfold Channel.receiptsRead at hread
  obtain ⟨cursor, hcursor, hread⟩ := (Option.any_eq_true _ _).mp hread
  obtain ⟨file, hfile, hread⟩ := (Option.any_eq_true _ _).mp hread
  rw [decide_eq_true_eq] at hread
  obtain ⟨other, lines, rest, hother, hbytes, hat, hreceipts⟩ := h.synced cursor hcursor
  rw [hfile] at hother
  obtain rfl := Option.some.inj hother
  have hrest : rest = [] := by
    have hlength := congrArg List.length hbytes
    rw [List.length_append, ← hat.offsetBytes, hread] at hlength
    apply List.length_eq_zero_iff.mp
    omega
  rw [hrest, List.append_nil] at hbytes
  rw [hfile]
  show ReceiptsAt formats channel.history file.bytes channel.index
  rw [hbytes]
  exact hreceipts

end

/-
When a plan is made from an index that has the receipts: their ledger is free, or the index had read
it to its end and is not built again from the outbox alone. Without terminal receipts there is
nothing to miss.
-/
def PlannedWithReceipts (formats : Formats) (channel : Channel) (outboxBusy receiptsBusy : Bool)
    : Prop :=
  receiptsBusy = false
    ∨ (channel.receiptsRead ∧ (outboxBusy ∨ channel.rebuildsOutbox = false))
    ∨ ∀ deliveryId, ¬HasTerminalReceipt formats channel deliveryId

/-
Whatever happened to a channel before: a plan that is made with the receipts returns no delivery that
has a terminal receipt.
-/
theorem terminal_never_planned (formats : Formats) (channel : Channel) (hindex : channel.index = {})
    (hclosed : Closed (ledgerBytes channel.receipts)) (actions : List Action)
    (platform : Option String) (limit : Nat) (outboxBusy receiptsBusy : Bool)
    (hplanned : PlannedWithReceipts formats (channel.run formats actions) outboxBusy receiptsBusy)
    : ∀ later plan, (channel.run formats actions).planChannelOutboxIndex formats platform limit
          outboxBusy receiptsBusy = (later, .ok plan)
        → ∀ pending ∈ plan.pending,
          ¬HasTerminalReceipt formats (channel.run formats actions) pending.deliveryId := by
  have hinitial : Sound formats channel := by
    refine ⟨?_, hclosed, receiptsSynced_of_none ?_⟩
    . rw [hindex]
      exact indexed_empty
    . rw [hindex]
  have hsound := hinitial.run actions
  generalize channel.run formats actions = current at hsound hplanned
  intro later plan hplan pending hpending
  obtain ⟨refreshed, _, hrefresh, hmade⟩ := Outcome.andThen_eq_ok.mp hplan
  rw [planOf_pending (Prod.mk.inj hmade).2] at hpending
  have hrefreshed := hsound.refreshNonblocking outboxBusy receiptsBusy
  rw [hrefresh] at hrefreshed
  obtain ⟨first, index, rfl, hfirst, hindex⟩ := refreshNonblocking_eq_ok hrefresh
  cases receiptsBusy with
  | false =>
    have hfirst := hsound.first hfirst
    obtain ⟨hreceipts, _⟩ := refreshReceiptIndexLocked_receipts hfirst.indexed
      (wholeLines_of_closed formats hfirst.closed) hfirst.synced hindex
    exact not_terminal_of_mem_pending hrefreshed.indexed.coherent hreceipts hpending
  | true =>
    obtain rfl : index = first := hindex
    cases hplanned with
    | inl hfree => cases hfree
    | inr hplanned =>
      cases hplanned with
      | inr hnone => exact hnone pending.deliveryId
      | inl hread =>
        have hframe : OutboxFrame current.index index := by
          cases outboxBusy with
          | true =>
            obtain rfl : index = current.index := hfirst
            exact ⟨rfl, rfl, rfl, rfl⟩
          | false =>
            cases refreshOutboxIndexLocked_cases hfirst with
            | inl hframe => exact hframe.2
            | inr hrebuilt => simp [hrebuilt.1] at hread
        exact not_terminal_of_mem_pending hrefreshed.indexed.coherent
          ((hsound.receiptsAt_of_read hread.1).outboxFrame hframe) hpending

/-
Where the outbox is read again while the receipts are held, every delivery is planned.
-/
section

variable {formats : Formats}

theorem planned_from_outbox_alone {channel : Channel} (h : Indexed channel.index)
    {file : LedgerFile} (houtbox : channel.outbox = some file)
    (hcursor : channel.index.outboxCursor = none) {whole : List UInt8}
    (hwhole : WholeLines formats file.bytes whole) {read : Read}
    (hread : readWhole formats whole = .ok read)
    (hnodup : (read.lines.filterMap (idOf formats)).Nodup) (htallied : Tallied channel.index)
    (limit : Nat)
    : ∃ later plan, channel.planChannelOutboxIndex formats none limit false true
          = (later, .ok plan)
        ∧ plan.pending.map (·.deliveryId) = (read.lines.filterMap (idOf formats)).take limit := by
  have hsynced : OutboxSynced formats (some file) channel.index := by
    intro cursor hsome
    rw [hcursor] at hsome
    cases hsome
  obtain ⟨index, hindex⟩ := (refreshOutboxIndexLocked_isOk h hsynced hwhole hread).mpr hnodup
  obtain ⟨read', hread', hrows, _, htally⟩ :=
    refreshOutboxIndexLocked_rows h hsynced hwhole hindex
  rw [hread] at hread'
  obtain rfl := Except.ok.inj hread'
  rw [← houtbox] at hindex
  have hrefresh : channel.refreshOutbox formats = ({ channel with index }, .ok ()) :=
    refreshOutbox_eq_ok.mpr ⟨index, hindex, rfl⟩
  have hcoherent := (refreshOutboxIndexLocked_indexed h hindex).coherent
  obtain ⟨plan, hplan⟩ := hcoherent.planOf_isOk (htally htallied) channel.outbox.isSome none limit
  refine ⟨{ channel with index }, plan, ?_, ?_⟩
  . unfold Channel.planChannelOutboxIndex Channel.refreshChannelDeliveryIndexNonblocking
    simp only [Bool.false_eq_true, ↓reduceIte, hrefresh, Outcome.andThen_ok]
    rw [Prod.mk.injEq]
    exact ⟨rfl, hplan⟩
  . have hrecords : index.receiptRecords = [] := by
      have hrebuilds : channel.rebuildsOutbox = true := by
        unfold Channel.rebuildsOutbox ledgerRefreshMode
        simp only [houtbox, hcursor]
      cases refreshOutboxIndexLocked_cases hindex with
      | inl hframe => simp [hframe.1] at hrebuilds
      | inr hrebuilt => exact hrebuilt.2.2
    have hopen : openDeliveries index none index.deliveries = index.deliveries := by
      unfold openDeliveries Index.receiptsOf
      rw [hrecords]
      simp [isOpen, dispositionFor]
    rw [planOf_pending hplan, hcoherent.readPendingDeliveries_ids, hopen, ← rowIds_map_rowFor]
    unfold Index.deliveries rowIds
    rw [hrows]

theorem refreshReceipts_keeps (channel : Channel)
    : ∃ index, (channel.refreshReceipts formats).1 = { channel with index }
        ∧ SameOutbox channel.index index := by
  unfold Channel.refreshReceipts
  split
  . exact ⟨channel.index, rfl, .refl _⟩
  . next index hrun => exact ⟨index, rfl, sameOutbox_refreshReceiptIndexLocked hrun⟩

theorem record_of_refreshed {channel refreshed : Channel}
    (h : channel.refreshReceipts formats = (refreshed, .ok ())) (receipt : ChannelDeliveryReceipt)
    (modifiedAtUnixNanos : Nat)
    : (channel.recordChannelDeliveryReceipt formats receipt modifiedAtUnixNanos).1
        = ((refreshed.appendReceipt formats receipt modifiedAtUnixNanos).refreshReceipts
            formats).1 := by
  unfold Channel.recordChannelDeliveryReceipt
  rw [h]
  rfl

theorem ledgerHas_lineBytes {line : String} (h : OneLine line) {receipt : ChannelDeliveryReceipt}
    (hparse : formats.receipt line = .ok receipt)
    : LedgerHas formats (lineBytes line) receipt := by
  have htrim := Text.trim_append_newline h.ne h.trim
  refine ⟨lineBytes line, ?_, line ++ "\n", decode_lineBytes line, .inl List.getLast?_concat, ?_,
    ?_⟩
  . rw [rawLines_lineBytes h]
    exact List.mem_singleton_self _
  . rw [htrim]
    exact h.ne
  . rw [htrim]
    exact hparse

end

section

variable {formats : Formats} {line : String} {message : ChannelOutboundMessage}
  {receipt : ChannelDeliveryReceipt}

def writtenAndRecorded (line : String) (receipt : ChannelDeliveryReceipt) : List Action :=
  [.writeOutbox (some { bytes := lineBytes line, modifiedAtUnixNanos := 0 }), .record receipt 1]

theorem run_writtenAndRecorded (line : String) (receipt : ChannelDeliveryReceipt)
    : ∃ index : Index, index.outboxCursor = none ∧ Tallied index
        ∧ ({} : Channel).run formats (writtenAndRecorded line receipt) = {
            outbox := some { bytes := lineBytes line, modifiedAtUnixNanos := 0 }
            receipts := some {
              bytes := lineBytes (formats.renderReceipt receipt)
              modifiedAtUnixNanos := 1 }
            index } := by
  let written : Channel := { outbox := some { bytes := lineBytes line, modifiedAtUnixNanos := 0 } }
  have hfirst : written.refreshReceipts formats = (written, .ok ()) := rfl
  have happend : written.appendReceipt formats receipt 1 = { written with
      receipts := some {
        bytes := lineBytes (formats.renderReceipt receipt)
        modifiedAtUnixNanos := 1 } } := by
    have hempty : ledgerBytes written.receipts = [] := rfl
    unfold Channel.appendReceipt
    rw [appendLine_of_closed (hempty ▸ closed_nil), hempty, List.nil_append]
  have hrun : ({} : Channel).run formats (writtenAndRecorded line receipt)
      = (written.recordChannelDeliveryReceipt formats receipt 1).1 := rfl
  rw [hrun, record_of_refreshed hfirst, happend]
  obtain ⟨index, hindex, hsame⟩ := @refreshReceipts_keeps formats { written with
    receipts := some {
      bytes := lineBytes (formats.renderReceipt receipt)
      modifiedAtUnixNanos := 1 } }
  refine ⟨index, hsame.outboxCursor, ?_, hindex⟩
  constructor
  . rw [hsame.outboxTotalLines, hsame.outbox]
    rfl
  . unfold Index.deliveries
    rw [hsame.outboxInvalidLines, hsame.outbox]
    rfl

theorem planned_again (hline : OneLine line) (hmessage : formats.message line = .ok message)
    (hrender : OneLine (formats.renderReceipt receipt))
    (hreceipt : formats.receipt (formats.renderReceipt receipt) = .ok receipt)
    (hid : receipt.deliveryId = deliveryIdForOutboxMessage 1 line message)
    (hterminal : isTerminalStatus receipt.status)
    : ∃ later plan pending,
        (({} : Channel).run formats (writtenAndRecorded line receipt)).planChannelOutboxIndex
          formats none 1 false true = (later, .ok plan)
        ∧ pending ∈ plan.pending
        ∧ HasTerminalReceipt formats (({} : Channel).run formats (writtenAndRecorded line receipt))
          pending.deliveryId := by
  have hindexed : Indexed (({} : Channel).run formats (writtenAndRecorded line receipt)).index := by
    have hsound : Sound formats {} := ⟨indexed_empty, closed_nil, receiptsSynced_of_none rfl⟩
    exact (hsound.run _).indexed
  obtain ⟨index, hcursor, htallied, hrun⟩ := run_writtenAndRecorded line receipt
  rw [hrun] at hindexed ⊢
  have hread := readLines_lineBytes formats hline 0 0
  have hids : ([(0 + 1, line)] : List (Nat × String)).filterMap (idOf formats)
      = [receipt.deliveryId] := by
    have hidOf : idOf formats (1, line) = some receipt.deliveryId := by
      unfold idOf
      rw [rowFor_of_message hmessage, hid]
      rfl
    simp [hidOf]
  obtain ⟨later, plan, hplan, hpending⟩ := planned_from_outbox_alone hindexed rfl hcursor
    (wholeLines_of_closed formats (closed_lineBytes line)) hread
    (by rw [hids]; exact List.nodup_singleton _) htallied 1
  rw [hids] at hpending
  have hmem : receipt.deliveryId ∈ plan.pending.map (·.deliveryId) := by
    rw [hpending]
    exact List.mem_singleton_self _
  obtain ⟨pending, hmem, hsame⟩ := List.mem_map.mp hmem
  exact ⟨later, plan, pending, hplan, hmem, receipt, .inl (ledgerHas_lineBytes hrender hreceipt),
    hsame.symm, hterminal⟩

end

def sampleDeliveryId : String :=
  "delivery:v2:00112233445566778899aabbccddeeff"

def sampleMessage : ChannelOutboundMessage where
  platform := ""
  accountId := none
  channelId := ""
  userId := ""
  sessionKey := ""
  deliveryId := some sampleDeliveryId
  sourceQueueId := none
  text := ""

def sampleMessageFields : String :=
  "\"platform\":\"\",\"channelId\":\"\",\"userId\":\"\",\"sessionKey\":\"\",\"deliveryId\":\""
    ++ sampleDeliveryId ++ "\",\"kind\":\"agent-reply\",\"text\":\"\""

def sampleReceipt : ChannelDeliveryReceipt where
  deliveryId := sampleDeliveryId
  status := .delivered
  atMs := 1

def sampleReceiptFields : String :=
  "\"schema\":\"\",\"deliveryId\":\"" ++ sampleDeliveryId ++ "\",\"status\":\"delivered\","
    ++ "\"platform\":\"\",\"channelId\":\"\",\"userId\":\"\",\"sessionKey\":\"\","
    ++ "\"providerMessageId\":null,\"error\":null,\"atMs\":1"

def formatsOf (messageLine receiptLine : String) (message : ChannelOutboundMessage)
    (receipt : ChannelDeliveryReceipt)
    : Formats where
  isValue line := line = messageLine || line = receiptLine
  message line := if line = messageLine then .ok message else .error "missing field"
  receipt line := if line = receiptLine then .ok receipt else .error "missing field"
  renderMessage _ := messageLine
  renderReceipt _ := receiptLine

theorem formatsOf_message (messageLine receiptLine : String) (message : ChannelOutboundMessage)
    (receipt : ChannelDeliveryReceipt)
    : (formatsOf messageLine receiptLine message receipt).message messageLine = .ok message :=
  if_pos rfl

theorem formatsOf_receipt (messageLine receiptLine : String) (message : ChannelOutboundMessage)
    (receipt : ChannelDeliveryReceipt)
    : (formatsOf messageLine receiptLine message receipt).receipt receiptLine = .ok receipt :=
  if_pos rfl

def sampleFormats : Formats :=
  formatsOf ("\x7b" ++ sampleMessageFields ++ "\x7d") ("\x7b" ++ sampleReceiptFields ++ "\x7d")
    sampleMessage sampleReceipt

theorem sampleFormats_message
    : sampleFormats.message ("\x7b" ++ sampleMessageFields ++ "\x7d") = .ok sampleMessage := by
  apply formatsOf_message

theorem sampleDeliveryId_valid
    : validChannelOutboundDeliveryId sampleMessage = some sampleDeliveryId := by
  decide

theorem sampleFields_plain
    : '\n' ∉ sampleMessageFields.toList ∧ '\n' ∉ sampleReceiptFields.toList := by
  refine ⟨Text.newline_not_mem ?_, Text.newline_not_mem ?_⟩
  . decide +kernel
  . decide +kernel

theorem sampleReceipt_planned_again
    : ∃ later plan pending, (({} : Channel).run sampleFormats (writtenAndRecorded
          ("\x7b" ++ sampleMessageFields ++ "\x7d") sampleReceipt)).planChannelOutboxIndex
          sampleFormats none 1 false true = (later, .ok plan)
        ∧ pending ∈ plan.pending
        ∧ HasTerminalReceipt sampleFormats (({} : Channel).run sampleFormats (writtenAndRecorded
          ("\x7b" ++ sampleMessageFields ++ "\x7d") sampleReceipt)) pending.deliveryId := by
  apply @planned_again sampleFormats _ sampleMessage sampleReceipt
  . exact oneLine_object sampleFields_plain.1
  . exact sampleFormats_message
  . exact oneLine_object sampleFields_plain.2
  . apply formatsOf_receipt
  . unfold deliveryIdForOutboxMessage
    rw [sampleDeliveryId_valid]
    rfl
  . rfl

theorem sampleReceipt_planned_once
    : ¬∃ later plan, (({} : Channel).run sampleFormats (writtenAndRecorded
          ("\x7b" ++ sampleMessageFields ++ "\x7d") sampleReceipt)).planChannelOutboxIndex
          sampleFormats none 1 false false = (later, .ok plan)
        ∧ ∃ pending ∈ plan.pending, HasTerminalReceipt sampleFormats
          (({} : Channel).run sampleFormats (writtenAndRecorded
            ("\x7b" ++ sampleMessageFields ++ "\x7d") sampleReceipt)) pending.deliveryId := by
  rintro ⟨later, plan, hplan, pending, hpending, hterminal⟩
  exact terminal_never_planned sampleFormats {} rfl closed_nil _ none 1 false false (.inl rfl)
    later plan hplan pending hpending hterminal

end ChannelDelivery
