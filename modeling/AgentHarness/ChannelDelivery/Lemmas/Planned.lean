import AgentHarness.ChannelDelivery.Lemmas.Delivered

/-!
A plan of the whole outbox: it can be made exactly when no two lines claim one identity, and then
every line that is a message is in the index and planned as its receipts say.
-/

namespace ChannelDelivery

/-
A channel whose files only get more lines: the outbox those that anyone writes, the receipts those
that are recorded.
-/
structure Growing (formats : Formats) (channel : Channel) : Prop where
  sound : Sound formats channel
  history : channel.history.segments = []
  receipts : ∃ text, ledgerBytes channel.receipts = Text.utf8Bytes text
  outbox : ∃ text, ledgerBytes channel.outbox = Text.utf8Bytes text
  closed : Closed (ledgerBytes channel.outbox)
  synced : OutboxSynced formats channel.outbox channel.index
  unread : channel.index.outboxCursor = none → channel.index.outbox = []
  tallied : Tallied channel.index

def Extends (file : Option LedgerFile) (later : LedgerFile) : Prop :=
  ∃ text, later.bytes = ledgerBytes file ++ Text.utf8Bytes text ∧ Closed later.bytes

theorem extends_appendLine {file : Option LedgerFile} (h : Closed (ledgerBytes file))
    (line : String) (modifiedAtUnixNanos : Nat)
    : Extends file (Channel.appendLine file line modifiedAtUnixNanos) := by
  rw [appendLine_of_closed h]
  refine ⟨line ++ "\n", ?_, h.append (closed_lineBytes line)⟩
  rw [Text.utf8Bytes_append, TextFile.utf8Bytes_newline]
  rfl

section

variable {formats : Formats}

theorem OutboxSynced.grow {outbox : Option LedgerFile} {index : Index}
    (h : OutboxSynced formats outbox index) {later : LedgerFile} {more : List UInt8}
    (hbytes : later.bytes = ledgerBytes outbox ++ more)
    : OutboxSynced formats (some later) index := by
  intro cursor hcursor
  obtain ⟨file, lines, rest, read, hfile, hlines, hat, hread, hrows⟩ := h cursor hcursor
  refine ⟨later, lines, rest ++ more, read, rfl, ?_, hat, hread, hrows⟩
  rw [hbytes, hfile, ← List.append_assoc, ← hlines]
  rfl

theorem Growing.withOutbox {channel : Channel} (h : Growing formats channel) {later : LedgerFile}
    (hextends : Extends channel.outbox later)
    : Growing formats { channel with outbox := some later } := by
  obtain ⟨more, hbytes, hclosed⟩ := hextends
  obtain ⟨text, htext⟩ := h.outbox
  refine ⟨h.sound.withOutbox _, h.history, h.receipts, ⟨text ++ more, ?_⟩, hclosed,
    h.synced.grow hbytes, h.unread, h.tallied⟩
  show later.bytes = _
  rw [hbytes, htext, Text.utf8Bytes_append]

theorem Growing.appendReceipt {channel : Channel} (h : Growing formats channel)
    (receipt : ChannelDeliveryReceipt) (modifiedAtUnixNanos : Nat)
    : Growing formats (channel.appendReceipt formats receipt modifiedAtUnixNanos) := by
  refine ⟨h.sound.appendReceipt receipt modifiedAtUnixNanos, h.history, ?_, h.outbox, h.closed,
    h.synced, h.unread, h.tallied⟩
  obtain ⟨more, hbytes, _⟩ := extends_appendLine h.sound.closed (formats.renderReceipt receipt)
    modifiedAtUnixNanos
  obtain ⟨text, htext⟩ := h.receipts
  refine ⟨text ++ more, ?_⟩
  show (Channel.appendLine _ _ _).bytes = _
  rw [hbytes, htext, Text.utf8Bytes_append]

theorem Growing.sameOutbox {channel : Channel} (h : Growing formats channel) {index : Index}
    (hsound : Sound formats { channel with index }) (hsame : SameOutbox channel.index index)
    : Growing formats { channel with index } := by
  refine ⟨hsound, h.history, h.receipts, h.outbox, h.closed, ?_, ?_, ?_⟩
  . intro cursor hcursor
    rw [hsame.outboxCursor] at hcursor
    obtain ⟨file, lines, rest, read, hfile, hlines, hat, hread, hrows⟩ := h.synced cursor hcursor
    exact ⟨file, lines, rest, read, hfile, hlines, hat, hread, hsame.outbox.trans hrows⟩
  . intro hcursor
    rw [hsame.outboxCursor] at hcursor
    rw [hsame.outbox]
    exact h.unread hcursor
  . constructor
    . rw [hsame.outboxTotalLines, hsame.outbox]
      exact h.tallied.total
    . unfold Index.deliveries
      rw [hsame.outboxInvalidLines, hsame.outbox]
      exact h.tallied.valid

theorem Growing.refreshReceipts {channel : Channel} (h : Growing formats channel)
    : Growing formats (channel.refreshReceipts formats).1 := by
  have hsound := h.sound.refreshReceipts
  unfold Channel.refreshReceipts at hsound ⊢
  split at hsound
  . exact h
  . next index hrun => exact h.sameOutbox hsound (sameOutbox_refreshReceiptIndexLocked hrun)

theorem Growing.refreshOutboxIndexLocked {channel : Channel} (h : Growing formats channel)
    {read : Read} (hread : readWhole formats (ledgerBytes channel.outbox) = .ok read)
    : ((∃ later, channel.index.refreshOutboxIndexLocked formats channel.outbox = .ok later)
        ↔ (read.lines.filterMap (idOf formats)).Nodup)
      ∧ ∀ later, channel.index.refreshOutboxIndexLocked formats channel.outbox = .ok later
        → later.outbox = read.lines.map (rowFor formats)
          ∧ Growing formats { channel with index := later } := by
  have hsound : ∀ later, channel.index.refreshOutboxIndexLocked formats channel.outbox = .ok later
      → Sound formats { channel with index := later } := by
    intro later hrun
    have hlater := h.sound.refreshOutbox
    rw [(@refreshOutbox_eq_ok formats _ _ ()).mpr ⟨later, hrun, rfl⟩] at hlater
    exact hlater
  have hsynced := h.synced
  cases houtbox : channel.outbox with
  | none =>
    rw [houtbox] at hread hsynced
    obtain rfl := Except.ok.inj hread
    have hcursor : channel.index.outboxCursor = none := by
      cases hcursor : channel.index.outboxCursor with
      | none => rfl
      | some cursor =>
        obtain ⟨_, _, _, _, hfile, _⟩ := hsynced cursor hcursor
        cases hfile
    have hrun : channel.index.refreshOutboxIndexLocked formats none = .ok channel.index := by
      unfold Index.refreshOutboxIndexLocked Index.outboxHasRows
      rw [hcursor, h.unread hcursor]
      rfl
    rw [hrun]
    constructor
    . constructor
      . intro _
        exact List.nodup_nil
      . intro _
        exact ⟨channel.index, rfl⟩
    . intro later hlater
      obtain rfl := Except.ok.inj hlater
      rw [← houtbox]
      exact ⟨h.unread hcursor, h⟩
  | some file =>
    have hclosed := h.closed
    rw [houtbox] at hread hsynced hclosed
    have hwhole : WholeLines formats file.bytes file.bytes := wholeLines_of_closed formats hclosed
    constructor
    . exact refreshOutboxIndexLocked_isOk h.sound.indexed hsynced hwhole hread
    . intro later hrun
      obtain ⟨read', hread', hrows, ⟨next, hnext, hat⟩, htallied⟩ :=
        refreshOutboxIndexLocked_rows h.sound.indexed hsynced hwhole hrun
      obtain rfl := Except.ok.inj (hread.symm.trans hread')
      refine ⟨hrows, ?_⟩
      rw [← houtbox] at hrun ⊢
      refine ⟨hsound later hrun, h.history, h.receipts, h.outbox, h.closed, ?_, ?_,
        htallied h.tallied⟩
      . intro cursor hcursor
        change later.outboxCursor = some cursor at hcursor
        rw [hnext] at hcursor
        obtain rfl := Option.some.inj hcursor
        exact ⟨file, file.bytes, [], read, houtbox, (List.append_nil _).symm, hat, hread, hrows⟩
      . intro hcursor
        change later.outboxCursor = none at hcursor
        rw [hnext] at hcursor
        cases hcursor

theorem Growing.exists_read {channel : Channel} (h : Growing formats channel)
    : ∃ read, readWhole formats (ledgerBytes channel.outbox) = .ok read := by
  obtain ⟨text, htext⟩ := h.outbox
  have hclosed := h.closed
  rw [htext] at hclosed ⊢
  exact readWhole_isOk formats hclosed

theorem Growing.refreshOutbox {channel : Channel} (h : Growing formats channel)
    : Growing formats (channel.refreshOutbox formats).1 := by
  obtain ⟨read, hread⟩ := h.exists_read
  unfold Channel.refreshOutbox
  split
  . exact h
  . next later hrun => exact ((h.refreshOutboxIndexLocked hread).2 later hrun).2

def Grows (channel : Channel) : Action → Prop
  | .writeOutbox file => ∃ later, file = some later ∧ Extends channel.outbox later
  | _ => True

theorem Growing.step {channel : Channel} (h : Growing formats channel) {action : Action}
    (hgrows : Grows channel action)
    : Growing formats (channel.step formats action) := by
  have hplan : ∀ outboxBusy receiptsBusy, Growing formats
      (channel.refreshChannelDeliveryIndexNonblocking formats outboxBusy receiptsBusy).1 := by
    intro outboxBusy receiptsBusy
    have hfirst : Growing formats
        (if outboxBusy then ((channel, .ok ()) : Outcome Channel Unit)
          else channel.refreshOutbox formats).1 := by
      split
      . exact h
      . exact h.refreshOutbox
    apply Outcome.andThen_fst (Growing formats) hfirst
    intro _ _
    split
    . exact hfirst
    . exact hfirst.refreshReceipts
  cases action with
  | writeOutbox file =>
    obtain ⟨later, rfl, hextends⟩ := hgrows
    exact h.withOutbox hextends
  | appendOutbox message drawnDeliveryId modifiedAtUnixNanos =>
    apply Outcome.andThen_fst (Growing formats) h.refreshOutbox
    intro _ _
    dsimp only
    split
    . split
      . exact h.refreshOutbox
      . exact h.refreshOutbox
    . exact (h.refreshOutbox.withOutbox (extends_appendLine h.refreshOutbox.closed _ _)).refreshOutbox
  | record receipt modifiedAtUnixNanos =>
    apply Outcome.andThen_fst (Growing formats) h.refreshReceipts
    intro _ _
    exact (h.refreshReceipts.appendReceipt receipt modifiedAtUnixNanos).refreshReceipts
  | recordDeferred receipt modifiedAtUnixNanos =>
    apply Outcome.andThen_fst (Growing formats) h.refreshReceipts
    intro _ _
    exact h.refreshReceipts.appendReceipt receipt modifiedAtUnixNanos
  | plan platform limit outboxBusy receiptsBusy =>
    apply Outcome.andThen_fst (Growing formats) (hplan outboxBusy receiptsBusy)
    intro _ _
    exact hplan outboxBusy receiptsBusy

end

theorem growing_empty (formats : Formats) : Growing formats {} where
  sound := ⟨indexed_empty, closed_nil, receiptsSynced_of_none rfl⟩
  history := rfl
  receipts := ⟨"", rfl⟩
  outbox := ⟨"", rfl⟩
  closed := closed_nil
  synced := by
    intro cursor hcursor
    cases hcursor
  unread _ := rfl
  tallied := ⟨rfl, rfl⟩

/-
What a plan should make of the lines of the outbox: each line that is a message and whose identity no
earlier line has is in the index under that identity, the index has the receipts of the ledger, and
the plan hands out the deliveries that these leave open, in the order of the lines.
-/
structure LinesPlanned (formats : Formats) (lines : List (Nat × String)) (platform : Option String)
    (limit : Nat) (later : Channel) (plan : ChannelDeliveryIndexedPlan)
    : Prop where
  indexed : ∀ before line after message, lines = before ++ line :: after
    → formats.message line.2 = .ok message
    → deliveryIdForOutboxMessage line.1 line.2 message ∉ before.filterMap (idOf formats)
    → OutboxRow.ofMessage line.1 line.2 message ∈ later.index.outbox
  receipts : ReceiptsAt formats later.history (ledgerBytes later.receipts) later.index
  planned : plan.pending.map (·.deliveryId)
    = ((openDeliveries later.index platform
        (lines.filterMap fun line => (rowFor formats line).delivery?)).map (·.deliveryId)).take
        limit

section

variable {formats : Formats} {channel : Channel} (h : Growing formats channel) {read : Read}
  (hread : readWhole formats (ledgerBytes channel.outbox) = .ok read)
include h hread

theorem Growing.nodup_of_plan {platform : Option String} {limit : Nat} {later : Channel}
    {plan : ChannelDeliveryIndexedPlan}
    (hplan : channel.planChannelOutboxIndex formats platform limit false false
      = (later, .ok plan))
    : (read.lines.filterMap (idOf formats)).Nodup := by
  obtain ⟨_, _, hrefresh, _⟩ := Outcome.andThen_eq_ok.mp hplan
  obtain ⟨first, _, _, hfirst, _⟩ := refreshNonblocking_eq_ok hrefresh
  exact (h.refreshOutboxIndexLocked hread).1.mp ⟨first, hfirst⟩

theorem Growing.linesPlanned (hnodup : (read.lines.filterMap (idOf formats)).Nodup)
    (platform : Option String) (limit : Nat)
    : ∃ later plan, channel.planChannelOutboxIndex formats platform limit false false
          = (later, .ok plan)
        ∧ LinesPlanned formats read.lines platform limit later plan := by
  obtain ⟨hisOk, hrefreshed⟩ := h.refreshOutboxIndexLocked hread
  obtain ⟨first, hfirst⟩ := hisOk.mpr hnodup
  obtain ⟨hrows, hgrowing⟩ := hrefreshed first hfirst
  obtain ⟨text, htext⟩ := hgrowing.receipts
  have hwhole := wholeLines_of_closed formats hgrowing.sound.closed
  have hreceiptsRead : ∃ all, readWhole formats (ledgerBytes channel.receipts) = .ok all := by
    have hclosed := hgrowing.sound.closed
    rw [htext] at hclosed
    rw [show ledgerBytes channel.receipts = Text.utf8Bytes text from htext]
    exact readWhole_isOk formats hclosed
  obtain ⟨all, hall⟩ := hreceiptsRead
  obtain ⟨index, hindex⟩ := @refreshReceiptIndexLocked_isOk formats _ h.history false _ _ _
    hwhole hgrowing.sound.synced _ hall
  have hsame := sameOutbox_refreshReceiptIndexLocked hindex
  have hfirst : channel.refreshOutbox formats = ({ channel with index := first }, .ok ()) :=
    refreshOutbox_eq_ok.mpr ⟨first, hfirst, rfl⟩
  have hsecond : ({ channel with index := first } : Channel).refreshReceipts formats
      = ({ channel with index }, .ok ()) :=
    refreshReceipts_eq_ok.mpr ⟨index, hindex, rfl⟩
  have hgrown := hgrowing.refreshReceipts
  rw [hsecond] at hgrown
  have hcoherent := hgrown.sound.indexed.coherent
  obtain ⟨plan, hplan⟩ :=
    hcoherent.planOf_isOk hgrown.tallied channel.outbox.isSome platform limit
  refine ⟨{ channel with index }, plan, ?_, ?_⟩
  . unfold Channel.planChannelOutboxIndex Channel.refreshChannelDeliveryIndexNonblocking
    simp only [Bool.false_eq_true, ↓reduceIte, hfirst, Outcome.andThen_ok, hsecond]
    rw [Prod.mk.injEq]
    exact ⟨rfl, hplan⟩
  . have houtbox : index.outbox = read.lines.map (rowFor formats) := hsame.outbox.trans hrows
    constructor
    . intro before line after message hlines hmessage _
      rw [← rowFor_of_message hmessage]
      show rowFor formats line ∈ index.outbox
      rw [houtbox, hlines]
      exact List.mem_map_of_mem (List.mem_append_right _ List.mem_cons_self)
    . exact (refreshReceiptIndexLocked_receipts hgrowing.sound.indexed hwhole
        hgrowing.sound.synced hindex).1
    . have hdeliveries : index.deliveries
          = read.lines.filterMap fun line => (rowFor formats line).delivery? := by
        unfold Index.deliveries
        rw [houtbox, List.filterMap_map]
        rfl
      rw [planOf_pending hplan, hcoherent.readPendingDeliveries_ids, hdeliveries]

end

theorem growing_run {formats : Formats} {actions : List Action}
    (h : Run.Guarded (Channel.step formats) Grows {} actions)
    : Growing formats (({} : Channel).run formats actions) := by
  apply Run.exec_invariant_of_guarded (Growing formats) _ (growing_empty formats) h
  intro channel action h hgrows
  exact h.step hgrows

/-
However the outbox got its lines and whatever was planned and recorded before: with both ledgers free
the outbox is planned, every line of it, exactly when no two of its lines claim one identity.
-/
theorem planned_iff_distinct (formats : Formats) (actions : List Action)
    (hgrows : Run.Guarded (Channel.step formats) Grows {} actions) (platform : Option String)
    (limit : Nat)
    : ∃ read,
        readWhole formats (ledgerBytes (({} : Channel).run formats actions).outbox) = .ok read
        ∧ ((∃ later plan, (({} : Channel).run formats actions).planChannelOutboxIndex formats
                platform limit false false = (later, .ok plan)
              ∧ LinesPlanned formats read.lines platform limit later plan)
            ↔ (read.lines.filterMap (idOf formats)).Nodup) := by
  have h := growing_run hgrows
  obtain ⟨read, hread⟩ := h.exists_read
  refine ⟨read, hread, ?_⟩
  constructor
  . rintro ⟨later, plan, hplan, _⟩
    exact h.nodup_of_plan hread hplan
  . intro hnodup
    exact h.linesPlanned hread hnodup platform limit

def writtenLines (lines : List String) : List Action :=
  [.writeOutbox (some {
    bytes := (lines.map lineBytes).flatten
    modifiedAtUnixNanos := 0 })]

theorem flatten_lineBytes (lines : List String)
    : ∃ text, (lines.map lineBytes).flatten = Text.utf8Bytes text
        ∧ Closed (lines.map lineBytes).flatten := by
  induction lines with
  | nil => exact ⟨"", rfl, closed_nil⟩
  | cons line lines ih =>
    obtain ⟨text, htext, hclosed⟩ := ih
    refine ⟨line ++ "\n" ++ text, ?_, ?_⟩
    . rw [List.map_cons, List.flatten_cons, htext, Text.utf8Bytes_append,
        Text.utf8Bytes_append, TextFile.utf8Bytes_newline]
      rfl
    . rw [List.map_cons, List.flatten_cons]
      exact (closed_lineBytes line).append hclosed

theorem ledgerBytes_written (formats : Formats) (lines : List String)
    : ledgerBytes (({} : Channel).run formats (writtenLines lines)).outbox
        = (lines.map lineBytes).flatten := rfl

theorem guarded_writtenLines (formats : Formats) (lines : List String)
    : Run.Guarded (Channel.step formats) Grows {} (writtenLines lines) := by
  obtain ⟨text, htext, hclosed⟩ := flatten_lineBytes lines
  exact ⟨⟨_, rfl, text, htext, hclosed⟩, trivial⟩

theorem readLines_flatten (formats : Formats) {lines : List String}
    (hlines : ∀ line ∈ lines, OneLine line) (offsetBytes lineNumber : Nat)
    : ∃ read, readLines formats offsetBytes lineNumber (rawLines (lines.map lineBytes).flatten)
          = .ok read
        ∧ read.lines = (lines.zipIdx (lineNumber + 1)).map Prod.swap := by
  induction lines generalizing offsetBytes lineNumber with
  | nil => exact ⟨_, rfl, rfl⟩
  | cons line lines ih =>
    rw [List.forall_mem_cons] at hlines
    rw [List.map_cons, List.flatten_cons, rawLines_append (closed_lineBytes line)]
    have hfirst := readLines_lineBytes formats hlines.1 offsetBytes lineNumber
    obtain ⟨second, hsecond, hrest⟩ :=
      ih hlines.2 (offsetBytes + (lineBytes line).length) (lineNumber + 1)
    refine ⟨_, (readLines_append_eq_ok (complete_of_closed (closed_lineBytes line))).mpr
      ⟨_, second, hfirst, hsecond, rfl⟩, ?_⟩
    unfold Read.andThen
    rw [hrest, List.zipIdx_cons]
    rfl

section

variable {formats : Formats} {line : String} {message : ChannelOutboundMessage} {id : String}

theorem idOf_of_valid (hmessage : formats.message line = .ok message)
    (hid : validChannelOutboundDeliveryId message = some id) (lineNumber : Nat)
    : idOf formats (lineNumber, line) = some id := by
  unfold idOf
  rw [@rowFor_of_message formats (lineNumber, line) message hmessage]
  show some ((validChannelOutboundDeliveryId message).getD _) = _
  rw [hid, Option.getD_some]

theorem refused_of_repeated (hline : OneLine line) (hmessage : formats.message line = .ok message)
    (hid : validChannelOutboundDeliveryId message = some id) (platform : Option String)
    (limit : Nat) (later : Channel) (plan : ChannelDeliveryIndexedPlan)
    : (({} : Channel).run formats (writtenLines [line, line])).planChannelOutboxIndex formats
        platform limit false false ≠ (later, .ok plan) := by
  intro hplan
  have hgrowing := growing_run (guarded_writtenLines formats [line, line])
  obtain ⟨read, hread, hlines⟩ := @readLines_flatten formats [line, line] (by simp [hline]) 0 0
  have hnodup := hgrowing.nodup_of_plan hread hplan
  rw [hlines] at hnodup
  simp [List.zipIdx_cons, idOf_of_valid hmessage hid] at hnodup

end

def otherFields : String :=
  "\"platform\":\"\",\"channelId\":\"\",\"userId\":\"\",\"sessionKey\":\"\",\"deliveryId\":"
    ++ "\"delivery:v2:ffeeddccbbaa99887766554433221100\",\"kind\":\"agent-reply\",\"text\":\"\""

def pairFormats : Formats :=
  { sampleFormats with
    message line := if line = "\x7b" ++ otherFields ++ "\x7d"
      then .ok { sampleMessage with deliveryId := some "delivery:v2:ffeeddccbbaa99887766554433221100" }
      else sampleFormats.message line }

-- the second line is no message
def pairLines : List String :=
  [sampleMessageFields, sampleReceiptFields, otherFields].map ("\x7b" ++ · ++ "\x7d")

theorem sampleMessage_planned
    : ∃ later plan, (({} : Channel).run pairFormats (writtenLines pairLines)).planChannelOutboxIndex
          pairFormats none 1 false false = (later, .ok plan)
        ∧ LinesPlanned pairFormats ((pairLines.zipIdx 1).map Prod.swap) none 1 later plan := by
  obtain ⟨read, hread, hplanned⟩ := planned_iff_distinct pairFormats _
    (guarded_writtenLines pairFormats pairLines) none 1
  have hother : '\n' ∉ otherFields.toList := Text.newline_not_mem (by decide +kernel)
  have hone : ∀ line ∈ pairLines, OneLine line := by
    simp [pairLines, oneLine_object sampleFields_plain.1, oneLine_object sampleFields_plain.2,
      oneLine_object hother]
  obtain ⟨read', hread', hlines⟩ := @readLines_flatten pairFormats pairLines hone 0 0
  rw [ledgerBytes_written, readWhole, hread'] at hread
  obtain rfl := Except.ok.inj hread
  rw [hlines] at hplanned
  apply hplanned.mpr
  decide +kernel

theorem sampleMessage_refused
    : Run.Guarded (Channel.step sampleFormats) Grows {}
          (writtenLines ["\x7b" ++ sampleMessageFields ++ "\x7d",
            "\x7b" ++ sampleMessageFields ++ "\x7d"])
        ∧ ∀ later plan, (({} : Channel).run sampleFormats
          (writtenLines ["\x7b" ++ sampleMessageFields ++ "\x7d",
            "\x7b" ++ sampleMessageFields ++ "\x7d"])).planChannelOutboxIndex
          sampleFormats none 1 false false ≠ (later, .ok plan) := by
  refine ⟨guarded_writtenLines sampleFormats _, ?_⟩
  intro later plan
  apply refused_of_repeated
  . exact oneLine_object sampleFields_plain.1
  . exact sampleFormats_message
  . exact sampleDeliveryId_valid

end ChannelDelivery
