import AgentHarness.ChannelDelivery.Lemmas.Rows

/-!
The counters of the platforms against the tables they summarise, and the state of a delivery against
the receipts that were applied to it.
-/

namespace ChannelDelivery

def summarize (dispositions : List DeliveryDisposition) : PlatformSummary where
  validOutboxCount := dispositions.length
  pending := dispositions.count .pending
  delivered := dispositions.count .delivered
  failedRetryable := dispositions.countP fun disposition =>
    disposition = .failed true || disposition = .failed false
  skippedPermanent := dispositions.count .skippedPermanent
  partialFailed := dispositions.count (.failed true)

theorem summarize_concat (dispositions : List DeliveryDisposition)
    (disposition : DeliveryDisposition)
    : summarize (dispositions ++ [disposition])
        = { summarize dispositions with
            validOutboxCount := (summarize dispositions).validOutboxCount + 1 }.adjust
              disposition 1 := by
  unfold summarize PlatformSummary.adjust
  cases disposition with
  | pending => simp [List.count_append, List.countP_append]
  | delivered => simp [List.count_append, List.countP_append]
  | failed isPartial =>
    cases isPartial with
    | true => simp [List.count_append, List.countP_append]
    | false => simp [List.count_append, List.countP_append]
  | skippedPermanent => simp [List.count_append, List.countP_append]

attribute [local simp] Int.add_neg_cancel_right in
theorem adjust_back (summary : PlatformSummary) (disposition : DeliveryDisposition)
    : (summary.adjust disposition 1).adjust disposition (-1) = summary := by
  unfold PlatformSummary.adjust
  cases disposition with
  | pending => simp
  | delivered => simp
  | failed isPartial =>
    cases isPartial with
    | true => simp
    | false => simp
  | skippedPermanent => simp

theorem summarize_perm {left right : List DeliveryDisposition} (h : left.Perm right)
    : summarize left = summarize right := by
  unfold summarize
  rw [h.length_eq, h.count_eq, h.count_eq, h.count_eq, h.count_eq, h.countP_eq]

theorem summarize_replace (first rest : List DeliveryDisposition)
    (before after : DeliveryDisposition)
    : summarize (first ++ after :: rest)
        = ((summarize (first ++ before :: rest)).adjust before (-1)).adjust after 1 := by
  have hmove : ∀ disposition,
      summarize (first ++ disposition :: rest) = summarize (first ++ rest ++ [disposition]) := by
    intro disposition
    apply summarize_perm
    calc (first ++ disposition :: rest).Perm (disposition :: (first ++ rest)) :=
          List.perm_middle
      _ |>.Perm (first ++ rest ++ [disposition]) := (List.perm_append_singleton _ _).symm
  rw [hmove, hmove, summarize_concat, summarize_concat, adjust_back]

theorem summarize_sum (dispositions : List DeliveryDisposition)
    : (summarize dispositions).pending + (summarize dispositions).delivered
        + (summarize dispositions).failedRetryable + (summarize dispositions).skippedPermanent
        = (summarize dispositions).validOutboxCount := by
  induction dispositions using List.reverseRecOn with
  | nil => rfl
  | append_singleton dispositions disposition ih =>
    rw [summarize_concat]
    generalize summarize dispositions = summary at ih
    unfold PlatformSummary.adjust
    cases disposition with
    | pending =>
      dsimp only
      omega
    | delivered =>
      dsimp only
      omega
    | failed isPartial =>
      dsimp only
      omega
    | skippedPermanent =>
      dsimp only
      omega

def Index.dispositionOf (self : Index) (delivery : OutboxDelivery) : DeliveryDisposition :=
  deliveryDisposition (self.states.lookup delivery.deliveryId)

def Index.dispositionsOf (self : Index) (platform : String) : List DeliveryDisposition :=
  (self.deliveries.filter fun delivery => delivery.message.platform = platform).map
    self.dispositionOf

def stateOf (receipts : List ChannelDeliveryReceipt) : Option DeliveryStateRow :=
  receipts.foldl (fun state receipt => some (nextDeliveryState state receipt)) none

theorem stateOf_concat (receipts : List ChannelDeliveryReceipt) (receipt : ChannelDeliveryReceipt)
    : stateOf (receipts ++ [receipt]) = some (nextDeliveryState (stateOf receipts) receipt) := by
  simp [stateOf]

def Index.receiptsOf (self : Index) (deliveryId : String) : List ChannelDeliveryReceipt :=
  (self.receiptRecords.filter fun record => record.deliveryId = deliveryId).map (·.receipt)

/-
The tables hold together: the rows have their identities, every state comes from the receipts under
its identity, a receipt goes to the delivery that it names, and the counters are those of the rows.
-/
structure Coherent (index : Index) (lastLine : Nat) : Prop where
  rows : RowsOk index.outbox lastLine
  states : ∀ deliveryId, index.states.lookup deliveryId = stateOf (index.receiptsOf deliveryId)
  named : ∀ record ∈ index.receiptRecords, record.deliveryId = record.receipt.deliveryId
    ∨ ∃ delivery ∈ index.deliveries, delivery.deliveryId = record.deliveryId
      ∧ delivery.legacyDeliveryId = record.receipt.deliveryId
  counters : ∀ platform, index.summaryOf platform = summarize (index.dispositionsOf platform)

@[simp]
theorem summaryOf_updateSummary (index : Index) (platform other : String)
    (update : PlatformSummary → PlatformSummary)
    : (index.updateSummary platform update).summaryOf other
        = if other = platform then update (index.summaryOf platform)
          else index.summaryOf other := by
  unfold Index.updateSummary Index.summaryOf
  rw [FMap.lookup_insert_eq]
  split
  . rfl
  . rfl

theorem dispositionsOf_congr {left right : Index} (houtbox : left.outbox = right.outbox)
    (hstates : left.states = right.states) (platform : String)
    : left.dispositionsOf platform = right.dispositionsOf platform := by
  unfold Index.dispositionsOf Index.deliveries Index.dispositionOf
  rw [houtbox, hstates]

theorem resetPlatformDeliveryCounts_summaryOf (index : Index) (platform : String)
    : index.resetPlatformDeliveryCounts.summaryOf platform
        = { validOutboxCount := (index.summaryOf platform).validOutboxCount
            pending := (index.summaryOf platform).validOutboxCount } := by
  let reset (summary : PlatformSummary) : PlatformSummary :=
    { validOutboxCount := summary.validOutboxCount, pending := summary.validOutboxCount }
  have hlookup : index.resetPlatformDeliveryCounts.platformSummary.lookup platform
      = (index.platformSummary.lookup platform).map reset :=
    @List.dlookup_map₂ _ _ _ _ index.platformSummary.entries (fun _ => reset) platform
  unfold Index.summaryOf
  rw [hlookup]
  cases index.platformSummary.lookup platform with
  | none => rfl
  | some summary => rfl

theorem Coherent.congr {left right : Index} {lastLine : Nat} (h : Coherent left lastLine)
    (houtbox : right.outbox = left.outbox) (hstates : right.states = left.states)
    (hrecords : right.receiptRecords = left.receiptRecords)
    (hsummary : right.platformSummary = left.platformSummary)
    : Coherent right lastLine where
  rows := by
    rw [houtbox]
    exact h.rows
  states := by
    unfold Index.receiptsOf
    rw [hstates, hrecords]
    exact h.states
  named := by
    unfold Index.deliveries
    rw [houtbox, hrecords]
    exact h.named
  counters platform := by
    rw [dispositionsOf_congr houtbox hstates]
    unfold Index.summaryOf
    rw [hsummary]
    exact h.counters platform

def Numbered (start last : Nat) : List (Nat × String) → Prop
  | [] => start ≤ last
  | line :: rest => start < line.1 ∧ Numbered line.1 last rest

theorem Numbered.of_le {start earlier last : Nat} {lines : List (Nat × String)}
    (h : Numbered start last lines) (hle : earlier ≤ start)
    : Numbered earlier last lines := by
  cases lines with
  | nil => exact le_trans hle h
  | cons line rest => exact ⟨Nat.lt_of_le_of_lt hle h.1, h.2⟩

theorem readLines_numbered (formats : Formats) (raws : List (List UInt8))
    (offsetBytes lineNumber : Nat) {read : Read}
    (h : readLines formats offsetBytes lineNumber raws = .ok read)
    : Numbered lineNumber read.lineNumber read.lines := by
  induction raws generalizing offsetBytes lineNumber read with
  | nil =>
    obtain rfl := Except.ok.inj h
    exact le_refl _
  | cons raw rest ih =>
    unfold readLines at h
    obtain ⟨line, _, h⟩ := Except.bind_eq_ok.mp h
    dsimp only at h
    split at h
    . obtain rfl := Except.ok.inj h
      exact le_refl _
    . obtain ⟨tail, htail, h⟩ := Except.bind_eq_ok.mp h
      obtain rfl := Except.ok.inj h
      have htail := ih _ _ htail
      split
      . exact htail.of_le (Nat.le_succ _)
      . exact ⟨Nat.lt_succ_self _, htail⟩

def OutboxRow.ofMessage (lineNumber : Nat) (rawLine : String) (message : ChannelOutboundMessage)
    : OutboxRow where
  lineNumber
  content := .delivery (deliveryOf lineNumber rawLine message)

def Index.withRow (self : Index) (lineNumber : Nat) (rawLine : String)
    (message : ChannelOutboundMessage)
    : Index :=
  let placed := { self with
    outbox := Index.placeRow self.outbox (.ofMessage lineNumber rawLine message) }
  let counted := placed.updateSummary message.platform fun summary =>
    { summary with validOutboxCount := summary.validOutboxCount + 1 }
  counted.adjustPlatformSummary message.platform
    (self.dispositionOf (deliveryOf lineNumber rawLine message)) 1

theorem insertOutboxMessage_eq_ok {index later : Index} {lineNumber : Nat} {rawLine : String}
    {message : ChannelOutboundMessage}
    : index.insertOutboxMessage lineNumber rawLine message = .ok later
        ↔ Index.clashes index.outbox lineNumber (deliveryOf lineNumber rawLine message) = false
          ∧ later = index.withRow lineNumber rawLine message := by
  have hinsert : index.insertOutboxMessage lineNumber rawLine message
      = if Index.clashes index.outbox lineNumber (deliveryOf lineNumber rawLine message) then
          .error (sqlError "UNIQUE constraint failed")
        else
          .ok (index.withRow lineNumber rawLine message) := rfl
  rw [hinsert]
  split
  . next hclash => simp [hclash]
  . next hclash =>
    rw [Except.ok.injEq]
    simp only [hclash, true_and]
    exact eq_comm

section

variable {index : Index} {lastLine : Nat} (h : Coherent index lastLine)
include h

theorem Coherent.parseError {lineNumber : Nat} (hline : lastLine < lineNumber) (error : String)
    : Coherent { index with
        outbox := Index.placeRow index.outbox { lineNumber, content := .parseError error } }
        lineNumber := by
  have hplace : Index.placeRow index.outbox { lineNumber, content := .parseError error }
      = index.outbox ++ [{ lineNumber, content := .parseError error }] := h.rows.placeRow hline
  have hdeliveries : ({ index with
      outbox := Index.placeRow index.outbox { lineNumber, content := .parseError error } }
        : Index).deliveries = index.deliveries := by
    unfold Index.deliveries
    rw [hplace, List.filterMap_append]
    exact List.append_nil _
  constructor
  . rw [hplace]
    exact h.rows.parseError hline error
  . exact h.states
  . rw [hdeliveries]
    exact h.named
  . intro platform
    unfold Index.dispositionsOf
    rw [hdeliveries]
    exact h.counters platform

theorem Coherent.delivery {lineNumber : Nat} (hline : lastLine < lineNumber) {rawLine : String}
    {message : ChannelOutboundMessage} {later : Index}
    (hinsert : index.insertOutboxMessage lineNumber rawLine message = .ok later)
    : Coherent later lineNumber := by
  obtain ⟨hclash, rfl⟩ := insertOutboxMessage_eq_ok.mp hinsert
  have houtbox : (index.withRow lineNumber rawLine message).outbox
      = index.outbox ++ [.ofMessage lineNumber rawLine message] := h.rows.placeRow hline
  have hdeliveries : (index.withRow lineNumber rawLine message).deliveries
      = index.deliveries ++ [deliveryOf lineNumber rawLine message] := by
    unfold Index.deliveries
    rw [houtbox, List.filterMap_append]
    rfl
  constructor
  . rw [houtbox]
    exact h.rows.delivery hline hclash
  . exact h.states
  . rw [hdeliveries]
    intro record hrecord
    cases h.named record hrecord with
    | inl hself => exact .inl hself
    | inr hlegacy =>
      obtain ⟨delivery, hdelivery, hnames⟩ := hlegacy
      exact .inr ⟨delivery, List.mem_append_left _ hdelivery, hnames⟩
  . intro platform
    have hsummary : (index.withRow lineNumber rawLine message).summaryOf platform
        = if platform = message.platform then
            { index.summaryOf platform with
              validOutboxCount := (index.summaryOf platform).validOutboxCount + 1 }.adjust
                (index.dispositionOf (deliveryOf lineNumber rawLine message)) 1
          else index.summaryOf platform := by
      unfold Index.withRow Index.adjustPlatformSummary
      simp only [summaryOf_updateSummary]
      split
      . next hplatform =>
        rw [hplatform]
        rfl
      . rfl
    have hdispositions : (index.withRow lineNumber rawLine message).dispositionsOf platform
        = index.dispositionsOf platform
          ++ if platform = message.platform then
              [index.dispositionOf (deliveryOf lineNumber rawLine message)]
            else [] := by
      unfold Index.dispositionsOf
      rw [hdeliveries, List.filter_append, List.map_append]
      congr 1
      split
      . next hplatform =>
        rw [List.filter_singleton, hplatform]
        simp only [deliveryOf, decide_true, cond_true]
        rfl
      . next hplatform => simp [deliveryOf, Ne.symm hplatform]
    rw [hsummary, hdispositions, h.counters platform]
    split
    . rw [summarize_concat]
    . rw [List.append_nil]

theorem Coherent.indexOutboxLine {formats : Formats} {line : Nat × String}
    (hline : lastLine < line.1) {later : Index}
    (hindex : Index.indexOutboxLine formats index line = .ok later)
    : Coherent later line.1 := by
  unfold Index.indexOutboxLine at hindex
  split at hindex
  . next message _ =>
    obtain ⟨placed, hplaced, hlater⟩ := Except.bind_eq_ok.mp hindex
    obtain rfl := Except.ok.inj hlater
    exact (h.delivery hline hplaced).congr rfl rfl rfl rfl
  . next error _ =>
    obtain rfl := Except.ok.inj hindex
    exact (h.parseError hline error).congr rfl rfl rfl rfl

end

theorem Coherent.indexOutboxLines {formats : Formats} {lines : List (Nat × String)}
    {start last : Nat} (hlines : Numbered start last lines) {index later : Index}
    (h : Coherent index start)
    (hfold : lines.foldlM (Index.indexOutboxLine formats) index = .ok later)
    : Coherent later last := by
  induction lines generalizing index start with
  | nil =>
    obtain rfl := Except.ok.inj hfold
    exact { h with rows := h.rows.mono hlines }
  | cons line rest ih =>
    rw [List.foldlM_cons] at hfold
    obtain ⟨next, hnext, hfold⟩ := Except.bind_eq_ok.mp hfold
    exact ih hlines.2 (h.indexOutboxLine hlines.1 hnext) hfold

theorem insertReceiptHistoryRecord_of_fresh {index : Index} {record : ReceiptRecord}
    (hfresh : ∀ other ∈ index.receiptRecords,
      other.source = record.source → other.lineNumber < record.lineNumber)
    : (index.insertReceiptHistoryRecord record).receiptRecords
        = index.receiptRecords ++ [record] := by
  unfold Index.insertReceiptHistoryRecord
  dsimp only
  rw [List.filter_eq_self.mpr]
  intro other hother
  simp only [not_and, decide_eq_true_eq]
  intro hsource hline
  have := hfresh other hother hsource
  omega

def Index.received (self : Index) (receipt : ChannelDeliveryReceipt) : Index :=
  (self.applyDeliveryReceipt receipt).2

theorem received_eq (index : Index) (receipt : ChannelDeliveryReceipt)
    : index.received receipt = { index with
        states := index.states.insert (index.canonicalDeliveryId receipt.deliveryId)
          (nextDeliveryState
            (index.states.lookup (index.canonicalDeliveryId receipt.deliveryId)) receipt)
        platformSummary := (index.received receipt).platformSummary } := by
  unfold Index.received Index.applyDeliveryReceipt
  dsimp only
  cases index.rowOf (index.canonicalDeliveryId receipt.deliveryId) with
  | none => rfl
  | some delivery => rfl

-- `writeDeliveryState` leaves the counters alone
@[simp]
theorem summaryOf_writeDeliveryState (index : Index) (deliveryId platform : String)
    (state : DeliveryStateRow)
    : (index.writeDeliveryState deliveryId state).summaryOf platform
        = index.summaryOf platform := rfl

theorem summaryOf_received_of_none {index : Index} {receipt : ChannelDeliveryReceipt}
    (hrow : index.rowOf (index.canonicalDeliveryId receipt.deliveryId) = none) (platform : String)
    : (index.received receipt).summaryOf platform = index.summaryOf platform := by
  unfold Index.received Index.applyDeliveryReceipt
  simp only [hrow]
  rfl

theorem summaryOf_received_of_some {index : Index} {receipt : ChannelDeliveryReceipt}
    {delivery : OutboxDelivery}
    (hrow : index.rowOf (index.canonicalDeliveryId receipt.deliveryId) = some delivery)
    (hid : delivery.deliveryId = index.canonicalDeliveryId receipt.deliveryId) (platform : String)
    : (index.received receipt).summaryOf platform
        = if platform = delivery.message.platform then
            ((index.summaryOf platform).adjust (index.dispositionOf delivery) (-1)).adjust
              ((index.received receipt).dispositionOf delivery) 1
          else
            index.summaryOf platform := by
  have hafter : (index.received receipt).dispositionOf delivery
      = deliveryDisposition (some (nextDeliveryState
        (index.states.lookup (index.canonicalDeliveryId receipt.deliveryId)) receipt)) := by
    unfold Index.dispositionOf
    rw [received_eq, hid, AList.lookup_insert]
  rw [hafter]
  unfold Index.dispositionOf
  rw [hid]
  unfold Index.received Index.applyDeliveryReceipt
  simp only [hrow, Option.map_some, Index.adjustPlatformSummary, summaryOf_updateSummary,
    summaryOf_writeDeliveryState]
  split
  . next hplatform => rw [hplatform, if_pos trivial]
  . rfl

theorem dispositionOf_received {index : Index} {receipt : ChannelDeliveryReceipt}
    {delivery : OutboxDelivery}
    (hid : delivery.deliveryId ≠ index.canonicalDeliveryId receipt.deliveryId)
    : (index.received receipt).dispositionOf delivery = index.dispositionOf delivery := by
  unfold Index.dispositionOf
  rw [received_eq, AList.lookup_insert_ne hid]

theorem dispositionsOf_received {index : Index} {lastLine : Nat}
    (h : RowsOk index.outbox lastLine) {receipt : ChannelDeliveryReceipt}
    {delivery : OutboxDelivery} (hmem : delivery ∈ index.deliveries)
    (hid : delivery.deliveryId = index.canonicalDeliveryId receipt.deliveryId)
    : ∃ first rest,
        index.dispositionsOf delivery.message.platform
          = first ++ index.dispositionOf delivery :: rest
        ∧ (index.received receipt).dispositionsOf delivery.message.platform
          = first ++ (index.received receipt).dispositionOf delivery :: rest := by
  have hdeliveries : (index.received receipt).deliveries = index.deliveries := by
    unfold Index.deliveries
    rw [received_eq]
  have hfilter : delivery ∈ index.deliveries.filter
      fun other => other.message.platform = delivery.message.platform := by
    simp [hmem]
  obtain ⟨first, rest, hsplit⟩ := List.append_of_mem hfilter
  -- no other row of the platform has the identity
  have hothers : ∀ other ∈ first ++ rest,
      other.deliveryId ≠ index.canonicalDeliveryId receipt.deliveryId := by
    have hsublist : (index.deliveries.filter fun other =>
        other.message.platform = delivery.message.platform).Sublist index.deliveries :=
      List.filter_sublist
    have hnodup := h.unique.sublist (hsublist.map (·.deliveryId))
    rw [hsplit, (List.perm_middle.map _).nodup_iff, List.map_cons, List.nodup_cons] at hnodup
    intro other hother hsame
    apply hnodup.1
    rw [hid, ← hsame]
    exact List.mem_map_of_mem hother
  have hfirst : first.map (index.received receipt).dispositionOf
      = first.map index.dispositionOf := by
    apply List.map_congr_left
    intro other hother
    exact dispositionOf_received (hothers other (List.mem_append_left _ hother))
  have hrest : rest.map (index.received receipt).dispositionOf
      = rest.map index.dispositionOf := by
    apply List.map_congr_left
    intro other hother
    exact dispositionOf_received (hothers other (List.mem_append_right _ hother))
  refine ⟨first.map index.dispositionOf, rest.map index.dispositionOf, ?_, ?_⟩
  . unfold Index.dispositionsOf
    rw [hsplit, List.map_append, List.map_cons]
  . unfold Index.dispositionsOf
    rw [hdeliveries, hsplit, List.map_append, List.map_cons, hfirst, hrest]

theorem Coherent.counters_received {index : Index} {lastLine : Nat} (h : Coherent index lastLine)
    (receipt : ChannelDeliveryReceipt) (platform : String)
    : (index.received receipt).summaryOf platform
        = summarize ((index.received receipt).dispositionsOf platform) := by
  have hdeliveries : (index.received receipt).deliveries = index.deliveries := by
    unfold Index.deliveries
    rw [received_eq]
  -- the rows of the platform, when the receipt is for none of them
  have hsame : (∀ delivery ∈ index.deliveries, delivery.message.platform = platform
        → delivery.deliveryId ≠ index.canonicalDeliveryId receipt.deliveryId)
      → (index.received receipt).dispositionsOf platform = index.dispositionsOf platform := by
    intro hother
    unfold Index.dispositionsOf
    rw [hdeliveries]
    apply List.map_congr_left
    intro delivery hdelivery
    rw [List.mem_filter, decide_eq_true_eq] at hdelivery
    exact dispositionOf_received (hother delivery hdelivery.1 hdelivery.2)
  cases hrow : index.rowOf (index.canonicalDeliveryId receipt.deliveryId) with
  | none =>
    rw [summaryOf_received_of_none hrow, hsame, h.counters platform]
    intro delivery hdelivery _ hid
    rw [h.rows.rowOf_canonical.mpr ⟨hdelivery, hid⟩] at hrow
    cases hrow
  | some delivery =>
    obtain ⟨hmem, hid⟩ := h.rows.rowOf_canonical.mp hrow
    rw [summaryOf_received_of_some hrow hid]
    split
    . next hplatform =>
      obtain ⟨first, rest, hbefore, hafter⟩ := dispositionsOf_received h.rows hmem hid
      rw [hplatform, hafter, h.counters, hbefore, ← summarize_replace]
    . next hplatform =>
      rw [hsame, h.counters platform]
      intro other hother hplatformOther hidOther
      obtain rfl := h.rows.eq_of_deliveryId hother hmem (hidOther.trans hid.symm)
      exact hplatform hplatformOther.symm

def ReadUpTo (index : Index) (source : ReceiptSource) (lineNumber : Nat) : Prop :=
  ∀ record ∈ index.receiptRecords, record.source = source → record.lineNumber ≤ lineNumber

theorem receiptsOf_concat {index later : Index} {record : ReceiptRecord}
    (hrecords : later.receiptRecords = index.receiptRecords ++ [record]) (deliveryId : String)
    : later.receiptsOf deliveryId
        = index.receiptsOf deliveryId
          ++ if deliveryId = record.deliveryId then [record.receipt] else [] := by
  unfold Index.receiptsOf
  rw [hrecords, List.filter_append, List.map_append]
  congr 1
  split
  . next hid => simp [hid]
  . next hid => simp [Ne.symm hid]

def Index.recordOf (self : Index) (source : ReceiptSource) (line : Nat × String)
    (receipt : ChannelDeliveryReceipt)
    : ReceiptRecord where
  source
  lineNumber := line.1
  deliveryId := self.canonicalDeliveryId receipt.deliveryId
  receiptJson := line.2
  receipt

section

variable {formats : Formats} {index : Index} {source : ReceiptSource} {line : Nat × String}

theorem indexReceiptLine_of_error {error : String}
    (hparse : formats.receipt line.2 = .error error)
    : Index.indexReceiptLine formats source index line
        = index.insertReceiptError { source, lineNumber := line.1, parseError := error } := by
  unfold Index.indexReceiptLine
  rw [hparse]

theorem indexReceiptLine_of_ok {receipt : ChannelDeliveryReceipt}
    (hparse : formats.receipt line.2 = .ok receipt) {start : Nat}
    (hread : ReadUpTo index source start) (hline : start < line.1)
    : Index.indexReceiptLine formats source index line
        = { index.received receipt with
            receiptRecords := index.receiptRecords ++ [index.recordOf source line receipt] } := by
  have hindex : Index.indexReceiptLine formats source index line
      = (index.received receipt).insertReceiptHistoryRecord
          (index.recordOf source line receipt) := by
    unfold Index.indexReceiptLine
    rw [hparse]
    rfl
  have hkept : (index.received receipt).receiptRecords = index.receiptRecords := by
    rw [received_eq]
  rw [hindex, ← hkept]
  rw [← @insertReceiptHistoryRecord_of_fresh (index.received receipt)
    (index.recordOf source line receipt)]
  . rfl
  . rw [hkept]
    intro other hother hsource
    have := hread other hother hsource
    show other.lineNumber < line.1
    omega

theorem Coherent.indexReceiptLine {lastLine : Nat} (h : Coherent index lastLine) {start : Nat}
    (hread : ReadUpTo index source start) (hline : start < line.1)
    : Coherent (Index.indexReceiptLine formats source index line) lastLine := by
  cases hparse : formats.receipt line.2 with
  | error error =>
    rw [indexReceiptLine_of_error hparse]
    exact h.congr rfl rfl rfl rfl
  | ok receipt =>
    rw [indexReceiptLine_of_ok hparse hread hline]
    have houtbox : (index.received receipt).outbox = index.outbox := by
      rw [received_eq]
    constructor
    . rw [houtbox]
      exact h.rows
    . intro deliveryId
      rw [receiptsOf_concat rfl, received_eq, FMap.lookup_insert_eq]
      show _ = stateOf (_ ++ if deliveryId = index.canonicalDeliveryId receipt.deliveryId then
        [receipt] else [])
      split
      . next hid => rw [stateOf_concat, ← h.states, hid]
      . rw [List.append_nil, h.states]
    . unfold Index.deliveries
      rw [houtbox, List.forall_mem_append, List.forall_mem_singleton]
      refine ⟨h.named, ?_⟩
      show index.canonicalDeliveryId receipt.deliveryId = receipt.deliveryId
        ∨ ∃ delivery ∈ index.deliveries,
          delivery.deliveryId = index.canonicalDeliveryId receipt.deliveryId
            ∧ delivery.legacyDeliveryId = receipt.deliveryId
      cases hrow : index.rowOf receipt.deliveryId with
      | none =>
        unfold Index.canonicalDeliveryId
        rw [hrow]
        exact .inl rfl
      | some delivery =>
        obtain ⟨hmem, hid⟩ := h.rows.rowOf_eq_some.mp hrow
        rw [h.rows.canonicalDeliveryId_of_mem hmem hid]
        cases hid with
        | inl hid => exact .inl hid
        | inr hid => exact .inr ⟨delivery, hmem, rfl, hid⟩
    . intro platform
      exact h.counters_received receipt platform

end

end ChannelDelivery
