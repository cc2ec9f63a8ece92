import AgentHarness.ChannelDelivery.Refresh
import AgentHarness.Lib.Marker

/-!
The rows of the outbox in the index: one for each line, no two with one identity, and never the
legacy identity of one as the identity of another.
-/

namespace ChannelDelivery

theorem toList_deliveryId (lineNumber : Nat) (line : String)
    : (deliveryId lineNumber line).toList
        = "delivery:".toList ++ (toString lineNumber).toList
          ++ ':' :: (fnv1a64Hex line).toList := by
  simp [deliveryId]

theorem lineNumber_of_deliveryId {left right : Nat} {line other : String}
    (h : deliveryId left line = deliveryId right other)
    : left = right := by
  have htake : ∀ (n : Nat) (rest : List Char),
      ((toString n).toList ++ ':' :: rest).takeWhile Char.isDigit = (toString n).toList := by
    intro n rest
    rw [List.takeWhile_append_of_pos Text.isDigit_toString]
    simp
  have h := congrArg String.toList h
  rw [toList_deliveryId, toList_deliveryId, List.append_assoc, List.append_assoc,
    List.append_cancel_left_eq] at h
  have hdigits := congrArg (List.takeWhile Char.isDigit) h
  rw [htake, htake] at hdigits
  have hvalue := congrArg Text.digitsValue hdigits
  rwa [Text.digitsValue_toString, Text.digitsValue_toString] at hvalue

theorem isValid_deliveryId (lineNumber : Nat) (line : String)
    : ¬isValidChannelOutboundDeliveryId (deliveryId lineNumber line) := by
  intro h
  have hlead : deliveryIdV2Lead.toList <+: (deliveryId lineNumber line).toList := by
    unfold isValidChannelOutboundDeliveryId Text.dropLead at h
    split at h
    . cases h
    . next token htoken =>
      split at htoken
      . next hlead => exact List.isPrefixOf_iff_prefix.mp hlead
      . cases htoken
  obtain ⟨rest, hrest⟩ := hlead
  have hdigit : ∀ ch ∈ (toString lineNumber).toList, ch.isDigit := Text.isDigit_toString
  have hne := Text.toString_ne_empty lineNumber
  have hsplit : deliveryIdV2Lead.toList = "delivery:".toList ++ 'v' :: "2:".toList := by decide
  rw [hsplit, toList_deliveryId, List.append_assoc, List.append_assoc,
    List.append_cancel_left_eq] at hrest
  cases hlist : (toString lineNumber).toList with
  | nil => exact hne (String.toList_eq_nil_iff.mp hlist)
  | cons ch digits =>
    rw [hlist] at hrest hdigit
    obtain ⟨rfl, _⟩ := List.cons.inj hrest
    exact absurd (hdigit 'v' List.mem_cons_self) (by decide)

def deliveryOf (lineNumber : Nat) (rawLine : String) (message : ChannelOutboundMessage)
    : OutboxDelivery where
  deliveryId := deliveryIdForOutboxMessage lineNumber rawLine message
  legacyDeliveryId := deliveryId lineNumber rawLine
  message

def Index.deliveries (self : Index) : List OutboxDelivery :=
  self.outbox.filterMap OutboxRow.delivery?

theorem mem_deliveries {index : Index} {delivery : OutboxDelivery}
    : delivery ∈ index.deliveries
        ↔ ∃ row ∈ index.outbox, row.content = .delivery delivery := by
  unfold Index.deliveries
  rw [List.mem_filterMap]
  apply exists_congr
  intro row
  apply and_congr_right
  intro _
  unfold OutboxRow.delivery?
  cases row.content with
  | delivery found => simp
  | parseError error => simp

/-
The rows: one for each line up to the cursor, with the identities of their lines.
-/
structure RowsOk (rows : List OutboxRow) (lastLine : Nat) : Prop where
  lines : (rows.map (·.lineNumber)).Nodup
  bound : ∀ row ∈ rows, row.lineNumber ≤ lastLine
  made : ∀ row ∈ rows, ∀ delivery, row.content = .delivery delivery
    → ∃ rawLine, delivery = deliveryOf row.lineNumber rawLine delivery.message
  unique : ((rows.filterMap OutboxRow.delivery?).map (·.deliveryId)).Nodup

theorem rowsOk_nil : RowsOk [] 0 where
  lines := List.nodup_nil
  bound := by simp
  made := by simp
  unique := List.nodup_nil

section

variable {rows : List OutboxRow} {lastLine : Nat} (h : RowsOk rows lastLine)
include h

theorem RowsOk.mono {later : Nat} (hle : lastLine ≤ later) : RowsOk rows later where
  lines := h.lines
  bound row hrow := le_trans (h.bound row hrow) hle
  made := h.made
  unique := h.unique

theorem RowsOk.alias {left right : OutboxRow} (hleft : left ∈ rows) (hright : right ∈ rows)
    {delivery other : OutboxDelivery} (hdelivery : left.content = .delivery delivery)
    (hother : right.content = .delivery other)
    (hsame : delivery.deliveryId = other.legacyDeliveryId
      ∨ delivery.legacyDeliveryId = other.legacyDeliveryId)
    : delivery = other := by
  obtain ⟨rawLine, hmade⟩ := h.made left hleft delivery hdelivery
  obtain ⟨otherLine, hotherMade⟩ := h.made right hright other hother
  have hlegacy : other.legacyDeliveryId = deliveryId right.lineNumber otherLine := by
    rw [hotherMade]
    rfl
  have hline : left.lineNumber = right.lineNumber := by
    cases hsame with
    | inl hid =>
      have hid : deliveryIdForOutboxMessage left.lineNumber rawLine delivery.message
          = deliveryId right.lineNumber otherLine := by
        rw [← hlegacy, ← hid, hmade]
        rfl
      unfold deliveryIdForOutboxMessage validChannelOutboundDeliveryId at hid
      cases hfilter : delivery.message.deliveryId.filter isValidChannelOutboundDeliveryId with
      | none =>
        rw [hfilter] at hid
        exact lineNumber_of_deliveryId hid
      | some given =>
        rw [hfilter, Option.getD_some] at hid
        have hvalid := (Option.filter_eq_some_iff.mp hfilter).2
        rw [hid] at hvalid
        exact absurd hvalid (isValid_deliveryId _ _)
    | inr hid =>
      apply @lineNumber_of_deliveryId _ _ rawLine otherLine
      rw [← hlegacy, ← hid, hmade]
      rfl
  have hrow : left = right := List.inj_on_of_nodup_map h.lines hleft hright hline
  rw [hrow, hother] at hdelivery
  exact (OutboxContent.delivery.inj hdelivery).symm

variable {row : OutboxRow}

theorem RowsOk.placeRow (hline : lastLine < row.lineNumber)
    : Index.placeRow rows row = rows ++ [row] := by
  unfold Index.placeRow
  rw [if_neg]
  simp only [List.any_eq_true, decide_eq_true_eq, not_exists, not_and]
  intro other hother hsame
  have := h.bound other hother
  omega

theorem RowsOk.lines_concat (hline : lastLine < row.lineNumber)
    : ((rows ++ [row]).map (·.lineNumber)).Nodup := by
  rw [List.map_append, List.map_singleton]
  apply List.Nodup.append h.lines (List.nodup_singleton _)
  rw [List.disjoint_singleton]
  intro hmem
  obtain ⟨other, hother, hsame⟩ := List.mem_map.mp hmem
  have := h.bound other hother
  omega

theorem RowsOk.bound_concat (hline : lastLine < row.lineNumber)
    : ∀ other ∈ rows ++ [row], other.lineNumber ≤ row.lineNumber := by
  rw [List.forall_mem_append, List.forall_mem_singleton]
  refine ⟨?_, le_refl _⟩
  intro other hother
  have := h.bound other hother
  omega

theorem RowsOk.parseError {lineNumber : Nat} (hline : lastLine < lineNumber) (error : String)
    : RowsOk (rows ++ [{ lineNumber, content := .parseError error }]) lineNumber where
  lines := h.lines_concat hline
  bound := h.bound_concat hline
  made := by
    rw [List.forall_mem_append, List.forall_mem_singleton]
    refine ⟨h.made, ?_⟩
    intro delivery hdelivery
    cases hdelivery
  unique := by
    have hnone : [({ lineNumber, content := .parseError error } : OutboxRow)].filterMap
        OutboxRow.delivery? = [] := rfl
    rw [List.filterMap_append, hnone, List.append_nil]
    exact h.unique

theorem RowsOk.delivery {lineNumber : Nat} (hline : lastLine < lineNumber) {rawLine : String}
    {message : ChannelOutboundMessage}
    (hclash : Index.clashes rows lineNumber (deliveryOf lineNumber rawLine message) = false)
    : RowsOk (rows ++ [{ lineNumber, content := .delivery (deliveryOf lineNumber rawLine message) }])
        lineNumber where
  lines := h.lines_concat hline
  bound := h.bound_concat hline
  made := by
    rw [List.forall_mem_append, List.forall_mem_singleton]
    refine ⟨h.made, ?_⟩
    intro delivery hdelivery
    obtain rfl := OutboxContent.delivery.inj hdelivery
    exact ⟨rawLine, rfl⟩
  unique := by
    rw [List.filterMap_append, List.map_append]
    apply List.Nodup.append h.unique (List.nodup_singleton _)
    show List.Disjoint _ [(deliveryOf lineNumber rawLine message).deliveryId]
    rw [List.disjoint_singleton]
    intro hmem
    obtain ⟨existing, hexisting, hsame⟩ := List.mem_map.mp hmem
    obtain ⟨row, hrow, hdelivery⟩ := List.mem_filterMap.mp hexisting
    have hother : row.lineNumber ≠ lineNumber := by
      have := h.bound row hrow
      omega
    unfold Index.clashes at hclash
    rw [List.any_eq_false] at hclash
    have hclash := hclash row hrow
    simp [hother, hdelivery, hsame] at hclash

end

/-
The row of a delivery is found under either of its identities.
-/
section

variable {index : Index} {lastLine : Nat} (h : RowsOk index.outbox lastLine)
include h

theorem RowsOk.eq_of_deliveryId {left right : OutboxDelivery} (hleft : left ∈ index.deliveries)
    (hright : right ∈ index.deliveries) (hsame : left.deliveryId = right.deliveryId)
    : left = right :=
  List.inj_on_of_nodup_map h.unique hleft hright hsame

variable {id : String} {delivery : OutboxDelivery}

theorem RowsOk.eq_of_alias {left right : OutboxDelivery} (hleft : left ∈ index.deliveries)
    (hright : right ∈ index.deliveries)
    (hleftId : left.deliveryId = id ∨ left.legacyDeliveryId = id)
    (hrightId : right.deliveryId = id ∨ right.legacyDeliveryId = id)
    : left = right := by
  obtain ⟨leftRow, hleftRow, hleftContent⟩ := mem_deliveries.mp hleft
  obtain ⟨rightRow, hrightRow, hrightContent⟩ := mem_deliveries.mp hright
  cases hrightId with
  | inl hid =>
    cases hleftId with
    | inl hleftId => exact h.eq_of_deliveryId hleft hright (hleftId.trans hid.symm)
    | inr hleftId =>
      exact (h.alias hrightRow hleftRow hrightContent hleftContent
        (.inl (hid.trans hleftId.symm))).symm
  | inr hid =>
    apply h.alias hleftRow hrightRow hleftContent hrightContent
    rw [hid]
    exact hleftId

theorem RowsOk.rowOf_eq_some
    : index.rowOf id = some delivery
        ↔ delivery ∈ index.deliveries
          ∧ (delivery.deliveryId = id ∨ delivery.legacyDeliveryId = id) := by
  unfold Index.rowOf
  constructor
  . intro hfind
    have hid := List.find?_some hfind
    simp only [Bool.or_eq_true, decide_eq_true_eq] at hid
    exact ⟨List.mem_of_find?_eq_some hfind, hid⟩
  . rintro ⟨hmem, hid⟩
    cases hfind : (index.outbox.filterMap OutboxRow.delivery?).find? fun delivery =>
        delivery.deliveryId = id || delivery.legacyDeliveryId = id with
    | none =>
      rw [List.find?_eq_none] at hfind
      have hnone := hfind delivery hmem
      simp [hid] at hnone
    | some found =>
      have hfound := List.find?_some hfind
      simp only [Bool.or_eq_true, decide_eq_true_eq] at hfound
      rw [h.eq_of_alias (List.mem_of_find?_eq_some hfind) hmem hfound hid]

theorem RowsOk.canonicalDeliveryId_of_mem (hmem : delivery ∈ index.deliveries)
    (hid : delivery.deliveryId = id ∨ delivery.legacyDeliveryId = id)
    : index.canonicalDeliveryId id = delivery.deliveryId := by
  unfold Index.canonicalDeliveryId
  rw [h.rowOf_eq_some.mpr ⟨hmem, hid⟩]
  rfl

theorem RowsOk.rowOf_canonical
    : index.rowOf (index.canonicalDeliveryId id) = some delivery
        ↔ delivery ∈ index.deliveries ∧ delivery.deliveryId = index.canonicalDeliveryId id := by
  cases hrow : index.rowOf id with
  | none =>
    have hcanonical : index.canonicalDeliveryId id = id := by
      unfold Index.canonicalDeliveryId
      rw [hrow]
      rfl
    rw [hcanonical, hrow]
    simp only [reduceCtorEq, false_iff, not_and]
    intro hmem hid
    have hfound := h.rowOf_eq_some.mpr ⟨hmem, .inl hid⟩
    rw [hrow] at hfound
    cases hfound
  | some found =>
    obtain ⟨hfound, hid⟩ := h.rowOf_eq_some.mp hrow
    rw [h.canonicalDeliveryId_of_mem hfound hid, h.rowOf_eq_some]
    constructor
    . rintro ⟨hmem, halias⟩
      obtain rfl := h.eq_of_alias hmem hfound halias (.inl rfl)
      exact ⟨hmem, rfl⟩
    . rintro ⟨hmem, hsame⟩
      exact ⟨hmem, .inl hsame⟩

end

end ChannelDelivery
