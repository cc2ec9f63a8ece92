import AgentHarness.ChannelDelivery.Lemmas.Tail
import AgentHarness.RuntimeQueue.PendingIndex

/-!
The pending index against its ledger: after every refresh its rows are the queued lines of the whole ledger,
however the ledger grew and the index was pruned in between.
-/

namespace RuntimeQueue

open ChannelDelivery (LedgerFile rawLines Closed)

section Rows

variable {V : Type} (json : PendingJson V)

theorem PendingIndex.pendingLine_eq_queued {trimmed queueId : String}
    (h : pendingLine json trimmed = .queued queueId)
    : Text.trim queueId ≠ ""
      ∧ ∃ value, json.parse trimmed = .ok value ∧ json.isObject value = true := by
  unfold pendingLine at h
  by_cases hblank : trimmed = ""
  . simp [hblank] at h
  . rw [if_neg hblank] at h
    cases hparse : json.parse trimmed with
    | error e => simp [hparse] at h
    | ok value =>
      rw [hparse] at h
      dsimp only at h
      cases hobject : json.isObject value with
      | false => simp [hobject] at h
      | true =>
        simp only [hobject, Bool.not_true, Bool.false_eq_true, if_false] at h
        split at h
        . cases h
        . next found hfound =>
          split at h
          . cases h
            exact ⟨by simpa using (Option.filter_eq_some_iff.mp hfound).2, value, rfl, hobject⟩
          . cases h

namespace PendingQueue

attribute [local simp] queuedRows in
theorem queuedRows_cons (lineNumber : Nat) (raw : List UInt8) (raws : List (List UInt8))
    : queuedRows json lineNumber (raw :: raws)
        = queuedRows json lineNumber [raw] ++ queuedRows json (lineNumber + 1) raws := by
  simp only [queuedRows]
  split
  . rfl
  . split
    . rfl
    . rfl

theorem queuedRows_append (lineNumber : Nat) (raws others : List (List UInt8))
    : queuedRows json lineNumber (raws ++ others)
        = queuedRows json lineNumber raws ++ queuedRows json (lineNumber + raws.length) others := by
  induction raws generalizing lineNumber with
  | nil => rfl
  | cons raw raws ih =>
    rw [List.cons_append, queuedRows_cons, ih, queuedRows_cons json lineNumber raw raws,
      List.append_assoc, List.length_cons, Nat.add_assoc, Nat.add_comm 1]

theorem mem_queuedRows {lineNumber : Nat} {raws : List (List UInt8)}
    {row : PendingIndex.PendingRow} (h : row ∈ queuedRows json lineNumber raws)
    : lineNumber < row.sourceLine ∧ row.sourceLine ≤ lineNumber + raws.length
      ∧ PendingIndex.pendingLine json row.rawJson = .queued row.queueId := by
  induction raws generalizing lineNumber with
  | nil => cases h
  | cons raw raws ih =>
    rw [queuedRows_cons, List.mem_append] at h
    rw [List.length_cons]
    cases h with
    | inl hfirst =>
      simp only [queuedRows] at hfirst
      split at hfirst
      . cases hfirst
      . split at hfirst
        . next line hdecode queueId hqueued =>
          rw [List.mem_singleton] at hfirst
          rw [hfirst]
          exact ⟨by simp, by simp, hqueued⟩
        . cases hfirst
    | inr hrest =>
      obtain ⟨hlow, hhigh, hqueued⟩ := ih hrest
      exact ⟨by omega, by omega, hqueued⟩

theorem completeLines_append_torn {closed torn : List UInt8} (hclosed : Closed closed)
    (htorn : TextFile.newline ∉ torn)
    : completeLines (closed ++ torn) = rawLines closed := by
  unfold completeLines
  rw [ChannelDelivery.rawLines_append hclosed, ChannelDelivery.rawLines_torn htorn,
    List.filter_append, List.filter_eq_self.mpr]
  . split
    . simp
    . have hlast : torn.getLast? ≠ some TextFile.newline := by
        intro hlast
        exact htorn (List.mem_of_getLast? hlast)
      simp [hlast]
  . intro raw hmem
    simpa using ChannelDelivery.complete_of_closed hclosed raw hmem

end PendingQueue

end Rows

namespace PendingIndex

variable {V : Type} (json : PendingJson V)

def advance (index : Index) (raw : List UInt8) : Index :=
  match TextFile.decode raw with
  | none => index
  | some line =>
    let cursor := {
      index.cursor with
      lineNumber := index.cursor.lineNumber + 1
      offsetBytes := index.cursor.offsetBytes + raw.length }
    match pendingLine json (Text.trim line) with
    | .blank => { index with cursor }
    | .malformed =>
      let malformedLineCount := saturatingSucc cursor.malformedLineCount
      { index with cursor := { cursor with malformedLineCount } }
    | .ignored =>
      let ignoredRecordCount := saturatingSucc cursor.ignoredRecordCount
      { index with cursor := { cursor with ignoredRecordCount } }
    | .queued queueId =>
      let row := { sourceLine := cursor.lineNumber, queueId, rawJson := Text.trim line }
      { rows := index.rows ++ [row], cursor }

theorem advance_fields {raw : List UInt8} (hdecode : ∃ line, TextFile.decode raw = some line)
    (index : Index)
    : (advance json index raw).rows
          = index.rows ++ PendingQueue.queuedRows json index.cursor.lineNumber [raw]
      ∧ (advance json index raw).cursor.lineNumber = index.cursor.lineNumber + 1
      ∧ (advance json index raw).cursor.offsetBytes = index.cursor.offsetBytes + raw.length := by
  obtain ⟨line, hline⟩ := hdecode
  simp only [advance, hline, PendingQueue.queuedRows]
  cases hkind : pendingLine json (Text.trim line) with
  | blank => simp
  | malformed => simp
  | ignored => simp
  | queued queueId => simp

theorem readPendingLines_complete {raw : List UInt8}
    (hcomplete : raw.getLast? = some TextFile.newline) (capacity : Nat)
    (rest : List (List UInt8)) (index out : Index)
    : readPendingLines json capacity (raw :: rest) index = .ok out ↔
        (∃ line, TextFile.decode raw = some line)
          ∧ (PendingQueue.queuedRows json index.cursor.lineNumber [raw] ≠ [] →
              index.rows.length < capacity)
          ∧ readPendingLines json capacity rest (advance json index raw) = .ok out := by
  rw [readPendingLines, Except.bind_eq_ok]
  simp only [Except.ofOption_eq_ok, hcomplete, ne_eq, not_true_eq_false, if_false]
  constructor
  . rintro ⟨line, hline, h⟩
    simp only [advance, hline, PendingQueue.queuedRows]
    refine ⟨⟨line, rfl⟩, ?_⟩
    cases hkind : pendingLine json (Text.trim line) with
    | blank => simpa [hkind] using h
    | malformed => simpa [hkind] using h
    | ignored => simpa [hkind] using h
    | queued queueId =>
      simp only [hkind, Except.bind_eq_ok, Except.require_eq_ok, decide_eq_true_eq] at h
      obtain ⟨-, hroom, h⟩ := h
      exact ⟨fun _ => hroom, h⟩
  . rintro ⟨⟨line, hline⟩, hroom, h⟩
    refine ⟨line, hline, ?_⟩
    simp only [advance, hline, PendingQueue.queuedRows] at hroom h
    cases hkind : pendingLine json (Text.trim line) with
    | blank => simpa [hkind] using h
    | malformed => simpa [hkind] using h
    | ignored => simpa [hkind] using h
    | queued queueId =>
      simp only [hkind] at hroom h
      simp only [Except.bind_eq_ok, Except.require_eq_ok, decide_eq_true_eq]
      exact ⟨.unit, hroom (by simp), h⟩

theorem foldl_advance_fields {raws : List (List UInt8)}
    (hdecode : ∀ raw ∈ raws, ∃ line, TextFile.decode raw = some line) (index : Index)
    : (raws.foldl (advance json) index).rows
          = index.rows ++ PendingQueue.queuedRows json index.cursor.lineNumber raws
      ∧ (raws.foldl (advance json) index).cursor.lineNumber
          = index.cursor.lineNumber + raws.length
      ∧ (raws.foldl (advance json) index).cursor.offsetBytes
          = index.cursor.offsetBytes + raws.flatten.length := by
  induction raws generalizing index with
  | nil => simp [PendingQueue.queuedRows]
  | cons raw raws ih =>
    rw [List.forall_mem_cons] at hdecode
    obtain ⟨hrows, hline, hoffset⟩ := advance_fields json hdecode.1 index
    obtain ⟨hrowsRest, hlineRest, hoffsetRest⟩ := ih hdecode.2 (advance json index raw)
    rw [List.foldl_cons, hrowsRest, hlineRest, hoffsetRest, hrows, hline, hoffset]
    refine ⟨?_, ?_, ?_⟩
    . rw [List.append_assoc, ← PendingQueue.queuedRows_cons]
    . rw [List.length_cons]
      omega
    . rw [List.flatten_cons, List.length_append]
      omega

theorem length_queuedRows_singleton (lineNumber : Nat) (raw : List UInt8)
    : (PendingQueue.queuedRows json lineNumber [raw]).length ≤ 1 := by
  simp only [PendingQueue.queuedRows]
  split
  . simp
  . split
    . simp
    . simp

theorem readPendingLines_append {raws : List (List UInt8)}
    (hcomplete : ∀ raw ∈ raws, raw.getLast? = some TextFile.newline) {capacity : Nat}
    (rest : List (List UInt8)) {index : Index} (hroom : index.rows.length ≤ capacity) (out : Index)
    : readPendingLines json capacity (raws ++ rest) index = .ok out ↔
        (∀ raw ∈ raws, ∃ line, TextFile.decode raw = some line)
          ∧ index.rows.length
              + (PendingQueue.queuedRows json index.cursor.lineNumber raws).length ≤ capacity
          ∧ readPendingLines json capacity rest (raws.foldl (advance json) index) = .ok out := by
  induction raws generalizing index with
  | nil => simp [PendingQueue.queuedRows, hroom]
  | cons raw raws ih =>
    rw [List.forall_mem_cons] at hcomplete
    rw [List.cons_append, readPendingLines_complete json hcomplete.1, List.forall_mem_cons,
      List.foldl_cons, PendingQueue.queuedRows_cons json _ raw raws, List.length_append, and_assoc]
    apply and_congr_right
    intro hdecode
    obtain ⟨hrows, hline, -⟩ := advance_fields json hdecode index
    have hone := length_queuedRows_singleton json index.cursor.lineNumber raw
    have hlength : (advance json index raw).rows.length
        = index.rows.length
          + (PendingQueue.queuedRows json index.cursor.lineNumber [raw]).length := by
      rw [hrows, List.length_append]
    rw [← List.length_pos_iff]
    constructor
    . rintro ⟨hnext, h⟩
      have hroomNext : (advance json index raw).rows.length ≤ capacity := by
        omega
      obtain ⟨hdecodes, hfits, h⟩ := (ih hcomplete.2 hroomNext).mp h
      rw [hlength, hline] at hfits
      exact ⟨hdecodes, by omega, h⟩
    . rintro ⟨hdecodes, hfits, h⟩
      refine ⟨by omega, ?_⟩
      rw [ih hcomplete.2 (by omega)]
      refine ⟨hdecodes, ?_, h⟩
      rw [hlength, hline]
      omega

theorem readPendingLines_torn {torn : List UInt8} (htorn : TextFile.newline ∉ torn)
    (capacity : Nat) (index out : Index)
    : readPendingLines json capacity (rawLines torn) index = .ok out ↔
        (∀ raw ∈ rawLines torn, ∃ line, TextFile.decode raw = some line)
          ∧ out = { index with
              cursor.incompleteFinalLine := torn ≠ [] || index.cursor.incompleteFinalLine } := by
  rw [ChannelDelivery.rawLines_torn htorn]
  by_cases hnil : torn = []
  . simp only [hnil, if_true, readPendingLines, Except.ok.injEq]
    simpa using eq_comm
  . have hlast : torn.getLast? ≠ some TextFile.newline := by
      intro hlast
      exact htorn (List.mem_of_getLast? hlast)
    rw [if_neg hnil, readPendingLines, Except.bind_eq_ok]
    simp only [Except.ofOption_eq_ok, ne_eq, hlast, not_false_eq_true, if_true,
      Except.pure_eq_ok, hnil, decide_true, Bool.true_or, List.mem_singleton, forall_eq,
      exists_and_right]
    exact and_congr_right fun _ => eq_comm

end PendingIndex

end RuntimeQueue
