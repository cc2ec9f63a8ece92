import AgentHarness.Lib.Io
import AgentHarness.Lib.TextFile
import Mathlib.Data.List.Nodup

/-!
Ledgers whose rows carry a key: a row is appended once for its key and found again by it.
-/

namespace Ledger

variable {α : Type u} (key : α → String)

-- `append_jsonl_value_once_by_event_key` on the rows of a ledger
def appendOnce (rows : List α) (value : α) : Outcome (List α) Bool :=
  if TextFile.isBlank (key value) then
    (rows, .error { kind := .invalidData, message := "eventKey is required" })
  else if rows.any (key · = key value) then
    (rows, .ok false)
  else
    (rows ++ [value], .ok true)

def findOne (rows : List α) (wanted : String) (e : IoError) : Except IoError (Option α) :=
  match rows.filter (key · = wanted) with
  | [] => .ok none
  | [row] => .ok (some row)
  | _ => .error e

theorem nodup_concat {key : α → κ} {rows : List α} {value : α} (h : (rows.map key).Nodup)
    (hfresh : ∀ row ∈ rows, key row ≠ key value)
    : ((rows ++ [value]).map key).Nodup := by
  rw [List.map_append, List.map_singleton, List.nodup_append]
  refine ⟨h, List.nodup_singleton _, ?_⟩
  intro left hleft right hright
  obtain ⟨row, hrow, rfl⟩ := List.mem_map.mp hleft
  rw [List.mem_singleton.mp hright]
  exact hfresh row hrow

variable {key} {rows : List α} {value : α}

theorem appendOnce_fresh (hblank : ¬TextFile.isBlank (key value))
    (hfresh : ∀ row ∈ rows, key row ≠ key value)
    : appendOnce key rows value = (rows ++ [value], .ok true) := by
  have hany : rows.any (key · = key value) = false := by simpa using hfresh
  simp [appendOnce, hblank, hany]

theorem appendOnce_stored (hblank : ¬TextFile.isBlank (key value))
    (hstored : ∃ row ∈ rows, key row = key value)
    : appendOnce key rows value = (rows, .ok false) := by
  have hany : rows.any (key · = key value) = true := by simpa using hstored
  simp [appendOnce, hblank, hany]

theorem appendOnce_isOk (rows : List α) (hblank : ¬TextFile.isBlank (key value))
    : ∃ appended, (appendOnce key rows value).2 = .ok appended := by
  by_cases hstored : ∃ row ∈ rows, key row = key value
  . rw [appendOnce_stored hblank hstored]
    exact ⟨false, rfl⟩
  . push Not at hstored
    rw [appendOnce_fresh hblank hstored]
    exact ⟨true, rfl⟩

theorem appendOnce_prefix (key : α → String) (rows : List α) (value : α)
    : rows <+: (appendOnce key rows value).1 := by
  unfold appendOnce
  split
  . exact List.prefix_rfl
  . split
    . exact List.prefix_rfl
    . exact List.prefix_append _ _

theorem findOne_of_mem (hnodup : (rows.map key).Nodup) {row : α} (hrow : row ∈ rows) (e : IoError)
    : findOne key rows (key row) e = .ok (some row) := by
  have hfilter : rows.filter (key · = key row) = [row] := by
    induction rows with
    | nil => cases hrow
    | cons first rest ih =>
      rw [List.map_cons, List.nodup_cons, List.mem_map] at hnodup
      cases List.mem_cons.mp hrow with
      | inl hfirst =>
        subst hfirst
        have hrest : rest.filter (key · = key row) = [] := by
          rw [List.filter_eq_nil_iff]
          intro other hother
          simp only [decide_eq_true_eq]
          intro hsame
          exact hnodup.1 ⟨other, hother, hsame⟩
        rw [List.filter_cons_of_pos (by simp), hrest]
      | inr hrest =>
        have hne : key first ≠ key row := by
          intro hsame
          exact hnodup.1 ⟨row, hrest, hsame.symm⟩
        rw [List.filter_cons_of_neg (by simpa using hne)]
        exact ih hnodup.2 hrest
  rw [findOne, hfilter]

theorem findOne_eq_some {wanted : String} {e : IoError} {row : α}
    (h : findOne key rows wanted e = .ok (some row))
    : row ∈ rows ∧ key row = wanted := by
  unfold findOne at h
  split at h
  . cases h
  . next found hfilter =>
    obtain rfl : found = row := by simpa using h
    have hmem : found ∈ rows.filter (key · = wanted) := by simp [hfilter]
    simpa using hmem
  . cases h

end Ledger
