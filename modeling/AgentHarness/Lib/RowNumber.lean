import Mathlib.Data.List.Count
import Mathlib.Data.List.Perm.Subperm
import Mathlib.Order.Lattice

/-!
The row numbers of a window query: how many rows of a partition stand before a given one.
-/

namespace RowNumber

variable {α : Type u}

-- `ROW_NUMBER() OVER (ORDER BY …)` of a row, under the order that `before` says
def rowNumber (before : α → α → Bool) (rows : List α) (row : α) : Nat :=
  rows.countP (fun other => before other row) + 1

theorem rowNumber_le_of_sublist (before : α → α → Bool) {rows more : List α} (h : rows.Sublist more)
    (row : α)
    : rowNumber before rows row ≤ rowNumber before more row := by
  apply Nat.succ_le_succ
  exact h.countP_le

theorem rowNumber_le_of_forall {before before' : α → α → Bool} {rows rows' : List α} {row row' : α}
    (hnodup : rows.Nodup)
    (h : ∀ other ∈ rows, before other row → other ∈ rows' ∧ before' other row')
    : rowNumber before rows row ≤ rowNumber before' rows' row' := by
  unfold rowNumber
  rw [List.countP_eq_length_filter, List.countP_eq_length_filter, Nat.add_le_add_iff_right]
  apply List.Subperm.length_le
  apply List.subperm_of_subset (hnodup.filter _)
  intro other hother
  rw [List.mem_filter] at hother ⊢
  exact h other hother.1 hother.2

theorem rowNumber_eq_one {before : α → α → Bool} {rows : List α} {row : α}
    : rowNumber before rows row = 1 ↔ ∀ other ∈ rows, before other row = false := by
  unfold rowNumber
  rw [Nat.add_eq_right, List.countP_eq_zero]
  simp

theorem rowNumber_lt {before : α → α → Bool} (htrans : ∀ a b c, before a b → before b c → before a c)
    {rows : List α} {first second : α} (hirrefl : before first first = false)
    (hfirst : first ∈ rows) (h : before first second)
    : rowNumber before rows first < rowNumber before rows second := by
  unfold rowNumber
  rw [Nat.add_lt_add_iff_right]
  induction rows with
  | nil => cases hfirst
  | cons other rows ih =>
    have hle : rows.countP (fun other => before other first)
        ≤ rows.countP (fun other => before other second) := by
      apply List.countP_mono_left
      intro other _ hbefore
      exact htrans _ _ _ hbefore h
    rw [List.countP_cons, List.countP_cons]
    rw [List.mem_cons] at hfirst
    cases hfirst with
    | inl heq =>
      rw [← heq, hirrefl, h]
      simp
      omega
    | inr hmem =>
      have hlt := ih hmem
      by_cases hother : before other first = true
      . rw [hother, htrans _ _ _ hother h]
        simpa using hlt
      . rw [if_neg hother]
        split
        . omega
        . omega

section Newest

variable {β : Type v} [LinearOrder β] (position : α → β)

-- `ORDER BY position DESC`
def newer (other row : α) : Bool :=
  position row < position other

-- `ORDER BY position ASC`
def older (other row : α) : Bool :=
  position other < position row

variable {position} {rows : List α} (hsorted : rows.Pairwise (fun a b => position a < position b))
include hsorted

theorem length_filter_of_newest {keep : α → Bool} {n : Nat}
    (hkeep : ∀ row ∈ rows, rowNumber (newer position) rows row ≤ n → keep row)
    : min n rows.length ≤ (rows.filter keep).length := by
  induction rows with
  | nil => simp
  | cons row rows ih =>
    rw [List.pairwise_cons] at hsorted
    have hrow : rowNumber (newer position) (row :: rows) row = rows.length + 1 := by
      unfold rowNumber
      rw [List.countP_cons, List.countP_eq_length.mpr]
      . simp [newer]
      . intro other hother
        simpa [newer] using hsorted.1 other hother
    have hrest : ∀ other ∈ rows, rowNumber (newer position) rows other
        = rowNumber (newer position) (row :: rows) other := by
      intro other hother
      unfold rowNumber
      rw [List.countP_cons, if_neg]
      simpa [newer] using (hsorted.1 other hother).le
    have ih := ih hsorted.2 fun other hother hle =>
      hkeep other (List.mem_cons_of_mem _ hother) (hrest other hother ▸ hle)
    rw [List.length_cons]
    by_cases hlast : rows.length + 1 ≤ n
    . rw [List.filter_cons_of_pos (hkeep row List.mem_cons_self (hrow ▸ hlast)), List.length_cons]
      omega
    . have hle : (rows.filter keep).length ≤ ((row :: rows).filter keep).length := by
        apply List.Sublist.length_le
        apply List.Sublist.filter
        exact List.sublist_cons_self _ _
      omega

theorem lt_rowNumber_filter {keep : α → Bool} {n : Nat}
    (hkeep : ∀ row ∈ rows, rowNumber (newer position) rows row ≤ n → keep row) {row : α}
    (hrow : row ∈ rows) (h : n < rowNumber (newer position) rows row)
    : n < rowNumber (newer position) (rows.filter keep) row := by
  induction rows with
  | nil => cases hrow
  | cons first rows ih =>
    rw [List.pairwise_cons] at hsorted
    have hrest : ∀ other ∈ rows, rowNumber (newer position) (first :: rows) other
        = rowNumber (newer position) rows other := by
      intro other hother
      unfold rowNumber
      rw [List.countP_cons, if_neg]
      simpa [newer] using (hsorted.1 other hother).le
    have hkeepRest : ∀ other ∈ rows, rowNumber (newer position) rows other ≤ n → keep other := by
      intro other hother hle
      apply hkeep other (List.mem_cons_of_mem _ hother)
      rw [hrest other hother]
      exact hle
    have hle : rowNumber (newer position) (rows.filter keep) row
        ≤ rowNumber (newer position) ((first :: rows).filter keep) row := by
      apply rowNumber_le_of_sublist
      apply List.Sublist.filter
      exact List.sublist_cons_self _ _
    apply Nat.lt_of_lt_of_le _ hle
    rw [List.mem_cons] at hrow
    cases hrow with
    | inl heq =>
      have hall : ∀ other ∈ rows, newer position other row = true := by
        intro other hother
        rw [heq]
        simpa [newer] using hsorted.1 other hother
      have hlength : n ≤ rows.length := by
        unfold rowNumber at h
        rw [heq, List.countP_cons, if_neg (by simp [newer])] at h
        have := List.countP_le_length (p := fun other => newer position other first) (l := rows)
        omega
      have hcount := length_filter_of_newest hsorted.2 hkeepRest
      unfold rowNumber
      rw [List.countP_eq_length.mpr fun other hother => hall other (List.mem_filter.mp hother).1]
      omega
    | inr hmem =>
      rw [hrest row hmem] at h
      exact ih hsorted.2 hkeepRest hmem h

end Newest

end RowNumber
