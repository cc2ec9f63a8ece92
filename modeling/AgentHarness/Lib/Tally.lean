import AgentHarness.Lib.Map
import Mathlib.Algebra.GroupWithZero.Nat

/-!
Tallies: maps that count under a key, built by adding entries one after the other.
-/

namespace FMap

variable {α : Type u} [DecidableEq α]

def count (m : FMap α Nat) (k : α) : Nat :=
  (m.lookup k).getD 0

def add (m : FMap α Nat) (k : α) (n : Nat) : FMap α Nat :=
  m.insert k (m.count k + n)

def tally (entries : List (α × Nat)) : FMap α Nat :=
  entries.foldl (fun m entry => m.add entry.1 entry.2) ∅

@[simp]
theorem count_empty (k : α) : (∅ : FMap α Nat).count k = 0 := rfl

theorem count_add (m : FMap α Nat) (k k' : α) (n : Nat)
    : (m.add k n).count k' = m.count k' + if k = k' then n else 0 := by
  unfold count add
  rw [lookup_insert_eq]
  by_cases h : k = k'
  . rw [if_pos h.symm, if_pos h, h]
    rfl
  . rw [if_neg (Ne.symm h), if_neg h]
    rfl

theorem count_foldl_add (entries : List (α × Nat)) (m : FMap α Nat) (k : α)
    : (entries.foldl (fun m entry => m.add entry.1 entry.2) m).count k
        = m.count k + ((entries.filter (·.1 = k)).map (·.2)).sum := by
  induction entries generalizing m with
  | nil => simp
  | cons entry entries ih =>
    rw [List.foldl_cons, ih, count_add]
    by_cases h : entry.1 = k
    . simp only [h, if_true, decide_true, List.filter_cons_of_pos, List.map_cons, List.sum_cons]
      omega
    . simp [h]

theorem count_tally (entries : List (α × Nat)) (k : α)
    : (tally entries).count k = ((entries.filter (·.1 = k)).map (·.2)).sum := by
  simp [tally, count_foldl_add]

theorem count_tally_ones (keys : List α) (k : α)
    : (tally (keys.map fun key => (key, 1))).count k = keys.count k := by
  rw [count_tally]
  induction keys with
  | nil => rfl
  | cons key keys ih =>
    rw [List.count_cons, ← ih]
    by_cases h : key = k
    . simp [h, Nat.add_comm]
    . simp [h]

theorem sum_entries_of_key (m : FMap α Nat) (k : α) (f : α → Nat → Nat) (hf : f k 0 = 0)
    : ((m.entries.filter (·.1 = k)).map fun entry => f entry.1 entry.2).sum = f k (m.count k) := by
  cases h : m.lookup k with
  | none =>
    have hnone : m.entries.filter (·.1 = k) = [] := by
      rw [List.filter_eq_nil_iff]
      intro entry hmem hkey
      have hsome : m.lookup entry.1 = some entry.2 := AList.mem_lookup_iff.mpr hmem
      rw [of_decide_eq_true hkey, h] at hsome
      cases hsome
    simp [hnone, count, h, hf]
  | some n =>
    have hone : m.entries.filter (·.1 = k) = [⟨k, n⟩] := by
      have hmem : (⟨k, n⟩ : Sigma fun _ : α => Nat) ∈ m.entries := AList.mem_lookup_iff.mp h
      have hnodup : (m.entries.filter (·.1 = k)).Nodup :=
        (List.NodupKeys.nodup m.nodupKeys).filter _
      apply List.perm_singleton.mp
      rw [List.perm_ext_iff_of_nodup hnodup (List.nodup_singleton _)]
      intro entry
      rw [List.mem_filter, List.mem_singleton]
      constructor
      . rintro ⟨hentry, hkey⟩
        obtain ⟨key, value⟩ := entry
        have hkey : key = k := of_decide_eq_true hkey
        subst hkey
        have hvalue : m.lookup key = some value := AList.mem_lookup_iff.mpr hentry
        rw [h] at hvalue
        cases hvalue
        rfl
      . rintro rfl
        exact ⟨hmem, by simp⟩
    simp [hone, count, h]

end FMap

theorem List.sum_of_keys {ρ : Type u} {κ : Type v} [DecidableEq κ] {keys : List κ}
    (hkeys : keys.Nodup) (key : ρ → κ) (value : ρ → Nat) (rows : List ρ)
    : (keys.map fun k => ((rows.filter (key · = k)).map value).sum).sum
        = ((rows.filter (key · ∈ keys)).map value).sum := by
  induction keys with
  | nil => simp
  | cons k keys ih =>
    have hnodup := List.nodup_cons.mp hkeys
    rw [List.map_cons, List.sum_cons, ih hnodup.2]
    clear ih
    induction rows with
    | nil => rfl
    | cons row rows ih =>
      simp only [List.mem_cons] at ih ⊢
      by_cases hk : key row = k
      . simp only [List.filter_cons, hk, hnodup.1, true_or, decide_true, decide_false, if_true,
          Bool.false_eq_true, if_false, List.map_cons, List.sum_cons]
        omega
      . by_cases hin : key row ∈ keys
        . simp only [List.filter_cons, hk, hin, or_true, decide_true, decide_false, if_true,
            Bool.false_eq_true, if_false, List.map_cons, List.sum_cons]
          omega
        . simp only [List.filter_cons, hk, hin, or_self, decide_false, Bool.false_eq_true, if_false]
          exact ih
