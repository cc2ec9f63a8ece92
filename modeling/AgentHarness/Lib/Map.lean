import Mathlib.Data.List.AList
import Mathlib.Data.List.Induction
import Mathlib.Data.List.Sort

/-!
Finite maps with a fixed value type, as association lists without a repeated key.
-/

abbrev FMap (α : Type u) (β : Type v) := AList (fun _ : α => β)

namespace FMap

variable {α : Type u} {β : Type v} [DecidableEq α]

def ofValues (key : β → α) (values : List β) : FMap α β :=
  values.foldl (fun m v => m.insert (key v) v) ∅

@[simp]
theorem ofValues_nil (key : β → α) : ofValues key [] = ∅ := rfl

@[simp]
theorem ofValues_concat (key : β → α) (values : List β) (v : β)
    : ofValues key (values ++ [v]) = (ofValues key values).insert (key v) v := by
  simp [ofValues]

def values (m : FMap α β) : List β :=
  m.entries.map Sigma.snd

theorem mem_values_iff {m : FMap α β} {v : β} : v ∈ m.values ↔ ∃ k, m.lookup k = some v := by
  unfold values
  constructor
  . intro h
    rcases List.mem_map.mp h with ⟨⟨k, w⟩, hmem, heq⟩
    subst heq
    exact ⟨k, AList.mem_lookup_iff.mpr hmem⟩
  . rintro ⟨k, hk⟩
    have : (⟨k, v⟩ : Sigma fun _ : α => β) ∈ m.entries := AList.mem_lookup_iff.mp hk
    exact List.mem_map.mpr ⟨_, this, rfl⟩

theorem mem_keys_iff {m : FMap α β} {k : α} : k ∈ m.keys ↔ ∃ v, m.lookup k = some v := by
  rw [← AList.mem_keys, ← AList.lookup_isSome, Option.isSome_iff_exists]

theorem lookup_insert_eq (m : FMap α β) (k k' : α) (v : β)
    : (m.insert k v).lookup k' = if k' = k then some v else m.lookup k' := by
  split
  . next h =>
    subst h
    apply AList.lookup_insert
  . next h =>
    apply AList.lookup_insert_ne
    exact h

theorem lookup_erase_eq (m : FMap α β) (k k' : α)
    : (m.erase k).lookup k' = if k' = k then none else m.lookup k' := by
  split
  . next h =>
    subst h
    apply AList.lookup_erase
  . next h =>
    apply AList.lookup_erase_ne
    exact h

def eraseAll (m : FMap α β) (keys : List α) : FMap α β :=
  keys.foldl (fun m k => m.erase k) m

theorem lookup_eraseAll (m : FMap α β) (keys : List α) (k : α)
    : (m.eraseAll keys).lookup k = if k ∈ keys then none else m.lookup k := by
  unfold eraseAll
  induction keys generalizing m with
  | nil => simp
  | cons key keys ih =>
    rw [List.foldl_cons, ih, lookup_erase_eq]
    by_cases hk : k = key
    . simp [hk]
    . simp [hk]

def keysWhere (m : FMap α β) (p : α → β → Bool) : List α :=
  (m.entries.filter fun entry => p entry.1 entry.2).map Sigma.fst

theorem mem_keysWhere {m : FMap α β} {p : α → β → Bool} {k : α}
    : k ∈ m.keysWhere p ↔ ∃ v, m.lookup k = some v ∧ p k v = true := by
  unfold keysWhere
  rw [List.mem_map]
  constructor
  . intro h
    cases h with
    | intro entry h =>
      rw [List.mem_filter] at h
      refine ⟨entry.2, ?_, ?_⟩
      . rw [← h.2]
        exact AList.mem_lookup_iff.mpr h.1.1
      . rw [← h.2]
        exact h.1.2
  . intro h
    cases h with
    | intro v h =>
      refine ⟨⟨k, v⟩, ?_, rfl⟩
      rw [List.mem_filter]
      exact ⟨AList.mem_lookup_iff.mp h.1, h.2⟩

omit [DecidableEq α] in
theorem nodup_keysWhere (m : FMap α β) (p : α → β → Bool) : (m.keysWhere p).Nodup := by
  have hsub : (m.keysWhere p).Sublist m.keys := by
    apply List.Sublist.map
    exact List.filter_sublist
  exact hsub.nodup m.keys_nodup

theorem key_of_lookup_ofValues {key : β → α} {values : List β} {k : α} {v : β}
    (h : (ofValues key values).lookup k = some v)
    : key v = k := by
  induction values using List.reverseRecOn with
  | nil => simp at h
  | append_singleton values w ih =>
    rw [ofValues_concat, lookup_insert_eq] at h
    split at h
    . next hk =>
      injection h with h
      rw [← h, hk]
    . exact ih h

theorem lookup_ofValues_of_nodup {key : β → α} {values : List β}
    (hnodup : (values.map key).Nodup) {k : α} {v : β}
    : (ofValues key values).lookup k = some v ↔ v ∈ values ∧ key v = k := by
  induction values using List.reverseRecOn with
  | nil => simp
  | append_singleton values w ih =>
    rw [List.map_append, List.nodup_append] at hnodup
    obtain ⟨hleft, -, hdisj⟩ := hnodup
    rw [ofValues_concat, lookup_insert_eq]
    split
    . next hk =>
      subst hk
      simp only [Option.some.injEq, List.mem_append, List.mem_singleton]
      constructor
      . intro h
        subst h
        simp
      . rintro ⟨h | h, hkey⟩
        . exfalso
          apply hdisj (key v) (List.mem_map_of_mem h) (key w)
          . simp
          . exact hkey
        . exact h.symm
    . next hk =>
      rw [ih hleft]
      simp only [List.mem_append, List.mem_singleton]
      constructor
      . rintro ⟨h1, h2⟩
        exact ⟨.inl h1, h2⟩
      . rintro ⟨h | h, h2⟩
        . exact ⟨h, h2⟩
        . subst h
          exact absurd h2.symm hk

theorem nodup_map_key_values {key : β → α} {m : FMap α β}
    (hkey : ∀ k v, m.lookup k = some v → key v = k)
    : (m.values.map key).Nodup := by
  have : m.values.map key = m.keys := by
    unfold values
    rw [AList.keys, List.keys, List.map_map]
    apply List.map_congr_left
    rintro ⟨k, v⟩ hmem
    exact hkey k v (AList.mem_lookup_iff.mpr hmem)
  rw [this]
  exact m.keys_nodup

end FMap

-- The order is some rearrangement of the keys; which one is up to the process that built the map.
structure HashOrder (α : Type u) where
  keys : List α → List α
  keys_perm : ∀ l, (keys l).Perm l

namespace HashOrder

theorem mem_keys {α : Type u} (order : HashOrder α) {l : List α} {k : α}
    : k ∈ order.keys l ↔ k ∈ l :=
  (order.keys_perm l).mem_iff

def insertion (α : Type u) : HashOrder α where
  keys l := l
  keys_perm _ := List.Perm.refl _

end HashOrder

/-!
Finite maps whose entries are read in the order of their keys.
-/

namespace FMap

variable {α : Type u} {β : Type v} [DecidableEq α]

section Order

variable (le : α → α → Prop) [DecidableRel le]

def sortedKeys (m : FMap α β) : List α :=
  m.keys.insertionSort le

omit [DecidableEq α] in
theorem sortedKeys_perm (m : FMap α β) : (m.sortedKeys le).Perm m.keys :=
  List.perm_insertionSort le m.keys

theorem mem_sortedKeys {m : FMap α β} {k : α} : k ∈ m.sortedKeys le ↔ ∃ v, m.lookup k = some v := by
  rw [(sortedKeys_perm le m).mem_iff, mem_keys_iff]

omit [DecidableEq α] in
theorem nodup_sortedKeys (m : FMap α β) : (m.sortedKeys le).Nodup :=
  (sortedKeys_perm le m).nodup_iff.mpr m.keys_nodup

end Order

def ofKeys (keys : List α) (value : α → Option β) : FMap α β :=
  keys.foldl (fun m k =>
    match value k with
    | some v => m.insert k v
    | none => m) ∅

theorem lookup_foldl_ofKeys (keys : List α) (value : α → Option β) (m : FMap α β) (k : α)
    (hm : m.lookup k = none ∨ m.lookup k = value k)
    : (keys.foldl (fun m k =>
        match value k with
        | some v => m.insert k v
        | none => m) m).lookup k = if k ∈ keys then value k else m.lookup k := by
  induction keys generalizing m with
  | nil => rfl
  | cons key keys ih =>
    rw [List.foldl_cons]
    cases hvalue : value key with
    | none =>
      rw [ih _ hm]
      by_cases hk : k = key
      . subst hk
        rw [hvalue] at hm ⊢
        simp [or_self_iff.mp hm]
      . simp [hk]
    | some v =>
      have hnext : (m.insert key v).lookup k = none ∨ (m.insert key v).lookup k = value k := by
        rw [lookup_insert_eq]
        split
        . next hk =>
          rw [hk, hvalue]
          exact .inr rfl
        . exact hm
      rw [ih _ hnext, lookup_insert_eq]
      by_cases hk : k = key
      . subst hk
        simp [hvalue]
      . simp [hk]

theorem lookup_ofKeys (keys : List α) (value : α → Option β) (k : α)
    : (ofKeys keys value).lookup k = if k ∈ keys then value k else none := by
  unfold ofKeys
  rw [lookup_foldl_ofKeys keys value ∅ k (.inl (AList.lookup_empty k))]
  rfl

end FMap
