import AgentHarness.Lib.Map

/-!
The latest value under each key of a log.
-/

namespace Latest

variable {α : Type u} {κ : Type v} [DecidableEq κ] (key : α → κ) (replaces : α → α → Bool)

def later (current : Option α) (value : α) : Option α :=
  if current.all (replaces · value) then some value else current

def latest (values : List α) : Option α :=
  values.foldl (later replaces) none

def putLater (found : FMap κ α) (value : α) : FMap κ α :=
  if (found.lookup (key value)).all (replaces · value) then found.insert (key value) value else found

def latestBy (values : List α) : FMap κ α :=
  values.foldl (putLater key replaces) ∅

variable {key replaces}

@[simp]
theorem latest_nil : latest replaces ([] : List α) = none := rfl

@[simp]
theorem latest_concat (values : List α) (value : α)
    : latest replaces (values ++ [value]) = later replaces (latest replaces values) value := by
  simp [latest]

@[simp]
theorem latestBy_concat (values : List α) (value : α)
    : latestBy key replaces (values ++ [value])
        = putLater key replaces (latestBy key replaces values) value := by
  simp [latestBy]

theorem lookup_putLater (found : FMap κ α) (value : α) (k : κ)
    : (putLater key replaces found value).lookup k
        = if key value = k then later replaces (found.lookup k) value else found.lookup k := by
  unfold putLater later
  by_cases hkey : key value = k
  . subst hkey
    rw [if_pos rfl]
    split
    . rw [AList.lookup_insert]
    . rfl
  . rw [if_neg hkey]
    split
    . rw [AList.lookup_insert_ne (Ne.symm hkey)]
    . rfl

theorem lookup_latestBy (values : List α) (k : κ)
    : (latestBy key replaces values).lookup k = latest replaces (values.filter (key · = k)) := by
  induction values using List.reverseRecOn with
  | nil => rfl
  | append_singleton values value ih =>
    rw [latestBy_concat, lookup_putLater, ih, List.filter_append]
    split
    . next hkey =>
      rw [List.filter_cons_of_pos (by simpa using hkey), List.filter_nil, latest_concat]
    . next hkey =>
      rw [List.filter_cons_of_neg (by simpa using hkey), List.filter_nil, List.append_nil]

theorem mem_of_latest {values : List α} {value : α} (h : latest replaces values = some value)
    : value ∈ values := by
  induction values using List.reverseRecOn with
  | nil => cases h
  | append_singleton values last ih =>
    rw [latest_concat, later] at h
    rw [List.mem_append, List.mem_singleton]
    split at h
    . injection h with h
      exact .inr h.symm
    . exact .inl (ih h)

theorem latest_isSome (replaces : α → α → Bool) {values : List α} {value : α} (h : value ∈ values)
    : ∃ last, latest replaces values = some last := by
  cases values using List.reverseRecOn with
  | nil => cases h
  | append_singleton values last =>
    rw [latest_concat, later]
    cases hlatest : latest replaces values with
    | none => exact ⟨last, rfl⟩
    | some current =>
      split
      . exact ⟨last, rfl⟩
      . exact ⟨current, rfl⟩

theorem of_lookup_latestBy {values : List α} {k : κ} {value : α}
    (h : (latestBy key replaces values).lookup k = some value)
    : value ∈ values ∧ key value = k := by
  rw [lookup_latestBy] at h
  simpa using mem_of_latest h

section Order

variable (total : ∀ a b, replaces a b ∨ replaces b a)
  (trans : ∀ a b c, replaces a b → replaces b c → replaces a c)

include total trans

theorem replaces_latest {values : List α} {last : α} (h : latest replaces values = some last)
    {value : α} (hvalue : value ∈ values)
    : replaces value last := by
  induction values using List.reverseRecOn generalizing last value with
  | nil => cases hvalue
  | append_singleton values final ih =>
    rw [latest_concat, later] at h
    rw [List.mem_append, List.mem_singleton] at hvalue
    have hself : replaces final final := by simpa using total final final
    cases hcurrent : latest replaces values with
    | none =>
      rw [hcurrent] at h
      injection h with h
      cases hvalue with
      | inl hvalue =>
        obtain ⟨found, hfound⟩ := latest_isSome replaces hvalue
        rw [hfound] at hcurrent
        cases hcurrent
      | inr hvalue =>
        rw [hvalue, ← h]
        exact hself
    | some current =>
      rw [hcurrent] at h
      split at h
      . next hlater =>
        have hlater : replaces current final := by simpa using hlater
        injection h with h
        subst h
        cases hvalue with
        | inl hvalue => exact trans _ _ _ (ih hcurrent hvalue) hlater
        | inr hvalue =>
          rw [hvalue]
          exact hself
      . next hlater =>
        have hlater : ¬replaces current final := by simpa using hlater
        injection h with h
        subst h
        cases hvalue with
        | inl hvalue => exact ih hcurrent hvalue
        | inr hvalue =>
          rw [hvalue]
          cases total current final with
          | inl hback => exact absurd hback hlater
          | inr hforth => exact hforth

theorem latest_filter {values : List α} {last : α} (h : latest replaces values = some last)
    {p : α → Bool} (hp : p last)
    : latest replaces (values.filter p) = some last := by
  induction values using List.reverseRecOn generalizing last with
  | nil => cases h
  | append_singleton values final ih =>
    rw [List.filter_append]
    rw [latest_concat, later] at h
    split at h
    . next hlater =>
      injection h with h
      subst h
      rw [List.filter_cons_of_pos hp, List.filter_nil, latest_concat, later]
      cases hfound : latest replaces (values.filter p) with
      | none => rfl
      | some found =>
        have hmem := (List.mem_filter.mp (mem_of_latest hfound)).1
        obtain ⟨current, hcurrent⟩ := latest_isSome replaces hmem
        rw [hcurrent] at hlater
        have hlater : replaces current final := by simpa using hlater
        have hle := replaces_latest total trans hcurrent hmem
        have hall := trans _ _ _ hle hlater
        simp [hall]
    . next hlater =>
      have hrest := ih h hp
      by_cases hfinal : p final
      . rw [List.filter_cons_of_pos hfinal, List.filter_nil, latest_concat, hrest, later]
        rw [h] at hlater
        rw [if_neg hlater]
      . rw [List.filter_cons_of_neg hfinal, List.filter_nil, List.append_nil, hrest]

theorem latest_perm {values values' : List α}
    (antisymm : ∀ a ∈ values, ∀ b ∈ values, replaces a b → replaces b a → a = b)
    (hperm : values.Perm values')
    : latest replaces values = latest replaces values' := by
  cases hlatest : latest replaces values with
  | none =>
    cases values with
    | nil => rw [List.nil_perm.mp hperm, latest_nil]
    | cons value values =>
      have hvalue : value ∈ value :: values := List.mem_cons_self
      obtain ⟨last, hlast⟩ := latest_isSome replaces hvalue
      rw [hlast] at hlatest
      contradiction
  | some last =>
    have hmem := mem_of_latest hlatest
    obtain ⟨last', hlatest'⟩ := latest_isSome replaces (hperm.mem_iff.mp hmem)
    have hmem' := hperm.mem_iff.mpr (mem_of_latest hlatest')
    rw [hlatest', Option.some.injEq]
    apply antisymm _ hmem _ hmem'
    . exact replaces_latest total trans hlatest' (hperm.mem_iff.mp hmem)
    . exact replaces_latest total trans hlatest hmem'

end Order

end Latest
