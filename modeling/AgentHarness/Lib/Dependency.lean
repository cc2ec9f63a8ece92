import Mathlib.Order.WellFounded

/-!
Dependency relations given by a partial successor function: `succ a = some l` says that the node `a`
exists and needs the nodes of `l`.
-/

namespace Dependency

variable {α : Type u}

def Needs (succ : α → Option (List α)) (b a : α) : Prop :=
  ∃ deps, succ a = some deps ∧ b ∈ deps

def Closed (succ : α → Option (List α)) : Prop :=
  ∀ a b, Needs succ b a → (succ b).isSome

def Acyclic (succ : α → Option (List α)) : Prop :=
  ∀ a, ¬Relation.TransGen (Needs succ) a a

theorem acc_of_none {succ : α → Option (List α)} {a : α} (h : succ a = none)
    : Acc (Needs succ) a := by
  constructor
  rintro b ⟨deps, hdeps, -⟩
  rw [h] at hdeps
  contradiction

theorem acc_of_deps {succ : α → Option (List α)} {a : α} {deps : List α} (h : succ a = some deps)
    (hacc : ∀ b ∈ deps, Acc (Needs succ) b)
    : Acc (Needs succ) a := by
  constructor
  rintro b ⟨deps', hdeps', hb⟩
  rw [h] at hdeps'
  injection hdeps' with hdeps'
  subst hdeps'
  exact hacc b hb

theorem acyclic_of_acc {succ : α → Option (List α)} (h : ∀ a, Acc (Needs succ) a)
    : Acyclic succ := by
  intro a ha
  have hwf : WellFounded (Relation.TransGen (Needs succ)) := WellFounded.transGen ⟨h⟩
  exact hwf.irrefl.irrefl a ha

theorem acc_congr {succ succ' : α → Option (List α)} (hclosed : Closed succ)
    (heq : ∀ a, (succ a).isSome → succ' a = succ a) {a : α} (hacc : Acc (Needs succ) a)
    : (succ a).isSome → Acc (Needs succ') a := by
  induction hacc with
  | intro a _ ih =>
    intro hsome
    constructor
    rintro b ⟨deps, hdeps, hb⟩
    rw [heq a hsome] at hdeps
    have hneeds : Needs succ b a := ⟨deps, hdeps, hb⟩
    exact ih b hneeds (hclosed a b hneeds)

theorem acc_insert_fresh [DecidableEq α] {succ succ' : α → Option (List α)} {new : α}
    {deps : List α} (hclosed : Closed succ) (hacc : ∀ a, Acc (Needs succ) a)
    (hfresh : succ new = none) (hdeps : ∀ b ∈ deps, (succ b).isSome)
    (hsucc' : ∀ a, succ' a = if a = new then some deps else succ a)
    : ∀ a, Acc (Needs succ') a := by
  have hold : ∀ a, (succ a).isSome → Acc (Needs succ') a := by
    intro a ha
    apply acc_congr hclosed _ (hacc a) ha
    intro b hb
    rw [hsucc', if_neg]
    intro hbn
    subst hbn
    simp [hfresh] at hb
  intro a
  by_cases ha : a = new
  . subst ha
    have hself : succ' a = some deps := by
      rw [hsucc', if_pos rfl]
    apply acc_of_deps hself
    intro b hb
    exact hold b (hdeps b hb)
  . by_cases hsome : (succ a).isSome
    . exact hold a hsome
    . apply acc_of_none
      rw [hsucc', if_neg ha]
      simpa using hsome

end Dependency
