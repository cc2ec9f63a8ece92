import Mathlib.Data.List.Forall2
import Mathlib.Algebra.Group.Int.Defs
import Mathlib.Algebra.GroupWithZero.Nat

/-!
The errors and the bounded integers of the modelled programs.
-/

inductive ErrorKind where
  | notFound
  | permissionDenied
  | alreadyExists
  | wouldBlock
  | invalidInput
  | invalidData
  | timedOut
  | unsupported
  | other
  deriving DecidableEq

structure IoError where
  kind : ErrorKind
  message : String
  deriving DecidableEq

instance : Inhabited IoError where
  default := { kind := .other, message := "" }

/-
What an operation leaves behind: the state it has written and the value or error it returns. An
error does not undo what was written before it.
-/
abbrev Outcome (σ : Type u) (α : Type v) := σ × Except IoError α

namespace Outcome

-- the `?` of the sources: go on with the value, or return the error
def andThen {σ : Type u} {α : Type v} {β : Type w} (first : Outcome σ α)
    (next : σ → α → Outcome σ β)
    : Outcome σ β :=
  match first with
  | (s, .error e) => (s, .error e)
  | (s, .ok a) => next s a

@[simp]
theorem andThen_error {σ : Type u} {α : Type v} {β : Type w} (s : σ) (e : IoError)
    (next : σ → α → Outcome σ β)
    : andThen (s, .error e) next = (s, .error e) := rfl

@[simp]
theorem andThen_ok {σ : Type u} {α : Type v} {β : Type w} (s : σ) (a : α)
    (next : σ → α → Outcome σ β)
    : andThen (s, .ok a) next = next s a := rfl

theorem andThen_eq_ok {σ : Type u} {α : Type v} {β : Type w} {first : Outcome σ α}
    {next : σ → α → Outcome σ β} {s : σ} {b : β}
    : first.andThen next = (s, .ok b) ↔ ∃ t a, first = (t, .ok a) ∧ next t a = (s, .ok b) := by
  obtain ⟨t, result⟩ := first
  cases result with
  | error e => simp
  | ok a => simp

theorem andThen_fst {σ : Type u} {α : Type v} {β : Type w} {first : Outcome σ α}
    {next : σ → α → Outcome σ β} (motive : σ → Prop) (hfirst : motive first.1)
    (hnext : ∀ a, first.2 = .ok a → motive (next first.1 a).1)
    : motive (first.andThen next).1 := by
  unfold andThen
  split
  . exact hfirst
  . exact hnext _ rfl

end Outcome

namespace Except

variable {ε : Type u} {α β : Type v}

theorem bind_eq_ok {x : Except ε α} {f : α → Except ε β} {b : β}
    : (x >>= f) = .ok b ↔ ∃ a, x = .ok a ∧ f a = .ok b := by
  cases x with
  | error e => simp [bind, Except.bind]
  | ok a => simp [bind, Except.bind]

theorem bind_eq_error {x : Except ε α} {f : α → Except ε β} {e : ε}
    : (x >>= f) = .error e ↔ x = .error e ∨ ∃ a, x = .ok a ∧ f a = .error e := by
  cases x with
  | error e => simp [bind, Except.bind]
  | ok a => simp [bind, Except.bind]

def require (condition : Bool) (e : ε) : Except ε Unit :=
  if condition then .ok () else .error e

theorem require_eq_ok {condition : Bool} {e : ε} {u : Unit}
    : require condition e = .ok u ↔ condition = true := by
  unfold require
  split
  . next h => simp [h]
  . next h => simp [h]

theorem require_eq_error {condition : Bool} {e e' : ε}
    : require condition e = .error e' ↔ condition = false ∧ e = e' := by
  unfold require
  split
  . next h => simp [h]
  . next h => simp [h]

-- `ok_or_else`
def ofOption (x : Option α) (e : ε) : Except ε α :=
  match x with
  | some a => .ok a
  | none => .error e

theorem ofOption_eq_ok {x : Option α} {e : ε} {a : α} : ofOption x e = .ok a ↔ x = some a := by
  cases x with
  | none => simp [ofOption]
  | some b => simp [ofOption]

theorem mapError_eq_ok {ε' : Type w} {x : Except ε α} {f : ε → ε'} {a : α}
    : x.mapError f = .ok a ↔ x = .ok a := by
  cases x with
  | error e => simp [Except.mapError]
  | ok b => simp [Except.mapError]

theorem forM_eq_ok {xs : List α} {f : α → Except ε PUnit} {u : PUnit}
    : xs.forM f = .ok u ↔ ∀ x ∈ xs, f x = .ok .unit := by
  induction xs with
  | nil => simp [pure, Except.pure]
  | cons x xs ih =>
    have hcons : (x :: xs).forM f = (f x >>= fun _ => xs.forM f) := rfl
    rw [hcons, bind_eq_ok]
    simp only [ih, List.mem_cons, forall_eq_or_imp]
    constructor
    . intro h
      cases h with
      | intro _ h => exact h
    . intro h
      exact ⟨.unit, h⟩

theorem mapM_eq_ok {xs : List α} {f : α → Except ε β} {ys : List β}
    : xs.mapM f = .ok ys ↔ List.Forall₂ (fun x y => f x = .ok y) xs ys := by
  induction xs generalizing ys with
  | nil => simp [pure, Except.pure, eq_comm]
  | cons x xs ih =>
    rw [List.mapM_cons, bind_eq_ok]
    constructor
    . intro h
      obtain ⟨y, hy, h⟩ := h
      rw [bind_eq_ok] at h
      obtain ⟨rest, hrest, h⟩ := h
      have h : y :: rest = ys := by simpa [pure, Except.pure] using h
      rw [← h]
      exact .cons hy (ih.mp hrest)
    . intro h
      cases h with
      | cons hy hrest => exact ⟨_, hy, bind_eq_ok.mpr ⟨_, ih.mpr hrest, rfl⟩⟩

theorem mem_of_mapM_eq_ok {xs : List α} {f : α → Except ε β} {ys : List β}
    (h : xs.mapM f = .ok ys) {x : α} (hx : x ∈ xs)
    : ∃ y ∈ ys, f x = .ok y := by
  rw [mapM_eq_ok] at h
  induction h with
  | nil => simp at hx
  | cons hy _ ih =>
    cases List.mem_cons.mp hx with
    | inl hsame =>
      rw [hsame]
      exact ⟨_, List.mem_cons_self, hy⟩
    | inr hrest =>
      obtain ⟨y, hmem, hfound⟩ := ih hrest
      exact ⟨y, List.mem_cons_of_mem _ hmem, hfound⟩

theorem mapM_isOk {xs : List α} {f : α → Except ε β} (h : ∀ x ∈ xs, ∃ y, f x = .ok y)
    : ∃ ys, xs.mapM f = .ok ys := by
  simp only [mapM_eq_ok]
  induction xs with
  | nil => exact ⟨[], .nil⟩
  | cons x xs ih =>
    obtain ⟨y, hy⟩ := h x List.mem_cons_self
    obtain ⟨ys, hys⟩ := ih fun x hx => h x (List.mem_cons_of_mem _ hx)
    exact ⟨y :: ys, .cons hy hys⟩

theorem pure_ne_error {a : α} {e : ε} : (pure a : Except ε α) ≠ .error e := by
  simp [pure, Except.pure]

theorem pure_eq_ok {a b : α} : (pure a : Except ε α) = .ok b ↔ a = b := by
  simp [pure, Except.pure]

end Except

def u64Max : Nat := 2 ^ 64 - 1

def saturatingSucc (n : Nat) : Nat :=
  min (n + 1) u64Max

def i64Max : Int := 2 ^ 63 - 1

def i64Min : Int := -2 ^ 63

def saturateI64 (n : Int) : Int :=
  max i64Min (min n i64Max)

/-!
Files of JSON lines that are only appended to, and the saturating sums that are kept in them.
-/

inductive JsonLine (α : Type u) where
  | blank
  | malformed (reason : String)
  | value (a : α)
  deriving DecidableEq

namespace Saturating

-- `u64::saturating_add`
def add (m n : Nat) : Nat :=
  min (m + n) u64Max

def sum (values : List Nat) : Nat :=
  values.foldl add 0

theorem add_min (m n : Nat) : add (min m u64Max) n = min (m + n) u64Max := by
  unfold add
  omega

theorem foldl_add (values : List Nat) (m : Nat)
    : values.foldl add (min m u64Max) = min (m + values.sum) u64Max := by
  induction values generalizing m with
  | nil => simp
  | cons value values ih =>
    rw [List.foldl_cons, add_min, ih, List.sum_cons, Nat.add_assoc]

theorem sum_eq (values : List Nat) : sum values = min values.sum u64Max := by
  have h := foldl_add values 0
  simpa [sum] using h

end Saturating
