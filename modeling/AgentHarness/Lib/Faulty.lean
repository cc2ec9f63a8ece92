import Mathlib.Data.List.Basic

/-!
Programs over a state that outlives their failures: what was written before an error or a crash stays.
-/

abbrev Faulty (σ ε α : Type) := ExceptT ε (StateM σ) α

namespace Faulty

variable {σ ε α β γ : Type}

def exec (m : Faulty σ ε α) (s : σ) : Except ε α × σ := m s

@[simp]
theorem exec_pure (a : α) (s : σ) : exec (pure a : Faulty σ ε α) s = (.ok a, s) := rfl

@[simp]
theorem exec_get (s : σ) : exec (get : Faulty σ ε σ) s = (.ok s, s) := rfl

@[simp]
theorem exec_modify (f : σ → σ) (s : σ) : exec (modify f : Faulty σ ε PUnit) s = (.ok ⟨⟩, f s) := rfl

theorem exec_bind (m : Faulty σ ε α) (f : α → Faulty σ ε β) (s : σ)
    : exec (m >>= f) s = match exec m s with
      | (.ok a, later) => exec (f a) later
      | (.error e, later) => (.error e, later) := by
  cases h : exec m s with
  | mk result later =>
    have hm : m s = (result, later) := h
    cases result with
    | error e =>
      simp only [exec, Bind.bind, ExceptT.bind, ExceptT.mk, StateT.bind, hm]
      rfl
    | ok a =>
      simp only [exec, Bind.bind, ExceptT.bind, ExceptT.mk, StateT.bind, hm]
      rfl

theorem exec_bind_ok {m : Faulty σ ε α} {f : α → Faulty σ ε β} {s later : σ} {a : α}
    (h : exec m s = (.ok a, later))
    : exec (m >>= f) s = exec (f a) later := by
  rw [exec_bind, h]

theorem exec_bind_error {m : Faulty σ ε α} {f : α → Faulty σ ε β} {s later : σ} {e : ε}
    (h : exec m s = (.error e, later))
    : exec (m >>= f) s = (.error e, later) := by
  rw [exec_bind, h]

def Keeps (view : σ → γ) (m : Faulty σ ε α) : Prop :=
  ∀ s, view (exec m s).2 = view s

namespace Keeps

variable {view : σ → γ}

theorem pure (a : α) : Keeps view (Pure.pure a : Faulty σ ε α) := fun _ => rfl

theorem throw (e : ε) : Keeps view (MonadExcept.throw e : Faulty σ ε α) := fun _ => rfl

theorem get : Keeps view (MonadState.get : Faulty σ ε σ) := fun _ => rfl

theorem modify {f : σ → σ} (h : ∀ s, view (f s) = view s)
    : Keeps view (modify f : Faulty σ ε PUnit) := h

theorem bind {m : Faulty σ ε α} {f : α → Faulty σ ε β} (h : Keeps view m) (h' : ∀ a, Keeps view (f a))
    : Keeps view (m >>= f) := by
  intro s
  have hm := h s
  rw [exec_bind]
  rcases heq : exec m s with ⟨result, later⟩
  rw [heq] at hm
  cases result with
  | ok a => exact (h' a later).trans hm
  | error e => exact hm

theorem ite {c : Prop} [Decidable c] {m m' : Faulty σ ε α} (h : Keeps view m) (h' : Keeps view m')
    : Keeps view (if c then m else m') := by
  split
  . exact h
  . exact h'

end Keeps

end Faulty
