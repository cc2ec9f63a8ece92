import AgentHarness.Lib.Script

/-!
Processes that run their scripts side by side on one state.
-/

namespace Script

variable {σ : Type u} {ω : Type v}

def Ops (p : ω → Prop) : Script σ ω → Prop
  | .done => True
  | .failed => True
  | .op o onError next => p o ∧ Ops p onError ∧ Ops p next
  | .read next => ∀ s, Ops p (next s)

theorem Ops.step {p : ω → Prop} (apply : ω → σ → Option σ) {script : Script σ ω}
    (h : Ops p script) (s : σ)
    : Ops p (Script.step apply s script).2 := by
  cases script with
  | done => exact h
  | failed => exact h
  | op o onError next =>
    cases ho : apply o s with
    | none => simpa [Script.step, ho] using h.2.1
    | some s' => simpa [Script.step, ho] using h.2.2
  | read next => exact h s

theorem Ops.mono {p q : ω → Prop} {script : Script σ ω} (h : Ops p script) (hpq : ∀ o, p o → q o)
    : Ops q script := by
  induction script with
  | done => exact trivial
  | failed => exact trivial
  | op o onError next ihError ihNext => exact ⟨hpq o h.1, ihError h.2.1, ihNext h.2.2⟩
  | read next ih =>
    intro s
    exact ih s (h s)

theorem Ops.ignoring {p : ω → Prop} {o : ω} {next : Script σ ω} (ho : p o) (hnext : Ops p next)
    : Ops p (.ignoring o next) :=
  ⟨ho, hnext, hnext⟩

theorem Ops.foldr {p : ω → Prop} {α : Type w} {f : α → Script σ ω → Script σ ω} {l : List α}
    {next : Script σ ω} (hnext : Ops p next)
    (hf : ∀ a ∈ l, ∀ rest, Ops p rest → Ops p (f a rest))
    : Ops p (l.foldr f next) := by
  induction l with
  | nil => exact hnext
  | cons a l ih =>
    rw [List.foldr_cons]
    apply hf a List.mem_cons_self
    apply ih
    intro b hb
    exact hf b (List.mem_cons_of_mem a hb)

variable (apply : ω → σ → Option σ) (rely : σ → σ → Prop)

/-
Between two steps of the script the others move the state by `rely`. Then every operation that the
script comes to is performed in a state with `p`.
-/
def Relies (p : ω → σ → Prop) : Script σ ω → σ → Prop
  | .done, _ => True
  | .failed, _ => True
  | .op o onError next, s => ∀ t, rely s t →
    p o t ∧ Relies p onError t ∧ ∀ t', apply o t = some t' → Relies p next t'
  | .read next, s => ∀ t, rely s t → Relies p (next t) t

variable {apply rely} {p : ω → σ → Prop}

theorem Relies.moved (htrans : ∀ s t u, rely s t → rely t u → rely s u) {script : Script σ ω}
    {s t : σ} (h : Relies apply rely p script s) (hrely : rely s t)
    : Relies apply rely p script t := by
  cases script with
  | done => exact trivial
  | failed => exact trivial
  | op o onError next =>
    intro u hu
    apply h
    exact htrans s t u hrely hu
  | read next =>
    intro u hu
    apply h
    exact htrans s t u hrely hu

theorem Relies.step (hrefl : ∀ s, rely s s) {script : Script σ ω} {s : σ}
    (h : Relies apply rely p script s)
    : Relies apply rely p (Script.step apply s script).2 (Script.step apply s script).1 := by
  cases script with
  | done => exact trivial
  | failed => exact trivial
  | op o onError next =>
    have hs := h s (hrefl s)
    cases ho : apply o s with
    | none => simpa [Script.step, ho] using hs.2.1
    | some s' => simpa [Script.step, ho] using hs.2.2 s' ho
  | read next =>
    apply h
    apply hrefl

theorem Relies.of_ops {script : Script σ ω} (h : Ops (fun o => ∀ s, p o s) script) (s : σ)
    : Relies apply rely p script s := by
  induction script generalizing s with
  | done => exact trivial
  | failed => exact trivial
  | op o onError next ihError ihNext =>
    intro t _
    refine ⟨h.1 t, ihError h.2.1 t, ?_⟩
    intro t' _
    exact ihNext h.2.2 t'
  | read next ih =>
    intro t _
    exact ih t (h t) t

theorem Relies.ignoring {o : ω} {next : Script σ ω} {s : σ} (ho : ∀ t, p o t)
    (hnext : ∀ t, rely s t → Relies apply rely p next t)
    (hdone : ∀ t t', rely s t → apply o t = some t' → Relies apply rely p next t')
    : Relies apply rely p (.ignoring o next) s := by
  intro t ht
  refine ⟨ho t, hnext t ht, ?_⟩
  intro t' ht'
  exact hdone t t' ht ht'

end Script

structure Pool (σ : Type u) (ω : Type v) where
  shared : σ
  processes : Nat → Script σ ω

inductive PoolAction (ε : Type w) where
  | run (i : Nat)
  | abort (i : Nat)
  | event (e : ε)

namespace Pool

variable {σ : Type u} {ω : Type v} {ε : Type w}

def set (self : Pool σ ω) (i : Nat) (script : Script σ ω) : Nat → Script σ ω :=
  fun j => if j = i then script else self.processes j

variable (apply : ω → σ → Option σ) (onAbort : Nat → σ → σ) (onEvent : ε → σ → σ)

def step (self : Pool σ ω) (action : PoolAction ε) : Pool σ ω :=
  match action with
  | .run i =>
    let next := Script.step apply self.shared (self.processes i)
    { shared := next.1, processes := self.set i next.2 }
  | .abort i => { shared := onAbort i self.shared, processes := self.set i .failed }
  | .event e => { self with shared := onEvent e self.shared }

variable {apply onAbort onEvent}

theorem shared_step (motive : σ → Prop) (pool : Pool σ ω) (action : PoolAction ε)
    (hsame : motive pool.shared)
    (hop : ∀ i o onError next s, action = .run i → pool.processes i = .op o onError next →
      apply o pool.shared = some s → motive s)
    (habort : ∀ i, motive (onAbort i pool.shared))
    (hevent : ∀ e, motive (onEvent e pool.shared))
    : motive (pool.step apply onAbort onEvent action).shared := by
  cases action with
  | run i =>
    simp only [step]
    cases hi : pool.processes i with
    | done => exact hsame
    | failed => exact hsame
    | op o onError next =>
      cases ho : apply o pool.shared with
      | none => simpa only [Script.step, ho] using hsame
      | some s =>
        simp only [Script.step, ho]
        exact hop i o onError next s rfl hi ho
    | read next => exact hsame
  | abort i => exact habort i
  | event e => exact hevent e

def Ops (p : Nat → ω → Prop) (pool : Pool σ ω) : Prop :=
  ∀ i, Script.Ops (p i) (pool.processes i)

theorem Ops.step {p : Nat → ω → Prop} {pool : Pool σ ω} (h : Ops p pool) (action : PoolAction ε)
    : Ops p (pool.step apply onAbort onEvent action) := by
  intro j
  cases action with
  | run i =>
    simp only [Pool.step, set]
    split
    . next hj =>
      subst hj
      apply Script.Ops.step
      exact h j
    . exact h j
  | abort i =>
    simp only [Pool.step, set]
    split
    . exact trivial
    . exact h j
  | event e => exact h j

end Pool
