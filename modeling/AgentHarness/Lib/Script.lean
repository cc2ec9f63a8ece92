import Mathlib.Logic.Basic

/-!
Scripts of atomic operations on a state, any of which can fail or be the last one before a crash,
and the rule for what holds at every point of a script.
-/

inductive Script (σ : Type u) (ω : Type v) where
  | done
  | failed
  | op (o : ω) (onError next : Script σ ω)
  | read (next : σ → Script σ ω)

namespace Script

variable {σ : Type u} {ω : Type v}

def andThen (self next : Script σ ω) : Script σ ω :=
  match self with
  | .done => next
  | .failed => .failed
  | .op o onError rest => .op o (onError.andThen next) (rest.andThen next)
  | .read rest => .read fun s => (rest s).andThen next

def ignoring (o : ω) (next : Script σ ω) : Script σ ω :=
  .op o next next

def isFinished (self : Script σ ω) : Bool :=
  match self with
  | .done => true
  | .failed => true
  | _ => false

variable (apply : ω → σ → Option σ)

def step (s : σ) (self : Script σ ω) : σ × Script σ ω :=
  match self with
  | .op o onError next =>
    match apply o s with
    | some s => (s, next)
    | none => (s, onError)
  | .read next => (s, next s)
  | self => (s, self)

def fail (self : Script σ ω) : Script σ ω :=
  match self with
  | .op _ onError _ => onError
  | .read _ => .failed
  | self => self

def finish : Script σ ω → σ → σ
  | .done, s => s
  | .failed, s => s
  | .op o onError next, s =>
    match apply o s with
    | some s => finish next s
    | none => finish onError s
  | .read next, s => finish (next s) s

/-
Whatever fails on the way, `safe` holds between any two operations, and `post` holds where the
script ends without an error.
-/
def Keeps (safe post : σ → Prop) : Script σ ω → σ → Prop
  | .done, s => safe s ∧ post s
  | .failed, s => safe s
  | .op o onError next, s =>
    safe s ∧ Keeps safe post onError s ∧ ∀ s', apply o s = some s' → Keeps safe post next s'
  | .read next, s => safe s ∧ Keeps safe post (next s) s

variable {apply} {safe post : σ → Prop}

theorem Keeps.isSafe {script : Script σ ω} {s : σ} (h : Keeps apply safe post script s)
    : safe s := by
  cases script with
  | done => exact h.1
  | failed => exact h
  | op o onError next => exact h.1
  | read next => exact h.1

theorem Keeps.step {script : Script σ ω} {s : σ} (h : Keeps apply safe post script s)
    : Keeps apply safe post (Script.step apply s script).2 (Script.step apply s script).1 := by
  cases script with
  | done => exact h
  | failed => exact h
  | op o onError next =>
    cases ho : apply o s with
    | none => simpa [Script.step, ho] using h.2.1
    | some s' => simpa [Script.step, ho] using h.2.2 s' ho
  | read next => exact h.2

theorem Keeps.fail {script : Script σ ω} {s : σ} (h : Keeps apply safe post script s)
    : Keeps apply safe post (Script.fail script) s := by
  cases script with
  | done => exact h
  | failed => exact h
  | op o onError next => exact h.2.1
  | read next => exact h.1

theorem Keeps.mono {post' : σ → Prop} (hpost : ∀ s, safe s → post s → post' s)
    {script : Script σ ω} {s : σ} (h : Keeps apply safe post script s)
    : Keeps apply safe post' script s := by
  induction script generalizing s with
  | done => exact ⟨h.1, hpost s h.1 h.2⟩
  | failed => exact h
  | op o onError next ihError ihNext =>
    refine ⟨h.1, ihError h.2.1, ?_⟩
    intro s' hs'
    apply ihNext
    exact h.2.2 s' hs'
  | read next ih => exact ⟨h.1, ih s h.2⟩

theorem Keeps.failed {s : σ} (hsafe : safe s)
    : Keeps apply safe post (.failed : Script σ ω) s := hsafe

theorem Keeps.op {o : ω} {onError next : Script σ ω} {s s' : σ} (happly : apply o s = some s')
    (hsafe : safe s) (herror : Keeps apply safe post onError s)
    (hnext : Keeps apply safe post next s')
    : Keeps apply safe post (.op o onError next) s := by
  refine ⟨hsafe, herror, ?_⟩
  intro t ht
  rw [happly, Option.some.injEq] at ht
  rw [← ht]
  exact hnext

theorem Keeps.ignoring {o : ω} {next : Script σ ω} {s s' : σ} (happly : apply o s = some s')
    (hskip : Keeps apply safe post next s) (hnext : Keeps apply safe post next s')
    : Keeps apply safe post (.ignoring o next) s :=
  Keeps.op happly hskip.isSafe hskip hnext

theorem Keeps.andThen {script next : Script σ ω} {s : σ}
    (h : Keeps apply safe (Keeps apply safe post next) script s)
    : Keeps apply safe post (script.andThen next) s := by
  induction script generalizing s with
  | done => exact h.2
  | failed => exact h
  | op o onError rest ihError ihRest =>
    refine ⟨h.1, ihError h.2.1, ?_⟩
    intro s' hs'
    apply ihRest
    exact h.2.2 s' hs'
  | read rest ih => exact ⟨h.1, ih s h.2⟩

theorem Keeps.finish {script : Script σ ω} {s : σ} (h : Keeps apply safe post script s)
    : safe (Script.finish apply script s) := by
  induction script generalizing s with
  | done => exact h.1
  | failed => exact h
  | op o onError next ihError ihNext =>
    cases ho : apply o s with
    | none => simpa only [Script.finish, ho] using ihError h.2.1
    | some s' => simpa only [Script.finish, ho] using ihNext (h.2.2 s' ho)
  | read next ih => exact ih s h.2

theorem finish_op {o : ω} {onError next : Script σ ω} {s s' : σ} (happly : apply o s = some s')
    : finish apply (.op o onError next) s = finish apply next s' := by
  simp only [finish, happly]

end Script

/-!
Crashes of a script: the state that its first so many steps leave, and what holds of all of them. A script
on which nothing fails comes to its end, from wherever a crash has left the one before it.
-/

namespace Script

variable {σ : Type u} {ω : Type v} (apply : ω → σ → Option σ)

def cut : Nat → Script σ ω → σ → σ
  | 0, _, s => s
  | n + 1, self, s =>
    let next := step apply s self
    cut n next.2 next.1

def succeeds : Script σ ω → σ → Bool
  | .done, _ => true
  | .failed, _ => false
  | .op o onError next, s =>
    match apply o s with
    | some s => succeeds next s
    | none => succeeds onError s
  | .read next, s => succeeds (next s) s

def Durable (safe : σ → Prop) (script : Script σ ω) (s : σ) : Prop :=
  ∀ n, safe (cut apply n script s)

/-
No operation fails: `safe` holds between any two of them, and `post` where the script ends.
-/
def Completes (safe post : σ → Prop) : Script σ ω → σ → Prop
  | .done, s => safe s ∧ post s
  | .failed, _ => False
  | .op o _ next, s => safe s ∧ ∃ s', apply o s = some s' ∧ Completes safe post next s'
  | .read next, s => safe s ∧ Completes safe post (next s) s

variable {apply} {safe post : σ → Prop}

theorem cut_done (n : Nat) (s : σ) : cut apply n .done s = s := by
  induction n with
  | zero => rfl
  | succ n ih => exact ih

theorem cut_failed (n : Nat) (s : σ) : cut apply n .failed s = s := by
  induction n with
  | zero => rfl
  | succ n ih => exact ih

theorem cut_op {o : ω} {onError next : Script σ ω} {s s' : σ} (happly : apply o s = some s')
    (n : Nat)
    : cut apply (n + 1) (.op o onError next) s = cut apply n next s' := by
  simp only [cut, step, happly]

theorem cut_op_none {o : ω} {onError next : Script σ ω} {s : σ} (happly : apply o s = none)
    (n : Nat)
    : cut apply (n + 1) (.op o onError next) s = cut apply n onError s := by
  simp only [cut, step, happly]

theorem finish_invariant {inv : σ → Prop} (h : ∀ o s s', apply o s = some s' → inv s → inv s')
    (script : Script σ ω) {s : σ} (hs : inv s)
    : inv (finish apply script s) := by
  induction script generalizing s with
  | done => exact hs
  | failed => exact hs
  | op o onError next ihError ihNext =>
    cases ho : apply o s with
    | none => simpa only [finish, ho] using ihError hs
    | some s' => simpa only [finish, ho] using ihNext (h o s s' ho hs)
  | read next ih => exact ih s hs

theorem Durable.done {s : σ} (h : safe s) : Durable apply safe .done s := by
  intro n
  rw [cut_done]
  exact h

theorem Durable.failed {s : σ} (h : safe s) : Durable apply safe .failed s := by
  intro n
  rw [cut_failed]
  exact h

theorem Durable.read {next : σ → Script σ ω} {s : σ} (h : Durable apply safe (next s) s)
    : Durable apply safe (.read next) s := by
  intro n
  cases n with
  | zero => exact h 0
  | succ n => exact h n

theorem Durable.op {o : ω} {onError next : Script σ ω} {s : σ} (h : safe s)
    (hnone : apply o s = none → Durable apply safe onError s)
    (hsome : ∀ s', apply o s = some s' → Durable apply safe next s')
    : Durable apply safe (.op o onError next) s := by
  intro n
  cases n with
  | zero => exact h
  | succ n =>
    cases ho : apply o s with
    | none =>
      rw [cut_op_none ho]
      exact hnone ho n
    | some s' =>
      rw [cut_op ho]
      exact hsome s' ho n

theorem Completes.op {o : ω} {onError next : Script σ ω} {s s' : σ} (happly : apply o s = some s')
    (hsafe : safe s) (hnext : Completes apply safe post next s')
    : Completes apply safe post (.op o onError next) s :=
  ⟨hsafe, s', happly, hnext⟩

theorem Completes.mono {safe' post' : σ → Prop} (hsafe : ∀ s, safe s → safe' s)
    (hpost : ∀ s, post s → post' s) {script : Script σ ω} {s : σ}
    (h : Completes apply safe post script s)
    : Completes apply safe' post' script s := by
  induction script generalizing s with
  | done => exact ⟨hsafe s h.1, hpost s h.2⟩
  | failed => exact h
  | op o onError next ihError ihNext =>
    obtain ⟨s', happly, hnext⟩ := h.2
    exact ⟨hsafe s h.1, s', happly, ihNext hnext⟩
  | read next ih => exact ⟨hsafe s h.1, ih s h.2⟩

theorem Completes.durable {script : Script σ ω} {s : σ} (h : Completes apply safe post script s)
    : Durable apply safe script s := by
  induction script generalizing s with
  | done => exact Durable.done h.1
  | failed => exact h.elim
  | op o onError next ihError ihNext =>
    obtain ⟨s', happly, hnext⟩ := h.2
    apply Durable.op h.1
    . intro hnone
      rw [happly] at hnone
      contradiction
    . intro t ht
      rw [happly, Option.some.injEq] at ht
      rw [← ht]
      exact ihNext hnext
  | read next ih => exact Durable.read (ih s h.2)

theorem Completes.succeeds {script : Script σ ω} {s : σ} (h : Completes apply safe post script s)
    : succeeds apply script s = true := by
  induction script generalizing s with
  | done => rfl
  | failed => exact h.elim
  | op o onError next ihError ihNext =>
    obtain ⟨s', happly, hnext⟩ := h.2
    simp only [Script.succeeds, happly]
    exact ihNext hnext
  | read next ih => exact ih s h.2

theorem Completes.finish {script : Script σ ω} {s : σ} (h : Completes apply safe post script s)
    : safe (finish apply script s) ∧ post (finish apply script s) := by
  induction script generalizing s with
  | done => exact h
  | failed => exact h.elim
  | op o onError next ihError ihNext =>
    obtain ⟨s', happly, hnext⟩ := h.2
    rw [finish_op happly]
    exact ihNext hnext
  | read next ih => exact ih s h.2

-- the end that a script comes to is the one that `finish` computes
theorem Completes.atFinish {script : Script σ ω} {s : σ} (h : Completes apply safe post script s)
    : Completes apply safe (fun t => post t ∧ t = Script.finish apply script s) script s := by
  induction script generalizing s with
  | done => exact ⟨h.1, h.2, rfl⟩
  | failed => exact h
  | op o onError next ihError ihNext =>
    obtain ⟨s', happly, hnext⟩ := h.2
    rw [finish_op happly]
    exact ⟨h.1, s', happly, ihNext hnext⟩
  | read next ih => exact ⟨h.1, ih s h.2⟩

theorem Completes.andThen {script next : Script σ ω} {s : σ}
    (h : Completes apply safe (Completes apply safe post next) script s)
    : Completes apply safe post (script.andThen next) s := by
  induction script generalizing s with
  | done => exact h.2
  | failed => exact h
  | op o onError rest ihError ihRest =>
    obtain ⟨s', happly, hrest⟩ := h.2
    exact ⟨h.1, s', happly, ihRest hrest⟩
  | read rest ih => exact ⟨h.1, ih s h.2⟩

theorem durable_crashes {recovery : Script σ ω}
    (h : ∀ s, safe s → Durable apply safe recovery s) (crashes : List Nat) {s : σ} (hs : safe s)
    : safe (crashes.foldl (fun s n => cut apply n recovery s) s) := by
  induction crashes generalizing s with
  | nil => exact hs
  | cons n crashes ih =>
    rw [List.foldl_cons]
    apply ih
    exact h s hs n

end Script
