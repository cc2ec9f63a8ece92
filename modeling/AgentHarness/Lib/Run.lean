import Mathlib.Logic.Relation
import Mathlib.Data.List.Nodup

/-!
Runs of a deterministic machine: a step function folded over a list of calls, and the two rules
that turn a fact about one step into a fact about every state of a run.
-/

namespace Run

variable {σ : Type u} {α : Type v}

def exec (step : σ → α → σ) (s : σ) (calls : List α) : σ :=
  calls.foldl step s

@[simp]
theorem exec_nil (step : σ → α → σ) (s : σ) : exec step s [] = s := rfl

@[simp]
theorem exec_cons (step : σ → α → σ) (s : σ) (a : α) (calls : List α)
    : exec step s (a :: calls) = exec step (step s a) calls := rfl

theorem exec_append (step : σ → α → σ) (s : σ) (xs ys : List α)
    : exec step s (xs ++ ys) = exec step (exec step s xs) ys := by
  simp [exec]

@[simp]
theorem exec_concat (step : σ → α → σ) (s : σ) (xs : List α) (a : α)
    : exec step s (xs ++ [a]) = step (exec step s xs) a := by
  simp [exec]

theorem exec_invariant {step : σ → α → σ} (inv : σ → Prop)
    (hstep : ∀ s a, inv s → inv (step s a)) {s : σ} (hs : inv s) (calls : List α)
    : inv (exec step s calls) := by
  induction calls generalizing s with
  | nil => exact hs
  | cons a calls ih =>
    rw [exec_cons]
    apply ih
    apply hstep
    exact hs

def Guarded (step : σ → α → σ) (guard : σ → α → Prop) : σ → List α → Prop
  | _, [] => True
  | s, a :: calls => guard s a ∧ Guarded step guard (step s a) calls

instance decidableGuarded (step : σ → α → σ) (guard : σ → α → Prop)
    [∀ s a, Decidable (guard s a)] (s : σ) (calls : List α)
    : Decidable (Guarded step guard s calls) :=
  match calls with
  | [] => isTrue trivial
  | a :: calls =>
    have := decidableGuarded step guard (step s a) calls
    inferInstanceAs (Decidable (guard s a ∧ Guarded step guard (step s a) calls))

theorem exec_invariant_of_guarded {step : σ → α → σ} {guard : σ → α → Prop} (inv : σ → Prop)
    (hstep : ∀ s a, inv s → guard s a → inv (step s a)) {s : σ} (hs : inv s) {calls : List α}
    (hguard : Guarded step guard s calls)
    : inv (exec step s calls) := by
  induction calls generalizing s with
  | nil => exact hs
  | cons a calls ih =>
    rw [exec_cons]
    apply ih
    . exact hstep s a hs hguard.1
    . exact hguard.2

theorem guarded_of_forall {step : σ → α → σ} {guard : σ → α → Prop} {calls : List α}
    (h : ∀ a ∈ calls, ∀ s, guard s a) (s : σ)
    : Guarded step guard s calls := by
  induction calls generalizing s with
  | nil => exact trivial
  | cons a calls ih =>
    refine ⟨h a List.mem_cons_self s, ?_⟩
    apply ih
    intro b hb
    exact h b (List.mem_cons_of_mem a hb)

theorem guarded_of_invariant {step : σ → α → σ} {guard : σ → α → Prop} (inv : σ → Prop)
    (hstep : ∀ s a, inv s → guard s a ∧ inv (step s a)) {s : σ} (hs : inv s) (calls : List α)
    : Guarded step guard s calls := by
  induction calls generalizing s with
  | nil => exact trivial
  | cons a calls ih =>
    obtain ⟨hguard, hnext⟩ := hstep s a hs
    exact ⟨hguard, ih hnext⟩

theorem guarded_mono {step : σ → α → σ} {guard guard' : σ → α → Prop}
    (h : ∀ s a, guard s a → guard' s a) {s : σ} {calls : List α} (hguard : Guarded step guard s calls)
    : Guarded step guard' s calls := by
  induction calls generalizing s with
  | nil => exact trivial
  | cons a calls ih => exact ⟨h s a hguard.1, ih hguard.2⟩

theorem guarded_append {step : σ → α → σ} {guard : σ → α → Prop} {s : σ} {xs ys : List α}
    : Guarded step guard s (xs ++ ys) ↔
        Guarded step guard s xs ∧ Guarded step guard (exec step s xs) ys := by
  induction xs generalizing s with
  | nil => simp [Guarded]
  | cons a xs ih => simp [Guarded, ih, and_assoc]

theorem guarded_iff_split {step : σ → α → σ} {guard : σ → α → Prop} {s : σ} {calls : List α}
    : Guarded step guard s calls
        ↔ ∀ before a after, calls = before ++ a :: after → guard (exec step s before) a := by
  constructor
  . rintro h before a after rfl
    exact (guarded_append.mp h).2.1
  . induction calls generalizing s with
    | nil =>
      intro h
      exact trivial
    | cons a calls ih =>
      intro h
      refine ⟨h [] a calls rfl, ih ?_⟩
      rintro before b after rfl
      exact h (a :: before) b after rfl

theorem guarded_take {step : σ → α → σ} {guard : σ → α → Prop} {s : σ} {calls : List α}
    (h : Guarded step guard s calls) (n : Nat)
    : Guarded step guard s (calls.take n) := by
  rw [← List.take_append_drop n calls, guarded_append] at h
  exact h.1

theorem guarded_and {step : σ → α → σ} {guard guard' : σ → α → Prop} {s : σ} {calls : List α}
    (h : Guarded step guard s calls) (h' : Guarded step guard' s calls)
    : Guarded step (fun s a => guard s a ∧ guard' s a) s calls := by
  induction calls generalizing s with
  | nil => exact trivial
  | cons a calls ih => exact ⟨⟨h.1, h'.1⟩, ih h.2 h'.2⟩

theorem guarded_congr {step : σ → α → σ} {guard guard' side : σ → α → Prop} (inv : σ → Prop)
    (hiff : ∀ s a, inv s → side s a → (guard s a ↔ guard' s a))
    (hstep : ∀ s a, inv s → side s a → guard' s a → inv (step s a)) {s : σ} (hs : inv s)
    {calls : List α} (hside : Guarded step side s calls)
    : Guarded step guard s calls ↔ Guarded step guard' s calls := by
  induction calls generalizing s with
  | nil => exact Iff.rfl
  | cons a calls ih =>
    unfold Guarded
    rw [hiff s a hs hside.1]
    apply and_congr_right
    intro hguard
    exact ih (hstep s a hs hside.1 hguard) hside.2

theorem guarded_iff_invariant_of_guarded {step : σ → α → σ} {guard side : σ → α → Prop}
    (good inv : σ → Prop) (hgood : ∀ s a, good s → side s a → good (step s a))
    (hstep : ∀ s a, good s → side s a → inv s → (guard s a ↔ inv (step s a))) {s : σ} (hs : good s)
    (hinv : inv s) {calls : List α} (hside : Guarded step side s calls)
    : Guarded step guard s calls ↔ ∀ n, inv (exec step s (calls.take n)) := by
  induction calls generalizing s with
  | nil => simp [Guarded, hinv]
  | cons a calls ih =>
    have ih := fun hnext => ih (hgood s a hs hside.1) hnext hside.2
    constructor
    . rintro ⟨hguard, hrest⟩ n
      have hnext := (hstep s a hs hside.1 hinv).mp hguard
      cases n with
      | zero => exact hinv
      | succ n => exact (ih hnext).mp hrest n
    . intro hall
      have hnext : inv (step s a) := hall 1
      exact ⟨(hstep s a hs hside.1 hinv).mpr hnext, (ih hnext).mpr fun n => hall (n + 1)⟩

theorem guarded_iff_invariant {step : σ → α → σ} {guard : σ → α → Prop} (good inv : σ → Prop)
    (hgood : ∀ s a, good s → good (step s a))
    (hstep : ∀ s a, good s → inv s → (guard s a ↔ inv (step s a))) {s : σ} (hs : good s)
    (hinv : inv s) (calls : List α)
    : Guarded step guard s calls ↔ ∀ n, inv (exec step s (calls.take n)) := by
  refine @guarded_iff_invariant_of_guarded _ _ _ _ (fun _ _ => True) good inv ?_ ?_ s hs hinv calls ?_
  . intro s a hs _
    exact hgood s a hs
  . intro s a hs _ hinv
    exact hstep s a hs hinv
  . exact guarded_of_forall (fun _ _ _ => trivial) s

end Run

/-!
Calls that read a shared state, and write to it later what they computed from the old one. Side by
side they can lose each other's writes; when every call writes what it would still compute, the run
is the same as the calls one after another, in the order in which they end.
-/

namespace Race

variable {σ : Type u} {ρ : Type v} {ι : Type w}

-- the two steps of the calls; one that finds nothing to write returns after its first step
structure Calls (σ : Type u) (ρ : Type v) (ι : Type w) where
  read : ι → σ → Option ρ
  write : ι → ρ → σ → σ

inductive Phase (ρ : Type v) where
  | idle
  | holding (found : ρ)
  | finished
  deriving DecidableEq

inductive Action (ι : Type w) where
  | read (i : ι)
  | write (i : ι)

structure State (σ : Type u) (ρ : Type v) (ι : Type w) where
  shared : σ
  phase : ι → Phase ρ

structure Ended (state : State σ ρ ι) (order : List ι) : Prop where
  nodup : order.Nodup
  finished : ∀ i, i ∈ order ↔ state.phase i = .finished

def start (s : σ) : State σ ρ ι where
  shared := s
  phase _ := .idle

theorem ended_start (s : σ) : Ended (start s : State σ ρ ι) [] where
  nodup := List.nodup_nil
  finished := by simp [start]

def Calls.atOnce (calls : Calls σ ρ ι) (s : σ) (i : ι) : σ :=
  match calls.read i s with
  | none => s
  | some found => calls.write i found s

def Fresh (calls : Calls σ ρ ι) (state : State σ ρ ι) : Action ι → Prop
  | .read _ => True
  | .write i => ∀ found, state.phase i = .holding found → calls.read i state.shared = some found

instance [DecidableEq ρ] (calls : Calls σ ρ ι) (state : State σ ρ ι) (action : Action ι)
    : Decidable (Fresh calls state action) :=
  match action with
  | .read _ => isTrue trivial
  | .write i =>
    match hphase : state.phase i with
    | .idle => isTrue (by simp [Fresh, hphase])
    | .holding found =>
      decidable_of_iff (calls.read i state.shared = some found) (by simp [Fresh, hphase])
    | .finished => isTrue (by simp [Fresh, hphase])

variable [DecidableEq ι]

def State.enter (self : State σ ρ ι) (i : ι) (phase : Phase ρ) : State σ ρ ι where
  shared := self.shared
  phase := Function.update self.phase i phase

def State.publish (self : State σ ρ ι) (i : ι) (s : σ) : State σ ρ ι where
  shared := s
  phase := Function.update self.phase i .finished

def step (calls : Calls σ ρ ι) (state : State σ ρ ι) : Action ι → State σ ρ ι
  | .read i =>
    match state.phase i with
    | .idle =>
      match calls.read i state.shared with
      | none => state.enter i .finished
      | some found => state.enter i (.holding found)
    | .holding _ => state
    | .finished => state
  | .write i =>
    match state.phase i with
    | .idle => state
    | .holding found => state.publish i (calls.write i found state.shared)
    | .finished => state

theorem step_cases {calls : Calls σ ρ ι} {state : State σ ρ ι} {action : Action ι}
    {motive : State σ ρ ι → Prop} (hkeep : motive state)
    (hreturn : ∀ i, action = .read i → state.phase i = .idle
      → calls.read i state.shared = none → motive (state.enter i .finished))
    (hread : ∀ i found, action = .read i → state.phase i = .idle
      → calls.read i state.shared = some found → motive (state.enter i (.holding found)))
    (hwrite : ∀ i found, action = .write i → state.phase i = .holding found
      → motive (state.publish i (calls.write i found state.shared)))
    : motive (step calls state action) := by
  cases action with
  | read i =>
    rw [step]
    split
    . next hidle =>
      split
      . next hnone => exact hreturn i rfl hidle hnone
      . next found hfound => exact hread i found rfl hidle hfound
    . exact hkeep
    . exact hkeep
  | write i =>
    rw [step]
    split
    . exact hkeep
    . next found hholding => exact hwrite i found rfl hholding
    . exact hkeep

theorem phase_enter (state : State σ ρ ι) (i j : ι) (phase : Phase ρ)
    : (state.enter i phase).phase j = if j = i then phase else state.phase j := by
  simp [State.enter, Function.update_apply]

theorem Ended.hold {state : State σ ρ ι} {order : List ι} (h : Ended state order) {i : ι}
    {found : ρ} (hidle : state.phase i = .idle)
    : Ended (state.enter i (.holding found)) order where
  nodup := h.nodup
  finished j := by
    rw [h.finished, phase_enter]
    split
    . next hij => simp [hij, hidle]
    . rfl

theorem Ended.finish {state later : State σ ρ ι} {order : List ι} (h : Ended state order) {i : ι}
    (hrunning : state.phase i ≠ .finished)
    (hlater : later.phase = (state.enter i .finished).phase)
    : Ended later (order ++ [i]) where
  nodup := by
    apply List.Nodup.append h.nodup (List.nodup_singleton i)
    rw [List.disjoint_singleton, h.finished]
    exact hrunning
  finished j := by
    rw [hlater, phase_enter, List.mem_append, h.finished, List.mem_singleton]
    split
    . next hij => simp [hij]
    . next hij => simp [hij]

theorem exec_eq_atOnce {calls : Calls σ ρ ι} {s : σ} {actions : List (Action ι)}
    (h : Run.Guarded (step calls) (Fresh calls) (start s) actions)
    : ∃ order, Ended (Run.exec (step calls) (start s) actions) order
        ∧ (Run.exec (step calls) (start s) actions).shared = Run.exec calls.atOnce s order := by
  apply Run.exec_invariant_of_guarded
    (fun state => ∃ order, Ended state order ∧ state.shared = Run.exec calls.atOnce s order) _ _ h
  . rintro state action ⟨order, hended, hshared⟩ hfresh
    apply step_cases (motive := fun later => ∃ order, Ended later order
      ∧ later.shared = Run.exec calls.atOnce s order)
    . exact ⟨order, hended, hshared⟩
    . intro i _ hidle hnone
      refine ⟨order ++ [i], hended.finish (by simp [hidle]) rfl, ?_⟩
      rw [Run.exec_concat, ← hshared, Calls.atOnce, hnone]
      rfl
    . intro i found _ hidle _
      exact ⟨order, hended.hold hidle, hshared⟩
    . intro i found haction hholding
      subst haction
      refine ⟨order ++ [i], hended.finish (by simp [hholding]) rfl, ?_⟩
      rw [Run.exec_concat, ← hshared, Calls.atOnce, hfresh found hholding]
      rfl
  . exact ⟨[], ended_start s, rfl⟩

end Race
