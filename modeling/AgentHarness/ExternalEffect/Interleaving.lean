import AgentHarness.ExternalEffect.Lemmas.Approval

/-!
A fence that runs beside approval resolutions. A resolution loads its effect and persists the
outcome under the approval resolution lock; the fence reads and persists one snapshot after another
and does not take the lock. Each load and each persist is one step.
-/

namespace ExternalEffect

structure FenceRequest where
  exactLaneDigest : String
  reason : String
  now : Int
  order : HashOrder String

inductive FenceThread where
  | idle
  | reading (entries : List String)
  | holding (intent next : Intent) (entries : List String)
  | done
  | failed (e : IoError)

inductive ResolverThread where
  | waiting (call : ApprovalCall)
  | holding (p : Presented)
  | finished (result : Except IoError Intent)

/-
`guard` is the resolver that holds `APPROVAL_RESOLUTION_LOCK`.
-/
structure System where
  store : Store
  guard : Option Nat
  fence : FenceThread
  resolvers : Nat → ResolverThread

inductive Action where
  | fenceStart
  | fenceLoad
  | fencePersist
  | prepare (i : Nat)
  | load (i : Nat)
  | persist (i : Nat)

def System.setResolver (s : System) (i : Nat) (thread : ResolverThread) : System :=
  { s with resolvers := fun j => if j = i then thread else s.resolvers j }

variable (env : Env)

def fenceStart (request : FenceRequest) (s : System) : System :=
  match s.fence with
  | .idle =>
    match validateDigest request.exactLaneDigest "exact lane digest" with
    | .error e => { s with fence := .failed e }
    | .ok () => { s with fence := .reading (request.order.keys s.store.latest.keys) }
  | _ => s

def fenceLoad (request : FenceRequest) (s : System) : System :=
  match s.fence with
  | .reading [] => { s with fence := .done }
  | .reading (effectId :: rest) =>
    let snapshot := (s.store.latest.lookup effectId).filter fun intent =>
      env.snapshotBytes intent ≤ maxEffectRecordBytes
    match snapshot with
    | none => { s with fence := .reading rest }
    | some intent =>
      match fenceIntent intent request.exactLaneDigest request.reason request.now with
      | none => { s with fence := .reading rest }
      | some next => { s with fence := .holding intent next rest }
  | _ => s

def fencePersist (s : System) : System :=
  match s.fence with
  | .holding intent next rest =>
    match persistTransition env s.store (some intent.state) next with
    | (store, .error e) => { s with store, fence := .failed e }
    | (store, .ok ()) => { s with store, fence := .reading rest }
  | _ => s

def prepareResolver (s : System) (i : Nat) : System :=
  match s.resolvers i with
  | .waiting (.publicAction request now) =>
    match publicActionInput env s.store request with
    | .error e => s.setResolver i (.finished (.error e))
    | .ok action => s.setResolver i (.waiting (.channel action request.exactLaneDigest now))
  | _ => s

def loadResolver (s : System) (i : Nat) : System :=
  match s.guard, s.resolvers i with
  | some _, _ => s
  | none, .waiting (.publicAction _ _) => s
  | none, .waiting call =>
    match call.presented env s.store with
    | .error e => s.setResolver i (.finished (.error e))
    | .ok p => { s.setResolver i (.holding p) with guard := some i }
  | none, _ => s

def persistResolver (s : System) (i : Nat) : System :=
  match s.resolvers i with
  | .holding p =>
    let outcome := p.resolve env s.store
    { s.setResolver i (.finished outcome.2) with store := outcome.1, guard := none }
  | _ => s

def System.step (request : FenceRequest) (s : System) (action : Action) : System :=
  match action with
  | .fenceStart => fenceStart request s
  | .fenceLoad => fenceLoad env request s
  | .fencePersist => fencePersist env s
  | .prepare i => prepareResolver env s i
  | .load i => loadResolver env s i
  | .persist i => persistResolver env s i

def System.start (store : Store) (calls : Nat → ApprovalCall) : System where
  store
  guard := none
  fence := .idle
  resolvers i := .waiting (calls i)

/-
The effects a fence of the lane is for: those that wait for an approval or have one.
-/
def fenceable (store : Store) (exactLaneDigest effectId : String) : Prop :=
  ∃ intent, store.latest.lookup effectId = some intent
    ∧ intent.exactLaneDigest = exactLaneDigest
    ∧ (intent.state = .approvalRequired ∨ intent.state = .approved)

/-
The resolution has loaded a waiting effect and is about to write its approval.
-/
def Presented.approves (p : Presented) : Bool :=
  let resolution := resolveIntent env p.intent p.token p.exactLaneDigest p.decision p.nativeAction
    p.now
  resolution.persist.any (fun next => next.state = .approved)

/-
When the fence persists the denial of an effect, no resolution that approves the effect is between
its load and its persist, and the fence can read the snapshots it meets.
-/
def fenceUndisturbed (s : System) (action : Action) : Prop :=
  match action with
  | .fenceLoad =>
    ∀ entry rest intent, s.fence = .reading (entry :: rest)
      → s.store.latest.lookup entry = some intent
      → env.snapshotBytes intent ≤ maxEffectRecordBytes
  | .fencePersist =>
    ∀ intent next rest, s.fence = .holding intent next rest
      → ∀ i p, s.resolvers i = .holding p → p.intent.effectId = next.effectId
        → p.approves env = false
  | _ => True

end ExternalEffect
