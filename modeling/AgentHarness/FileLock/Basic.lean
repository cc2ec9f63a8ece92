import AgentHarness.Lib.Run

/-!
The lock files of the harness: `JsonlAppendLock`, which stores the process id of its owner, and the
lock of the runtime leases, which stores the time of the attempt. Any number of processes contend
for one file. Every access to the file is one step: the exclusive create, the write of the owner
line, the read of a file that is in the way, the removal of a stale one, the removal on drop. A
process may stop for good before any of its steps.
-/

namespace FileLock

def jsonlAppendLockStaleMs : Int := 30000
def runtimeLeaseLockStaleMs : Int := 30000

inductive Kind where
  | jsonlAppend
  | runtimeLease
  deriving DecidableEq

/-
`serial` counts the creations, it tells the files apart that were at the path one after another.
-/
structure LockFile where
  serial : Nat
  line : Option Int
  modifiedAtMs : Int

/-
Where a process stands. `nowMs` is the time that its attempt goes by, `seen` what it read from the
file in its way, with the serial of that file.
-/
inductive Phase where
  | idle
  | attempting (nowMs : Int) (again : Bool)
  | busy (nowMs : Int)
  | inspecting (nowMs : Int) (seen : Option (Nat × Int))
  | removing (nowMs : Int) (judged : Nat)
  | created (nowMs : Int) (serial : Nat)
  | holding (nowMs : Int) (serial : Nat)

structure System where
  clockMs : Int
  file : Option LockFile
  creators : List Nat
  phase : Nat → Phase
  alive : Nat → Bool

inductive Action where
  | tick (ms : Nat)
  | start (p : Nat) (nowMs : Int)
  | create (p : Nat)
  | write (p : Nat)
  | read (p : Nat)
  | judge (p : Nat)
  | remove (p : Nat)
  | drop (p : Nat)
  | giveUp (p : Nat)
  | crash (p : Nat)

def System.setPhase (s : System) (p : Nat) (phase : Phase) : System :=
  { s with phase := fun q => if q = p then phase else s.phase q }

variable (kind : Kind)

-- `pid=<process id>` or the time of the attempt
def ownerLine (p : Nat) (nowMs : Int) : Int :=
  match kind with
  | .jsonlAppend => p
  | .runtimeLease => nowMs

def tryCreate (s : System) (p : Nat) : System :=
  match s.phase p with
  | .attempting nowMs again =>
    match s.file with
    | none =>
      { s.setPhase p (.created nowMs s.creators.length) with
        file := some {
          serial := s.creators.length
          line := none
          modifiedAtMs := s.clockMs }
        creators := s.creators ++ [p] }
    | some _ =>
      -- the second create of the runtime lock answers busy, the other locks look at the file again
      if again && kind = .runtimeLease then s.setPhase p .idle else s.setPhase p (.busy nowMs)
  | _ => s

-- the line goes to the file that was created, also when its name is gone
def writeOwner (s : System) (p : Nat) : System :=
  match s.phase p with
  | .created nowMs serial =>
    { s.setPhase p (.holding nowMs serial) with
      file := s.file.map fun file =>
        if file.serial = serial then
          { file with line := some (ownerLine kind p nowMs), modifiedAtMs := s.clockMs }
        else
          file }
  | _ => s

def readOwner (s : System) (p : Nat) : System :=
  match s.phase p with
  | .busy nowMs =>
    s.setPhase p (.inspecting nowMs (s.file.bind fun file => file.line.map (file.serial, ·)))
  | _ => s

def notStale (nowMs : Int) : Phase :=
  match kind with
  | .jsonlAppend => .attempting nowMs true
  | .runtimeLease => .idle

def staleByAge (s : System) (file : LockFile) : Bool :=
  match kind with
  | .jsonlAppend => s.clockMs - file.modifiedAtMs ≥ jsonlAppendLockStaleMs
  | .runtimeLease => s.clockMs - file.modifiedAtMs > runtimeLeaseLockStaleMs

def staleByLine (s : System) (nowMs line : Int) : Bool :=
  match kind with
  | .jsonlAppend => !s.alive line.toNat
  | .runtimeLease => nowMs - line > runtimeLeaseLockStaleMs

/-
`remove_stale_jsonl_lock` up to the removal, and `runtime_queue_lease_lock_is_stale`. A file without
a readable line is judged by its age.
-/
def judgeStale (s : System) (p : Nat) : System :=
  match s.phase p with
  | .inspecting nowMs (some (serial, line)) =>
    if staleByLine kind s nowMs line then
      s.setPhase p (.removing nowMs serial)
    else
      s.setPhase p (notStale kind nowMs)
  | .inspecting nowMs none =>
    match s.file with
    | none => s.setPhase p (notStale kind nowMs)
    | some file =>
      if staleByAge kind s file then
        s.setPhase p (.removing nowMs file.serial)
      else
        s.setPhase p (notStale kind nowMs)
  | _ => s

def removeStale (s : System) (p : Nat) : System :=
  match s.phase p with
  | .removing nowMs _ => { s.setPhase p (.attempting nowMs true) with file := none }
  | _ => s

def dropLock (s : System) (p : Nat) : System :=
  match s.phase p with
  | .holding _ _ => { s.setPhase p .idle with file := none }
  | _ => s

-- the caller of the runtime lock passes the time, the append lock looks at the clock
def attemptMs (s : System) (nowMs : Int) : Int :=
  match kind with
  | .jsonlAppend => s.clockMs
  | .runtimeLease => nowMs

def startAttempt (s : System) (p : Nat) (nowMs : Int) : System :=
  match s.phase p with
  | .idle => s.setPhase p (.attempting (attemptMs kind s nowMs) false)
  | _ => s

def giveUp (s : System) (p : Nat) : System :=
  match s.phase p with
  | .attempting _ _ => s.setPhase p .idle
  | .busy _ => s.setPhase p .idle
  | _ => s

def System.perform (s : System) (action : Action) : System :=
  match action with
  | .tick ms => { s with clockMs := s.clockMs + ms }
  | .start p nowMs => startAttempt kind s p nowMs
  | .create p => tryCreate kind s p
  | .write p => writeOwner kind s p
  | .read p => readOwner s p
  | .judge p => judgeStale kind s p
  | .remove p => removeStale s p
  | .drop p => dropLock s p
  | .giveUp p => giveUp s p
  | .crash p => { s with alive := fun q => if q = p then false else s.alive q }

def Action.process (action : Action) : Option Nat :=
  match action with
  | .tick _ => none
  | .start p _ | .create p | .write p | .read p | .judge p | .remove p | .drop p | .giveUp p
  | .crash p => some p

def System.step (s : System) (action : Action) : System :=
  if action.process.all s.alive then s.perform kind action else s

def System.empty : System where
  clockMs := 0
  file := none
  creators := []
  phase _ := .idle
  alive _ := true

def System.holds (s : System) (p : Nat) : Prop :=
  s.alive p = true ∧ ∃ nowMs serial, s.phase p = .holding nowMs serial

/-
At most one live process holds the lock, and the file that a drop would remove is the holder's own.
-/
structure System.Exclusive (s : System) : Prop where
  holder : ∀ p q, s.holds p → s.holds q → p = q
  own : ∀ p file, s.holds p → s.file = some file → s.creators[file.serial]? = some p

/-
The promise of the callers: a live process has the runtime lock only while the time that it stores
there is not stale.
-/
def dropsInTime (s : System) (action : Action) : Prop :=
  match kind, action with
  | .runtimeLease, .create p =>
    ∀ nowMs again, s.phase p = .attempting nowMs again
      → s.clockMs ≤ nowMs + runtimeLeaseLockStaleMs
  | .runtimeLease, .tick ms =>
    ∀ p nowMs serial, s.alive p = true
      → s.phase p = .created nowMs serial ∨ s.phase p = .holding nowMs serial
      → s.clockMs + ms ≤ nowMs + runtimeLeaseLockStaleMs
  | _, _ => True

/-
A takeover finds at the path the file that was judged. The time of an attempt is not ahead of the
clock. An append lock is judged by its age only while it has no line, and a live process that has
created it writes the line before that age.
-/
def takeoverIsCurrent (s : System) (action : Action) : Prop :=
  match kind, action with
  | _, .remove p =>
    ∀ nowMs judged file, s.phase p = .removing nowMs judged → s.file = some file
      → file.serial = judged
  | .runtimeLease, .start _ nowMs => nowMs ≤ s.clockMs
  | .jsonlAppend, .judge p =>
    ∀ nowMs file, s.phase p = .inspecting nowMs none → s.file = some file → file.line = none
  | .jsonlAppend, .tick ms =>
    ∀ p nowMs serial file, s.alive p = true → s.phase p = .created nowMs serial
      → s.file = some file → file.serial = serial
      → s.clockMs + ms - file.modifiedAtMs < jsonlAppendLockStaleMs
  | _, _ => True

end FileLock
