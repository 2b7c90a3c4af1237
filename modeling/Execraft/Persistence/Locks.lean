import Mathlib.Data.List.Basic
import Mathlib.Logic.Function.Basic

/-!
# File locks

`FileLock`: advisory locks on files that threads of several processes take from outer to
inner.  A thread first takes the lock that its process keeps for the path, then the lock of
the file itself.
-/

namespace Execraft.Persistence

/-! ## Locks -/

inductive LockLevel where
  | projectExecutor
  | driver
  | orchestrator
  | lifecycle
  | repositoryRef
  | projectCoordinator
  | record
  deriving DecidableEq, Repr

def LockLevel.value : LockLevel → Nat
  | projectExecutor => 5
  | driver => 10
  | orchestrator => 20
  | lifecycle => 30
  | repositoryRef => 40
  | projectCoordinator => 45
  | record => 50

structure FileLock where
  path : String
  level : LockLevel
  exclusive : Bool := true
  /-- `timeout is not None` -/
  bounded : Bool := false
  deriving DecidableEq

inductive LockError where
  | busy
  | hierarchy
  deriving DecidableEq, Repr

/-- What `acquire` checks before it waits; the lock taken last comes first. -/
def admission (held : List FileLock) (lock : FileLock) : Except LockError Unit :=
  if held.any fun other => other.path = lock.path ∧ other.level = lock.level then
    .error .busy
  else
    match held with
    | [] => .ok ()
    | top :: _ =>
        if lock.level.value ≤ top.level.value then .error .hierarchy else .ok ()

/-- `release` gives back the lock taken last. -/
def releasing (held : List FileLock) (lock : FileLock) : Except LockError (List FileLock) :=
  match held with
  | [] => .error .hierarchy
  | top :: rest =>
      if top.path = lock.path ∧ top.level = lock.level then .ok rest else .error .hierarchy

/-! ## Threads -/

structure ThreadId where
  process : Nat
  number : Nat
  deriving DecidableEq, Repr

inductive Phase where
  | running
  /-- In front of the lock that the process keeps for the path. -/
  | awaitsThread (lock : FileLock)
  /-- In front of the lock of the file. -/
  | awaitsFile (lock : FileLock)
  deriving DecidableEq

structure ThreadState where
  held : List FileLock := []
  phase : Phase := .running
  deriving DecidableEq

structure System where
  alive : List ThreadId := []
  threads : ThreadId → ThreadState := fun _ => {}
  /-- `_thread_locks` of each process, with the owners of the locks. -/
  threadLocks : Nat → String → Option ThreadId := fun _ _ => none
  /-- Who has locked a file, and whether exclusively. -/
  fileLocks : String → List (ThreadId × Bool) := fun _ => []

def System.setThread (system : System) (thread : ThreadId) (state : ThreadState) : System :=
  { system with threads := Function.update system.threads thread state }

def System.setThreadLock (system : System) (process : Nat) (path : String)
    (owner : Option ThreadId) : System :=
  { system with
    threadLocks := Function.update system.threadLocks process
      (Function.update (system.threadLocks process) path owner) }

def System.setFileLocks (system : System) (path : String)
    (holders : List (ThreadId × Bool)) : System :=
  { system with fileLocks := Function.update system.fileLocks path holders }

/-- Whether a file can be locked while others hold it. -/
def compatible (holders : List (ThreadId × Bool)) (exclusive : Bool) : Bool :=
  if exclusive then holders = [] else holders.all fun holder => !holder.2

/-! ## Steps -/

inductive Event where
  | start (thread : ThreadId)
  | ask (thread : ThreadId) (lock : FileLock)
  | takeThread (thread : ThreadId)
  | takeFile (thread : ThreadId)
  /-- The time is over, or the lock file is not safe. -/
  | giveUp (thread : ThreadId)
  | release (thread : ThreadId) (lock : FileLock)
  | die (process : Nat)
  deriving DecidableEq

section Steps

variable (system : System) (thread : ThreadId)

def askStep (lock : FileLock) : Option System :=
  let state := system.threads thread
  if thread ∈ system.alive ∧ state.phase = .running ∧
      admission state.held lock = .ok () then
    some (system.setThread thread { state with phase := .awaitsThread lock })
  else none

def takeThreadStep : Option System :=
  let state := system.threads thread
  match state.phase with
  | .awaitsThread lock =>
      if system.threadLocks thread.process lock.path = none then
        some ((system.setThreadLock thread.process lock.path (some thread)).setThread thread
          { state with phase := .awaitsFile lock })
      else none
  | _ => none

def takeFileStep : Option System :=
  let state := system.threads thread
  match state.phase with
  | .awaitsFile lock =>
      let holders := system.fileLocks lock.path
      if compatible holders lock.exclusive then
        some ((system.setFileLocks lock.path ((thread, lock.exclusive) :: holders)).setThread
          thread { held := lock :: state.held, phase := .running })
      else none
  | _ => none

def giveUpStep : Option System :=
  let state := system.threads thread
  match state.phase with
  | .running => none
  | .awaitsThread lock =>
      if lock.bounded then some (system.setThread thread { state with phase := .running })
      else none
  | .awaitsFile lock =>
      some ((system.setThreadLock thread.process lock.path none).setThread thread
        { state with phase := .running })

/-- Give a lock back: first the file, then the lock of the process. -/
def releaseStep (lock : FileLock) : Option System :=
  let state := system.threads thread
  match state.phase, releasing state.held lock with
  | .running, .ok rest =>
      let holders := (system.fileLocks lock.path).filter fun holder => holder.1 ≠ thread
      some (((system.setFileLocks lock.path holders).setThreadLock thread.process lock.path
        none).setThread thread { state with held := rest })
  | _, _ => none

/-- The system takes back what a process had locked. -/
def dieStep (process : Nat) : System where
  alive := system.alive.filter fun thread => thread.process ≠ process
  threads := fun thread => if thread.process = process then {} else system.threads thread
  threadLocks := Function.update system.threadLocks process fun _ => none
  fileLocks := fun path =>
    (system.fileLocks path).filter fun holder => holder.1.process ≠ process

def step : Event → Option System
  | .start thread =>
      if thread ∈ system.alive then none
      else some { system with alive := thread :: system.alive }
  | .ask thread lock => askStep system thread lock
  | .takeThread thread => takeThreadStep system thread
  | .takeFile thread => takeFileStep system thread
  | .giveUp thread => giveUpStep system thread
  | .release thread lock => releaseStep system thread lock
  | .die process => some (dieStep system process)

end Steps

end Execraft.Persistence
