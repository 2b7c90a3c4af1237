import Execraft.Foundation.RankedWaiting
import Execraft.Persistence.Locks
import Mathlib.Algebra.GroupWithZero.Nat
import Mathlib.Algebra.Order.BigOperators.Group.List
import Mathlib.Algebra.Order.Group.Nat
import Mathlib.Data.List.Perm.Subperm

/-!
# Locks are taken from outer to inner

What holds of the locks of all threads at any time, and why every wait ends when the threads
give their locks back.
-/

namespace Execraft.Persistence

open Foundation

/-! ## Reachable systems -/

def Phase.awaited : Phase → Option FileLock
  | .running => none
  | .awaitsThread lock => some lock
  | .awaitsFile lock => some lock

/-- A thread keeps other threads of its process off a path. -/
def ThreadState.Occupies (state : ThreadState) (path : String) : Prop :=
  (∃ lock ∈ state.held, lock.path = path) ∨
    ∃ lock, state.phase = .awaitsFile lock ∧ lock.path = path

section Order

variable (levelOf : String → LockLevel)

/-- A lock file is asked for at its own level. -/
def Event.Conventional : Event → Prop
  | .ask _ lock => lock.level = levelOf lock.path
  | _ => True

instance (event : Event) : Decidable (event.Conventional levelOf) :=
  match event with
  | .ask _ lock => inferInstanceAs (Decidable (lock.level = levelOf lock.path))
  | .start _ | .takeThread _ | .takeFile _ | .giveUp _ | .release _ _ | .die _ =>
      .isTrue trivial

inductive Reachable : System → Prop where
  | initial : Reachable {}
  | step {system next : System} {event : Event} (reached : Reachable system)
      (conventional : event.Conventional levelOf) (moves : step system event = some next) :
      Reachable next

/-- What the threads hold and await agrees with what is locked. -/
structure Consistent (system : System) : Prop where
  idle : ∀ thread, thread ∉ system.alive → system.threads thread = {}
  nested : ∀ thread, (system.threads thread).held.Pairwise fun inner outer =>
    outer.level.value < inner.level.value
  leveled : ∀ thread, ∀ lock ∈ (system.threads thread).held, lock.level = levelOf lock.path
  asked : ∀ thread lock, (system.threads thread).phase.awaited = some lock →
    lock.level = levelOf lock.path ∧
      ∀ other ∈ (system.threads thread).held, other.level.value < lock.level.value
  threadOwner : ∀ process path owner, system.threadLocks process path = some owner ↔
    owner.process = process ∧ (system.threads owner).Occupies path
  fileHolder : ∀ path thread exclusive, (thread, exclusive) ∈ system.fileLocks path ↔
    ∃ lock ∈ (system.threads thread).held, lock.path = path ∧ lock.exclusive = exclusive
  alone : ∀ path, (∀ holder ∈ system.fileLocks path, holder.2 = false) ∨
    ∃ holder, system.fileLocks path = [holder]

variable {levelOf} {system : System} {thread : ThreadId} {lock : FileLock}

theorem consistent_initial : Consistent levelOf {} where
  idle := fun _ _ => rfl
  nested := fun _ => List.Pairwise.nil
  leveled := fun _ _ member => absurd member List.not_mem_nil
  asked := nofun
  threadOwner := fun _ _ _ => ⟨nofun, fun owner => by
    rcases owner.2 with ⟨_, member, _⟩ | ⟨_, awaits, _⟩
    · cases member
    · cases awaits⟩
  fileHolder := fun _ _ _ => ⟨nofun, fun held => by
    obtain ⟨_, member, _⟩ := held
    cases member⟩
  alone := fun _ => Or.inl fun _ member => absurd member List.not_mem_nil

/-! ## Paths of one thread -/

/-- A thread does not hold the path that it awaits. -/
theorem Consistent.awaited_path (consistent : Consistent levelOf system)
    (awaits : (system.threads thread).phase.awaited = some lock) :
    ∀ other ∈ (system.threads thread).held, other.path ≠ lock.path := by
  intro other member same
  obtain ⟨level, above⟩ := consistent.asked thread lock awaits
  have below := above other member
  rw [level, consistent.leveled thread other member, same] at below
  exact lt_irrefl _ below

/-- The paths that a thread holds differ. -/
theorem Consistent.rest_path (consistent : Consistent levelOf system) {top : FileLock}
    {rest : List FileLock} (held : (system.threads thread).held = top :: rest) :
    ∀ other ∈ rest, other.path ≠ top.path := by
  intro other member same
  have nested := consistent.nested thread
  have leveled := consistent.leveled thread
  rw [held] at nested leveled
  have below := List.rel_of_pairwise_cons nested member
  rw [leveled other (List.mem_cons_of_mem _ member), leveled top (List.mem_cons_self ..),
    same] at below
  exact lt_irrefl _ below

/-! ## Changes of one thread -/

@[simp]
theorem threads_setThread (state : ThreadState) (other : ThreadId) :
    (system.setThread thread state).threads other =
      if other = thread then state else system.threads other :=
  Function.update_apply _ _ _ _

@[simp]
theorem threadLocks_setThreadLock (process : Nat) (path : String) (owner : Option ThreadId)
    (other : Nat) (otherPath : String) :
    (system.setThreadLock process path owner).threadLocks other otherPath =
      if other = process ∧ otherPath = path then owner
      else system.threadLocks other otherPath := by
  show Function.update system.threadLocks process _ other otherPath = _
  rw [Function.update_apply]
  by_cases same : other = process
  · rw [if_pos same, Function.update_apply, same]
    simp only [true_and]
  · rw [if_neg same, if_neg fun both => same both.1]

@[simp]
theorem fileLocks_setFileLocks (path : String) (holders : List (ThreadId × Bool))
    (other : String) :
    (system.setFileLocks path holders).fileLocks other =
      if other = path then holders else system.fileLocks other :=
  Function.update_apply _ _ _ _

/-- Only one thread changes; the tables of the locks follow it. -/
theorem Consistent.change (consistent : Consistent levelOf system) {next : System}
    {state : ThreadState} (present : thread ∈ system.alive) (alive : next.alive = system.alive)
    (threads : next.threads = Function.update system.threads thread state)
    (nested : state.held.Pairwise fun inner outer => outer.level.value < inner.level.value)
    (leveled : ∀ lock ∈ state.held, lock.level = levelOf lock.path)
    (asked : ∀ lock, state.phase.awaited = some lock → lock.level = levelOf lock.path ∧
      ∀ other ∈ state.held, other.level.value < lock.level.value)
    (threadOwner : ∀ process path owner, next.threadLocks process path = some owner ↔
      owner.process = process ∧
        (Function.update system.threads thread state owner).Occupies path)
    (fileHolder : ∀ path owner exclusive, (owner, exclusive) ∈ next.fileLocks path ↔
      ∃ lock ∈ (Function.update system.threads thread state owner).held,
        lock.path = path ∧ lock.exclusive = exclusive)
    (alone : ∀ path, (∀ holder ∈ next.fileLocks path, holder.2 = false) ∨
      ∃ holder, next.fileLocks path = [holder]) : Consistent levelOf next where
  idle := by
    intro other absent
    rw [alive] at absent
    have different : other ≠ thread := fun same => absent (same ▸ present)
    rw [threads, Function.update_of_ne different]
    exact consistent.idle other absent
  nested := by
    intro other
    by_cases same : other = thread
    · rw [threads, same, Function.update_self]
      exact nested
    · rw [threads, Function.update_of_ne same]
      exact consistent.nested other
  leveled := by
    intro other
    by_cases same : other = thread
    · rw [threads, same, Function.update_self]
      exact leveled
    · rw [threads, Function.update_of_ne same]
      exact consistent.leveled other
  asked := by
    intro other
    by_cases same : other = thread
    · rw [threads, same, Function.update_self]
      exact asked
    · rw [threads, Function.update_of_ne same]
      exact consistent.asked other
  threadOwner := by
    rw [threads]
    exact threadOwner
  fileHolder := by
    rw [threads]
    exact fileHolder
  alone := alone

/-- A thread that occupies the same paths and holds the same locks as before. -/
theorem Consistent.rephase (consistent : Consistent levelOf system) {phase : Phase}
    (present : thread ∈ system.alive)
    (asked : ∀ lock, phase.awaited = some lock → lock.level = levelOf lock.path ∧
      ∀ other ∈ (system.threads thread).held, other.level.value < lock.level.value)
    (before : ∀ lock, (system.threads thread).phase ≠ .awaitsFile lock)
    (after : ∀ lock, phase ≠ .awaitsFile lock) :
    Consistent levelOf
      (system.setThread thread { system.threads thread with phase := phase }) := by
  refine consistent.change present rfl rfl (consistent.nested thread)
    (consistent.leveled thread) asked ?_ ?_ consistent.alone
  · intro process path owner
    refine (consistent.threadOwner process path owner).trans (and_congr_right fun _ => ?_)
    by_cases same : owner = thread
    · rw [same, Function.update_self]
      exact or_congr_right ⟨fun awaits => absurd awaits.choose_spec.1 (before _),
        fun awaits => absurd awaits.choose_spec.1 (after _)⟩
    · rw [Function.update_of_ne same]
  · intro path owner exclusive
    refine (consistent.fileHolder path owner exclusive).trans ?_
    by_cases same : owner = thread
    · rw [same, Function.update_self]
    · rw [Function.update_of_ne same]

/-! ## Steps keep the tables -/

theorem Consistent.present (consistent : Consistent levelOf system)
    (busy : system.threads thread ≠ {}) : thread ∈ system.alive := by
  by_contra absent
  exact busy (consistent.idle thread absent)

theorem present_of_awaits (consistent : Consistent levelOf system)
    (awaits : (system.threads thread).phase ≠ .running) : thread ∈ system.alive :=
  consistent.present fun idle => awaits (congrArg ThreadState.phase idle)

/-- A lock that is admitted lies inside all locks that the thread holds. -/
theorem inside_of_admission {held : List FileLock}
    (nested : held.Pairwise fun inner outer => outer.level.value < inner.level.value)
    (admitted : admission held lock = .ok ()) :
    ∀ other ∈ held, other.level.value < lock.level.value := by
  unfold admission at admitted
  rcases ite_eq_iff.mp admitted with ⟨-, stops⟩ | ⟨-, admitted⟩
  · cases stops
  cases held with
  | nil => exact fun _ member => absurd member List.not_mem_nil
  | cons top rest =>
      rcases ite_eq_iff.mp admitted with ⟨-, stops⟩ | ⟨above, -⟩
      · cases stops
      have higher : top.level.value < lock.level.value := not_le.mp above
      refine List.forall_mem_cons.mpr ⟨higher, fun other member => ?_⟩
      exact lt_trans (List.rel_of_pairwise_cons nested member) higher

theorem consistent_ask (consistent : Consistent levelOf system) {next : System}
    (conventional : lock.level = levelOf lock.path)
    (asks : askStep system thread lock = some next) : Consistent levelOf next := by
  obtain ⟨⟨present, running, admitted⟩, same⟩ := Option.ite_none_right_eq_some.mp asks
  rw [← Option.some.inj same]
  refine consistent.rephase present ?_ (fun other awaits => ?_) nofun
  · intro other awaited
    rw [← Option.some.inj awaited]
    exact ⟨conventional, inside_of_admission (consistent.nested thread) admitted⟩
  · rw [running] at awaits
    cases awaits

theorem takeThreadStep_spec {next : System} (takes : takeThreadStep system thread = some next) :
    ∃ lock, (system.threads thread).phase = .awaitsThread lock ∧
      system.threadLocks thread.process lock.path = none ∧
      next = (system.setThreadLock thread.process lock.path (some thread)).setThread thread
        { system.threads thread with phase := .awaitsFile lock } := by
  unfold takeThreadStep at takes
  cases phase : (system.threads thread).phase with
  | running =>
      simp only [phase] at takes
      cases takes
  | awaitsFile other =>
      simp only [phase] at takes
      cases takes
  | awaitsThread lock =>
      simp only [phase] at takes
      obtain ⟨free, same⟩ := Option.ite_none_right_eq_some.mp takes
      exact ⟨lock, rfl, free, (Option.some.inj same).symm⟩

theorem takeFileStep_spec {next : System} (takes : takeFileStep system thread = some next) :
    ∃ lock, (system.threads thread).phase = .awaitsFile lock ∧
      compatible (system.fileLocks lock.path) lock.exclusive = true ∧
      next = (system.setFileLocks lock.path
        ((thread, lock.exclusive) :: system.fileLocks lock.path)).setThread thread
          { held := lock :: (system.threads thread).held, phase := .running } := by
  unfold takeFileStep at takes
  cases phase : (system.threads thread).phase with
  | running =>
      simp only [phase] at takes
      cases takes
  | awaitsThread other =>
      simp only [phase] at takes
      cases takes
  | awaitsFile lock =>
      simp only [phase] at takes
      obtain ⟨free, same⟩ := Option.ite_none_right_eq_some.mp takes
      exact ⟨lock, rfl, free, (Option.some.inj same).symm⟩

theorem releaseStep_spec {next : System} (releases : releaseStep system thread lock = some next) :
    ∃ top rest, (system.threads thread).phase = .running ∧
      (system.threads thread).held = top :: rest ∧ top.path = lock.path ∧
      next = ((system.setFileLocks lock.path ((system.fileLocks lock.path).filter
        fun holder => holder.1 ≠ thread)).setThreadLock thread.process lock.path
          none).setThread thread { held := rest } := by
  unfold releaseStep at releases
  cases phase : (system.threads thread).phase with
  | awaitsThread other =>
      simp only [phase] at releases
      cases releases
  | awaitsFile other =>
      simp only [phase] at releases
      cases releases
  | running =>
      cases held : (system.threads thread).held with
      | nil =>
          simp only [phase, held, releasing] at releases
          cases releases
      | cons top rest =>
          simp only [phase, held, releasing] at releases
          by_cases same : top.path = lock.path ∧ top.level = lock.level
          · simp only [if_pos same] at releases
            exact ⟨top, rest, rfl, rfl, same.1, (Option.some.inj releases).symm⟩
          · simp only [if_neg same] at releases
            cases releases

theorem consistent_takeThread (consistent : Consistent levelOf system) {next : System}
    (takes : takeThreadStep system thread = some next) : Consistent levelOf next := by
  obtain ⟨lock, awaits, free, same⟩ := takeThreadStep_spec takes
  have awaited : (system.threads thread).phase.awaited = some lock := by
    rw [awaits]
    rfl
  rw [same]
  refine consistent.change (present_of_awaits consistent (by simp [awaits])) rfl rfl
    (consistent.nested thread) (consistent.leveled thread)
    (fun other same => consistent.asked thread other (awaited.trans same)) ?_ ?_
    consistent.alone
  · intro process path owner
    show (system.setThreadLock thread.process lock.path (some thread)).threadLocks process path =
      some owner ↔ _
    rw [threadLocks_setThreadLock]
    by_cases here : process = thread.process ∧ path = lock.path
    · rw [if_pos here, here.1, here.2]
      by_cases own : owner = thread
      · rw [own, Function.update_self]
        exact iff_of_true rfl ⟨rfl, Or.inr ⟨lock, rfl, rfl⟩⟩
      · rw [Function.update_of_ne own]
        refine iff_of_false (fun taken => own (Option.some.inj taken).symm) fun occupies => ?_
        have taken := (consistent.threadOwner _ _ _).mpr occupies
        rw [free] at taken
        cases taken
    · rw [if_neg here, consistent.threadOwner]
      refine and_congr_right fun inProcess => ?_
      by_cases own : owner = thread
      · rw [own, Function.update_self]
        have different : path ≠ lock.path := fun same =>
          here ⟨inProcess.symm.trans (congrArg ThreadId.process own), same⟩
        refine or_congr_right (iff_of_false ?_ ?_)
        · rintro ⟨other, waits, -⟩
          rw [awaits] at waits
          cases waits
        · rintro ⟨other, waits, same⟩
          cases waits
          exact different same.symm
      · rw [Function.update_of_ne own]
  · intro path owner exclusive
    refine (consistent.fileHolder path owner exclusive).trans ?_
    by_cases own : owner = thread
    · rw [own, Function.update_self]
    · rw [Function.update_of_ne own]

theorem consistent_takeFile (consistent : Consistent levelOf system) {next : System}
    (takes : takeFileStep system thread = some next) : Consistent levelOf next := by
  obtain ⟨lock, awaits, free, same⟩ := takeFileStep_spec takes
  have awaited : (system.threads thread).phase.awaited = some lock := by
    rw [awaits]
    rfl
  obtain ⟨level, above⟩ := consistent.asked thread lock awaited
  rw [same]
  refine consistent.change (present_of_awaits consistent (by simp [awaits])) rfl rfl
    (List.pairwise_cons.mpr ⟨above, consistent.nested thread⟩)
    (List.forall_mem_cons.mpr ⟨level, consistent.leveled thread⟩) nofun ?_ ?_ ?_
  · intro process path owner
    refine (consistent.threadOwner process path owner).trans (and_congr_right fun _ => ?_)
    by_cases own : owner = thread
    · rw [own, Function.update_self]
      constructor
      · rintro (⟨other, member, same⟩ | ⟨other, waits, same⟩)
        · exact Or.inl ⟨other, List.mem_cons_of_mem _ member, same⟩
        · rw [awaits] at waits
          cases waits
          exact Or.inl ⟨lock, List.mem_cons_self .., same⟩
      · rintro (⟨other, member, same⟩ | ⟨other, waits, -⟩)
        · rcases List.mem_cons.mp member with first | later
          · exact Or.inr ⟨lock, awaits, first ▸ same⟩
          · exact Or.inl ⟨other, later, same⟩
        · cases waits
    · rw [Function.update_of_ne own]
  · intro path owner exclusive
    show (owner, exclusive) ∈ (system.setFileLocks lock.path
      ((thread, lock.exclusive) :: system.fileLocks lock.path)).fileLocks path ↔ _
    rw [fileLocks_setFileLocks]
    by_cases own : owner = thread
    · rw [own, Function.update_self]
      by_cases here : path = lock.path
      · rw [if_pos here, List.mem_cons, here, consistent.fileHolder]
        constructor
        · rintro (new | ⟨other, member, same⟩)
          · exact ⟨lock, List.mem_cons_self .., rfl, (Prod.mk.inj new).2.symm⟩
          · exact ⟨other, List.mem_cons_of_mem _ member, same⟩
        · rintro ⟨other, member, same⟩
          rcases List.mem_cons.mp member with first | later
          · exact Or.inl (Prod.ext rfl ((first ▸ same.2).symm))
          · exact Or.inr ⟨other, later, same⟩
      · rw [if_neg here, consistent.fileHolder]
        constructor
        · rintro ⟨other, member, same⟩
          exact ⟨other, List.mem_cons_of_mem _ member, same⟩
        · rintro ⟨other, member, same⟩
          rcases List.mem_cons.mp member with first | later
          · exact absurd (first ▸ same.1).symm here
          · exact ⟨other, later, same⟩
    · rw [Function.update_of_ne own, ← consistent.fileHolder]
      by_cases here : path = lock.path
      · rw [if_pos here, List.mem_cons, here]
        exact or_iff_right fun new => own (Prod.mk.inj new).1
      · rw [if_neg here]
  · intro path
    show (∀ holder ∈ (system.setFileLocks lock.path
      ((thread, lock.exclusive) :: system.fileLocks lock.path)).fileLocks path, _) ∨ ∃ holder,
        (system.setFileLocks lock.path _).fileLocks path = [holder]
    rw [fileLocks_setFileLocks]
    by_cases here : path = lock.path
    · rw [if_pos here]
      unfold compatible at free
      cases mode : lock.exclusive with
      | true =>
          rw [mode, if_pos rfl, decide_eq_true_iff] at free
          exact Or.inr ⟨_, congrArg _ free⟩
      | false =>
          rw [mode, if_neg Bool.false_ne_true, List.all_eq_true] at free
          refine Or.inl (List.forall_mem_cons.mpr ⟨rfl, fun holder member => ?_⟩)
          simpa using free holder member
    · rw [if_neg here]
      exact consistent.alone path

/-- The lock of a process is free again when its owner leaves the path. -/
theorem threadOwner_left (consistent : Consistent levelOf system) {state : ThreadState}
    {path : String} (had : (system.threads thread).Occupies path)
    (left : ¬state.Occupies path)
    (keeps : ∀ other, other ≠ path →
      (state.Occupies other ↔ (system.threads thread).Occupies other))
    (process : Nat) (other : String) (owner : ThreadId) :
    (system.setThreadLock thread.process path none).threadLocks process other = some owner ↔
      owner.process = process ∧
        (Function.update system.threads thread state owner).Occupies other := by
  rw [threadLocks_setThreadLock]
  by_cases here : process = thread.process ∧ other = path
  · rw [if_pos here, here.1, here.2]
    refine iff_of_false nofun fun occupies => ?_
    by_cases own : owner = thread
    · rw [own, Function.update_self] at occupies
      exact left occupies.2
    · rw [Function.update_of_ne own] at occupies
      have one := (consistent.threadOwner _ _ _).mpr occupies
      rw [(consistent.threadOwner thread.process path thread).mpr ⟨rfl, had⟩] at one
      exact own (Option.some.inj one).symm
  · rw [if_neg here, consistent.threadOwner]
    refine and_congr_right fun inProcess => ?_
    by_cases own : owner = thread
    · rw [own, Function.update_self]
      refine (keeps other fun same => here ⟨?_, same⟩).symm
      rw [← inProcess, own]
    · rw [Function.update_of_ne own]

theorem alone_filter {holders : List (ThreadId × Bool)} (keeps : ThreadId × Bool → Bool)
    (alone : (∀ holder ∈ holders, holder.2 = false) ∨ ∃ holder, holders = [holder]) :
    (∀ holder ∈ holders.filter keeps, holder.2 = false) ∨
      ∃ holder, holders.filter keeps = [holder] := by
  rcases alone with shared | ⟨holder, single⟩
  · exact Or.inl fun holder member => shared holder (List.mem_of_mem_filter member)
  · rw [single]
    by_cases kept : keeps holder = true
    · exact Or.inr ⟨holder, List.filter_cons_of_pos kept⟩
    · rw [List.filter_cons_of_neg kept]
      exact Or.inl fun _ member => absurd member List.not_mem_nil

theorem consistent_release (consistent : Consistent levelOf system) {next : System}
    (releases : releaseStep system thread lock = some next) : Consistent levelOf next := by
  obtain ⟨top, rest, running, held, path, same⟩ := releaseStep_spec releases
  have nested := consistent.nested thread
  have leveled := consistent.leveled thread
  have others := consistent.rest_path held
  rw [held] at nested leveled
  rw [same, ← path]
  have busy : system.threads thread ≠ {} := by
    intro idle
    rw [idle] at held
    cases held
  have occupies : ∀ {q : String}, (system.threads thread).Occupies q ↔
      ∃ lock ∈ top :: rest, lock.path = q := by
    intro q
    rw [ThreadState.Occupies, held, running]
    exact or_iff_left nofun
  have restOccupies : ∀ {q : String}, ({ held := rest } : ThreadState).Occupies q ↔
      ∃ lock ∈ rest, lock.path = q :=
    or_iff_left nofun
  refine consistent.change (consistent.present busy) rfl rfl nested.of_cons
    (fun other member => leveled other (List.mem_cons_of_mem _ member)) nofun
    (threadOwner_left consistent (occupies.mpr ⟨top, List.mem_cons_self .., rfl⟩) ?_ ?_) ?_ ?_
  · rw [restOccupies]
    rintro ⟨other, member, equal⟩
    exact others other member equal
  · intro q different
    rw [restOccupies, occupies]
    constructor
    · rintro ⟨other, member, equal⟩
      exact ⟨other, List.mem_cons_of_mem _ member, equal⟩
    · rintro ⟨other, member, equal⟩
      rcases List.mem_cons.mp member with first | later
      · exact absurd (first ▸ equal).symm different
      · exact ⟨other, later, equal⟩
  · intro q owner exclusive
    show (owner, exclusive) ∈ (system.setFileLocks top.path
      ((system.fileLocks top.path).filter fun holder => holder.1 ≠ thread)).fileLocks q ↔ _
    rw [fileLocks_setFileLocks]
    by_cases own : owner = thread
    · rw [own, Function.update_self]
      by_cases here : q = top.path
      · rw [if_pos here, List.mem_filter, here]
        refine iff_of_false (fun kept => ?_) ?_
        · simpa using kept.2
        · rintro ⟨other, member, equal, -⟩
          exact others other member equal
      · rw [if_neg here, consistent.fileHolder, held]
        constructor
        · rintro ⟨other, member, equal⟩
          rcases List.mem_cons.mp member with first | later
          · exact absurd (first ▸ equal.1).symm here
          · exact ⟨other, later, equal⟩
        · rintro ⟨other, member, equal⟩
          exact ⟨other, List.mem_cons_of_mem _ member, equal⟩
    · rw [Function.update_of_ne own, ← consistent.fileHolder]
      by_cases here : q = top.path
      · rw [if_pos here, List.mem_filter, here]
        exact and_iff_left (decide_eq_true own)
      · rw [if_neg here]
  · intro q
    show (∀ holder ∈ (system.setFileLocks top.path _).fileLocks q, _) ∨ ∃ holder,
      (system.setFileLocks top.path ((system.fileLocks top.path).filter fun holder =>
        holder.1 ≠ thread)).fileLocks q = [holder]
    rw [fileLocks_setFileLocks]
    by_cases here : q = top.path
    · rw [if_pos here]
      exact alone_filter _ (consistent.alone top.path)
    · rw [if_neg here]
      exact consistent.alone q

theorem consistent_giveUp (consistent : Consistent levelOf system) {next : System}
    (gives : giveUpStep system thread = some next) : Consistent levelOf next := by
  unfold giveUpStep at gives
  cases phase : (system.threads thread).phase with
  | running =>
      simp only [phase] at gives
      cases gives
  | awaitsThread lock =>
      simp only [phase] at gives
      obtain ⟨-, same⟩ := Option.ite_none_right_eq_some.mp gives
      rw [← Option.some.inj same]
      have waits : (system.threads thread).phase ≠ .running := by simp [phase]
      refine consistent.rephase (present_of_awaits consistent waits) nofun ?_ nofun
      intro other awaits
      rw [phase] at awaits
      cases awaits
  | awaitsFile lock =>
      simp only [phase] at gives
      rw [← Option.some.inj gives]
      have awaited : (system.threads thread).phase.awaited = some lock := by
        rw [phase]
        rfl
      have others := consistent.awaited_path awaited
      refine consistent.change (present_of_awaits consistent (by simp [phase])) rfl rfl
        (consistent.nested thread) (consistent.leveled thread) nofun
        (threadOwner_left consistent (Or.inr ⟨lock, phase, rfl⟩) ?_ ?_) ?_ consistent.alone
      · rintro (⟨other, member, same⟩ | ⟨other, waits, -⟩)
        · exact others other member same
        · cases waits
      · intro path different
        refine or_congr_right (iff_of_false nofun ?_)
        rintro ⟨other, waits, same⟩
        rw [phase] at waits
        cases waits
        exact different same.symm
      · intro path owner exclusive
        refine (consistent.fileHolder path owner exclusive).trans ?_
        by_cases own : owner = thread
        · rw [own, Function.update_self]
        · rw [Function.update_of_ne own]

theorem not_occupies_idle (path : String) : ¬({} : ThreadState).Occupies path := by
  rintro (⟨_, member, -⟩ | ⟨_, awaits, -⟩)
  · cases member
  · cases awaits

theorem consistent_die (consistent : Consistent levelOf system) (process : Nat) :
    Consistent levelOf (dieStep system process) := by
  have dead : ∀ other, other.process = process → (dieStep system process).threads other = {} :=
    fun _ same => if_pos same
  have kept : ∀ other, other.process ≠ process →
      (dieStep system process).threads other = system.threads other :=
    fun _ different => if_neg different
  refine ⟨?_, ?_, ?_, ?_, ?_, ?_, fun path => alone_filter _ (consistent.alone path)⟩
  · intro other absent
    by_cases same : other.process = process
    · exact dead other same
    · rw [kept other same]
      refine consistent.idle other fun present => absent ?_
      exact List.mem_filter.mpr ⟨present, decide_eq_true same⟩
  · intro other
    by_cases same : other.process = process
    · rw [dead other same]
      exact List.Pairwise.nil
    · rw [kept other same]
      exact consistent.nested other
  · intro other
    by_cases same : other.process = process
    · rw [dead other same]
      exact fun _ member => absurd member List.not_mem_nil
    · rw [kept other same]
      exact consistent.leveled other
  · intro other
    by_cases same : other.process = process
    · rw [dead other same]
      exact nofun
    · rw [kept other same]
      exact consistent.asked other
  · intro inProcess path owner
    show Function.update system.threadLocks process (fun _ => none) inProcess path =
      some owner ↔ _
    rw [Function.update_apply]
    by_cases same : inProcess = process
    · rw [if_pos same]
      refine iff_of_false nofun fun occupies => ?_
      rw [dead owner (occupies.1.trans same)] at occupies
      exact not_occupies_idle path occupies.2
    · rw [if_neg same, consistent.threadOwner]
      refine and_congr_right fun own => ?_
      rw [kept owner fun equal => same (own.symm.trans equal)]
  · intro path owner exclusive
    show (owner, exclusive) ∈ (system.fileLocks path).filter (fun holder =>
      holder.1.process ≠ process) ↔ _
    rw [List.mem_filter, decide_eq_true_iff, consistent.fileHolder]
    by_cases same : owner.process = process
    · rw [dead owner same]
      refine iff_of_false (fun kept => kept.2 same) ?_
      rintro ⟨_, member, -⟩
      cases member
    · rw [kept owner same]
      exact and_iff_left same

theorem Consistent.step (consistent : Consistent levelOf system) {next : System}
    {event : Event} (conventional : event.Conventional levelOf)
    (moves : step system event = some next) : Consistent levelOf next := by
  cases event with
  | start thread =>
      obtain ⟨-, same⟩ := Option.ite_none_left_eq_some.mp moves
      rw [← Option.some.inj same]
      exact { consistent with
        idle := fun other absent =>
          consistent.idle other fun present => absent (List.mem_cons_of_mem _ present) }
  | ask thread lock => exact consistent_ask consistent conventional moves
  | takeThread thread => exact consistent_takeThread consistent moves
  | takeFile thread => exact consistent_takeFile consistent moves
  | giveUp thread => exact consistent_giveUp consistent moves
  | release thread lock => exact consistent_release consistent moves
  | die process =>
      rw [← Option.some.inj moves]
      exact consistent_die consistent process

theorem consistent_of_reachable (reached : Reachable levelOf system) :
    Consistent levelOf system := by
  induction reached with
  | initial => exact consistent_initial
  | step _ conventional moves inductionHypothesis =>
      exact inductionHypothesis.step conventional moves

/-! ## What is locked -/

def lockLevels : List LockLevel :=
  [.projectExecutor, .driver, .orchestrator, .lifecycle, .repositoryRef, .projectCoordinator,
    .record]

theorem mem_lockLevels (level : LockLevel) : level ∈ lockLevels := by
  cases level <;> decide

/-- Locks inside one another are of different levels. -/
theorem length_of_nested {held : List FileLock}
    (nested : held.Pairwise fun inner outer => outer.level.value < inner.level.value) :
    held.length ≤ 7 := by
  have levels : (held.map FileLock.level).Nodup := by
    rw [List.Nodup, List.pairwise_map]
    exact nested.imp fun below same => absurd (same ▸ below) (lt_irrefl _)
  have few : (held.map FileLock.level).Subperm lockLevels :=
    levels.subperm fun level _ => mem_lockLevels level
  have bound := few.length_le
  rw [List.length_map] at bound
  exact bound

/-- At any time: a thread holds at most seven locks, each at an inner level of the one taken
before; an exclusive lock has one holder among the threads of all processes, and in one process no
two threads hold locks of one path. -/
theorem locks_exclude (levelOf : String → LockLevel) (system : System)
    (reached : Reachable levelOf system) :
    (∀ thread, (system.threads thread).held.length ≤ 7 ∧
      (system.threads thread).held.Pairwise fun inner outer =>
        outer.level.value < inner.level.value) ∧
    (∀ one other, ∀ lock ∈ (system.threads one).held, ∀ second ∈ (system.threads other).held,
      lock.path = second.path →
        (lock.exclusive = true ∨ one.process = other.process) → one = other) := by
  have consistent := consistent_of_reachable reached
  refine ⟨fun thread => ⟨length_of_nested (consistent.nested thread), consistent.nested thread⟩,
    fun one other lock holds second holdsToo same exclusive => ?_⟩
  rcases exclusive with exclusive | process
  · have first := (consistent.fileHolder lock.path one true).mpr ⟨lock, holds, rfl, exclusive⟩
    have also := (consistent.fileHolder lock.path other second.exclusive).mpr
      ⟨second, holdsToo, same.symm, rfl⟩
    rcases consistent.alone lock.path with shared | ⟨holder, single⟩
    · cases shared _ first
    · rw [single, List.mem_singleton] at first also
      exact congrArg Prod.fst (first.trans also.symm)
  · have first := (consistent.threadOwner one.process lock.path one).mpr
      ⟨rfl, Or.inl ⟨lock, holds, rfl⟩⟩
    have also := (consistent.threadOwner one.process lock.path other).mpr
      ⟨process.symm, Or.inl ⟨second, holdsToo, same.symm⟩⟩
    rw [first] at also
    exact Option.some.inj also

/-! ## Every wait ends -/

/-- The steps of threads that ask for nothing new and do not give up. -/
def Event.Advances : Event → Prop
  | .takeThread _ => True
  | .takeFile _ => True
  | .release _ _ => True
  | _ => False

def Progress (before after : System) : Prop :=
  ∃ event : Event, event.Advances ∧ step before event = some after

def Phase.work : Phase → Nat
  | .running => 0
  | .awaitsThread _ => 3
  | .awaitsFile _ => 2

def ThreadState.work (state : ThreadState) : Nat :=
  state.held.length + state.phase.work

/-- The steps that are left when nothing new is asked for. -/
def System.work (system : System) : Nat :=
  (system.alive.map fun thread => (system.threads thread).work).sum

theorem work_setThread (present : thread ∈ system.alive) {next : System} {state : ThreadState}
    (alive : next.alive = system.alive)
    (threads : next.threads = Function.update system.threads thread state)
    (less : state.work < (system.threads thread).work) : next.work < system.work := by
  rw [System.work, System.work, alive, threads]
  refine List.sum_lt_sum _ _ (fun other _ => ?_) ⟨thread, present, ?_⟩
  · by_cases same : other = thread
    · rw [same, Function.update_self]
      exact less.le
    · rw [Function.update_of_ne same]
  · rw [Function.update_self]
    exact less

theorem Progress.uses_work (consistent : Consistent levelOf system) {next : System}
    (progress : Progress system next) : next.work < system.work := by
  obtain ⟨event, advances, moves⟩ := progress
  cases event with
  | takeThread thread =>
      obtain ⟨lock, awaits, -, same⟩ := takeThreadStep_spec moves
      rw [same]
      refine work_setThread (present_of_awaits consistent (by simp [awaits])) rfl rfl ?_
      simp only [ThreadState.work, awaits, Phase.work]
      omega
  | takeFile thread =>
      obtain ⟨lock, awaits, -, same⟩ := takeFileStep_spec moves
      rw [same]
      refine work_setThread (present_of_awaits consistent (by simp [awaits])) rfl rfl ?_
      simp only [ThreadState.work, awaits, Phase.work, List.length_cons]
      omega
  | release thread lock =>
      obtain ⟨top, rest, running, held, -, same⟩ := releaseStep_spec moves
      rw [same]
      have busy : system.threads thread ≠ {} := by
        intro idle
        rw [idle] at held
        cases held
      refine work_setThread (consistent.present busy) rfl rfl ?_
      simp only [ThreadState.work, running, held, Phase.work, List.length_cons]
      omega
  | _ => exact absurd advances id

/-- A running thread can give back what it took last. -/
theorem exists_release (running : (system.threads thread).phase = .running)
    (holds : (system.threads thread).held ≠ []) : ∃ next, Progress system next := by
  obtain ⟨top, rest, held⟩ := List.exists_cons_of_ne_nil holds
  have enabled : ∃ next, releaseStep system thread top = some next := by
    simp only [releaseStep, running, held, releasing, and_self, if_true]
    exact ⟨_, rfl⟩
  obtain ⟨next, moves⟩ := enabled
  exact ⟨next, .release thread top, trivial, moves⟩

/-- The order in which waits end. -/
def Phase.rank : Phase → Nat
  | .running => 0
  | .awaitsThread lock => 2 * lock.level.value
  | .awaitsFile lock => 2 * lock.level.value + 1

/-- Another thread stands in the way of a waiting one. -/
def Blocks (system : System) (other thread : ThreadId) : Prop :=
  match (system.threads thread).phase with
  | .running => False
  | .awaitsThread lock => system.threadLocks thread.process lock.path = some other
  | .awaitsFile lock => ∃ exclusive, (other, exclusive) ∈ system.fileLocks lock.path

/-- Who stands in the way has taken the path, and awaits something further inside if it
waits. -/
theorem Blocks.upward (consistent : Consistent levelOf system) {other : ThreadId}
    (blocks : Blocks system other thread)
    (waits : (system.threads other).phase ≠ .running) :
    (system.threads thread).phase.rank < (system.threads other).phase.rank := by
  have further : ∀ path, ∀ lock ∈ (system.threads other).held, lock.path = path →
      2 * (levelOf path).value + 1 < (system.threads other).phase.rank := by
    intro path lock member same
    have level := consistent.leveled other lock member
    cases phase : (system.threads other).phase with
    | running => exact absurd phase waits
    | awaitsThread inner =>
        have above := (consistent.asked other inner (by rw [phase]; rfl)).2 lock member
        rw [level, same] at above
        show _ < 2 * inner.level.value
        omega
    | awaitsFile inner =>
        have above := (consistent.asked other inner (by rw [phase]; rfl)).2 lock member
        rw [level, same] at above
        show _ < 2 * inner.level.value + 1
        omega
  unfold Blocks at blocks
  cases phase : (system.threads thread).phase with
  | running =>
      rw [phase] at blocks
      exact blocks.elim
  | awaitsThread lock =>
      rw [phase] at blocks
      have level := (consistent.asked thread lock (by rw [phase]; rfl)).1
      obtain ⟨-, occupies⟩ := (consistent.threadOwner _ _ _).mp blocks
      show 2 * lock.level.value < _
      rw [level]
      rcases occupies with ⟨taken, member, same⟩ | ⟨taken, awaits, same⟩
      · have above := further lock.path taken member same
        omega
      · have takenLevel := (consistent.asked other taken (by rw [awaits]; rfl)).1
        rw [awaits]
        show _ < 2 * taken.level.value + 1
        rw [takenLevel, same]
        omega
  | awaitsFile lock =>
      rw [phase] at blocks
      have level := (consistent.asked thread lock (by rw [phase]; rfl)).1
      obtain ⟨exclusive, holder⟩ := blocks
      obtain ⟨taken, member, same, -⟩ := (consistent.fileHolder _ _ _).mp holder
      show 2 * lock.level.value + 1 < _
      rw [level]
      exact further lock.path taken member same

theorem Blocks.occupies (consistent : Consistent levelOf system) {other : ThreadId}
    (blocks : Blocks system other thread) : ∃ path, (system.threads other).Occupies path := by
  unfold Blocks at blocks
  cases phase : (system.threads thread).phase with
  | running =>
      rw [phase] at blocks
      exact blocks.elim
  | awaitsThread lock =>
      rw [phase] at blocks
      exact ⟨lock.path, ((consistent.threadOwner _ _ _).mp blocks).2⟩
  | awaitsFile lock =>
      rw [phase] at blocks
      obtain ⟨exclusive, holder⟩ := blocks
      obtain ⟨taken, member, same, -⟩ := (consistent.fileHolder _ _ _).mp holder
      exact ⟨lock.path, Or.inl ⟨taken, member, same⟩⟩

theorem eq_idle {state : ThreadState} (running : state.phase = .running)
    (empty : state.held = []) : state = {} := by
  obtain ⟨held, phase⟩ := state
  cases running
  cases empty
  rfl

/-- A thread that nobody blocks takes the next lock on its way. -/
theorem exists_take (waits : (system.threads thread).phase ≠ .running)
    (unblocked : ∀ other, ¬Blocks system other thread) : ∃ next, Progress system next := by
  unfold Blocks at unblocked
  cases phase : (system.threads thread).phase with
  | running => exact absurd phase waits
  | awaitsThread lock =>
      rw [phase] at unblocked
      have free : system.threadLocks thread.process lock.path = none :=
        Option.eq_none_iff_forall_ne_some.mpr unblocked
      have enabled : ∃ next, takeThreadStep system thread = some next := by
        simp only [takeThreadStep, phase, if_pos free]
        exact ⟨_, rfl⟩
      obtain ⟨next, moves⟩ := enabled
      exact ⟨next, .takeThread thread, trivial, moves⟩
  | awaitsFile lock =>
      rw [phase] at unblocked
      have free : system.fileLocks lock.path = [] :=
        List.eq_nil_iff_forall_not_mem.mpr fun holder member =>
          unblocked holder.1 ⟨holder.2, member⟩
      have enabled : ∃ next, takeFileStep system thread = some next := by
        simp only [takeFileStep, phase, free, compatible, List.all_nil, decide_true, ite_self,
          if_true]
        exact ⟨_, rfl⟩
      obtain ⟨next, moves⟩ := enabled
      exact ⟨next, .takeFile thread, trivial, moves⟩

/-- As long as a thread holds or awaits something, some thread can go on. -/
theorem exists_progress (consistent : Consistent levelOf system)
    (busy : ∃ thread, system.threads thread ≠ {}) : ∃ next, Progress system next := by
  by_cases releases : ∃ thread, (system.threads thread).phase = .running ∧
      (system.threads thread).held ≠ []
  · obtain ⟨thread, running, holds⟩ := releases
    exact exists_release running holds
  have idle : ∀ thread, (system.threads thread).phase = .running →
      system.threads thread = {} := fun thread running =>
    eq_idle running (by_contra fun holds => releases ⟨thread, running, holds⟩)
  have waiting : ∃ thread ∈ system.alive, (system.threads thread).phase ≠ .running :=
    busy.imp fun thread busy => ⟨consistent.present busy, fun running => busy (idle thread running)⟩
  -- Among those who wait, the one furthest inside: nobody who waits stands in its way.
  obtain ⟨thread, -, waits, free⟩ := @exists_last_waiting _ _ _ system.alive
    (fun thread => (system.threads thread).phase ≠ .running) _
    (fun thread => (system.threads thread).phase.rank) (Blocks system) waiting
    fun _ _ _ _ _ blocks otherWaits => blocks.upward consistent otherWaits
  refine exists_take waits fun other blocks => ?_
  obtain ⟨path, occupies⟩ := blocks.occupies consistent
  have occupied : system.threads other ≠ {} := fun same =>
    not_occupies_idle path (same ▸ occupies)
  have running := not_not.mp (free other (consistent.present occupied) blocks)
  exact occupied (idle other running)

theorem Progress.consistent (consistent : Consistent levelOf system) {next : System}
    (progress : Progress system next) : Consistent levelOf next := by
  obtain ⟨event, advances, moves⟩ := progress
  refine consistent.step ?_ moves
  cases event with
  | ask thread lock => exact advances.elim
  | _ => trivial

/-- A thread that waits goes on waiting for its lock until it holds it. -/
theorem Progress.awaits {next : System} (progress : Progress system next)
    (awaits : (system.threads thread).phase.awaited = some lock) :
    (next.threads thread).phase.awaited = some lock ∨ lock ∈ (next.threads thread).held := by
  obtain ⟨event, advances, moves⟩ := progress
  cases event with
  | takeThread other =>
      obtain ⟨taken, waits, -, same⟩ := takeThreadStep_spec moves
      rw [same, threads_setThread]
      by_cases own : thread = other
      · rw [own, waits] at awaits
        rw [if_pos own]
        exact Or.inl awaits
      · rw [if_neg own]
        exact Or.inl awaits
  | takeFile other =>
      obtain ⟨taken, waits, -, same⟩ := takeFileStep_spec moves
      rw [same, threads_setThread]
      by_cases own : thread = other
      · rw [own, waits] at awaits
        rw [if_pos own, ← Option.some.inj awaits]
        exact Or.inr (List.mem_cons_self ..)
      · rw [if_neg own]
        exact Or.inl awaits
  | release other given =>
      obtain ⟨top, rest, running, -, -, same⟩ := releaseStep_spec moves
      rw [same, threads_setThread]
      by_cases own : thread = other
      · rw [own, running] at awaits
        cases awaits
      · rw [if_neg own]
        exact Or.inl awaits
  | _ => exact absurd advances id

/-- No deadlock: from any reachable system, however threads of all processes go on without
asking for new locks or giving up, they come to an end after a bounded number of steps, all
locks are free then, and every thread that waited has got its lock on the way. -/
theorem waits_end (levelOf : String → LockLevel) (system : System)
    (reached : Reachable levelOf system) (states : List System)
    (run : List.IsChain Progress (system :: states)) :
    states.length ≤ system.work ∧
      ((¬∃ next, Progress ((system :: states).getLast (List.cons_ne_nil _ _)) next) →
        (∀ thread, ((system :: states).getLast (List.cons_ne_nil _ _)).threads thread = {}) ∧
        ∀ thread lock, (system.threads thread).phase.awaited = some lock →
          ∃ state ∈ states, lock ∈ (state.threads thread).held) := by
  have consistent := consistent_of_reachable reached
  have keeps : ∀ before after, Consistent levelOf before → Progress before after →
      Consistent levelOf after := fun _ _ holds progress => progress.consistent holds
  refine ⟨length_le_work keeps (fun _ _ holds progress => progress.uses_work holds) consistent
    run, fun stuck => ?_⟩
  have atEnd := chain_keeps keeps consistent run _ (List.getLast_mem (List.cons_ne_nil _ _))
  have idle : ∀ thread,
      ((system :: states).getLast (List.cons_ne_nil _ _)).threads thread = {} := by
    intro thread
    by_contra busy
    exact stuck (exists_progress atEnd ⟨thread, busy⟩)
  refine ⟨idle, fun thread lock awaits => ?_⟩
  have moving : ∀ before after : System, (before.threads thread).phase.awaited = some lock →
      Progress before after → (after.threads thread).phase.awaited = some lock ∨
        lock ∈ (after.threads thread).held := fun _ _ awaits progress => progress.awaits awaits
  refine exists_goal moving awaits run fun still => ?_
  rw [idle thread] at still
  cases still

/-! ## Two drivers -/

theorem reachable_of_events {events : List Event} {next : System}
    (reached : Reachable levelOf system)
    (conventional : ∀ event ∈ events, event.Conventional levelOf)
    (moves : events.foldlM step system = some next) : Reachable levelOf next := by
  induction events generalizing system with
  | nil =>
      rw [← Option.some.inj moves]
      exact reached
  | cons event rest inductionHypothesis =>
      obtain ⟨here, later⟩ := List.forall_mem_cons.mp conventional
      rw [List.foldlM_cons] at moves
      obtain ⟨middle, first, moves⟩ := Option.bind_eq_some_iff.mp moves
      exact inductionHypothesis (reached.step here first) later moves

end Order

def driverLock : FileLock where
  path := "driver.lock"
  level := .driver

def firstDriver : ThreadId := ⟨1, 1⟩

def secondDriver : ThreadId := ⟨2, 1⟩

/-- The second process waits for the file that the first one has locked. -/
def driverEvents : List Event :=
  [.start firstDriver, .start secondDriver, .ask firstDriver driverLock,
    .takeThread firstDriver, .takeFile firstDriver, .ask secondDriver driverLock,
    .takeThread secondDriver, .release firstDriver driverLock, .takeFile secondDriver,
    .release secondDriver driverLock]

def driverSystem (count : Nat) : System :=
  ((driverEvents.take count).foldlM step {}).getD {}

theorem driverSystem_reachable {count : Nat}
    (moves : (driverEvents.take count).foldlM step {} = some (driverSystem count)) :
    Reachable (fun _ => .driver) (driverSystem count) := by
  have conventional : ∀ event ∈ driverEvents, event.Conventional fun _ => .driver := by
    decide
  exact reachable_of_events .initial
    (fun event member => conventional event (List.mem_of_mem_take member)) moves

theorem driverLock_exclusive :
    ((driverSystem 7).threads firstDriver).held.length ≤ 7 ∧
      driverLock ∉ ((driverSystem 7).threads secondDriver).held := by
  obtain ⟨few, alone⟩ := locks_exclude (fun _ => .driver) (driverSystem 7)
    (driverSystem_reachable rfl)
  refine ⟨(few firstDriver).1, fun holds => ?_⟩
  have same : secondDriver = firstDriver :=
    alone secondDriver firstDriver driverLock holds driverLock (by decide) rfl (Or.inl rfl)
  exact absurd same (by decide)

theorem secondDriver_gets_lock :
    ∃ state ∈ [driverSystem 8, driverSystem 9, driverSystem 10],
      driverLock ∈ (state.threads secondDriver).held := by
  have run : List.IsChain Progress
      [driverSystem 7, driverSystem 8, driverSystem 9, driverSystem 10] := by
    refine .cons_cons ⟨.release firstDriver driverLock, trivial, rfl⟩
      (.cons_cons ⟨.takeFile secondDriver, trivial, rfl⟩
        (.cons_cons ⟨.release secondDriver driverLock, trivial, rfl⟩ (.singleton _)))
  have stuck : ¬∃ next, Progress (driverSystem 10) next := by
    rintro ⟨next, progress⟩
    have reached := @driverSystem_reachable 10 rfl
    exact absurd (progress.uses_work (consistent_of_reachable reached)) (Nat.not_lt_zero _)
  obtain ⟨-, ends⟩ := waits_end (fun _ => .driver) (driverSystem 7) (driverSystem_reachable rfl)
    [driverSystem 8, driverSystem 9, driverSystem 10] run
  exact (ends stuck).2 secondDriver driverLock rfl

end Execraft.Persistence
