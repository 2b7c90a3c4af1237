import Execraft.RepositorySync.Moves
import Execraft.Foundation.Git.Small

/-!
# What a completed synchronization has verified

Operations run one after another, each perhaps cut off, while agents and operators change
the worktrees in between.  What is recorded of a repository stays true.
-/

namespace Execraft.RepositorySync

open Foundation Program RepositorySyncService

section Records

variable {Worktree Commit Tree : Type}

/-- What a record says is true, and its verified tree is the last verified candidate. -/
structure ItemSound (git : Git Worktree Commit Tree) (candidates : String → Option Tree)
    (item : Item Commit Tree) : Prop where
  noop : item.status = .noop → git.Ancestor item.sourceCommit item.targetBefore
  committed : item.status = .committed → ∃ after, item.targetAfter = some after ∧
    item.targetBefore ∈ git.parents after ∧ item.sourceCommit ∈ git.parents after ∧
      ∀ verified, item.verifiedTree = some verified → git.tree after = verified
  verified : ∀ verified, item.verifiedTree = some verified →
    candidates item.repositoryId = some verified

/-- What is stored is sound, and is settled once it is complete. -/
def StoredSound (git : Git Worktree Commit Tree) (world : World Worktree Commit Tree) :
    Prop :=
  ∀ stored, world.stored = some stored →
    (∀ item ∈ stored.repositories, ItemSound git world.candidates item) ∧
      (stored.phase = .complete → ∀ item ∈ stored.repositories, item.Settled)

variable [DecidableEq Commit] [DecidableEq Tree]
  {service : RepositorySyncService Worktree Commit Tree}
  {world : World Worktree Commit Tree}

/-! ## Moves keep records sound -/

theorem Recorded.sound (truthful : service.git.Truthful) {item after : Item Commit Tree}
    (recorded : Recorded service world item after)
    (sound : ItemSound service.git world.candidates item) :
    ItemSound service.git world.candidates after := by
  cases recorded with
  | noop _ _ contained =>
      refine ⟨fun _ => truthful.isAncestor contained, ?_, sound.verified⟩
      intro committed
      cases committed
  | opened same unsettled _ kept =>
      rw [RepositorySyncRepositoryState.settled_iff, not_or] at unsettled
      refine ⟨fun noop => absurd noop unsettled.1,
        fun committed => absurd committed unsettled.2, ?_⟩
      intro verified recorded
      rw [same.1]
      rcases kept with unchanged | reset
      · rw [unchanged] at recorded
        exact sound.verified verified recorded
      · rw [reset] at recorded
        cases recorded
  | @committed worktree commit message unsettled found atHead expected =>
      obtain ⟨⟨parents, shown, hasBefore, hasSource⟩, tree, _⟩ :=
        service.isExpectedMergeCommit_eq_true.mp expected
      rw [truthful.showParents shown] at hasBefore hasSource
      refine ⟨?_, ?_, sound.verified⟩
      · intro noop
        cases noop
      · intro _
        refine ⟨commit, rfl, hasBefore, hasSource, ?_⟩
        intro verified recorded
        exact (truthful.treeOf (tree verified recorded)).symm
  | noted => exact ⟨sound.noop, sound.committed, sound.verified⟩

omit [DecidableEq Commit] [DecidableEq Tree] in
theorem unique_item {items : List (Item Commit Tree)}
    (unique : (items.map RepositorySyncRepositoryState.repositoryId).Nodup)
    {item other : Item Commit Tree} (member : item ∈ items) (otherMember : other ∈ items)
    (same : item.repositoryId = other.repositoryId) : item = other :=
  List.inj_on_of_nodup_map unique member otherMember same

omit [DecidableEq Commit] [DecidableEq Tree] in
/-- Freezing keeps a settled record and pins the candidate of an open one. -/
theorem frozenRecord_sound {transaction frozen : RepositorySyncTransaction Commit Tree}
    (unique : transaction.repositoryIds.Nodup)
    (shape : frozen.repositories =
      transaction.repositories.map (frozenRecord service.git world))
    {item : Item Commit Tree} (member : item ∈ transaction.repositories)
    (sound : ItemSound service.git world.candidates item) :
    ItemSound service.git (world.freeze service.git frozen).candidates
      (frozenRecord service.git world item) := by
  have listed : frozenRecord service.git world item ∈ frozen.repositories := by
    rw [shape]
    exact List.mem_map_of_mem member
  by_cases settled : item.Settled
  · have kept : ¬ ∃ other ∈ frozen.repositories,
        other.repositoryId = item.repositoryId ∧ ¬ other.Settled := by
      rintro ⟨other, otherMember, same, unsettled⟩
      rw [shape] at otherMember
      obtain ⟨original, originalMember, image⟩ := List.mem_map.mp otherMember
      rw [← image, frozenRecord_repositoryId] at same
      rw [unique_item unique originalMember member same, frozenRecord, if_pos settled] at image
      rw [← image] at unsettled
      exact unsettled settled
    rw [frozenRecord, if_pos settled]
    refine ⟨sound.noop, sound.committed, ?_⟩
    intro verified recorded
    simp only [World.freeze]
    rw [if_neg kept]
    exact sound.verified verified recorded
  · have opened := settled
    rw [RepositorySyncRepositoryState.settled_iff, not_or] at opened
    rw [frozenRecord, if_neg settled] at listed ⊢
    refine ⟨fun noop => absurd noop opened.1,
      fun committed => absurd committed opened.2, ?_⟩
    intro verified recorded
    simp only [World.freeze]
    rw [if_pos ⟨_, listed, rfl, settled⟩]
    exact recorded

theorem Move.sound (truthful : service.git.Truthful)
    {before after : World Worktree Commit Tree × RepositorySyncTransaction Commit Tree}
    (move : Move service before after)
    (memory : ∀ item ∈ before.2.repositories,
      ItemSound service.git before.1.candidates item)
    (stored : StoredSound service.git before.1) :
    (∀ item ∈ after.2.repositories, ItemSound service.git after.1.candidates item) ∧
      StoredSound service.git after.1 := by
  cases move with
  | @record world transaction front item back replaced shape recorded =>
      refine ⟨?_, stored⟩
      intro other member
      have here : item ∈ transaction.repositories := by
        rw [shape]
        exact List.mem_append_right _ List.mem_cons_self
      rcases List.mem_append.mp member with inFront | inBack
      · apply memory
        dsimp only
        rw [shape]
        exact List.mem_append_left _ inFront
      · rcases List.mem_cons.mp inBack with same | later
        · rw [same]
          exact recorded.sound truthful (memory item here)
        · apply memory
          dsimp only
          rw [shape]
          exact List.mem_append_right _ (List.mem_cons_of_mem _ later)
  | flags => exact ⟨memory, stored⟩
  | command command =>
      rw [StoredSound, World.command_stored, World.command_candidates]
      exact ⟨memory, stored⟩
  | commit _ _ _ _ _ =>
      rw [StoredSound, World.command_stored, World.command_candidates]
      exact ⟨memory, stored⟩
  | save permitted =>
      refine ⟨memory, ?_⟩
      intro saved same
      cases same
      exact ⟨memory, permitted⟩
  | @freeze world transaction frozen unique shape open_ =>
      have sound : ∀ item ∈ frozen.repositories,
          ItemSound service.git (world.freeze service.git frozen).candidates item := by
        intro item member
        rw [shape] at member
        obtain ⟨original, originalMember, image⟩ := List.mem_map.mp member
        rw [← image]
        exact frozenRecord_sound unique shape originalMember (memory original originalMember)
      refine ⟨sound, ?_⟩
      intro saved same
      cases same
      exact ⟨sound, fun complete => absurd complete open_⟩

/-- What an operation has done anywhere keeps what is stored sound. -/
theorem Within.sound (truthful : service.git.Truthful)
    {called : World Worktree Commit Tree} (within : Within service called world)
    (sound : StoredSound service.git called) : StoredSound service.git world := by
  rcases within with same | ⟨first, transaction, begins, moves⟩
  · rw [same]
    exact sound
  · have start : ∀ item ∈ first.repositories,
        ItemSound service.git called.candidates item := by
      rcases begins with ⟨stored, _⟩ | ⟨_, _, fresh⟩
      · exact (sound first stored).1
      · intro item member
        obtain ⟨pending, unverified⟩ := fresh item member
        refine ⟨?_, ?_, ?_⟩
        · intro noop
          rw [pending] at noop
          cases noop
        · intro committed
          rw [pending] at committed
          cases committed
        · intro verified recorded
          rw [unverified] at recorded
          cases recorded
    have every : ∀ last, Moves service (called, first) last →
        (∀ item ∈ last.2.repositories, ItemSound service.git last.1.candidates item) ∧
          StoredSound service.git last.1 := by
      intro last moves
      induction moves with
      | refl => exact ⟨start, sound⟩
      | tail _ move inductionHypothesis =>
          exact move.sound truthful inductionHypothesis.1 inductionHypothesis.2
    exact (every _ moves).2

end Records

/-! ## Every run -/

section Runs

variable {Worktree Commit Tree : Type} [DecidableEq Commit] [DecidableEq Tree]
  [ToString Commit] {service : RepositorySyncService Worktree Commit Tree}
  {packageId : String} {world : World Worktree Commit Tree}

/-- Agents and operators change worktrees, not the stored transaction. -/
def ForeignEdits (before after : World Worktree Commit Tree) : Prop :=
  after.stored = before.stored ∧ after.candidates = before.candidates

/-- The worlds that calls of the operations reach from a package without a transaction. -/
def Reached (service : RepositorySyncService Worktree Commit Tree) (packageId : String) :
    World Worktree Commit Tree → Prop :=
  Sessions (Answers service.git) ForeignEdits
    (fun _ program => ∃ operation, program = service.program packageId operation)
    fun world => world.stored = none ∧ ∀ repositoryId, world.candidates repositoryId = none

theorem Reached.sound (truthful : service.git.Truthful)
    (reached : Reached service packageId world) : StoredSound service.git world := by
  refine Sessions.invariant ?_ ?_ ?_ reached
  · intro world initial stored same
    rw [initial.1] at same
    cases same
  · intro world opened sound edited stored same
    rw [edited.1] at same
    rw [edited.2]
    exact sound stored same
  · intro world program sound chosen
    obtain ⟨operation, same⟩ := chosen
    rw [same]
    intro ending final run
    obtain ⟨within, _⟩ := guarantees_program operation ending final run
    exact ⟨within.sound truthful sound, fun _ _ => trivial⟩

/-- The world after a call that nothing cuts off. -/
def call (service : RepositorySyncService Worktree Commit Tree) (packageId : String)
    (world : World Worktree Commit Tree) (operation : Operation) : World Worktree Commit Tree :=
  ((service.program packageId operation).drive (answer service.git) world).2

theorem Reached.call (reached : Reached service packageId world) (operation : Operation) :
    Reached service packageId (call service packageId world operation) :=
  Sessions.session reached ⟨rfl, rfl⟩ ⟨operation, rfl⟩ (run_drive (fun _ _ => rfl) _ _)

end Runs

/-! ## A merge that an agent commits -/

section Samples

def smallService : RepositorySyncService SmallWorktree SmallCommit String where
  git := smallGit
  py := asciiPython
  manifest := {
    id := "task"
    repositories := [⟨"core", "master", "task", "task_owned"⟩,
      ⟨"ui", "master", "task", "task_owned"⟩] }
  pathText := id

def smallSpec (repositoryIds : List String) : RepositorySyncSpec where
  targets := repositoryIds.map fun id => ⟨id, "", "origin"⟩
  strategy := "merge"
  conflictPolicy := "ai_resolve"
  remote := "origin"
  requireIndependentReview := true

/-- A clean worktree whose upstream has one new commit. -/
def divergedWorktree : SmallWorktree where
  branch := some "task"
  head := some (.child (.root "base") "task")
  files := "task"
  index := "task"
  upstream := [(("origin", "master"), .child (.root "base") "upstream")]

def divergedWorld : World SmallWorktree SmallCommit String where
  stored := none
  worktrees := fun repositoryId =>
    if repositoryId ∈ ["core", "ui"] then some divergedWorktree else none
  candidates := fun _ => none

theorem reached_divergedWorld (packageId : String) :
    Reached smallService packageId divergedWorld :=
  Sessions.start ⟨rfl, fun _ => rfl⟩

/-- The world once a synchronization of `core` has been prepared. -/
def preparedWorld : World SmallWorktree SmallCommit String :=
  call smallService "sync" divergedWorld (.prepare "v1" (smallSpec ["core"]))

/-- Somebody commits the merge in progress. -/
def agentCommits (world : World SmallWorktree SmallCommit String) (repositoryId : String) :
    World SmallWorktree SmallCommit String :=
  (world.command repositoryId fun worktree => worktree.commit).2

def adoptedWorld : World SmallWorktree SmallCommit String :=
  call smallService "sync" (agentCommits preparedWorld "core") (.commit "Sync")

theorem reached_adoptedWorld : Reached smallService "sync" adoptedWorld :=
  Sessions.session ((reached_divergedWorld "sync").call _)
    ⟨World.command_stored, World.command_candidates⟩ ⟨.commit "Sync", rfl⟩
    (run_drive (fun _ _ => rfl) _ _)

def committedWorld : World SmallWorktree SmallCommit String :=
  call smallService "sync" (call smallService "sync" preparedWorld .markVerified)
    (.commit "Sync")

end Samples

end Execraft.RepositorySync
