import Execraft.Foundation.FreshName
import Execraft.Orchestrate.CommitAttempts

/-!
# Commits after interruptions

However often the commit of a package is cut off and begun again, each of its checkouts is
committed at most once, and a transaction that the journal calls committed leaves nothing to
commit.
-/

namespace Execraft.Orchestrate.Commits

open Foundation Foundation.Program

namespace Scenario

variable {Commit Tree : Type} {scenario : Scenario Commit Tree}
  {world after : World Commit Tree} {transaction : CommitTransaction Commit}
  {raises : CommitFailure → World Commit Tree → Prop}

/-! ## An interrupted transaction -/

theorem mem_available {repository : String × String} :
    repository ∈ scenario.available ↔ repository.1 ∈ scenario.declared ∧
      scenario.resolve repository.1 = .ok (some repository.2) := by
  rw [available, List.mem_filterMap]
  constructor
  · intro located
    obtain ⟨repositoryId, member, located⟩ := located
    unfold locate at located
    cases resolved : scenario.resolve repositoryId with
    | error message =>
        rw [resolved] at located
        cases located
    | ok answer =>
        cases answer with
        | none =>
            rw [resolved] at located
            cases located
        | some path =>
            rw [resolved] at located
            rw [← Option.some.inj located]
            exact ⟨member, resolved⟩
  · intro resolved
    refine ⟨repository.1, resolved.1, ?_⟩
    rw [locate_of_resolve resolved.2]
    rfl

theorem locate_available {repository : String × String}
    (member : repository ∈ scenario.available) :
    scenario.locate repository.1 = some repository := by
  rw [locate_of_resolve (mem_available.mp member).2]
  rfl

theorem resolveRepoPath_available {repository : String × String}
    (member : repository ∈ scenario.available) :
    resolveRepoPath scenario.config scenario.workspace repository.1 = .ok repository.2 := by
  have resolved := (mem_available.mp member).2
  rw [resolve] at resolved
  rw [resolveRepoPath, resolved]
  rfl

/-- Only a repository that is not required can be absent. -/
theorem not_required_of_absent {config : CommitConfig} {workspace : TaskWorkspace}
    {repositoryId : String}
    (absent : resolveRepoPathIfAvailable config workspace repositoryId = .ok none) :
    repositoryIsRequired workspace repositoryId = false := by
  by_contra required
  rw [Bool.not_eq_false] at required
  unfold resolveRepoPathIfAvailable at absent
  rw [required] at absent
  split at absent
  · split at absent <;> cases absent
  · split at absent
    · cases absent
    · split at absent
      · split at absent <;> cases absent
      · split at absent
        · cases absent
        · split at absent <;> cases absent

variable [DecidableEq Tree]

/-- A transaction that was begun leaves no required repository out. -/
theorem missingRequired_of_begun (begun : scenario.Begun transaction) :
    missingRequired scenario.workspace scenario.package
      (transaction.preSnapshots.map RepositorySnapshot.repositoryId) = [] := by
  have none : (scenario.package.affectedRepositories.eraseDups.filter fun repositoryId =>
      repositoryId ∉ transaction.preSnapshots.map RepositorySnapshot.repositoryId).filter
        (repositoryIsRequired scenario.workspace) = [] := by
    rw [List.filter_eq_nil_iff]
    intro repositoryId member required
    rw [List.mem_filter, decide_eq_true_iff, begun.recorded] at member
    obtain ⟨answer, resolved⟩ := begun.resolved repositoryId member.1
    cases answer with
    | none =>
        rw [not_required_of_absent resolved] at required
        cases required
    | some path =>
        have present : (repositoryId, path) ∈ scenario.available :=
          mem_available.mpr ⟨member.1, resolved⟩
        exact member.2 (List.mem_map_of_mem present)
  rw [missingRequired, none, List.mergeSort_nil]

/-- Where all is smooth, the transaction holds what the repositories were at the start. -/
theorem Begun.snapshot (begun : scenario.Begun transaction) (smooth : scenario.Smooth)
    {before : RepositorySnapshot Commit} (recorded : before ∈ transaction.preSnapshots)
    {path : String} (member : (before.repositoryId, path) ∈ scenario.available) :
    before = snapshotOf scenario.history scenario.start (before.repositoryId, path) := by
  rw [begun.snapshots smooth] at recorded
  obtain ⟨repository, isRepository, same⟩ := List.mem_map.mp recorded
  have identity : repository.1 = before.repositoryId :=
    congrArg RepositorySnapshot.repositoryId same
  have located := locate_available isRepository
  rw [identity, locate_available member] at located
  rw [Option.some.inj located]
  exact same.symm

variable [DecidableEq Commit]

theorem ensures_recoverRepository {before : RepositorySnapshot Commit} {path : String}
    (sound : scenario.Sound world) (newest : Newest scenario.Owns world.journal transaction)
    (pending : transaction.status = .pending) (begun : scenario.Begun transaction)
    (recorded : before ∈ transaction.preSnapshots)
    (member : (before.repositoryId, path) ∈ scenario.available)
    (fails : ∀ message after, scenario.Sound after → after.journal = world.journal →
      ¬scenario.Smooth → raises (.error message) after) :
    Ensures scenario.Step scenario.Sound world
      (recoverRepository scenario.config scenario.workspace scenario.package before)
      (fun _ after => CommitsAt scenario.history scenario.faulty path world after ∧
        Clean scenario.history (after.checkouts path)) raises := by
  have isPath : resolveRepoPath scenario.config scenario.workspace before.repositoryId =
      .ok path := resolveRepoPath_available member
  have advances := sound.advances path
  unfold recoverRepository
  apply ensures_bind
  refine ensures_ofResult sound (fun given isGiven => ?_) fun message missing => ?_
  case refine_2 =>
    rw [isPath] at missing
    cases missing
  rw [isPath] at isGiven
  rw [← Except.ok.inj isGiven]
  apply ensures_bind
  refine ensures_snapshotRepository sound ?_
    fun message broken => fails message world sound rfl (not_smooth_of_faulty broken)
  refine ensures_ite (fun elsewhere => ?_) fun _ => ?_
  · refine ensures_raise sound (fails _ world sound rfl fun smooth => elsewhere ?_)
    rw [begun.snapshot smooth recorded member]
    exact advances.branch
  refine ensures_ite (fun moved => ?_) fun same => ?_
  · refine ensures_ite (fun dirty => ?_) fun clean => ?_
    · refine ensures_raise sound (fails _ world sound rfl fun smooth => ?_)
      rw [begun.snapshot smooth recorded member] at moved
      exact advances.clean smooth.1 moved (of_decide_eq_true dirty)
    · exact ensures_pure sound ⟨CommitsAt.refl world path,
        fun dirty => clean (decide_eq_true dirty)⟩
  refine ensures_ite (fun dirty => ?_) fun clean => ?_
  · refine ensures_ite (fun manual => ?_) fun automatic => ?_
    · exact ensures_raise sound (fails _ world sound rfl
        fun smooth => manual smooth.2.commits)
    have affected := affected_of_available (not_not.mp automatic) member
    refine ensures_gitCommitRepository _
      (fun after commits => sound.commitsAt newest pending begun affected commits)
      fun message after commits refuses => ?_
    refine fails message after (sound.commitsAt newest pending begun affected commits)
      commits.journal fun smooth => ?_
    rcases refuses with broken | ⟨required, nothing⟩ | ⟨text, wrong⟩
    · exact smooth.1 broken
    · obtain ⟨-, differs, -⟩ := smooth.2.changes required
      rw [begun.snapshot smooth recorded member] at same
      have unmoved : (world.checkouts path).head = (scenario.start path).head := not_not.mp same
      have dirtyBefore := advances.dirty smooth.1 unmoved (of_decide_eq_true dirty)
      apply differs _ member dirtyBefore
      rw [← advances.worktree, ← unmoved]
      exact nothing
    · obtain ⟨given, isGiven⟩ := smooth.2.message
      rw [isGiven] at wrong
      cases wrong
  · exact ensures_pure sound ⟨CommitsAt.refl world path,
      fun dirty => clean (decide_eq_true dirty)⟩

/-- The state of the loop over the repositories of a transaction. -/
structure Recovering (scenario : Scenario Commit Tree) (world : World Commit Tree)
    (front : List (RepositorySnapshot Commit)) (after : World Commit Tree) : Prop where
  sound : scenario.Sound after
  journal : after.journal = world.journal
  clean : ∀ repository ∈ scenario.available,
    repository.1 ∈ front.map RepositorySnapshot.repositoryId →
      Clean scenario.history (after.checkouts repository.2)

omit [DecidableEq Commit] in
theorem exists_available (begun : scenario.Begun transaction)
    {before : RepositorySnapshot Commit} (recorded : before ∈ transaction.preSnapshots) :
    ∃ path, (before.repositoryId, path) ∈ scenario.available := by
  have listed := List.mem_map_of_mem (f := RepositorySnapshot.repositoryId) recorded
  rw [begun.recorded] at listed
  obtain ⟨repository, member, same⟩ := List.mem_map.mp listed
  exact ⟨repository.2, same ▸ member⟩

theorem ensures_recoverRepositories (sound : scenario.Sound world)
    (newest : Newest scenario.Owns world.journal transaction)
    (pending : transaction.status = .pending) (begun : scenario.Begun transaction)
    (fails : ∀ message after, scenario.Sound after → after.journal = world.journal →
      ¬scenario.Smooth → raises (.error message) after) :
    Ensures scenario.Step scenario.Sound world
      (transaction.preSnapshots.foldlM (fun _ snapshot =>
        recoverRepository scenario.config scenario.workspace scenario.package snapshot) ())
      (fun _ after => scenario.Sound after ∧ after.journal = world.journal ∧
        ∀ repository ∈ scenario.available,
          Clean scenario.history (after.checkouts repository.2)) raises := by
  have loop : Ensures scenario.Step scenario.Sound world
      (transaction.preSnapshots.foldlM (fun _ snapshot =>
        recoverRepository scenario.config scenario.workspace scenario.package snapshot) ())
      (fun _ after => scenario.Recovering world transaction.preSnapshots after) raises := by
    refine ensures_foldlM (motive := fun front _ after => scenario.Recovering world front after)
      ?_ (fun _ _ _ passed => passed.sound) ⟨sound, rfl, fun _ _ => nofun⟩
    intro front before back _ middle shape passed
    have recorded : before ∈ transaction.preSnapshots := by
      rw [shape]
      exact List.mem_append_right _ (List.mem_cons_self ..)
    obtain ⟨path, member⟩ := exists_available begun recorded
    refine (ensures_recoverRepository passed.sound (passed.journal ▸ newest) pending begun
      recorded member fun message after settled journal rough =>
        fails message after settled (journal.trans passed.journal) rough).mono ?_
          fun _ _ _ failed => failed
    intro _ after settled passes
    obtain ⟨commits, here⟩ := passes
    refine ⟨settled, commits.journal.trans passed.journal, fun repository isAvailable listed => ?_⟩
    by_cases same : repository.2 = path
    · rw [same]
      exact here
    · rw [commits.others _ same]
      rw [List.map_append, List.map_singleton, List.mem_append, List.mem_singleton] at listed
      refine passed.clean repository isAvailable (listed.resolve_right fun last => same ?_)
      have located := locate_available isAvailable
      rw [last, locate_available member] at located
      exact (congrArg Prod.snd (Option.some.inj located)).symm
  refine loop.mono (fun _ after _ passed => ⟨passed.sound, passed.journal,
    fun repository member => passed.clean repository member ?_⟩) fun _ _ _ failed => failed
  rw [begun.recorded]
  exact List.mem_map_of_mem member

omit [DecidableEq Commit] in
theorem ensures_snapshotAfter (sound : scenario.Sound world)
    (begun : scenario.Begun transaction)
    (fails : ∀ message, scenario.faulty → raises (.error message) world) :
    Ensures scenario.Step scenario.Sound world
      (snapshotAfter scenario.config scenario.workspace transaction.preSnapshots)
      (fun post after => after = world ∧
        post = scenario.available.map (snapshotOf scenario.history world.checkouts)) raises := by
  let located := fun before : RepositorySnapshot Commit => scenario.locate before.repositoryId
  have whole : transaction.preSnapshots.filterMap located = scenario.available := by
    have parts : located = scenario.locate ∘ RepositorySnapshot.repositoryId := rfl
    rw [parts, ← List.filterMap_map, begun.recorded, List.filterMap_map]
    refine (List.filterMap_congr fun repository member => ?_).trans List.filterMap_some
    exact locate_available member
  rw [← whole]
  refine ensures_foldlM (motive := fun front post after => after = world ∧
    post = (front.filterMap located).map (snapshotOf scenario.history world.checkouts))
      ?_ (fun _ _ after passed => passed.1 ▸ sound) ⟨rfl, rfl⟩
  intro front before back post middle shape passed
  have recorded : before ∈ transaction.preSnapshots := by
    rw [shape]
    exact List.mem_append_right _ (List.mem_cons_self ..)
  obtain ⟨path, member⟩ := exists_available begun recorded
  have isPath : resolveRepoPath scenario.config scenario.workspace before.repositoryId =
      .ok path := resolveRepoPath_available member
  rw [passed.1]
  apply ensures_bind
  refine ensures_ofResult sound (fun given isGiven => ?_) fun message missing => ?_
  case refine_2 =>
    rw [isPath] at missing
    cases missing
  rw [isPath] at isGiven
  rw [← Except.ok.inj isGiven]
  apply ensures_bind
  refine ensures_snapshotRepository sound (ensures_pure sound ⟨rfl, ?_⟩) fails
  have here : located before = some (before.repositoryId, path) := locate_available member
  rw [passed.2, List.filterMap_append, List.filterMap_cons_some here, List.filterMap_nil,
    List.map_append, List.map_singleton]

omit [DecidableEq Commit] in
/-- Where all is smooth, an interrupted transaction has something to commit. -/
theorem exists_moved (sound : scenario.Sound world) (begun : scenario.Begun transaction)
    (smooth : scenario.Smooth) (required : scenario.config.requireRepositoryChanges = true)
    (strict : ¬scenario.config.allowVerifiedNoopCommits = true)
    (clean : ∀ repository ∈ scenario.available,
      Clean scenario.history (world.checkouts repository.2)) :
    ∃ pair ∈ transaction.preSnapshots.zip
      (scenario.available.map (snapshotOf scenario.history world.checkouts)),
        pair.2.headCommit ≠ pair.1.headCommit := by
  obtain ⟨-, differs, changes⟩ := smooth.2.changes required
  obtain ⟨repository, member, dirty⟩ := changes.resolve_left strict
  refine ⟨(snapshotOf scenario.history scenario.start repository,
    snapshotOf scenario.history world.checkouts repository), ?_, fun same => ?_⟩
  · rw [begun.snapshots smooth, List.zip_map']
    exact List.mem_map_of_mem member
  · have unmoved : (world.checkouts repository.2).head =
        (scenario.start repository.2).head := same
    apply differs repository member dirty
    rw [← (sound.advances repository.2).worktree, ← unmoved]
    exact (clean repository member).worktree

omit [DecidableEq Commit] in
/-- Without snapshots no repository has been touched. -/
theorem untouched_of_empty (sound : scenario.Sound world)
    (newest : Newest scenario.Owns world.journal transaction)
    (pending : transaction.status = .pending) (empty : transaction.preSnapshots = []) :
    scenario.Untouched world.checkouts := by
  have accounts := sound.accounts transaction newest
  rw [Accounts, pending] at accounts
  rcases accounts with untouched | begun
  · exact untouched.2
  · intro smooth
    have recorded := begun.recorded
    rw [empty, List.map_nil] at recorded
    exact absurd (List.map_eq_nil_iff.mp recorded.symm) smooth.2.present

/-- The transaction was cut off before its first snapshots were stored. -/
def Bare (scenario : Scenario Commit Tree) (world : World Commit Tree) : Prop :=
  ∃ transaction, Newest scenario.Owns world.journal transaction ∧
    transaction.status = .pending ∧ transaction.preSnapshots = []

theorem ensures_tryRecover (sound : scenario.Sound world)
    (newest : Newest scenario.Owns world.journal transaction)
    (pending : transaction.status = .pending) :
    Ensures scenario.Step scenario.Sound world
      (tryRecover scenario.config scenario.workspace scenario.package transaction)
      scenario.Stored
      fun _ after => scenario.Sound after ∧
        scenario.Holds transaction.transactionId after ∧
          (scenario.Smooth → transaction.preSnapshots = [] ∧ after.checkouts = scenario.start)
      := by
  have held : ∀ after : World Commit Tree, after.journal = world.journal →
      scenario.Holds transaction.transactionId after := fun after journal => by
    rw [Holds, journal]
    exact ⟨transaction, newest, rfl⟩
  unfold tryRecover
  refine ensures_ite (fun empty => ?_) fun recorded => ?_
  · exact ensures_raise sound ⟨sound, held world rfl, fun smooth =>
      ⟨empty, untouched_of_empty sound newest pending empty smooth⟩⟩
  have accounts := sound.accounts transaction newest
  rw [Accounts, pending] at accounts
  have begun := accounts.resolve_left fun untouched => recorded untouched.1
  refine ensures_ite (fun outside => absurd (fun repositoryId listed => ?_) outside) fun _ => ?_
  · rw [begun.recorded] at listed
    obtain ⟨repository, member, same⟩ := List.mem_map.mp listed
    rw [← same]
    exact List.mem_eraseDups.mp (mem_available.mp member).1
  refine ensures_ite (fun omits => absurd (missingRequired_of_begun begun) omits) fun _ => ?_
  have fails : ∀ (message : String) after, scenario.faulty → scenario.Sound after →
      scenario.Holds transaction.transactionId after → scenario.Sound after ∧
        scenario.Holds transaction.transactionId after ∧ (scenario.Smooth →
          transaction.preSnapshots = [] ∧ after.checkouts = scenario.start) :=
    fun _ after broken later holds =>
      ⟨later, holds, fun smooth => absurd smooth (not_smooth_of_faulty broken)⟩
  apply ensures_bind
  refine (ensures_recoverRepositories sound newest pending begun fun _ after later journal rough =>
    ⟨later, held after journal, fun smooth => absurd smooth rough⟩).mono ?_
      fun _ _ _ failed => failed
  intro _ after _ passed
  obtain ⟨later, journal, clean⟩ := passed
  have there := newest
  rw [← journal] at there
  apply ensures_bind
  refine (ensures_snapshotAfter later begun fun message broken =>
    fails message after broken later (held after journal)).mono ?_ fun _ _ _ failed => failed
  intro post final _ passed
  rw [passed.1, passed.2]
  refine ensures_ite (fun unmoved => ?_) fun _ => ?_
  · refine ensures_raise later ⟨later, held after journal, fun smooth => ?_⟩
    obtain ⟨pair, isPair, moved⟩ :=
      exists_moved later begun smooth unmoved.1 unmoved.2.2 clean
    exact absurd (unmoved.2.1 pair isPair) moved
  apply ensures_bind
  refine ensures_addPost _ later there rfl pending begun
    (fun last stored settled same isStored identity _ _ => ?_) fails
  apply ensures_bind
  have complete : scenario.Complete last := fun _ => by
    rw [same]
    exact clean
  refine (ensures_journalCommit settled ⟨stored, isStored, identity⟩ complete fails).mono
    (fun _ _ settled stored => ensures_pure settled stored) fun _ _ _ failed => failed

theorem ensures_recoverCommitTransaction (sound : scenario.Sound world)
    (newest : Newest scenario.Owns world.journal transaction)
    (pending : transaction.status = .pending) :
    Ensures scenario.Step scenario.Sound world
      (recoverCommitTransaction scenario.config scenario.workspace scenario.package transaction)
      scenario.Stored
      fun _ after => scenario.Smooth → scenario.Bare world ∧ scenario.Stopped after ∧
        after.checkouts = scenario.start := by
  apply ensures_handling
  refine (ensures_tryRecover sound newest pending).mono (fun _ _ _ stored => stored) ?_
  intro failure middle _ failed
  obtain ⟨later, held, smooth⟩ := failed
  refine (ensures_abandon later held fun calm => (smooth calm).2).mono
    (fun _ _ _ stored => stored) fun _ final _ stopped calm => ?_
  obtain ⟨same, halted⟩ := stopped calm
  exact ⟨⟨transaction, newest, pending, (smooth calm).1⟩, halted,
    same.trans (smooth calm).2⟩

theorem ensures_program (sound : scenario.Sound world) :
    Ensures scenario.Step scenario.Sound world scenario.program scenario.Stored
      fun _ after => scenario.Smooth → scenario.Bare world ∧ scenario.Stopped after ∧
        after.checkouts = scenario.start := by
  have fresh : ∀ {middle : World Commit Tree}, scenario.Sound middle →
      scenario.Untouched middle.checkouts →
        Ensures scenario.Step scenario.Sound middle
          (commitFresh scenario.config scenario.workspace scenario.package)
          scenario.Stored
          fun _ after => scenario.Smooth → scenario.Bare world ∧ scenario.Stopped after ∧
            after.checkouts = scenario.start := fun later untouched =>
    (ensures_commitFresh later untouched).mono (fun _ _ _ stored => stored)
      fun _ _ _ rough smooth => absurd smooth rough
  unfold program commitStandardPackage
  apply ensures_bind
  refine ensures_look sound (fun journal performed => ?_)
    fun _ broken smooth => absurd smooth (not_smooth_of_faulty broken)
  rw [performed.1]
  cases last : lastByWorkPackage world.journal scenario.package.id with
  | none =>
      refine fresh sound (sound.fresh fun transaction newest => ?_)
      have found := newest_iff.mpr newest
      rw [lastByWorkPackage] at last
      exact absurd (found.symm.trans last) nofun
  | some existing =>
      have newest : Newest scenario.Owns world.journal existing := newest_iff.mp last
      have accounts := sound.accounts existing newest
      unfold Accounts at accounts
      cases status : existing.status with
      | committed =>
          simp only [status]
          exact ensures_pure sound ⟨existing, newest, rfl, status⟩
      | failed =>
          rw [status] at accounts
          simp only [status]
          exact fresh sound accounts
      | pending =>
          simp only [status]
          refine ensures_ite (fun _ => ?_) fun lax => ?_
          · exact ensures_recoverCommitTransaction sound newest status
          have rough : ¬scenario.Smooth := fun smooth => lax smooth.2.strict
          apply ensures_bind
          refine ensures_changeTransaction sound newest rfl rfl rfl
            (fun smooth => absurd smooth rough) (fun after later _ _ => ?_)
            fun _ _ _ _ _ smooth => absurd smooth rough
          exact fresh later fun smooth => absurd smooth rough

theorem sound_of_reached (reached : scenario.Reached world) : scenario.Sound world := by
  have begins : ∀ middle, scenario.Begins middle → scenario.Sound middle :=
    fun _ begins => sound_of_begins begins
  have opens : ∀ middle opened, scenario.Sound middle → middle = opened →
      scenario.Sound opened := fun _ _ sound same => same ▸ sound
  have each : ∀ middle program, scenario.Sound middle → program = scenario.program →
      Guarantees scenario.Step scenario.Sound middle program fun _ _ => True := by
    intro middle program sound isProgram
    rw [isProgram]
    exact (ensures_program sound).guarantees.mono fun _ _ _ _ => trivial
  exact Sessions.invariant begins opens each reached

omit [DecidableEq Commit] in
theorem Sound.clean (sound : scenario.Sound world)
    (newest : Newest scenario.Owns world.journal transaction)
    (committed : transaction.status = .committed)
    (automatic : scenario.config.autoCommit = true) :
    ∀ repository ∈ scenario.available,
      Clean scenario.history (world.checkouts repository.2) := by
  have accounts := sound.accounts transaction newest
  rw [Accounts, committed] at accounts
  exact accounts automatic

/-! ## Exactly once -/

omit [DecidableEq Commit] in
theorem exists_performed (history : History Commit Tree) (world : World Commit Tree)
    (effect : Effect Commit) : ∃ answer after, Performed history world effect answer after := by
  cases effect with
  | readJournal => exact ⟨_, _, rfl, rfl⟩
  | writeJournal journal => exact ⟨(), _, rfl⟩
  | generateTxId packageId =>
      exact ⟨_, _, firstFree_notMem toString_injective 0, rfl⟩
  | utcNow => exact ⟨"", _, rfl⟩
  | validateScope packageId => exact ⟨(), _, rfl⟩
  | currentBranch path => exact ⟨_, _, rfl, rfl⟩
  | headCommit path => exact ⟨_, _, rfl, rfl⟩
  | workingTreeDirty path => exact ⟨_, _, decide_eq_true_iff, rfl⟩
  | addAll path => exact ⟨(), _, rfl⟩
  | diffCached path => exact ⟨_, _, decide_eq_true_iff, rfl⟩
  | commit path message =>
      obtain ⟨commit, parents, content⟩ := history.exists_child
        (world.checkouts path).head (world.checkouts path).index
      exact ⟨(), _, commit, parents, content, rfl⟩
  | shortHead path => exact ⟨"", _, rfl⟩
  | humanRequired packageId message => exact ⟨(), _, rfl⟩

/-- How a finalization ends: everything of the package has been committed once, or it was
stopped by a transaction that had been cut off before its first snapshots, and the next
finalization begins anew. -/
def Settles (scenario : Scenario Commit Tree) (world : World Commit Tree) :
    Ending CommitFailure String → World Commit Tree → Prop
  | .cut, _ => True
  | .returned transactionId, final =>
      scenario.Stored transactionId final ∧ ∀ path,
        if path ∈ scenario.available.map Prod.snd then
          ¬(final.checkouts path).Dirty scenario.history ∧
            if (scenario.start path).worktree =
                scenario.history.tree (scenario.start path).head then
              (final.checkouts path).head = (scenario.start path).head
            else
              scenario.history.parents (final.checkouts path).head =
                [(scenario.start path).head] ∧
              scenario.history.tree (final.checkouts path).head =
                (scenario.start path).worktree
        else final.checkouts path = scenario.start path
  | .raised _, final =>
      scenario.Bare world ∧ ¬scenario.Bare final ∧ final.checkouts = scenario.start

omit [DecidableEq Commit] [DecidableEq Tree] in
theorem not_bare_of_stopped (stopped : scenario.Stopped world) : ¬scenario.Bare world := by
  intro bare
  obtain ⟨failed, isFailed, status⟩ := stopped
  obtain ⟨pending, isPending, waits, -⟩ := bare
  rw [isPending.unique isFailed, status] at waits
  cases waits

end Scenario

/-! ## Two repositories -/

/-- A commit is the trees up to it, the newest first. -/
def sampleHistory : History (List Nat) Nat where
  parents := fun commit => match commit with
    | [] => []
    | _ :: parent => [parent]
  tree := fun commit => commit.headD 0
  notOwnParent := fun commit => by
    cases commit with
    | nil => exact List.not_mem_nil
    | cons content parent =>
        rw [List.mem_singleton]
        exact List.cons_ne_self content parent
  exists_child := fun parent content => ⟨content :: parent, rfl, rfl⟩

def sampleCheckout (content : Nat) : Checkout (List Nat) Nat where
  branch := "main"
  head := [1]
  index := 1
  worktree := content

def samplePackage : WorkPackage where
  id := "WP-1"
  title := "Sample"
  affectedRepositories := ["app", "lib"]

def sampleScenario : Scenario (List Nat) Nat where
  history := sampleHistory
  faulty := False
  config := {}
  workspace :=
    { repositoryPaths := Dict.empty.set "app" "/app" |>.set "lib" "/lib"
      isCheckout := fun _ => true
      manifestPath := fun repositoryId => .error repositoryId }
  package := samplePackage
  start := fun path => sampleCheckout (if path = "/app" then 2 else 3)

/-- Everything succeeds. -/
def answerSample (world : World (List Nat) Nat) :
    (effect : Effect (List Nat)) → Answer effect × World (List Nat) Nat
  | .readJournal => (world.journal, world)
  | .writeJournal journal => ((), { world with journal := journal })
  | .generateTxId _ =>
      let taken := world.journal.map CommitTransaction.transactionId
      (firstFree taken toString taken.length 0, world)
  | .utcNow => ("", world)
  | .validateScope _ => ((), world)
  | .currentBranch path => ((world.checkouts path).branch, world)
  | .headCommit path => ((world.checkouts path).head, world)
  | .workingTreeDirty path => (decide ((world.checkouts path).Dirty sampleHistory), world)
  | .addAll path =>
      let checkout := world.checkouts path
      ((), world.setCheckout path { checkout with index := checkout.worktree })
  | .diffCached path =>
      let checkout := world.checkouts path
      (decide (checkout.index ≠ sampleHistory.tree checkout.head), world)
  | .commit path _ =>
      let checkout := world.checkouts path
      ((), world.setCheckout path { checkout with head := checkout.index :: checkout.head })
  | .shortHead _ => ("", world)
  | .humanRequired packageId message =>
      ((), { world with escalations := world.escalations ++ [(packageId, message)] })

theorem performed_answerSample (world : World (List Nat) Nat) (effect : Effect (List Nat)) :
    Performed sampleHistory world effect (answerSample world effect).1
      (answerSample world effect).2 := by
  cases effect with
  | generateTxId packageId => exact ⟨firstFree_notMem toString_injective 0, rfl⟩
  | workingTreeDirty path => exact ⟨decide_eq_true_iff, rfl⟩
  | diffCached path => exact ⟨decide_eq_true_iff, rfl⟩
  | commit path message => exact ⟨_, rfl, rfl, rfl⟩
  | readJournal => exact ⟨rfl, rfl⟩
  | currentBranch path => exact ⟨rfl, rfl⟩
  | headCommit path => exact ⟨rfl, rfl⟩
  | _ => rfl

def handleSample (world : World (List Nat) Nat) (effect : Effect (List Nat)) :
    Reply effect × World (List Nat) Nat :=
  (.ok (answerSample world effect).1, (answerSample world effect).2)

theorem step_handleSample (world : World (List Nat) Nat) (effect : Effect (List Nat)) :
    sampleScenario.Step world effect (handleSample world effect).1
      (handleSample world effect).2 :=
  performed_answerSample world effect

def sampleStart : World (List Nat) Nat where
  checkouts := sampleScenario.start

/-- The process dies when it has committed the first of the two repositories. -/
def sampleCrash : World (List Nat) Nat :=
  sampleScenario.program.driveFor handleSample 18 sampleStart

theorem sampleStart_begins : sampleScenario.Begins sampleStart where
  checkouts := rfl
  distinct := List.nodup_nil
  idle := fun transaction last => by
    have none : lastByWorkPackage sampleStart.journal sampleScenario.package.id = none := rfl
    rw [none] at last
    cases last

theorem sampleScenario_smooth : sampleScenario.Smooth :=
  ⟨id, by decide, by decide, by
    intro repositoryId member
    have located : ∀ listed ∈ sampleScenario.declared,
        (sampleScenario.resolve listed).toOption.isSome := by decide +kernel
    cases resolved : sampleScenario.resolve repositoryId with
    | error message =>
        have found := located repositoryId member
        rw [resolved] at found
        cases found
    | ok answer => exact ⟨answer, rfl⟩, by decide +kernel, ⟨_, rfl⟩,
    fun _ => by decide +kernel⟩

theorem sampleCrash_reached : sampleScenario.Reached sampleCrash :=
  .session (.start sampleStart_begins) rfl rfl
    (run_driveFor step_handleSample 18 _ _)

end Execraft.Orchestrate.Commits
