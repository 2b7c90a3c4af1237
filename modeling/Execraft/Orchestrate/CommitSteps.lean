import Execraft.Orchestrate.CommitJournal

/-!
# Single steps of commits

What one checkout goes through while it is staged and committed, and what is ensured of the
effects, of `_git_commit_repository` and of the snapshots.
-/

namespace Execraft.Orchestrate.Commits

open Foundation Foundation.Program

section Checkouts

variable {Commit Tree : Type} {history : History Commit Tree} {faulty : Prop}

/-! ## One checkout -/

/-- A checkout is as before, or what its worktree holds has been committed. -/
structure Advances (history : History Commit Tree) (faulty : Prop)
    (before after : Checkout Commit Tree) : Prop where
  branch : after.branch = before.branch
  worktree : after.worktree = before.worktree
  head : after.head = before.head ∨
    history.parents after.head = [before.head] ∧ history.tree after.head = before.worktree ∧
      before.worktree ≠ history.tree before.head
  index : faulty ∨ after.index = before.index ∨ after.index = before.worktree
  committed : faulty ∨ after.head = before.head ∨ after.index = before.worktree

theorem Advances.refl (checkout : Checkout Commit Tree) :
    Advances history faulty checkout checkout :=
  ⟨rfl, rfl, Or.inl rfl, Or.inr (Or.inl rfl), Or.inr (Or.inl rfl)⟩

/-- What has been committed is not committed again. -/
theorem Advances.trans {first middle last : Checkout Commit Tree}
    (front : Advances history faulty first middle)
    (back : Advances history faulty middle last) : Advances history faulty first last where
  branch := back.branch.trans front.branch
  worktree := back.worktree.trans front.worktree
  head := by
    rcases back.head with same | ⟨parents, content, differs⟩
    · rw [same]
      exact front.head
    · rcases front.head with same | ⟨_, done, _⟩
      · rw [same, front.worktree] at differs
        rw [parents, content, same, front.worktree]
        exact Or.inr ⟨rfl, rfl, differs⟩
      · exact absurd (front.worktree.trans done.symm) differs
  index := by
    rcases back.index with broken | same | staged
    · exact Or.inl broken
    · rw [same]
      exact front.index
    · exact Or.inr (Or.inr (staged.trans front.worktree))
  committed := by
    rcases back.index with broken | same | staged
    · exact Or.inl broken
    · rcases back.committed with broken | unmoved | staged
      · exact Or.inl broken
      · rw [same, unmoved]
        exact front.committed
      · exact Or.inr (Or.inr (staged.trans front.worktree))
    · exact Or.inr (Or.inr (staged.trans front.worktree))

/-- Nothing is left to commit. -/
def Clean (history : History Commit Tree) (checkout : Checkout Commit Tree) : Prop :=
  ¬checkout.Dirty history

theorem clean_iff {checkout : Checkout Commit Tree} :
    Clean history checkout ↔
      checkout.index = history.tree checkout.head ∧ checkout.worktree = checkout.index := by
  rw [Clean, Checkout.Dirty, not_or, not_not, not_not]

theorem Clean.worktree {checkout : Checkout Commit Tree} (clean : Clean history checkout) :
    checkout.worktree = history.tree checkout.head :=
  (clean_iff.mp clean).2.trans (clean_iff.mp clean).1

/-- Where nothing fails, a commit takes everything with it. -/
theorem Advances.clean {before after : Checkout Commit Tree} (reliable : ¬faulty)
    (advances : Advances history faulty before after) (moved : after.head ≠ before.head) :
    Clean history after := by
  obtain ⟨_, content, _⟩ := advances.head.resolve_left moved
  have staged := (advances.committed.resolve_left reliable).resolve_left moved
  exact clean_iff.mpr ⟨staged.trans content.symm, advances.worktree.trans staged.symm⟩

/-- Where nothing fails, staging alone makes no checkout dirty. -/
theorem Advances.dirty {before after : Checkout Commit Tree} (reliable : ¬faulty)
    (advances : Advances history faulty before after) (same : after.head = before.head)
    (dirty : after.Dirty history) : before.Dirty history := by
  by_contra clean
  obtain ⟨index, worktree⟩ := clean_iff.mp clean
  have staged : after.index = before.index := by
    rcases advances.index.resolve_left reliable with kept | staged
    · exact kept
    · exact staged.trans worktree
  apply clean_iff.mpr ?_ dirty
  rw [staged, same, advances.worktree]
  exact ⟨index, worktree⟩

/-! ## Effects -/

/-- At most the checkout at one path has changed, and the journal has not. -/
structure CommitsAt (history : History Commit Tree) (faulty : Prop) (path : String)
    (world after : World Commit Tree) : Prop where
  journal : after.journal = world.journal
  others : ∀ other, other ≠ path → after.checkouts other = world.checkouts other
  advances : Advances history faulty (world.checkouts path) (after.checkouts path)

variable {world : World Commit Tree} {path : String}

theorem CommitsAt.refl (world : World Commit Tree) (path : String) :
    CommitsAt history faulty path world world :=
  ⟨rfl, fun _ _ => rfl, Advances.refl _⟩

theorem CommitsAt.trans {middle last : World Commit Tree}
    (front : CommitsAt history faulty path world middle)
    (back : CommitsAt history faulty path middle last) :
    CommitsAt history faulty path world last where
  journal := back.journal.trans front.journal
  others := fun other different =>
    (back.others other different).trans (front.others other different)
  advances := front.advances.trans back.advances

@[simp]
theorem checkouts_setCheckout_self (checkout : Checkout Commit Tree) :
    (world.setCheckout path checkout).checkouts path = checkout :=
  Function.update_self _ _ _

@[simp]
theorem checkouts_setCheckout_ne (checkout : Checkout Commit Tree) {other : String}
    (different : other ≠ path) :
    (world.setCheckout path checkout).checkouts other = world.checkouts other :=
  Function.update_of_ne different _ _

theorem commitsAt_setCheckout {checkout : Checkout Commit Tree}
    (advances : Advances history faulty (world.checkouts path) checkout) :
    CommitsAt history faulty path world (world.setCheckout path checkout) where
  journal := rfl
  others := fun _ different => checkouts_setCheckout_ne checkout different
  advances := by
    rw [checkouts_setCheckout_self]
    exact advances

theorem commitsAt_stage (world : World Commit Tree) (path : String) :
    CommitsAt history faulty path world (world.setCheckout path
      { world.checkouts path with index := (world.checkouts path).worktree }) :=
  commitsAt_setCheckout ⟨rfl, rfl, Or.inl rfl, Or.inr (Or.inr rfl), Or.inr (Or.inl rfl)⟩

/-- A commit of what was staged before. -/
theorem commitsAt_commit {commit : Commit}
    (staged : (world.checkouts path).index = (world.checkouts path).worktree)
    (differs : (world.checkouts path).index ≠ history.tree (world.checkouts path).head)
    (parents : history.parents commit = [(world.checkouts path).head])
    (content : history.tree commit = (world.checkouts path).index) :
    CommitsAt history faulty path world
      (world.setCheckout path { world.checkouts path with head := commit }) :=
  commitsAt_setCheckout ⟨rfl, rfl,
    Or.inr ⟨parents, content.trans staged, fun same => differs (staged.trans same)⟩,
    Or.inr (Or.inl rfl), Or.inr (Or.inr staged)⟩

section Asking

variable {always : World Commit Tree → Prop} {raises : CommitFailure → World Commit Tree → Prop}

theorem ensures_ask {effect : Effect Commit} {returns : Answer effect → World Commit Tree → Prop}
    (now : always world)
    (answers : ∀ answer after, Performed history world effect answer after →
      always after ∧ returns answer after)
    (fails : ∀ message after, faulty → Disturbed history world effect after →
      always after ∧ raises (.error message) after) :
    Ensures (Step history faulty) always world (ask effect) returns raises := by
  apply ensures_bind
  refine ensures_request now fun reply after stepped => ?_
  cases reply with
  | ok answer =>
      obtain ⟨later, holds⟩ := answers answer after stepped
      exact ⟨later, ensures_pure later holds⟩
  | error message =>
      obtain ⟨later, holds⟩ := fails message after stepped.1 stepped.2
      exact ⟨later, ensures_raise later holds⟩

theorem ensures_ofResult {Value : Type} {result : Except String Value}
    {returns : Value → World Commit Tree → Prop} (now : always world)
    (holds : ∀ value, result = .ok value → returns value world)
    (fails : ∀ message, result = .error message → raises (.error message) world) :
    Ensures (Step history faulty) always world (ofResult result) returns raises := by
  cases result with
  | ok value => exact ensures_pure now (holds value rfl)
  | error message => exact ensures_raise now (fails message rfl)

/-- Effects that only look. -/
def Effect.Looks : Effect Commit → Prop
  | .readJournal => True
  | .generateTxId _ => True
  | .utcNow => True
  | .validateScope _ => True
  | .currentBranch _ => True
  | .headCommit _ => True
  | .workingTreeDirty _ => True
  | .diffCached _ => True
  | .shortHead _ => True
  | _ => False

theorem Effect.Looks.performed {effect : Effect Commit} (looks : effect.Looks)
    {answer : Answer effect} {after : World Commit Tree}
    (performed : Performed history world effect answer after) : after = world := by
  cases effect with
  | readJournal => exact performed.2
  | generateTxId packageId => exact performed.2
  | utcNow => exact performed
  | validateScope packageId => exact performed
  | currentBranch path => exact performed.2
  | headCommit path => exact performed.2
  | workingTreeDirty path => exact performed.2
  | diffCached path => exact performed.2
  | shortHead path => exact performed
  | _ => exact looks.elim

theorem Effect.Looks.disturbed {effect : Effect Commit} (looks : effect.Looks)
    {after : World Commit Tree} (disturbed : Disturbed history world effect after) :
    after = world := by
  rcases disturbed with same | ⟨answer, performed⟩ | ⟨path, index, adds, -⟩
  · exact same
  · exact looks.performed performed
  · rw [adds] at looks
    exact looks.elim

theorem ensures_look {effect : Effect Commit}
    {returns : Answer effect → World Commit Tree → Prop} (now : always world)
    (answers : ∀ answer, Performed history world effect answer world → returns answer world)
    (fails : ∀ message, faulty → raises (.error message) world)
    (looks : effect.Looks := by trivial) :
    Ensures (Step history faulty) always world (ask effect) returns raises := by
  refine ensures_ask now (fun answer after performed => ?_) fun message after broken disturbed => ?_
  · have same := looks.performed performed
    rw [same] at performed ⊢
    exact ⟨now, answers answer performed⟩
  · rw [looks.disturbed disturbed]
    exact ⟨now, fails message broken⟩

/-! ## Git -/

theorem commitsAt_of_disturbed_addAll {after : World Commit Tree} (broken : faulty)
    (disturbed : Disturbed history world (.addAll path) after) :
    CommitsAt history faulty path world after := by
  rcases disturbed with same | ⟨_, performed⟩ | ⟨other, index, adds, performed⟩
  · rw [same]
    exact CommitsAt.refl world path
  · rw [show after = _ from performed]
    exact commitsAt_stage world path
  · cases adds
    rw [performed]
    exact commitsAt_setCheckout
      ⟨rfl, rfl, Or.inl rfl, Or.inl broken, Or.inr (Or.inl rfl)⟩

/-- Why a checkout is not committed. -/
def Refuses (history : History Commit Tree) (faulty : Prop) (config : CommitConfig)
    (package : WorkPackage) (checkout : Checkout Commit Tree) : Prop :=
  faulty ∨
    (config.requireRepositoryChanges = true ∧
      checkout.worktree = history.tree checkout.head) ∨
    ∃ message, config.commitMessage package.id package.title = .error message

variable {config : CommitConfig} {package : WorkPackage}

theorem ensures_gitCommitRepository (repositoryId : String)
    (kept : ∀ after, CommitsAt history faulty path world after → always after)
    (fails : ∀ message after, CommitsAt history faulty path world after →
      Refuses history faulty config package (world.checkouts path) →
        raises (.error message) after) :
    Ensures (Step history faulty) always world
      (gitCommitRepository config package repositoryId path)
      (fun _ after => CommitsAt history faulty path world after ∧
        Clean history (after.checkouts path)) raises := by
  unfold gitCommitRepository
  apply ensures_bind
  refine ensures_ask (kept world (CommitsAt.refl world path)) (fun _ staged performed => ?_)
    fun message after broken disturbed => ?_
  case refine_2 =>
    have here := commitsAt_of_disturbed_addAll broken disturbed
    exact ⟨kept after here, fails message after here (Or.inl broken)⟩
  have here : CommitsAt history faulty path world staged := by
    rw [show staged = _ from performed]
    exact commitsAt_stage world path
  have whole : (staged.checkouts path).index = (staged.checkouts path).worktree := by
    rw [show staged = _ from performed, checkouts_setCheckout_self]
  have unmoved : (staged.checkouts path).head = (world.checkouts path).head := by
    rw [show staged = _ from performed, checkouts_setCheckout_self]
  refine ⟨kept staged here, ?_⟩
  apply ensures_bind
  refine ensures_request (kept staged here) fun reply after stepped => ?_
  cases reply with
  | error message =>
      have looks : (Effect.diffCached path : Effect Commit).Looks := trivial
      have same := looks.disturbed stepped.2
      rw [same]
      exact ⟨kept staged here, ensures_raise (kept staged here)
        (fails _ staged here (Or.inl stepped.1))⟩
  | ok answer =>
      obtain ⟨reads, same⟩ := stepped
      rw [same]
      refine ⟨kept staged here, ?_⟩
      cases answer with
      | false =>
          have nothing : (staged.checkouts path).index =
              history.tree (staged.checkouts path).head := by
            by_contra differs
            cases reads.mpr differs
          refine ensures_ite (fun required => ?_) fun _ => ?_
          · refine ensures_raise (kept staged here) (fails _ staged here (Or.inr (Or.inl
              ⟨required, ?_⟩)))
            rw [← here.advances.worktree, ← whole, nothing, unmoved]
          · exact ensures_pure (kept staged here)
              ⟨here, clean_iff.mpr ⟨nothing, whole.symm⟩⟩
      | true =>
          have differs := reads.mp rfl
          apply ensures_bind
          refine ensures_ofResult (kept staged here) (fun message _ => ?_) fun message wrong => ?_
          case refine_2 => exact fails _ staged here (Or.inr (Or.inr ⟨message, wrong⟩))
          have commits : ∀ final, Performed history staged (.commit path message) () final →
              CommitsAt history faulty path world final ∧
                Clean history (final.checkouts path) := by
            intro final performed
            obtain ⟨commit, parents, content, same⟩ := performed
            rw [same]
            refine ⟨here.trans (commitsAt_commit whole differs parents content), ?_⟩
            rw [checkouts_setCheckout_self]
            exact clean_iff.mpr ⟨content.symm, whole.symm⟩
          apply ensures_bind
          refine ensures_ask (kept staged here) (fun _ final performed => ?_)
            fun message final broken disturbed => ?_
          case refine_2 =>
            have there : CommitsAt history faulty path world final := by
              rcases disturbed with same | ⟨_, performed⟩ | ⟨_, _, adds, _⟩
              · rw [same]
                exact here
              · exact (commits final performed).1
              · cases adds
            exact ⟨kept final there, fails message final there (Or.inl broken)⟩
          obtain ⟨there, clean⟩ := commits final performed
          refine ⟨kept final there, ?_⟩
          apply ensures_bind
          refine ensures_look (kept final there) (fun _ _ => ?_) fun message broken => ?_
          · exact ensures_pure (kept final there) ⟨there, clean⟩
          · exact fails message final there (Or.inl broken)

/-! ## Snapshots -/

variable [DecidableEq Tree]

def snapshotOf (history : History Commit Tree) (checkouts : String → Checkout Commit Tree)
    (repository : String × String) : RepositorySnapshot Commit where
  repositoryId := repository.1
  branch := (checkouts repository.2).branch
  headCommit := (checkouts repository.2).head
  dirty := (checkouts repository.2).Dirty history
  path := repository.2

theorem ensures_snapshotRepository {repositoryId : String}
    {returns : RepositorySnapshot Commit → World Commit Tree → Prop} (now : always world)
    (holds : returns (snapshotOf history world.checkouts (repositoryId, path)) world)
    (fails : ∀ message, faulty → raises (.error message) world) :
    Ensures (Step history faulty) always world (snapshotRepository repositoryId path) returns
      raises := by
  unfold snapshotRepository
  apply ensures_bind
  refine ensures_look now (fun branch performed => ?_) fails
  have isBranch := performed.1
  apply ensures_bind
  refine ensures_look now (fun head performed => ?_) fails
  have isHead := performed.1
  apply ensures_bind
  refine ensures_look now (fun dirty performed => ?_) fails
  have isDirty : dirty = decide ((world.checkouts path).Dirty history) :=
    Bool.eq_iff_iff.mpr (performed.1.trans decide_eq_true_iff.symm)
  refine ensures_pure now ?_
  rw [isBranch, isHead, isDirty]
  exact holds

theorem ensures_snapshotRepositories {repositories : List (String × String)}
    {returns : List (RepositorySnapshot Commit) → World Commit Tree → Prop}
    (now : always world)
    (holds : returns (repositories.map (snapshotOf history world.checkouts)) world)
    (fails : ∀ message, faulty → raises (.error message) world) :
    Ensures (Step history faulty) always world (snapshotRepositories repositories) returns
      raises := by
  have loop : Ensures (Step history faulty) always world (snapshotRepositories repositories)
      (fun snapshots after => after = world ∧
        snapshots = repositories.map (snapshotOf history world.checkouts)) raises := by
    refine ensures_foldlM (motive := fun front snapshots after => after = world ∧
      snapshots = front.map (snapshotOf history world.checkouts)) ?_ ?_ ⟨rfl, rfl⟩
    · intro front repository back snapshots after _ passed
      rw [passed.1, passed.2]
      apply ensures_bind
      refine ensures_snapshotRepository now (ensures_pure now ⟨rfl, ?_⟩) fails
      rw [List.map_append, List.map_singleton]
    · intro front snapshots after passed
      rw [passed.1]
      exact now
  refine loop.mono (fun snapshots after _ passed => ?_) fun _ _ _ failed => failed
  rw [passed.1, passed.2]
  exact holds

end Asking

end Checkouts

end Execraft.Orchestrate.Commits
