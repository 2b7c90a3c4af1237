import Execraft.RepositorySync.Transaction
import Execraft.Foundation.Git

/-!
# Checks on the worktrees of a synchronization

What the service demands of a worktree before it goes on.  Each check reads one worktree
and changes nothing.
-/

namespace Execraft.RepositorySync

open Foundation

/-- The errors that the service tells apart: its own, those of Git commands, and those of
the stored transaction. -/
inductive Failure where
  | repositorySync (message : String)
  | taskGit (message : String)
  | transaction (message : String)
  deriving DecidableEq, Repr

/-- A check of the service. -/
def demand (good : Prop) [Decidable good] (message : String) : Except Failure Unit :=
  if good then .ok () else .error (.repositorySync message)

@[simp]
theorem demand_eq_ok {good : Prop} [Decidable good] {message : String} {result : Unit} :
    demand good message = .ok result ↔ good := by
  unfold demand
  by_cases holds : good
  · simp [holds]
  · simp [holds]

/-- An error text of Git as the error that the service meets. -/
def gitAttempt {Value : Type} : Except String Value → Except Failure Value
  | .ok value => .ok value
  | .error message => .error (.taskGit message)

@[simp]
theorem gitAttempt_eq_ok {Value : Type} {attempt : Except String Value} {value : Value} :
    gitAttempt attempt = .ok value ↔ attempt = .ok value := by
  cases attempt with
  | ok other => simp [gitAttempt]
  | error message => simp [gitAttempt]

structure RepositorySpec where
  id : String
  baseBranch : String
  taskBranch : String
  mutability : String := "task_owned"
  deriving DecidableEq, Repr

structure TaskManifest where
  id : String
  repositories : List RepositorySpec
  deriving DecidableEq, Repr

/-- What a service is made of. -/
structure RepositorySyncService (Worktree Commit Tree : Type) where
  git : Git Worktree Commit Tree
  py : Python
  manifest : TaskManifest
  /-- The texts of `repository_paths`. -/
  pathText : String → String

namespace RepositorySyncService

variable {Worktree Commit Tree : Type} [DecidableEq Commit] [DecidableEq Tree]
  [ToString Commit] (service : RepositorySyncService Worktree Commit Tree)

abbrev Item (Commit Tree : Type) := RepositorySyncRepositoryState Commit Tree

def lookupRepository (repositoryId : String) : Except Failure RepositorySpec :=
  match service.manifest.repositories.find? (·.id = repositoryId) with
  | some repository => .ok repository
  | none =>
      .error (.taskGit ("task " ++ service.py.repr service.manifest.id ++
        " does not contain repository " ++ service.py.repr repositoryId))

/-! ## Places in history -/

def currentBranch (repositoryId : String) (worktree : Worktree) : Except Failure String :=
  match service.git.currentBranch worktree with
  | some branch => .ok branch
  | none =>
      .error (.taskGit ("detached HEAD is not supported for coordinated tasks: " ++
        service.pathText repositoryId))

def headCommit (repositoryId : String) (worktree : Worktree) : Except Failure Commit :=
  match service.git.head worktree with
  | some commit => .ok commit
  | none =>
      .error (.taskGit ("Git commit does not exist in " ++
        service.pathText repositoryId ++ ": HEAD"))

omit [DecidableEq Commit] [DecidableEq Tree] [ToString Commit] in
@[simp]
theorem currentBranch_eq_ok {repositoryId branch : String} {worktree : Worktree} :
    service.currentBranch repositoryId worktree = .ok branch ↔
      service.git.currentBranch worktree = some branch := by
  unfold currentBranch
  cases service.git.currentBranch worktree with
  | none => simp
  | some other => simp

omit [DecidableEq Commit] [DecidableEq Tree] [ToString Commit] in
@[simp]
theorem headCommit_eq_ok {repositoryId : String} {commit : Commit} {worktree : Worktree} :
    service.headCommit repositoryId worktree = .ok commit ↔
      service.git.head worktree = some commit := by
  unfold headCommit
  cases service.git.head worktree with
  | none => simp
  | some other => simp

def requireTargetIdentity (item : Item Commit Tree) (worktree : Worktree)
    (allowCommitted : Bool) : Except Failure Unit := do
  let branch ← service.currentBranch item.repositoryId worktree
  demand (branch = item.targetBranch) ("repository " ++ item.repositoryId ++
    " branch changed: expected " ++ service.py.repr item.targetBranch)
  let current ← service.headCommit item.repositoryId worktree
  if allowCommitted ∧ item.targetAfter = some current then .ok ()
  else
    demand (current = item.targetBefore) ("repository " ++ item.repositoryId ++
      " HEAD changed during sync: expected " ++ toString item.targetBefore ++
      ", found " ++ toString current)

omit [DecidableEq Tree] in
theorem requireTargetIdentity_eq_ok {item : Item Commit Tree} {worktree : Worktree}
    {result : Unit} :
    service.requireTargetIdentity item worktree false = .ok result ↔
      service.git.currentBranch worktree = some item.targetBranch ∧
        service.git.head worktree = some item.targetBefore := by
  unfold requireTargetIdentity
  simp only [bind_eq_ok, currentBranch_eq_ok, headCommit_eq_ok, demand_eq_ok,
    Bool.false_eq_true, false_and, if_false]
  constructor
  · intro checks
    obtain ⟨branch, onBranch, _, same, current, atHead, unchanged⟩ := checks
    rw [← same, ← unchanged]
    exact ⟨onBranch, atHead⟩
  · intro place
    exact ⟨_, place.1, (), rfl, _, place.2, rfl⟩

def requireTaskOwned (repository : RepositorySpec) : Except Failure Unit :=
  demand (repository.mutability = "task_owned") ("repository " ++ repository.id ++ " is " ++
    repository.mutability ++ "; repository sync may mutate only task_owned repositories")

def requireCleanTarget (repository : RepositorySpec) (worktree : Worktree) :
    Except Failure Unit := do
  requireTaskOwned repository
  let branch ← service.currentBranch repository.id worktree
  demand (branch = repository.taskBranch) ("repository " ++ repository.id ++ " is on " ++
    service.py.repr branch ++ ", expected task branch " ++
    service.py.repr repository.taskBranch)
  demand (service.git.operation worktree = none) ("repository " ++ repository.id ++
    " has an active " ++ (service.git.operation worktree).getD "" ++ " operation")
  demand (service.git.dirty worktree = false) ("repository " ++ repository.id ++
    " has uncommitted changes before synchronization")

omit [DecidableEq Commit] [DecidableEq Tree] [ToString Commit] in

/-! ## Merge commits -/

def isExpectedMergeCommit (worktree : Worktree) (item : Item Commit Tree)
    (commit : Commit) : Except Failure Bool := do
  let parents ← gitAttempt (service.git.showParents worktree commit)
  if item.targetBefore ∉ parents ∨ item.sourceCommit ∉ parents then .ok false
  else
    match item.verifiedTree with
    | none => .ok (service.git.isAncestor worktree item.sourceCommit commit)
    | some verified => do
        let tree ← gitAttempt (service.git.treeOf worktree commit)
        if tree ≠ verified then .ok false
        else .ok (service.git.isAncestor worktree item.sourceCommit commit)

omit [ToString Commit] in
theorem isExpectedMergeCommit_eq_true {worktree : Worktree} {item : Item Commit Tree}
    {commit : Commit} :
    service.isExpectedMergeCommit worktree item commit = .ok true ↔
      (∃ parents, service.git.showParents worktree commit = .ok parents ∧
        item.targetBefore ∈ parents ∧ item.sourceCommit ∈ parents) ∧
      (∀ verified, item.verifiedTree = some verified →
        service.git.treeOf worktree commit = .ok verified) ∧
      service.git.isAncestor worktree item.sourceCommit commit = true := by
  unfold isExpectedMergeCommit
  simp only [bind_eq_ok, gitAttempt_eq_ok]
  constructor
  · intro checks
    obtain ⟨parents, shown, rest⟩ := checks
    split_ifs at rest with missing
    · cases rest
    · obtain ⟨hasBefore, hasSource⟩ := not_or.mp missing
      refine ⟨⟨parents, shown, not_not.mp hasBefore, not_not.mp hasSource⟩, ?_⟩
      cases recorded : item.verifiedTree with
      | none =>
          rw [recorded] at rest
          exact ⟨by simp, Except.ok.inj rest⟩
      | some verified =>
          rw [recorded] at rest
          simp only [bind_eq_ok, gitAttempt_eq_ok] at rest
          obtain ⟨tree, read, compared⟩ := rest
          split_ifs at compared with differs
          · cases compared
          · rw [not_not] at differs
            refine ⟨?_, Except.ok.inj compared⟩
            intro other same
            cases same
            rw [← differs]
            exact read
  · intro checks
    obtain ⟨⟨parents, shown, hasBefore, hasSource⟩, tree, contained⟩ := checks
    refine ⟨parents, shown, ?_⟩
    rw [if_neg (by simp [hasBefore, hasSource])]
    cases recorded : item.verifiedTree with
    | none => simp only [contained]
    | some verified =>
        simp only [bind_eq_ok, gitAttempt_eq_ok]
        exact ⟨verified, tree verified recorded, by simp [contained]⟩

def validateCommittedItem (item : Item Commit Tree) (worktree : Worktree) :
    Except Failure Unit := do
  let branch ← service.currentBranch item.repositoryId worktree
  demand (branch = item.targetBranch) ("repository " ++ item.repositoryId ++
    " is no longer on task branch " ++ service.py.repr item.targetBranch)
  let current ← service.headCommit item.repositoryId worktree
  match item.targetAfter with
  | none =>
      demand (service.git.isAncestor worktree item.sourceCommit current = true)
        ("repository " ++ item.repositoryId ++
          " recorded merge does not contain pinned source")
  | some after => do
      demand (service.git.isAncestor worktree after current = true) ("repository " ++
        item.repositoryId ++ " no longer contains recorded sync commit " ++ toString after)
      demand (service.git.isAncestor worktree item.sourceCommit after = true)
        ("repository " ++ item.repositoryId ++
          " recorded merge does not contain pinned source")

/-- One repository under `_validate_completed`. -/
def validateCompleted (item : Item Commit Tree) (worktree : Worktree) :
    Except Failure Unit :=
  match item.status with
  | .noop => do
      let current ← service.headCommit item.repositoryId worktree
      demand (service.git.isAncestor worktree item.sourceCommit current = true)
        ("repository " ++ item.repositoryId ++ " no longer contains synchronized upstream")
  | .committed =>
      match item.targetAfter with
      | none =>
          .error (.repositorySync ("repository " ++ item.repositoryId ++
            " completed sync is missing target_after"))
      | some after => do
          let current ← service.headCommit item.repositoryId worktree
          demand (service.git.isAncestor worktree after current = true)
            ("repository " ++ item.repositoryId ++ " lost its synchronization merge commit")
  | _ => .ok ()

/-- One repository under `_reconcile_committed_after_crash`: a merge commit that somebody
made is recorded. -/
def adopt (item : Item Commit Tree) (worktree : Worktree) :
    Except Failure (Item Commit Tree) :=
  if service.git.mergeHead worktree ≠ none then .ok item
  else do
    let current ← service.headCommit item.repositoryId worktree
    if current = item.targetBefore then .ok item
    else do
      let expected ← service.isExpectedMergeCommit worktree item current
      .ok (if expected then
        { item with
          status := .committed
          targetAfter := some current }
      else item)

omit [ToString Commit] in
/-- A record stays as it is, or its repository has the expected merge commit. -/
theorem adopt_eq_ok {item adopted : Item Commit Tree} {worktree : Worktree}
    (adopts : service.adopt item worktree = .ok adopted) :
    adopted = item ∨
      ∃ current, service.git.mergeHead worktree = none ∧
        service.git.head worktree = some current ∧ current ≠ item.targetBefore ∧
        service.isExpectedMergeCommit worktree item current = .ok true ∧
        adopted = { item with
          status := .committed
          targetAfter := some current } := by
  unfold adopt at adopts
  split_ifs at adopts with merging
  · exact Or.inl (Except.ok.inj adopts).symm
  · simp only [bind_eq_ok, headCommit_eq_ok] at adopts
    obtain ⟨current, atHead, rest⟩ := adopts
    split_ifs at rest with unmoved
    · exact Or.inl (Except.ok.inj rest).symm
    · rw [bind_eq_ok] at rest
      obtain ⟨expected, checked, built⟩ := rest
      cases expected with
      | false => exact Or.inl (Except.ok.inj built).symm
      | true =>
          exact Or.inr ⟨current, not_not.mp merging, atHead, unmoved, checked,
            (Except.ok.inj built).symm⟩

/-! ## Merges in progress -/

/-- Paths as an error text lists them. -/
def listed (paths : List String) : String := ", ".intercalate paths

/-- `bytes.splitlines`. -/
def byteLines : List UInt8 → List (List UInt8)
  | [] => []
  | 13 :: 10 :: tail => [] :: byteLines tail
  | head :: tail =>
      if head = 10 ∨ head = 13 then [] :: byteLines tail
      else
        match byteLines tail with
        | [] => [[head]]
        | line :: rest => (head :: line) :: rest

/-- Seven times one of the characters `<`, `|`, `=` and `>`. -/
def conflictMarkers : List (List UInt8) :=
  [60, 124, 61, 62].map fun code => List.replicate 7 code

def conflictMarkerPaths (worktree : Worktree) (relativePaths : List String) : List String :=
  relativePaths.filter fun relative =>
    match service.git.readFile worktree relative with
    | none => false
    | some content =>
        (byteLines content).any fun line =>
          conflictMarkers.any fun marker => marker.isPrefixOf line

/-- `_reconcile_existing_prepare_state`. -/
def reconcileExistingPrepareState (item : Item Commit Tree) (worktree : Worktree) :
    Except Failure (Item Commit Tree) :=
  match item.status with
  | .noop => do
      let current ← service.headCommit item.repositoryId worktree
      demand (current = item.targetBefore) ("repository " ++ item.repositoryId ++
        " changed after no-op synchronization")
      .ok item
  | .committed => do
      service.validateCommittedItem item worktree
      .ok item
  | _ => do
      service.requireTargetIdentity item worktree false
      demand (service.git.mergeHead worktree = some item.sourceCommit) ("repository " ++
        item.repositoryId ++ " lost its expected merge state")
      let conflicts := service.git.unmerged worktree
      .ok { item with
        conflictPaths := conflicts
        status :=
          if conflicts ≠ [] then .conflicted
          else if item.status = .resolved then .resolved else .mergeReady }

omit [DecidableEq Tree] in
/-- A record with this status waits for the merge in progress. -/
theorem reconcileExistingPrepareState_eq_ok {item reconciled : Item Commit Tree}
    {worktree : Worktree} (unsettled : ¬ item.Settled) :
    service.reconcileExistingPrepareState item worktree = .ok reconciled ↔
      service.git.currentBranch worktree = some item.targetBranch ∧
        service.git.head worktree = some item.targetBefore ∧
        service.git.mergeHead worktree = some item.sourceCommit ∧
        reconciled = { item with
          conflictPaths := service.git.unmerged worktree
          status :=
            if service.git.unmerged worktree ≠ [] then .conflicted
            else if item.status = .resolved then .resolved else .mergeReady } := by
  rw [RepositorySyncRepositoryState.settled_iff, not_or] at unsettled
  unfold reconcileExistingPrepareState
  split
  · rename_i noop
    exact absurd noop unsettled.1
  · rename_i committed
    exact absurd committed unsettled.2
  · simp only [bind_eq_ok, requireTargetIdentity_eq_ok, demand_eq_ok, Except.ok.injEq]
    constructor
    · intro checks
      obtain ⟨_, place, _, merging, built⟩ := checks
      exact ⟨place.1, place.2, merging, built.symm⟩
    · intro checks
      obtain ⟨branch, head, merging, built⟩ := checks
      exact ⟨(), ⟨branch, head⟩, (), merging, built.symm⟩

omit [DecidableEq Tree] in
/-- A settled record stays as it is. -/
theorem reconcileExistingPrepareState_settled {item reconciled : Item Commit Tree}
    {worktree : Worktree} (settled : item.Settled)
    (reconciles : service.reconcileExistingPrepareState item worktree = .ok reconciled) :
    reconciled = item := by
  unfold reconcileExistingPrepareState at reconciles
  rcases RepositorySyncRepositoryState.settled_iff.mp settled with noop | committed
  · simp only [noop, bind_eq_ok] at reconciles
    obtain ⟨_, _, _, _, same⟩ := reconciles
    exact (Except.ok.inj same).symm
  · simp only [committed, bind_eq_ok] at reconciles
    obtain ⟨_, _, same⟩ := reconciles
    exact (Except.ok.inj same).symm

/-- One repository under `_validate_merge_candidates`. -/
def validateMergeCandidate (item : Item Commit Tree) (worktree : Worktree) :
    Except Failure Unit :=
  match item.status with
  | .noop => do
      let current ← service.headCommit item.repositoryId worktree
      demand (current = item.targetBefore) ("repository " ++ item.repositoryId ++
        " changed after synchronization no-op")
  | .committed => service.validateCommittedItem item worktree
  | _ => do
      service.requireTargetIdentity item worktree false
      demand (service.git.mergeHead worktree = some item.sourceCommit) ("repository " ++
        item.repositoryId ++ " does not have the pinned merge in progress")
      demand (service.git.unmerged worktree = []) ("repository " ++ item.repositoryId ++
        " still has unresolved merge paths: " ++ listed (service.git.unmerged worktree))

/-- The checks in front of the first merge commit, of one repository. -/
def preflight (item : Item Commit Tree) (worktree : Worktree) : Except Failure Unit := do
  service.requireTargetIdentity item worktree false
  demand (service.git.unmerged worktree = []) ("repository " ++ item.repositoryId ++
    " cannot commit with unresolved paths: " ++ listed (service.git.unmerged worktree))
  demand (service.git.mergeHead worktree = some item.sourceCommit) ("repository " ++
    item.repositoryId ++ " no longer has the expected merge in progress")
  demand (item.verifiedTree ≠ none) ("repository " ++ item.repositoryId ++
    " has no verified candidate tree")
  let current ← gitAttempt (service.git.writeTree worktree)
  demand (item.verifiedTree = some current) ("repository " ++ item.repositoryId ++
    " candidate changed after verification")
  demand (service.git.hasUnstaged worktree = false) ("repository " ++ item.repositoryId ++
    " has changes not present in the verified index")

/-- `git_operation(path) or working_tree_dirty(path)`. -/
def unclean (worktree : Worktree) : Prop :=
  service.git.operation worktree ≠ none ∨ service.git.dirty worktree = true

instance (worktree : Worktree) : Decidable (service.unclean worktree) :=
  inferInstanceAs (Decidable (_ ∨ _))

end RepositorySyncService

end Execraft.RepositorySync
