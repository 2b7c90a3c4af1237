import Execraft.RepositorySync.Worktrees
import Execraft.Foundation.CrashPoints
import Mathlib.Logic.Function.Basic

/-!
# The synchronization service

The operations of the service as programs over the stored transaction of one package and
the worktrees of its repositories.  A program may be cut off between any two effects.
-/

namespace Execraft.RepositorySync

open Foundation

/-! ## Effects -/

/-- What the service asks of its surroundings.  `inspect` stands for the queries that it
puts to a worktree until it changes the worktree. -/
inductive Effect (Commit Tree : Type) where
  | load
  | save (transaction : RepositorySyncTransaction Commit Tree)
  /-- The save with which `mark_verified` succeeds. -/
  | saveVerified (transaction : RepositorySyncTransaction Commit Tree)
  | inspect (repositoryId : String)
  | addAll (repositoryId : String)
  | merge (repositoryId : String) (source : Commit)
  | mergeAbort (repositoryId : String)
  | commit (repositoryId message : String)

/-- An unavailable worktree answers nothing. -/
@[reducible]
def Reply (Worktree Commit Tree : Type) : Effect Commit Tree → Type
  | .load => Option (RepositorySyncTransaction Commit Tree)
  | .save _ => Unit
  | .saveVerified _ => Unit
  | .inspect _ => Option Worktree
  | .addAll _ => Except String Unit
  | .merge _ _ => Unit
  | .mergeAbort _ => Except String Unit
  | .commit _ _ => Except String Unit

/-- The stored transaction and the worktrees.  `candidates` is no part of the program's
state: it remembers the candidate trees of the last successful verification. -/
structure World (Worktree Commit Tree : Type) where
  stored : Option (RepositorySyncTransaction Commit Tree)
  worktrees : String → Option Worktree
  candidates : String → Option Tree

namespace World

variable {Worktree Commit Tree : Type}

def setWorktree (world : World Worktree Commit Tree) (repositoryId : String)
    (worktree : Worktree) : World Worktree Commit Tree :=
  { world with worktrees := Function.update world.worktrees repositoryId (some worktree) }

def store (world : World Worktree Commit Tree)
    (transaction : RepositorySyncTransaction Commit Tree) : World Worktree Commit Tree :=
  { world with stored := some transaction }

/-- A command on a worktree and its answer. -/
def command (world : World Worktree Commit Tree) (repositoryId : String)
    (run : Worktree → Except String Unit × Worktree) :
    Except String Unit × World Worktree Commit Tree :=
  match world.worktrees repositoryId with
  | none => (.error "", world)
  | some worktree => ((run worktree).1, world.setWorktree repositoryId (run worktree).2)

section Command

variable {world : World Worktree Commit Tree} {repositoryId : String}
  {run : Worktree → Except String Unit × Worktree}

@[simp]
theorem command_stored : (world.command repositoryId run).2.stored = world.stored := by
  unfold command
  split
  · rfl
  · rfl

@[simp]
theorem command_candidates :
    (world.command repositoryId run).2.candidates = world.candidates := by
  unfold command
  split
  · rfl
  · rfl

@[simp]
theorem setWorktree_self {worktree : Worktree} :
    (world.setWorktree repositoryId worktree).worktrees repositoryId = some worktree :=
  Function.update_self _ _ _

end Command

/-- The tree that the index of a worktree holds. -/
def candidate (git : Git Worktree Commit Tree) (world : World Worktree Commit Tree)
    (repositoryId : String) : Option Tree :=
  (world.worktrees repositoryId).bind fun worktree => (git.writeTree worktree).toOption

/-- Remember the candidates of the repositories that a transaction leaves open. -/
def freeze (git : Git Worktree Commit Tree) (world : World Worktree Commit Tree)
    (transaction : RepositorySyncTransaction Commit Tree) : World Worktree Commit Tree :=
  { world with
    stored := some transaction
    candidates := fun repositoryId =>
      if ∃ item ∈ transaction.repositories, item.repositoryId = repositoryId ∧
          ¬ item.Settled then
        world.candidate git repositoryId
      else world.candidates repositoryId }

end World

section Surroundings

variable {Worktree Commit Tree : Type}

/-- How the surroundings answer an effect. -/
def answer (git : Git Worktree Commit Tree) (world : World Worktree Commit Tree) :
    (effect : Effect Commit Tree) → Reply Worktree Commit Tree effect ×
      World Worktree Commit Tree
  | .load => (world.stored, world)
  | .save transaction => ((), world.store transaction)
  | .saveVerified transaction => ((), world.freeze git transaction)
  | .inspect repositoryId => (world.worktrees repositoryId, world)
  | .addAll repositoryId => world.command repositoryId git.addAll
  | .merge repositoryId source =>
      ((), (world.command repositoryId fun worktree =>
        (.ok (), git.merge worktree source)).2)
  | .mergeAbort repositoryId => world.command repositoryId git.mergeAbort
  | .commit repositoryId message =>
      world.command repositoryId fun worktree => git.commit worktree message

/-- One effect of a program. -/
def Answers (git : Git Worktree Commit Tree) (world : World Worktree Commit Tree)
    (effect : Effect Commit Tree) (reply : Reply Worktree Commit Tree effect)
    (after : World Worktree Commit Tree) : Prop :=
  answer git world effect = (reply, after)

end Surroundings

abbrev Sync (Worktree Commit Tree Value : Type) :=
  Program (Effect Commit Tree) (Reply Worktree Commit Tree) Failure Value

namespace RepositorySyncService

variable {Worktree Commit Tree : Type} [DecidableEq Commit] [DecidableEq Tree]
  [ToString Commit] (service : RepositorySyncService Worktree Commit Tree)

/-! ## Shared steps -/

/-- One effect of the service. -/
def ask (effect : Effect Commit Tree) :
    Sync Worktree Commit Tree (Reply Worktree Commit Tree effect) :=
  Program.request effect

/-- The worktree at the path of a repository. -/
def inspect (repositoryId : String) : Sync Worktree Commit Tree Worktree := do
  match ← ask (.inspect repositoryId) with
  | some worktree => pure worktree
  | none =>
      .raise (.repositorySync ("repository-sync workspace path is unavailable for " ++
        service.py.repr repositoryId))

/-- A check of the worktree of a repository. -/
def inspected {Value : Type} (repositoryId : String)
    (check : Worktree → Except Failure Value) : Sync Worktree Commit Tree Value := do
  let worktree ← service.inspect repositoryId
  Program.ofOutcome (check worktree)

def addAll (repositoryId : String) : Sync Worktree Commit Tree Unit := do
  let reply ← ask (.addAll repositoryId)
  Program.ofOutcome (gitAttempt reply)

def mergeAbort (repositoryId : String) : Sync Worktree Commit Tree Unit := do
  let reply ← ask (.mergeAbort repositoryId)
  Program.ofOutcome (gitAttempt reply)

def load (packageId : String) :
    Sync Worktree Commit Tree (Option (RepositorySyncTransaction Commit Tree)) := do
  match ← ask .load with
  | none => pure none
  | some transaction => do
      Program.ofOutcome ((transaction.validate service.py).mapError .transaction)
      if transaction.packageId ≠ packageId then
        .raise (.transaction ("repository-sync transaction identity mismatch: " ++
          service.py.repr transaction.packageId ++ " != " ++ service.py.repr packageId))
      else pure (some transaction)

def requireTransaction (packageId : String) :
    Sync Worktree Commit Tree (RepositorySyncTransaction Commit Tree) := do
  match ← service.load packageId with
  | some transaction => pure transaction
  | none =>
      .raise (.repositorySync
        ("repository-sync transaction does not exist for package " ++ packageId))

def save (transaction : RepositorySyncTransaction Commit Tree) (phase : Phase) :
    Sync Worktree Commit Tree (RepositorySyncTransaction Commit Tree) := do
  ask (.save { transaction with phase := phase })
  pure { transaction with phase := phase }

/-- Replace the records one after another. -/
def eachRepository (transaction : RepositorySyncTransaction Commit Tree)
    (body : List (Item Commit Tree) → Item Commit Tree → List (Item Commit Tree) →
      Sync Worktree Commit Tree (Item Commit Tree)) :
    Sync Worktree Commit Tree (RepositorySyncTransaction Commit Tree) := do
  let repositories ← Program.traverse body [] transaction.repositories
  pure { transaction with repositories := repositories }

/-- Check the worktrees of repositories. -/
def checkAll (items : List (Item Commit Tree))
    (check : Item Commit Tree → Worktree → Except Failure Unit) :
    Sync Worktree Commit Tree Unit :=
  items.foldlM (fun _ item => service.inspected item.repositoryId (check item)) ()

/-- The transaction while the loop stands at one of its records. -/
def inLoop (transaction : RepositorySyncTransaction Commit Tree)
    (done : List (Item Commit Tree)) (item : Item Commit Tree)
    (rest : List (Item Commit Tree)) : RepositorySyncTransaction Commit Tree :=
  { transaction with repositories := done ++ item :: rest }

/-! ## `prepare` -/

/-- The record of one target at the commits that it has now. -/
def pin (repository : RepositorySpec) (target : RepositorySyncTarget)
    (worktree : Worktree) : Except Failure (Item Commit Tree) := do
  service.requireCleanTarget repository worktree
  let sourceBranch :=
    if target.sourceBranch = "" then repository.baseBranch else target.sourceBranch
  let source ← gitAttempt (service.git.fetch worktree target.remote sourceBranch)
  let before ← service.headCommit repository.id worktree
  let (mergeBase, ahead, behind) ← gitAttempt (service.git.divergence worktree before source)
  .ok {
    repositoryId := repository.id
    remote := target.remote
    sourceBranch := sourceBranch
    sourceCommit := source
    targetBranch := repository.taskBranch
    targetBefore := before
    configuredBaseBranch := repository.baseBranch
    sourceSelection :=
      if target.sourceBranch ≠ "" ∧ target.sourceBranch ≠ repository.baseBranch then
        .operatorOverride
      else .configuredBase
    mergeBase := mergeBase
    aheadBefore := ahead
    behindBefore := behind }

def pinAll : List RepositorySyncTarget →
    Sync Worktree Commit Tree (List (Item Commit Tree))
  | [] => pure []
  | target :: rest => do
      let repository ← Program.ofOutcome (service.lookupRepository target.repositoryId)
      Program.ofOutcome (requireTaskOwned repository)
      let item ← service.inspected repository.id (service.pin repository target)
      let items ← pinAll rest
      pure (item :: items)

def createTransaction (packageId packageFingerprint : String) (spec : RepositorySyncSpec) :
    Sync Worktree Commit Tree (RepositorySyncTransaction Commit Tree) := do
  let repositories ← service.pinAll spec.targets
  let transaction : RepositorySyncTransaction Commit Tree := {
    packageId := packageId
    packageFingerprint := packageFingerprint
    phase := .fetched
    repositories := repositories }
  save transaction .fetched

def validateTransactionContract (transaction : RepositorySyncTransaction Commit Tree)
    (packageFingerprint : String) (spec : RepositorySyncSpec) : Except Failure Unit := do
  demand (transaction.packageFingerprint = packageFingerprint)
    ("repository-sync package definition changed after its transaction began; " ++
      "recover or replan before continuing")
  demand (transaction.repositoryIds = spec.repositoryIds)
    ("repository-sync transaction repository order/scope differs from the accepted " ++
      "package")

/-- The record once the pinned merge is in progress. -/
def merged (item : Item Commit Tree) (worktree : Worktree) :
    Except Failure (Item Commit Tree) := do
  demand (service.git.mergeHead worktree = some item.sourceCommit) ("repository " ++
    item.repositoryId ++ " failed to establish merge state for pinned upstream " ++
    toString item.sourceCommit)
  let conflicts := service.git.unmerged worktree
  .ok { item with
    conflictPaths := conflicts
    status := if conflicts ≠ [] then .conflicted else .mergeReady }

/-- The statuses that a merge in progress or a finished repository has. -/
def preparedStatuses : List RepositoryStatus :=
  [.noop, .mergeReady, .resolved, .conflicted, .committed]

/-- The checks before a repository enters the merge. -/
def enter (repository : RepositorySpec) (item : Item Commit Tree) (worktree : Worktree) :
    Except Failure Unit := do
  service.requireCleanTarget repository worktree
  service.requireTargetIdentity item worktree false

/-- One repository under `_resume_prepare`. -/
def resumeRepository (transaction : RepositorySyncTransaction Commit Tree)
    (done : List (Item Commit Tree)) (item : Item Commit Tree)
    (rest : List (Item Commit Tree)) : Sync Worktree Commit Tree (Item Commit Tree) := do
  if item.status ∈ preparedStatuses then
    service.inspected item.repositoryId (service.reconcileExistingPrepareState item)
  else do
    let repository ← Program.ofOutcome (service.lookupRepository item.repositoryId)
    let worktree ← service.inspect item.repositoryId
    Program.ofOutcome (service.enter repository item worktree)
    if service.git.isAncestor worktree item.sourceCommit item.targetBefore = true then do
      let noop := { item with
        status := .noop
        conflictPaths := [] }
      let _ ← save (inLoop transaction done noop rest) .merging
      pure noop
    else if service.git.mergeHead worktree ≠ none then do
      let reconciled ← Program.ofOutcome (service.reconcileExistingPrepareState item worktree)
      let _ ← save (inLoop transaction done reconciled rest) .merging
      pure reconciled
    else do
      ask (.merge item.repositoryId item.sourceCommit)
      let prepared ← service.inspected item.repositoryId (service.merged item)
      let _ ← save (inLoop transaction done prepared rest) .merging
      pure prepared

def resumePrepare (transaction : RepositorySyncTransaction Commit Tree) :
    Sync Worktree Commit Tree (RepositorySyncTransaction Commit Tree) :=
  if transaction.phase ∈ [.verified, .committing, .complete] then pure transaction
  else do
    let prepared ← eachRepository transaction (service.resumeRepository transaction)
    save prepared
      (if ∃ item ∈ prepared.repositories, item.conflictPaths ≠ [] then .resolving
      else .readyVerify)

/-- The errors of Git under the name of an operation. -/
def wrapped (operation : String) : Failure → Failure
  | .taskGit message =>
      .repositorySync ("repository synchronization " ++ operation ++ " failed: " ++ message)
  | failure => failure

def prepare (packageId packageFingerprint : String) (spec : RepositorySyncSpec) :
    Sync Worktree Commit Tree (RepositorySyncTransaction Commit Tree) :=
  Program.mapFailure (wrapped "prepare") do
    match ← service.load packageId with
    | none => do
        let transaction ← service.createTransaction packageId packageFingerprint spec
        service.resumePrepare transaction
    | some transaction => do
        Program.ofOutcome
          (validateTransactionContract transaction packageFingerprint spec)
        if transaction.complete then pure transaction
        else service.resumePrepare transaction

/-! ## `accept_resolution` -/

/-- The record whose conflicts are left. -/
def conflicted (item : Item Commit Tree) (conflicts : List String) : Item Commit Tree :=
  { item with
    conflictPaths := conflicts
    status := .conflicted }

def accepted (item : Item Commit Tree) : Item Commit Tree :=
  { item with
    conflictPaths := []
    status := .resolved
    verifiedTree := none
    errorMessage := "" }

/-- Both checks of a worktree before its resolution is accepted. -/
def acceptable (item : Item Commit Tree) (worktree : Worktree) : Except Failure Unit := do
  service.requireTargetIdentity item worktree false
  demand (service.git.mergeHead worktree = some item.sourceCommit) ("repository " ++
    item.repositoryId ++ " MERGE_HEAD changed: expected " ++ toString item.sourceCommit ++
    ", found " ++ ((service.git.mergeHead worktree).map toString).getD "none")

/-- Stage a resolution without conflict markers; the conflicts that are left. -/
def stageConflicts (transaction : RepositorySyncTransaction Commit Tree)
    (done : List (Item Commit Tree)) (item : Item Commit Tree)
    (rest : List (Item Commit Tree)) (worktree : Worktree) :
    Sync Worktree Commit Tree (List String) :=
  let conflicts := service.git.unmerged worktree
  if conflicts = [] then pure []
  else do
    let markerPaths := service.conflictMarkerPaths worktree conflicts
    if markerPaths ≠ [] then do
      let _ ← save (inLoop transaction done (conflicted item conflicts) rest) .resolving
      .raise (.repositorySync ("repository " ++ item.repositoryId ++
        " still contains merge conflict markers: " ++ listed markerPaths))
    else do
      addAll item.repositoryId
      let staged ← service.inspect item.repositoryId
      pure (service.git.unmerged staged)

def acceptRepository (transaction : RepositorySyncTransaction Commit Tree)
    (done : List (Item Commit Tree)) (item : Item Commit Tree)
    (rest : List (Item Commit Tree)) : Sync Worktree Commit Tree (Item Commit Tree) :=
  if item.Settled then pure item
  else do
    let worktree ← service.inspect item.repositoryId
    Program.ofOutcome (service.acceptable item worktree)
    let conflicts ← service.stageConflicts transaction done item rest worktree
    if conflicts ≠ [] then do
      let _ ← save (inLoop transaction done (conflicted item conflicts) rest) .resolving
      .raise (.repositorySync ("repository " ++ item.repositoryId ++
        " still has unresolved merge paths: " ++ listed conflicts))
    else do
      addAll item.repositoryId
      pure (accepted item)

def acceptResolution (packageId : String) :
    Sync Worktree Commit Tree (RepositorySyncTransaction Commit Tree) :=
  Program.mapFailure (wrapped "resolution validation") do
    let transaction ← service.requireTransaction packageId
    if transaction.complete then pure transaction
    else if transaction.forwardOnly = true then
      .raise (.repositorySync
        "cannot accept conflict resolution after repository-sync commits began")
    else do
      let resolved ← eachRepository transaction (service.acceptRepository transaction)
      save resolved .readyVerify

/-! ## `mark_verified` -/

def adoptRepository (item : Item Commit Tree) :
    Sync Worktree Commit Tree (Item Commit Tree) :=
  if item.Settled then pure item
  else service.inspected item.repositoryId (service.adopt item)

/-- A record changes exactly when its repository is adopted. -/
def reconcileCommittedAfterCrash (transaction : RepositorySyncTransaction Commit Tree) :
    Sync Worktree Commit Tree (RepositorySyncTransaction Commit Tree) := do
  let reconciled ← eachRepository transaction fun _ item _ => service.adoptRepository item
  if reconciled = transaction then pure transaction
  else save { reconciled with forwardOnly := true } .committing

/-- Include what was fixed in the worktree. -/
def stage (item : Item Commit Tree) : Sync Worktree Commit Tree (Item Commit Tree) :=
  if item.Settled then pure item
  else do
    let _ ← service.inspect item.repositoryId
    addAll item.repositoryId
    pure item

def freezeRepository (item : Item Commit Tree) :
    Sync Worktree Commit Tree (Item Commit Tree) :=
  if item.Settled then pure item
  else
    service.inspected item.repositoryId fun worktree => do
      let tree ← gitAttempt (service.git.writeTree worktree)
      .ok { item with verifiedTree := some tree }

def markVerified (packageId : String) :
    Sync Worktree Commit Tree (RepositorySyncTransaction Commit Tree) :=
  Program.mapFailure (wrapped "verification freeze") do
    let loaded ← service.requireTransaction packageId
    if loaded.complete then pure loaded
    else do
      let transaction ← service.reconcileCommittedAfterCrash loaded
      let staged ← eachRepository transaction fun _ item _ => service.stage item
      service.checkAll staged.repositories service.validateMergeCandidate
      let frozen ← eachRepository staged fun _ item _ => service.freezeRepository item
      let verified := { frozen with
        phase := if frozen.forwardOnly = true then .committing else .verified }
      ask (.saveVerified verified)
      pure verified

/-! ## `commit` -/

/-- A committed repository must be clean before others are committed. -/
def checkCommitted (item : Item Commit Tree) (worktree : Worktree) :
    Except Failure Unit := do
  service.validateCommittedItem item worktree
  demand (¬ service.unclean worktree) ("repository " ++ item.repositoryId ++
    " is not clean after its recorded sync commit")

def commitMessage (packageId title : String) (item : Item Commit Tree) : String :=
  "execraft-sync(" ++ packageId ++ "): merge " ++ item.remote ++ "/" ++
    item.sourceBranch ++ "\n\nPinned upstream: " ++ toString item.sourceCommit ++
    "\nSynchronization Work Package: " ++ title

/-- The record of a repository whose merge commit exists. -/
def afterCommit (item : Item Commit Tree) (worktree : Worktree) :
    Except Failure (Item Commit Tree) := do
  let after ← service.headCommit item.repositoryId worktree
  let expected ← service.isExpectedMergeCommit worktree item after
  demand (expected = true) ("repository " ++ item.repositoryId ++
    " did not create the expected pinned merge commit")
  .ok { item with
    targetAfter := some after
    status := .committed
    errorMessage := "" }

omit [ToString Commit] in
theorem afterCommit_eq_ok {item committed : Item Commit Tree} {worktree : Worktree} :
    service.afterCommit item worktree = .ok committed ↔
      ∃ after, service.git.head worktree = some after ∧
        service.isExpectedMergeCommit worktree item after = .ok true ∧
        committed = { item with
          targetAfter := some after
          status := .committed
          errorMessage := "" } := by
  unfold afterCommit
  simp only [bind_eq_ok, headCommit_eq_ok, demand_eq_ok, Except.ok.injEq]
  constructor
  · intro checks
    obtain ⟨after, atHead, expected, checked, _, holds, built⟩ := checks
    rw [holds] at checked
    exact ⟨after, atHead, checked, built.symm⟩
  · intro checks
    obtain ⟨after, atHead, checked, built⟩ := checks
    exact ⟨after, atHead, true, checked, (), rfl, built.symm⟩

/-- The first characters of a commit's name. -/
def shortened (commit : Option Commit) : String :=
  String.ofList (((commit.map toString).getD "").toList.take 12)

def failureText : Failure → String
  | .repositorySync message => message
  | .taskGit message => message
  | .transaction message => message

/-- `except Exception`: the error is recorded before it is raised. -/
def recordFailure {Value : Type} (transaction : RepositorySyncTransaction Commit Tree)
    (done : List (Item Commit Tree)) (item : Item Commit Tree)
    (rest : List (Item Commit Tree)) (failure : Failure) :
    Sync Worktree Commit Tree Value := do
  let failed := { item with errorMessage := failureText failure }
  let noted := { transaction with errorMessage := failureText failure }
  let _ ← save (inLoop noted done failed rest) .committing
  .raise (.repositorySync ("repository-sync commit failed for " ++ item.repositoryId ++
    ": " ++ failureText failure))

/-- Create the merge commit of one repository and record it. -/
def commitRepository (title : String)
    (transaction : RepositorySyncTransaction Commit Tree)
    (done : List (Item Commit Tree)) (item : Item Commit Tree)
    (rest : List (Item Commit Tree)) : Sync Worktree Commit Tree (Item Commit Tree) := do
  let _ ← service.inspect item.repositoryId
  match ← ask
      (.commit item.repositoryId (commitMessage transaction.packageId title item)) with
  | .error message => recordFailure transaction done item rest (.taskGit message)
  | .ok () => do
      let worktree ← service.inspect item.repositoryId
      match service.afterCommit item worktree with
      | .error failure => recordFailure transaction done item rest failure
      | .ok committed => do
          let forward := { transaction with forwardOnly := true }
          -- The commit is recorded before it is looked at again.
          let _ ← save (inLoop forward done committed rest) .committing
          if service.unclean worktree then
            recordFailure forward done committed rest (.repositorySync ("repository " ++
              item.repositoryId ++ " is not clean after merge commit " ++
              shortened committed.targetAfter))
          else pure committed

/-- From the first merge commit on, the transaction is forward-only. -/
def commitAll (title : String) (transaction : RepositorySyncTransaction Commit Tree) :
    List (Item Commit Tree) → List (Item Commit Tree) →
      Sync Worktree Commit Tree (RepositorySyncTransaction Commit Tree)
  | done, [] => pure { transaction with repositories := done }
  | done, item :: rest =>
      if item.Settled then commitAll title transaction (done ++ [item]) rest
      else do
        let committed ← service.commitRepository title transaction done item rest
        commitAll title { transaction with forwardOnly := true } (done ++ [committed]) rest

def commit (packageId title : String) :
    Sync Worktree Commit Tree (RepositorySyncTransaction Commit Tree) :=
  Program.mapFailure (wrapped "commit") do
    let loaded ← service.requireTransaction packageId
    if loaded.complete then do
      service.checkAll loaded.repositories service.validateCompleted
      pure loaded
    else do
      let transaction ← service.reconcileCommittedAfterCrash loaded
      service.checkAll (transaction.repositories.filter (·.status = .committed))
        service.checkCommitted
      service.checkAll (transaction.repositories.filter (¬ ·.Settled)) service.preflight
      let started ← save transaction .committing
      let finished ← service.commitAll title started [] started.repositories
      save { finished with errorMessage := "" } .complete

/-! ## `rollback` -/

/-- Undo the pinned merge of a repository. -/
def abortMerge (item : Item Commit Tree) : Sync Worktree Commit Tree Unit := do
  let worktree ← service.inspect item.repositoryId
  match service.git.mergeHead worktree with
  | none => pure ()
  | some mergeHead =>
      if mergeHead ≠ item.sourceCommit then
        .raise (.repositorySync ("repository " ++ item.repositoryId ++
          " has an unrelated merge in progress"))
      else mergeAbort item.repositoryId

def rolledBack (item : Item Commit Tree) : Item Commit Tree :=
  { item with
    status := .rolledBack
    conflictPaths := [] }

/-- The head that a rollback must come back to. -/
def atTargetBefore (item : Item Commit Tree) (worktree : Worktree) :
    Except Failure Unit := do
  let current ← service.headCommit item.repositoryId worktree
  demand (current = item.targetBefore) ("repository " ++ item.repositoryId ++
    " HEAD changed during rollback")

def rollbackRepository (item : Item Commit Tree) :
    Sync Worktree Commit Tree (Item Commit Tree) := do
  service.abortMerge item
  service.inspected item.repositoryId (service.atTargetBefore item)
  pure (rolledBack item)

def rollback (packageId : String) :
    Sync Worktree Commit Tree (RepositorySyncTransaction Commit Tree) :=
  Program.mapFailure (wrapped "rollback") do
    let transaction ← service.requireTransaction packageId
    if transaction.complete then
      .raise (.repositorySync "cannot roll back a completed repository sync")
    else if transaction.forwardOnly = true ∨
        ∃ item ∈ transaction.repositories, item.status = .committed then
      .raise (.repositorySync
        "repository-sync transaction is forward-only after its first merge commit")
    else do
      let undone ← eachRepository transaction fun _ item _ => service.rollbackRepository item
      save undone .rolledBack

/-! ## Calls -/

/-- The five operations of the service on one transaction. -/
inductive Operation where
  | prepare (packageFingerprint : String) (spec : RepositorySyncSpec)
  | acceptResolution
  | markVerified
  | commit (title : String)
  | rollback

def program (packageId : String) : Operation →
    Sync Worktree Commit Tree (RepositorySyncTransaction Commit Tree)
  | .prepare packageFingerprint spec => service.prepare packageId packageFingerprint spec
  | .acceptResolution => service.acceptResolution packageId
  | .markVerified => service.markVerified packageId
  | .commit title => service.commit packageId title
  | .rollback => service.rollback packageId

end RepositorySyncService

end Execraft.RepositorySync
