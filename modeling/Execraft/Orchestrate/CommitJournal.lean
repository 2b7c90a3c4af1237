import Execraft.Foundation.Handlers
import Execraft.Foundation.Upsert
import Execraft.Orchestrate.AgentSelection

/-!
# Commit transactions

How one package is committed in several repositories: the journal of transactions, what Git
is asked, the transaction that is begun and the one that is recovered after an interruption.
-/

namespace Execraft.Orchestrate.Commits

open Foundation

/-! ## The journal -/

structure RepositorySnapshot (Commit : Type) where
  repositoryId : String
  branch : String
  headCommit : Commit
  dirty : Bool
  path : String
  deriving DecidableEq

inductive TransactionStatus where
  | pending
  | committed
  | failed
  deriving DecidableEq, Repr

structure CommitTransaction (Commit : Type) where
  transactionId : String
  timestamp : String
  workPackageId : String
  preSnapshots : List (RepositorySnapshot Commit) := []
  postSnapshots : List (RepositorySnapshot Commit) := []
  status : TransactionStatus := .pending
  errorMessage : String := ""
  deriving DecidableEq

/-- The transactions in the file of the journal. -/
abbrev CommitJournal (Commit : Type) : Type :=
  List (CommitTransaction Commit)

section Journal

variable {Commit : Type}

/-- `_load`. -/
def load (journal : CommitJournal Commit) (transactionId : String) :
    Except String (CommitTransaction Commit) :=
  match journal.find? fun transaction => transaction.transactionId = transactionId with
  | some transaction => .ok transaction
  | none => .error s!"transaction not found: {transactionId}"

def lastByWorkPackage (journal : CommitJournal Commit) (workPackageId : String) :
    Option (CommitTransaction Commit) :=
  (journal.filter fun transaction => transaction.workPackageId = workPackageId).getLast?

end Journal

/-! ## Effects -/

inductive CommitFailure where
  | error (message : String)
  /-- `_StageEscalated` -/
  | escalated (packageId : String)
  deriving DecidableEq

def CommitFailure.text : CommitFailure → String
  | error message => message
  | escalated packageId => packageId

inductive Effect (Commit : Type) where
  | readJournal
  | writeJournal (journal : CommitJournal Commit)
  /-- `_generate_tx_id` -/
  | generateTxId (packageId : String)
  | utcNow
  /-- `validate_no_out_of_scope_changes` -/
  | validateScope (packageId : String)
  | currentBranch (path : String)
  | headCommit (path : String)
  | workingTreeDirty (path : String)
  /-- `git add -A` -/
  | addAll (path : String)
  /-- `git diff --cached --quiet`: are there staged changes? -/
  | diffCached (path : String)
  /-- `git commit -m` -/
  | commit (path message : String)
  /-- `git rev-parse --short HEAD` -/
  | shortHead (path : String)
  /-- The package needs a human. -/
  | humanRequired (packageId message : String)

/-- What an effect that succeeds answers. -/
abbrev Answer {Commit : Type} : Effect Commit → Type
  | .readJournal => CommitJournal Commit
  | .writeJournal _ => Unit
  | .generateTxId _ => String
  | .utcNow => String
  | .validateScope _ => Unit
  | .currentBranch _ => String
  | .headCommit _ => Commit
  | .workingTreeDirty _ => Bool
  | .addAll _ => Unit
  | .diffCached _ => Bool
  | .commit _ _ => Unit
  | .shortHead _ => String
  | .humanRequired _ _ => Unit

abbrev Reply {Commit : Type} (effect : Effect Commit) : Type :=
  Except String (Answer effect)

abbrev Execution (Commit Value : Type) : Type :=
  Program (Effect Commit) Reply CommitFailure Value

section Execution

variable {Commit : Type}

def ask (effect : Effect Commit) : Execution Commit (Answer effect) := do
  match ← Program.request effect with
  | .ok answer => pure answer
  | .error message => .raise (.error message)

def ofResult {Value : Type} : Except String Value → Execution Commit Value
  | .ok value => pure value
  | .error message => .raise (.error message)

/-- `_load` and `_upsert` with a change in between; both read the file. -/
def changeTransaction (transactionId : String)
    (change : CommitTransaction Commit → CommitTransaction Commit) :
    Execution Commit Unit := do
  let loaded ← ask .readJournal
  let transaction ← ofResult (load loaded transactionId)
  let journal ← ask .readJournal
  ask (.writeJournal (upsert CommitTransaction.transactionId (change transaction) journal))

/-- `CommitJournal.begin`. -/
def journalBegin (transactionId timestamp workPackageId : String) :
    Execution Commit Unit := do
  let journal ← ask .readJournal
  ask (.writeJournal (upsert CommitTransaction.transactionId
    { transactionId := transactionId
      timestamp := timestamp
      workPackageId := workPackageId } journal))

/-- `CommitJournal.commit`. -/
def journalCommit (transactionId : String) : Execution Commit Unit :=
  changeTransaction transactionId fun transaction => { transaction with status := .committed }

/-- `CommitJournal.fail`. -/
def journalFail (transactionId errorMessage : String) : Execution Commit Unit :=
  changeTransaction transactionId fun transaction =>
    { transaction with status := .failed, errorMessage := errorMessage }

/-- `CommitJournal.add_snapshots`. -/
def addSnapshots (transactionId : String) (pre post : List (RepositorySnapshot Commit)) :
    Execution Commit Unit :=
  changeTransaction transactionId fun transaction =>
    { transaction with
      preSnapshots := transaction.preSnapshots ++ pre
      postSnapshots := transaction.postSnapshots ++ post }

def snapshotRepository (repositoryId path : String) :
    Execution Commit (RepositorySnapshot Commit) := do
  let branch ← ask (.currentBranch path)
  let head ← ask (.headCommit path)
  let dirty ← ask (.workingTreeDirty path)
  pure
    { repositoryId := repositoryId
      branch := branch
      headCommit := head
      dirty := dirty
      path := path }

def snapshotRepositories (repositories : List (String × String)) :
    Execution Commit (List (RepositorySnapshot Commit)) :=
  repositories.foldlM (fun snapshots repository => do
    let snapshot ← snapshotRepository repository.1 repository.2
    pure (snapshots ++ [snapshot])) []

end Execution

/-! ## Repositories of the task -/

/-- The settings that only commits read, next to the others. -/
structure CommitConfig extends OrchestrationConfig where
  requireRepositoryChanges : Bool := true
  allowVerifiedNoopCommits : Bool := false
  /-- `commit_message_template.format`, which fails on an unknown field. -/
  commitMessage : String → String → Except String String :=
    fun packageId title => .ok s!"{packageId}: {title}"

/-- Where the repositories of the task lie. -/
structure TaskWorkspace where
  repositoryPaths : Dict String := Dict.empty
  repositoryRequirements : Dict Bool := Dict.empty
  projectId : String := ""
  /-- `self._workspace_root or Path.cwd()` -/
  fallbackPath : String := ""
  /-- `(path / ".git").exists()` -/
  isCheckout : String → Bool
  /-- The path that the manifest of the project gives a repository. -/
  manifestPath : String → Except String String

section Resolve

variable (config : CommitConfig) (workspace : TaskWorkspace)

/-- `_repository_is_required`. -/
def repositoryIsRequired (repositoryId : String) : Bool :=
  (workspace.repositoryRequirements.get? repositoryId).getD true

/-- `_resolve_repo_path_if_available`. -/
def resolveRepoPathIfAvailable (repositoryId : String) : Except String (Option String) :=
  match workspace.repositoryPaths.get? repositoryId with
  | some path =>
      if workspace.isCheckout path then .ok (some path)
      else .error s!"repository path is not a Git checkout: {repositoryId} -> {path}"
  | none =>
      if workspace.repositoryPaths.entries ≠ [] then
        if repositoryIsRequired workspace repositoryId then
          .error s!"required repository is not present in the task workspace: {repositoryId}"
        else .ok none
      else
        match workspace.manifestPath repositoryId with
        | .error _ =>
            if !config.strictChecks then .ok (some workspace.fallbackPath)
            else if !repositoryIsRequired workspace repositoryId then .ok none
            else .error (s!"cannot resolve repository '{repositoryId}' for project " ++
              s!"'{workspace.projectId}'")
        | .ok path =>
            if workspace.isCheckout path then .ok (some path)
            else if !config.strictChecks then .ok (some path)
            else if !repositoryIsRequired workspace repositoryId then .ok none
            else .error s!"resolved path is not a Git checkout: {repositoryId} -> {path}"

/-- `_resolve_repo_path`. -/
def resolveRepoPath (repositoryId : String) : Except String String := do
  match ← resolveRepoPathIfAvailable config workspace repositoryId with
  | some path => pure path
  | none =>
      .error s!"optional repository is not present in the task workspace: {repositoryId}"

end Resolve

/-! ## Transactions -/

section Transactions

variable {Commit : Type} [DecidableEq Commit] (config : CommitConfig)
  (workspace : TaskWorkspace) (package : WorkPackage)

/-- `_git_commit_repository`. -/
def gitCommitRepository (repositoryId path : String) : Execution Commit Unit := do
  ask (.addAll path)
  match ← Program.request (.diffCached path) with
  | .error _ =>
      .raise (.error s!"unable to inspect staged changes for repository {repositoryId}")
  | .ok false =>
      if config.requireRepositoryChanges then
        .raise (.error s!"no staged changes for repository {repositoryId}")
      else pure ()
  | .ok true => do
      let message ← ofResult (config.commitMessage package.id package.title)
      ask (.commit path message)
      let _ ← ask (.shortHead path)
      pure ()

structure Inspected (Commit : Type) where
  pre : List (RepositorySnapshot Commit) := []
  changed : List (String × String) := []
  available : List (String × String) := []

/-- One repository of the package before the transaction. -/
def inspectRepository (inspected : Inspected Commit) (repositoryId : String) :
    Execution Commit (Inspected Commit) := do
  match ← ofResult (resolveRepoPathIfAvailable config workspace repositoryId) with
  | none => pure inspected
  | some path => do
      let snapshot ← snapshotRepository repositoryId path
      pure
        { pre := inspected.pre ++ [snapshot]
          changed :=
            if snapshot.dirty then inspected.changed ++ [(repositoryId, path)]
            else inspected.changed
          available := inspected.available ++ [(repositoryId, path)] }

def commitRepositories (repositories : List (String × String)) : Execution Commit Unit :=
  repositories.foldlM (fun _ repository =>
    gitCommitRepository config package repository.1 repository.2) ()

/-- What `_begin_commit_transaction` tries. -/
def tryCommit (transactionId : String) (declared : List String) : Execution Commit String := do
  let inspected ← declared.foldlM (inspectRepository config workspace) {}
  addSnapshots transactionId inspected.pre []
  if config.strictChecks ∧ inspected.available = [] then
    .raise (.error "no affected repositories are available in the task workspace")
  else if config.strictChecks ∧ config.requireRepositoryChanges ∧ inspected.changed = [] ∧
      ¬config.allowVerifiedNoopCommits then
    .raise (.error "no changes detected in affected repositories")
  else if inspected.changed = [] ∧ config.allowVerifiedNoopCommits then do
    let post ← snapshotRepositories inspected.available
    addSnapshots transactionId [] post
    pure transactionId
  else do
    if config.autoCommit then commitRepositories config package inspected.changed else pure ()
    let post ← snapshotRepositories inspected.available
    addSnapshots transactionId [] post
    pure transactionId

/-- The transaction fails and a human is asked. -/
def abandon {Value : Type} (transactionId message : String) : Execution Commit Value := do
  journalFail transactionId message
  ask (.humanRequired package.id message)
  .raise (.escalated package.id)

/-- `_begin_commit_transaction`. -/
def beginCommitTransaction : Execution Commit String := do
  ask (.validateScope package.id)
  let transactionId ← ask (.generateTxId package.id)
  let timestamp ← ask .utcNow
  journalBegin transactionId timestamp package.id
  let declared := package.affectedRepositories.eraseDups
  if config.strictChecks ∧ declared = [] then
    abandon package transactionId "work package has no affected repositories"
  else
    (tryCommit config workspace package transactionId declared).handling fun failure =>
      abandon package transactionId failure.text

/-- One repository of an interrupted transaction. -/
def recoverRepository (before : RepositorySnapshot Commit) : Execution Commit Unit := do
  let path ← ofResult (resolveRepoPath config workspace before.repositoryId)
  let current ← snapshotRepository before.repositoryId path
  if current.branch ≠ before.branch then
    .raise (.error (s!"branch changed during pending transaction for " ++
      s!"{before.repositoryId}: {before.branch} -> {current.branch}"))
  else if current.headCommit ≠ before.headCommit then
    if current.dirty then
      .raise (.error
        s!"repository {before.repositoryId} has a new HEAD and uncommitted changes")
    else pure ()
  else if current.dirty then
    if ¬config.autoCommit then
      .raise (.error s!"repository {before.repositoryId} still needs a commit")
    else gitCommitRepository config package before.repositoryId path
  else pure ()

/-- The repositories of a transaction afterwards. -/
def snapshotAfter (before : List (RepositorySnapshot Commit)) :
    Execution Commit (List (RepositorySnapshot Commit)) :=
  before.foldlM (fun snapshots snapshot => do
    let path ← ofResult (resolveRepoPath config workspace snapshot.repositoryId)
    let after ← snapshotRepository snapshot.repositoryId path
    pure (snapshots ++ [after])) []

/-- The required repositories that a transaction leaves out. -/
def missingRequired (recorded : List String) : List String :=
  ((package.affectedRepositories.eraseDups.filter (· ∉ recorded)).filter
    (repositoryIsRequired workspace)).mergeSort

/-- What `_recover_commit_transaction` tries. -/
def tryRecover (transaction : CommitTransaction Commit) : Execution Commit String := do
  let before := transaction.preSnapshots
  let recorded := before.map RepositorySnapshot.repositoryId
  if before = [] then
    .raise (.error "pending transaction has no pre-snapshots")
  else if ¬recorded ⊆ package.affectedRepositories then
    .raise (.error
      "pending transaction contains repositories outside the current work package")
  else if missingRequired workspace package recorded ≠ [] then
    .raise (.error ("pending transaction omits required repositories: " ++
      ", ".intercalate (missingRequired workspace package recorded)))
  else do
    before.foldlM (fun _ snapshot => recoverRepository config workspace package snapshot) ()
    let post ← snapshotAfter config workspace before
    if config.requireRepositoryChanges ∧
        (∀ pair ∈ before.zip post, pair.2.headCommit = pair.1.headCommit) ∧
          ¬config.allowVerifiedNoopCommits then
      .raise (.error "pending transaction contains no committed changes")
    else do
      addSnapshots transaction.transactionId [] post
      journalCommit transaction.transactionId
      pure transaction.transactionId

/-- `_recover_commit_transaction`. -/
def recoverCommitTransaction (transaction : CommitTransaction Commit) :
    Execution Commit String :=
  (tryRecover config workspace package transaction).handling fun failure =>
    abandon package transaction.transactionId failure.text

def commitFresh : Execution Commit String := do
  let transactionId ← beginCommitTransaction config workspace package
  journalCommit transactionId
  pure transactionId

/-- The part of `_finalize_standard_package` that commits. -/
def commitStandardPackage : Execution Commit String := do
  let journal ← ask .readJournal
  match lastByWorkPackage journal package.id with
  | none => commitFresh config workspace package
  | some existing =>
      match existing.status with
      | .committed => pure existing.transactionId
      | .failed => commitFresh config workspace package
      | .pending =>
          if config.strictChecks then
            recoverCommitTransaction config workspace package existing
          else do
            journalFail existing.transactionId
              "interrupted legacy transaction; starting a fresh attempt"
            commitFresh config workspace package

end Transactions

/-! ## Git and the journal file -/

/-- What commits are named by. -/
structure History (Commit Tree : Type) where
  parents : Commit → List Commit
  tree : Commit → Tree
  /-- The name of a commit depends on those of its parents. -/
  notOwnParent : ∀ commit, commit ∉ parents commit
  /-- Every tree can be committed after every commit. -/
  exists_child : ∀ parent content, ∃ commit, parents commit = [parent] ∧ tree commit = content

structure Checkout (Commit Tree : Type) where
  branch : String
  head : Commit
  index : Tree
  worktree : Tree
  deriving DecidableEq

structure World (Commit Tree : Type) where
  journal : CommitJournal Commit := []
  checkouts : String → Checkout Commit Tree
  /-- The packages that wait for a human, with the reasons. -/
  escalations : List (String × String) := []

section World

variable {Commit Tree : Type}

def World.setCheckout (world : World Commit Tree) (path : String)
    (checkout : Checkout Commit Tree) : World Commit Tree :=
  { world with checkouts := Function.update world.checkouts path checkout }

/-- What `git status --porcelain` finds. -/
def Checkout.Dirty (history : History Commit Tree) (checkout : Checkout Commit Tree) : Prop :=
  checkout.index ≠ history.tree checkout.head ∨ checkout.worktree ≠ checkout.index

instance [DecidableEq Tree] (history : History Commit Tree) (checkout : Checkout Commit Tree) :
    Decidable (checkout.Dirty history) :=
  inferInstanceAs (Decidable (_ ∨ _))

/-- An effect that succeeds. -/
def Performed (history : History Commit Tree) (world : World Commit Tree) :
    (effect : Effect Commit) → Answer effect → World Commit Tree → Prop
  | .readJournal, journal, after => journal = world.journal ∧ after = world
  | .writeJournal journal, _, after => after = { world with journal := journal }
  | .generateTxId _, transactionId, after =>
      transactionId ∉ world.journal.map CommitTransaction.transactionId ∧ after = world
  | .utcNow, _, after => after = world
  | .validateScope _, _, after => after = world
  | .currentBranch path, branch, after =>
      branch = (world.checkouts path).branch ∧ after = world
  | .headCommit path, head, after => head = (world.checkouts path).head ∧ after = world
  | .workingTreeDirty path, dirty, after =>
      (dirty = true ↔ (world.checkouts path).Dirty history) ∧ after = world
  | .addAll path, _, after =>
      let checkout := world.checkouts path
      after = world.setCheckout path { checkout with index := checkout.worktree }
  | .diffCached path, staged, after =>
      let checkout := world.checkouts path
      (staged = true ↔ checkout.index ≠ history.tree checkout.head) ∧ after = world
  | .commit path _, _, after =>
      let checkout := world.checkouts path
      ∃ commit, history.parents commit = [checkout.head] ∧
        history.tree commit = checkout.index ∧
          after = world.setCheckout path { checkout with head := commit }
  | .shortHead _, _, after => after = world
  | .humanRequired packageId message, _, after =>
      after = { world with escalations := world.escalations ++ [(packageId, message)] }

/-- What an effect may leave behind that reports an error: nothing, or all that it does;
`git add` may have changed the index in any way. -/
def Disturbed (history : History Commit Tree) (world : World Commit Tree)
    (effect : Effect Commit) (after : World Commit Tree) : Prop :=
  after = world ∨ (∃ answer, Performed history world effect answer after) ∨
    ∃ path index, effect = .addAll path ∧
      after = world.setCheckout path { world.checkouts path with index := index }

/-- An effect and its reply, in surroundings where effects may fail or never do. -/
def Step (history : History Commit Tree) (faulty : Prop) (world : World Commit Tree)
    (effect : Effect Commit) (reply : Reply effect) (after : World Commit Tree) : Prop :=
  match reply with
  | .ok answer => Performed history world effect answer after
  | .error _ => faulty ∧ Disturbed history world effect after

end World

end Execraft.Orchestrate.Commits
