import Mathlib.Logic.Relation

/-!
# Git worktrees

What a program learns from Git about a worktree, and the commands with which it changes
one.  Nothing is said here about how Git stores a worktree: a result names the documented
behaviour that it uses.
-/

namespace Foundation

/-- The queries and the commands of Git.  A query that may fail and a command answer with
an error text when Git exits with an error. -/
structure Git (Worktree Commit Tree : Type) where
  /-- A commit is named by its content, so its name fixes its parents and its tree. -/
  parents : Commit → List Commit
  tree : Commit → Tree
  /-- `symbolic-ref --short HEAD`; nothing when `HEAD` is detached. -/
  currentBranch : Worktree → Option String
  /-- `rev-parse --verify HEAD^{commit}`. -/
  head : Worktree → Option Commit
  /-- `rev-parse --verify MERGE_HEAD^{commit}`. -/
  mergeHead : Worktree → Option Commit
  /-- The operation whose marker file is present, such as a merge or a rebase. -/
  operation : Worktree → Option String
  /-- Does `status --porcelain --untracked-files=all` print anything? -/
  dirty : Worktree → Bool
  /-- `diff --name-only --diff-filter=U`. -/
  unmerged : Worktree → List String
  /-- Does the worktree differ from the index (`diff --quiet`, `ls-files --others`)? -/
  hasUnstaged : Worktree → Bool
  /-- The content of a regular file that can be read. -/
  readFile : Worktree → String → Option (List UInt8)
  writeTree : Worktree → Except String Tree
  /-- `merge-base --is-ancestor` succeeds. -/
  isAncestor : Worktree → Commit → Commit → Bool
  /-- `show -s --format=%P`. -/
  showParents : Worktree → Commit → Except String (List Commit)
  /-- `rev-parse commit^{tree}`. -/
  treeOf : Worktree → Commit → Except String Tree
  /-- `fetch --no-tags` of a branch and `rev-parse FETCH_HEAD^{commit}`. -/
  fetch : Worktree → String → String → Except String Commit
  /-- `merge-base` of two commits and how many commits each has that the other lacks. -/
  divergence : Worktree → Commit → Commit → Except String (Commit × Nat × Nat)
  /-- `add -A`. -/
  addAll : Worktree → Except String Unit × Worktree
  /-- `merge --no-commit --no-ff`. -/
  merge : Worktree → Commit → Worktree
  /-- `merge --abort`. -/
  mergeAbort : Worktree → Except String Unit × Worktree
  /-- `commit -m`. -/
  commit : Worktree → String → Except String Unit × Worktree

namespace Git

variable {Worktree Commit Tree : Type}

/-- A commit is in the history of another one. -/
def Ancestor (git : Git Worktree Commit Tree) : Commit → Commit → Prop :=
  Relation.ReflTransGen fun older newer => older ∈ git.parents newer

/-- What Git prints about commits is true of them. -/
structure Truthful (git : Git Worktree Commit Tree) : Prop where
  isAncestor {worktree older newer} :
    git.isAncestor worktree older newer = true → git.Ancestor older newer
  showParents {worktree commit parents} :
    git.showParents worktree commit = .ok parents → parents = git.parents commit
  treeOf {worktree commit tree} :
    git.treeOf worktree commit = .ok tree → tree = git.tree commit

/-- Two states of a worktree that stand at the same place in history. -/
structure SamePlace (git : Git Worktree Commit Tree) (before after : Worktree) : Prop where
  branch : git.currentBranch after = git.currentBranch before
  head : git.head after = git.head before
  isAncestor : git.isAncestor after = git.isAncestor before

namespace SamePlace

variable {git : Git Worktree Commit Tree} {first middle last : Worktree}

theorem refl (git : Git Worktree Commit Tree) (worktree : Worktree) :
    git.SamePlace worktree worktree :=
  ⟨rfl, rfl, rfl⟩

theorem trans (front : git.SamePlace first middle) (back : git.SamePlace middle last) :
    git.SamePlace first last where
  branch := back.branch.trans front.branch
  head := back.head.trans front.head
  isAncestor := back.isAncestor.trans front.isAncestor

end SamePlace

/-- What the commands leave alone, and what an aborted merge leaves behind. -/
structure Documented (git : Git Worktree Commit Tree) : Prop where
  /-- The name of a commit depends on those of its parents. -/
  notOwnParent (commit : Commit) : commit ∉ git.parents commit
  isAncestor_head {worktree commit} :
    git.head worktree = some commit → git.isAncestor worktree commit commit = true
  /-- A merge in progress is an operation in progress. -/
  operation_merge {worktree} :
    git.operation worktree = none → git.mergeHead worktree = none
  addAll_place (worktree : Worktree) : git.SamePlace worktree (git.addAll worktree).2
  addAll_mergeHead (worktree : Worktree) :
    git.mergeHead (git.addAll worktree).2 = git.mergeHead worktree
  merge_place (worktree : Worktree) (source : Commit) :
    git.SamePlace worktree (git.merge worktree source)
  mergeAbort_place (worktree : Worktree) :
    git.SamePlace worktree (git.mergeAbort worktree).2
  mergeAbort_ok {worktree} : (git.mergeAbort worktree).1 = .ok () →
    git.mergeHead (git.mergeAbort worktree).2 = none
  mergeAbort_error {worktree message} : (git.mergeAbort worktree).1 = .error message →
    git.mergeHead (git.mergeAbort worktree).2 = git.mergeHead worktree
  commit_branch (worktree : Worktree) (message : String) :
    git.currentBranch (git.commit worktree message).2 = git.currentBranch worktree

end Git

end Foundation
