import Execraft.Foundation.Git
import Mathlib.Tactic.SplitIfs

/-!
# A small Git

An executable Git whose commits are trees of commits and whose worktrees hold one text
each for the files, the index and what a merge leaves to resolve.  It does what the
documentation of the commands says.
-/

namespace Foundation

inductive SmallCommit where
  | root (tree : String)
  | child (parent : SmallCommit) (tree : String)
  | merge (first second : SmallCommit) (tree : String)
  deriving DecidableEq, Repr

namespace SmallCommit

def parents : SmallCommit → List SmallCommit
  | root _ => []
  | child parent _ => [parent]
  | merge first second _ => [first, second]

def tree : SmallCommit → String
  | root tree => tree
  | child _ tree => tree
  | merge _ _ tree => tree

/-- The commit and all commits behind it. -/
def history : SmallCommit → List SmallCommit
  | root tree => [root tree]
  | child parent tree => child parent tree :: history parent
  | merge first second tree =>
      merge first second tree :: (history first ++ history second)

def name : SmallCommit → String
  | root tree => tree
  | child parent tree => name parent ++ "/" ++ tree
  | merge first second tree => "(" ++ name first ++ "," ++ name second ++ ")/" ++ tree

instance : ToString SmallCommit := ⟨name⟩

theorem mem_history_self (commit : SmallCommit) : commit ∈ history commit := by
  cases commit with
  | root => exact List.mem_cons_self
  | child => exact List.mem_cons_self
  | merge => exact List.mem_cons_self

theorem notOwnParent (commit : SmallCommit) : commit ∉ parents commit := by
  cases commit with
  | root => simp [parents]
  | child parent tree =>
      intro member
      have same := List.mem_singleton.mp member
      have size := congrArg sizeOf same
      simp only [child.sizeOf_spec] at size
      omega
  | merge first second tree =>
      intro member
      simp only [parents, List.mem_cons, List.not_mem_nil, or_false] at member
      rcases member with same | same
      · have size := congrArg sizeOf same
        simp only [merge.sizeOf_spec] at size
        omega
      · have size := congrArg sizeOf same
        simp only [merge.sizeOf_spec] at size
        omega

end SmallCommit

structure SmallWorktree where
  branch : Option String
  head : Option SmallCommit
  mergeHead : Option SmallCommit := none
  /-- Another operation that is in progress. -/
  operation : Option String := none
  files : String
  index : String
  unmerged : List String := []
  /-- The paths that a merge leaves unmerged. -/
  conflicts : List String := []
  /-- What a fetch brings from a branch of a remote. -/
  upstream : List ((String × String) × SmallCommit) := []
  deriving DecidableEq, Repr

namespace SmallWorktree

variable (worktree : SmallWorktree)

def headTree : String := (worktree.head.map SmallCommit.tree).getD ""

def dirty : Bool :=
  worktree.index ≠ worktree.headTree ∨ worktree.files ≠ worktree.index ∨
    worktree.unmerged ≠ []

/-- A merge begins on a clean worktree with a source that is not merged yet. -/
def canMerge (source : SmallCommit) : Prop :=
  worktree.mergeHead = none ∧ worktree.dirty = false ∧
    ∃ head ∈ worktree.head, source ∉ head.history

instance (source : SmallCommit) : Decidable (worktree.canMerge source) :=
  inferInstanceAs (Decidable (_ ∧ _ ∧ _))

def merge (source : SmallCommit) : SmallWorktree :=
  if worktree.canMerge source then
    { worktree with
      mergeHead := some source
      index := worktree.headTree ++ "+" ++ source.tree
      files := worktree.headTree ++ "+" ++ source.tree
      unmerged := worktree.conflicts }
  else worktree

def mergeAbort : Except String Unit × SmallWorktree :=
  if worktree.mergeHead = none then
    (.error "fatal: There is no merge to abort (MERGE_HEAD missing).", worktree)
  else
    (.ok (), { worktree with
      mergeHead := none
      index := worktree.headTree
      files := worktree.headTree
      unmerged := [] })

def addAll : Except String Unit × SmallWorktree :=
  (.ok (), { worktree with
    index := worktree.files
    unmerged := [] })

def writeTree : Except String String :=
  if worktree.unmerged = [] then .ok worktree.index
  else .error "error building trees"

/-- The commit that records the index. -/
def nextCommit : Except String SmallCommit :=
  if worktree.unmerged ≠ [] then .error "Committing is not possible: unmerged files."
  else
    match worktree.head, worktree.mergeHead with
    | none, _ => .ok (.root worktree.index)
    | some head, some other => .ok (.merge head other worktree.index)
    | some head, none =>
        if worktree.index = head.tree then .error "nothing to commit"
        else .ok (.child head worktree.index)

def commit : Except String Unit × SmallWorktree :=
  match worktree.nextCommit with
  | .error message => (.error message, worktree)
  | .ok commit =>
      (.ok (), { worktree with
        head := some commit
        mergeHead := none })

def divergence (target source : SmallCommit) :
    Except String (SmallCommit × Nat × Nat) :=
  match target.history.find? (· ∈ source.history) with
  | none => .error "no merge base"
  | some base =>
      .ok (base, (target.history.filter (· ∉ source.history)).length,
        (source.history.filter (· ∉ target.history)).length)

end SmallWorktree

/-- The Git of small worktrees. -/
def smallGit : Git SmallWorktree SmallCommit String where
  parents := SmallCommit.parents
  tree := SmallCommit.tree
  currentBranch := SmallWorktree.branch
  head := SmallWorktree.head
  mergeHead := SmallWorktree.mergeHead
  operation := fun worktree =>
    if worktree.mergeHead = none then worktree.operation else some "merge"
  dirty := SmallWorktree.dirty
  unmerged := SmallWorktree.unmerged
  hasUnstaged := fun worktree => worktree.files ≠ worktree.index
  readFile := fun worktree _ => some worktree.files.toUTF8.toList
  writeTree := SmallWorktree.writeTree
  isAncestor := fun _ older newer => older ∈ newer.history
  showParents := fun _ commit => .ok commit.parents
  treeOf := fun _ commit => .ok commit.tree
  fetch := fun worktree remote branch =>
    match worktree.upstream.lookup (remote, branch) with
    | some commit => .ok commit
    | none => .error "fatal: couldn't find remote ref"
  divergence := fun _ target source => SmallWorktree.divergence target source
  addAll := SmallWorktree.addAll
  merge := SmallWorktree.merge
  mergeAbort := SmallWorktree.mergeAbort
  commit := fun worktree _ => worktree.commit

theorem smallGit_ancestor {older newer : SmallCommit} (member : older ∈ newer.history) :
    smallGit.Ancestor older newer := by
  induction newer with
  | root tree =>
      rw [List.mem_singleton.mp member]
      exact Relation.ReflTransGen.refl
  | child parent tree inductionHypothesis =>
      rcases List.mem_cons.mp member with same | behind
      · rw [same]
        exact Relation.ReflTransGen.refl
      · exact (inductionHypothesis behind).tail List.mem_cons_self
  | merge first second tree firstHypothesis secondHypothesis =>
      rcases List.mem_cons.mp member with same | behind
      · rw [same]
        exact Relation.ReflTransGen.refl
      · rcases List.mem_append.mp behind with inFirst | inSecond
        · exact (firstHypothesis inFirst).tail List.mem_cons_self
        · exact (secondHypothesis inSecond).tail
            (List.mem_cons_of_mem _ List.mem_cons_self)

theorem smallGit_truthful : smallGit.Truthful where
  isAncestor := fun contained => smallGit_ancestor (of_decide_eq_true contained)
  showParents := fun shown => (Except.ok.inj shown).symm
  treeOf := fun read => (Except.ok.inj read).symm

theorem smallGit_documented : smallGit.Documented where
  notOwnParent := SmallCommit.notOwnParent
  isAncestor_head := fun _ => decide_eq_true (SmallCommit.mem_history_self _)
  operation_merge := by
    intro worktree idle
    by_cases merging : worktree.mergeHead = none
    · exact merging
    · have active : smallGit.operation worktree = some "merge" := if_neg merging
      rw [active] at idle
      cases idle
  addAll_place := fun _ => ⟨rfl, rfl, rfl⟩
  addAll_mergeHead := fun _ => rfl
  merge_place := by
    intro worktree source
    change smallGit.SamePlace worktree (worktree.merge source)
    unfold SmallWorktree.merge
    split_ifs
    · exact ⟨rfl, rfl, rfl⟩
    · exact ⟨rfl, rfl, rfl⟩
  mergeAbort_place := by
    intro worktree
    change smallGit.SamePlace worktree worktree.mergeAbort.2
    unfold SmallWorktree.mergeAbort
    split_ifs
    · exact ⟨rfl, rfl, rfl⟩
    · exact ⟨rfl, rfl, rfl⟩
  mergeAbort_ok := by
    intro worktree aborted
    change worktree.mergeAbort.1 = _ at aborted
    change worktree.mergeAbort.2.mergeHead = none
    unfold SmallWorktree.mergeAbort at aborted ⊢
    split_ifs at aborted ⊢
    rfl
  mergeAbort_error := by
    intro worktree message failed
    change worktree.mergeAbort.1 = _ at failed
    change worktree.mergeAbort.2.mergeHead = worktree.mergeHead
    unfold SmallWorktree.mergeAbort at failed ⊢
    split_ifs at failed ⊢
    rfl
  commit_branch := by
    intro worktree message
    change worktree.commit.2.branch = worktree.branch
    unfold SmallWorktree.commit
    split
    · rfl
    · rfl

end Foundation
