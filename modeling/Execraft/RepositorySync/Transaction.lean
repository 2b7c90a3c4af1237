import Execraft.RepositorySync.Spec
import Mathlib.Data.List.Nodup

/-!
# Repository synchronization transactions

The durable record of one synchronization over several repositories, and the checks that
reading it back makes.
-/

namespace Execraft.RepositorySync

open Foundation

/-- `_ALLOWED_PHASES`. -/
inductive Phase where
  | fetched
  | merging
  | resolving
  | readyVerify
  | verified
  | committing
  | complete
  | rolledBack
  deriving DecidableEq, Repr

/-- `_ALLOWED_REPOSITORY_STATUSES`. -/
inductive RepositoryStatus where
  | pending
  | noop
  | mergeReady
  | conflicted
  | resolved
  | committed
  | rolledBack
  deriving DecidableEq, Repr

inductive SourceSelection where
  | configuredBase
  | operatorOverride
  deriving DecidableEq, Repr

/-- An absent commit or tree is the empty string of the source. -/
structure RepositorySyncRepositoryState (Commit Tree : Type) where
  repositoryId : String
  remote : String
  sourceBranch : String
  sourceCommit : Commit
  targetBranch : String
  targetBefore : Commit
  configuredBaseBranch : String
  sourceSelection : SourceSelection
  mergeBase : Commit
  aheadBefore : Nat
  behindBefore : Nat
  status : RepositoryStatus := .pending
  conflictPaths : List String := []
  targetAfter : Option Commit := none
  verifiedTree : Option Tree := none
  errorMessage : String := ""
  deriving DecidableEq, Repr

structure RepositorySyncTransaction (Commit Tree : Type) where
  packageId : String
  packageFingerprint : String
  phase : Phase
  forwardOnly : Bool := false
  repositories : List (RepositorySyncRepositoryState Commit Tree)
  errorMessage : String := ""
  deriving DecidableEq, Repr

variable {Commit Tree : Type}

namespace RepositorySyncRepositoryState

/-- No operation touches these repositories any more. -/
def Settled (item : RepositorySyncRepositoryState Commit Tree) : Prop :=
  item.status ∈ [.noop, .committed]

instance (item : RepositorySyncRepositoryState Commit Tree) : Decidable item.Settled :=
  inferInstanceAs (Decidable (item.status ∈ [.noop, .committed]))

theorem settled_iff {item : RepositorySyncRepositoryState Commit Tree} :
    item.Settled ↔ item.status = .noop ∨ item.status = .committed := by
  unfold Settled
  rw [List.mem_cons, List.mem_singleton]

/-- The records of one repository, before and after. -/
def SameRepository (before after : RepositorySyncRepositoryState Commit Tree) : Prop :=
  after.repositoryId = before.repositoryId ∧ after.sourceCommit = before.sourceCommit ∧
    after.targetBranch = before.targetBranch ∧ after.targetBefore = before.targetBefore

end RepositorySyncRepositoryState

namespace RepositorySyncTransaction

variable (transaction : RepositorySyncTransaction Commit Tree)

def repositoryIds : List String :=
  transaction.repositories.map RepositorySyncRepositoryState.repositoryId

def complete : Prop := transaction.phase = .complete

instance : Decidable transaction.complete :=
  inferInstanceAs (Decidable (transaction.phase = .complete))

def pending : Prop := transaction.phase ∉ [.complete, .rolledBack]

/-- What `from_mapping` demands of a record whose values have the right types. -/
def validate (py : Python) : Attempt Unit := do
  forM transaction.repositories fun item =>
    rejectIf (item.status = .committed ∧ item.targetAfter = none)
      ("committed repository-sync state " ++ py.repr item.repositoryId ++
        " is missing target_after")
  rejectIf (transaction.repositories = []) "repository-sync transaction contains no repositories"
  rejectIf (¬ transaction.repositoryIds.Nodup)
    "repository-sync transaction contains duplicate repository IDs"
  rejectIf (transaction.phase = .rolledBack ∧ transaction.forwardOnly = true)
    "rolled-back repository-sync transaction cannot be forward-only"

/-- A record that can be read back. -/
structure Valid (transaction : RepositorySyncTransaction Commit Tree) : Prop where
  committed : ∀ item ∈ transaction.repositories, item.status = .committed →
    item.targetAfter ≠ none
  nonempty : transaction.repositories ≠ []
  unique : transaction.repositoryIds.Nodup
  rolledBack : transaction.phase = .rolledBack → transaction.forwardOnly = false

theorem validate_eq_ok {py : Python} : transaction.validate py = .ok () ↔ transaction.Valid := by
  unfold validate
  rw [unit_bind_eq_ok, unit_bind_eq_ok, unit_bind_eq_ok, forM_eq_ok]
  simp only [rejectIf_eq_ok, not_and, not_not, Bool.not_eq_true]
  constructor
  · intro checks
    exact ⟨checks.1, checks.2.1, checks.2.2.1, checks.2.2.2⟩
  · intro valid
    exact ⟨valid.committed, valid.nonempty, valid.unique, valid.rolledBack⟩

end RepositorySyncTransaction

end Execraft.RepositorySync
