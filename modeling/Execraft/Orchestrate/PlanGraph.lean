import Execraft.Foundation.Dict
import Execraft.ProjectExecution.RuntimeState
import Execraft.RepositorySync.Spec

/-!
# Plan graphs

Work packages with their runtime state, and the record of one task execution.
-/

namespace Execraft.Orchestrate

open Foundation Foundation.Json

/-- A mapping of plain data. -/
abbrev Row := ProjectExecution.Row

inductive TaskExecutionState where
  | initializing
  | validatingPlan
  | running
  | waitingForAgent
  | waitingForEnvironment
  | resourceMaintenance
  | pausedLowDisk
  | operatorPaused
  | recovering
  | finalValidation
  | humanRequired
  | supervising
  | waitingForHumanDecision
  | completed
  | failed
  | cancelled
  deriving DecidableEq, Repr

inductive WorkPackageKind where
  | development
  | repositorySync
  deriving DecidableEq, Repr

inductive WorkPackageStage where
  | prepare
  | decompose
  | implement
  | fastVerify
  | targetedVerify
  | review
  | fixReview
  | regressionVerify
  | finalReview
  | fullVerify
  | readyToCommit
  | completed
  deriving DecidableEq, Repr

structure AcceptanceCriterion where
  id : String
  description : String
  verified : Bool := false
  evidence : String := ""

/-- The members of a package that only the orchestrator reads. -/
structure PackageRuntime where
  agentId : String := ""
  reviewerId : String := ""
  finalReviewerId : String := ""
  lastFixerId : String := ""
  agentPreferenceBindingRoles : List String := []
  agentHistory : Dict (List String) := Dict.empty
  verificationAttempts : Int := 0
  reviewCycles : Int := 0
  reviewFindings : List String := []
  reviewRecoveryCycles : Int := 0
  reviewRecoveryFingerprint : String := ""
  reviewRecoveryOriginStage : String := ""
  implementationSummary : String := ""
  verificationBaselineAcceptance : Row := []
  operatorRiskAcceptance : Row := []
  lastAgentAttempts : List Row := []
  shardKey : String := ""
  generatedBy : String := ""
  decompositionStatus : String := ""
  decompositionOriginStage : String := ""
  decompositionReason : String := ""
  decompositionAgentId : String := ""
  decompositionPlanHash : String := ""
  shardIds : List String := []
  operatorPaused : Bool := false
  operatorPauseReason : String := ""
  operatorPausedAt : String := ""
  pauseBeforeStart : Bool := false
  pauseBeforeStartReason : String := ""
  pauseBeforeStartRequestedAt : String := ""
  pauseBeforeStartReachedAt : String := ""
  pauseAfterCompletion : Bool := false
  pauseAfterCompletionReason : String := ""
  pauseAfterCompletionRequestedAt : String := ""
  pauseAfterCompletionReachedAt : String := ""
  decompositionRequired : Bool := false
  decompositionRequiredReason : String := ""
  decompositionRequiredAt : String := ""
  decompositionRequiredConsumedAt : String := ""

structure WorkPackage where
  id : String
  title : String
  dependencies : List String := []
  requirements : List String := []
  acceptanceCriteria : List AcceptanceCriterion := []
  affectedRepositories : List String := []
  kind : WorkPackageKind := .development
  repositorySync : Option RepositorySync.RepositorySyncSpec := none
  stage : WorkPackageStage := .prepare
  status : String := "pending"
  risk : String := "medium"
  priority : Int := 0
  complexity : Int := 0
  verificationProfile : String := "targeted"
  agentPreferences : Dict (List String) := Dict.empty
  skillPreferences : Dict (List String) := Dict.empty
  lastImplementation : Row := []
  lastVerification : Row := []
  lastReview : Row := []
  lastInvocationId : String := ""
  executionMode : String := "standard"
  parentId : String := ""
  parallelSafe : Bool := false
  readScope : List String := []
  writeScope : List String := []
  conflictKeys : List String := []
  runtime : PackageRuntime := {}

abbrev PlanGraph := List WorkPackage

/-- The identities with their dependencies. -/
def PlanGraph.nodes (graph : PlanGraph) : List (String × List String) :=
  graph.map fun package => (package.id, package.dependencies)

/-- The packages by identity; the last one of an identity counts. -/
def PlanGraph.byId (graph : PlanGraph) : Dict WorkPackage :=
  Dict.ofItems (graph.map fun package => (package.id, package))

structure TaskExecutionStateRecord where
  schemaVersion : Int := 1
  projectId : String := ""
  state : TaskExecutionState := .initializing
  planGraph : PlanGraph := []
  startedAt : String := ""
  lastTransitionAt : String := ""
  completedPackages : Nat := 0
  totalPackages : Nat := 0
  errorMessage : String := ""
  waiting : Row := []
  agentWaits : Row := []
  scheduler : Row := []

end Execraft.Orchestrate
