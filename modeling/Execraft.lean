import Execraft.Foundation.Json.RoundTrip
import Execraft.Foundation.Json.Lexical
import Execraft.Foundation.Json.Fragments
import Execraft.Foundation.Text.Lines
import Execraft.Foundation.Text.Bytes
import Execraft.ProjectExecution.Events
import Execraft.ProjectExecution.JournalRead
import Execraft.ProjectExecution.JournalCrash
import Execraft.Foundation.Graph.DepthFirst
import Execraft.Foundation.Text.Case
import Execraft.Foundation.Python
import Execraft.ProjectExecution.Values
import Execraft.ProjectExecution.Policy
import Execraft.ProjectExecution.Models
import Execraft.ProjectExecution.Graph
import Execraft.ProjectExecution.Validation
import Execraft.ProjectExecution.DefinitionRoundTrip
import Execraft.Foundation.Graph.Alternation
import Execraft.ProjectExecution.WaitFor
import Execraft.Foundation.Dict
import Execraft.Foundation.Program
import Execraft.ProjectExecution.RuntimeState
import Execraft.ProjectExecution.TaskPort
import Execraft.ProjectExecution.GateAuthorization
import Execraft.ProjectExecution.Automatic
import Execraft.ProjectExecution.Milestones
import Execraft.ProjectExecution.Engine
import Execraft.ProjectExecution.EngineFrame
import Execraft.ProjectExecution.EngineWorld
import Execraft.ProjectExecution.EngineRecovery
import Execraft.ProjectExecution.PlanLimits
import Execraft.ProjectExecution.EngineCycle
import Execraft.ProjectExecution.StartSafety
import Execraft.ProjectExecution.StartSessions
import Execraft.ProjectExecution.ParallelLimits
import Execraft.Foundation.Checked
import Execraft.Foundation.Json.Canonical
import Execraft.Foundation.Text.DateTime
import Execraft.ProjectExecution.Delivery.Models
import Execraft.ProjectExecution.Delivery.RoundTrip
import Execraft.ProjectExecution.Delivery.Repository
import Execraft.ProjectExecution.Delivery.Ledger
import Execraft.ProjectExecution.Delivery.History
import Execraft.Foundation.Interleaving
import Execraft.ProjectExecution.Delivery.Service
import Execraft.ProjectExecution.Delivery.SideEffects
import Execraft.Foundation.FreshName
import Execraft.Foundation.Graph.Insertion
import Execraft.RepositorySync.Planning
import Execraft.RepositorySync.DeclarativePlans
import Execraft.RepositorySync.Insertions
import Execraft.Orchestrate.PlanGraph
import Execraft.Replan.Impact
import Execraft.Replan.Reconciliation
import Execraft.Replan.ReconciledGraph
import Execraft.Replan.ContractAgreement
import Execraft.Replan.OperatorHolds
import Execraft.Roadmap.Migration
import Execraft.Roadmap.Allocation
import Execraft.Roadmap.MigrationOrder
import Execraft.Roadmap.MigrationRuns
import Execraft.Foundation.CrashPoints
import Execraft.Foundation.Git
import Execraft.RepositorySync.Transaction
import Execraft.RepositorySync.Worktrees
import Execraft.RepositorySync.Service
import Execraft.RepositorySync.Moves
import Execraft.Foundation.Git.Small
import Execraft.RepositorySync.Verified
import Execraft.Foundation.Stateful
import Execraft.Orchestrate.StateRecord
import Execraft.Foundation.Overwriting
import Execraft.Orchestrate.AgentExecution
import Execraft.Orchestrate.Decomposition
import Execraft.Orchestrate.DirectiveCrash
import Execraft.Orchestrate.PackageStage
import Execraft.Orchestrate.Pipeline
import Execraft.Orchestrate.PlanRuns
import Execraft.Orchestrate.StageBudget
import Execraft.Orchestrate.StageEdges
import Execraft.Orchestrate.FailoverOrder
import Execraft.Orchestrate.FailoverReadmission
import Execraft.ProjectExecution.GateFixpoint
import Execraft.ProjectExecution.MilestoneAchievements
import Execraft.ProjectExecution.PlanSelection
import Execraft.Orchestrate.PlanNormalization
import Execraft.Orchestrate.PlanAcceptance
import Execraft.Orchestrate.ScopePolicy
import Execraft.Orchestrate.IsolatedDelta
import Execraft.Orchestrate.WaveChoice
import Execraft.Orchestrate.CheckpointRecovery
import Execraft.Orchestrate.ContextPlan
import Execraft.Orchestrate.ReviewContract
import Execraft.Orchestrate.SelectionAgreement
import Execraft.Orchestrate.TerminalScreen
import Execraft.Foundation.SafeStep
import Execraft.Orchestrate.ScreenSnapshots
import Execraft.Foundation.Attempts
import Execraft.Orchestrate.SupervisorDecision
import Execraft.Orchestrate.SupervisorContract
import Execraft.Orchestrate.SupervisorUpgrade
import Execraft.Orchestrate.EvidenceFreshness
import Execraft.Orchestrate.ShardInsertion
import Execraft.Orchestrate.BaselineMasking
import Execraft.Orchestrate.ReportOrder
import Execraft.Orchestrate.BaselineRerun
import Execraft.Persistence.LockOrder
import Execraft.Orchestrate.CommitRecovery
import Execraft.Roadmap.CoordinationRecovery
