import Execraft.Orchestrate.StageRuns
import Mathlib.Algebra.GroupWithZero.Nat

/-!
# The budgets of a serial processing

A package that is processed serially executes one stage after the other.  Its reviews,
its rescue campaigns and its verifications have budgets; a measure over all of them
decreases with every stage that is executed, except where changes outside of what the
package owns are recovered before its commit.
-/

namespace Execraft.Orchestrate

open Foundation

section Commits

variable {host : Host}

/-! ## The recovery before a commit -/

/-- Before the commit of the package a recovery sends it back to its verification. -/
def ScopeRecovered (host : Host) (session : StageSession) : Prop :=
  session.package.stage = .readyToCommit ∧ session.package.kind ≠ .repositorySync ∧
    (prepareCommitScope host
      (validateAcceptanceEvidence host session).2).2.package.stage = .regressionVerify

/-- A program that does not lead the package to its second verification. -/
def KeepsVerified {Value : Type} (program : StageProgram Value) (session : StageSession) :
    Prop :=
  Stateful.Ensures program session
    (fun _ after => after.package.stage ≠ .regressionVerify)
    fun _ after => after.package.stage ≠ .regressionVerify

theorem keepsVerified_afterSteady {Value Other : Type} {first : StageProgram Value}
    {next : Value → StageProgram Other} {session : StageSession} (steady : IsSteady first)
    (verified : session.package.stage ≠ .regressionVerify)
    (keeps : ∀ value middle, Steady session middle →
      middle.package.stage ≠ .regressionVerify → KeepsVerified (next value) middle) :
    KeepsVerified (first >>= next) session := by
  unfold KeepsVerified
  rw [Stateful.ensures_bind]
  have stays : ∀ middle, Steady session middle →
      middle.package.stage ≠ .regressionVerify := by
    intro middle kept
    rw [kept.stage]
    exact verified
  exact (steady.ensures session).mono
    (fun value middle kept => keeps value middle kept (stays middle kept))
    fun _ middle kept => stays middle kept

theorem keepsVerified_markPackageCompleted (session : StageSession) :
    KeepsVerified markPackageCompleted session := by
  refine ensures_markPackageCompleted.mono (fun _ final moves => ?_)
    fun _ _ never => never.elim
  rw [moves.stage]
  simp

theorem keepsVerified_finalizeStandardPackage {session : StageSession}
    (kept : (prepareCommitScope host session).2.package.stage ≠ .regressionVerify) :
    KeepsVerified (finalizeStandardPackage host) session := by
  unfold KeepsVerified finalizeStandardPackage
  rw [Stateful.ensures_bind]
  refine (Stateful.ensures_of_final kept).mono (fun prepared middle verified => ?_)
    fun _ _ verified => verified
  refine Stateful.ensures_ite (fun _ => ?_) fun _ => verified
  refine keepsVerified_afterSteady isSteady_commitPackage verified
    fun _ committed _ verified => ?_
  refine keepsVerified_afterSteady (isSteady_whenever isSteady_requireFinalized) verified
    fun _ finalized _ _ => keepsVerified_markPackageCompleted finalized

/-- Without a recovery the commit does not lead back to the verification. -/
theorem keepsVerified_readyToCommitStage {session : StageSession}
    (stage : session.package.stage = .readyToCommit)
    (standard : session.package.executionMode = "standard")
    (ordinary : session.package.kind ≠ .repositorySync)
    (kept : ¬ScopeRecovered host session) :
    KeepsVerified (readyToCommitStage host) session := by
  have verified : session.package.stage ≠ .regressionVerify := by
    rw [stage]
    decide
  show KeepsVerified (whenever (session.package.kind = .repositorySync)
    (prepareRepositorySyncAcceptanceEvidence host) >>= fun _ =>
      validateAcceptanceEvidence host >>= fun _ => finalizePackage host >>= fun _ =>
        pure StageDisposition.stop) session
  rw [whenever, if_neg ordinary]
  show KeepsVerified (validateAcceptanceEvidence host >>= fun _ =>
    finalizePackage host >>= fun _ => pure StageDisposition.stop) session
  have steady : Steady session (validateAcceptanceEvidence host session).2 :=
    isSteady_validateAcceptanceEvidence session
  have inScope : (prepareCommitScope host
      (validateAcceptanceEvidence host session).2).2.package.stage ≠ .regressionVerify :=
    fun recovered => kept ⟨stage, ordinary, recovered⟩
  unfold KeepsVerified
  rw [Stateful.ensures_bind]
  unfold Stateful.Ensures
  cases validated : validateAcceptanceEvidence host session with
  | mk outcome middle =>
      rw [validated] at steady inScope
      cases outcome with
      | error signal =>
          show middle.package.stage ≠ .regressionVerify
          rw [steady.stage]
          exact verified
      | ok _ =>
          have kind : middle.package.kind ≠ .repositorySync := by
            rw [show middle.package.kind = session.package.kind from
              congrArg Progress.kind steady.progress]
            exact ordinary
          have mode : middle.package.executionMode ≠ "aggregate" := by
            rw [show middle.package.executionMode = session.package.executionMode from
              congrArg Progress.executionMode steady.progress, standard]
            decide
          have finalizes : KeepsVerified (finalizePackage host) middle := by
            show KeepsVerified (if middle.package.kind = .repositorySync then _ else
              if middle.package.executionMode = "aggregate" then _ else _) middle
            rw [if_neg kind, if_neg mode]
            exact keepsVerified_finalizeStandardPackage inScope
          show Stateful.Ensures (finalizePackage host >>= fun _ => pure _) middle _ _
          rw [Stateful.ensures_bind]
          exact finalizes

theorem keepsVerified_handleStage {session : StageSession}
    (stage : session.package.stage = .readyToCommit)
    (standard : session.package.executionMode = "standard")
    (ordinary : session.package.kind ≠ .repositorySync)
    (kept : ¬ScopeRecovered host session) :
    (handleStage host session).2.package.stage ≠ .regressionVerify := by
  have commits := keepsVerified_readyToCommitStage stage standard ordinary kept
  have found : handlerOfStage host session.package.stage = some (readyToCommitStage host) := by
    rw [stage]
    rfl
  have handles : KeepsVerified (handleStage host) session := by
    unfold KeepsVerified handleStage
    rw [Stateful.ensures_bind, ensures_currentPackage, found]
    dsimp only
    rw [Stateful.ensures_bind]
    exact commits.mono (fun _ _ verified => verified) fun _ _ verified => verified
  unfold KeepsVerified Stateful.Ensures at handles
  cases ran : handleStage host session with
  | mk outcome after =>
      rw [ran] at handles
      cases outcome with
      | ok _ => exact handles
      | error _ => exact handles

end Commits

/-! ## The measure -/

/-- The stages that a package passes through which is processed as a whole. -/
def serialStages : List WorkPackageStage :=
  [.prepare, .implement, .fastVerify, .review, .fixReview, .regressionVerify, .finalReview,
    .readyToCommit, .completed]

/-- A package that is processed as a whole, with a verification left. -/
structure Progress.Serial (config : OrchestrationConfig) (progress : Progress) : Prop where
  stage : progress.stage ∈ serialStages
  standard : progress.executionMode = "standard"
  returns : progress.Returns
  counted : 0 ≤ progress.verificationAttempts
  within : progress.verificationAttempts < config.maxVerificationAttempts

/-- How often the findings of a review may still be repaired. -/
def repairBudget (config : OrchestrationConfig) (progress : Progress) : Nat :=
  ((config.maxReviewCycles : Int) - progress.reviewCycles).toNat +
    ((config.recoveryPlaybookPolicy.reviewExhausted.maxRescueCycles : Int) -
      progress.reviewRecoveryCycles).toNat

/-- How far a stage is away from the completion. -/
def stageDistance : WorkPackageStage → Nat
  | .fixReview | .regressionVerify => 6
  | .prepare => 5
  | .implement | .fastVerify => 4
  | .review => 3
  | .finalReview => 2
  | .readyToCommit => 1
  | _ => 0

/-- Within one distance an agent writes before the verification. -/
def pendingWrite : WorkPackageStage → Nat
  | .fixReview | .implement => 1
  | _ => 0

def verificationBudget (config : OrchestrationConfig) (progress : Progress) : Nat :=
  2 * ((config.maxVerificationAttempts : Int) - progress.verificationAttempts).toNat +
    pendingWrite progress.stage

/-- What the verifications of one distance can use up. -/
def distanceUnit (config : OrchestrationConfig) : Nat :=
  2 * config.maxVerificationAttempts + 2

/-- The measure: first the repairs, then the distance, then the verifications. -/
def stageBudget (config : OrchestrationConfig) (progress : Progress) : Nat :=
  repairBudget config progress * (5 * distanceUnit config) +
    stageDistance progress.stage * distanceUnit config +
    verificationBudget config progress

section Measure

variable {config : OrchestrationConfig} {progress target : Progress}

theorem verificationBudget_lt (config : OrchestrationConfig) {progress : Progress}
    (counted : 0 ≤ progress.verificationAttempts) :
    verificationBudget config progress < distanceUnit config := by
  have pending : pendingWrite progress.stage ≤ 1 := by
    cases progress.stage <;> decide
  unfold verificationBudget distanceUnit
  omega

theorem stageBudget_lt_of_verification
    (repairs : repairBudget config target = repairBudget config progress)
    (distance : stageDistance target.stage = stageDistance progress.stage)
    (spent : verificationBudget config target < verificationBudget config progress) :
    stageBudget config target < stageBudget config progress := by
  unfold stageBudget
  rw [repairs, distance]
  omega

theorem stageBudget_lt_of_distance
    (repairs : repairBudget config target = repairBudget config progress)
    (nearer : stageDistance target.stage < stageDistance progress.stage)
    (counted : 0 ≤ target.verificationAttempts) :
    stageBudget config target < stageBudget config progress := by
  have rest := verificationBudget_lt config counted
  have distance := Nat.mul_le_mul_right (distanceUnit config) nearer
  rw [Nat.succ_mul] at distance
  unfold stageBudget
  rw [repairs]
  omega

theorem stageBudget_lt_of_repair
    (spent : repairBudget config target < repairBudget config progress)
    (back : stageDistance target.stage ≤ stageDistance progress.stage + 4)
    (counted : 0 ≤ target.verificationAttempts) :
    stageBudget config target < stageBudget config progress := by
  have rest := verificationBudget_lt config counted
  have repairs := Nat.mul_le_mul_right (5 * distanceUnit config) spent
  have distance := Nat.mul_le_mul_right (distanceUnit config) back
  rw [Nat.succ_mul] at repairs
  rw [Nat.add_mul] at distance
  unfold stageBudget
  omega

end Measure

/-! ## What one execution spends -/

/-- One stage that was executed, with its milestones in the journal. -/
structure StageExecution where
  stage : WorkPackageStage
  milestones : List StageEvent

/-- The verifications that have failed in a row, after one more execution. -/
def StageExecution.failures (failures : Nat) (execution : StageExecution) : Nat :=
  if .verificationFailed ∈ execution.milestones then
    failures + 1
  else if .verificationPassed ∈ execution.milestones then
    0
  else
    failures

/-- The verifications that have failed in a row at the end. -/
def failureStreak (executed : List StageExecution) : Nat :=
  executed.foldl StageExecution.failures 0

def atRepair (stage : WorkPackageStage) : Nat :=
  if stage = .fixReview then 1 else 0

/-- A failed second verification that asks for a repair. -/
def drivesRepair (milestones : List StageEvent) : Nat :=
  if .stageTransition .regressionVerify .fixReview ∈ milestones then 1 else 0

/-- How often the stage of the repairs was executed. -/
def repairExecutions (executed : List StageExecution) : Nat :=
  (executed.map fun execution => atRepair execution.stage).sum

/-- How often a verification asked for a repair. -/
def drivenRepairs (executed : List StageExecution) : Nat :=
  (executed.map fun execution => drivesRepair execution.milestones).sum

/-- An execution brings the package on and is paid from the budgets. -/
structure Spends (config : OrchestrationConfig) (progress : Progress)
    (milestones : List StageEvent) (target : Progress) : Prop where
  serial : target.Serial config
  budget : stageBudget config target < stageBudget config progress
  repairs : atRepair target.stage + repairBudget config target ≤
    repairBudget config progress + drivesRepair milestones
  failures : ∀ failures : Nat, (failures : Int) ≤ progress.verificationAttempts →
    (StageExecution.failures failures ⟨progress.stage, milestones⟩ : Int) ≤
      target.verificationAttempts

namespace Spends

variable {config : OrchestrationConfig} {progress target : Progress}

/-- A change of stage towards the completion. -/
theorem ofNearer (next : WorkPackageStage) (status : String)
    (serial : progress.Serial config) (member : next ∈ serialStages)
    (nearer : stageDistance next < stageDistance progress.stage) :
    Spends config progress [.stageTransition progress.stage next]
      { progress with
        stage := next
        status := status } := by
  have away : next ≠ .fixReview := by
    intro same
    rw [same] at nearer
    have most : ∀ stage : WorkPackageStage, stageDistance stage ≤ 6 := by
      intro stage
      cases stage <;> decide
    exact absurd nearer (Nat.not_lt.mpr (most progress.stage))
  refine ⟨⟨member, serial.standard, serial.returns, serial.counted, serial.within⟩,
    stageBudget_lt_of_distance rfl nearer serial.counted, ?_, fun failures bounded => ?_⟩
  · show (if next = .fixReview then 1 else 0) + repairBudget config progress ≤ _
    rw [if_neg away]
    omega
  · simpa [StageExecution.failures] using bounded

/-- An agent has written; the verification of what it wrote comes next. -/
theorem ofWrite (next : WorkPackageStage) (serial : progress.Serial config)
    (member : next ∈ serialStages) (wrote : pendingWrite progress.stage = 1)
    (verifies : pendingWrite next = 0)
    (distance : stageDistance next = stageDistance progress.stage) :
    Spends config progress [.stageTransition progress.stage next]
      { progress with stage := next } := by
  have away : next ≠ .fixReview := by
    intro same
    rw [same] at verifies
    exact absurd verifies (by decide)
  refine ⟨⟨member, serial.standard, serial.returns, serial.counted, serial.within⟩,
    stageBudget_lt_of_verification rfl distance ?_, ?_, fun failures bounded => ?_⟩
  · unfold verificationBudget
    dsimp only
    omega
  · show (if next = .fixReview then 1 else 0) + repairBudget config progress ≤ _
    rw [if_neg away]
    omega
  · simpa [StageExecution.failures] using bounded

theorem ofPassed {next : WorkPackageStage} {attempts : Int}
    (serial : progress.Serial config)
    (stage : (progress.stage = .fastVerify ∧ next = .review) ∨
      (progress.stage = .regressionVerify ∧ next = .finalReview))
    (reset : attempts = 0 ∨ attempts = progress.verificationAttempts) :
    Spends config progress
      [.verificationPassed, .stageTransition progress.stage next]
      { progress with
        stage := next
        verificationAttempts := attempts } := by
  have bounds : 0 ≤ attempts ∧ attempts < config.maxVerificationAttempts := by
    have counted := serial.counted
    have within := serial.within
    omega
  have place : next ∈ serialStages ∧ next ≠ .fixReview ∧
      stageDistance next < stageDistance progress.stage := by
    rcases stage with ⟨fast, review⟩ | ⟨regression, final⟩
    · rw [fast, review]
      decide
    · rw [regression, final]
      decide
  refine ⟨⟨place.1, serial.standard, serial.returns, bounds.1, bounds.2⟩,
    stageBudget_lt_of_distance rfl place.2.2 bounds.1, ?_, fun failures bounded => ?_⟩
  · show (if next = .fixReview then 1 else 0) + repairBudget config progress ≤ _
    rw [if_neg place.2.1]
    omega
  · simpa [StageExecution.failures] using bounds.1

theorem ofFailed (serial : progress.Serial config)
    (stage : progress.stage = .fastVerify ∨ progress.stage = .regressionVerify)
    (within : progress.verificationAttempts + 1 < config.maxVerificationAttempts) :
    Spends config progress
      [.verificationFailed, .stageTransition progress.stage (retryStage progress)]
      { progress with
        stage := retryStage progress
        verificationAttempts := progress.verificationAttempts + 1 } := by
  have counted := serial.counted
  have more : 0 ≤ progress.verificationAttempts + 1 := by omega
  have fails : ∀ failures : Nat, (failures : Int) ≤ progress.verificationAttempts →
      (StageExecution.failures failures ⟨progress.stage,
        [.verificationFailed, .stageTransition progress.stage (retryStage progress)]⟩ :
          Int) ≤ progress.verificationAttempts + 1 := by
    intro failures bounded
    simpa [StageExecution.failures] using bounded
  have written : pendingWrite (retryStage progress) = 1 ∧
      pendingWrite progress.stage = 0 ∧ retryStage progress ∈ serialStages := by
    unfold retryStage
    rcases stage with fast | regression
    · rw [fast]
      simp [pendingWrite, serialStages]
    · rw [regression]
      split <;> simp [pendingWrite, serialStages]
  have spent : verificationBudget config
      { progress with
        stage := retryStage progress
        verificationAttempts := progress.verificationAttempts + 1 } <
      verificationBudget config progress := by
    unfold verificationBudget
    dsimp only
    rw [written.1, written.2.1]
    omega
  have budget : stageBudget config
      { progress with
        stage := retryStage progress
        verificationAttempts := progress.verificationAttempts + 1 } <
      stageBudget config progress := by
    by_cases distance : stageDistance (retryStage progress) = stageDistance progress.stage
    · exact stageBudget_lt_of_verification rfl distance spent
    · refine stageBudget_lt_of_distance rfl ?_ more
      show stageDistance (retryStage progress) < stageDistance progress.stage
      unfold retryStage at distance ⊢
      rcases stage with fast | regression
      · rw [fast] at distance
        refine absurd ?_ distance
        rw [if_neg fun sync => absurd sync.2 (by decide)]
        rfl
      · rw [regression] at distance ⊢
        split
        · next sync =>
            rw [if_pos sync] at distance
            exact absurd rfl distance
        · decide
  refine ⟨⟨written.2.2, serial.standard, serial.returns, more, within⟩, budget, ?_, fails⟩
  -- only a second verification sends the package to a repair
  show atRepair (retryStage progress) + repairBudget config progress ≤
    repairBudget config progress + drivesRepair _
  by_cases repairs : retryStage progress = .fixReview
  · have second : progress.stage = .regressionVerify := by
      by_contra other
      unfold retryStage at repairs
      rw [if_neg fun sync => other sync.2] at repairs
      exact absurd repairs (by decide)
    rw [repairs, second]
    unfold atRepair drivesRepair
    simp
    omega
  · rw [atRepair, if_neg repairs]
    omega

end Spends

section Spends

variable {config : OrchestrationConfig} {progress target : Progress}
  {milestones : List StageEvent}

theorem RepairQueued.spends (serial : progress.Serial config)
    (stage : progress.stage = .review ∨ progress.stage = .finalReview)
    (queued : RepairQueued config progress target) :
    Spends config progress [.stageTransition progress.stage .fixReview] target := by
  have back : 6 ≤ stageDistance progress.stage + 4 := by
    rcases stage with review | final
    · rw [review]
      decide
    · rw [final]
      decide
  have member : WorkPackageStage.fixReview ∈ serialStages := by decide
  cases queued with
  | ordinary within =>
      have spent : repairBudget config
          { progress with
            stage := .fixReview
            reviewCycles := progress.reviewCycles + 1 } + 1 ≤
          repairBudget config progress := by
        unfold repairBudget
        dsimp only
        omega
      refine ⟨⟨member, serial.standard, serial.returns, serial.counted, serial.within⟩,
        stageBudget_lt_of_repair spent back serial.counted, ?_, fun failures bounded => ?_⟩
      · show 1 + repairBudget config _ ≤ _
        omega
      · simpa [StageExecution.failures] using bounded
  | rescue exhausted within =>
      have spent : repairBudget config
          { progress with
            stage := .fixReview
            status := "pending"
            reviewCycles := progress.reviewCycles + 1
            reviewRecoveryCycles := progress.reviewRecoveryCycles + 1 } + 1 ≤
          repairBudget config progress := by
        unfold repairBudget
        dsimp only
        omega
      refine ⟨⟨member, serial.standard, serial.returns, serial.counted, serial.within⟩,
        stageBudget_lt_of_repair spent back serial.counted, ?_, fun failures bounded => ?_⟩
      · show 1 + repairBudget config _ ≤ _
        omega
      · simpa [StageExecution.failures] using bounded

/-- Every move of a package that is processed as a whole is paid, but for the recovery. -/
theorem StageMove.spends {disposition : StageDisposition}
    (move : StageMove config progress milestones (.handled disposition) target)
    (serial : progress.Serial config)
    (kept : progress.stage = .readyToCommit → target.stage ≠ .regressionVerify) :
    Spends config progress milestones target := by
  have whole : progress.stage ≠ .decompose := by
    intro decomposing
    have member := serial.stage
    rw [decomposing] at member
    exact absurd member (by decide)
  generalize ended : StageOutcome.handled disposition = outcome at move
  cases move with
  | interrupted signal => cases signal <;> cases ended
  | prepared stage =>
      have spends := Spends.ofNearer .implement progress.status serial
        (by decide) (by rw [stage]; decide)
      rw [stage] at spends
      exact spends
  | implemented stage =>
      have spends := Spends.ofWrite .fastVerify serial (by decide)
        (by rw [stage]; decide) (by decide) (by rw [stage]; decide)
      rw [stage] at spends
      exact spends
  | verified next attempts stage reset => exact Spends.ofPassed serial stage reset
  | verifiedUnmarked => cases ended
  | verificationFailed stage within => exact Spends.ofFailed serial stage within
  | verificationExhausted => cases ended
  | shardReviewed stage =>
      have spends := Spends.ofNearer .completed "completed" serial
        (by decide) (by rw [stage]; decide)
      rw [stage] at spends
      exact spends
  | repairQueued _ stage queued => exact queued.spends serial stage
  | reviewExhausted => cases ended
  | approved next stage after =>
      have place : next ∈ serialStages ∧ stageDistance next < stageDistance .review := by
        rcases after with final | ready
        · rw [final]
          decide
        · rw [ready]
          decide
      have spends := Spends.ofNearer next progress.status serial place.1
        (by rw [stage]; exact place.2)
      rw [stage] at spends
      exact spends
  | repaired stage =>
      have spends := Spends.ofWrite .regressionVerify serial (by decide)
        (by rw [stage]; decide) (by decide) (by rw [stage]; decide)
      rw [stage] at spends
      exact spends
  | finallyApproved stage =>
      have spends := Spends.ofNearer .readyToCommit progress.status serial
        (by decide) (by rw [stage]; decide)
      rw [stage] at spends
      exact spends
  | committed stage =>
      have spends := Spends.ofNearer .completed "completed" serial
        (by decide) (by rw [stage]; decide)
      rw [stage] at spends
      exact spends
  | rewound _ stage => exact absurd rfl (kept stage)
  | keptWhole _ stage => exact absurd stage whole
  | keptWholeBlocked signal => cases signal <;> cases ended
  | expanded _ _ stage => exact absurd stage whole
  | expandedBlocked signal => cases signal <;> cases ended

/-- A move that ends the processing is preceded by few failures. -/
theorem StageMove.failures_le (move : StageMove config progress milestones .stopped target)
    (serial : progress.Serial config) {failures : Nat}
    (bounded : (failures : Int) ≤ progress.verificationAttempts) :
    StageExecution.failures failures ⟨progress.stage, milestones⟩ ≤
      config.maxVerificationAttempts := by
  have within := serial.within
  have fewer : failures ≤ config.maxVerificationAttempts := by omega
  have whole : progress.stage ≠ .decompose := by
    intro decomposing
    have member := serial.stage
    rw [decomposing] at member
    exact absurd member (by decide)
  have unfailed : .verificationFailed ∉ milestones →
      StageExecution.failures failures ⟨progress.stage, milestones⟩ ≤
        config.maxVerificationAttempts := by
    intro absent
    unfold StageExecution.failures
    rw [if_neg absent]
    split <;> omega
  generalize ended : StageOutcome.stopped = outcome at move
  cases move with
  | interrupted => exact unfailed (by simp)
  | prepared => cases ended
  | implemented => cases ended
  | verified => cases ended
  | verifiedUnmarked => exact unfailed (by simp)
  | verificationFailed => cases ended
  | verificationExhausted =>
      unfold StageExecution.failures
      rw [if_pos (by simp)]
      omega
  | shardReviewed => cases ended
  | repairQueued => cases ended
  | reviewExhausted => exact unfailed (by simp)
  | approved => cases ended
  | repaired => cases ended
  | finallyApproved => cases ended
  | committed => cases ended
  | rewound => exact unfailed (by simp)
  | keptWhole _ stage => exact absurd stage whole
  | keptWholeBlocked _ stage => exact absurd stage whole
  | expanded _ _ stage => exact absurd stage whole
  | expandedBlocked _ _ stage => exact absurd stage whole

theorem StageMove.waits (move : StageMove config progress milestones .waiting target)
    (serial : progress.Serial config)
    (kept : progress.stage = .readyToCommit → target.stage ≠ .regressionVerify) :
    target = progress ∧ milestones = [] := by
  have whole : progress.stage ≠ .decompose := by
    intro decomposing
    have member := serial.stage
    rw [decomposing] at member
    exact absurd member (by decide)
  generalize ended : StageOutcome.waiting = outcome at move
  cases move with
  | interrupted => exact ⟨rfl, rfl⟩
  | rewound _ stage => exact absurd rfl (kept stage)
  | keptWholeBlocked _ stage => exact absurd stage whole
  | expandedBlocked _ _ stage => exact absurd stage whole
  | _ => cases ended

/-- Only a package that is not a synchronization is sent back from its commit. -/
theorem StageMove.ordinary_of_rewound {outcome : StageOutcome}
    (move : StageMove config progress milestones outcome target)
    (stage : progress.stage = .readyToCommit) (back : target.stage = .regressionVerify) :
    progress.kind ≠ .repositorySync := by
  intro sync
  cases move with
  | rewound _ _ _ ordinary => exact ordinary sync
  | interrupted => exact absurd (stage.symm.trans back) (by decide)
  | verified _ _ verifying =>
      rcases verifying with ⟨fast, _⟩ | ⟨regression, _⟩
      · exact absurd (stage.symm.trans fast) (by decide)
      · exact absurd (stage.symm.trans regression) (by decide)
  | verifiedUnmarked => exact absurd (stage.symm.trans back) (by decide)
  | verificationFailed verifying =>
      rcases verifying with fast | regression
      · exact absurd (stage.symm.trans fast) (by decide)
      · exact absurd (stage.symm.trans regression) (by decide)
  | verificationExhausted => exact absurd (stage.symm.trans back) (by decide)
  | repairQueued _ reviewing =>
      rcases reviewing with review | final
      · exact absurd (stage.symm.trans review) (by decide)
      · exact absurd (stage.symm.trans final) (by decide)
  | reviewExhausted => exact absurd (stage.symm.trans back) (by decide)
  | committed => exact absurd back (by simp)
  | prepared other => exact absurd (stage.symm.trans other) (by decide)
  | implemented other => exact absurd (stage.symm.trans other) (by decide)
  | shardReviewed other => exact absurd (stage.symm.trans other) (by decide)
  | approved _ other => exact absurd (stage.symm.trans other) (by decide)
  | repaired other => exact absurd (stage.symm.trans other) (by decide)
  | finallyApproved other => exact absurd (stage.symm.trans other) (by decide)
  | keptWhole _ other => exact absurd (stage.symm.trans other) (by decide)
  | keptWholeBlocked _ other => exact absurd (stage.symm.trans other) (by decide)
  | expanded _ _ other => exact absurd (stage.symm.trans other) (by decide)
  | expandedBlocked _ _ other => exact absurd (stage.symm.trans other) (by decide)

/-- A stage of a synchronization before its verification is paid as well. -/
theorem EntryMove.spends (move : EntryMove progress milestones target)
    (serial : progress.Serial config) (whole : target.stage ≠ .decompose) :
    (milestones = [] ∧ target = progress) ∨
      ∃ next, milestones = [.stageTransition progress.stage next] ∧
        Spends config progress milestones target := by
  cases move with
  | steady => exact Or.inl ⟨rfl, rfl⟩
  | prepared next _ stage after =>
      have place : next ∈ serialStages ∧ stageDistance next < stageDistance .prepare := by
        rcases after with implementing | verifying
        · rw [implementing]
          decide
        · rw [verifying]
          decide
      have spends := Spends.ofNearer next progress.status serial place.1
        (by rw [stage]; exact place.2)
      rw [stage] at spends ⊢
      exact Or.inr ⟨next, rfl, spends⟩
  | resolved _ stage =>
      have spends := Spends.ofWrite .fastVerify serial (by decide)
        (by rw [stage]; decide) (by decide) (by rw [stage]; decide)
      rw [stage] at spends ⊢
      exact Or.inr ⟨.fastVerify, rfl, spends⟩
  | required => exact absurd rfl whole
  | automatic => exact absurd rfl whole

end Spends

/-! ## Serial runs -/

/-- The milestones that were written in between. -/
def newMilestones (before after : StageSession) : List StageEvent :=
  after.milestones.drop before.milestones.length

/-- An escalation or an error ends the processing; a wait for an agent does not. -/
def isFinal {Value : Type} : Except StageSignal Value → Bool
  | .ok _ | .error .agentWaitRequested => false
  | .error _ => true

/-- The stages that were executed before the loop: one for each of its milestones. -/
def enteredStages (milestones : List StageEvent) : List StageExecution :=
  milestones.filterMap fun milestone =>
    milestone.transition?.map fun edge => ⟨edge.1, [milestone]⟩

/-- A stage that waits for an agent was not executed. -/
def executedStage {Value : Type} (outcome : Except StageSignal Value)
    (before after : StageSession) : List StageExecution :=
  match outcome with
  | .error .agentWaitRequested => []
  | _ => [⟨before.package.stage, newMilestones before after⟩]

/-- The serial processing of a package that is not decomposed: the stages that were
executed, and whether an escalation or an error has ended it.  Between two of its
dispatches anything may happen elsewhere. -/
inductive SerialRun (host : Host) (commits : StageSession → Prop) (first : StageSession) :
    List StageExecution → Bool → StageSession → Prop where
  | start : SerialRun host commits first [] false first
  | elsewhere {executed : List StageExecution} {session after : StageSession}
      (run : SerialRun host commits first executed false session)
      (package : after.package = session.package)
      (events : after.events = session.events) :
      SerialRun host commits first executed false after
  | begins {executed : List StageExecution} {session after : StageSession}
      {outcome : Except StageSignal Unit} {ended : Bool}
      (run : SerialRun host commits first executed false session)
      (unfinished : session.package.stage ≠ .completed)
      (begun : beginProcessing host session = (outcome, after))
      (whole : after.package.stage ≠ .decompose) (final : isFinal outcome = ended) :
      SerialRun host commits first
        (executed ++ enteredStages (newMilestones session after) ++
          if ended = true then [⟨after.package.stage, []⟩] else []) ended after
  | handles {executed : List StageExecution} {session after : StageSession}
      {outcome : Except StageSignal Bool} {ended : Bool}
      (run : SerialRun host commits first executed false session)
      (unfinished : session.package.stage ≠ .completed)
      (handled : handleStage host session = (outcome, after))
      (final : isFinal outcome = ended) (kept : ended = false → commits session) :
      SerialRun host commits first (executed ++ executedStage outcome session after)
        ended after

/-- What a package has spent on the stages that were executed. -/
structure SerialProgress (config : OrchestrationConfig) (first : Progress)
    (executed : List StageExecution) (progress : Progress) : Prop where
  serial : progress.Serial config
  budget : executed.length + stageBudget config progress ≤ stageBudget config first
  repairs : repairExecutions executed + atRepair progress.stage +
      repairBudget config progress ≤
    atRepair first.stage + repairBudget config first + drivenRepairs executed
  failures : (failureStreak executed : Int) ≤ progress.verificationAttempts

/-- What holds when the processing has ended. -/
structure SerialEnd (config : OrchestrationConfig) (first : Progress)
    (executed : List StageExecution) : Prop where
  budget : executed.length ≤ stageBudget config first + 1
  repairs : repairExecutions executed ≤
    atRepair first.stage + repairBudget config first + drivenRepairs executed
  failures : failureStreak executed ≤ config.maxVerificationAttempts

theorem repairExecutions_append (executed more : List StageExecution) :
    repairExecutions (executed ++ more) =
      repairExecutions executed + repairExecutions more := by
  unfold repairExecutions
  rw [List.map_append, List.sum_append]

theorem drivenRepairs_append (executed more : List StageExecution) :
    drivenRepairs (executed ++ more) = drivenRepairs executed + drivenRepairs more := by
  unfold drivenRepairs
  rw [List.map_append, List.sum_append]

theorem failureStreak_concat (executed : List StageExecution) (execution : StageExecution) :
    failureStreak (executed ++ [execution]) =
      StageExecution.failures (failureStreak executed) execution := by
  unfold failureStreak
  rw [List.foldl_append]
  rfl

theorem newMilestones_eq {before after : StageSession} {milestones : List StageEvent}
    (grown : after.milestones = before.milestones ++ milestones) :
    newMilestones before after = milestones := by
  unfold newMilestones
  rw [grown, List.drop_left]

section SerialProgress

variable {config : OrchestrationConfig} {first progress target : Progress}
  {executed : List StageExecution} {milestones : List StageEvent}

theorem SerialProgress.start (serial : first.Serial config) :
    SerialProgress config first [] first := by
  refine ⟨serial, ?_, ?_, serial.counted⟩
  · rw [List.length_nil]
    omega
  · show 0 + atRepair first.stage + repairBudget config first ≤
      atRepair first.stage + repairBudget config first + 0
    omega

theorem SerialProgress.step (run : SerialProgress config first executed progress)
    (spends : Spends config progress milestones target) :
    SerialProgress config first (executed ++ [⟨progress.stage, milestones⟩]) target := by
  have budget := run.budget
  have repairs := run.repairs
  have spentBudget := spends.budget
  have spentRepairs := spends.repairs
  refine ⟨spends.serial, ?_, ?_, ?_⟩
  · rw [List.length_append, List.length_singleton]
    omega
  · rw [repairExecutions_append, drivenRepairs_append]
    show _ + (atRepair progress.stage + 0) + _ + _ ≤ _ + (_ + (drivesRepair milestones + 0))
    omega
  · rw [failureStreak_concat]
    exact spends.failures _ run.failures

/-- The last execution may be one more than the measure allows. -/
theorem SerialProgress.stop (run : SerialProgress config first executed progress)
    (failures : StageExecution.failures (failureStreak executed)
      ⟨progress.stage, milestones⟩ ≤ config.maxVerificationAttempts) :
    SerialEnd config first (executed ++ [⟨progress.stage, milestones⟩]) := by
  have budget := run.budget
  have repairs := run.repairs
  refine ⟨?_, ?_, ?_⟩
  · rw [List.length_append, List.length_singleton]
    omega
  · rw [repairExecutions_append, drivenRepairs_append]
    show _ + (atRepair progress.stage + 0) ≤ _
    omega
  · rw [failureStreak_concat]
    exact failures

theorem SerialProgress.ended (run : SerialProgress config first executed progress) :
    SerialEnd config first executed := by
  have budget := run.budget
  have repairs := run.repairs
  have failures := run.failures
  have within := run.serial.within
  exact ⟨by omega, by omega, by omega⟩

end SerialProgress

section Runs

variable {host : Host} {first session after : StageSession}
  {executed : List StageExecution}

theorem EntryMove.stays {progress target : Progress} {milestones : List StageEvent}
    (move : EntryMove progress milestones target) (decomposing : progress.stage = .decompose) :
    target.stage = .decompose := by
  cases move with
  | steady => exact decomposing
  | prepared _ _ stage => exact absurd (decomposing.symm.trans stage) (by decide)
  | resolved _ stage => exact absurd (decomposing.symm.trans stage) (by decide)
  | required => rfl
  | automatic => rfl

/-- Entering the stages is paid, unless the package is decomposed. -/
theorem Enters.spends {before after : StageSession} (enters : Enters before after)
    (whole : after.package.stage ≠ .decompose) :
    ∃ milestones, after.milestones = before.milestones ++ milestones ∧
      ∀ (config : OrchestrationConfig) (first : Progress) (executed : List StageExecution),
        SerialProgress config first executed before.package.progress →
          SerialProgress config first (executed ++ enteredStages milestones)
            after.package.progress := by
  induction enters with
  | refl =>
      refine ⟨[], (List.append_nil _).symm, fun config first executed run => ?_⟩
      rw [show enteredStages [] = [] from rfl, List.append_nil]
      exact run
  | tail _ step inductionHypothesis =>
      obtain ⟨trace, target, move, moves⟩ := step
      rw [moves.stage] at whole
      obtain ⟨milestones, grown, pays⟩ := inductionHypothesis
        fun decomposing => whole (move.stays decomposing)
      refine ⟨milestones ++ trace, ?_, fun config first executed run => ?_⟩
      · rw [moves.milestones, grown, List.append_assoc]
      have paid := pays config first executed run
      rw [moves.progress]
      rcases move.spends paid.serial whole with ⟨silent, same⟩ | ⟨next, edge, spends⟩
      · rw [silent, same, List.append_nil]
        exact paid
      · have stepped := paid.step spends
        rw [edge] at stepped ⊢
        rw [enteredStages, List.filterMap_append, ← List.append_assoc]
        exact stepped

theorem handler_of_serial (host : Host) {config : OrchestrationConfig} {progress : Progress}
    (serial : progress.Serial config) (unfinished : progress.stage ≠ .completed) :
    (handlerOfStage host progress.stage).isSome = true := by
  have member := serial.stage
  revert member unfinished
  generalize progress.stage = stage
  intro unfinished member
  cases stage with
  | decompose => exact absurd member (by decide)
  | targetedVerify => exact absurd member (by decide)
  | fullVerify => exact absurd member (by decide)
  | completed => exact absurd rfl unfinished
  | _ => rfl

/-- Outside of a recovery the commit does not lead back. -/
theorem commit_kept {outcome : StageOutcome} {milestones : List StageEvent}
    {target : Progress} (serial : session.package.progress.Serial host.config)
    (kept : ¬ScopeRecovered host session)
    (move : StageMove host.config session.package.progress milestones outcome target)
    (reached : (handleStage host session).2.package.stage = target.stage) :
    session.package.progress.stage = .readyToCommit → target.stage ≠ .regressionVerify := by
  intro stage back
  have ordinary := move.ordinary_of_rewound stage back
  exact keepsVerified_handleStage stage serial.standard ordinary kept (reached.trans back)

theorem SerialProgress.handles {outcome : Except StageSignal Bool}
    (run : SerialProgress host.config first.package.progress executed
      session.package.progress)
    (unfinished : session.package.stage ≠ .completed)
    (handled : handleStage host session = (outcome, after))
    (kept : isFinal outcome = false → ¬ScopeRecovered host session) :
    (isFinal outcome = false → SerialProgress host.config first.package.progress
      (executed ++ executedStage outcome session after) after.package.progress) ∧
    SerialEnd host.config first.package.progress
      (executed ++ executedStage outcome session after) := by
  have ensures : Stateful.Ensures (handleStage host) session _ _ :=
    ensures_handleStage run.serial.returns
  have reached : (handleStage host session).2 = after := by rw [handled]
  unfold Stateful.Ensures at ensures
  rw [handled] at ensures
  cases outcome with
  | ok goesOn =>
      rcases ensures with ⟨_, _, absent⟩ | ⟨disposition, reaches, _⟩
      · have present := handler_of_serial host run.serial unfinished
        rw [show session.package.progress.stage = session.package.stage from rfl, absent]
          at present
        exact absurd present Bool.false_ne_true
      · obtain ⟨milestones, target, move, moves⟩ := reaches
        have stays := commit_kept run.serial (kept rfl) move (by rw [reached, moves.stage])
        have stepped := run.step (move.spends run.serial stays)
        rw [← moves.progress] at stepped
        unfold executedStage
        rw [newMilestones_eq moves.milestones]
        exact ⟨fun _ => stepped, stepped.ended⟩
  | error signal =>
      obtain ⟨milestones, target, move, moves⟩ := ensures
      cases signal with
      | agentWaitRequested =>
          have stays := commit_kept run.serial (kept rfl) move (by rw [reached, moves.stage])
          have waited := (move.waits run.serial stays).1
          have same : after.package.progress = session.package.progress :=
            moves.progress.trans waited
          show (_ → SerialProgress _ _ (executed ++ []) _) ∧ SerialEnd _ _ (executed ++ [])
          rw [List.append_nil, same]
          exact ⟨fun _ => run, run.ended⟩
      | stageEscalated =>
          refine ⟨fun running => absurd running (by decide), ?_⟩
          unfold executedStage
          rw [newMilestones_eq moves.milestones]
          exact run.stop (move.failures_le run.serial run.failures)
      | failed error =>
          refine ⟨fun running => absurd running.symm Bool.false_ne_true, ?_⟩
          unfold executedStage
          rw [newMilestones_eq moves.milestones]
          exact run.stop (move.failures_le run.serial run.failures)

theorem SerialProgress.begins {outcome : Except StageSignal Unit} {ended : Bool}
    (run : SerialProgress host.config first.package.progress executed
      session.package.progress)
    (begun : beginProcessing host session = (outcome, after))
    (whole : after.package.stage ≠ .decompose) :
    (ended = false → SerialProgress host.config first.package.progress
      (executed ++ enteredStages (newMilestones session after) ++
        if ended = true then [⟨after.package.stage, []⟩] else []) after.package.progress) ∧
    SerialEnd host.config first.package.progress
      (executed ++ enteredStages (newMilestones session after) ++
        if ended = true then [⟨after.package.stage, []⟩] else []) := by
  have enters : Enters session after := by
    have ensures : Stateful.Ensures (beginProcessing host) session _ _ :=
      enters_beginProcessing session
    unfold Stateful.Ensures at ensures
    rw [begun] at ensures
    cases outcome with
    | ok _ => exact ensures
    | error _ => exact ensures
  obtain ⟨milestones, grown, pays⟩ := enters.spends whole
  rw [newMilestones_eq grown]
  have paid := pays _ _ _ run
  cases ended with
  | false =>
      rw [if_neg Bool.false_ne_true, List.append_nil]
      exact ⟨fun _ => paid, paid.ended⟩
  | true =>
      rw [if_pos rfl]
      refine ⟨fun running => absurd running.symm Bool.false_ne_true, ?_⟩
      have failures := paid.failures
      have within := paid.serial.within
      refine paid.stop ?_
      show failureStreak _ ≤ _
      omega

/-- In every run the budgets pay for the stages that were executed. -/
theorem SerialRun.progress {ended : Bool}
    (serial : first.package.progress.Serial host.config)
    (run : SerialRun host (fun session => ¬ScopeRecovered host session) first executed ended
      session) :
    (ended = false → SerialProgress host.config first.package.progress executed
      session.package.progress) ∧
    SerialEnd host.config first.package.progress executed := by
  induction run with
  | start =>
      have started := SerialProgress.start serial
      exact ⟨fun _ => started, started.ended⟩
  | elsewhere _ package _ inductionHypothesis =>
      rw [package]
      exact inductionHypothesis
  | begins _ _ begun whole _ inductionHypothesis =>
      exact (inductionHypothesis.1 rfl).begins begun whole
  | handles _ unfinished handled final kept inductionHypothesis =>
      rw [← final] at kept ⊢
      exact (inductionHypothesis.1 rfl).handles unfinished handled kept

/-! ## The bound -/

/-- A package as a plan brings it into the record. -/
structure Progress.Fresh (progress : Progress) : Prop where
  stage : progress.stage = .prepare
  standard : progress.executionMode = "standard"
  unverified : progress.verificationAttempts = 0
  unreviewed : progress.reviewCycles = 0
  unrescued : progress.reviewRecoveryCycles = 0
  undecomposed : progress.decompositionOriginStage = ""

theorem Progress.Fresh.serial {config : OrchestrationConfig} {progress : Progress}
    (fresh : progress.Fresh) (positive : 1 ≤ config.maxVerificationAttempts) :
    progress.Serial config := by
  have unverified := fresh.unverified
  refine ⟨by rw [fresh.stage]; decide, fresh.standard, ?_, by omega, by omega⟩
  unfold Progress.Returns Progress.origin?
  rw [fresh.undecomposed]
  decide

/-- The repairs that the configuration allows. -/
def allowedRepairs (config : OrchestrationConfig) : Nat :=
  config.maxReviewCycles + config.recoveryPlaybookPolicy.reviewExhausted.maxRescueCycles

/-- How many stages a package executes at most. -/
def executionBound (config : OrchestrationConfig) : Nat :=
  (allowedRepairs config + 1) * (5 * distanceUnit config) +
    2 * config.maxVerificationAttempts

theorem Progress.Fresh.repairBudget {config : OrchestrationConfig} {progress : Progress}
    (fresh : progress.Fresh) : repairBudget config progress = allowedRepairs config := by
  unfold Orchestrate.repairBudget allowedRepairs
  rw [fresh.unreviewed, fresh.unrescued]
  omega

theorem Progress.Fresh.stageBudget {config : OrchestrationConfig} {progress : Progress}
    (fresh : progress.Fresh) : stageBudget config progress = executionBound config := by
  unfold Orchestrate.stageBudget executionBound verificationBudget
  rw [fresh.repairBudget, fresh.stage, fresh.unverified, Nat.add_mul]
  show _ + 5 * distanceUnit config + (2 * _ + 0) = _
  omega

/-- Where a measure has come down at the same stage, one of the counters has gone up. -/
theorem spent_of_stageBudget_lt {config : OrchestrationConfig} {progress target : Progress}
    (less : stageBudget config target < stageBudget config progress)
    (same : target.stage = progress.stage) :
    progress.reviewCycles < target.reviewCycles ∨
      progress.reviewRecoveryCycles < target.reviewRecoveryCycles ∨
      progress.verificationAttempts < target.verificationAttempts := by
  by_contra unspent
  have cycles : target.reviewCycles ≤ progress.reviewCycles := by omega
  have rescues : target.reviewRecoveryCycles ≤ progress.reviewRecoveryCycles := by omega
  have attempts : target.verificationAttempts ≤ progress.verificationAttempts := by omega
  have repairs : repairBudget config progress ≤ repairBudget config target := by
    unfold repairBudget
    omega
  have verifications : verificationBudget config progress ≤
      verificationBudget config target := by
    unfold verificationBudget
    rw [same]
    omega
  have paid := Nat.mul_le_mul_right (5 * distanceUnit config) repairs
  unfold stageBudget at less
  rw [same] at less
  omega

/-- The stages that were executed are paid from the budgets, and the next one can be. -/
structure WithinBudgets (host : Host) (commits : StageSession → Prop)
    (executed : List StageExecution) (ended : Bool) (session : StageSession) : Prop where
  bounded : executed.length ≤ executionBound host.config + 1
  advances : ended = false → session.package.stage ≠ .completed →
    executed.length < executionBound host.config ∧
      (handlerOfStage host session.package.stage).isSome = true
  repairs : repairExecutions executed ≤
    allowedRepairs host.config + drivenRepairs executed
  verifications : failureStreak executed ≤ host.config.maxVerificationAttempts
  cycles : ∀ (more : List StageExecution) (after : StageSession), ended = false →
    more ≠ [] → SerialRun host commits session more false after →
      after.package.stage = session.package.stage →
        session.package.runtime.reviewCycles < after.package.runtime.reviewCycles ∨
          session.package.runtime.reviewRecoveryCycles <
            after.package.runtime.reviewRecoveryCycles ∨
          session.package.runtime.verificationAttempts <
            after.package.runtime.verificationAttempts

/-- Nothing is recovered where the configuration does not recover. -/
theorem not_scopeRecovered (disabled : ¬host.config.recoversScope)
    (session : StageSession) : ¬ScopeRecovered host session := by
  rintro ⟨stage, _, back⟩
  have steady : Steady session (validateAcceptanceEvidence host session).2 :=
    isSteady_validateAcceptanceEvidence session
  have ready := steady.stage.trans stage
  have prepares : Stateful.Ensures (prepareCommitScope host) _ _ _ :=
    ensures_prepareCommitScope ready
  revert back prepares
  generalize (validateAcceptanceEvidence host session).2 = middle at ready
  intro back prepares
  have stays : ∀ after, Steady middle after → after.package.stage ≠ .regressionVerify := by
    intro after kept
    rw [kept.stage, ready]
    decide
  unfold Stateful.Ensures at prepares
  cases ran : prepareCommitScope host middle with
  | mk outcome after =>
      rw [ran] at back prepares
      cases outcome with
      | ok prepared =>
          cases prepared with
          | true => exact stays after prepares back
          | false => exact disabled prepares.1
      | error _ =>
          rcases prepares with kept | ⟨recovers, _⟩
          · exact stays after kept back
          · exact disabled recovers

/-! ## Dispatches -/

/-- The stages that the loop executes. -/
def executedStages (host : Host) : Nat → StageSession → List StageExecution
  | 0, _ => []
  | rounds + 1, session =>
      executedStage (handleStage host session).1 session (handleStage host session).2 ++
        match (handleStage host session).1 with
        | .ok true => executedStages host rounds (handleStage host session).2
        | _ => []

/-- The stages that one dispatch of a package executes. -/
def dispatchedStages (host : Host) (rounds : Nat) (session : StageSession) :
    List StageExecution :=
  enteredStages (newMilestones session (beginProcessing host session).2) ++
    match (beginProcessing host session).1 with
    | .ok _ => executedStages host rounds (beginProcessing host session).2
    | .error .agentWaitRequested => []
    | .error _ => [⟨(beginProcessing host session).2.package.stage, []⟩]

theorem StageMove.proceeds {config : OrchestrationConfig} {progress target : Progress}
    {milestones : List StageEvent}
    (move : StageMove config progress milestones (.handled .proceed) target)
    (returns : progress.Returns) : target.stage ≠ .completed := by
  generalize ended : StageOutcome.handled .proceed = outcome at move
  cases move with
  | interrupted signal => cases signal <;> cases ended
  | keptWholeBlocked signal => cases signal <;> cases ended
  | expandedBlocked signal => cases signal <;> cases ended
  | verified next _ stage =>
      rcases stage with ⟨_, review⟩ | ⟨_, final⟩
      · rw [review]
        simp
      · rw [final]
        simp
  | repairQueued _ _ queued => cases queued <;> simp
  | approved next _ after =>
      rcases after with final | ready
      · rw [final]
        simp
      · rw [ready]
        simp
  | keptWhole origin _ origins =>
      intro completed
      rw [show origin = .completed from completed] at origins
      exact returns.1 origins
  | rewound => simp
  | prepared => simp
  | implemented => simp
  | repaired => simp
  | finallyApproved => simp
  | _ => cases ended

variable {commits : StageSession → Prop}

/-- The loop over the stages is a serial run. -/
theorem SerialRun.handleStages (kept : ∀ session, commits session) (rounds : Nat)
    (run : SerialRun host commits first executed false session)
    (unfinished : session.package.stage ≠ .completed)
    (returns : session.package.progress.Returns) :
    SerialRun host commits first (executed ++ executedStages host rounds session)
      (isFinal (handleStages host rounds session).1)
      (handleStages host rounds session).2 := by
  induction rounds generalizing executed session with
  | zero =>
      rw [show executedStages host 0 session = [] from rfl, List.append_nil]
      exact run
  | succ rounds inductionHypothesis =>
      have ensures : Stateful.Ensures (handleStage host) session _ _ :=
        ensures_handleStage returns
      show SerialRun host commits first
        (executed ++ (executedStage (handleStage host session).1 session
          (handleStage host session).2 ++ match (handleStage host session).1 with
            | .ok true => executedStages host rounds (handleStage host session).2
            | _ => []))
        (isFinal ((Orchestrate.handleStage host >>= fun goesOn =>
          if goesOn then Orchestrate.handleStages host rounds else pure true) session).1)
        ((Orchestrate.handleStage host >>= fun goesOn =>
          if goesOn then Orchestrate.handleStages host rounds else pure true) session).2
      rw [Stateful.bind_apply, ← List.append_assoc]
      unfold Stateful.Ensures at ensures
      cases ran : handleStage host session with
      | mk outcome after =>
          rw [ran] at ensures
          have step := run.handles unfinished ran rfl fun _ => kept session
          cases outcome with
          | error signal =>
              rw [List.append_nil]
              exact step
          | ok goesOn =>
              cases goesOn with
              | false =>
                  rw [List.append_nil]
                  exact step
              | true =>
                  rcases ensures with ⟨stops, _⟩ | ⟨disposition, reaches, goes⟩
                  · exact absurd stops.symm Bool.false_ne_true
                  · have proceeds := (of_decide_eq_true goes.symm).1
                    rw [proceeds] at reaches
                    have returned := reaches.returns returns
                    obtain ⟨milestones, target, move, moves⟩ := reaches
                    have further : after.package.stage ≠ .completed := by
                      rw [moves.stage]
                      exact move.proceeds returns
                    exact inductionHypothesis step further returned

/-- Each dispatch of a package that is not decomposed is a serial run. -/
theorem SerialRun.processPackage (kept : ∀ session, commits session) (rounds : Nat)
    (run : SerialRun host commits first executed false session)
    (unfinished : session.package.stage ≠ .completed)
    (returns : session.package.progress.Returns)
    (whole : (beginProcessing host session).2.package.stage ≠ .decompose) :
    SerialRun host commits first (executed ++ dispatchedStages host rounds session)
      (isFinal (processPackage host rounds session).1)
      (processPackage host rounds session).2 := by
  have ensures : Stateful.Ensures (beginProcessing host) session _ _ :=
    enters_beginProcessing session
  show SerialRun host commits first
    (executed ++ (enteredStages (newMilestones session (beginProcessing host session).2) ++
      match (beginProcessing host session).1 with
      | .ok _ => executedStages host rounds (beginProcessing host session).2
      | .error .agentWaitRequested => []
      | .error _ => [⟨(beginProcessing host session).2.package.stage, []⟩]))
    (isFinal ((beginProcessing host >>= fun _ =>
      Orchestrate.handleStages host rounds) session).1)
    ((beginProcessing host >>= fun _ => Orchestrate.handleStages host rounds) session).2
  rw [Stateful.bind_apply, ← List.append_assoc]
  unfold Stateful.Ensures at ensures
  cases ran : beginProcessing host session with
  | mk outcome after =>
      rw [ran] at ensures whole
      have step := run.begins unfinished ran whole rfl
      cases outcome with
      | error signal =>
          cases signal with
          | agentWaitRequested => exact step
          | stageEscalated => exact step
          | failed error => exact step
      | ok _ =>
          have entry := Enters.run host.config ensures unfinished returns
          have stepped : SerialRun host commits first
              (executed ++ enteredStages (newMilestones session after) ++ []) false after :=
            step
          rw [List.append_nil] at stepped
          exact stepped.handleStages kept rounds entry.2.2 entry.2.1

end Runs

/-! ## A log that is written before every commit -/

/-- At some moments the workspace has a log that the package does not own. -/
def loggingMoment (logged recovering : Bool) : Moment where
  attempt := .success
    (if recovering = true then
      { status := "resolved"
        discardPaths := ["app:run.log"] }
    else
      { status := "implemented"
        verdict := "approved" })
  verificationCommands := [⟨"pytest", "passed", false, false⟩]
  scopeCandidates := .ok (if logged = true then ["app:run.log"] else [])
  commitTransaction := .ok "commit-1"

/-- The workspace has a new log at each of these moments; an agent then removes it. -/
def loggingHost (logged : List Nat) (recovers : Bool) : Host where
  py := asciiPython
  config :=
    { scopeRecoveryPolicy := { enabled := recovers } }
  slots := ["coder", "reviewer", "auditor"].map fun agentId =>
    { candidateId := agentId
      capabilities := [.implement, .review, .fixReview] }
  surroundings moment := loggingMoment (decide (moment ∈ logged))
    (logged.any fun start => start < moment ∧ moment < start + 12)

def loggedPackage : WorkPackage :=
  { id := "feature__api"
    title := "API"
    affectedRepositories := ["app"] }

def loggedStart : StageSession :=
  { package := loggedPackage
    record := { state := .running, planGraph := [loggedPackage] } }

theorem fresh_loggedStart : loggedStart.package.progress.Fresh :=
  ⟨rfl, rfl, rfl, rfl, rfl, rfl⟩

def firstDispatch (host : Host) : StageSession :=
  (processPackage host 12 loggedStart).2

def secondDispatch (host : Host) : StageSession :=
  (processPackage host 12 (firstDispatch host)).2

theorem serialRun_firstDispatch (host : Host) (commits : StageSession → Prop)
    (kept : ∀ session, commits session)
    (whole : (beginProcessing host loggedStart).2.package.stage ≠ .decompose) :
    SerialRun host commits loggedStart ([] ++ dispatchedStages host 12 loggedStart)
      (isFinal (processPackage host 12 loggedStart).1) (firstDispatch host) :=
  SerialRun.start.processPackage kept 12 (by decide) (by unfold Progress.Returns; decide) whole

end Execraft.Orchestrate
