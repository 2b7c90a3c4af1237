import Execraft.RepositorySync.Service

/-!
# The moves of the service

All that an operation may do to the stored transaction and to the worktrees, as the moves
of a machine that holds the transaction in memory.  Every operation, cut off anywhere,
makes moves of this machine only.
-/

namespace Execraft.RepositorySync

open Foundation Program RepositorySyncService

variable {Worktree Commit Tree : Type} [DecidableEq Commit] [DecidableEq Tree]

/-! ## Moves -/

/-- The commands that leave a worktree where it stands in history. -/
inductive Command (Commit : Type) where
  | addAll
  | merge (source : Commit)
  | mergeAbort

def Command.run (git : Git Worktree Commit Tree) :
    Command Commit → Worktree → Except String Unit × Worktree
  | .addAll => git.addAll
  | .merge source => fun worktree => (.ok (), git.merge worktree source)
  | .mergeAbort => git.mergeAbort

/-- What becomes of the record of a repository. -/
inductive Recorded (service : RepositorySyncService Worktree Commit Tree)
    (world : World Worktree Commit Tree) : Item Commit Tree → Item Commit Tree → Prop where
  | noop {item worktree} : world.worktrees item.repositoryId = some worktree →
      service.git.head worktree = some item.targetBefore →
      service.git.isAncestor worktree item.sourceCommit item.targetBefore = true →
      Recorded service world item { item with
        status := .noop
        conflictPaths := [] }
  | opened {item after} : item.SameRepository after → ¬ after.Settled →
      item.status ≠ .committed →
      (after.verifiedTree = item.verifiedTree ∨ after.verifiedTree = none) →
      Recorded service world item after
  | committed {item worktree commit message} : ¬ item.Settled →
      world.worktrees item.repositoryId = some worktree →
      service.git.head worktree = some commit →
      service.isExpectedMergeCommit worktree item commit = .ok true →
      Recorded service world item { item with
        status := .committed
        targetAfter := some commit
        errorMessage := message }
  | noted {item message} :
      Recorded service world item { item with errorMessage := message }

/-- The record with the candidate tree that its worktree holds. -/
def frozenRecord (git : Git Worktree Commit Tree) (world : World Worktree Commit Tree)
    (item : Item Commit Tree) : Item Commit Tree :=
  if item.Settled then item
  else { item with verifiedTree := world.candidate git item.repositoryId }

/-- One move from a world and the transaction in memory to others. -/
inductive Move (service : RepositorySyncService Worktree Commit Tree) :
    World Worktree Commit Tree × RepositorySyncTransaction Commit Tree →
      World Worktree Commit Tree × RepositorySyncTransaction Commit Tree → Prop where
  | record {world transaction front item back after} :
      transaction.repositories = front ++ item :: back →
      Recorded service world item after →
      Move service (world, transaction)
        (world, { transaction with repositories := front ++ after :: back })
  | flags {world transaction phase forwardOnly errorMessage} :
      Move service (world, transaction)
        (world, { transaction with
          phase := phase
          forwardOnly := forwardOnly
          errorMessage := errorMessage })
  | command {world transaction repositoryId} (command : Command Commit) :
      Move service (world, transaction)
        ((world.command repositoryId (command.run service.git)).2, transaction)
  | commit {world transaction stored item message} :
      world.stored = some stored → stored.repositories = transaction.repositories →
      transaction.repositoryIds.Nodup → item ∈ transaction.repositories → ¬ item.Settled →
      Move service (world, transaction)
        ((world.command item.repositoryId fun worktree =>
          service.git.commit worktree message).2, transaction)
  | save {world transaction phase} :
      (phase = .complete → ∀ item ∈ transaction.repositories, item.Settled) →
      Move service (world, transaction)
        (world.store { transaction with phase := phase }, { transaction with phase := phase })
  | freeze {world transaction frozen} : transaction.repositoryIds.Nodup →
      frozen.repositories = transaction.repositories.map (frozenRecord service.git world) →
      frozen.phase ≠ .complete →
      Move service (world, transaction) (world.freeze service.git frozen, frozen)

/-- Any number of moves. -/
def Moves (service : RepositorySyncService Worktree Commit Tree) :
    World Worktree Commit Tree × RepositorySyncTransaction Commit Tree →
      World Worktree Commit Tree × RepositorySyncTransaction Commit Tree → Prop :=
  Relation.ReflTransGen (Move service)

theorem Moves.next {service : RepositorySyncService Worktree Commit Tree}
    {first middle last : World Worktree Commit Tree × RepositorySyncTransaction Commit Tree}
    (moves : Moves service first middle) (move : Move service middle last) :
    Moves service first last :=
  Relation.ReflTransGen.tail moves move

/-- The transaction with which an operation begins: the stored one, or a new one. -/
def Begins (world : World Worktree Commit Tree)
    (transaction : RepositorySyncTransaction Commit Tree) : Prop :=
  (world.stored = some transaction ∧ transaction.Valid) ∨
    (world.stored = none ∧ transaction.phase = .fetched ∧
      ∀ item ∈ transaction.repositories, item.status = .pending ∧ item.verifiedTree = none)

/-- Where an operation may stand that has been called in a world. -/
def Within (service : RepositorySyncService Worktree Commit Tree)
    (called world : World Worktree Commit Tree) : Prop :=
  world = called ∨ ∃ first transaction, Begins called first ∧
    Moves service (called, first) (world, transaction)

section Kinds

variable {service : RepositorySyncService Worktree Commit Tree}
  {first : World Worktree Commit Tree × RepositorySyncTransaction Commit Tree}
  {world : World Worktree Commit Tree} {transaction : RepositorySyncTransaction Commit Tree}

theorem Moves.flags (moves : Moves service first (world, transaction)) (phase : Phase)
    (forwardOnly : Bool) (errorMessage : String) :
    Moves service first (world, { transaction with
      phase := phase
      forwardOnly := forwardOnly
      errorMessage := errorMessage }) :=
  moves.next .flags

theorem Moves.command (moves : Moves service first (world, transaction))
    (repositoryId : String) (command : Command Commit) :
    Moves service first
      ((world.command repositoryId (command.run service.git)).2, transaction) :=
  moves.next (.command command)

end Kinds

/-! ## Identities -/

theorem Recorded.repositoryId {service : RepositorySyncService Worktree Commit Tree}
    {world : World Worktree Commit Tree} {item after : Item Commit Tree}
    (recorded : Recorded service world item after) :
    after.repositoryId = item.repositoryId := by
  cases recorded with
  | noop => rfl
  | opened same => exact same.1
  | committed => rfl
  | noted => rfl

omit [DecidableEq Commit] [DecidableEq Tree] in
theorem frozenRecord_repositoryId (git : Git Worktree Commit Tree)
    (world : World Worktree Commit Tree) (item : Item Commit Tree) :
    (frozenRecord git world item).repositoryId = item.repositoryId := by
  unfold frozenRecord
  by_cases settled : item.Settled
  · rw [if_pos settled]
  · rw [if_neg settled]

theorem Moves.repositoryIds {service : RepositorySyncService Worktree Commit Tree}
    {first last : World Worktree Commit Tree × RepositorySyncTransaction Commit Tree}
    (moves : Moves service first last) :
    last.2.repositoryIds = first.2.repositoryIds := by
  induction moves with
  | refl => rfl
  | tail _ move inductionHypothesis =>
      rw [← inductionHypothesis]
      cases move with
      | record shape recorded =>
          simp only [RepositorySyncTransaction.repositoryIds, shape, List.map_append,
            List.map_cons, recorded.repositoryId]
      | flags => rfl
      | command => rfl
      | commit => rfl
      | save => rfl
      | freeze _ shape _ =>
          simp only [RepositorySyncTransaction.repositoryIds, shape, List.map_map]
          congr 1
          funext item
          exact frozenRecord_repositoryId _ _ item

/-! ## Steps of a program -/

section Steps

variable {service : RepositorySyncService Worktree Commit Tree}
  {always : World Worktree Commit Tree → Prop} {world : World Worktree Commit Tree}

omit [DecidableEq Commit] [DecidableEq Tree] in
theorem guarantees_ask {git : Git Worktree Commit Tree} {effect : Effect Commit Tree}
    {returns : Reply Worktree Commit Tree effect → World Worktree Commit Tree → Prop}
    (now : always world) (later : always (answer git world effect).2)
    (holds : returns (answer git world effect).1 (answer git world effect).2) :
    Guarantees (Answers git) always world (ask effect) returns := by
  apply guarantees_request now
  intro reply after answered
  rw [Answers] at answered
  rw [answered] at later holds
  exact ⟨later, holds⟩

omit [DecidableEq Commit] [DecidableEq Tree] in
theorem guarantees_ofOutcome {git : Git Worktree Commit Tree} {Value : Type}
    {outcome : Except Failure Value} (now : always world) :
    Guarantees (Answers git) always world (ofOutcome outcome) fun value after =>
      after = world ∧ outcome = .ok value := by
  cases outcome with
  | ok value => exact guarantees_pure now ⟨rfl, rfl⟩
  | error failure => exact guarantees_raise now

omit [DecidableEq Commit] [DecidableEq Tree] in
theorem guarantees_inspect {repositoryId : String} (now : always world) :
    Guarantees (Answers service.git) always world (service.inspect repositoryId)
      fun worktree after => after = world ∧ world.worktrees repositoryId = some worktree := by
  apply guarantees_bind
  apply guarantees_ask now
  · exact now
  · cases found : world.worktrees repositoryId with
    | none =>
        simp only [answer, found]
        exact guarantees_raise now
    | some worktree =>
        simp only [answer, found]
        exact guarantees_pure now ⟨rfl, rfl⟩

omit [DecidableEq Commit] [DecidableEq Tree] in
theorem guarantees_inspected {repositoryId : String} {Value : Type}
    {check : Worktree → Except Failure Value} (now : always world) :
    Guarantees (Answers service.git) always world (service.inspected repositoryId check)
      fun value after => after = world ∧ ∃ worktree,
        world.worktrees repositoryId = some worktree ∧ check worktree = .ok value := by
  apply guarantees_bind
  apply (guarantees_inspect now).mono
  intro worktree after _ found
  obtain ⟨same, here⟩ := found
  rw [same]
  apply (guarantees_ofOutcome now).mono
  intro value last _ outcome
  exact ⟨outcome.1, worktree, here, outcome.2⟩

end Steps

/-! ## Steps of the machine -/

section Machine

variable {service : RepositorySyncService Worktree Commit Tree}
  {called world : World Worktree Commit Tree}
  {first transaction : RepositorySyncTransaction Commit Tree}

theorem Moves.within (moves : Moves service (called, first) (world, transaction))
    (begins : Begins called first) : Within service called world :=
  Or.inr ⟨first, transaction, begins, moves⟩

theorem guarantees_save {phase : Phase} (begins : Begins called first)
    (moves : Moves service (called, first) (world, transaction))
    (permitted : phase = .complete → ∀ item ∈ transaction.repositories, item.Settled) :
    Guarantees (Answers service.git) (Within service called) world (save transaction phase)
      fun saved after => saved = { transaction with phase := phase } ∧
        after = world.store saved ∧ Moves service (called, first) (after, saved) := by
  have saved : Moves service (called, first)
      (world.store { transaction with phase := phase }, { transaction with phase := phase }) :=
    moves.next (Move.save permitted)
  apply guarantees_bind
  apply guarantees_ask (moves.within begins)
  · exact saved.within begins
  · exact guarantees_pure (saved.within begins) ⟨rfl, rfl, saved⟩

theorem guarantees_addAll {repositoryId : String} (begins : Begins called first)
    (moves : Moves service (called, first) (world, transaction)) :
    Guarantees (Answers service.git) (Within service called) world (addAll repositoryId)
      fun _ after => Moves service (called, first) (after, transaction) := by
  have staged := moves.command repositoryId .addAll
  apply guarantees_bind
  apply guarantees_ask (moves.within begins)
  · exact staged.within begins
  · apply (guarantees_ofOutcome (staged.within begins)).mono
    intro _ after _ same
    rw [same.1]
    exact staged

theorem guarantees_mergeAbort {repositoryId : String} (begins : Begins called first)
    (moves : Moves service (called, first) (world, transaction)) :
    Guarantees (Answers service.git) (Within service called) world
      (mergeAbort repositoryId)
      fun _ after => Moves service (called, first) (after, transaction) := by
  have aborted := moves.command repositoryId .mergeAbort
  apply guarantees_bind
  apply guarantees_ask (moves.within begins)
  · exact aborted.within begins
  · apply (guarantees_ofOutcome (aborted.within begins)).mono
    intro _ after _ same
    rw [same.1]
    exact aborted

/-- The loop over the records makes moves only when each of its steps does. -/
theorem guarantees_eachRepository (transaction : RepositorySyncTransaction Commit Tree)
    (body : List (Item Commit Tree) → Item Commit Tree → List (Item Commit Tree) →
      Sync Worktree Commit Tree (Item Commit Tree))
    (begins : Begins called first)
    (each : ∀ done item rest now, item ∈ transaction.repositories →
      Moves service (called, first) (now, inLoop transaction done item rest) →
      Guarantees (Answers service.git) (Within service called) now (body done item rest)
        fun replaced after => Moves service (called, first)
          (after, inLoop transaction done replaced rest))
    (moves : Moves service (called, first) (world, transaction)) :
    Guarantees (Answers service.git) (Within service called) world
      (eachRepository transaction body) fun result after =>
        (∃ items, result = { transaction with repositories := items }) ∧
          Moves service (called, first) (after, result) := by
  apply guarantees_bind
  have loop : Guarantees (Answers service.git) (Within service called) world
      (traverse body [] transaction.repositories) fun items after =>
        [] <:+ transaction.repositories ∧ Moves service (called, first)
          (after, { transaction with repositories := items ++ [] }) := by
    apply guarantees_traverse (motive := fun done rest now =>
      rest <:+ transaction.repositories ∧ Moves service (called, first)
        (now, { transaction with repositories := done ++ rest }))
    · intro done item rest now stands
      have member := stands.1.subset List.mem_cons_self
      apply (each done item rest now member stands.2).mono
      intro replaced after _ later
      rw [List.append_assoc, List.singleton_append]
      exact ⟨(List.suffix_cons item rest).trans stands.1, later⟩
    · intro done rest now stands
      exact stands.2.within begins
    · exact ⟨List.suffix_rfl, moves⟩
  apply loop.mono
  intro items after _ later
  rw [List.append_nil] at later
  exact guarantees_pure (later.2.within begins) ⟨⟨items, rfl⟩, later.2⟩

theorem Moves.recorded {done rest : List (Item Commit Tree)}
    {item replaced : Item Commit Tree}
    (moves : Moves service (called, first) (world, inLoop transaction done item rest))
    (recorded : Recorded service world item replaced) :
    Moves service (called, first) (world, inLoop transaction done replaced rest) :=
  moves.next (Move.record rfl recorded)

end Machine

/-! ## Operations -/

section Operations

variable {service : RepositorySyncService Worktree Commit Tree}
  {called world : World Worktree Commit Tree}
  {first transaction : RepositorySyncTransaction Commit Tree}

theorem guarantees_load {packageId : String} :
    Guarantees (Answers service.git) (Within service called) called (service.load packageId)
      fun loaded after => after = called ∧ called.stored = loaded ∧
        ∀ stored, loaded = some stored → stored.Valid := by
  have now : Within service called called := Or.inl rfl
  apply guarantees_bind
  apply guarantees_ask now
  · exact now
  · cases found : called.stored with
    | none =>
        simp only [answer, found]
        exact guarantees_pure now ⟨rfl, rfl, by simp⟩
    | some stored =>
        simp only [answer, found]
        apply guarantees_bind
        apply (guarantees_ofOutcome now).mono
        intro _ after _ checked
        obtain ⟨same, valid⟩ := checked
        rw [same]
        apply guarantees_ite
        · intro _
          exact guarantees_raise now
        · intro _
          apply guarantees_pure now
          refine ⟨rfl, rfl, ?_⟩
          intro other same
          cases same
          cases validated : stored.validate service.py with
          | error message =>
              rw [validated] at valid
              cases valid
          | ok passed => exact stored.validate_eq_ok.mp validated

theorem guarantees_requireTransaction {packageId : String} :
    Guarantees (Answers service.git) (Within service called) called
      (service.requireTransaction packageId)
      fun stored after => after = called ∧ called.stored = some stored ∧ stored.Valid := by
  apply guarantees_bind
  apply guarantees_load.mono
  intro loaded after now found
  obtain ⟨same, here, valid⟩ := found
  rw [same] at now ⊢
  cases loaded with
  | none => exact guarantees_raise now
  | some stored => exact guarantees_pure now ⟨rfl, here, valid stored rfl⟩

theorem guarantees_rollbackRepository {done rest : List (Item Commit Tree)}
    {item : Item Commit Tree} (begins : Begins called first)
    (uncommitted : item.status ≠ .committed)
    (moves : Moves service (called, first) (world, inLoop transaction done item rest)) :
    Guarantees (Answers service.git) (Within service called) world
      (service.rollbackRepository item) fun replaced after =>
        Moves service (called, first) (after, inLoop transaction done replaced rest) := by
  have undone : Guarantees (Answers service.git) (Within service called) world
      (service.abortMerge item) fun _ after =>
        Moves service (called, first) (after, inLoop transaction done item rest) := by
    apply guarantees_bind
    apply (guarantees_inspect (moves.within begins)).mono
    intro worktree after now found
    rw [found.1] at now ⊢
    cases service.git.mergeHead worktree with
    | none => exact guarantees_pure now moves
    | some mergeHead =>
        apply guarantees_ite
        · intro _
          exact guarantees_raise now
        · intro _
          exact guarantees_mergeAbort begins moves
  apply guarantees_bind
  apply undone.mono
  intro _ after now later
  apply guarantees_bind
  apply (guarantees_inspected now).mono
  intro _ last _ checked
  rw [checked.1]
  apply guarantees_pure now
  apply later.recorded
  exact .opened ⟨rfl, rfl, rfl, rfl⟩
    (by simp [rolledBack, RepositorySyncRepositoryState.settled_iff]) uncommitted (.inl rfl)

theorem guarantees_rollback {packageId : String} :
    Guarantees (Answers service.git) (Within service called) called
      (service.rollback packageId) fun _ _ => True := by
  apply guarantees_mapFailure
  apply guarantees_bind
  apply guarantees_requireTransaction.mono
  intro loaded after now found
  obtain ⟨same, here, valid⟩ := found
  rw [same] at now ⊢
  have begins : Begins called loaded := Or.inl ⟨here, valid⟩
  apply guarantees_ite
  · intro _
    exact guarantees_raise now
  · intro _
    apply guarantees_ite
    · intro _
      exact guarantees_raise now
    · intro crossed
      obtain ⟨_, uncommitted⟩ := not_or.mp crossed
      apply guarantees_bind
      have loop := guarantees_eachRepository loaded
        (fun _ item _ => service.rollbackRepository item) begins
        (fun done item rest world member moves =>
          guarantees_rollbackRepository begins
            (fun committed => uncommitted ⟨item, member, committed⟩) moves)
        Relation.ReflTransGen.refl
      apply loop.mono
      intro undone later _ moved
      exact (guarantees_save begins moved.2 (by simp)).mono fun _ _ _ _ => trivial

/-! ### Preparing -/

theorem guarantees_pinAll (targets : List RepositorySyncTarget) :
    Guarantees (Answers service.git) (Within service called) called (service.pinAll targets)
      fun items after => after = called ∧
        ∀ item ∈ items, item.status = .pending ∧ item.verifiedTree = none := by
  have now : Within service called called := Or.inl rfl
  induction targets with
  | nil => exact guarantees_pure now ⟨rfl, by simp⟩
  | cons target rest inductionHypothesis =>
      apply guarantees_bind
      apply (guarantees_ofOutcome now).mono
      intro repository after _ known
      rw [known.1]
      apply guarantees_bind
      apply (guarantees_ofOutcome now).mono
      intro owned after _ checked
      rw [checked.1]
      apply guarantees_bind
      apply (guarantees_inspected now).mono
      intro item after _ pinned
      rw [pinned.1]
      apply guarantees_bind
      apply inductionHypothesis.mono
      intro items last _ others
      rw [others.1]
      apply guarantees_pure now
      refine ⟨rfl, ?_⟩
      obtain ⟨_, worktree, _, made⟩ := pinned
      have fresh : item.status = .pending ∧ item.verifiedTree = none := by
        unfold pin at made
        simp only [bind_eq_ok] at made
        obtain ⟨_, _, source, _, before, _, counts, _, built⟩ := made
        cases built
        exact ⟨rfl, rfl⟩
      intro other member
      rcases List.mem_cons.mp member with same | later
      · rw [same]
        exact fresh
      · exact others.2 other later

/-- A record is saved and the loop goes on. -/
theorem guarantees_savedRecord {done rest : List (Item Commit Tree)}
    {replaced : Item Commit Tree} {phase : Phase} (begins : Begins called first)
    (open_ : phase ≠ .complete)
    (moves : Moves service (called, first) (world, inLoop transaction done replaced rest)) :
    Guarantees (Answers service.git) (Within service called) world
      (save (inLoop transaction done replaced rest) phase >>= fun _ => pure replaced)
      fun result after =>
        Moves service (called, first) (after, inLoop transaction done result rest) := by
  apply guarantees_bind
  apply (guarantees_save begins moves fun same => absurd same open_).mono
  intro saved after now stands
  apply guarantees_pure now
  rw [stands.1] at stands
  exact stands.2.2.flags transaction.phase transaction.forwardOnly
    transaction.errorMessage

variable [ToString Commit]

theorem reconcile_recorded (world : World Worktree Commit Tree) {item reconciled : Item Commit Tree} {worktree : Worktree}
    (reconciles : service.reconcileExistingPrepareState item worktree = .ok reconciled) :
    reconciled = item ∨ Recorded service world item reconciled := by
  by_cases settled : item.Settled
  · exact Or.inl (service.reconcileExistingPrepareState_settled settled reconciles)
  · obtain ⟨_, _, _, built⟩ :=
      (service.reconcileExistingPrepareState_eq_ok settled).mp reconciles
    right
    rw [built]
    rw [RepositorySyncRepositoryState.settled_iff, not_or] at settled
    refine .opened ⟨rfl, rfl, rfl, rfl⟩ ?_ settled.2 (Or.inl rfl)
    rw [RepositorySyncRepositoryState.settled_iff]
    dsimp only
    split_ifs
    · simp
    · simp
    · simp

theorem guarantees_resumeRepository {done rest : List (Item Commit Tree)}
    {item : Item Commit Tree} (begins : Begins called first)
    (moves : Moves service (called, first) (world, inLoop transaction done item rest)) :
    Guarantees (Answers service.git) (Within service called) world
      (service.resumeRepository transaction done item rest) fun replaced after =>
        Moves service (called, first) (after, inLoop transaction done replaced rest) := by
  have now := moves.within begins
  apply guarantees_ite
  · intro _
    apply (guarantees_inspected now).mono
    intro reconciled after _ checked
    obtain ⟨same, worktree, _, reconciles⟩ := checked
    rw [same]
    rcases reconcile_recorded world reconciles with unchanged | recorded
    · rw [unchanged]
      exact moves
    · exact moves.recorded recorded
  · intro unprepared
    have uncommitted : item.status ≠ .committed := by
      intro committed
      exact unprepared (by simp [committed, preparedStatuses])
    apply guarantees_bind
    apply (guarantees_ofOutcome now).mono
    intro repository after _ known
    rw [known.1]
    apply guarantees_bind
    apply (guarantees_inspect now).mono
    intro worktree after _ found
    rw [found.1]
    apply guarantees_bind
    apply (guarantees_ofOutcome now).mono
    intro entered after _ checked
    rw [checked.1]
    apply guarantees_ite
    · intro contained
      apply guarantees_savedRecord begins (by simp)
      apply moves.recorded
      refine Recorded.noop found.2 ?_ contained
      have entering := checked.2
      unfold enter at entering
      rw [unit_bind_eq_ok, service.requireTargetIdentity_eq_ok] at entering
      exact entering.2.2
    · intro _
      apply guarantees_ite
      · intro _
        apply guarantees_bind
        apply (guarantees_ofOutcome now).mono
        intro reconciled after _ outcome
        rw [outcome.1]
        apply guarantees_savedRecord begins (by simp)
        rcases reconcile_recorded world outcome.2 with unchanged | recorded
        · rw [unchanged]
          exact moves
        · exact moves.recorded recorded
      · intro _
        apply guarantees_bind
        have merging := moves.command item.repositoryId (.merge item.sourceCommit)
        apply guarantees_ask now
        · exact merging.within begins
        · apply guarantees_bind
          apply (guarantees_inspected (merging.within begins)).mono
          intro prepared after _ checked
          obtain ⟨same, merged, _, made⟩ := checked
          rw [same]
          apply guarantees_savedRecord begins (by simp)
          apply Moves.recorded merging
          unfold RepositorySyncService.merged at made
          simp only [bind_eq_ok] at made
          obtain ⟨_, _, built⟩ := made
          cases built
          refine .opened ⟨rfl, rfl, rfl, rfl⟩ ?_ uncommitted (Or.inl rfl)
          rw [RepositorySyncRepositoryState.settled_iff]
          dsimp only
          split_ifs
          · simp
          · simp

theorem guarantees_resumePrepare (begins : Begins called first)
    (moves : Moves service (called, first) (world, transaction)) :
    Guarantees (Answers service.git) (Within service called) world
      (service.resumePrepare transaction) fun _ _ => True := by
  apply guarantees_ite
  · intro _
    exact guarantees_pure (moves.within begins) trivial
  · intro _
    apply guarantees_bind
    have loop := guarantees_eachRepository transaction
      (service.resumeRepository transaction) begins
      (fun done item rest now _ stands => guarantees_resumeRepository begins stands) moves
    apply loop.mono
    intro prepared after _ moved
    apply (guarantees_save begins moved.2 ?_).mono fun _ _ _ _ => trivial
    intro complete
    split_ifs at complete

theorem guarantees_prepare {packageId packageFingerprint : String}
    {spec : RepositorySyncSpec} :
    Guarantees (Answers service.git) (Within service called) called
      (service.prepare packageId packageFingerprint spec) fun _ _ => True := by
  apply guarantees_mapFailure
  apply guarantees_bind
  apply guarantees_load.mono
  intro loaded after now found
  obtain ⟨same, here, valid⟩ := found
  rw [same] at now ⊢
  cases loaded with
  | none =>
      apply guarantees_bind
      apply guarantees_bind
      apply (guarantees_pinAll spec.targets).mono
      intro items after _ pinned
      rw [pinned.1]
      have begins : Begins called ({
          packageId := packageId
          packageFingerprint := packageFingerprint
          phase := .fetched
          repositories := items } : RepositorySyncTransaction Commit Tree) :=
        Or.inr ⟨here, rfl, pinned.2⟩
      apply (guarantees_save begins Relation.ReflTransGen.refl (by simp)).mono
      intro created after _ saved
      exact guarantees_resumePrepare begins saved.2.2
  | some stored =>
      have begins : Begins called stored := Or.inl ⟨here, valid stored rfl⟩
      apply guarantees_bind
      apply (guarantees_ofOutcome now).mono
      intro checked after _ contract
      rw [contract.1]
      apply guarantees_ite
      · intro _
        exact guarantees_pure now trivial
      · intro _
        exact guarantees_resumePrepare begins Relation.ReflTransGen.refl

/-! ### Accepting a resolution -/

omit [ToString Commit] in
/-- A record with conflicts is saved and an error is raised. -/
theorem guarantees_rejected {done rest : List (Item Commit Tree)}
    {item : Item Commit Tree} {conflicts : List String} {failure : Failure} {Value : Type}
    {returns : Value → World Worktree Commit Tree → Prop} (begins : Begins called first)
    (unsettled : ¬ item.Settled)
    (moves : Moves service (called, first) (world, inLoop transaction done item rest)) :
    Guarantees (Answers service.git) (Within service called) world
      (save (inLoop transaction done (conflicted item conflicts) rest) .resolving >>= fun _ =>
        (Program.raise failure : Sync Worktree Commit Tree Value)) returns := by
  have recorded : Recorded service world item (conflicted item conflicts) := by
    rw [RepositorySyncRepositoryState.settled_iff, not_or] at unsettled
    exact .opened ⟨rfl, rfl, rfl, rfl⟩
      (by simp [conflicted, RepositorySyncRepositoryState.settled_iff]) unsettled.2 (Or.inl rfl)
  apply guarantees_bind
  apply (guarantees_save begins (moves.recorded recorded) (by simp)).mono
  intro saved after now _
  exact guarantees_raise now

omit [ToString Commit] in
theorem guarantees_stageConflicts {done rest : List (Item Commit Tree)}
    {item : Item Commit Tree} {worktree : Worktree} (begins : Begins called first)
    (unsettled : ¬ item.Settled)
    (moves : Moves service (called, first) (world, inLoop transaction done item rest)) :
    Guarantees (Answers service.git) (Within service called) world
      (service.stageConflicts transaction done item rest worktree) fun _ after =>
        Moves service (called, first) (after, inLoop transaction done item rest) := by
  apply guarantees_ite
  · intro _
    exact guarantees_pure (moves.within begins) moves
  · intro _
    apply guarantees_ite
    · intro _
      exact guarantees_rejected begins unsettled moves
    · intro _
      apply guarantees_bind
      apply (guarantees_addAll begins moves).mono
      intro _ after now staged
      apply guarantees_bind
      apply (guarantees_inspect now).mono
      intro worktree last _ found
      rw [found.1]
      exact guarantees_pure now staged

theorem guarantees_acceptRepository {done rest : List (Item Commit Tree)}
    {item : Item Commit Tree} (begins : Begins called first)
    (moves : Moves service (called, first) (world, inLoop transaction done item rest)) :
    Guarantees (Answers service.git) (Within service called) world
      (service.acceptRepository transaction done item rest) fun replaced after =>
        Moves service (called, first) (after, inLoop transaction done replaced rest) := by
  have now := moves.within begins
  apply guarantees_ite
  · intro _
    exact guarantees_pure now moves
  · intro unsettled
    apply guarantees_bind
    apply (guarantees_inspect now).mono
    intro worktree after _ found
    rw [found.1]
    apply guarantees_bind
    apply (guarantees_ofOutcome now).mono
    intro checked after _ acceptable
    rw [acceptable.1]
    apply guarantees_bind
    apply (guarantees_stageConflicts begins unsettled moves).mono
    intro conflicts after later staged
    apply guarantees_ite
    · intro _
      exact guarantees_rejected begins unsettled staged
    · intro _
      apply guarantees_bind
      apply (guarantees_addAll begins staged).mono
      intro _ last here added
      apply guarantees_pure here
      apply added.recorded
      rw [RepositorySyncRepositoryState.settled_iff, not_or] at unsettled
      exact .opened ⟨rfl, rfl, rfl, rfl⟩
        (by simp [accepted, RepositorySyncRepositoryState.settled_iff]) unsettled.2 (Or.inr rfl)

theorem guarantees_acceptResolution {packageId : String} :
    Guarantees (Answers service.git) (Within service called) called
      (service.acceptResolution packageId) fun _ _ => True := by
  apply guarantees_mapFailure
  apply guarantees_bind
  apply guarantees_requireTransaction.mono
  intro loaded after now found
  obtain ⟨same, here, valid⟩ := found
  rw [same] at now ⊢
  have begins : Begins called loaded := Or.inl ⟨here, valid⟩
  apply guarantees_ite
  · intro _
    exact guarantees_pure now trivial
  · intro _
    apply guarantees_ite
    · intro _
      exact guarantees_raise now
    · intro _
      apply guarantees_bind
      have loop := guarantees_eachRepository loaded (service.acceptRepository loaded) begins
        (fun done item rest later _ stands => guarantees_acceptRepository begins stands)
        Relation.ReflTransGen.refl
      apply loop.mono
      intro resolved later _ moved
      exact (guarantees_save begins moved.2 (by simp)).mono fun _ _ _ _ => trivial

/-! ### Verifying -/

omit [ToString Commit] [DecidableEq Commit] [DecidableEq Tree] in
theorem guarantees_checkAll {always : World Worktree Commit Tree → Prop}
    {items : List (Item Commit Tree)}
    {check : Item Commit Tree → Worktree → Except Failure Unit} (now : always world) :
    Guarantees (Answers service.git) always world (service.checkAll items check)
      fun _ after => after = world := by
  apply guarantees_foldlM (motive := fun _ _ after => after = world)
  · intro front item back value after shape same
    rw [same]
    apply (guarantees_inspected now).mono
    intro checked last _ outcome
    exact outcome.1
  · intro front value after same
    rw [same]
    exact now
  · rfl

omit [ToString Commit] in
theorem guarantees_reconcileCommittedAfterCrash
    (transaction : RepositorySyncTransaction Commit Tree) (begins : Begins called first)
    (moves : Moves service (called, first) (world, transaction)) :
    Guarantees (Answers service.git) (Within service called) world
      (service.reconcileCommittedAfterCrash transaction) fun reconciled after =>
        Moves service (called, first) (after, reconciled) := by
  apply guarantees_bind
  have loop := guarantees_eachRepository transaction
    (fun _ item _ => service.adoptRepository item) begins
    (by
      intro done item rest now _ stands
      apply guarantees_ite
      · intro _
        exact guarantees_pure (stands.within begins) stands
      · intro unsettled
        apply (guarantees_inspected (stands.within begins)).mono
        intro adopted after _ outcome
        obtain ⟨same, worktree, found, adopts⟩ := outcome
        rw [same]
        rcases service.adopt_eq_ok adopts with unchanged | ⟨current, _, atHead, _, expected, built⟩
        · rw [unchanged]
          exact stands
        · rw [built]
          exact stands.recorded (.committed unsettled found atHead expected))
    moves
  apply loop.mono
  intro reconciled after now moved
  apply guarantees_ite
  · intro same
    rw [same] at moved
    exact guarantees_pure now moved.2
  · intro _
    have flagged := moved.2.flags reconciled.phase true reconciled.errorMessage
    exact (guarantees_save begins flagged (by simp)).mono fun _ _ _ saved => saved.2.2

omit [ToString Commit] [DecidableEq Commit] [DecidableEq Tree] in
theorem guarantees_freezeAll {always : World Worktree Commit Tree → Prop}
    (transaction : RepositorySyncTransaction Commit Tree) (now : always world) :
    Guarantees (Answers service.git) always world
      (eachRepository transaction fun _ item _ => service.freezeRepository item)
      fun frozen after => after = world ∧ frozen = { transaction with
        repositories := transaction.repositories.map (frozenRecord service.git world) } := by
  apply guarantees_bind
  have loop : Guarantees (Answers service.git) always world
      (traverse (fun _ item _ => service.freezeRepository item) [] transaction.repositories)
      fun items after => after = world ∧ ∃ front, transaction.repositories = front ++ [] ∧
        items = front.map (frozenRecord service.git world) := by
    apply guarantees_traverse (motive := fun done rest after => after = world ∧
      ∃ front, transaction.repositories = front ++ rest ∧
        done = List.map (frozenRecord service.git world) front)
    · intro done item rest after stands
      obtain ⟨same, front, shape, images⟩ := stands
      rw [same]
      have extended : ∀ replaced, replaced = frozenRecord service.git world item →
          ∃ front, transaction.repositories = front ++ rest ∧
            done ++ [replaced] = front.map (frozenRecord service.git world) := by
        intro replaced image
        refine ⟨front ++ [item], ?_, ?_⟩
        · rw [shape, List.append_assoc, List.singleton_append]
        · rw [images, image, List.map_append, List.map_singleton]
      apply guarantees_ite
      · intro settled
        apply guarantees_pure now
        refine ⟨rfl, extended item ?_⟩
        rw [frozenRecord, if_pos settled]
      · intro unsettled
        apply (guarantees_inspected now).mono
        intro replaced last _ outcome
        obtain ⟨here, worktree, found, written⟩ := outcome
        refine ⟨here, extended replaced ?_⟩
        simp only [bind_eq_ok, gitAttempt_eq_ok] at written
        obtain ⟨tree, wrote, built⟩ := written
        rw [frozenRecord, if_neg unsettled, World.candidate, found]
        simp only [Option.bind_some, wrote, Except.toOption]
        exact (Except.ok.inj built).symm
    · intro done rest after stands
      rw [stands.1]
      exact now
    · exact ⟨rfl, [], rfl, rfl⟩
  apply loop.mono
  intro items after here ended
  obtain ⟨same, front, shape, images⟩ := ended
  apply guarantees_pure here
  rw [List.append_nil] at shape
  rw [images, shape]
  exact ⟨same, rfl⟩

theorem guarantees_markVerified {packageId : String} :
    Guarantees (Answers service.git) (Within service called) called
      (service.markVerified packageId) fun _ _ => True := by
  apply guarantees_mapFailure
  apply guarantees_bind
  apply guarantees_requireTransaction.mono
  intro loaded after now found
  obtain ⟨same, here, valid⟩ := found
  rw [same] at now ⊢
  have begins : Begins called loaded := Or.inl ⟨here, valid⟩
  apply guarantees_ite
  · intro _
    exact guarantees_pure now trivial
  · intro _
    apply guarantees_bind
    apply (guarantees_reconcileCommittedAfterCrash loaded begins
      Relation.ReflTransGen.refl).mono
    intro reconciled after _ moved
    apply guarantees_bind
    have staging := guarantees_eachRepository reconciled (fun _ item _ => service.stage item)
      begins
      (by
        intro done item rest later _ stands
        apply guarantees_ite
        · intro _
          exact guarantees_pure (stands.within begins) stands
        · intro _
          apply guarantees_bind
          apply (guarantees_inspect (stands.within begins)).mono
          intro worktree last _ found
          rw [found.1]
          apply guarantees_bind
          apply (guarantees_addAll begins stands).mono
          intro _ last here added
          exact guarantees_pure here added)
      moved
    apply staging.mono
    intro staged last here stands
    apply guarantees_bind
    apply (guarantees_checkAll here).mono
    intro _ later _ unchanged
    rw [unchanged]
    apply guarantees_bind
    apply (guarantees_freezeAll staged here).mono
    intro frozen later _ outcome
    obtain ⟨same, built⟩ := outcome
    rw [same]
    have unique : staged.repositoryIds.Nodup := by
      rw [stands.2.repositoryIds]
      exact valid.unique
    have freezing : Moves service (called, loaded)
        (last.freeze service.git { frozen with
          phase := if frozen.forwardOnly = true then .committing else .verified },
          { frozen with
            phase := if frozen.forwardOnly = true then .committing else .verified }) := by
      apply stands.2.next
      refine Move.freeze unique ?_ ?_
      · rw [built]
      · dsimp only
        split_ifs
        · simp
        · simp
    apply guarantees_bind
    apply guarantees_ask here
    · exact freezing.within begins
    · exact guarantees_pure (freezing.within begins) trivial

/-! ### Committing -/

omit [ToString Commit] in
/-- An error is recorded and raised. -/
theorem guarantees_recordFailure {done rest : List (Item Commit Tree)}
    {item : Item Commit Tree} {failure : Failure} {Value : Type}
    {returns : Value → World Worktree Commit Tree → Prop} (begins : Begins called first)
    (moves : Moves service (called, first) (world, inLoop transaction done item rest)) :
    Guarantees (Answers service.git) (Within service called) world
      (recordFailure transaction done item rest failure) returns := by
  have noted := moves.recorded (.noted : Recorded service world item { item with
    errorMessage := failureText failure })
  have flagged := noted.flags transaction.phase transaction.forwardOnly
    (failureText failure)
  apply guarantees_bind
  apply (guarantees_save begins flagged (by simp)).mono
  intro saved after now _
  exact guarantees_raise now

omit [ToString Commit] in
theorem Recorded.ofCommit {item committed : Item Commit Tree} {worktree : Worktree}
    (unsettled : ¬ item.Settled) (found : world.worktrees item.repositoryId = some worktree)
    (made : service.afterCommit item worktree = .ok committed) :
    Recorded service world item committed := by
  obtain ⟨commit, atHead, expected, built⟩ := service.afterCommit_eq_ok.mp made
  rw [built]
  exact .committed unsettled found atHead expected

/-- The stored records are those in memory. -/
def StoredAs (world : World Worktree Commit Tree) (items : List (Item Commit Tree)) : Prop :=
  ∃ stored, world.stored = some stored ∧ stored.repositories = items

theorem guarantees_commitRepository {title : String} {done rest : List (Item Commit Tree)}
    {item : Item Commit Tree} (begins : Begins called first)
    (unique : first.repositoryIds.Nodup) (unsettled : ¬ item.Settled)
    (saved : StoredAs world (done ++ item :: rest))
    (moves : Moves service (called, first) (world, inLoop transaction done item rest)) :
    Guarantees (Answers service.git) (Within service called) world
      (service.commitRepository title transaction done item rest) fun committed after =>
        committed.Settled ∧ StoredAs after (done ++ committed :: rest) ∧
          Moves service (called, first)
            (after, inLoop { transaction with forwardOnly := true } done committed rest) := by
  have now := moves.within begins
  obtain ⟨stored, isStored, same⟩ := saved
  have ids : (inLoop transaction done item rest).repositoryIds.Nodup := by
    rw [moves.repositoryIds]
    exact unique
  apply guarantees_bind
  apply (guarantees_inspect now).mono
  intro _ after _ found
  rw [found.1]
  have committing : Moves service (called, first)
      ((world.command item.repositoryId fun worktree => service.git.commit worktree
        (commitMessage transaction.packageId title item)).2,
        inLoop transaction done item rest) :=
    moves.next (.commit isStored same ids (by simp [inLoop]) unsettled)
  apply guarantees_bind
  apply guarantees_ask now
  · exact committing.within begins
  · split
    · exact guarantees_recordFailure begins committing
    · apply guarantees_bind
      apply (guarantees_inspect (committing.within begins)).mono
      intro worktree after _ here
      rw [here.1]
      cases made : service.afterCommit item worktree with
      | error failure => exact guarantees_recordFailure begins committing
      | ok committed =>
          obtain ⟨_, _, _, built⟩ := service.afterCommit_eq_ok.mp made
          have recorded := committing.recorded (.ofCommit unsettled here.2 made)
          have forwarded := recorded.flags transaction.phase true transaction.errorMessage
          have settled : committed.Settled := by
            rw [built, RepositorySyncRepositoryState.settled_iff]
            exact Or.inr rfl
          apply guarantees_bind
          apply (guarantees_save begins forwarded (by simp)).mono
          intro storing last stands saved
          obtain ⟨shape, world', saved⟩ := saved
          rw [shape] at saved
          have back := saved.flags transaction.phase true transaction.errorMessage
          apply guarantees_ite
          · intro _
            exact guarantees_recordFailure begins back
          · intro _
            apply guarantees_pure stands
            refine ⟨settled, ⟨storing, ?_, ?_⟩, back⟩
            · rw [world']
              rfl
            · rw [shape]
              rfl

theorem guarantees_commitAll {title : String} {done rest : List (Item Commit Tree)}
    (begins : Begins called first) (unique : first.repositoryIds.Nodup)
    (settled : ∀ item ∈ done, item.Settled) (saved : StoredAs world (done ++ rest))
    (moves : Moves service (called, first)
      (world, { transaction with repositories := done ++ rest })) :
    Guarantees (Answers service.git) (Within service called) world
      (service.commitAll title transaction done rest) fun finished after =>
        (∀ item ∈ finished.repositories, item.Settled) ∧
          Moves service (called, first) (after, finished) := by
  induction rest generalizing done transaction world with
  | nil =>
      rw [List.append_nil] at moves
      exact guarantees_pure (moves.within begins) ⟨settled, moves⟩
  | cons item rest inductionHypothesis =>
      have extended : ∀ committed : Item Commit Tree, committed.Settled →
          ∀ other ∈ done ++ [committed], other.Settled := by
        intro committed isSettled other member
        rcases List.mem_append.mp member with before | last
        · exact settled other before
        · rw [List.mem_singleton.mp last]
          exact isSettled
      apply guarantees_ite
      · intro isSettled
        apply inductionHypothesis (extended item isSettled)
        · rw [List.append_assoc, List.singleton_append]
          exact saved
        · rw [List.append_assoc, List.singleton_append]
          exact moves
      · intro unsettled
        apply guarantees_bind
        apply (guarantees_commitRepository begins unique unsettled saved moves).mono
        intro committed after _ later
        apply inductionHypothesis (extended committed later.1)
        · rw [List.append_assoc, List.singleton_append]
          exact later.2.1
        · rw [List.append_assoc, List.singleton_append]
          exact later.2.2

theorem guarantees_commit {packageId title : String} :
    Guarantees (Answers service.git) (Within service called) called
      (service.commit packageId title) fun _ _ => True := by
  apply guarantees_mapFailure
  apply guarantees_bind
  apply guarantees_requireTransaction.mono
  intro loaded after now found
  obtain ⟨same, here, valid⟩ := found
  rw [same] at now ⊢
  have begins : Begins called loaded := Or.inl ⟨here, valid⟩
  apply guarantees_ite
  · intro _
    apply guarantees_bind
    apply (guarantees_checkAll now).mono
    intro _ last _ unchanged
    rw [unchanged]
    exact guarantees_pure now trivial
  · intro _
    apply guarantees_bind
    apply (guarantees_reconcileCommittedAfterCrash loaded begins
      Relation.ReflTransGen.refl).mono
    intro reconciled after now moved
    apply guarantees_bind
    apply (guarantees_checkAll now).mono
    intro _ later _ unchanged
    rw [unchanged]
    apply guarantees_bind
    apply (guarantees_checkAll now).mono
    intro _ later _ unchanged
    rw [unchanged]
    apply guarantees_bind
    apply (guarantees_save begins moved (by simp)).mono
    intro started later _ saved
    obtain ⟨shape, world', saved⟩ := saved
    apply guarantees_bind
    have settling : Guarantees (Answers service.git) (Within service called) later
        (service.commitAll title started [] started.repositories) fun finished last =>
          (∀ item ∈ finished.repositories, item.Settled) ∧
            Moves service (called, loaded) (last, finished) :=
      guarantees_commitAll begins valid.unique (by simp)
        ⟨started, by rw [world']; rfl, rfl⟩ saved
    apply settling.mono
    intro finished last _ ended
    have cleared := ended.2.flags finished.phase finished.forwardOnly ""
    exact (guarantees_save begins cleared fun _ => ended.1).mono fun _ _ _ _ => trivial

/-- An operation that is cut off anywhere has made moves of the machine only. -/
theorem guarantees_program {packageId : String} (operation : Operation) :
    Guarantees (Answers service.git) (Within service called) called
      (service.program packageId operation) fun _ _ => True := by
  cases operation with
  | prepare packageFingerprint spec => exact guarantees_prepare
  | acceptResolution => exact guarantees_acceptResolution
  | markVerified => exact guarantees_markVerified
  | commit title => exact guarantees_commit
  | rollback => exact guarantees_rollback

end Operations

end Execraft.RepositorySync
