import Execraft.Foundation.Keyed
import Execraft.Orchestrate.CommitSteps

/-!
# Attempts to commit a package

What holds of the journal and of the checkouts wherever the commit of a package stands, and
that a transaction from its beginning keeps it.
-/

namespace Execraft.Orchestrate.Commits

open Foundation Foundation.Program

/-! ## Finalizations of one package -/

/-- A package whose commit begins while the checkouts of its task are as `start` tells. -/
structure Scenario (Commit Tree : Type) where
  history : History Commit Tree
  /-- Effects may fail. -/
  faulty : Prop
  config : CommitConfig
  workspace : TaskWorkspace
  package : WorkPackage
  start : String → Checkout Commit Tree

namespace Scenario

variable {Commit Tree : Type} (scenario : Scenario Commit Tree)

abbrev Step : World Commit Tree → (effect : Effect Commit) → Reply effect →
    World Commit Tree → Prop :=
  Commits.Step scenario.history scenario.faulty

def program [DecidableEq Commit] : Execution Commit String :=
  commitStandardPackage scenario.config scenario.workspace scenario.package

/-- The repositories that the package affects, without repetitions. -/
def declared : List String :=
  scenario.package.affectedRepositories.eraseDups

def resolve (repositoryId : String) : Except String (Option String) :=
  resolveRepoPathIfAvailable scenario.config scenario.workspace repositoryId

def locate (repositoryId : String) : Option (String × String) :=
  match scenario.resolve repositoryId with
  | .ok (some path) => some (repositoryId, path)
  | _ => none

/-- The repositories of the package that are in the workspace, with their paths. -/
def available : List (String × String) :=
  scenario.declared.filterMap scenario.locate

def Owns (transaction : CommitTransaction Commit) : Prop :=
  transaction.workPackageId = scenario.package.id

instance : DecidablePred scenario.Owns := fun transaction =>
  inferInstanceAs (Decidable (transaction.workPackageId = scenario.package.id))

/-- No transaction of the package is under way or done. -/
structure Begins (world : World Commit Tree) : Prop where
  checkouts : world.checkouts = scenario.start
  distinct : (world.journal.map CommitTransaction.transactionId).Nodup
  idle : ∀ transaction, lastByWorkPackage world.journal scenario.package.id =
    some transaction → transaction.status = .failed

/-- The worlds met when the package is finalized again and again and each finalization may be
cut off anywhere. -/
def Reached [DecidableEq Commit] : World Commit Tree → Prop :=
  Sessions scenario.Step Eq (fun _ program => program = scenario.program) scenario.Begins

/-- What a finalization needs to go through when nothing fails. -/
structure Ready : Prop where
  strict : scenario.config.strictChecks = true
  commits : scenario.config.autoCommit = true
  resolves : ∀ repositoryId ∈ scenario.declared, ∃ answer,
    scenario.resolve repositoryId = .ok answer
  present : scenario.available ≠ []
  message : ∃ text, scenario.config.commitMessage scenario.package.id
    scenario.package.title = .ok text
  changes : scenario.config.requireRepositoryChanges = true →
    (scenario.available.map Prod.snd).Nodup ∧
      (∀ repository ∈ scenario.available,
        (scenario.start repository.2).Dirty scenario.history →
          (scenario.start repository.2).worktree ≠
            scenario.history.tree (scenario.start repository.2).head) ∧
      (scenario.config.allowVerifiedNoopCommits = true ∨ ∃ repository ∈ scenario.available,
        (scenario.start repository.2).Dirty scenario.history)

def Smooth : Prop :=
  ¬scenario.faulty ∧ scenario.Ready

/-- The paths that commits may touch. -/
def Affected (path : String) : Prop :=
  scenario.config.autoCommit = true ∧ path ∈ scenario.available.map Prod.snd

/-! ## What the journal tells -/

def Untouched (checkouts : String → Checkout Commit Tree) : Prop :=
  scenario.Smooth → checkouts = scenario.start

variable [DecidableEq Tree]

/-- The checkouts were looked at before the first of them was committed. -/
structure Begun (transaction : CommitTransaction Commit) : Prop where
  recorded : transaction.preSnapshots.map RepositorySnapshot.repositoryId =
    scenario.available.map Prod.fst
  resolved : ∀ repositoryId ∈ scenario.declared, ∃ answer,
    scenario.resolve repositoryId = .ok answer
  snapshots : scenario.Smooth → transaction.preSnapshots =
    scenario.available.map (snapshotOf scenario.history scenario.start)

def Accounts (transaction : CommitTransaction Commit)
    (checkouts : String → Checkout Commit Tree) : Prop :=
  match transaction.status with
  | .failed => scenario.Untouched checkouts
  | .pending =>
      (transaction.preSnapshots = [] ∧ scenario.Untouched checkouts) ∨
        scenario.Begun transaction
  | .committed => scenario.config.autoCommit = true → ∀ repository ∈ scenario.available,
      Clean scenario.history (checkouts repository.2)

/-- The checkouts are as the journal tells, and each has been committed at most once. -/
structure Sound (world : World Commit Tree) : Prop where
  distinct : (world.journal.map CommitTransaction.transactionId).Nodup
  outside : ∀ path, ¬scenario.Affected path → world.checkouts path = scenario.start path
  advances : ∀ path, Advances scenario.history scenario.faulty (scenario.start path)
    (world.checkouts path)
  accounts : ∀ transaction, Newest scenario.Owns world.journal transaction →
    scenario.Accounts transaction world.checkouts
  fresh : (∀ transaction, ¬Newest scenario.Owns world.journal transaction) →
    scenario.Untouched world.checkouts

variable {scenario} {world after : World Commit Tree}
  {transaction : CommitTransaction Commit}

theorem sound_of_begins (begins : scenario.Begins world) : scenario.Sound world where
  distinct := begins.distinct
  outside := fun path _ => congrFun begins.checkouts path
  advances := fun path => by
    rw [begins.checkouts]
    exact Advances.refl _
  accounts := fun transaction newest => by
    have failed := begins.idle transaction (newest_iff.mpr newest)
    unfold Accounts
    rw [failed]
    exact fun _ => begins.checkouts
  fresh := fun _ _ => begins.checkouts

theorem Sound.congr (sound : scenario.Sound world) (journal : after.journal = world.journal)
    (checkouts : after.checkouts = world.checkouts) : scenario.Sound after where
  distinct := by
    rw [journal]
    exact sound.distinct
  outside := by
    rw [checkouts]
    exact sound.outside
  advances := by
    rw [checkouts]
    exact sound.advances
  accounts := by
    rw [journal, checkouts]
    exact sound.accounts
  fresh := by
    rw [journal, checkouts]
    exact sound.fresh

/-- Another newest transaction. -/
theorem Sound.write (sound : scenario.Sound world) {journal : CommitJournal Commit}
    (distinct : (journal.map CommitTransaction.transactionId).Nodup)
    (newest : Newest scenario.Owns journal transaction)
    (accounts : scenario.Accounts transaction world.checkouts) :
    scenario.Sound { world with journal := journal } where
  distinct := distinct
  outside := sound.outside
  advances := sound.advances
  accounts := fun _ isNewest => isNewest.unique newest ▸ accounts
  fresh := fun none => absurd newest (none transaction)

/-- A commit in the middle of a transaction. -/
theorem Sound.commitsAt (sound : scenario.Sound world)
    (newest : Newest scenario.Owns world.journal transaction)
    (pending : transaction.status = .pending) (begun : scenario.Begun transaction)
    {path : String} (affected : scenario.Affected path)
    (commits : CommitsAt scenario.history scenario.faulty path world after) :
    scenario.Sound after where
  distinct := by
    rw [commits.journal]
    exact sound.distinct
  outside := fun other outside => by
    rw [commits.others other fun same => outside (same ▸ affected)]
    exact sound.outside other outside
  advances := fun other => by
    by_cases same : other = path
    · rw [same]
      exact (sound.advances path).trans commits.advances
    · rw [commits.others other same]
      exact sound.advances other
  accounts := fun _ isNewest => by
    rw [commits.journal] at isNewest
    rw [isNewest.unique newest, Accounts, pending]
    exact Or.inr begun
  fresh := fun none => absurd (commits.journal ▸ newest) (none transaction)

/-! ## Transactions -/

/-- The newest transaction of the package has this identity. -/
def Holds (scenario : Scenario Commit Tree) (transactionId : String)
    (world : World Commit Tree) : Prop :=
  ∃ transaction, Newest scenario.Owns world.journal transaction ∧
    transaction.transactionId = transactionId

theorem load_newest (sound : scenario.Sound world)
    (newest : Newest scenario.Owns world.journal transaction) :
    load world.journal transaction.transactionId = .ok transaction := by
  have found := (find?_key_eq_some sound.distinct).mpr ⟨newest.mem, rfl⟩
  rw [load, found]

variable {raises : CommitFailure → World Commit Tree → Prop}

theorem ensures_changeTransaction {transactionId : String}
    {change : CommitTransaction Commit → CommitTransaction Commit}
    {returns : Unit → World Commit Tree → Prop} (sound : scenario.Sound world)
    (newest : Newest scenario.Owns world.journal transaction)
    (identity : transaction.transactionId = transactionId)
    (sameIdentity : (change transaction).transactionId = transaction.transactionId)
    (samePackage : (change transaction).workPackageId = transaction.workPackageId)
    (accounts : scenario.Accounts (change transaction) world.checkouts)
    (holds : ∀ after, scenario.Sound after → after.checkouts = world.checkouts →
      Newest scenario.Owns after.journal (change transaction) → returns () after)
    (fails : ∀ message after, scenario.faulty → scenario.Sound after →
      scenario.Holds transactionId after → raises (.error message) after) :
    Ensures scenario.Step scenario.Sound world (changeTransaction transactionId change) returns
      raises := by
  have broken : ∀ message, scenario.faulty → raises (.error message) world :=
    fun message broken => fails message world broken sound ⟨transaction, newest, identity⟩
  have owned : scenario.Owns (change transaction) := samePackage.trans newest.fits
  have written : ∀ final, final = { world with
      journal := upsert CommitTransaction.transactionId (change transaction) world.journal } →
      scenario.Sound final ∧ Newest scenario.Owns final.journal (change transaction) := by
    intro final same
    have replaced := newest.upsert sound.distinct sameIdentity.symm owned
    rw [same]
    exact ⟨sound.write (nodup_upsert sound.distinct) replaced accounts, replaced⟩
  unfold changeTransaction
  apply ensures_bind
  refine ensures_look sound (fun loaded performed => ?_) broken
  rw [performed.1]
  apply ensures_bind
  refine ensures_ofResult sound (fun found isFound => ?_) fun message missing => ?_
  case refine_2 =>
    rw [← identity, load_newest sound newest] at missing
    cases missing
  rw [← identity, load_newest sound newest] at isFound
  cases isFound
  apply ensures_bind
  refine ensures_look sound (fun journal performed => ?_) broken
  rw [performed.1]
  refine ensures_ask sound (fun _ final performed => ?_) fun message final broken disturbed => ?_
  · obtain ⟨later, there⟩ := written final performed
    rw [show final = _ from performed] at later there ⊢
    exact ⟨later, holds _ later rfl there⟩
  · rcases disturbed with same | ⟨_, performed⟩ | ⟨_, _, adds, _⟩
    · rw [same]
      exact ⟨sound, fails message world broken sound ⟨transaction, newest, identity⟩⟩
    · obtain ⟨later, there⟩ := written final performed
      exact ⟨later, fails message final broken later ⟨_, there, sameIdentity.trans identity⟩⟩
    · cases adds

omit [DecidableEq Tree] in
theorem not_smooth_of_faulty (broken : scenario.faulty) : ¬scenario.Smooth :=
  fun smooth => smooth.1 broken

/-- A transaction that fails, by its record. -/
def Stopped (scenario : Scenario Commit Tree) (world : World Commit Tree) : Prop :=
  ∃ transaction, Newest scenario.Owns world.journal transaction ∧ transaction.status = .failed

theorem ensures_abandon {Value : Type} {transactionId message : String}
    {returns : Value → World Commit Tree → Prop} (sound : scenario.Sound world)
    (held : scenario.Holds transactionId world)
    (untouched : scenario.Untouched world.checkouts) :
    Ensures scenario.Step scenario.Sound world
      (abandon scenario.package transactionId message) returns
      fun _ after => scenario.Smooth → after.checkouts = world.checkouts ∧
        scenario.Stopped after := by
  obtain ⟨transaction, newest, identity⟩ := held
  unfold abandon
  apply ensures_bind
  refine ensures_changeTransaction sound newest identity rfl rfl untouched
    (fun after later same failed => ?_)
    fun _ _ broken _ _ smooth => absurd smooth (not_smooth_of_faulty broken)
  apply ensures_bind
  refine ensures_ask later (fun _ final performed => ?_) fun _ final broken disturbed => ?_
  · rw [show final = _ from performed]
    have settled : scenario.Sound { after with
        escalations := after.escalations ++ [(scenario.package.id, message)] } :=
      later.congr rfl rfl
    exact ⟨settled, ensures_raise settled fun _ => ⟨same, _, failed, rfl⟩⟩
  · refine ⟨?_, fun smooth => absurd smooth (not_smooth_of_faulty broken)⟩
    rcases disturbed with unchanged | ⟨_, performed⟩ | ⟨_, _, adds, _⟩
    · rw [unchanged]
      exact later
    · rw [show final = _ from performed]
      exact later.congr rfl rfl
    · cases adds

/-! ## The repositories before the transaction -/

structure Inspects (scenario : Scenario Commit Tree) (world : World Commit Tree)
    (repositoryIds : List String) (inspected : Inspected Commit) : Prop where
  available : inspected.available = repositoryIds.filterMap scenario.locate
  pre : inspected.pre =
    inspected.available.map (snapshotOf scenario.history world.checkouts)
  changed : inspected.changed = inspected.available.filter fun repository =>
    (world.checkouts repository.2).Dirty scenario.history
  resolved : ∀ repositoryId ∈ repositoryIds, ∃ answer,
    scenario.resolve repositoryId = .ok answer

omit [DecidableEq Tree] in
theorem locate_of_resolve {repositoryId : String} {answer : Option String}
    (resolved : scenario.resolve repositoryId = .ok answer) :
    scenario.locate repositoryId = answer.map fun path => (repositoryId, path) := by
  rw [locate, resolved]
  cases answer with
  | none => rfl
  | some path => rfl

theorem ensures_inspectRepository {always : World Commit Tree → Prop} (now : always world)
    {front : List String} {repositoryId : String} {inspected : Inspected Commit}
    (member : repositoryId ∈ scenario.declared)
    (passed : scenario.Inspects world front inspected)
    (fails : ∀ message, ¬scenario.Smooth → raises (.error message) world) :
    Ensures scenario.Step always world
      (inspectRepository scenario.config scenario.workspace inspected repositoryId)
      (fun inspected after => after = world ∧
        scenario.Inspects world (front ++ [repositoryId]) inspected) raises := by
  unfold inspectRepository
  apply ensures_bind
  refine ensures_ofResult now (fun answer isAnswer => ?_) fun message missing => ?_
  case refine_2 =>
    refine fails message fun smooth => ?_
    obtain ⟨answer, isAnswer⟩ := smooth.2.resolves repositoryId member
    rw [resolve, missing] at isAnswer
    cases isAnswer
  have resolved : ∀ other ∈ front ++ [repositoryId], ∃ answer,
      scenario.resolve other = .ok answer := by
    rw [List.forall_mem_append, List.forall_mem_singleton]
    exact ⟨passed.resolved, answer, isAnswer⟩
  have located := locate_of_resolve isAnswer
  cases answer with
  | none =>
      refine ensures_pure now ⟨rfl, ?_, passed.pre, passed.changed, resolved⟩
      rw [List.filterMap_append, List.filterMap_cons_none located, List.filterMap_nil,
        List.append_nil]
      exact passed.available
  | some path =>
      apply ensures_bind
      refine ensures_snapshotRepository now (ensures_pure now ⟨rfl, ?_, ?_, ?_, resolved⟩)
        fun message broken => fails message (not_smooth_of_faulty broken)
      · rw [List.filterMap_append, List.filterMap_cons_some located, List.filterMap_nil,
          ← passed.available]
      · rw [List.map_append, List.map_singleton, ← passed.pre]
      · rw [List.filter_append, ← passed.changed, List.filter_singleton]
        by_cases dirty : (world.checkouts path).Dirty scenario.history
        · simp only [snapshotOf, dirty, decide_true, if_true, cond_true]
        · simp only [snapshotOf, dirty, decide_false, Bool.false_eq_true, if_false,
            cond_false, List.append_nil]

theorem ensures_inspectRepositories {always : World Commit Tree → Prop} (now : always world)
    (fails : ∀ message, ¬scenario.Smooth → raises (.error message) world) :
    Ensures scenario.Step always world
      (scenario.declared.foldlM (inspectRepository scenario.config scenario.workspace) {})
      (fun inspected after => after = world ∧
        scenario.Inspects world scenario.declared inspected) raises := by
  refine ensures_foldlM (motive := fun front inspected after => after = world ∧
    scenario.Inspects world front inspected) ?_ ?_ ⟨rfl, rfl, rfl, rfl, nofun⟩
  · intro front repositoryId back inspected after shape passed
    rw [passed.1]
    refine ensures_inspectRepository now ?_ passed.2 fails
    rw [shape]
    exact List.mem_append_right _ (List.mem_cons_self ..)
  · intro front inspected after passed
    rw [passed.1]
    exact now

/-! ## A transaction from its beginning -/

/-- Where commits are automatic, nothing is left to commit. -/
def Complete (scenario : Scenario Commit Tree) (world : World Commit Tree) : Prop :=
  scenario.config.autoCommit = true → ∀ repository ∈ scenario.available,
    Clean scenario.history (world.checkouts repository.2)

omit [DecidableEq Tree] in
theorem affected_of_available (automatic : scenario.config.autoCommit = true)
    {repository : String × String} (member : repository ∈ scenario.available) :
    scenario.Affected repository.2 :=
  ⟨automatic, List.mem_map_of_mem member⟩

/-- The state of the loop over the changed repositories. -/
structure Committing (scenario : Scenario Commit Tree) (world : World Commit Tree)
    (inspected : Inspected Commit) (front : List (String × String))
    (after : World Commit Tree) : Prop where
  sound : scenario.Sound after
  journal : after.journal = world.journal
  clean : ∀ repository ∈ scenario.available,
    repository ∉ inspected.changed ∨ repository ∈ front →
      Clean scenario.history (after.checkouts repository.2)
  ahead : ∀ path ∉ front.map Prod.snd, after.checkouts path = world.checkouts path

theorem ensures_commitRepositories {inspected : Inspected Commit}
    (sound : scenario.Sound world) (newest : Newest scenario.Owns world.journal transaction)
    (pending : transaction.status = .pending) (begun : scenario.Begun transaction)
    (untouched : scenario.Untouched world.checkouts)
    (automatic : scenario.config.autoCommit = true)
    (inspects : scenario.Inspects world scenario.declared inspected)
    (fails : ∀ message after, scenario.Sound after → after.journal = world.journal →
      ¬scenario.Smooth → raises (.error message) after) :
    Ensures scenario.Step scenario.Sound world
      (commitRepositories scenario.config scenario.package inspected.changed)
      (fun _ after => scenario.Sound after ∧ after.journal = world.journal ∧
        ∀ repository ∈ scenario.available,
          Clean scenario.history (after.checkouts repository.2)) raises := by
  have available : inspected.available = scenario.available := inspects.available
  have mem_changed : ∀ repository, repository ∈ inspected.changed ↔
      repository ∈ scenario.available ∧
        (world.checkouts repository.2).Dirty scenario.history := fun repository => by
    rw [inspects.changed, List.mem_filter, available, decide_eq_true_iff]
  have loop : Ensures scenario.Step scenario.Sound world
      (commitRepositories scenario.config scenario.package inspected.changed)
      (fun _ after => scenario.Committing world inspected inspected.changed after) raises := by
    refine ensures_foldlM
      (motive := fun front _ after => scenario.Committing world inspected front after)
      ?_ (fun _ _ _ passed => passed.sound) ⟨sound, rfl, ?_, fun _ _ => rfl⟩
    · intro front repository back _ middle shape passed
      have changes : repository ∈ inspected.changed := by
        rw [shape]
        exact List.mem_append_right _ (List.mem_cons_self ..)
      obtain ⟨member, dirty⟩ := (mem_changed repository).mp changes
      have kept : ∀ after, CommitsAt scenario.history scenario.faulty repository.2 middle after →
          scenario.Sound after := fun after commits =>
        passed.sound.commitsAt (passed.journal ▸ newest) pending begun
          (affected_of_available automatic member) commits
      refine (ensures_gitCommitRepository repository.1 kept ?_).mono ?_
        fun _ _ _ failed => failed
      · intro message after commits refuses
        refine fails message after (kept after commits)
          (commits.journal.trans passed.journal) fun smooth => ?_
        rcases refuses with broken | ⟨required, nothing⟩ | ⟨text, wrong⟩
        · exact smooth.1 broken
        · obtain ⟨distinct, differs, -⟩ := smooth.2.changes required
          have few : inspected.changed.Sublist scenario.available := by
            rw [inspects.changed, available]
            exact List.filter_sublist
          have once := distinct.sublist (few.map Prod.snd)
          rw [shape, List.map_append, List.map_cons] at once
          have first : repository.2 ∉ front.map Prod.snd := fun earlier =>
            (List.nodup_append.mp once).2.2 _ earlier _ (List.mem_cons_self ..) rfl
          rw [passed.ahead _ first, untouched smooth] at nothing
          rw [untouched smooth] at dirty
          exact differs repository member dirty nothing
        · obtain ⟨given, isGiven⟩ := smooth.2.message
          rw [isGiven] at wrong
          cases wrong
      · intro _ after later passes
        obtain ⟨commits, here⟩ := passes
        refine ⟨later, commits.journal.trans passed.journal, fun other isOther either => ?_,
          fun path outside => ?_⟩
        · by_cases same : other.2 = repository.2
          · rw [same]
            exact here
          · rw [commits.others other.2 same]
            refine passed.clean other isOther (either.imp_right fun earlier => ?_)
            rcases List.mem_append.mp earlier with before | last
            · exact before
            · exact absurd (congrArg Prod.snd (List.mem_singleton.mp last)) same
        · rw [List.map_append, List.map_singleton, List.mem_append, List.mem_singleton,
            not_or] at outside
          exact (commits.others path outside.2).trans (passed.ahead path outside.1)
    · intro repository member either
      have unchanged := either.resolve_right List.not_mem_nil
      rw [mem_changed] at unchanged
      exact fun dirty => unchanged ⟨member, dirty⟩
  refine loop.mono (fun _ after _ passed => ?_) fun _ _ _ failed => failed
  exact ⟨passed.sound, passed.journal, fun repository member =>
    passed.clean repository member (Classical.em _).symm⟩

theorem accounts_of_begun {checkouts : String → Checkout Commit Tree}
    (pending : transaction.status = .pending) (begun : scenario.Begun transaction) :
    scenario.Accounts transaction checkouts := by
  rw [Accounts, pending]
  exact Or.inr begun

theorem Begun.congr {other : CommitTransaction Commit} (begun : scenario.Begun transaction)
    (same : other.preSnapshots = transaction.preSnapshots) : scenario.Begun other where
  recorded := by
    rw [same]
    exact begun.recorded
  resolved := begun.resolved
  snapshots := by
    rw [same]
    exact begun.snapshots

/-- The transaction has a record of what the repositories are afterwards. -/
theorem ensures_addPost {transactionId : String} (post : List (RepositorySnapshot Commit))
    {returns : Unit → World Commit Tree → Prop} (sound : scenario.Sound world)
    (newest : Newest scenario.Owns world.journal transaction)
    (identity : transaction.transactionId = transactionId)
    (pending : transaction.status = .pending) (begun : scenario.Begun transaction)
    (holds : ∀ after later, scenario.Sound after → after.checkouts = world.checkouts →
      Newest scenario.Owns after.journal later → later.transactionId = transactionId →
        later.status = .pending → scenario.Begun later → returns () after)
    (fails : ∀ message after, scenario.faulty → scenario.Sound after →
      scenario.Holds transactionId after → raises (.error message) after) :
    Ensures scenario.Step scenario.Sound world (addSnapshots transactionId [] post) returns
      raises := by
  have again : scenario.Begun
      { transaction with
        preSnapshots := transaction.preSnapshots ++ []
        postSnapshots := transaction.postSnapshots ++ post } :=
    begun.congr (List.append_nil _)
  exact ensures_changeTransaction sound newest identity rfl rfl
    (accounts_of_begun pending again)
    (fun after later same there => holds after _ later same there identity pending again) fails

theorem ensures_finish {transactionId : String} (repositories : List (String × String))
    (sound : scenario.Sound world) (newest : Newest scenario.Owns world.journal transaction)
    (identity : transaction.transactionId = transactionId)
    (pending : transaction.status = .pending) (begun : scenario.Begun transaction)
    (complete : scenario.Complete world)
    (fails : ∀ message after, scenario.faulty → scenario.Sound after →
      scenario.Holds transactionId after → raises (.error message) after) :
    Ensures scenario.Step scenario.Sound world
      (do
        let post ← snapshotRepositories repositories
        addSnapshots transactionId [] post
        pure transactionId)
      (fun given after => given = transactionId ∧ scenario.Holds transactionId after ∧
        scenario.Complete after) raises := by
  apply ensures_bind
  refine ensures_snapshotRepositories sound ?_
    fun message broken => fails message world broken sound ⟨transaction, newest, identity⟩
  apply ensures_bind
  refine ensures_addPost _ sound newest identity pending begun
    (fun after later settled same there isSame _ _ => ?_) fails
  refine ensures_pure settled ⟨rfl, ⟨later, there, isSame⟩, fun automatic => ?_⟩
  rw [same]
  exact complete automatic

theorem ensures_tryCommit {transactionId : String} (sound : scenario.Sound world)
    (newest : Newest scenario.Owns world.journal transaction)
    (identity : transaction.transactionId = transactionId)
    (pending : transaction.status = .pending) (empty : transaction.preSnapshots = [])
    (untouched : scenario.Untouched world.checkouts) :
    Ensures scenario.Step scenario.Sound world
      (tryCommit scenario.config scenario.workspace scenario.package transactionId
        scenario.declared)
      (fun given after => given = transactionId ∧ scenario.Holds transactionId after ∧
        scenario.Complete after)
      fun _ after => scenario.Sound after ∧ scenario.Holds transactionId after ∧
        ¬scenario.Smooth := by
  have fails : ∀ (message : String) after, scenario.faulty → scenario.Sound after →
      scenario.Holds transactionId after → scenario.Sound after ∧
        scenario.Holds transactionId after ∧ ¬scenario.Smooth :=
    fun _ after broken later held => ⟨later, held, not_smooth_of_faulty broken⟩
  unfold tryCommit
  apply ensures_bind
  refine (ensures_inspectRepositories sound fun message rough =>
    ⟨sound, ⟨transaction, newest, identity⟩, rough⟩).mono ?_ fun _ _ _ failed => failed
  intro inspected middle _ passed
  obtain ⟨same, inspects⟩ := passed
  rw [same]
  have available : inspected.available = scenario.available := inspects.available
  have begun : scenario.Begun
      { transaction with
        preSnapshots := transaction.preSnapshots ++ inspected.pre
        postSnapshots := transaction.postSnapshots ++ [] } := by
    refine ⟨?_, inspects.resolved, fun smooth => ?_⟩
    · show (transaction.preSnapshots ++ inspected.pre).map _ = _
      rw [empty, List.nil_append, inspects.pre, List.map_map, available]
      rfl
    · show transaction.preSnapshots ++ inspected.pre = _
      rw [empty, List.nil_append, inspects.pre, available, untouched smooth]
  apply ensures_bind
  refine ensures_changeTransaction sound newest identity rfl rfl
    (accounts_of_begun pending begun) (fun after later same there => ?_) fails
  have still : scenario.Untouched after.checkouts := by
    rw [same]
    exact untouched
  refine ensures_ite (fun absent => ?_) fun _ => ?_
  · refine ensures_raise later ⟨later, ⟨_, there, identity⟩, fun smooth => ?_⟩
    exact smooth.2.present (available.symm.trans absent.2)
  refine ensures_ite (fun unchanged => ?_) fun _ => ?_
  · refine ensures_raise later ⟨later, ⟨_, there, identity⟩, fun smooth => ?_⟩
    obtain ⟨-, -, changes⟩ := smooth.2.changes unchanged.2.1
    obtain ⟨repository, member, dirty⟩ := changes.resolve_left unchanged.2.2.2
    have changed : repository ∈ inspected.changed := by
      rw [inspects.changed, List.mem_filter, available, untouched smooth]
      exact ⟨member, decide_eq_true dirty⟩
    rw [unchanged.2.2.1] at changed
    cases changed
  have inspectsAfter : scenario.Inspects after scenario.declared inspected := by
    refine ⟨inspects.available, ?_, ?_, inspects.resolved⟩
    · rw [same]
      exact inspects.pre
    · rw [same]
      exact inspects.changed
  refine ensures_ite (fun noop => ?_) fun _ => ?_
  · refine ensures_finish _ later there identity pending begun (fun _ repository member => ?_)
      fails
    by_contra dirty
    have changed : repository ∈ inspected.changed := by
      rw [inspectsAfter.changed, List.mem_filter, available]
      exact ⟨member, decide_eq_true (not_not.mp dirty)⟩
    rw [noop.1] at changed
    cases changed
  refine ensures_ite (fun automatic => ?_) fun manual => ?_
  · have heldAfter : ∀ final : World Commit Tree, final.journal = after.journal →
        scenario.Holds transactionId final := fun final journal => by
      rw [Holds, journal]
      exact ⟨_, there, identity⟩
    apply ensures_bind
    refine (ensures_commitRepositories later there pending begun still automatic inspectsAfter
      fun _ final settled journal rough => ⟨settled, heldAfter final journal, rough⟩).mono ?_
        fun _ _ _ failed => failed
    intro _ final _ passed
    obtain ⟨settled, journal, clean⟩ := passed
    rw [← journal] at there
    exact ensures_finish _ settled there identity pending begun (fun _ => clean) fails
  · exact ensures_finish _ later there identity pending begun
      (fun automatic => absurd automatic manual) fails

theorem ensures_journalBegin {transactionId timestamp : String}
    {returns : Unit → World Commit Tree → Prop} (sound : scenario.Sound world)
    (untouched : scenario.Untouched world.checkouts)
    (absent : transactionId ∉ world.journal.map CommitTransaction.transactionId)
    (holds : ∀ after begun, scenario.Sound after → after.checkouts = world.checkouts →
      Newest scenario.Owns after.journal begun → begun.transactionId = transactionId →
        begun.status = .pending → begun.preSnapshots = [] → returns () after)
    (fails : ∀ message after, scenario.faulty → raises (.error message) after) :
    Ensures scenario.Step scenario.Sound world
      (journalBegin transactionId timestamp scenario.package.id) returns raises := by
  have written : ∀ final, Performed scenario.history world
      (.writeJournal (upsert CommitTransaction.transactionId
        { transactionId := transactionId
          timestamp := timestamp
          workPackageId := scenario.package.id } world.journal)) () final →
      scenario.Sound final ∧ returns () final := by
    intro final performed
    have newest : Newest scenario.Owns
        (upsert CommitTransaction.transactionId
          { transactionId := transactionId
            timestamp := timestamp
            workPackageId := scenario.package.id } world.journal) _ :=
      newest_upsert_of_absent absent rfl
    have settled := sound.write (nodup_upsert sound.distinct) newest
      (Or.inl ⟨rfl, untouched⟩)
    rw [show final = _ from performed]
    exact ⟨settled, holds _ _ settled rfl newest rfl rfl rfl⟩
  unfold journalBegin
  apply ensures_bind
  refine ensures_look sound (fun journal performed => ?_)
    fun message broken => fails message world broken
  rw [performed.1]
  refine ensures_ask sound (fun _ final performed => written final performed)
    fun message final broken disturbed => ⟨?_, fails message final broken⟩
  rcases disturbed with same | ⟨_, performed⟩ | ⟨_, _, adds, _⟩
  · rw [same]
    exact sound
  · exact (written final performed).1
  · cases adds

theorem ensures_beginCommitTransaction (sound : scenario.Sound world)
    (untouched : scenario.Untouched world.checkouts) :
    Ensures scenario.Step scenario.Sound world
      (beginCommitTransaction scenario.config scenario.workspace scenario.package)
      (fun given after => scenario.Holds given after ∧ scenario.Complete after)
      fun _ _ => ¬scenario.Smooth := by
  have fails : ∀ (_ : String), scenario.faulty → ¬scenario.Smooth :=
    fun _ broken => not_smooth_of_faulty broken
  unfold beginCommitTransaction
  apply ensures_bind
  refine ensures_look sound (fun _ _ => ?_) fails
  apply ensures_bind
  refine ensures_look sound (fun transactionId performed => ?_) fails
  apply ensures_bind
  refine ensures_look sound (fun timestamp _ => ?_) fails
  apply ensures_bind
  refine ensures_journalBegin sound untouched performed.1
    (fun after begun later same newest identity pending empty => ?_)
    fun _ _ broken => not_smooth_of_faulty broken
  have still : scenario.Untouched after.checkouts := by
    rw [same]
    exact untouched
  refine ensures_ite (fun absent => ?_) fun _ => ?_
  · refine (ensures_abandon later ⟨begun, newest, identity⟩ still).mono
      (fun _ _ _ passed => passed) fun _ _ _ _ smooth => smooth.2.present ?_
    have none : scenario.declared = [] := absent.2
    rw [available, none, List.filterMap_nil]
  · apply ensures_handling
    refine (ensures_tryCommit later newest identity pending empty still).mono ?_ ?_
    · intro given final _ passed
      rw [passed.1]
      exact passed.2
    · intro failure final _ failed
      obtain ⟨settled, held, rough⟩ := failed
      exact (ensures_abandon settled held fun smooth => absurd smooth rough).mono
        (fun _ _ _ passed => passed) fun _ _ _ _ => rough

/-- The newest transaction is committed. -/
def Stored (scenario : Scenario Commit Tree) (transactionId : String)
    (world : World Commit Tree) : Prop :=
  ∃ transaction, Newest scenario.Owns world.journal transaction ∧
    transaction.transactionId = transactionId ∧ transaction.status = .committed

theorem ensures_journalCommit {transactionId : String} (sound : scenario.Sound world)
    (held : scenario.Holds transactionId world) (complete : scenario.Complete world)
    (fails : ∀ message after, scenario.faulty → scenario.Sound after →
      scenario.Holds transactionId after → raises (.error message) after) :
    Ensures scenario.Step scenario.Sound world (journalCommit transactionId)
      (fun _ after => scenario.Stored transactionId after) raises := by
  obtain ⟨transaction, newest, identity⟩ := held
  exact ensures_changeTransaction sound newest identity rfl rfl complete
    (fun _ _ _ there => ⟨_, there, identity, rfl⟩) fails

theorem ensures_commitFresh (sound : scenario.Sound world)
    (untouched : scenario.Untouched world.checkouts) :
    Ensures scenario.Step scenario.Sound world
      (commitFresh scenario.config scenario.workspace scenario.package)
      scenario.Stored fun _ _ => ¬scenario.Smooth := by
  unfold commitFresh
  apply ensures_bind
  refine (ensures_beginCommitTransaction sound untouched).mono ?_ fun _ _ _ failed => failed
  intro transactionId after later passed
  apply ensures_bind
  refine (ensures_journalCommit later passed.1 passed.2
    fun _ _ broken _ _ => not_smooth_of_faulty broken).mono ?_ fun _ _ _ failed => failed
  exact fun _ _ settled stored => ensures_pure settled stored

end Scenario

end Execraft.Orchestrate.Commits
