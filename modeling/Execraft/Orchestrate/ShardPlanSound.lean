import Execraft.Foundation.Graph.Expansion
import Execraft.Orchestrate.ShardPlan
import Execraft.Orchestrate.StageHandlers

/-!
# A checked decomposition keeps the plan

The shards of an accepted plan cover their package and stay inside of it, and the graph in
which they are inserted orders everything else as before.
-/

namespace Execraft.Orchestrate.Sharding

open Foundation Foundation.Json Foundation.Text Foundation.Graph Relation

/-! ## What the checks establish -/

section Checks

variable {py : ShardInterpreter} {policy : DecompositionPolicy} {parent : WorkPackage}

theorem refuse_eq_ok {wrong : Prop} [Decidable wrong] {message : String} {value : Unit}
    (passed : refuse wrong message = .ok value) : ¬ wrong := by
  intro isWrong
  rw [refuse, if_pos isWrong] at passed
  cases passed

theorem mem_sortedTexts {text : String} {texts : List String} :
    text ∈ sortedTexts texts ↔ text ∈ texts :=
  List.mem_insertionSort _

theorem mem_sortedNumbers {number : Int} {numbers : List Int} :
    number ∈ sortedNumbers numbers ↔ number ∈ numbers :=
  List.mem_insertionSort _

/-- An index names one of some items, counted from one. -/
def Names (count : Nat) (index : Int) : Prop :=
  1 ≤ index ∧ index ≤ count

/-- What a shard that was read keeps to. -/
structure SoundItem (policy : DecompositionPolicy) (parent : WorkPackage) (item : ShardItem) :
    Prop where
  complexity : 1 ≤ item.complexity ∧ item.complexity ≤ policy.maximumShardComplexity
  repositories : item.repositories ⊆ parent.affectedRepositories
  requirements : ∀ index ∈ item.requirementIndexes, Names parent.requirements.length index
  criteria : item.criterionIds ⊆ parent.acceptanceCriteria.map AcceptanceCriterion.id
  findings : ∀ index ∈ item.findingIndexes, Names parent.runtime.reviewFindings.length index

theorem readComplexity_spec {id : String} {raw : Row} {complexity : Int}
    (read : readComplexity py policy id raw = .ok complexity) :
    1 ≤ complexity ∧ complexity ≤ policy.maximumShardComplexity := by
  rw [readComplexity] at read
  split at read
  · cases read
  · split at read
    · rename_i bounded
      cases read
      exact bounded
    · cases read

theorem readRepositories_spec {id : String} {raw : Row} {repositories : List String}
    (read : readRepositories py parent id raw = .ok repositories) :
    repositories ⊆ parent.affectedRepositories := by
  obtain ⟨listed, -, read⟩ := bind_eq_ok.mp read
  obtain ⟨_, -, read⟩ := bind_eq_ok.mp read
  obtain ⟨_, known, read⟩ := bind_eq_ok.mp read
  cases read
  intro repository member
  by_contra unknown
  apply refuse_eq_ok known
  apply List.ne_nil_of_mem (a := repository)
  rw [List.mem_eraseDups, List.mem_filter]
  exact ⟨member, decide_eq_true unknown⟩

theorem readIndexes_spec {id name kind : String} {count : Nat} {raw : Row}
    {indexes : List Int} (read : readIndexes py id name kind count raw = .ok indexes) :
    ∀ index ∈ indexes, Names count index := by
  obtain ⟨listed, -, read⟩ := bind_eq_ok.mp read
  obtain ⟨_, valid, read⟩ := bind_eq_ok.mp read
  cases read
  intro index member
  by_contra invalid
  apply refuse_eq_ok valid
  apply List.ne_nil_of_mem (a := index)
  rw [invalidIndexes, mem_sortedNumbers, List.mem_filter, decide_eq_true_iff]
  refine ⟨member, ?_⟩
  rw [Names, not_and_or] at invalid
  omega

theorem readCriterionIds_spec {id : String} {raw : Row} {criterionIds : List String}
    (read : readCriterionIds py parent id raw = .ok criterionIds) :
    criterionIds ⊆ parent.acceptanceCriteria.map AcceptanceCriterion.id := by
  obtain ⟨listed, -, read⟩ := bind_eq_ok.mp read
  obtain ⟨_, known, read⟩ := bind_eq_ok.mp read
  cases read
  intro criterionId member
  by_contra unknown
  apply refuse_eq_ok known
  apply List.ne_nil_of_mem (a := criterionId)
  rw [mem_sortedTexts, List.mem_filter]
  exact ⟨member, decide_eq_true unknown⟩

/-- A shard that is read is sound and has an identity of its own. -/
theorem readShard_spec {index : Nat} {seen : List String} {raw : Row} {item : ShardItem}
    (read : readShard py policy parent index seen raw = .ok item) :
    SoundItem policy parent item ∧ item.id ∉ seen := by
  obtain ⟨_, -, read⟩ := bind_eq_ok.mp read
  obtain ⟨_, fresh, read⟩ := bind_eq_ok.mp read
  obtain ⟨_, -, read⟩ := bind_eq_ok.mp read
  obtain ⟨complexity, bounded, read⟩ := bind_eq_ok.mp read
  obtain ⟨repositories, known, read⟩ := bind_eq_ok.mp read
  obtain ⟨requirementIndexes, requirements, read⟩ := bind_eq_ok.mp read
  obtain ⟨criterionIds, criteria, read⟩ := bind_eq_ok.mp read
  obtain ⟨findingIndexes, findings, read⟩ := bind_eq_ok.mp read
  obtain ⟨dependsOn, -, read⟩ := bind_eq_ok.mp read
  obtain ⟨readScope, -, read⟩ := bind_eq_ok.mp read
  obtain ⟨writeScope, -, read⟩ := bind_eq_ok.mp read
  obtain ⟨conflictKeys, -, read⟩ := bind_eq_ok.mp read
  cases read
  exact ⟨⟨readComplexity_spec bounded, readRepositories_spec known,
    readIndexes_spec requirements, readCriterionIds_spec criteria,
    readIndexes_spec findings⟩, refuse_eq_ok fresh⟩

theorem readShards_spec {elements : List Json} {index : Nat} {seen : List String}
    {items : List ShardItem} (read : readShards py policy parent index seen elements = .ok items) :
    (∀ item ∈ items, SoundItem policy parent item) ∧ (items.map ShardItem.id).Nodup ∧
      ∀ item ∈ items, item.id ∉ seen := by
  induction elements generalizing index seen items with
  | nil =>
      cases read
      simp
  | cons element rest inductionHypothesis =>
      cases element with
      | object fields =>
          obtain ⟨item, here, read⟩ := bind_eq_ok.mp read
          obtain ⟨others, later, read⟩ := bind_eq_ok.mp read
          cases read
          obtain ⟨sound, fresh⟩ := readShard_spec here
          obtain ⟨allSound, distinct, allFresh⟩ := inductionHypothesis later
          refine ⟨List.forall_mem_cons.mpr ⟨sound, allSound⟩, ?_, ?_⟩
          · rw [List.map_cons, List.nodup_cons]
            refine ⟨?_, distinct⟩
            intro again
            obtain ⟨other, member, same⟩ := List.mem_map.mp again
            exact allFresh other member (same ▸ List.mem_cons_self)
          · refine List.forall_mem_cons.mpr ⟨fresh, ?_⟩
            intro other member isSeen
            exact allFresh other member (List.mem_cons_of_mem _ isSeen)
      | null => cases read
      | bool value => cases read
      | int value => cases read
      | float text => cases read
      | nonFinite literal => cases read
      | string text => cases read
      | array values => cases read

/-- Each number from one to the count is in one of the sets. -/
theorem covered_of_missing_eq_nil {count : Nat} {sets : List (List Int)}
    (none : missingIndexes count sets = []) {position : Nat} (inside : position < count) :
    ∃ indexes ∈ sets, (position : Int) + 1 ∈ indexes := by
  by_contra uncovered
  have left : (position : Int) + 1 ∈ missingIndexes count sets := by
    rw [missingIndexes, List.mem_filter]
    refine ⟨List.mem_map_of_mem (List.mem_range.mpr inside), decide_eq_true ?_⟩
    intro covered
    exact uncovered (List.mem_flatten.mp covered)
  rw [none] at left
  cases left

/-- The items leave nothing of the package out. -/
structure Covered (parent : WorkPackage) (items : List ShardItem) : Prop where
  requirements : ∀ position < parent.requirements.length,
    ∃ item ∈ items, (position : Int) + 1 ∈ item.requirementIndexes
  criteria : ∀ criterion ∈ parent.acceptanceCriteria,
    ∃ item ∈ items, criterion.id ∈ item.criterionIds
  findings : ∀ position < parent.runtime.reviewFindings.length,
    ∃ item ∈ items, (position : Int) + 1 ∈ item.findingIndexes

theorem checkCoverage_spec {items : List ShardItem} {value : Unit}
    (checked : checkCoverage py parent items = .ok value) : Covered parent items := by
  obtain ⟨_, requirements, checked⟩ := bind_eq_ok.mp checked
  obtain ⟨_, criteria, findings⟩ := bind_eq_ok.mp checked
  constructor
  · intro position inside
    obtain ⟨indexes, listed, member⟩ :=
      covered_of_missing_eq_nil (not_not.mp (refuse_eq_ok requirements)) inside
    obtain ⟨item, isItem, same⟩ := List.mem_map.mp listed
    exact ⟨item, isItem, same ▸ member⟩
  · intro criterion member
    by_contra uncovered
    apply refuse_eq_ok criteria
    apply List.ne_nil_of_mem (a := criterion.id)
    rw [mem_sortedTexts, List.mem_filter, List.mem_eraseDups]
    refine ⟨List.mem_map_of_mem member, decide_eq_true ?_⟩
    intro covered
    obtain ⟨criterionIds, listed, inIds⟩ := List.mem_flatten.mp covered
    obtain ⟨item, isItem, same⟩ := List.mem_map.mp listed
    exact uncovered ⟨item, isItem, same ▸ inIds⟩
  · intro position inside
    have present : parent.runtime.reviewFindings ≠ [] := List.length_pos_iff.mp (by omega)
    have none : missingIndexes parent.runtime.reviewFindings.length
        (items.map ShardItem.findingIndexes) = [] := by
      by_contra some
      exact refuse_eq_ok findings ⟨present, some⟩
    obtain ⟨indexes, listed, member⟩ := covered_of_missing_eq_nil none inside
    obtain ⟨item, isItem, same⟩ := List.mem_map.mp listed
    exact ⟨item, isItem, same ▸ member⟩

theorem checkDependencies_spec {ids : List String} {item : ShardItem} {value : Unit}
    (checked : checkDependencies ids item = .ok value) : item.dependsOn ⊆ ids := by
  obtain ⟨_, known, -⟩ := bind_eq_ok.mp checked
  intro dependency member
  by_contra unknown
  apply refuse_eq_ok known
  apply List.ne_nil_of_mem (a := dependency)
  rw [List.mem_eraseDups, List.mem_filter]
  exact ⟨member, decide_eq_true unknown⟩

/-- One shard waits for another one, by their identities. -/
def LocallyDepends (items : List ShardItem) (id other : String) : Prop :=
  ∃ item ∈ items, item.id = id ∧ other ∈ item.dependsOn

theorem mem_localDependencies {items : List ShardItem}
    (distinct : (items.map ShardItem.id).Nodup) {id other : String} :
    other ∈ localDependencies items id ↔ LocallyDepends items id other := by
  rw [localDependencies, List.mem_eraseDups]
  constructor
  · intro member
    cases found : items.find? fun item => item.id = id with
    | none =>
        rw [found] at member
        cases member
    | some item =>
        rw [found] at member
        exact ⟨item, List.mem_of_find?_eq_some found,
          by simpa using List.find?_some found, member⟩
  · rintro ⟨item, isItem, same, member⟩
    have found : items.find? (fun item => item.id = id) = some item := by
      cases first : items.find? fun item => item.id = id with
      | none =>
          have excluded := List.find?_eq_none.mp first item isItem
          exact absurd (decide_eq_true same) excluded
      | some other =>
          have otherId : other.id = id := by simpa using List.find?_some first
          rw [List.inj_on_of_nodup_map distinct (List.mem_of_find?_eq_some first) isItem
            (otherId.trans same.symm)]
    rw [found]
    exact member

theorem validateLocalAcyclic_spec {items : List ShardItem} {value : Unit}
    (distinct : (items.map ShardItem.id).Nodup)
    (checked : validateLocalAcyclic items = .ok value) : Acyclic (LocallyDepends items) := by
  have branching : ∀ id, localDependencies items id ≠ [] → id ∈ items.map ShardItem.id := by
    intro id some
    obtain ⟨other, member⟩ := List.exists_mem_of_ne_nil _ some
    obtain ⟨item, isItem, same, -⟩ := (mem_localDependencies distinct).mp member
    exact same ▸ List.mem_map_of_mem isItem
  have enough : (items.map ShardItem.id).length < items.length + 1 := by simp
  have completed : ∃ search, searchAll (localDependencies items) (items.length + 1)
      (items.map ShardItem.id) = .ok search := by
    rw [validateLocalAcyclic] at checked
    cases outcome : searchAll (localDependencies items) (items.length + 1)
        (items.map ShardItem.id) with
    | ok search => exact ⟨search, rfl⟩
    | error failure =>
        rw [outcome] at checked
        cases failure with
        | cycle path => cases checked
        | exhausted => cases checked
  have acyclic := (searchAll_ok_iff branching enough).mp completed
  intro id cycle
  exact acyclic id
    (path_mono (fun _ _ edge => .single ((mem_localDependencies distinct).mpr edge)) cycle)

/-- The items of an accepted plan. -/
structure CheckedItems (policy : DecompositionPolicy) (parent : WorkPackage)
    (items : List ShardItem) : Prop where
  sound : ∀ item ∈ items, SoundItem policy parent item
  distinct : (items.map ShardItem.id).Nodup
  covered : Covered parent items
  closed : ∀ item ∈ items, item.dependsOn ⊆ items.map ShardItem.id
  acyclic : Acyclic (LocallyDepends items)

theorem validateShards_spec {payload : Row} {proposals : List ShardProposal}
    (accepted : validateShards py policy parent payload = .ok proposals) :
    ∃ items, CheckedItems policy parent items ∧ proposals = items.map (proposalOf parent) := by
  rw [validateShards] at accepted
  split at accepted
  · obtain ⟨_, -, accepted⟩ := bind_eq_ok.mp accepted
    obtain ⟨items, read, accepted⟩ := bind_eq_ok.mp accepted
    obtain ⟨_, coverage, accepted⟩ := bind_eq_ok.mp accepted
    obtain ⟨_, dependencies, accepted⟩ := bind_eq_ok.mp accepted
    obtain ⟨_, acyclic, accepted⟩ := bind_eq_ok.mp accepted
    cases accepted
    obtain ⟨sound, distinct, -⟩ := readShards_spec read
    refine ⟨items, ⟨sound, distinct, checkCoverage_spec coverage, ?_,
      validateLocalAcyclic_spec distinct acyclic⟩, rfl⟩
    intro item member
    exact checkDependencies_spec (forM_eq_ok.mp dependencies item member)
  · cases accepted

/-- An accepted plan that shards comes from checked items. -/
theorem validateDecompositionPayload_spec {payload : Row} {generatedBy : String}
    {plan : ValidatedDecomposition}
    (accepted : validateDecompositionPayload py policy parent payload generatedBy = .ok plan)
    (shards : plan.decision = "shard") :
    ∃ items, CheckedItems policy parent items ∧
      plan.proposals = items.map (proposalOf parent) := by
  obtain ⟨_, -, accepted⟩ := bind_eq_ok.mp accepted
  obtain ⟨_, -, accepted⟩ := bind_eq_ok.mp accepted
  rcases ite_eq_iff.mp accepted with ⟨atomic, kept⟩ | ⟨-, accepted⟩
  · have decided := congrArg ValidatedDecomposition.decision (Except.ok.inj kept)
    rw [← decided] at shards
    exact absurd (atomic.symm.trans shards) (by decide)
  · obtain ⟨proposals, valid, accepted⟩ := bind_eq_ok.mp accepted
    obtain ⟨_, -, accepted⟩ := bind_eq_ok.mp accepted
    have proposed := congrArg ValidatedDecomposition.proposals (Except.ok.inj accepted)
    rw [← proposed]
    exact validateShards_spec valid

end Checks

/-! ## The shards of an accepted plan -/

section Children

variable {policy : DecompositionPolicy} {parent : WorkPackage} {generatedBy : String}

theorem mem_shardPackages {proposals : List ShardProposal} {child : WorkPackage}
    (member : child ∈ shardPackages parent generatedBy proposals) :
    ∃ extra, ∃ proposal ∈ proposals,
      child = shardPackage parent generatedBy extra proposal := by
  induction proposals with
  | nil => cases member
  | cons proposal rest inductionHypothesis =>
      rcases List.mem_cons.mp member with head | later
      · exact ⟨_, proposal, List.mem_cons_self, head⟩
      · obtain ⟨extra, other, listed, same⟩ := inductionHypothesis later
        exact ⟨extra, other, List.mem_cons_of_mem _ listed, same⟩

theorem exists_shardPackage {proposals : List ShardProposal} {proposal : ShardProposal}
    (member : proposal ∈ proposals) :
    ∃ extra, shardPackage parent generatedBy extra proposal ∈
      shardPackages parent generatedBy proposals := by
  induction proposals with
  | nil => cases member
  | cons head rest inductionHypothesis =>
      rcases List.mem_cons.mp member with same | later
      · rw [same]
        exact ⟨_, List.mem_cons_self⟩
      · obtain ⟨extra, listed⟩ := inductionHypothesis later
        exact ⟨extra, List.mem_cons_of_mem _ listed⟩

theorem mem_itemsAt {texts : List String} {indexes : List Int} {position : Nat}
    (inside : position < texts.length) (named : (position : Int) + 1 ∈ indexes) :
    texts[position] ∈ itemsAt texts indexes := by
  refine List.mem_map.mpr ⟨(position : Int) + 1, mem_sortedNumbers.mpr named, ?_⟩
  have same : ((position : Int) + 1 - 1).toNat = position := by omega
  rw [same, List.getD_eq_getElem?_getD, List.getElem?_eq_getElem inside]
  rfl

theorem itemsAt_subset {texts : List String} {indexes : List Int}
    (valid : ∀ index ∈ indexes, Names texts.length index) : itemsAt texts indexes ⊆ texts := by
  intro text member
  obtain ⟨index, listed, same⟩ := List.mem_map.mp member
  obtain ⟨lower, upper⟩ := valid index (mem_sortedNumbers.mp listed)
  have inside : (index - 1).toNat < texts.length := by omega
  rw [← same, List.getD_eq_getElem?_getD, List.getElem?_eq_getElem inside]
  exact List.getElem_mem inside

/-- The criterion of a shard repeats one of the package. -/
theorem criterionOf_own {criterionId : String}
    (known : criterionId ∈ parent.acceptanceCriteria.map AcceptanceCriterion.id) :
    ∃ own ∈ parent.acceptanceCriteria, own.id = criterionId ∧
      own.description = (criterionOf parent criterionId).description := by
  obtain ⟨criterion, member, same⟩ := List.mem_map.mp known
  have present : (parent.acceptanceCriteria.reverse.find? fun criterion =>
      criterion.id = criterionId).isSome = true :=
    List.find?_isSome.mpr ⟨criterion, List.mem_reverse.mpr member, decide_eq_true same⟩
  obtain ⟨own, found⟩ := Option.isSome_iff_exists.mp present
  obtain ⟨listed, id⟩ := find?_key_some found
  refine ⟨own, List.mem_reverse.mp listed, id, ?_⟩
  rw [criterionOf, found]
  rfl

/-- Nothing of the package is left out by its shards. -/
structure CoversParent (parent : WorkPackage) (children : List WorkPackage) : Prop where
  requirements : ∀ requirement ∈ parent.requirements,
    ∃ child ∈ children, requirement ∈ child.requirements
  criteria : ∀ criterion ∈ parent.acceptanceCriteria,
    ∃ child ∈ children, criterion.id ∈ child.acceptanceCriteria.map AcceptanceCriterion.id
  findings : ∀ finding ∈ parent.runtime.reviewFindings,
    ∃ child ∈ children, finding ∈ child.runtime.reviewFindings

/-- A shard stays inside of its package, and one that writes alongside others has a
repository of its own. -/
structure StaysInside (policy : DecompositionPolicy) (parent child : WorkPackage) : Prop where
  requirements : child.requirements ⊆ parent.requirements
  criteria : ∀ criterion ∈ child.acceptanceCriteria, ∃ own ∈ parent.acceptanceCriteria,
    own.id = criterion.id ∧ own.description = criterion.description
  findings : child.runtime.reviewFindings ⊆ parent.runtime.reviewFindings
  repositories : child.affectedRepositories ⊆ parent.affectedRepositories
  complexity : 1 ≤ child.complexity ∧ child.complexity ≤ policy.maximumShardComplexity
  exclusive : child.executionMode ≠ "review_shard" → child.parallelSafe = true →
    child.affectedRepositories.length = 1

/-- The shard of an item is one of the shards. -/
theorem exists_child (generatedBy : String) {items : List ShardItem} {item : ShardItem}
    (member : item ∈ items) :
    ∃ extra, shardPackage parent generatedBy extra (proposalOf parent item) ∈
      shardPackages parent generatedBy (items.map (proposalOf parent)) :=
  exists_shardPackage (List.mem_map_of_mem member)

theorem Covered.children {items : List ShardItem} (covered : Covered parent items) :
    CoversParent parent (shardPackages parent generatedBy (items.map (proposalOf parent))) := by
  constructor
  · intro requirement member
    obtain ⟨position, inside, same⟩ := List.mem_iff_getElem.mp member
    obtain ⟨item, isItem, named⟩ := covered.requirements position inside
    obtain ⟨extra, listed⟩ := exists_child generatedBy isItem
    exact ⟨_, listed, same ▸ mem_itemsAt inside named⟩
  · intro criterion member
    obtain ⟨item, isItem, named⟩ := covered.criteria criterion member
    obtain ⟨extra, listed⟩ := exists_child generatedBy isItem
    refine ⟨_, listed, List.mem_map.mpr ⟨criterionOf parent criterion.id, ?_, rfl⟩⟩
    exact List.mem_map_of_mem (mem_sortedTexts.mpr named)
  · intro finding member
    obtain ⟨position, inside, same⟩ := List.mem_iff_getElem.mp member
    obtain ⟨item, isItem, named⟩ := covered.findings position inside
    obtain ⟨extra, listed⟩ := exists_child generatedBy isItem
    exact ⟨_, listed, same ▸ mem_itemsAt inside named⟩

/-- Only a shard that reviews does not write. -/
theorem childExecution_readOnly {originStage : String}
    (writes : (childExecution originStage).2.1 ≠ "review_shard") :
    (childExecution originStage).2.2 = false := by
  unfold childExecution at writes ⊢
  split
  · rename_i reviews
    rw [if_pos reviews] at writes
    exact absurd rfl writes
  · split
    · rfl
    · rfl

theorem SoundItem.child {item : ShardItem} (sound : SoundItem policy parent item)
    (extra : Int) :
    StaysInside policy parent
      (shardPackage parent generatedBy extra (proposalOf parent item)) := by
  refine ⟨itemsAt_subset sound.requirements, ?_, itemsAt_subset sound.findings,
    sound.repositories, sound.complexity, ?_⟩
  · intro criterion member
    obtain ⟨criterionId, listed, same⟩ := List.mem_map.mp member
    obtain ⟨own, known, id, description⟩ :=
      criterionOf_own (sound.criteria (mem_sortedTexts.mp listed))
    rw [← same]
    exact ⟨own, known, id, description⟩
  · intro writes parallel
    obtain ⟨-, apart⟩ := Bool.and_eq_true_iff.mp parallel
    rw [childExecution_readOnly writes, Bool.false_or, decide_eq_true_iff] at apart
    exact apart

end Children

end Execraft.Orchestrate.Sharding
