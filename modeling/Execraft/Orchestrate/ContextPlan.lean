import Execraft.Orchestrate.ContextBudget

/-!
# Plans within the budget

A truncated text stays within its tokens; a plan fails exactly when what is required does
not fit, and accounts for every block otherwise.
-/

namespace Execraft.Orchestrate

open Foundation Foundation.Text

/-! ## Truncated texts -/

/-- As many bytes as the tokens leave behind the framing. -/
theorem estimateTokens_le {text : String} {tokens : Int}
    (fits : 2 * (text.utf8ByteSize : Int) ≤ (tokens - 2) * 7)
    (room : text.utf8ByteSize ≠ 0 → 2 < tokens) (positive : 0 ≤ tokens) :
    (estimateTokens text : Int) ≤ tokens := by
  unfold estimateTokens
  split
  · exact positive
  · rename_i nonempty
    have more := room nonempty
    omega

theorem utf8ByteSize_extract_le (bytes : ByteArray) (start stop : Nat) :
    (decodeIgnoring (bytes.extract start stop)).utf8ByteSize ≤ stop - start := by
  have decoded := utf8ByteSize_decodeIgnoring (bytes.extract start stop)
  rw [ByteArray.size_extract] at decoded
  omega

/-- The bounded text has at most the bytes of its budget. -/
theorem utf8ByteSize_boundText (text : String) (byteBudget : Nat) (fromEnd : Bool)
    (suffix : String) :
    (boundText text byteBudget fromEnd suffix).utf8ByteSize ≤ byteBudget := by
  have shown : (if suffix.utf8ByteSize < byteBudget then suffix else "").utf8ByteSize ≤
      byteBudget := by
    split
    · omega
    · exact Nat.zero_le _
  unfold boundText
  generalize (if suffix.utf8ByteSize < byteBudget then suffix else "") = marker at shown
  dsimp only
  split
  · have tail := utf8ByteSize_extract_le text.toByteArray
      (text.toByteArray.size - (byteBudget - marker.utf8ByteSize)) text.toByteArray.size
    rw [String.utf8ByteSize_append]
    omega
  · have front := utf8ByteSize_extract_le text.toByteArray 0
      (byteBudget - marker.utf8ByteSize)
    rw [String.utf8ByteSize_append]
    omega

theorem estimateTokens_truncateToTokens (text : String) {maximumTokens : Int}
    (positive : 0 ≤ maximumTokens) (fromEnd : Bool) (suffix : String) :
    (estimateTokens (truncateToTokens text maximumTokens fromEnd suffix) : Int) ≤
      maximumTokens := by
  have empty : (estimateTokens "" : Int) ≤ maximumTokens := by
    simpa [estimateTokens] using positive
  unfold truncateToTokens
  split
  · assumption
  · split
    · exact empty
    · dsimp only
      split
      · exact empty
      · have bytes := utf8ByteSize_boundText text ((maximumTokens - 2) * 7 / 2).toNat fromEnd
          suffix
        apply estimateTokens_le
        · omega
        · omega
        · exact positive

/-! ## Winners -/

namespace ContextPlanner

/-- An assignment exchanges the old value for the new one. -/
theorem perm_setEntry {Value : Type} {name : String} {old value : Value}
    {entries : List (String × Value)} (found : getEntry name entries = some old) :
    (old :: (setEntry name value entries).map Prod.snd).Perm
      (value :: entries.map Prod.snd) := by
  induction entries with
  | nil => cases found
  | cons head tail inductionHypothesis =>
      rw [getEntry] at found
      rw [setEntry]
      by_cases same : head.1 = name
      · rw [if_pos same] at found
        rw [if_pos same, List.map_cons, List.map_cons, Option.some.inj found]
        exact List.Perm.swap _ _ _
      · rw [if_neg same] at found
        rw [if_neg same, List.map_cons, List.map_cons]
        have rest := inductionHypothesis found
        exact (List.Perm.swap _ _ _).trans ((rest.cons _).trans (List.Perm.swap _ _ _))

/-- Each block is stored under its own key, and none is lost. -/
structure Accounts (blocks : List ContextBlock) (unique : Unique) : Prop where
  keyed : ∀ entry ∈ unique.blocks.entries, entry.2.key = entry.1
  accounted : (unique.blocks.entries.map Prod.snd ++
    unique.duplicates.map ContextReport.block).Perm blocks

theorem mem_setEntry {Value : Type} {name : String} {value : Value}
    {entries : List (String × Value)} {entry : String × Value}
    (member : entry ∈ setEntry name value entries) :
    entry = (name, value) ∨ entry ∈ entries := by
  induction entries with
  | nil => exact Or.inl (List.mem_singleton.mp member)
  | cons head tail inductionHypothesis =>
      rw [setEntry] at member
      split at member
      · rename_i same
        rcases List.mem_cons.mp member with rfl | later
        · exact Or.inl (by rw [same])
        · exact Or.inr (List.mem_cons_of_mem _ later)
      · rcases List.mem_cons.mp member with rfl | later
        · exact Or.inr List.mem_cons_self
        · exact (inductionHypothesis later).imp id (List.mem_cons_of_mem _)

theorem Accounts.admitBlock {blocks : List ContextBlock} {unique : Unique}
    (accounts : Accounts blocks unique) (block : ContextBlock) :
    Accounts (blocks ++ [block]) (admitBlock unique block) := by
  unfold ContextPlanner.admitBlock
  cases found : unique.blocks.get? block.key with
  | none =>
      have fresh : block.key ∉ unique.blocks.entries.map Prod.fst := by
        intro member
        obtain ⟨value, present⟩ := Option.isSome_iff_exists.mp (Dict.mem_keys_iff.mp member)
        rw [found] at present
        cases present
      constructor
      · intro entry member
        rcases mem_setEntry member with rfl | old
        · rfl
        · exact accounts.keyed entry old
      · show ((setEntry block.key block unique.blocks.entries).map Prod.snd ++ _).Perm _
        rw [Dict.setEntry_of_notMem fresh, List.map_append, List.append_assoc]
        refine (List.Perm.append_left _ List.perm_append_comm).trans ?_
        rw [← List.append_assoc]
        exact accounts.accounted.append_right _
  | some existing =>
      have stored : existing.key = block.key := accounts.keyed _ (mem_of_getEntry found)
      dsimp only
      cases prefersNew existing block with
      | true =>
          constructor
          · intro entry member
            rcases mem_setEntry member with rfl | old
            · rfl
            · exact accounts.keyed entry old
          · show ((setEntry block.key block unique.blocks.entries).map Prod.snd ++
              (unique.duplicates ++ [_]).map ContextReport.block).Perm _
            rw [List.map_append, ← List.append_assoc]
            refine (List.perm_append_singleton existing _).trans ?_
            refine ((perm_setEntry found).append_right _).trans ?_
            exact (accounts.accounted.cons block).trans
              (List.perm_append_singleton block _).symm
      | false =>
          constructor
          · intro entry member
            rcases mem_setEntry member with rfl | old
            · exact stored
            · exact accounts.keyed entry old
          · show ((setEntry block.key existing unique.blocks.entries).map Prod.snd ++
              (unique.duplicates ++ [_]).map ContextReport.block).Perm _
            rw [List.map_append, ← List.append_assoc]
            have kept := (perm_setEntry found).cons_inv
            exact ((kept.append_right _).trans accounts.accounted).append_right [block]

theorem accounts_foldl {done : List ContextBlock} {unique : Unique}
    (accounts : Accounts done unique) (blocks : List ContextBlock) :
    Accounts (done ++ blocks) (blocks.foldl ContextPlanner.admitBlock unique) := by
  induction blocks generalizing done unique with
  | nil =>
      rw [List.append_nil]
      exact accounts
  | cons block rest inductionHypothesis =>
      have next := inductionHypothesis (accounts.admitBlock block)
      rw [List.append_assoc, List.singleton_append] at next
      exact next

theorem accounts_deduplicate (blocks : List ContextBlock) :
    Accounts blocks (deduplicate blocks) := by
  have start : Accounts [] {} :=
    ⟨fun _ member => absurd member List.not_mem_nil, List.Perm.nil⟩
  exact accounts_foldl start blocks

/-- One winner for each key, and every other block is reported as a duplicate. -/
structure Deduplicates (blocks won : List ContextBlock) (duplicates : List ContextReport) :
    Prop where
  unique : (won.map ContextBlock.key).Nodup
  covering : ∀ block ∈ blocks, ∃ winner ∈ won, winner.key = block.key
  accounted : (won ++ duplicates.map ContextReport.block).Perm blocks

theorem key_winners (blocks : List ContextBlock) :
    (winners blocks).map ContextBlock.key =
      (deduplicate blocks).blocks.entries.map Prod.fst := by
  unfold winners
  rw [List.map_map]
  exact List.map_congr_left (accounts_deduplicate blocks).keyed

/-- The keys that are present stay present. -/
theorem keys_foldl_admitBlock (blocks : List ContextBlock) (unique : Unique) (name : String) :
    name ∈ (blocks.foldl ContextPlanner.admitBlock unique).blocks.keys ↔
      name ∈ unique.blocks.keys ∨ ∃ block ∈ blocks, block.key = name := by
  have step : ∀ (unique : Unique) (block : ContextBlock),
      name ∈ (ContextPlanner.admitBlock unique block).blocks.keys ↔
        name = block.key ∨ name ∈ unique.blocks.keys := by
    intro unique block
    unfold ContextPlanner.admitBlock
    split
    · exact mem_keys_setEntry
    · exact mem_keys_setEntry
  induction blocks generalizing unique with
  | nil => simp
  | cons block rest inductionHypothesis =>
      rw [List.foldl_cons]
      refine (inductionHypothesis _).trans ?_
      rw [step, @or_comm (name = block.key), or_assoc]
      refine or_congr Iff.rfl ?_
      rw [List.exists_mem_cons_iff]
      exact or_congr eq_comm Iff.rfl

theorem deduplicates_winners (blocks : List ContextBlock) :
    Deduplicates blocks (winners blocks) (deduplicate blocks).duplicates where
  unique := by
    rw [key_winners]
    exact (deduplicate blocks).blocks.unique
  covering := by
    intro block member
    have present := (keys_foldl_admitBlock blocks {} block.key).mpr (Or.inr ⟨block, member, rfl⟩)
    have listed : block.key ∈ (winners blocks).map ContextBlock.key := by
      rw [key_winners]
      exact present
    exact List.mem_map.mp listed
  accounted := (accounts_deduplicate blocks).accounted

/-! ## Fates -/

/-- What becomes of a winner. -/
inductive Fate where
  | included
  | truncated (remaining : Int)
  | dropped

/-- The block as the prompt has it. -/
def shown : ContextBlock × Fate → Option ContextBlock
  | (block, .included) => some block
  | (block, .truncated remaining) => some (block.bounded remaining)
  | (_, .dropped) => none

def reported : ContextBlock × Fate → Option ContextReport
  | (_, .included) => none
  | (block, .truncated _) => some ⟨block, "partially included to target budget"⟩
  | (block, .dropped) => some ⟨block, "target token budget exhausted"⟩

def tokensOf : List ContextBlock → Nat
  | [] => 0
  | block :: rest => block.estimatedTokens + tokensOf rest

/-- The state after blocks with these fates. -/
def Filled.after (filled : Filled) (fates : List (ContextBlock × Fate)) : Filled :=
  { included := filled.included ++ fates.filterMap shown
    excluded := filled.excluded ++ fates.filterMap reported
    used := filled.used + tokensOf (fates.filterMap shown) }

section Fates

variable (budget : TokenBudget)

theorem tokensOf_append (front back : List ContextBlock) :
    tokensOf (front ++ back) = tokensOf front + tokensOf back := by
  induction front with
  | nil => exact (Nat.zero_add _).symm
  | cons block rest inductionHypothesis =>
      rw [List.cons_append, tokensOf, tokensOf, inductionHypothesis, Nat.add_assoc]

theorem tokensOf_perm {first second : List ContextBlock} (perm : first.Perm second) :
    tokensOf first = tokensOf second := by
  induction perm with
  | nil => rfl
  | cons block _ inductionHypothesis => rw [tokensOf, tokensOf, inductionHypothesis]
  | swap block other rest => exact Nat.add_left_comm _ _ _
  | trans _ _ before after => exact before.trans after

theorem after_nil (filled : Filled) : filled.after [] = filled := by
  simp [Filled.after, tokensOf]

theorem after_append (filled : Filled) (front back : List (ContextBlock × Fate)) :
    (filled.after front).after back = filled.after (front ++ back) := by
  simp [Filled.after, tokensOf_append, Nat.add_assoc]

theorem after_included (filled : Filled) (block : ContextBlock) :
    filled.after [(block, .included)] =
      { filled with
        included := filled.included ++ [block]
        used := filled.used + block.estimatedTokens } := by
  simp [Filled.after, shown, reported, tokensOf]

/-- A required block is included, or the plan fails. -/
theorem place_required {block : ContextBlock} (required : block.required = true)
    (filled : Filled) :
    (filled.used + block.estimatedTokens ≤ budget.inputHardLimit →
      place budget filled block = .ok (filled.after [(block, .included)])) ∧
    (budget.inputHardLimit < filled.used + block.estimatedTokens →
      ∃ error, place budget filled block = .error error) := by
  have ordered := budget.input
  rw [after_included]
  unfold place
  dsimp only
  rw [if_pos required]
  constructor
  · intro fits
    by_cases within : filled.used + block.estimatedTokens ≤ budget.inputTarget
    · rw [if_pos within]
    · rw [if_neg within, if_neg (Nat.not_lt.mpr fits)]
  · intro beyond
    rw [if_neg (by omega), if_pos beyond]
    exact ⟨_, rfl⟩

/-- The required blocks are all included, or the plan fails. -/
theorem foldlM_required {blocks : List ContextBlock}
    (required : ∀ block ∈ blocks, block.required = true) (filled : Filled) :
    (filled.used + tokensOf blocks ≤ budget.inputHardLimit →
      blocks.foldlM (place budget) filled =
        .ok (filled.after (blocks.map fun block => (block, .included)))) ∧
    (budget.inputHardLimit < filled.used + tokensOf blocks → blocks ≠ [] →
      ∃ error, blocks.foldlM (place budget) filled = .error error) := by
  induction blocks generalizing filled with
  | nil =>
      rw [List.map_nil, after_nil]
      exact ⟨fun _ => rfl, fun _ nonempty => absurd rfl nonempty⟩
  | cons block rest inductionHypothesis =>
      have first := place_required budget (required block List.mem_cons_self) filled
      have later := inductionHypothesis
        (fun other member => required other (List.mem_cons_of_mem _ member))
        (filled.after [(block, .included)])
      have total : tokensOf (block :: rest) = block.estimatedTokens + tokensOf rest := rfl
      have grown : (filled.after [(block, .included)]).used =
          filled.used + block.estimatedTokens := by
        rw [after_included]
      rw [List.foldlM_cons, total]
      rw [grown] at later
      constructor
      · intro fits
        rw [first.1 (by omega), ok_bind, later.1 (by omega), after_append, List.map_cons,
          List.singleton_append]
      · intro beyond _
        rcases Nat.lt_or_ge budget.inputHardLimit (filled.used + block.estimatedTokens) with
          exceeded | fits
        · obtain ⟨error, failed⟩ := first.2 exceeded
          rw [failed]
          exact ⟨error, rfl⟩
        · rw [first.1 fits, ok_bind]
          by_cases empty : rest = []
          · rw [empty] at beyond
            have none : tokensOf [] = 0 := rfl
            omega
          · exact later.2 (by omega) empty

/-- An optional block never takes the plan beyond its target. -/
theorem place_optional {block : ContextBlock} (optional : block.required = false)
    (filled : Filled) :
    ∃ fate, place budget filled block = .ok (filled.after [(block, fate)]) ∧
      (shown (block, fate) = none ∨
        (filled.after [(block, fate)]).used ≤ budget.inputTarget) := by
  unfold place
  dsimp only
  by_cases within : filled.used + block.estimatedTokens ≤ budget.inputTarget
  · rw [if_pos within]
    refine ⟨.included, by rw [after_included], Or.inr ?_⟩
    rw [after_included]
    exact within
  · rw [if_neg within, if_neg (by rw [optional]; exact Bool.false_ne_true)]
    by_cases cut : truncatable block (budget.inputTarget - filled.used : Int) = true
    · rw [if_pos cut]
      have positive : max 1 block.minimumTokens ≤ (budget.inputTarget - filled.used : Int) := by
        rw [truncatable, Bool.and_eq_true, decide_eq_true_eq] at cut
        exact cut.2
      have bounded : ((block.bounded (budget.inputTarget - filled.used)).estimatedTokens : Int) ≤
          budget.inputTarget - filled.used :=
        estimateTokens_truncateToTokens block.content (by omega) _ _
      refine ⟨.truncated (budget.inputTarget - filled.used), ?_, Or.inr ?_⟩
      · simp [Filled.after, shown, reported, tokensOf]
      · show filled.used + (_ + 0) ≤ budget.inputTarget
        omega
    · rw [if_neg cut]
      refine ⟨.dropped, ?_, Or.inl rfl⟩
      have hidden : [(block, Fate.dropped)].filterMap shown = [] := rfl
      simp [Filled.after, hidden, reported, tokensOf]

theorem foldlM_optional {blocks : List ContextBlock}
    (optional : ∀ block ∈ blocks, block.required = false) (filled : Filled) :
    ∃ fates, fates.map Prod.fst = blocks ∧
      blocks.foldlM (place budget) filled = .ok (filled.after fates) ∧
      (fates.filterMap shown = [] ∨ (filled.after fates).used ≤ budget.inputTarget) := by
  induction blocks generalizing filled with
  | nil => exact ⟨[], rfl, by rw [after_nil]; rfl, Or.inl rfl⟩
  | cons block rest inductionHypothesis =>
      obtain ⟨fate, placed, first⟩ :=
        place_optional budget (optional block List.mem_cons_self) filled
      obtain ⟨fates, named, run, later⟩ := inductionHypothesis
        (fun other member => optional other (List.mem_cons_of_mem _ member))
        (filled.after [(block, fate)])
      refine ⟨(block, fate) :: fates, by rw [List.map_cons, named], ?_, ?_⟩
      · rw [List.foldlM_cons, placed, ok_bind, run, after_append, List.singleton_append]
      · rw [after_append, List.singleton_append] at later
        rcases later with empty | within
        · rcases first with hidden | within
          · refine Or.inl ?_
            rw [List.filterMap_cons, hidden, empty]
          · refine Or.inr ?_
            have same : (filled.after ((block, fate) :: fates)).used =
                (filled.after [(block, fate)]).used := by
              rw [← List.singleton_append, ← after_append]
              simp [Filled.after, empty, tokensOf]
            rw [same]
            exact within
        · exact Or.inr within

end Fates

/-! ## The plan -/

def mandatory (blocks : List ContextBlock) (reservedTokens : Int) : Nat :=
  (max 0 reservedTokens).toNat + tokensOf ((winners blocks).filter ContextBlock.required)

/-- What is known of a plan that does not fail. -/
structure PlanFacts (budget : TokenBudget) (blocks : List ContextBlock)
    (reservedTokens : Int) (planned : PlannedContext) : Prop where
  total : planned.estimatedTokens =
    (max 0 reservedTokens).toNat + tokensOf planned.included
  verbatim : ∀ winner ∈ winners blocks, winner.required = true → winner ∈ planned.included
  target : (∃ block ∈ planned.included, block.required = false) →
    planned.estimatedTokens ≤ budget.inputTarget
  deduplicated : Deduplicates blocks (winners blocks) planned.deduplicated
  fates : ∃ fates : List (ContextBlock × Fate),
    (fates.map Prod.fst).Perm (winners blocks) ∧
      planned.included = fates.filterMap shown ∧ planned.excluded = fates.filterMap reported

section Plan

variable {budget : TokenBudget}

theorem rank_required {first second : ContextBlock} (ordered : first.rank ≤ second.rank)
    (optional : first.required = false) : second.required = false := by
  have head := (Prod.Lex.le_iff.mp ordered).imp id And.left
  change (!first.required) < (!second.required) ∨ (!first.required) = (!second.required) at head
  rw [optional] at head
  revert head
  cases second.required with
  | false => exact fun _ => rfl
  | true => decide

/-- The required winners come first. -/
theorem ordered_split (blocks : List ContextBlock) :
    ∃ front back, ordered blocks = front ++ back ∧
      (∀ block ∈ front, block.required = true) ∧ ∀ block ∈ back, block.required = false := by
  have sorted : (ordered blocks).Pairwise fun first second => first.rank ≤ second.rank := by
    have pairwise : (ordered blocks).Pairwise fun first second =>
        decide (first.rank ≤ second.rank) = true := by
      apply List.pairwise_mergeSort
      · intro first second third before after
        rw [decide_eq_true_eq] at before after ⊢
        exact le_trans before after
      · intro first second
        rw [Bool.or_eq_true, decide_eq_true_eq, decide_eq_true_eq]
        exact le_total first.rank second.rank
    exact pairwise.imp of_decide_eq_true
  revert sorted
  generalize ordered blocks = sequence
  intro sorted
  induction sequence with
  | nil => exact ⟨[], [], rfl, fun _ member => absurd member List.not_mem_nil,
      fun _ member => absurd member List.not_mem_nil⟩
  | cons head tail inductionHypothesis =>
      rw [List.pairwise_cons] at sorted
      cases kind : head.required with
      | true =>
          obtain ⟨front, back, split, required, optional⟩ := inductionHypothesis sorted.2
          refine ⟨head :: front, back, by rw [split]; rfl, fun block member => ?_, optional⟩
          rcases List.mem_cons.mp member with rfl | later
          · exact kind
          · exact required block later
      | false =>
          refine ⟨[], head :: tail, rfl, fun _ member => absurd member List.not_mem_nil, ?_⟩
          intro block member
          rcases List.mem_cons.mp member with rfl | later
          · exact kind
          · exact rank_required (sorted.1 block later) kind

theorem filter_split {front back : List ContextBlock}
    (required : ∀ block ∈ front, block.required = true)
    (optional : ∀ block ∈ back, block.required = false) :
    (front ++ back).filter ContextBlock.required = front := by
  rw [List.filter_append, List.filter_eq_self.mpr required, List.filter_eq_nil_iff.mpr,
    List.append_nil]
  intro block member
  rw [optional block member]
  exact Bool.false_ne_true

theorem filterMap_shown_included (blocks : List ContextBlock) :
    (blocks.map fun block => (block, Fate.included)).filterMap shown = blocks := by
  induction blocks with
  | nil => rfl
  | cons block rest inductionHypothesis =>
      have first : shown (block, Fate.included) = some block := rfl
      rw [List.map_cons, List.filterMap_cons, first, inductionHypothesis]

/-- The plan fails exactly when the required winners do not fit; else it has its facts. -/
theorem plan_spec (budget : TokenBudget) (blocks : List ContextBlock) (reservedTokens : Int) :
    (budget.inputHardLimit < mandatory blocks reservedTokens →
      ∃ error, plan budget blocks reservedTokens = .error error) ∧
    (mandatory blocks reservedTokens ≤ budget.inputHardLimit →
      ∃ planned, plan budget blocks reservedTokens = .ok planned ∧
        PlanFacts budget blocks reservedTokens planned) := by
  obtain ⟨front, back, split, required, optional⟩ := ordered_split blocks
  have perm : (front ++ back).Perm (winners blocks) := by
    rw [← split]
    exact List.mergeSort_perm _ _
  have due : mandatory blocks reservedTokens =
      (max 0 reservedTokens).toNat + tokensOf front := by
    unfold mandatory
    rw [← tokensOf_perm (perm.filter _), filter_split required optional]
  have first := foldlM_required budget required ({ used := (max 0 reservedTokens).toNat } : Filled)
  rw [due]
  unfold plan
  rw [split, List.foldlM_append]
  constructor
  · intro beyond
    by_cases none : front = []
    · obtain ⟨fates, _, run, within⟩ := foldlM_optional budget optional
        ({ used := (max 0 reservedTokens).toNat } : Filled)
      rw [none, List.foldlM_nil, pure_bind, run, ok_bind, if_pos]
      · exact ⟨_, rfl⟩
      · rw [none] at beyond
        show budget.inputHardLimit < (max 0 reservedTokens).toNat + _
        exact Nat.lt_of_lt_of_le beyond (Nat.add_le_add_left (Nat.zero_le _) _)
    · obtain ⟨error, failed⟩ := first.2 beyond none
      rw [failed]
      exact ⟨error, rfl⟩
  · intro fits
    obtain ⟨fates, named, run, within⟩ := foldlM_optional budget optional
      (Filled.after { used := (max 0 reservedTokens).toNat }
        (front.map fun block => (block, Fate.included)))
    rw [first.1 fits, ok_bind, run, ok_bind]
    rw [after_append] at within ⊢
    have used : (Filled.after { used := (max 0 reservedTokens).toNat }
        ((front.map fun block => (block, Fate.included)) ++ fates)).used =
          (max 0 reservedTokens).toNat + tokensOf (front ++ fates.filterMap shown) := by
      show _ + tokensOf (List.filterMap shown _) = _
      rw [List.filterMap_append, filterMap_shown_included]
    have limit : ¬ budget.inputHardLimit < (Filled.after
        { used := (max 0 reservedTokens).toNat }
          ((front.map fun block => (block, Fate.included)) ++ fates)).used := by
      rcases within with hidden | within
      · rw [used, hidden, List.append_nil]
        exact Nat.not_lt.mpr fits
      · have ordered := budget.input
        omega
    rw [if_neg limit]
    have included : ([] : List ContextBlock) ++
        ((front.map fun block => (block, Fate.included)) ++ fates).filterMap shown =
          front ++ fates.filterMap shown := by
      rw [List.nil_append, List.filterMap_append, filterMap_shown_included]
    refine ⟨_, rfl, ?_, ?_, ?_, deduplicates_winners blocks, ?_⟩
    · exact used.trans (congrArg _ (congrArg tokensOf included.symm))
    · intro winner member kind
      show winner ∈ ([] : List ContextBlock) ++ List.filterMap shown _
      rw [included]
      refine List.mem_append_left _ ?_
      rcases List.mem_append.mp (perm.mem_iff.mpr member) with due | chosen
      · exact due
      · rw [optional winner chosen] at kind
        cases kind
    · rintro ⟨block, member, kind⟩
      rcases within with hidden | within
      · change block ∈ ([] : List ContextBlock) ++ List.filterMap shown _ at member
        rw [included, hidden, List.append_nil] at member
        rw [required block member] at kind
        cases kind
      · exact within
    · refine ⟨(front.map fun block => (block, Fate.included)) ++ fates, ?_, ?_, ?_⟩
      · rw [List.map_append, List.map_map, named]
        have same : front.map (Prod.fst ∘ fun block => (block, Fate.included)) = front :=
          List.map_id front
        rw [same]
        exact perm
      · exact List.nil_append _
      · exact List.nil_append _

/-- Plans fail exactly when the required winners do not fit, and keep their facts; no
truncated text exceeds its tokens.  A negative reserve counts as none. -/
theorem plan_fails_iff_and_facts (budget : TokenBudget) (blocks : List ContextBlock)
    (reservedTokens : Int) (text : String) (maximumTokens : Nat) (fromEnd : Bool)
    (suffix : String) :
    ((∃ error, plan budget blocks reservedTokens = .error error) ↔
      budget.inputHardLimit < mandatory blocks reservedTokens) ∧
    (∀ planned, plan budget blocks reservedTokens = .ok planned →
      PlanFacts budget blocks reservedTokens planned) ∧
    estimateTokens (truncateToTokens text maximumTokens fromEnd suffix) ≤ maximumTokens := by
  obtain ⟨fails, succeeds⟩ := plan_spec budget blocks reservedTokens
  refine ⟨⟨?_, fails⟩, ?_, ?_⟩
  · rintro ⟨error, failed⟩
    by_contra fits
    obtain ⟨planned, made, _⟩ := succeeds (Nat.not_lt.mp fits)
    rw [made] at failed
    cases failed
  · intro planned made
    rcases Nat.lt_or_ge budget.inputHardLimit (mandatory blocks reservedTokens) with
      beyond | fits
    · obtain ⟨error, failed⟩ := fails beyond
      rw [made] at failed
      cases failed
    · obtain ⟨other, run, facts⟩ := succeeds fits
      rw [made, Except.ok.injEq] at run
      rw [run]
      exact facts
  · exact Int.ofNat_le.mp
      (estimateTokens_truncateToTokens text (Int.natCast_nonneg _) fromEnd suffix)

def smallBudget : TokenBudget where
  inputTarget := 8
  inputHardLimit := 16
  outputTarget := 2
  outputHardLimit := 4
  positive := by decide
  input := by decide
  output := by decide

/-- A negative reserve is not subtracted from the estimate. -/
theorem negative_reserve_counts_as_none :
    ¬ ∀ (budget : TokenBudget) (blocks : List ContextBlock) (reservedTokens : Int)
        (planned : PlannedContext), plan budget blocks reservedTokens = .ok planned →
      (planned.estimatedTokens : Int) = reservedTokens + tokensOf planned.included := by
  intro claimed
  have planned : plan smallBudget [] (-1) = .ok
      { included := [], excluded := [], deduplicated := [], estimatedTokens := 0
        targetTokens := 8, hardLimitTokens := 16 } := by
    unfold plan
    have none : ordered [] = [] := List.mergeSort_nil
    rw [none]
    rfl
  have total := claimed smallBudget [] (-1) _ planned
  revert total
  decide

end Plan

end ContextPlanner

end Execraft.Orchestrate
