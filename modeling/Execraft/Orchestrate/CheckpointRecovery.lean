import Execraft.Orchestrate.StateCheckpoints

/-!
# Which state is loaded after a crash

Saves, loads and their crashes in any order, and then any damage to the projection and to
the rows of the table.
-/

namespace Execraft.Orchestrate

open Foundation Foundation.Json

variable {codec : CheckpointCodec}

/-! ## Rows -/

theorem fromRow_isSome_iff {row : CheckpointRow} :
    (codec.fromRow row).isSome = true ↔
      (codec.rowState row).isSome = true ∧ row.journalSequence.isSome = true := by
  unfold CheckpointCodec.fromRow
  cases codec.rowState row <;> cases row.journalSequence <;> simp

theorem fromRow_eq_some {row : CheckpointRow} {state : Row} {recorded : Int}
    (held : codec.rowState row = some state) (numbered : row.journalSequence = some recorded) :
    ∃ checkpoint, codec.fromRow row = some checkpoint ∧ checkpoint.state = state := by
  unfold CheckpointCodec.fromRow
  rw [held, numbered]
  exact ⟨_, rfl, rfl⟩

theorem rowState_newRow {state : Row} (json : Canonical codec.round (.object state))
    (table : CheckpointTable) (journalSequence : Int) (savedAt reason : String) :
    codec.rowState (table.newRow codec state journalSequence savedAt reason) =
      some state := by
  have read : decode codec.round (encodeState state) = some (.object state) := by
    rw [encodeState, json.sortKeys]
    exact decode_encode json
  unfold CheckpointCodec.rowState CheckpointTable.newRow
  rw [read]
  exact if_pos rfl

theorem digest_of_rowState {row : CheckpointRow} {state : Row}
    (held : codec.rowState row = some state) : codec.digest state = row.stateSha256 := by
  unfold CheckpointCodec.rowState at held
  split at held
  · split_ifs at held with same
    cases held
    exact same
  · cases held

/-! ## Histories -/

/-- A call of `save_state`, with the row that holds its state once it is completed. -/
structure SaveRecord where
  state : Row
  row : Option Nat

def CheckpointTable.newestSequence (table : CheckpointTable) : Option Nat :=
  table.newest.map CheckpointRow.sequence

/-- Calls one after another, cut off anywhere; the newest save comes first. -/
inductive SaveHistory (codec : CheckpointCodec) (configured : Int) :
    List SaveRecord → StateStores → Prop where
  | start : SaveHistory codec configured [] {}
  | journaled {saves : List SaveRecord} {stores : StateStores} :
      SaveHistory codec configured saves stores →
      SaveHistory codec configured saves
        { stores with journalSequence := stores.journalSequence + 1 }
  | completed {saves : List SaveRecord} {stores after : StateStores} {state : Row}
      {savedAt reason : String} :
      SaveHistory codec configured saves stores → Canonical codec.round (.object state) →
      Program.Finishes (StateStores.Step codec (CheckpointTable.retentionOf configured))
        stores (saveState state savedAt reason) () after →
      SaveHistory codec configured (⟨state, after.table.newestSequence⟩ :: saves) after
  | crashed {saves : List SaveRecord} {stores after : StateStores} {state : Row}
      {savedAt reason : String} :
      SaveHistory codec configured saves stores → Canonical codec.round (.object state) →
      Program.StopsAt (StateStores.Step codec (CheckpointTable.retentionOf configured))
        stores (saveState state savedAt reason) after →
      SaveHistory codec configured (⟨state, none⟩ :: saves) after
  | loaded {saves : List SaveRecord} {stores after : StateStores} :
      SaveHistory codec configured saves stores →
      Program.StopsAt (StateStores.Step codec (CheckpointTable.retentionOf configured))
        stores (loadState codec) after →
      SaveHistory codec configured saves after

/-- A state that some call passed. -/
def Passed (saves : List SaveRecord) (state : Row) : Prop :=
  ∃ save ∈ saves, save.state = state

/-- The state is not older than any completed save whose row counts. -/
def NotBefore (saves : List SaveRecord) (counts : Nat → Prop) (state : Row) : Prop :=
  ∀ newer save older row, saves = newer ++ save :: older → save.row = some row →
    counts row → ∃ later ∈ newer ++ [save], later.state = state

section NotBefore

variable {saves : List SaveRecord} {save : SaveRecord} {counts fewer : Nat → Prop}
  {state : Row}

theorem Passed.cons (passed : Passed saves state) : Passed (save :: saves) state := by
  obtain ⟨earlier, member, same⟩ := passed
  exact ⟨earlier, List.mem_cons_of_mem _ member, same⟩

theorem Passed.changeRow {row other : Option Nat} {passedState : Row}
    (passed : Passed (⟨passedState, row⟩ :: saves) state) :
    Passed (⟨passedState, other⟩ :: saves) state := by
  obtain ⟨save, member, same⟩ := passed
  rcases List.mem_cons.mp member with rfl | earlier
  · exact ⟨_, List.mem_cons_self, same⟩
  · exact ⟨save, List.mem_cons_of_mem _ earlier, same⟩

theorem passed_self (state : Row) (row : Option Nat) (saves : List SaveRecord) :
    Passed (⟨state, row⟩ :: saves) state :=
  ⟨_, List.mem_cons_self, rfl⟩

theorem NotBefore.mono (notBefore : NotBefore saves counts state)
    (weaken : ∀ row, fewer row → counts row) : NotBefore saves fewer state :=
  fun newer save older row split completed counted =>
    notBefore newer save older row split completed (weaken row counted)

theorem NotBefore.cons (notBefore : NotBefore saves counts state)
    (last : ∀ row, save.row = some row → counts row → save.state = state) :
    NotBefore (save :: saves) counts state := by
  intro newer other older row split completed counted
  cases newer with
  | nil =>
      rw [List.nil_append, List.cons.injEq] at split
      rw [← split.1] at completed ⊢
      exact ⟨save, List.mem_singleton_self save, last row completed counted⟩
  | cons head tail =>
      rw [List.cons_append, List.cons.injEq] at split
      obtain ⟨later, member, same⟩ := notBefore tail other older row split.2 completed counted
      exact ⟨later, List.mem_cons_of_mem head member, same⟩

/-- The newest save is not before any other one. -/
theorem notBefore_newest (row : Option Nat) :
    NotBefore (⟨state, row⟩ :: saves) counts state := by
  intro newer other older number split _ _
  cases newer with
  | nil =>
      rw [List.nil_append, List.cons.injEq] at split
      exact ⟨other, List.mem_singleton_self other, by rw [← split.1]⟩
  | cons head tail =>
      rw [List.cons_append, List.cons.injEq] at split
      exact ⟨head, List.mem_cons_self, by rw [← split.1]⟩

end NotBefore

/-! ## What the files hold -/

/-- The rows are ordered and hold states that were passed. -/
structure TableSound (codec : CheckpointCodec) (saves : List SaveRecord)
    (table : CheckpointTable) : Prop where
  ascending : table.rows.Pairwise fun first second => first.sequence < second.sequence
  bounded : ∀ row ∈ table.rows, row.sequence ≤ table.lastSequence
  recorded : ∀ save ∈ saves, ∀ row, save.row = some row → row ≤ table.lastSequence
  numbered : ∀ row ∈ table.rows, row.journalSequence.isSome = true
  held : ∀ row ∈ table.rows, ∃ state, codec.rowState row = some state ∧
    Passed saves state ∧ NotBefore saves (· ≤ row.sequence) state

/-- The projection is missing before the first completed save, and later it is at least
as new as the last one. -/
def ProjectionSound (saves : List SaveRecord) (projection : StateProjection) : Prop :=
  (projection = .missing ∧ ∀ save ∈ saves, save.row = none) ∨
    ∃ state, projection = .document (.object state) ∧ Passed saves state ∧
      NotBefore saves (fun _ => True) state

section Table

variable {saves : List SaveRecord} {table saved : CheckpointTable} {state : Row}

theorem tableSound_start : TableSound codec [] {} where
  ascending := List.Pairwise.nil
  bounded := fun _ member => absurd member List.not_mem_nil
  recorded := fun _ member => absurd member List.not_mem_nil
  numbered := fun _ member => absurd member List.not_mem_nil
  held := fun _ member => absurd member List.not_mem_nil

/-- A save that has not reached the table. -/
theorem TableSound.crash (sound : TableSound codec saves table) (state : Row) :
    TableSound codec (⟨state, none⟩ :: saves) table where
  ascending := sound.ascending
  bounded := sound.bounded
  recorded := by
    intro save member row completed
    rcases List.mem_cons.mp member with rfl | earlier
    · cases completed
    · exact sound.recorded save earlier row completed
  numbered := sound.numbered
  held := by
    intro row member
    obtain ⟨other, holds, passed, notBefore⟩ := sound.held row member
    exact ⟨other, holds, passed.cons, notBefore.cons fun _ impossible _ => by cases impossible⟩

theorem retentionOf_pos (configured : Int) : 8 ≤ CheckpointTable.retentionOf configured := by
  unfold CheckpointTable.retentionOf
  omega

theorem newest_insert {retention : Nat} (positive : 0 < retention) (table : CheckpointTable)
    (row : CheckpointRow) : (table.insert retention row).newest = some row := by
  unfold CheckpointTable.insert CheckpointTable.newest
  rw [List.getLast?_drop, if_neg, List.getLast?_concat]
  rw [List.length_append, List.length_singleton]
  omega

theorem mem_insert {retention : Nat} {row other : CheckpointRow}
    (member : other ∈ (table.insert retention row).rows) :
    other ∈ table.rows ∨ other = row := by
  have listed := List.mem_of_mem_drop member
  rcases List.mem_append.mp listed with old | new
  · exact Or.inl old
  · exact Or.inr (List.mem_singleton.mp new)

theorem TableSound.insert (sound : TableSound codec saves table) {retention : Nat}
    (json : Canonical codec.round (.object state)) (journalSequence : Int)
    (savedAt reason : String) :
    TableSound codec (⟨state, none⟩ :: saves) (table.insert retention
      (table.newRow codec state journalSequence savedAt reason)) where
  ascending := by
    refine List.Pairwise.sublist (List.drop_sublist _ _) ?_
    rw [List.pairwise_append]
    refine ⟨sound.ascending, List.pairwise_singleton _ _, fun row member other last => ?_⟩
    rw [List.mem_singleton.mp last]
    exact Nat.lt_succ_of_le (sound.bounded row member)
  bounded := by
    intro row member
    rcases mem_insert member with old | rfl
    · exact Nat.le_succ_of_le (sound.bounded row old)
    · exact Nat.le_refl _
  recorded := by
    intro save member row completed
    exact Nat.le_succ_of_le ((sound.crash state).recorded save member row completed)
  numbered := by
    intro row member
    rcases mem_insert member with old | rfl
    · exact sound.numbered row old
    · rfl
  held := by
    intro row member
    rcases mem_insert member with old | rfl
    · exact (sound.crash state).held row old
    · refine ⟨state, rowState_newRow json _ _ _ _, passed_self _ _ _, ?_⟩
      exact notBefore_newest none

/-- No two of the states that were passed have the same digest. -/
def CollisionFree (codec : CheckpointCodec) (saves : List SaveRecord) : Prop :=
  ∀ first second, Passed saves first → Passed saves second →
    codec.digest first = codec.digest second → first = second

theorem CollisionFree.tail {save : SaveRecord}
    (free : CollisionFree codec (save :: saves)) : CollisionFree codec saves :=
  fun first second passed other => free first second passed.cons other.cons

theorem CollisionFree.forgetRow {row : Option Nat}
    (free : CollisionFree codec (⟨state, row⟩ :: saves)) :
    CollisionFree codec (⟨state, none⟩ :: saves) :=
  fun first second passed other => free first second passed.changeRow other.changeRow

/-- A save succeeds, and the newest row then holds its state. -/
theorem TableSound.save (sound : TableSound codec saves table) {retention : Nat}
    (positive : 0 < retention) (json : Canonical codec.round (.object state))
    (free : CollisionFree codec (⟨state, none⟩ :: saves)) (journalSequence : Int)
    (savedAt reason : String) :
    ∃ saved, table.save codec retention state journalSequence savedAt reason = .ok saved ∧
      TableSound codec (⟨state, none⟩ :: saves) saved ∧
      ∃ row, saved.newest = some row ∧ codec.rowState row = some state := by
  have inserted : TableSound codec (⟨state, none⟩ :: saves) (table.insert retention
      (table.newRow codec state journalSequence savedAt reason)) :=
    sound.insert json journalSequence savedAt reason
  have newest := newest_insert positive table
    (table.newRow codec state journalSequence savedAt reason)
  have holds := rowState_newRow json table journalSequence savedAt reason
  unfold CheckpointTable.save CheckpointTable.repeats
  cases last : table.newest with
  | none => exact ⟨_, rfl, inserted, _, newest, holds⟩
  | some latest =>
      have member : latest ∈ table.rows := List.mem_of_getLast? last
      obtain ⟨recorded, numbered⟩ := Option.isSome_iff_exists.mp (sound.numbered latest member)
      obtain ⟨other, held, passed, _⟩ := sound.held latest member
      dsimp only
      by_cases digested : latest.stateSha256 = codec.digest state
      · rw [if_pos digested, numbered]
        by_cases repeated : (decide (recorded = journalSequence) &&
            (codec.fromRow latest).isSome) = true
        · -- the row that is there already has the digest of this state
          have same : other = state :=
            free other state passed.cons (passed_self state none saves)
              ((digest_of_rowState held).trans digested)
          refine ⟨table, ?_, sound.crash state, latest, last, by rw [held, same]⟩
          show (if _ then _ else _ : Except CheckpointError CheckpointTable) = _
          rw [if_pos repeated]
          rfl
        · refine ⟨_, ?_, inserted, _, newest, holds⟩
          show (if _ then _ else _ : Except CheckpointError CheckpointTable) = _
          rw [if_neg repeated]
          rfl
      · rw [if_neg digested]
        exact ⟨_, rfl, inserted, _, newest, holds⟩

/-- The newest row is the row of the save. -/
theorem TableSound.complete (sound : TableSound codec (⟨state, none⟩ :: saves) table)
    {row : CheckpointRow} (newest : table.newest = some row)
    (holds : codec.rowState row = some state) :
    TableSound codec (⟨state, table.newestSequence⟩ :: saves) table := by
  have named : table.newestSequence = some row.sequence := by
    unfold CheckpointTable.newestSequence
    rw [newest]
    rfl
  have shape : ∃ front, table.rows = front ++ [row] := List.getLast?_eq_some_iff.mp newest
  obtain ⟨front, shape⟩ := shape
  have last : ∀ other ∈ table.rows, row.sequence ≤ other.sequence → other = row := by
    intro other member later
    rw [shape] at member
    rcases List.mem_append.mp member with earlier | same
    · have ascending := sound.ascending
      rw [shape, List.pairwise_append] at ascending
      have before := ascending.2.2 other earlier row (List.mem_singleton_self row)
      omega
    · exact List.mem_singleton.mp same
  refine ⟨sound.ascending, sound.bounded, ?_, sound.numbered, ?_⟩
  · intro save member number completed
    rcases List.mem_cons.mp member with rfl | earlier
    · rw [named, Option.some.injEq] at completed
      rw [← completed]
      exact sound.bounded row (List.mem_of_getLast? newest)
    · exact sound.recorded save (List.mem_cons_of_mem _ earlier) number completed
  · intro other member
    obtain ⟨kept, held, passed, notBefore⟩ := sound.held other member
    refine ⟨kept, held, passed.changeRow, ?_⟩
    intro newer counted older number split completed later
    cases newer with
    | nil =>
        rw [List.nil_append, List.cons.injEq] at split
        rw [← split.1, named, Option.some.injEq] at completed
        have equal := last other member (by rw [completed]; exact later)
        rw [equal, holds, Option.some.injEq] at held
        exact ⟨counted, List.mem_singleton_self counted, by rw [← split.1]; exact held⟩
    | cons head tail =>
        rw [List.cons_append, List.cons.injEq] at split
        have given := notBefore (⟨state, none⟩ :: tail) counted older number
          (by rw [split.2]; rfl) completed later
        obtain ⟨found, listed, same⟩ := given
        rcases List.mem_cons.mp listed with rfl | further
        · exact ⟨head, List.mem_cons_self, by rw [← split.1]; exact same⟩
        · exact ⟨found, List.mem_cons_of_mem _ further, same⟩

end Table

/-! ## Runs -/

section Runs

variable {retention : Nat} {stores after : StateStores}

/-- What one request does. -/
theorem finishes_ask {request : StoreRequest} {reply : StoreReply request} :
    Program.Finishes (StateStores.Step codec retention) stores (ask request) reply after ↔
      stores.handle codec retention request = (reply, after) :=
  Program.finishes_request

theorem stopsAt_ask {request : StoreRequest} :
    Program.StopsAt (StateStores.Step codec retention) stores (ask request) after ↔
      stores = after ∨ (stores.handle codec retention request).2 = after := by
  refine Program.stopsAt_request.trans (or_congr Iff.rfl ?_)
  constructor
  · rintro ⟨reply, answered⟩
    exact congrArg Prod.snd answered
  · intro same
    exact ⟨(stores.handle codec retention request).1, by rw [← same]; rfl⟩

/-- The files after the transaction of a save. -/
theorem handle_saveCheckpoint {state : Row} {journalSequence : Int} {savedAt reason : String}
    {saved : CheckpointTable}
    (transaction : stores.table.save codec retention state journalSequence savedAt reason =
      .ok saved) :
    stores.handle codec retention
        (.saveCheckpoint state journalSequence savedAt reason) =
      (.ok (), { stores with table := saved }) := by
  simp only [StateStores.handle, transaction]

theorem finishes_saveState {state : Row} {savedAt reason : String} {saved : CheckpointTable}
    (transaction : stores.table.save codec retention state stores.journalSequence savedAt
      reason = .ok saved) :
    Program.Finishes (StateStores.Step codec retention) stores
        (saveState state savedAt reason) () after ↔
      after = { stores with
        table := saved
        projection := .document (.object state) } := by
  unfold saveState
  simp only [Program.finishes_bind]
  constructor
  · rintro ⟨number, _, read, outcome, _, recorded, value, _, passed, written⟩
    cases finishes_ask.mp read
    have answered := finishes_ask.mp recorded
    rw [handle_saveCheckpoint transaction] at answered
    cases answered
    obtain ⟨_, rfl⟩ := Program.finishes_ofOutcome.mp passed
    cases finishes_ask.mp written
    rfl
  · rintro rfl
    exact ⟨_, _, finishes_ask.mpr rfl, _, _,
      finishes_ask.mpr (handle_saveCheckpoint transaction), (), _,
      Program.finishes_ofOutcome.mpr ⟨rfl, rfl⟩, finishes_ask.mpr rfl⟩

/-- A save is cut off before its transaction, before the projection or at the end. -/
theorem stopsAt_saveState {state : Row} {savedAt reason : String} {saved : CheckpointTable}
    (transaction : stores.table.save codec retention state stores.journalSequence savedAt
      reason = .ok saved)
    (stopped : Program.StopsAt (StateStores.Step codec retention) stores
      (saveState state savedAt reason) after) :
    after = stores ∨ after = { stores with table := saved } ∨
      after = { stores with
        table := saved
        projection := .document (.object state) } := by
  unfold saveState at stopped
  rcases Program.stopsAt_bind.mp stopped with first | ⟨number, middle, read, later⟩
  · rcases stopsAt_ask.mp first with rfl | rfl
    · exact Or.inl rfl
    · exact Or.inl rfl
  · cases finishes_ask.mp read
    have recorded := handle_saveCheckpoint transaction
    rcases Program.stopsAt_bind.mp later with second | ⟨outcome, middle, answered, later⟩
    · rcases stopsAt_ask.mp second with rfl | rfl
      · exact Or.inl rfl
      · rw [recorded]
        exact Or.inr (Or.inl rfl)
    · have answered := finishes_ask.mp answered
      rw [recorded] at answered
      cases answered
      rcases Program.stopsAt_bind.mp later with third | ⟨value, middle, passed, later⟩
      · rw [← Program.stopsAt_ofOutcome.mp third]
        exact Or.inr (Or.inl rfl)
      · obtain ⟨_, rfl⟩ := Program.finishes_ofOutcome.mp passed
        rcases stopsAt_ask.mp later with rfl | rfl
        · exact Or.inr (Or.inl rfl)
        · exact Or.inr (Or.inr rfl)

/-- A load writes what it recovers, and nothing else. -/
theorem stopsAt_loadState
    (stopped : Program.StopsAt (StateStores.Step codec retention) stores (loadState codec)
      after) :
    after = stores ∨ ∃ checkpoint, stores.projection.mapping = none ∧
      CheckpointTable.latestValid codec stores.journalSequence stores.table.rows.reverse =
        .ok (some checkpoint) ∧
      after.table = stores.table ∧
      after.projection = .document (.object checkpoint.state) := by
  unfold loadState at stopped
  rcases Program.stopsAt_bind.mp stopped with first | ⟨projection, middle, read, later⟩
  · rcases stopsAt_ask.mp first with rfl | rfl
    · exact Or.inl rfl
    · exact Or.inl rfl
  cases finishes_ask.mp read
  cases mapping : stores.projection.mapping with
  | some state =>
      rw [mapping] at later
      exact Or.inl (Program.stopsAt_pure.mp later).symm
  | none =>
      rw [mapping] at later
      rcases Program.stopsAt_bind.mp later with second | ⟨number, middle, counted, later⟩
      · rcases stopsAt_ask.mp second with rfl | rfl
        · exact Or.inl rfl
        · exact Or.inl rfl
      cases finishes_ask.mp counted
      rcases Program.stopsAt_bind.mp later with third | ⟨rows, middle, selected, later⟩
      · rcases stopsAt_ask.mp third with rfl | rfl
        · exact Or.inl rfl
        · exact Or.inl rfl
      cases finishes_ask.mp selected
      rcases Program.stopsAt_bind.mp later with fourth | ⟨found, middle, passed, later⟩
      · exact Or.inl (Program.stopsAt_ofOutcome.mp fourth).symm
      obtain ⟨valid, rfl⟩ := Program.finishes_ofOutcome.mp passed
      cases found with
      | none =>
          refine Or.inl ?_
          dsimp only at later
          split at later
          · exact (Program.stopsAt_pure.mp later).symm
          · exact (Program.stopsAt_raise.mp later).symm
      | some checkpoint =>
          rcases Program.stopsAt_bind.mp later with fifth | ⟨_, middle, written, later⟩
          · rcases stopsAt_ask.mp fifth with rfl | rfl
            · exact Or.inl rfl
            · exact Or.inr ⟨checkpoint, rfl, valid, rfl, rfl⟩
          cases finishes_ask.mp written
          refine Or.inr ⟨checkpoint, rfl, valid, ?_⟩
          rcases Program.stopsAt_bind.mp later with sixth | ⟨_, middle, appended, later⟩
          · rcases stopsAt_ask.mp sixth with rfl | rfl
            · exact ⟨rfl, rfl⟩
            · exact ⟨rfl, rfl⟩
          cases finishes_ask.mp appended
          rw [← Program.stopsAt_pure.mp later]
          exact ⟨rfl, rfl⟩

/-- A load returns what the projection holds, or the newest checkpoint that is taken. -/
theorem finishes_loadState {state : Row} :
    (∃ final, Program.Finishes (StateStores.Step codec retention) stores (loadState codec)
        (some state) final) ↔
      stores.projection.mapping = some state ∨
        (stores.projection.mapping = none ∧ ∃ checkpoint,
          CheckpointTable.latestValid codec stores.journalSequence stores.table.rows.reverse =
            .ok (some checkpoint) ∧ checkpoint.state = state) := by
  unfold loadState
  simp only [Program.finishes_bind]
  constructor
  · rintro ⟨final, projection, middle, read, later⟩
    cases finishes_ask.mp read
    cases mapping : stores.projection.mapping with
    | some held =>
        rw [mapping] at later
        exact Or.inl (congrArg some (Option.some.inj (Program.finishes_pure.mp later).1))
    | none =>
        rw [mapping] at later
        simp only [Program.finishes_bind] at later
        obtain ⟨number, _, counted, rows, _, selected, found, _, passed, later⟩ := later
        cases finishes_ask.mp counted
        cases finishes_ask.mp selected
        obtain ⟨valid, rfl⟩ := Program.finishes_ofOutcome.mp passed
        cases found with
        | none =>
            dsimp only at later
            split at later
            · cases (Program.finishes_pure.mp later).1
            · exact (Program.finishes_raise.mp later).elim
        | some checkpoint =>
            simp only [Program.finishes_bind] at later
            obtain ⟨_, _, _, _, _, _, returned⟩ := later
            refine Or.inr ⟨rfl, checkpoint, valid, ?_⟩
            exact Option.some.inj (Program.finishes_pure.mp returned).1
  · rintro (held | ⟨unreadable, checkpoint, valid, rfl⟩)
    · refine ⟨stores, stores.projection, stores, finishes_ask.mpr rfl, ?_⟩
      rw [held]
      exact Program.finishes_pure.mpr ⟨rfl, rfl⟩
    · refine ⟨{ stores with
        projection := .document (.object checkpoint.state)
        journalSequence := stores.journalSequence + 1 },
        stores.projection, stores, finishes_ask.mpr rfl, ?_⟩
      rw [unreadable]
      simp only [Program.finishes_bind]
      refine ⟨_, _, finishes_ask.mpr rfl, _, _, finishes_ask.mpr rfl, some checkpoint, _,
        Program.finishes_ofOutcome.mpr ⟨valid, rfl⟩, ?_⟩
      simp only [Program.finishes_bind]
      exact ⟨(), _, finishes_ask.mpr rfl, (), _, finishes_ask.mpr rfl,
        Program.finishes_pure.mpr ⟨rfl, rfl⟩⟩

end Runs

/-! ## The scan of the rows -/

/-- The row has a journal sequence, and it does not exceed that of the journal. -/
def Consistent (journalSequence : Nat) (row : CheckpointRow) : Prop :=
  ∃ recorded, row.journalSequence = some recorded ∧ recorded ≤ journalSequence

/-- The row is taken by the scan. -/
def PassesScan (codec : CheckpointCodec) (journalSequence : Nat) (row : CheckpointRow) : Prop :=
  Consistent journalSequence row ∧ (codec.rowState row).isSome = true

/-- The scan goes on behind the row. -/
def Rejected (codec : CheckpointCodec) (journalSequence : Nat) (row : CheckpointRow) : Prop :=
  row.journalSequence.isSome = true ∧ ¬ PassesScan codec journalSequence row

section Scan

variable {journalSequence : Nat} {row : CheckpointRow} {rows front : List CheckpointRow}

theorem latestValid_rejected (rejected : Rejected codec journalSequence row) :
    CheckpointTable.latestValid codec journalSequence (row :: rows) =
      CheckpointTable.latestValid codec journalSequence rows := by
  obtain ⟨numbered, refused⟩ := rejected
  obtain ⟨recorded, number⟩ := Option.isSome_iff_exists.mp numbered
  rw [CheckpointTable.latestValid, number]
  dsimp only
  by_cases beyond : (journalSequence : Int) < recorded
  · rw [if_pos beyond]
  · rw [if_neg beyond]
    cases taken : codec.fromRow row with
    | none => rfl
    | some checkpoint =>
        have complete := fromRow_isSome_iff.mp (Option.isSome_of_eq_some taken)
        exact absurd ⟨⟨recorded, number, Int.not_lt.mp beyond⟩, complete.1⟩ refused

theorem latestValid_passes (rows : List CheckpointRow)
    (passes : PassesScan codec journalSequence row) :
    ∃ checkpoint, CheckpointTable.latestValid codec journalSequence (row :: rows) =
      .ok (some checkpoint) ∧ codec.rowState row = some checkpoint.state := by
  obtain ⟨⟨recorded, number, within⟩, readable⟩ := passes
  obtain ⟨state, held⟩ := Option.isSome_iff_exists.mp readable
  obtain ⟨checkpoint, taken, same⟩ := fromRow_eq_some held number
  refine ⟨checkpoint, ?_, by rw [held, same]⟩
  rw [CheckpointTable.latestValid, number]
  dsimp only
  rw [if_neg (Int.not_lt.mpr within), taken]

theorem latestValid_unnumbered (unnumbered : row.journalSequence = none) :
    CheckpointTable.latestValid codec journalSequence (row :: rows) =
      .error .valueError := by
  rw [CheckpointTable.latestValid, unnumbered]

theorem latestValid_append
    (rejected : ∀ row ∈ front, Rejected codec journalSequence row) :
    CheckpointTable.latestValid codec journalSequence (front ++ rows) =
      CheckpointTable.latestValid codec journalSequence rows := by
  induction front with
  | nil => rfl
  | cons head tail inductionHypothesis =>
      rw [List.cons_append, latestValid_rejected (rejected head List.mem_cons_self)]
      exact inductionHypothesis fun row member => rejected row (List.mem_cons_of_mem _ member)

/-- The checkpoint that the scan returns is that of one of the rows. -/
theorem latestValid_mem {checkpoint : StateCheckpoint}
    (found : CheckpointTable.latestValid codec journalSequence rows = .ok (some checkpoint)) :
    ∃ row ∈ rows, codec.rowState row = some checkpoint.state := by
  induction rows with
  | nil => cases found
  | cons head tail inductionHypothesis =>
      by_cases passes : PassesScan codec journalSequence head
      · obtain ⟨taken, first, held⟩ := latestValid_passes tail passes
        rw [first, Except.ok.injEq, Option.some.injEq] at found
        exact ⟨head, List.mem_cons_self, by rw [held, found]⟩
      · cases number : head.journalSequence with
        | none =>
            rw [latestValid_unnumbered number] at found
            cases found
        | some recorded =>
            rw [latestValid_rejected ⟨Option.isSome_of_eq_some number, passes⟩] at found
            obtain ⟨row, member, held⟩ := inductionHypothesis found
            exact ⟨row, List.mem_cons_of_mem _ member, held⟩

/-- The newest row with a property, in a table whose rows are in order. -/
theorem exists_newest (property : CheckpointRow → Prop)
    (ascending : rows.Pairwise fun first second => first.sequence < second.sequence)
    (present : ∃ row ∈ rows, property row) :
    ∃ front row back, rows = front ++ row :: back ∧ property row ∧
      (∀ other ∈ back, ¬ property other) ∧
      ∀ other ∈ rows, property other → other.sequence ≤ row.sequence := by
  induction rows with
  | nil =>
      obtain ⟨_, member, _⟩ := present
      cases member
  | cons head tail inductionHypothesis =>
      rw [List.pairwise_cons] at ascending
      by_cases later : ∃ row ∈ tail, property row
      · obtain ⟨front, row, back, split, holds, behind, newest⟩ :=
          inductionHypothesis ascending.2 later
        refine ⟨head :: front, row, back, by rw [split]; rfl, holds, behind, ?_⟩
        intro other member had
        rcases List.mem_cons.mp member with rfl | further
        · have listed : row ∈ tail := by
            rw [split]
            exact List.mem_append_right _ List.mem_cons_self
          exact Nat.le_of_lt (ascending.1 row listed)
        · exact newest other further had
      · have absent : ∀ other ∈ tail, ¬ property other :=
          fun other member had => later ⟨other, member, had⟩
        obtain ⟨row, member, holds⟩ := present
        rcases List.mem_cons.mp member with rfl | further
        · refine ⟨[], row, tail, rfl, holds, absent, ?_⟩
          intro other member had
          rcases List.mem_cons.mp member with rfl | further
          · exact Nat.le_refl _
          · exact absurd had (absent other further)
        · exact absurd holds (absent row further)

end Scan

/-! ## Every history is sound -/

theorem SaveHistory.sound {configured : Int} {saves : List SaveRecord}
    {stores : StateStores} (history : SaveHistory codec configured saves stores)
    (free : CollisionFree codec saves) :
    TableSound codec saves stores.table ∧ ProjectionSound saves stores.projection := by
  have positive : 0 < CheckpointTable.retentionOf configured :=
    Nat.lt_of_lt_of_le (by decide) (retentionOf_pos configured)
  induction history with
  | start => exact ⟨tableSound_start, Or.inl ⟨rfl, fun _ member => absurd member
      List.not_mem_nil⟩⟩
  | journaled _ inductionHypothesis => exact inductionHypothesis free
  | @completed saves stores after state savedAt reason _ json ran inductionHypothesis =>
      obtain ⟨table, _⟩ := inductionHypothesis free.tail
      obtain ⟨saved, transaction, sound, row, newest, holds⟩ :=
        table.save positive json free.forgetRow stores.journalSequence savedAt reason
      rw [finishes_saveState transaction] at ran
      rw [ran]
      refine ⟨sound.complete newest holds, Or.inr ⟨state, rfl, passed_self _ _ _, ?_⟩⟩
      exact notBefore_newest _
  | @crashed saves stores after state savedAt reason _ json stopped inductionHypothesis =>
      obtain ⟨table, projection⟩ := inductionHypothesis free.tail
      obtain ⟨saved, transaction, sound, _⟩ :=
        table.save positive json free stores.journalSequence savedAt reason
      have kept : ProjectionSound (⟨state, none⟩ :: saves) stores.projection := by
        rcases projection with ⟨absent, incomplete⟩ | ⟨held, shown, passed, notBefore⟩
        · refine Or.inl ⟨absent, fun save member => ?_⟩
          rcases List.mem_cons.mp member with rfl | earlier
          · rfl
          · exact incomplete save earlier
        · exact Or.inr ⟨held, shown, passed.cons,
            notBefore.cons fun _ impossible _ => by cases impossible⟩
      rcases stopsAt_saveState transaction stopped with rfl | rfl | rfl
      · exact ⟨table.crash state, kept⟩
      · exact ⟨sound, kept⟩
      · exact ⟨sound, Or.inr ⟨state, rfl, passed_self _ _ _, notBefore_newest none⟩⟩
  | @loaded saves stores after _ stopped inductionHypothesis =>
      obtain ⟨table, projection⟩ := inductionHypothesis free
      rcases stopsAt_loadState stopped with
        rfl | ⟨checkpoint, unreadable, found, sameTable, shown⟩
      · exact ⟨table, projection⟩
      · rw [sameTable]
        refine ⟨table, Or.inr ⟨checkpoint.state, shown, ?_⟩⟩
        obtain ⟨row, member, held⟩ := latestValid_mem found
        obtain ⟨state, same, passed, _⟩ := table.held row (List.mem_reverse.mp member)
        rw [held, Option.some.injEq] at same
        rw [same]
        refine ⟨passed, ?_⟩
        -- a projection that cannot be read was never written by a completed save
        rcases projection with ⟨_, incomplete⟩ | ⟨kept, readable, _⟩
        · intro newer save older number split completed _
          have none := incomplete save (by rw [split]; simp)
          rw [completed] at none
          cases none
        · rw [readable] at unreadable
          cases unreadable

/-! ## Recovery -/

/-- Rows are lost or changed at will; the projection and the journal may be anything. -/
def Damaged (before after : StateStores) : Prop :=
  (after.table.rows.map CheckpointRow.sequence).Sublist
    (before.table.rows.map CheckpointRow.sequence)

/-- The row is as it was written, and the journal reaches as far as it says. -/
def Usable (before after : StateStores) (row : CheckpointRow) : Prop :=
  row ∈ before.table.rows ∧ row ∈ after.table.rows ∧ Consistent after.journalSequence row

def NewestUsable (before after : StateStores) (row : CheckpointRow) : Prop :=
  Usable before after row ∧
    ∀ other, Usable before after other → other.sequence ≤ row.sequence

/-- The row is one that a completed save relies on, and it can be used. -/
def Relied (before after : StateStores) (sequence : Nat) : Prop :=
  ∃ row, Usable before after row ∧ row.sequence = sequence

/-- `load_state` returns a state that was passed: that of the projection if it can be
read, else that of the newest usable row; and no completed save with a usable row is
replaced by an older one. -/
def RecoversState (codec : CheckpointCodec) (retention : Nat) (saves : List SaveRecord)
    (before after : StateStores) : Prop :=
  ∃ state, (∃ final, Program.Finishes (StateStores.Step codec retention) after
      (loadState codec) (some state) final) ∧
    Passed saves state ∧
    (∀ held, after.projection.mapping = some held → state = held) ∧
    (after.projection.mapping = none → ∀ row, NewestUsable before after row →
      codec.rowState row = some state) ∧
    NotBefore saves (Relied before after) state

/-- The row stops the scan, or is taken with another state. -/
def Misleads (codec : CheckpointCodec) (journalSequence : Nat) (expected row : CheckpointRow) :
    Prop :=
  row.journalSequence = none ∨
    (PassesScan codec journalSequence row ∧ codec.rowState row ≠ codec.rowState expected)

/-- A newer row is taken, with the expected state. -/
def Shielded (codec : CheckpointCodec) (after : StateStores) (expected row : CheckpointRow) :
    Prop :=
  ∃ newer ∈ after.table.rows, row.sequence < newer.sequence ∧
    PassesScan codec after.journalSequence newer ∧
    codec.rowState newer = codec.rowState expected

/-- The damage that recovery copes with. -/
def Recoverable (codec : CheckpointCodec) (saves : List SaveRecord)
    (before after : StateStores) : Prop :=
  (∀ held, after.projection.mapping = some held →
    Passed saves held ∧ NotBefore saves (Relied before after) held) ∧
  (after.projection.mapping = none → ∀ expected, NewestUsable before after expected →
    ∀ row ∈ after.table.rows, expected.sequence < row.sequence →
      Misleads codec after.journalSequence expected row →
        Shielded codec after expected row)

section Recovery

variable {saves : List SaveRecord} {before after : StateStores} {retention : Nat}

theorem eq_of_sequence {rows : List CheckpointRow} {first second : CheckpointRow}
    (ascending : rows.Pairwise fun first second => first.sequence < second.sequence)
    (member : first ∈ rows) (other : second ∈ rows)
    (same : first.sequence = second.sequence) : first = second := by
  have unique : (rows.map CheckpointRow.sequence).Nodup :=
    List.pairwise_map.mpr (ascending.imp Nat.ne_of_lt)
  exact List.inj_on_of_nodup_map unique member other same

/-- The scan stops at the newest row that it does not reject. -/
theorem exists_stop (codec : CheckpointCodec)
    (ascending : after.table.rows.Pairwise fun first second =>
      first.sequence < second.sequence)
    (present : ∃ row ∈ after.table.rows, ¬ Rejected codec after.journalSequence row) :
    ∃ stop ∈ after.table.rows, ¬ Rejected codec after.journalSequence stop ∧
      (∀ other ∈ after.table.rows, ¬ Rejected codec after.journalSequence other →
        other.sequence ≤ stop.sequence) ∧
      ∃ older, CheckpointTable.latestValid codec after.journalSequence
          after.table.rows.reverse =
        CheckpointTable.latestValid codec after.journalSequence (stop :: older) := by
  obtain ⟨front, stop, back, split, holds, behind, newest⟩ :=
    exists_newest _ ascending present
  refine ⟨stop, by rw [split]; simp, holds, newest, front.reverse, ?_⟩
  rw [split, List.reverse_append, List.reverse_cons, List.append_assoc,
    List.singleton_append]
  refine latestValid_append fun row member => ?_
  exact not_not.mp (behind row (List.mem_reverse.mp member))

theorem not_rejected_iff {journalSequence : Nat} {row : CheckpointRow} :
    ¬ Rejected codec journalSequence row ↔
      row.journalSequence = none ∨ PassesScan codec journalSequence row := by
  unfold Rejected
  rw [not_and, not_not]
  cases row.journalSequence with
  | none => simp
  | some recorded => simp

/-- The state of the newest usable row was passed, and no relied save is newer. -/
theorem TableSound.newestUsable (sound : TableSound codec saves before.table)
    {row : CheckpointRow} (newest : NewestUsable before after row) :
    ∃ state, codec.rowState row = some state ∧ Passed saves state ∧
      NotBefore saves (Relied before after) state := by
  obtain ⟨state, held, passed, notBefore⟩ := sound.held row newest.1.1
  refine ⟨state, held, passed, notBefore.mono ?_⟩
  rintro sequence ⟨other, usable, rfl⟩
  exact newest.2 other usable

theorem recovers_iff_recoverable {configured : Int} (free : CollisionFree codec saves)
    (history : SaveHistory codec configured saves before) (damaged : Damaged before after)
    (valid : ∃ row, Usable before after row) :
    RecoversState codec retention saves before after ↔ Recoverable codec saves before after := by
  obtain ⟨sound, _⟩ := history.sound free
  unfold RecoversState
  simp only [finishes_loadState]
  cases mapping : after.projection.mapping with
  | some held =>
      constructor
      · rintro ⟨state, _, passed, same, _, notBefore⟩
        cases same held rfl
        refine ⟨fun other shown => ?_, fun unreadable => ?_⟩
        · rw [mapping, Option.some.injEq] at shown
          rw [← shown]
          exact ⟨passed, notBefore⟩
        · rw [mapping] at unreadable
          cases unreadable
      · intro recoverable
        obtain ⟨passed, notBefore⟩ := recoverable.1 held mapping
        refine ⟨held, Or.inl rfl, passed, fun _ same => Option.some.inj same, ?_, notBefore⟩
        intro unreadable
        cases unreadable
  | none =>
      have ascending : after.table.rows.Pairwise fun first second =>
          first.sequence < second.sequence := by
        have ordered := (List.pairwise_map.mpr sound.ascending).sublist damaged
        exact List.pairwise_map.mp ordered
      obtain ⟨expected, newest⟩ : ∃ row, NewestUsable before after row := by
        obtain ⟨row, usable⟩ := valid
        obtain ⟨_, newest, _, _, holds, _, most⟩ := exists_newest
          (Usable before after) ascending ⟨row, usable.2.1, usable⟩
        exact ⟨newest, holds, fun other used => most other used.2.1 used⟩
      obtain ⟨state, held, passed, notBefore⟩ := sound.newestUsable newest
      have taken : PassesScan codec after.journalSequence expected :=
        ⟨newest.1.2.2, Option.isSome_of_eq_some held⟩
      obtain ⟨stop, member, stops, last, older, scanned⟩ := exists_stop codec
        ascending ⟨expected, newest.1.2.1, not_rejected_iff.mpr (Or.inr taken)⟩
      rw [scanned]
      constructor
      · rintro ⟨loaded, source, _, _, agrees, _⟩
        rcases source with impossible | ⟨_, checkpoint, found, rfl⟩
        · cases impossible
        refine ⟨fun _ shown => ?_, fun _ other newestOther row present above misleads => ?_⟩
        · rw [mapping] at shown
          cases shown
        rcases not_rejected_iff.mp stops with unnumbered | passes
        · rw [latestValid_unnumbered unnumbered] at found
          cases found
        obtain ⟨taken, first, stopHeld⟩ := latestValid_passes older passes
        rw [first, Except.ok.injEq, Option.some.injEq] at found
        have same : codec.rowState stop = codec.rowState other := by
          rw [stopHeld, found, agrees rfl other newestOther]
        have unrejected := not_rejected_iff.mpr (misleads.imp id And.left)
        rcases Nat.lt_or_ge row.sequence stop.sequence with below | reached
        · exact ⟨stop, member, below, passes, same⟩
        · -- the scan stops at this row, which it therefore reads as expected
          have equal : row = stop :=
            eq_of_sequence ascending present member
              (Nat.le_antisymm (last row present unrejected) reached)
          rw [equal] at misleads
          rcases misleads with unnumbered | ⟨_, different⟩
          · obtain ⟨⟨recorded, numbered, _⟩, _⟩ := passes
            rw [unnumbered] at numbered
            cases numbered
          · exact absurd same different
      · intro recoverable
        have sound : ¬ (expected.sequence < stop.sequence ∧
            Misleads codec after.journalSequence expected stop) := by
          rintro ⟨above, misleads⟩
          obtain ⟨newer, listed, higher, passes, _⟩ :=
            recoverable.2 mapping expected newest stop member above misleads
          have bound := last newer listed (not_rejected_iff.mpr (Or.inr passes))
          omega
        have agrees : PassesScan codec after.journalSequence stop ∧
            codec.rowState stop = codec.rowState expected := by
          have reached := last expected newest.1.2.1 (not_rejected_iff.mpr (Or.inr taken))
          rcases Nat.lt_or_ge expected.sequence stop.sequence with above | below
          · have clean : ¬ Misleads codec after.journalSequence expected stop :=
              fun misleads => sound ⟨above, misleads⟩
            rcases not_rejected_iff.mp stops with unnumbered | passes
            · exact absurd (Or.inl unnumbered) clean
            · exact ⟨passes, not_not.mp fun different => clean (Or.inr ⟨passes, different⟩)⟩
          · rw [eq_of_sequence ascending member newest.1.2.1 (Nat.le_antisymm below reached)]
            exact ⟨taken, rfl⟩
        obtain ⟨checkpoint, found, stopHeld⟩ := latestValid_passes older agrees.1
        have loaded : checkpoint.state = state := by
          rw [agrees.2, held, Option.some.injEq] at stopHeld
          exact stopHeld.symm
        refine ⟨state, Or.inr ⟨rfl, checkpoint, found, loaded⟩, passed, fun _ shown => ?_,
          fun _ other newestOther => ?_, notBefore⟩
        · cases shown
        · have same : other = expected := eq_of_sequence ascending newestOther.1.2.1
            newest.1.2.1 (Nat.le_antisymm (newest.2 other newestOther.1)
              (newestOther.2 expected newest.1))
          rw [same, held]

/-- Damage that the digests show is coped with, whatever rows are left. -/
theorem recoverable_of_noticed {configured : Int} (free : CollisionFree codec saves)
    (history : SaveHistory codec configured saves before)
    (projection : after.projection.mapping = none ∨ after.projection = before.projection)
    (noticed : ∀ row ∈ after.table.rows, row ∈ before.table.rows ∨
      (row.journalSequence.isSome = true ∧ codec.rowState row = none)) :
    Recoverable codec saves before after := by
  obtain ⟨table, shown⟩ := history.sound free
  constructor
  · intro held mapping
    rcases projection with unreadable | same
    · rw [unreadable] at mapping
      cases mapping
    · rw [same] at mapping
      rcases shown with ⟨missing, _⟩ | ⟨state, document, passed, notBefore⟩
      · rw [missing] at mapping
        cases mapping
      · rw [document] at mapping
        rw [← Option.some.inj mapping]
        exact ⟨passed, notBefore.mono fun _ _ => trivial⟩
  · rintro _ expected newest row member above (unnumbered | ⟨⟨consistent, readable⟩, _⟩)
    · rcases noticed row member with old | ⟨numbered, _⟩
      · have numbered := table.numbered row old
        rw [unnumbered] at numbered
        cases numbered
      · rw [unnumbered] at numbered
        cases numbered
    · rcases noticed row member with old | ⟨_, wrong⟩
      · have bound := newest.2 row ⟨old, member, consistent⟩
        omega
      · rw [wrong] at readable
        cases readable

end Recovery

/-! ## Two saves and some damage -/

/-- Texts are their own digests. -/
def plainCodec : CheckpointCodec where
  round := id
  sha256 := String.ofList

def taskState (name : String) : Row :=
  [("state", .string name)]

def stateRow (sequence : Nat) (name : String) : CheckpointRow :=
  { sequence := sequence
    savedAt := ""
    journalSequence := some 0
    reason := "state_update"
    stateSha256 := plainCodec.digest (taskState name)
    stateJson := encodeState (taskState name) }

def firstSave : StateStores where
  projection := .document (.object (taskState "running"))
  table := { rows := [stateRow 1 "running"], lastSequence := 1 }

def secondSave : StateStores where
  projection := .document (.object (taskState "paused"))
  table := { rows := [stateRow 1 "running", stateRow 2 "paused"], lastSequence := 2 }

def bothSaves : List SaveRecord :=
  [⟨taskState "paused", some 2⟩, ⟨taskState "running", some 1⟩]

theorem canonical_taskState (name : String) :
    Canonical plainCodec.round (.object (taskState name)) := by
  refine Canonical.object (List.pairwise_singleton _ _) fun field member => ?_
  rw [List.mem_singleton.mp member]
  exact Canonical.string name

theorem digests_different :
    plainCodec.digest (taskState "running") ≠ plainCodec.digest (taskState "paused") := by
  decide +kernel

theorem save_start : ({} : CheckpointTable).save plainCodec
    (CheckpointTable.retentionOf 256) (taskState "running") 0 "" "" = .ok firstSave.table :=
  rfl

theorem save_firstSave : firstSave.table.save plainCodec (CheckpointTable.retentionOf 256)
    (taskState "paused") 0 "" "" = .ok secondSave.table := by
  unfold CheckpointTable.save CheckpointTable.repeats
  show ((if plainCodec.digest (taskState "running") = plainCodec.digest (taskState "paused")
    then _ else _ : Except CheckpointError Bool) >>= _) = _
  rw [if_neg digests_different]
  rfl

theorem secondSave_history : SaveHistory plainCodec 256 bothSaves secondSave := by
  have first : Program.Finishes
      (StateStores.Step plainCodec (CheckpointTable.retentionOf 256)) {}
        (saveState (taskState "running") "" "") () firstSave :=
    (finishes_saveState save_start).mpr rfl
  have second : Program.Finishes
      (StateStores.Step plainCodec (CheckpointTable.retentionOf 256)) firstSave
        (saveState (taskState "paused") "" "") () secondSave :=
    (finishes_saveState save_firstSave).mpr rfl
  exact .completed (.completed .start (canonical_taskState "running") first)
    (canonical_taskState "paused") second

theorem collisionFree_bothSaves : CollisionFree plainCodec bothSaves := by
  intro first second passed other same
  have named : ∀ state, Passed bothSaves state →
      state = taskState "paused" ∨ state = taskState "running" := by
    rintro state ⟨save, member, rfl⟩
    rcases List.mem_cons.mp member with rfl | later
    · exact Or.inl rfl
    · rw [List.mem_singleton.mp later]
      exact Or.inr rfl
  rcases named first passed with rfl | rfl <;> rcases named second other with rfl | rfl
  · rfl
  · exact absurd same.symm digests_different
  · exact absurd same digests_different
  · rfl

/-- The projection is lost, and the newest row is lost or its journal sequence damaged. -/
def afterLoss (newest : List CheckpointRow) : StateStores where
  projection := .missing
  table := { rows := stateRow 1 "running" :: newest, lastSequence := 2 }

theorem usable_afterLoss (newest : List CheckpointRow) :
    Usable secondSave (afterLoss newest) (stateRow 1 "running") :=
  ⟨List.mem_cons_self, List.mem_cons_self, 0, rfl, Int.le_refl 0⟩

/-- Without the newest row the older state is loaded. -/
theorem lostRow_recovers :
    RecoversState plainCodec 256 bothSaves secondSave (afterLoss []) := by
  refine (recovers_iff_recoverable collisionFree_bothSaves secondSave_history ?_
    ⟨_, usable_afterLoss []⟩).mpr ⟨fun held shown => ?_, fun _ expected newest => ?_⟩
  · exact (List.nil_sublist [2]).cons_cons 1
  · cases shown
  · intro row member above
    have listed := newest.1.2.1
    rw [List.mem_singleton.mp member, List.mem_singleton.mp listed] at above
    exact absurd above (Nat.lt_irrefl 1)

/-- A damaged journal sequence makes the load fail, although an older row can be used. -/
theorem damagedRow_fails :
    ¬ ∀ (codec : CheckpointCodec) (configured : Int) (saves : List SaveRecord)
        (before after : StateStores), CollisionFree codec saves →
      SaveHistory codec configured saves before → Damaged before after →
      (∃ row, Usable before after row) →
      RecoversState codec (CheckpointTable.retentionOf configured) saves before after := by
  intro recovers
  obtain ⟨state, loads, _⟩ := recovers plainCodec 256 bothSaves secondSave
    (afterLoss [{ stateRow 2 "paused" with journalSequence := none }])
    collisionFree_bothSaves secondSave_history (List.Sublist.refl [1, 2])
    ⟨_, usable_afterLoss _⟩
  rcases finishes_loadState.mp loads with impossible | ⟨_, checkpoint, found, _⟩
  · cases impossible
  · have stopped : CheckpointTable.latestValid plainCodec (0 : Nat)
        [{ stateRow 2 "paused" with journalSequence := none }, stateRow 1 "running"] =
          .error .valueError := latestValid_unnumbered rfl
    have same := found.symm.trans stopped
    cases same

end Execraft.Orchestrate
