import Execraft.ProjectExecution.JournalRead

/-!
# Appending behind a torn record

A crash leaves a proper prefix of one record at the end of the file, and later
appends write behind it.  No completed event is lost exactly when the prefix
ends between two characters and, if anything is appended later, nothing but
blanks follows its last line boundary.
-/

namespace Execraft.ProjectExecution

open Foundation Foundation.Json Foundation.Text

/-- The torn bytes are whole characters, and an event appended behind them does
not continue a line that they have begun. -/
def TornCleanly (torn : ByteArray) (later : List AppendCall) : Prop :=
  ∃ tail, torn = encodeUtf8 tail ∧
    (later = [] ∨ ∀ character ∈ openLine tail, isBlank character = true)

/-- The file after a crash in the middle of a write. -/
def JournalFile.crash (file : JournalFile) (torn : ByteArray) : JournalFile :=
  .regular (file.content ++ torn)

/-- Every completed event is read, in order. -/
def ReadsAll (round : String → String) (path : String) (file : JournalFile)
    (completed : List Json) : Prop :=
  ∃ rows, read round path file = .ok rows ∧ completed.Sublist rows

/-- A proper prefix of a record is a prefix of the encoded event. -/
theorem torn_prefix {event : List (String × Json)} {tail : List Char}
    {lost : ByteArray} (split : encodeUtf8 tail ++ lost = encodeUtf8 (record event))
    (proper : lost ≠ ByteArray.empty) : tail <+: encode (.object event) := by
  have front := prefix_of_encodeUtf8_append split
  rcases List.prefix_concat_iff.mp front with whole | shorter
  · exfalso
    rw [record, ← whole] at split
    have sizes := congrArg ByteArray.size split
    rw [ByteArray.size_append] at sizes
    have empty : lost.size = 0 := by omega
    exact proper (ByteArray.size_eq_zero_iff.mp empty)
  · exact shorter

/-- The rows of a torn text and of the first record appended behind it. -/
theorem readText_torn_append {round : String → String}
    {interrupted fields : List (String × Json)}
    (tornCanonical : Canonical round (.object interrupted))
    (canonical : Canonical round (.object fields))
    (free : SeparatorFree fields) {tail : List Char}
    (front : tail <+: encode (.object interrupted)) (rest : List Char) :
    readText round (tail ++ (record fields ++ rest)) =
      readText round (closedLines tail) ++
        ((readLine round (openLine tail ++ encode (.object fields))).toList ++
          readText round rest) := by
  have behind : readText round (openLine tail ++ (record fields ++ rest)) =
      (readLine round (openLine tail ++ encode (.object fields))).toList ++
        readText round rest := by
    have plain : ∀ character ∈ openLine tail ++ encode (.object fields),
        isLineBreak character = false := by
      intro character member
      rcases List.mem_append.mp member with inOpen | inEvent
      · exact openLine_plain tail character inOpen
      · exact (encode_plain_iff canonical).mpr free character inEvent
    have split : openLine tail ++ (record fields ++ rest) =
        (openLine tail ++ encode (.object fields)) ++ '\n' :: rest := by
      simp [record]
    rw [split, readText, splitlines_line plain (by decide) (by decide)]
    cases row : readLine round (openLine tail ++ encode (.object fields)) with
    | none => simp [readText, row]
    | some found => simp [readText, row]
  have whole := closedLines_append_openLine tail
  rcases closedLines_ends tail with empty | ⟨most, mark, shape, lineBreak⟩
  · have allOpen : openLine tail = tail := by
      rw [empty, List.nil_append] at whole
      exact whole
    rw [allOpen] at behind
    rw [behind, empty, allOpen]
    rfl
  · have noReturn : NoReturn tail := by
      intro carriage
      exact encode_noReturn tornCanonical (front.subset carriage)
    have inTail : ∀ character ∈ most ++ [mark], character ∈ tail := by
      intro character member
      rw [← whole, shape]
      exact List.mem_append_left _ member
    have single : mark ≠ '\r' := by
      rintro rfl
      exact noReturn (inTail _ (by simp))
    have mostReturn : NoReturn most :=
      fun carriage => noReturn (inTail _ (by simp [carriage]))
    have split : tail ++ (record fields ++ rest) =
        most ++ mark :: (openLine tail ++ (record fields ++ rest)) := by
      nth_rewrite 1 [← whole]
      rw [shape]
      simp
    rw [split, readText_append round mostReturn lineBreak single, behind, shape]

/-- The closed lines of a torn record yield no event. -/
theorem readText_torn_closed {round : String → String}
    {interrupted : List (String × Json)}
    (canonical : Canonical round (.object interrupted)) {tail : List Char}
    (front : tail <+: encode (.object interrupted)) :
    ∀ row ∈ readText round (closedLines tail), isEvent row = false := by
  obtain ⟨rest, joined⟩ := front
  have split : encode (.object interrupted) =
      closedLines tail ++ (openLine tail ++ rest) := by
    rw [← List.append_assoc, closedLines_append_openLine, joined]
  exact readText_closed canonical split (closedLines_ends tail)

/-! ## The journal after the restart -/

section Restart

variable {round : String → String} {path : String}
  {earlier later : List AppendCall} {interrupted : AppendCall}
  {file final : JournalFile} {before after : List Json}
  {torn lost : ByteArray}

/-- The bytes of the file after the restart. -/
theorem content_after_restart
    (completed : appendAll path .absent earlier = .ok (file, before))
    (restarted : appendAll path (file.crash torn) later = .ok (final, after)) :
    final.content = encodeUtf8 (records (earlier.map AppendCall.event)) ++
      (torn ++ encodeUtf8 (records (later.map AppendCall.event))) := by
  obtain ⟨_, _, _, written⟩ := appendAll_ok completed (by simp)
  obtain ⟨_, _, _, content⟩ :=
    appendAll_ok restarted (by simp [JournalFile.crash])
  rw [content, JournalFile.crash, JournalFile.content, written,
    JournalFile.content, ByteArray.empty_append, ByteArray.append_assoc]
  simp

theorem countP_events (calls : List AppendCall) :
    (calls.map fun call => Json.object call.event).countP isEvent =
      calls.length := by
  have all : ∀ row ∈ calls.map fun call => Json.object call.event,
      isEvent row = true := by
    intro row member
    obtain ⟨call, _, rfl⟩ := List.mem_map.mp member
    exact isEvent_event _ _ _
  rw [List.countP_eq_length.mpr all, List.length_map]

/-- With completed events free of separators, the journal keeps all of them
exactly when the record was torn cleanly. -/
private theorem readsAll_iff_tornCleanly
    (json : ∀ call ∈ earlier ++ interrupted :: later,
      Canonical round (.object call.data))
    (free : ∀ call ∈ earlier ++ later, SeparatorFree call.data)
    (completed : appendAll path .absent earlier = .ok (file, before))
    (split : torn ++ lost = encodeUtf8 (record interrupted.event))
    (proper : lost ≠ ByteArray.empty)
    (restarted : appendAll path (file.crash torn) later = .ok (final, after)) :
    ReadsAll round path final (before ++ after) ↔ TornCleanly torn later := by
  have content := content_after_restart completed restarted
  obtain ⟨_, earlierSupported, rfl, _⟩ := appendAll_ok completed (by simp)
  obtain ⟨safe, laterSupported, rfl, _⟩ :=
    appendAll_ok restarted (by simp [JournalFile.crash])
  have eventCanonical : ∀ call ∈ earlier ++ interrupted :: later,
      Canonical round (.object call.event) :=
    fun call member => event_canonical (json call member) _ _
  have eventFree : ∀ call ∈ earlier ++ later, SeparatorFree call.event := by
    intro call member
    have supported : call.eventType ∈ projectEventTypes := by
      rcases List.mem_append.mp member with inEarlier | inLater
      · exact earlierSupported call inEarlier
      · exact laterSupported call inLater
    have canonical := json call (by
      rcases List.mem_append.mp member with inEarlier | inLater
      · exact List.mem_append_left _ inEarlier
      · exact List.mem_append_right _ (List.mem_cons_of_mem _ inLater))
    cases canonical with
    | object sorted _ =>
        exact (separatorFree_event supported call.now sorted).mpr
          (free call member)
  have earlierCanonical : ∀ fields ∈ earlier.map AppendCall.event,
      Canonical round (.object fields) :=
    List.forall_mem_map.mpr fun call member =>
      eventCanonical call (List.mem_append_left _ member)
  have tornCanonical := eventCanonical interrupted (by simp)
  have earlierRows :
      readText round (records (earlier.map AppendCall.event)) =
        earlier.map fun call => Json.object call.event := by
    rw [readText_records earlierCanonical (List.forall_mem_map.mpr
      fun call member => eventFree call (List.mem_append_left _ member)),
      List.map_map]
    rfl
  -- The rows of a file whose torn bytes are the characters `tail`.
  have reads : ∀ tail, torn = encodeUtf8 tail →
      tail <+: encode (.object interrupted.event) ∧
      read round path final = .ok
        ((earlier.map fun call => Json.object call.event) ++
          readText round (tail ++ records (later.map AppendCall.event))) := by
    rintro tail rfl
    have front := torn_prefix split proper
    have laterCanonical : ∀ fields ∈ later.map AppendCall.event,
        Canonical round (.object fields) :=
      List.forall_mem_map.mpr fun call member => eventCanonical call
        (List.mem_append_right _ (List.mem_cons_of_mem _ member))
    have noReturn : NoReturn (records (earlier.map AppendCall.event) ++
        (tail ++ records (later.map AppendCall.event))) := by
      intro carriage
      rcases List.mem_append.mp carriage with inEarlier | behind
      · exact records_noReturn earlierCanonical inEarlier
      · rcases List.mem_append.mp behind with inTail | inLater
        · exact encode_noReturn tornCanonical (front.subset inTail)
        · exact records_noReturn laterCanonical inLater
    refine ⟨front, ?_⟩
    rw [← encodeUtf8_append, ← encodeUtf8_append] at content
    rw [read_encoded safe content noReturn,
      readText_records_append earlierCanonical, earlierRows]
  constructor
  · rintro ⟨rows, readRows, kept⟩
    -- The bytes decode, so the cut is between characters.
    obtain ⟨tail, tornText⟩ : ∃ tail, torn = encodeUtf8 tail := by
      rw [read_of_safe safe, content, decodeUtf8_encodeUtf8_append,
        decodeUtf8_append] at readRows
      cases decoded : decodeUtf8 torn with
      | none =>
          rw [decoded] at readRows
          cases readRows
      | some tail => exact ⟨tail, decodeUtf8_eq_some decoded⟩
    refine ⟨tail, tornText, ?_⟩
    obtain ⟨front, allRows⟩ := reads tail tornText
    rw [allRows] at readRows
    cases readRows
    cases later with
    | nil => exact Or.inl rfl
    | cons call calls =>
        right
        by_contra dirty
        have callCanonical := eventCanonical call (by simp)
        have missing : readLine round
            (openLine tail ++ encode (.object call.event)) = none := by
          cases row : readLine round
              (openLine tail ++ encode (.object call.event)) with
          | none => rfl
          | some found =>
              have decoded := (readLine_eq_some row).2
              exact absurd (blank_of_decode_append callCanonical decoded) dirty
        have restCanonical : ∀ fields ∈ calls.map AppendCall.event,
            Canonical round (.object fields) :=
          List.forall_mem_map.mpr fun other member =>
            eventCanonical other (by simp [member])
        have restCount := (countP_readText_records restCanonical).1
        have closedCount := countP_eq_zero_of_false
          (readText_torn_closed tornCanonical front)
        have laterCount : (Json.object call.event ::
            calls.map fun other => Json.object other.event).countP isEvent =
            calls.length + 1 :=
          countP_events (call :: calls)
        have counted := kept.countP_le (p := isEvent)
        rw [List.map_cons, List.map_cons, records_cons,
          readText_torn_append tornCanonical callCanonical
            (eventFree call (by simp)) front, missing] at counted
        simp only [List.countP_append, countP_events, laterCount, closedCount,
          Option.toList_none, List.countP_nil] at counted
        rw [List.length_map] at restCount
        omega
  · rintro ⟨tail, tornText, clean⟩
    obtain ⟨front, allRows⟩ := reads tail tornText
    refine ⟨_, allRows, ?_⟩
    apply List.Sublist.append (List.Sublist.refl _)
    cases later with
    | nil => exact List.nil_sublist _
    | cons call calls =>
        have blank : ∀ character ∈ openLine tail, isBlank character = true := by
          rcases clean with impossible | blank
          · cases impossible
          · exact blank
        have callCanonical := eventCanonical call (by simp)
        have restRows : readText round (records (calls.map AppendCall.event)) =
            calls.map fun other => Json.object other.event := by
          rw [readText_records
            (List.forall_mem_map.mpr fun other member =>
              eventCanonical other (by simp [member]))
            (List.forall_mem_map.mpr fun other member =>
              eventFree other (by simp [member])), List.map_map]
          rfl
        rw [List.map_cons, List.map_cons, records_cons,
          readText_torn_append tornCanonical callCanonical
            (eventFree call (by simp)) front,
          readLine_encode callCanonical blank, restRows]
        exact List.sublist_append_right _ _

/-- A completed event survives a torn record if the completed events are free of
separators and the record was torn cleanly; without the latter one is lost. -/
theorem readsAll_after_crash
    (json : ∀ call ∈ earlier ++ interrupted :: later,
      Canonical round (.object call.data))
    (completed : appendAll path .absent earlier = .ok (file, before))
    (split : torn ++ lost = encodeUtf8 (record interrupted.event))
    (proper : lost ≠ ByteArray.empty)
    (restarted : appendAll path (file.crash torn) later = .ok (final, after)) :
    ((∀ call ∈ earlier ++ later, SeparatorFree call.data) ∧
        TornCleanly torn later →
      ReadsAll round path final (before ++ after)) ∧
    ((∀ call ∈ earlier ++ later, SeparatorFree call.data) →
      ReadsAll round path final (before ++ after) → TornCleanly torn later) := by
  constructor
  · rintro ⟨free, clean⟩
    exact (readsAll_iff_tornCleanly json free completed split proper
      restarted).mpr clean
  · intro free reads
    exact (readsAll_iff_tornCleanly json free completed split proper
      restarted).mp reads

end Restart

private theorem failureCalls_canonical (messages : List String) :
    ∀ call ∈ messages.map failureCall, Canonical id (.object call.data) := by
  intro call member
  obtain ⟨message, _, rfl⟩ := List.mem_map.mp member
  exact failureCall_canonical message _ (List.mem_singleton_self _)

/-- A record cut behind its opening brace. -/
private theorem record_cut (fields : List (String × Json)) :
    encodeUtf8 ['{'] ++ encodeUtf8 (record fields).tail =
        encodeUtf8 (record fields) ∧
      encodeUtf8 (record fields).tail ≠ ByteArray.empty := by
  obtain ⟨inner, braces⟩ := encode_object_braces fields
  rw [record, braces]
  constructor
  · rw [← encodeUtf8_append]
    rfl
  · intro empty
    have nothing := congrArg decodeUtf8 empty
    rw [← encodeUtf8_nil, decodeUtf8_encodeUtf8, decodeUtf8_encodeUtf8] at nothing
    simp at nothing

/-- The opening brace of a second record is torn and nothing is appended
later. -/
theorem readsAll_after_crash_failureCall :
    ((∀ call ∈ [failureCall "exit 1"] ++ [], SeparatorFree call.data) ∧
        TornCleanly (encodeUtf8 ['{']) [] →
      ReadsAll id "journal.jsonl"
        (.regular ((ByteArray.empty ++
          encodeUtf8 (record (failureCall "exit 1").event)) ++ encodeUtf8 ['{']))
        ([.object (failureCall "exit 1").event] ++ [])) ∧
    ((∀ call ∈ [failureCall "exit 1"] ++ [], SeparatorFree call.data) →
      ReadsAll id "journal.jsonl"
        (.regular ((ByteArray.empty ++
          encodeUtf8 (record (failureCall "exit 1").event)) ++ encodeUtf8 ['{']))
        ([.object (failureCall "exit 1").event] ++ []) →
      TornCleanly (encodeUtf8 ['{']) []) :=
  readsAll_after_crash (failureCalls_canonical ["exit 1", "exit 2"])
    (appendAll_failureCall _) (record_cut _).1 (record_cut _).2 rfl

theorem not_readsAll_after_crash :
    ¬ ∀ (round : String → String) (path : String)
        (earlier later : List AppendCall) (interrupted : AppendCall)
        (file final : JournalFile) (before after : List Json)
        (torn lost : ByteArray),
        (∀ call ∈ earlier ++ interrupted :: later,
          Canonical round (.object call.data)) →
        appendAll path .absent earlier = .ok (file, before) →
        torn ++ lost = encodeUtf8 (record interrupted.event) →
        lost ≠ ByteArray.empty →
        appendAll path (file.crash torn) later = .ok (final, after) →
        ReadsAll round path final (before ++ after) := by
  intro claimed
  obtain ⟨rows, readRows, kept⟩ := claimed id "journal.jsonl" [] _ _ _ _ _ _ _ _
    (failureCalls_canonical ["exit 1", "exit 2"]) rfl
    (record_cut _).1 (record_cut _).2 rfl
  have content : (JournalFile.absent.crash (encodeUtf8 ['{'])).content ++
      encodeUtf8 (record (failureCall "exit 2").event) =
      encodeUtf8 ('{' :: record (failureCall "exit 2").event) := by
    simp only [JournalFile.crash, JournalFile.content, ByteArray.empty_append,
      ← encodeUtf8_append]
    rfl
  have noReturn : NoReturn ('{' :: record (failureCall "exit 2").event) := by
    unfold NoReturn
    decide +kernel
  have lostRows : readText id ('{' :: record (failureCall "exit 2").event) = [] := by
    decide +kernel
  have reads := readRows.symm.trans
    (read_encoded (regular_safe _) content noReturn)
  rw [lostRows] at reads
  rw [Except.ok.inj reads] at kept
  cases kept

end Execraft.ProjectExecution
