import Execraft.Foundation.Json.Fragments
import Execraft.Foundation.Outcome
import Execraft.ProjectExecution.Events
import Mathlib.Data.Bool.AllAny

/-!
# Reading the journal back

The reader returns exactly the appended events when, and only when, no appended
string has one of the line boundaries that JSON leaves unescaped.  A record with
such a character is split, and no part of it parses to a row with a type.
-/

namespace Execraft.ProjectExecution

open Foundation Foundation.Json Foundation.Text

/-! ## Events -/

/-- The line boundaries that `json.dumps` writes as they stand. -/
def separators : List Char := ['\u0085', '\u2028', '\u2029']

/-- No string of the members, at any depth, has a separator. -/
def SeparatorFree (fields : List (String × Json)) : Prop :=
  ∀ character ∈ separators, ¬ Mentions character (.object fields)

/-- The row has a type. -/
def isEvent : Json → Bool
  | .object fields => (lookup "type" fields).isSome
  | _ => false

theorem mentions_of_isEvent {row : Json} (typed : isEvent row = true) :
    Mentions 'p' row := by
  cases row with
  | object fields =>
      obtain ⟨value, found⟩ := Option.isSome_iff_exists.mp typed
      exact .name (mem_of_lookup found)
        (by decide : 'p' ∈ "type".toList)
  | _ => cases typed

theorem event_canonical {round : String → String} {data : List (String × Json)}
    (canonical : Canonical round (.object data)) (eventType timestamp : String) :
    Canonical round (.object (event eventType timestamp data)) := by
  cases canonical with
  | object sorted members =>
      refine Canonical.insertFields (Canonical.dict ?_) members
      intro field member
      simp only [List.mem_cons, List.not_mem_nil, or_false] at member
      rcases member with rfl | rfl
      · exact .string _
      · exact .string _

theorem isEvent_event (eventType timestamp : String)
    (data : List (String × Json)) :
    isEvent (.object (event eventType timestamp data)) = true := by
  apply lookup_insertFields_isSome
  simp [insertFields]

private theorem fixedDigits_printable (width number : Nat) :
    ∀ character ∈ fixedDigits width number, Printable character := by
  intro character member
  obtain ⟨digit, small, rfl⟩ := mem_fixedDigits member
  exact printable_digitChar (by omega)

theorem utcNow_printable (now : Instant) :
    ∀ character ∈ (utcNow now).toList, Printable character := by
  intro character member
  have fixed : ∀ mark ∈ ['-', 'T', ':', '+', '0'], Printable mark :=
    List.all_iff_forall_prop.mp (by decide)
  simp only [utcNow, String.toList_ofList, Instant.isoformat, Date.isoformat,
    List.mem_append, List.mem_cons, List.not_mem_nil, or_false] at member
  rcases member with (year | rfl | month | rfl | day) | rfl | hour | rfl |
    minute | rfl | second | rfl | rfl | rfl | rfl | rfl | rfl
  · exact fixedDigits_printable _ _ _ year
  · exact fixed _ (by simp)
  · exact fixedDigits_printable _ _ _ month
  · exact fixed _ (by simp)
  · exact fixedDigits_printable _ _ _ day
  · exact fixed _ (by simp)
  · exact fixedDigits_printable _ _ _ hour
  · exact fixed _ (by simp)
  · exact fixedDigits_printable _ _ _ minute
  · exact fixed _ (by simp)
  · exact fixedDigits_printable _ _ _ second
  all_goals exact fixed _ (by simp)

theorem separator_wide {character : Char} (member : character ∈ separators) :
    127 < character.toNat :=
  (List.all_iff_forall_prop.mp (by decide) :
    ∀ separator ∈ separators, 127 < separator.toNat) character member

/-- The type and the timestamp add no separator to the data. -/
theorem separatorFree_event {eventType : String}
    (supported : eventType ∈ projectEventTypes) (now : Instant)
    {data : List (String × Json)} (sorted : KeysSorted data) :
    SeparatorFree (event eventType (utcNow now) data) ↔ SeparatorFree data := by
  constructor
  · intro free character separator mentions
    apply free character separator
    cases mentions with
    | name present inText =>
        exact .name (mem_insertFields_of_mem sorted (Or.inl present)) inText
    | member present inside =>
        exact .member (mem_insertFields_of_mem sorted (Or.inl present)) inside
  · intro free character separator mentions
    have wide := separator_wide separator
    have origin : ∀ field ∈ event eventType (utcNow now) data,
        field ∈ data ∨ field = ("type", .string eventType) ∨
          field = ("timestamp", .string (utcNow now)) := by
      intro field member
      rcases mem_insertFields member with base | added
      · rcases mem_insertFields base with impossible | listed
        · cases impossible
        · exact Or.inr (by simpa using listed)
      · exact Or.inl added
    have printable_narrow : ∀ {text : List Char},
        (∀ letter ∈ text, Printable letter) → character ∉ text := by
      intro text plain member
      have narrow := (plain character member).2
      omega
    have namesPlain : character ∉ "type".toList ∧ character ∉ "timestamp".toList :=
      ⟨printable_narrow (List.all_iff_forall_prop.mp (by decide)),
        printable_narrow (List.all_iff_forall_prop.mp (by decide))⟩
    have typePlain : character ∉ eventType.toList :=
      printable_narrow (List.all_iff_forall_prop.mp
        ((by decide : ∀ listed ∈ projectEventTypes, listed.toList.all
          fun letter => Printable letter) eventType supported))
    have timePlain : character ∉ (utcNow now).toList :=
      printable_narrow (utcNow_printable now)
    cases mentions with
    | name present inText =>
        rcases origin _ present with inData | isType | isTime
        · exact free character separator (.name inData inText)
        · rw [isType] at inText
          exact namesPlain.1 inText
        · rw [isTime] at inText
          exact namesPlain.2 inText
    | member present inside =>
        rcases origin _ present with inData | isType | isTime
        · exact free character separator (.member inData inside)
        · rw [isType] at inside
          cases inside with
          | string inText => exact typePlain inText
        · rw [isTime] at inside
          cases inside with
          | string inText => exact timePlain inText

/-! ## Rows of one record -/

theorem control_or_wide_of_lineBreak {character : Char}
    (lineBreak : isLineBreak character = true) :
    character.toNat < 32 ∨ character ∈ separators := by
  have listed : character ∈ ['\n', '\r', '\x0b', '\x0c', '\x1c', '\x1d', '\x1e',
      '\u0085', '\u2028', '\u2029'] := by
    simpa [isLineBreak] using lineBreak
  exact (List.all_iff_forall_prop.mp (by decide) :
    ∀ mark ∈ ['\n', '\r', '\x0b', '\x0c', '\x1c', '\x1d', '\x1e', '\u0085',
      '\u2028', '\u2029'], mark.toNat < 32 ∨ mark ∈ separators) character listed

/-- The line boundaries of an encoded event are the separators it mentions. -/
theorem separator_of_lineBreak {round : String → String} {document : Json}
    (canonical : Canonical round document) {character : Char}
    (member : character ∈ encode document)
    (lineBreak : isLineBreak character = true) :
    character ∈ separators ∧ Mentions character document := by
  rcases control_or_wide_of_lineBreak lineBreak with control | separator
  · exact absurd member (control_not_mem_encode canonical control)
  · exact ⟨separator, (mem_encode_iff_mentions canonical
      (separator_wide separator)).mp member⟩

theorem encode_plain_iff {round : String → String}
    {fields : List (String × Json)}
    (canonical : Canonical round (.object fields)) :
    (∀ character ∈ encode (.object fields), isLineBreak character = false) ↔
      SeparatorFree fields := by
  constructor
  · intro plain character separator mentions
    have written := mem_encode_of_mentions (separator_wide separator) mentions
    have notBreak := plain character written
    rw [(List.all_iff_forall_prop.mp (by decide) :
      ∀ mark ∈ separators, isLineBreak mark = true)
      character separator] at notBreak
    cases notBreak
  · intro free character member
    by_contra lineBreak
    obtain ⟨separator, mentions⟩ := separator_of_lineBreak canonical member
      (by simpa using lineBreak)
    exact free character separator mentions

theorem encode_noReturn {round : String → String} {document : Json}
    (canonical : Canonical round document) : NoReturn (encode document) :=
  control_not_mem_encode canonical (by decide)

theorem record_noReturn {round : String → String} {fields : List (String × Json)}
    (canonical : Canonical round (.object fields)) :
    NoReturn (record fields) := by
  intro member
  rcases List.mem_append.mp member with encoded | newline
  · exact encode_noReturn canonical encoded
  · exact absurd newline (by decide)

/-- The rows before and after a boundary. -/
theorem readText_append (round : String → String) {front : List Char}
    (noReturn : NoReturn front) {mark : Char}
    (boundary : isLineBreak mark = true) (single : mark ≠ '\r')
    (rest : List Char) :
    readText round (front ++ mark :: rest) =
      readText round (front ++ [mark]) ++ readText round rest := by
  rw [readText, readText, readText, splitlines_append noReturn boundary single,
    List.filterMap_append]

theorem readText_record_append {round : String → String}
    {fields : List (String × Json)}
    (canonical : Canonical round (.object fields)) (rest : List Char) :
    readText round (record fields ++ rest) =
      readText round (record fields) ++ readText round rest := by
  have split : record fields ++ rest =
      encode (.object fields) ++ '\n' :: rest := by
    simp [record]
  rw [split, readText_append round (encode_noReturn canonical) (by decide)
    (by decide), record]

theorem readLine_eq_some {round : String → String} {line : List Char} {row : Json}
    (read : readLine round line = some row) :
    strip line ≠ [] ∧ decode round line = some row := by
  unfold readLine at read
  split_ifs at read with blank
  cases decoded : decode round line with
  | none =>
      rw [decoded] at read
      cases read
  | some document =>
      rw [decoded] at read
      cases document with
      | object fields => exact ⟨blank, read⟩
      | _ => cases read

/-- The row of a whole record, also behind blanks. -/
theorem readLine_encode {round : String → String} {fields : List (String × Json)}
    (canonical : Canonical round (.object fields)) {blanks : List Char}
    (allBlank : ∀ character ∈ blanks, isBlank character = true) :
    readLine round (blanks ++ encode (.object fields)) =
      some (.object fields) := by
  have visible : strip (blanks ++ encode (.object fields)) ≠ [] := by
    intro empty
    have brace : '{' ∈ encode (.object fields) := by
      cases fields with
      | nil => exact List.mem_cons_self ..
      | cons head tail => exact List.mem_cons_self ..
    have space := strip_eq_nil_iff.mp empty '{'
      (List.mem_append_right _ brace)
    exact absurd space (by decide)
  rw [readLine, if_neg visible, decode_blanks_encode canonical allBlank]

theorem readText_record {round : String → String} {fields : List (String × Json)}
    (canonical : Canonical round (.object fields))
    (free : SeparatorFree fields) :
    readText round (record fields) = [.object fields] := by
  have plain := (encode_plain_iff canonical).mpr free
  have row := readLine_encode canonical (List.forall_mem_nil _)
  rw [List.nil_append] at row
  rw [readText, record, splitlines_line plain (by decide) (by decide)]
  simp [splitlines, row]

/-! ## Rows of a broken record -/

/-- A proper part of an encoded event between line boundaries is no event. -/
theorem isEvent_piece {round : String → String} {fields : List (String × Json)}
    (canonical : Canonical round (.object fields))
    {before line after : List Char}
    (split : encode (.object fields) = before ++ (line ++ after))
    (opens : before = [] ∨ ∃ front mark, before = front ++ [mark] ∧
      isLineBreak mark = true)
    (closes : after = [] ∨ ∃ mark rest, after = mark :: rest ∧
      isLineBreak mark = true)
    (proper : before ≠ [] ∨ after ≠ []) {row : Json}
    (read : readLine round line = some row) : isEvent row = false := by
  have wide : ∀ mark ∈ encode (.object fields), isLineBreak mark = true →
      127 < mark.toNat :=
    fun mark member lineBreak =>
      separator_wide (separator_of_lineBreak canonical member lineBreak).1
  have decoded := (readLine_eq_some read).2
  have silent := not_mentions_of_piece canonical split
    (opens.imp id fun ⟨front, mark, shape, lineBreak⟩ =>
      ⟨front, mark, shape, wide mark (by simp [split, shape]) lineBreak⟩)
    (closes.imp id fun ⟨mark, rest, shape, lineBreak⟩ =>
      ⟨mark, rest, shape, wide mark (by simp [split, shape]) lineBreak⟩)
    proper decoded (by decide : isBareChar 'p' = false)
  by_contra typed
  exact silent (mentions_of_isEvent (by simpa using typed))

/-- The closed lines of an encoded event yield no event. -/
theorem readText_closed {round : String → String} {fields : List (String × Json)}
    (canonical : Canonical round (.object fields)) {closed rest : List Char}
    (split : encode (.object fields) = closed ++ rest)
    (ends : closed = [] ∨ ∃ front mark, closed = front ++ [mark] ∧
      isLineBreak mark = true) :
    ∀ row ∈ readText round closed, isEvent row = false := by
  intro row member
  obtain ⟨line, inLines, read⟩ := List.mem_filterMap.mp member
  have noReturn : NoReturn closed := by
    intro carriage
    exact encode_noReturn canonical (by rw [split]; simp [carriage])
  obtain ⟨plain, before, after, joined, opens, closes⟩ :=
    piece_of_mem_splitlines noReturn inLines
  have behind : ∃ mark rest, after = mark :: rest ∧ isLineBreak mark = true := by
    rcases closes with rfl | found
    · exfalso
      rw [List.append_nil] at joined
      rcases List.eq_nil_or_concat line with rfl | ⟨most, last, rfl⟩
      · exact (readLine_eq_some read).1 (by simp [strip])
      · rcases ends with empty | ⟨front, mark, shape, lineBreak⟩
        · rw [empty] at joined
          simp at joined
        · have lastEq := congrArg List.getLast? (joined.symm.trans shape)
          simp [List.getLast?_append] at lastEq
          have notBreak := plain last (by simp)
          rw [lastEq, lineBreak] at notBreak
          cases notBreak
    · exact found
  obtain ⟨mark, others, shape, lineBreak⟩ := behind
  apply isEvent_piece canonical _ opens
    (Or.inr ⟨mark, others ++ rest, rfl, lineBreak⟩) (Or.inr (by simp)) read
  rw [split, joined, shape]
  simp

/-- A record with a separator yields no event. -/
theorem readText_broken {round : String → String} {fields : List (String × Json)}
    (canonical : Canonical round (.object fields))
    (broken : ¬ SeparatorFree fields) :
    ∀ row ∈ readText round (record fields), isEvent row = false := by
  intro row member
  have whole := closedLines_append_openLine (encode (.object fields))
  have nonempty : closedLines (encode (.object fields)) ≠ [] := by
    intro empty
    rw [empty, List.nil_append] at whole
    apply broken
    rw [← encode_plain_iff canonical, ← whole]
    exact openLine_plain _
  rcases closedLines_ends (encode (.object fields)) with empty |
      ⟨front, mark, shape, lineBreak⟩
  · exact absurd empty nonempty
  · have noReturn : NoReturn (front ++ [mark]) := by
      intro carriage
      apply encode_noReturn canonical
      rw [← whole, shape]
      exact List.mem_append_left _ carriage
    have single : mark ≠ '\r' := by
      intro carriage
      exact noReturn (by simp [carriage])
    have split : record fields = front ++ mark ::
        (openLine (encode (.object fields)) ++ ['\n']) := by
      rw [record]
      nth_rewrite 1 [← whole]
      rw [shape]
      simp
    rw [split, readText_append round (fun carriage => noReturn (by simp [carriage]))
      lineBreak single, List.mem_append] at member
    rcases member with inClosed | inOpen
    · exact readText_closed canonical whole.symm
        (Or.inr ⟨front, mark, shape, lineBreak⟩) row (by rwa [shape])
    · obtain ⟨line, inLines, read⟩ := List.mem_filterMap.mp inOpen
      rw [splitlines_line (openLine_plain _) (by decide) (by decide)] at inLines
      have isOpen : line = openLine (encode (.object fields)) := by
        simpa [splitlines] using inLines
      subst isOpen
      exact isEvent_piece canonical (by rw [List.append_nil, whole])
        (Or.inr ⟨front, mark, shape, lineBreak⟩) (Or.inl rfl)
        (Or.inl nonempty) read

/-! ## Rows of a journal -/

/-- The text of consecutive records. -/
def records (events : List (List (String × Json))) : List Char :=
  events.flatMap record

theorem records_noReturn {round : String → String}
    {events : List (List (String × Json))}
    (canonical : ∀ fields ∈ events, Canonical round (.object fields)) :
    NoReturn (records events) := by
  intro carriage
  obtain ⟨fields, member, inRecord⟩ := List.mem_flatMap.mp carriage
  exact record_noReturn (canonical fields member) inRecord

theorem readText_records_append {round : String → String}
    {events : List (List (String × Json))}
    (canonical : ∀ fields ∈ events, Canonical round (.object fields))
    (rest : List Char) :
    readText round (records events ++ rest) =
      readText round (records events) ++ readText round rest := by
  induction events with
  | nil => rfl
  | cons head tail inductionHypothesis =>
      have headCanonical := canonical head (List.mem_cons_self ..)
      have inner := inductionHypothesis
        fun fields member => canonical fields (List.mem_cons_of_mem _ member)
      have split : records (head :: tail) = record head ++ records tail := by
        rw [records, List.flatMap_cons]
        rfl
      rw [split, List.append_assoc, readText_record_append headCanonical,
        readText_record_append headCanonical, inner, List.append_assoc]

theorem records_cons (head : List (String × Json))
    (tail : List (List (String × Json))) :
    records (head :: tail) = record head ++ records tail :=
  List.flatMap_cons

theorem readText_records {round : String → String}
    {events : List (List (String × Json))}
    (canonical : ∀ fields ∈ events, Canonical round (.object fields))
    (free : ∀ fields ∈ events, SeparatorFree fields) :
    readText round (records events) = events.map Json.object := by
  induction events with
  | nil => rfl
  | cons head tail inductionHypothesis =>
      rw [records_cons,
        readText_record_append (canonical head (List.mem_cons_self ..)),
        readText_record (canonical head (List.mem_cons_self ..))
          (free head (List.mem_cons_self ..)),
        inductionHypothesis
          (fun fields member => canonical fields (List.mem_cons_of_mem _ member))
          (fun fields member => free fields (List.mem_cons_of_mem _ member))]
      rfl

theorem countP_eq_zero_of_false {rows : List Json}
    (untyped : ∀ row ∈ rows, isEvent row = false) :
    rows.countP isEvent = 0 := by
  rw [List.countP_eq_zero]
  intro row member
  simp [untyped row member]

/-- A record yields at most one event, and a broken record none. -/
theorem countP_readText_records {round : String → String}
    {events : List (List (String × Json))}
    (canonical : ∀ fields ∈ events, Canonical round (.object fields)) :
    (readText round (records events)).countP isEvent ≤ events.length ∧
      ((∃ fields ∈ events, ¬ SeparatorFree fields) →
        (readText round (records events)).countP isEvent < events.length) := by
  induction events with
  | nil => simp [records, readText, splitlines]
  | cons head tail inductionHypothesis =>
      have headCanonical := canonical head (List.mem_cons_self ..)
      obtain ⟨atMost, fewer⟩ := inductionHypothesis
        fun fields member => canonical fields (List.mem_cons_of_mem _ member)
      rw [records_cons, readText_record_append headCanonical, List.countP_append,
        List.length_cons]
      by_cases free : SeparatorFree head
      · have one : (readText round (record head)).countP isEvent ≤ 1 := by
          rw [readText_record headCanonical free]
          exact List.countP_le_length
        constructor
        · omega
        · rintro ⟨fields, member, broken⟩
          rcases List.mem_cons.mp member with rfl | inTail
          · exact absurd free broken
          · have less := fewer ⟨fields, inTail, broken⟩
            omega
      · have zero := countP_eq_zero_of_false (readText_broken headCanonical free)
        constructor
        · omega
        · intro _
          omega

/-! ## Completed appends -/

/-- What a completed append leaves in the file and returns. -/
theorem append_ok {path : String} {file final : JournalFile} {eventType : String}
    {data : List (String × Json)} {now : Instant} {returned : Json}
    (completed : append path file eventType data now = .ok (final, returned)) :
    file ≠ .irregular ∧ eventType ∈ projectEventTypes ∧
      returned = .object (event eventType (utcNow now) data) ∧
      final = .regular (file.content ++
        encodeUtf8 (record (event eventType (utcNow now) data))) := by
  unfold append at completed
  split_ifs at completed with unsupported
  obtain ⟨_, checked, written⟩ := bind_eq_ok.mp completed
  have safe : file ≠ .irregular := by
    rintro rfl
    cases checked
  cases written
  exact ⟨safe, by simpa using unsupported, rfl, rfl⟩

/-- What a sequence of completed appends leaves in the file and returns. -/
theorem appendAll_ok {path : String} {file final : JournalFile}
    {calls : List AppendCall} {returned : List Json}
    (completed : appendAll path file calls = .ok (final, returned))
    (safe : file ≠ .irregular) :
    final ≠ .irregular ∧
      (∀ call ∈ calls, call.eventType ∈ projectEventTypes) ∧
      returned = calls.map (fun call => .object call.event) ∧
      final.content =
        file.content ++ encodeUtf8 (records (calls.map AppendCall.event)) := by
  induction calls generalizing file returned with
  | nil =>
      cases completed
      refine ⟨safe, by simp, rfl, ?_⟩
      simp [records]
  | cons call calls inductionHypothesis =>
      obtain ⟨⟨middle, first⟩, appended, later⟩ := bind_eq_ok.mp completed
      obtain ⟨⟨reached, others⟩, rest, finished⟩ := bind_eq_ok.mp later
      cases finished
      obtain ⟨_, supported, rfl, rfl⟩ := append_ok appended
      obtain ⟨finalSafe, allSupported, rfl, content⟩ :=
        inductionHypothesis rest (by simp)
      refine ⟨finalSafe, List.forall_mem_cons.mpr ⟨supported, allSupported⟩,
        rfl, ?_⟩
      rw [content, List.map_cons, records_cons, encodeUtf8_append,
        ← ByteArray.append_assoc]
      rfl

theorem regular_safe (content : ByteArray) :
    JournalFile.regular content ≠ .irregular := by
  simp

theorem read_of_safe {round : String → String} {path : String}
    {file : JournalFile} (safe : file ≠ .irregular) :
    read round path file =
      match decodeUtf8 file.content with
      | none => .error .unicodeDecode
      | some text => .ok (readText round (universalNewlines text)) := by
  cases file with
  | absent =>
      have empty := decodeUtf8_encodeUtf8 []
      rw [encodeUtf8_nil] at empty
      simp [read, JournalFile.content, empty, universalNewlines, readText,
        splitlines]
  | regular content => rfl
  | irregular => exact absurd rfl safe

theorem read_encoded {round : String → String} {path : String}
    {file : JournalFile} (safe : file ≠ .irregular) {text : List Char}
    (content : file.content = encodeUtf8 text) (noReturn : NoReturn text) :
    read round path file = .ok (readText round text) := by
  rw [read_of_safe safe, content, decodeUtf8_encodeUtf8]
  simp only [universalNewlines_of_noReturn noReturn]

/-- Completed appends to a new journal are read back exactly when no string of
their data has a separator. -/
theorem read_appendAll_iff {round : String → String} {path : String}
    {calls : List AppendCall} {file : JournalFile} {returned : List Json}
    (json : ∀ call ∈ calls, Canonical round (.object call.data))
    (completed : appendAll path .absent calls = .ok (file, returned)) :
    read round path file = .ok returned ↔
      ∀ call ∈ calls, SeparatorFree call.data := by
  obtain ⟨safe, supported, rfl, content⟩ := appendAll_ok completed (by simp)
  have canonical : ∀ fields ∈ calls.map AppendCall.event,
      Canonical round (.object fields) := by
    intro fields member
    obtain ⟨call, inCalls, rfl⟩ := List.mem_map.mp member
    exact event_canonical (json call inCalls) _ _
  have freeIff : (∀ fields ∈ calls.map AppendCall.event, SeparatorFree fields) ↔
      ∀ call ∈ calls, SeparatorFree call.data := by
    rw [List.forall_mem_map]
    refine forall₂_congr fun call member => ?_
    cases json call member with
    | object sorted _ =>
        exact separatorFree_event (supported call member) call.now sorted
  have bytes : file.content = encodeUtf8 (records (calls.map AppendCall.event)) := by
    rw [content, JournalFile.content, ByteArray.empty_append]
    simp
  rw [read_encoded safe bytes (records_noReturn canonical), ← freeIff]
  constructor
  · intro same
    by_contra notFree
    have rows := Except.ok.inj same
    have fewer := (countP_readText_records canonical).2 (by simpa using notFree)
    have all : (calls.map fun call => Json.object call.event).countP isEvent =
        calls.length := by
      rw [List.countP_eq_length.mpr]
      · simp
      · intro row member
        obtain ⟨call, _, rfl⟩ := List.mem_map.mp member
        exact isEvent_event _ _ _
    rw [rows, all, List.length_map] at fewer
    omega
  · intro free
    rw [readText_records canonical free, List.map_map]
    rfl

/-- A Task failure whose message is `message`. -/
def failureCall (message : String) : AppendCall :=
  ⟨"project_task_failed", [("message", .string message)], 
    ⟨⟨2026, 1, 2, by decide⟩, 3, 4, 5⟩⟩

theorem failureCall_canonical (message : String) :
    ∀ call ∈ [failureCall message], Canonical id (.object call.data) := by
  intro call member
  rw [List.mem_singleton.mp member]
  apply Canonical.object
  · simp [KeysSorted, failureCall]
  · intro field inData
    rw [List.mem_singleton.mp inData]
    exact .string message

theorem appendAll_failureCall (message : String) :
    appendAll "journal.jsonl" .absent [failureCall message] =
      .ok (.regular (ByteArray.empty ++
          encodeUtf8 (record (failureCall message).event)),
        [.object (failureCall message).event]) :=
  rfl

theorem read_appendAll_failureCall :
    read id "journal.jsonl"
        (.regular (ByteArray.empty ++
          encodeUtf8 (record (failureCall "exit 1").event))) =
        .ok [.object (failureCall "exit 1").event] ↔
      ∀ call ∈ [failureCall "exit 1"], SeparatorFree call.data :=
  read_appendAll_iff (failureCall_canonical _) (appendAll_failureCall _)

theorem not_read_appendAll :
    ¬ ∀ (round : String → String) (path : String) (calls : List AppendCall)
        (file : JournalFile) (returned : List Json),
        (∀ call ∈ calls, Canonical round (.object call.data)) →
        appendAll path .absent calls = .ok (file, returned) →
        read round path file = .ok returned := by
  intro claimed
  have reads := claimed id _ _ _ _ (failureCall_canonical "line 1\u2028line 2")
    (appendAll_failureCall _)
  have noReturn : NoReturn (record (failureCall "line 1\u2028line 2").event) := by
    unfold NoReturn
    decide +kernel
  have content : ByteArray.empty ++
      encodeUtf8 (record (failureCall "line 1\u2028line 2").event) =
      encodeUtf8 (record (failureCall "line 1\u2028line 2").event) :=
    ByteArray.empty_append
  rw [read_encoded (regular_safe _) content noReturn] at reads
  have rows : readText id (record (failureCall "line 1\u2028line 2").event) = [] := by
    decide +kernel
  rw [rows] at reads
  cases Except.ok.inj reads

end Execraft.ProjectExecution
