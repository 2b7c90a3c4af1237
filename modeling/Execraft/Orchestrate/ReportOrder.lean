import Execraft.Orchestrate.BaselineMasking

/-!
# Failure reports in another order

The reports of an output change places and everything else stays where it is.  The same
failures are extracted as long as no test has two richest reports that differ.
-/

namespace Execraft.Orchestrate.Baseline

open Foundation Foundation.Text Foundation.Text.Pattern

/-- The last line of a failure message. -/
def closesMessage (line : List Char) : Bool :=
  ">>>".toList.isPrefixOf (strip line)

section Pieces

variable (py : BaselineInterpreter)

/-- The lines of one report: a GoogleTest or pytest line, or a CTest block with its end. -/
inductive Complete : List (List Char) → FailureReport → Prop where
  | line {line : List Char} {report : FailureReport}
      (reported : lineReport (strip line) = some report) : Complete [line] report
  | block {summary opening closing : List Char} {body : List (List Char)} {identity : String}
      (named : summaryIdentity (strip summary) = some identity)
      (opens : opensMessage py opening = true)
      (quiet : ∀ line ∈ body, closesMessage line = false ∧ summaryIdentity (strip line) = none)
      (closes : closesMessage closing = true) :
      Complete (summary :: opening :: (body ++ [closing]))
        ⟨.ctest, identity, strip summary :: opening :: (body ++ [closing])⟩

/-- A report as it stands in an output. -/
structure PlacedReport where
  lines : List (List Char)
  report : FailureReport
  complete : Complete py lines report

inductive Piece where
  | idle (line : List Char)
  | report (placed : PlacedReport py)

variable {py}

def Piece.lines : Piece py → List (List Char)
  | .idle line => [line]
  | .report placed => placed.lines

def Piece.report? : Piece py → Option (PlacedReport py)
  | .idle _ => none
  | .report placed => some placed

def linesOf (pieces : List (Piece py)) : List (List Char) :=
  pieces.flatMap Piece.lines

def placedReports (pieces : List (Piece py)) : List (PlacedReport py) :=
  pieces.filterMap Piece.report?

/-- The idle lines report nothing where they stand. -/
def Laid : List (Piece py) → Prop
  | [] => True
  | .idle line :: rest =>
      blockIdentity py line (linesOf rest) = none ∧ lineReport (strip line) = none ∧ Laid rest
  | .report _ :: rest => Laid rest

/-- Other reports in the places of the old ones. -/
def rearrange : List (Piece py) → List (PlacedReport py) → List (Piece py)
  | [], _ => []
  | .idle line :: rest, reports => .idle line :: rearrange rest reports
  | .report _ :: rest, placed :: reports => .report placed :: rearrange rest reports
  | .report _ :: rest, [] => rearrange rest []

variable (py) in
/-- Every order of the reports of an output leads to the same failures. -/
def OrderFree (output : String) : Prop :=
  ∀ pieces : List (Piece py), Laid pieces → linesOf pieces = splitlines output.toList →
    ∀ reports, (placedReports pieces).Perm reports →
      ∀ other : String, splitlines other.toList = linesOf (rearrange pieces reports) →
        extractFailureFingerprints py other = extractFailureFingerprints py output

/-! ## Lines of reports -/

theorem head_of_summaryIdentity {text : List Char} {identity : String}
    (named : summaryIdentity text = some identity) : text.head? = some '-' := by
  obtain ⟨found, matched, -⟩ := Option.map_eq_some_iff.mp named
  rw [matchStart, gtestSummaryFailure, Pattern.sequence, List.foldr_cons, run] at matched
  obtain ⟨tail, shape, -⟩ := run_char matched
  exact congrArg List.head? shape

theorem head_of_lineReport {text : List Char} {report : FailureReport}
    (reported : lineReport text = some report) :
    text.head? = some '[' ∨ text.head? = some 'F' := by
  unfold lineReport at reported
  cases matched : gtestFailedLine.matchStart text with
  | some found =>
      rw [matchStart, gtestFailedLine, Pattern.sequence, List.foldr_cons, run] at matched
      obtain ⟨tail, shape, -⟩ := run_char matched
      exact Or.inl (congrArg List.head? shape)
  | none =>
      rw [matched] at reported
      obtain ⟨found, pytest, -⟩ := Option.map_eq_some_iff.mp reported
      rw [matchStart, pytestFailedLine, Pattern.sequence, List.foldr_cons, run] at pytest
      obtain ⟨tail, shape⟩ := prefix_of_run_literal "FAILED" pytest
      exact Or.inr (congrArg List.head? shape.symm)

/-- What starts with another ASCII character opens no failure message. -/
theorem opensMessage_of_head {line : List Char} {head : Char}
    (starts : (strip line).head? = some head) (narrow : head.toNat < 128)
    (other : head.toLower ≠ '<') : opensMessage py line = false := by
  obtain ⟨tail, shape⟩ := List.head?_eq_some_iff.mp starts
  rw [opensMessage, shape]
  have lowered := head?_lower py.casing py.finalSigma narrow tail
  obtain ⟨rest, shape⟩ := List.head?_eq_some_iff.mp lowered
  rw [shape]
  exact Bool.and_eq_false_iff.mpr (Or.inl (beq_false_of_ne (Ne.symm other)))

theorem summaryIdentity_of_lineReport {text : List Char} {report : FailureReport}
    (reported : lineReport text = some report) : summaryIdentity text = none := by
  cases named : summaryIdentity text with
  | none => rfl
  | some identity =>
      have dash := head_of_summaryIdentity named
      rcases head_of_lineReport reported with bracket | letter
      · rw [dash] at bracket
        cases bracket
      · rw [dash] at letter
        cases letter

/-- No report starts with the opening line of a message. -/
theorem head_of_complete {lines : List (List Char)} {report : FailureReport}
    (complete : Complete py lines report) :
    ∃ line, lines.head? = some line ∧ opensMessage py line = false := by
  cases complete with
  | @line line _ reported =>
      refine ⟨line, rfl, ?_⟩
      rcases head_of_lineReport reported with bracket | letter
      · exact opensMessage_of_head bracket (by decide) (by decide)
      · exact opensMessage_of_head letter (by decide) (by decide)
  | @block summary _ _ _ _ named =>
      exact ⟨summary, rfl,
        opensMessage_of_head (head_of_summaryIdentity named) (by decide) (by decide)⟩

/-! ## Rearranging -/

section Rearranging

variable {pieces : List (Piece py)} {reports : List (PlacedReport py)}

theorem head_linesOf_report (placed : PlacedReport py) (rest : List (Piece py)) :
    (linesOf (.report placed :: rest)).head?.any (opensMessage py) = false := by
  obtain ⟨line, first, quiet⟩ := head_of_complete placed.complete
  have starts : (linesOf (.report placed :: rest)).head? = some line := by
    rw [linesOf, List.flatMap_cons, List.head?_append]
    show placed.lines.head?.or _ = _
    rw [first]
    rfl
  rw [starts]
  exact quiet

/-- The line behind an idle one opens a message in both orders or in none. -/
theorem opens_rearrange (same : reports.length = (placedReports pieces).length) :
    (linesOf (rearrange pieces reports)).head?.any (opensMessage py) =
      (linesOf pieces).head?.any (opensMessage py) := by
  cases pieces with
  | nil => rfl
  | cons piece rest =>
      cases piece with
      | idle line => rfl
      | report placed =>
          cases reports with
          | nil => cases same
          | cons first others =>
              rw [rearrange, head_linesOf_report, head_linesOf_report]

theorem laid_rearrange (laid : Laid pieces)
    (same : reports.length = (placedReports pieces).length) :
    Laid (rearrange pieces reports) := by
  induction pieces generalizing reports with
  | nil => trivial
  | cons piece rest inductionHypothesis =>
      cases piece with
      | idle line =>
          obtain ⟨alone, plain, later⟩ := laid
          refine ⟨?_, plain, inductionHypothesis later same⟩
          unfold blockIdentity at alone ⊢
          rw [@opens_rearrange _ rest _ same]
          exact alone
      | report placed =>
          cases reports with
          | nil => cases same
          | cons first others => exact inductionHypothesis laid (Nat.succ.inj same)

theorem placedReports_rearrange (same : reports.length = (placedReports pieces).length) :
    placedReports (rearrange pieces reports) = reports := by
  induction pieces generalizing reports with
  | nil => exact (List.length_eq_zero_iff.mp same).symm
  | cons piece rest inductionHypothesis =>
      cases piece with
      | idle line => exact inductionHypothesis same
      | report placed =>
          cases reports with
          | nil => cases same
          | cons first others =>
              exact congrArg (first :: ·) (inductionHypothesis (Nat.succ.inj same))

end Rearranging

/-! ## Reading pieces -/

/-- A message is taken up to its last line. -/
theorem takeMessage_body {body rest : List (List Char)} {closing : List Char}
    (quiet : ∀ line ∈ body, closesMessage line = false ∧ summaryIdentity (strip line) = none)
    (closes : closesMessage closing = true) :
    takeMessage false (body ++ closing :: rest) = (body ++ [closing], rest) := by
  induction body with
  | nil =>
      rw [List.nil_append, takeMessage]
      exact if_pos closes
  | cons line others inductionHypothesis =>
      obtain ⟨⟨goesOn, plain⟩, later⟩ := List.forall_mem_cons.mp quiet
      have goesOn : ¬">>>".toList.isPrefixOf (strip line) = true :=
        Bool.eq_false_iff.mp goesOn
      rw [List.cons_append, takeMessage, if_neg goesOn, plain, if_neg (by simp),
        inductionHypothesis later]
      rfl

theorem closesMessage_of_opens {opening : List Char}
    (opens : opensMessage py opening = true) : closesMessage opening = false := by
  rw [Bool.eq_false_iff]
  intro closes
  obtain ⟨tail, shape⟩ := List.isPrefixOf_iff_prefix.mp closes
  have starts : (strip opening).head? = some '>' := congrArg List.head? shape.symm
  rw [opensMessage_of_head starts (by decide) (by decide)] at opens
  cases opens

theorem takeMessage_opening {opening : List Char} {rest : List (List Char)}
    (opens : opensMessage py opening = true) :
    takeMessage true (opening :: rest) =
      (opening :: (takeMessage false rest).1, (takeMessage false rest).2) := by
  have goesOn : ¬">>>".toList.isPrefixOf (strip opening) = true :=
    Bool.eq_false_iff.mp (closesMessage_of_opens opens)
  rw [takeMessage, if_neg goesOn, if_neg (by simp)]

/-- One step of the scan for each placed report. -/
theorem failureReports_complete {lines rest : List (List Char)} {report : FailureReport}
    (complete : Complete py lines report) (fuel : Nat) :
    failureReports py (fuel + 1) (lines ++ rest) = report :: failureReports py fuel rest := by
  cases complete with
  | @line line _ reported =>
      have alone : blockIdentity py line rest = none := by
        rw [blockIdentity, summaryIdentity_of_lineReport reported, ite_self]
      rw [List.singleton_append, failureReports, alone, reported]
      rfl
  | @block summary opening closing body identity named opens quiet closes =>
      have message : body ++ [closing] ++ rest = body ++ closing :: rest := by
        rw [List.append_assoc, List.singleton_append]
      have block : blockIdentity py summary (opening :: (body ++ closing :: rest)) =
          some identity := by
        rw [blockIdentity, List.head?_cons, Option.any_some, opens, if_pos rfl, named]
      rw [List.cons_append, List.cons_append, message, failureReports, block]
      simp only [takeMessage_opening opens, takeMessage_body quiet closes]

/-- The scan finds the placed reports one after the other. -/
theorem failureReports_laid {pieces : List (Piece py)} (laid : Laid pieces) {fuel : Nat}
    (enough : (linesOf pieces).length ≤ fuel) :
    failureReports py fuel (linesOf pieces) =
      (placedReports pieces).map PlacedReport.report := by
  induction pieces generalizing fuel with
  | nil => cases fuel <;> rfl
  | cons piece rest inductionHypothesis =>
      rw [linesOf, List.flatMap_cons, List.length_append] at enough
      have positive : 0 < piece.lines.length := by
        cases piece with
        | idle line => exact Nat.one_pos
        | report placed =>
            obtain ⟨line, first, -⟩ := head_of_complete placed.complete
            exact List.length_pos_of_mem (List.mem_of_mem_head? first)
      obtain ⟨remaining, rfl⟩ : ∃ remaining, fuel = remaining + 1 :=
        Nat.exists_eq_succ_of_ne_zero (by omega)
      have fewer : (linesOf rest).length ≤ remaining := by
        rw [linesOf]
        omega
      cases piece with
      | idle line =>
          obtain ⟨alone, plain, later⟩ := laid
          show failureReports py (remaining + 1) (line :: linesOf rest) = _
          rw [failureReports, alone, plain]
          exact inductionHypothesis later fewer
      | report placed =>
          show failureReports py (remaining + 1) (placed.lines ++ linesOf rest) = _
          rw [failureReports_complete placed.complete]
          exact congrArg (placed.report :: ·) (inductionHypothesis laid fewer)

theorem reportsOf_laid {pieces : List (Piece py)} (laid : Laid pieces) {output : String}
    (lines : splitlines output.toList = linesOf pieces) :
    reportsOf py output = (placedReports pieces).map PlacedReport.report := by
  rw [reportsOf, lines]
  exact failureReports_laid laid le_rfl

/-! ## Outputs with closed blocks -/

variable (py) in
/-- Every CTest block of an output has its end. -/
def ClosedBlocks (output : String) : Prop :=
  ∀ report ∈ reportsOf py output, report.kind = .ctest →
    ∃ last ∈ report.block.getLast?, closesMessage last = true

theorem kind_of_lineReport {text : List Char} {report : FailureReport}
    (reported : lineReport text = some report) : report.kind ≠ .ctest := by
  unfold lineReport at reported
  cases matched : gtestFailedLine.matchStart text with
  | some found =>
      rw [matched] at reported
      rw [← Option.some.inj reported]
      exact nofun
  | none =>
      rw [matched] at reported
      obtain ⟨found, -, same⟩ := Option.map_eq_some_iff.mp reported
      rw [← same]
      exact nofun

theorem closed_of_complete {lines : List (List Char)} {report : FailureReport}
    (complete : Complete py lines report) (block : report.kind = .ctest) :
    ∃ last ∈ report.block.getLast?, closesMessage last = true := by
  cases complete with
  | line reported => exact absurd block (kind_of_lineReport reported)
  | @block summary opening closing body _ _ _ _ closes =>
      refine ⟨closing, ?_, closes⟩
      rw [← List.cons_append, ← List.cons_append, List.getLast?_concat]
      rfl

theorem getLast?_of_cons {first last : List Char} {message : List (List Char)}
    (goesOn : closesMessage first = false) (ends : closesMessage last = true)
    (member : last ∈ (first :: message).getLast?) : message.getLast? = some last := by
  rw [List.getLast?_cons] at member
  cases shape : message.getLast? with
  | none =>
      have same : first = last := by
        simpa [shape] using member
      rw [← same, goesOn] at ends
      cases ends
  | some other =>
      rw [shape] at member
      exact member

/-- A message is the front of the lines; it is quiet up to its last line. -/
theorem takeMessage_spec (lines : List (List Char)) :
    (takeMessage false lines).1 ++ (takeMessage false lines).2 = lines ∧
      ∀ last ∈ (takeMessage false lines).1.getLast?, closesMessage last = true →
        ∃ body, (takeMessage false lines).1 = body ++ [last] ∧
          ∀ line ∈ body, closesMessage line = false ∧ summaryIdentity (strip line) = none := by
  induction lines with
  | nil => exact ⟨rfl, fun _ member => absurd member (Option.not_mem_none _)⟩
  | cons line rest inductionHypothesis =>
      rw [takeMessage]
      by_cases closes : ">>>".toList.isPrefixOf (strip line) = true
      · rw [if_pos closes]
        refine ⟨rfl, fun last member _ => ⟨[], ?_, fun _ member => absurd member List.not_mem_nil⟩⟩
        exact congrArg (fun only => [only]) (Option.some.inj member)
      by_cases next : false = false ∧ (summaryIdentity (strip line)).isSome = true
      · rw [if_neg closes, if_pos next]
        exact ⟨rfl, fun _ member => absurd member (Option.not_mem_none _)⟩
      · rw [if_neg closes, if_neg next]
        obtain ⟨joined, quiet⟩ := inductionHypothesis
        refine ⟨congrArg (line :: ·) joined, fun last member ends => ?_⟩
        have goesOn : closesMessage line = false := Bool.eq_false_iff.mpr closes
        have plain : summaryIdentity (strip line) = none := by
          simpa using next
        have ended := getLast?_of_cons goesOn ends member
        obtain ⟨body, shape, each⟩ := quiet last ended ends
        refine ⟨line :: body, ?_, List.forall_mem_cons.mpr ⟨⟨goesOn, plain⟩, each⟩⟩
        exact congrArg (line :: ·) shape

/-- Lines whose blocks all end are laid out as pieces. -/
theorem exists_laid {fuel : Nat} {lines : List (List Char)} (enough : lines.length ≤ fuel)
    (closed : ∀ report ∈ failureReports py fuel lines, report.kind = .ctest →
      ∃ last ∈ report.block.getLast?, closesMessage last = true) :
    ∃ pieces : List (Piece py), Laid pieces ∧ linesOf pieces = lines := by
  induction fuel generalizing lines with
  | zero => exact ⟨[], trivial, (List.length_eq_zero_iff.mp (Nat.le_zero.mp enough)).symm⟩
  | succ fuel inductionHypothesis =>
      cases lines with
      | nil => exact ⟨[], trivial, rfl⟩
      | cons line rest =>
          have fewer : rest.length ≤ fuel := Nat.le_of_succ_le_succ enough
          rw [failureReports] at closed
          cases block : blockIdentity py line rest with
          | some identity =>
              rw [block] at closed
              obtain ⟨opens, named⟩ := Option.ite_none_right_eq_some.mp block
              cases rest with
              | nil => cases opens
              | cons opening more =>
                  have opens : opensMessage py opening = true := opens
                  simp only [takeMessage_opening opens] at closed
                  obtain ⟨here, later⟩ := List.forall_mem_cons.mp closed
                  obtain ⟨joined, quiet⟩ := takeMessage_spec more
                  obtain ⟨last, isLast, ends⟩ := here rfl
                  rw [List.getLast?_cons_cons] at isLast
                  have ended := getLast?_of_cons (closesMessage_of_opens opens) ends isLast
                  obtain ⟨body, shape, each⟩ := quiet last ended ends
                  have shorter : (takeMessage false more).2.length ≤ fuel := by
                    have size := congrArg List.length joined
                    rw [List.length_append] at size
                    rw [List.length_cons] at fewer
                    omega
                  obtain ⟨pieces, laid, same⟩ := inductionHypothesis shorter later
                  refine ⟨.report ⟨_, _, .block named opens each ends⟩ :: pieces, laid, ?_⟩
                  show line :: opening :: (body ++ [last]) ++ linesOf pieces = _
                  rw [same, ← shape, List.cons_append, List.cons_append, joined]
          | none =>
              rw [block] at closed
              obtain ⟨pieces, laid, same⟩ := inductionHypothesis fewer fun report member =>
                closed report (List.mem_append_right _ member)
              cases reported : lineReport (strip line) with
              | some report =>
                  exact ⟨.report ⟨[line], report, .line reported⟩ :: pieces, laid,
                    congrArg (line :: ·) same⟩
              | none =>
                  refine ⟨.idle line :: pieces, ⟨?_, reported, laid⟩,
                    congrArg (line :: ·) same⟩
                  rw [same]
                  exact block

theorem closedBlocks_of_laid {pieces : List (Piece py)} (laid : Laid pieces) {output : String}
    (lines : splitlines output.toList = linesOf pieces) : ClosedBlocks py output := by
  intro report member block
  rw [reportsOf_laid laid lines] at member
  obtain ⟨placed, -, same⟩ := List.mem_map.mp member
  rw [← same] at block ⊢
  exact closed_of_complete placed.complete block

/-- An output can be laid out exactly when its blocks are closed. -/
theorem closedBlocks_iff_laid {output : String} :
    ClosedBlocks py output ↔
      ∃ pieces : List (Piece py), Laid pieces ∧ linesOf pieces = splitlines output.toList :=
  ⟨exists_laid le_rfl, fun ⟨_, laid, lines⟩ => closedBlocks_of_laid laid lines.symm⟩

/-! ## Orders -/

variable (py) in
/-- No test has two richest reports that differ. -/
def Untied (output : String) : Prop :=
  Foundation.Settled FailureFingerprint.identifier FailureFingerprint.rank
    ((reportsOf py output).filterMap (reportFingerprint py))

/-- What is extracted from a rearranged output. -/
theorem extracted_rearrange {pieces : List (Piece py)} (laid : Laid pieces)
    {reports : List (PlacedReport py)} (same : (placedReports pieces).Perm reports)
    {other : String} (lines : splitlines other.toList = linesOf (rearrange pieces reports)) :
    extractFailureFingerprints py other =
      richest (reports.filterMap fun placed => reportFingerprint py placed.report) := by
  have size := same.length_eq.symm
  rw [extractFailureFingerprints, reportsOf_laid (laid_rearrange laid size) lines,
    placedReports_rearrange size, List.filterMap_map, Function.comp_def]

theorem extracted_laid {pieces : List (Piece py)} (laid : Laid pieces) {output : String}
    (lines : splitlines output.toList = linesOf pieces) :
    (reportsOf py output).filterMap (reportFingerprint py) =
      (placedReports pieces).filterMap fun placed => reportFingerprint py placed.report := by
  rw [reportsOf_laid laid lines, List.filterMap_map, Function.comp_def]

/-- A line of the new order stands in an idle piece or in one of the reports. -/
theorem mem_linesOf_rearrange {pieces : List (Piece py)} {reports : List (PlacedReport py)}
    {line : List Char} (member : line ∈ linesOf (rearrange pieces reports)) :
    line ∈ linesOf pieces ∨ ∃ placed ∈ reports, line ∈ placed.lines := by
  induction pieces generalizing reports with
  | nil => cases member
  | cons piece rest inductionHypothesis =>
      rw [linesOf, List.flatMap_cons, List.mem_append]
      cases piece with
      | idle first =>
          rcases List.mem_append.mp member with here | later
          · exact Or.inl (Or.inl here)
          · exact (inductionHypothesis later).imp_left Or.inr
      | report old =>
          cases reports with
          | nil => exact (inductionHypothesis member).imp_left Or.inr
          | cons placed others =>
              rcases List.mem_append.mp member with here | later
              · exact Or.inr ⟨placed, List.mem_cons_self .., here⟩
              · rcases inductionHypothesis later with old | ⟨other, isOther, inOther⟩
                · exact Or.inl (Or.inr old)
                · exact Or.inr ⟨other, List.mem_cons_of_mem _ isOther, inOther⟩

theorem mem_linesOf_of_placed {pieces : List (Piece py)} {placed : PlacedReport py}
    {line : List Char} (isPlaced : placed ∈ placedReports pieces)
    (member : line ∈ placed.lines) : line ∈ linesOf pieces := by
  obtain ⟨piece, listed, same⟩ := List.mem_filterMap.mp isPlaced
  cases piece with
  | idle other => cases same
  | report other =>
      cases same
      exact List.mem_flatMap.mpr ⟨_, listed, member⟩

theorem orderFree_of_untied {output : String} (untied : Untied py output) :
    OrderFree py output := by
  intro pieces laid lines reports same other rearranged
  rw [Untied, extracted_laid laid lines.symm] at untied
  rw [extracted_rearrange laid same rearranged, extractFailureFingerprints,
    extracted_laid laid lines.symm]
  exact champions_perm untied (same.filterMap _)

theorem untied_of_orderFree {output : String} (closed : ClosedBlocks py output)
    (free : OrderFree py output) : Untied py output := by
  obtain ⟨pieces, laid, lines⟩ := closedBlocks_iff_laid.mp closed
  rw [Untied, extracted_laid laid lines.symm]
  refine settled_of_orders fun reports same => ?_
  -- The text of the other order: every line closed by a newline.
  let other := String.ofList (unlines (linesOf (rearrange pieces reports)))
  have rearranged : splitlines other.toList = linesOf (rearrange pieces reports) := by
    rw [String.toList_ofList]
    refine splitlines_unlines fun line member => ?_
    have kept : line ∈ linesOf pieces := by
      rcases mem_linesOf_rearrange member with old | ⟨placed, isPlaced, inPlaced⟩
      · exact old
      · exact mem_linesOf_of_placed (same.mem_iff.mpr isPlaced) inPlaced
    rw [lines] at kept
    exact plain_of_mem_splitlines kept
  have agrees := free pieces laid lines reports same other rearranged
  rw [extracted_rearrange laid same rearranged, extractFailureFingerprints,
    extracted_laid laid lines.symm] at agrees
  exact agrees

/-- Where all blocks are closed, the order of the reports does not matter exactly when no
test has two richest reports that differ. -/
theorem orderFree_iff (py : BaselineInterpreter) (output : String)
    (closed : ClosedBlocks py output) : OrderFree py output ↔ Untied py output :=
  ⟨untied_of_orderFree closed, orderFree_of_untied⟩

end Pieces

/-! ## A test that is reported twice -/

/-- The second report says more than the first. -/
def repeatedOutput : String :=
  "FAILED a.py::t\nFAILED a.py::t - boom\n1 failed"

theorem repeatedOutput_orderFree : OrderFree asciiBaseline repeatedOutput := by
  have closed : ClosedBlocks asciiBaseline repeatedOutput := by
    unfold ClosedBlocks
    decide +kernel
  have untied : Untied asciiBaseline repeatedOutput := by
    unfold Untied Foundation.Settled
    decide +kernel
  exact (orderFree_iff asciiBaseline repeatedOutput closed).mpr untied

end Execraft.Orchestrate.Baseline
