import Execraft.Orchestrate.ReviewContract
import Execraft.Orchestrate.SupervisorContract

/-!
# When an answer of the Supervisor is upgraded to a recovery

A payload that refuses is passed over when the strict decision does not accept it, and
the first weaker source that is accepted decides in its place.
-/

namespace Execraft.Orchestrate

open Foundation Foundation.Json Foundation.Text

variable (py : SupervisorInterpreter)

/-! ## Sources -/

/-- The mapping of each source, from the most authoritative one on; none where the prose
of a text states no decision. -/
def answerSources (result : Payload) : List (Option Payload) :=
  (answerMappings py result).map (fun source => some source.2) ++
    (answerTexts result).map fun text => (parseFreeformDecision py text).toOption

/-- The strict decision of one mapping. -/
def strictDecision (candidatePaths : List String) (requireHuman : Bool) (payload : Payload) :
    Except String SupervisorDecision := do
  let normalized ← normalizeMapping py candidatePaths requireHuman payload
  SupervisorDecision.fromMapping py.toPython normalized.1

/-- The mapping gives a decision. -/
def Decides (candidatePaths : List String) (requireHuman : Bool) (payload : Payload) : Prop :=
  ∃ decision, strictDecision py candidatePaths requireHuman payload = .ok decision

/-- The kind that the text of a mapping stands for. -/
def statedKind (requireHuman : Bool) (payload : Payload) : Option SupervisorDecisionKind :=
  decisionKind requireHuman (decisionToken py (decisionText py (mergedPayload payload)))

/-! ## The kind of a decision survives -/

section Kind

variable {py}

theorem stripString_value (kind : SupervisorDecisionKind) :
    stripString kind.value = kind.value := by
  cases kind with
  | resolved => decide
  | delegate => decide
  | askHuman => decide
  | blocked => decide

theorem ofValue_value (kind : SupervisorDecisionKind) :
    SupervisorDecisionKind.ofValue kind.value = some kind := by
  cases kind with
  | resolved => rfl
  | delegate => rfl
  | askHuman => rfl
  | blocked => rfl

theorem decisionText_set_ok (data : Payload) :
    decisionText py (data.set "ok" (.bool true)) = decisionText py data := by
  have kept : ∀ name, name ≠ "ok" →
      (data.set "ok" (.bool true)).get name .null = data.get name .null :=
    fun name different => ProjectExecution.Row.get_set_ne data different _ _
  have stated : orGet (data.set "ok" (.bool true)) ["decision", "verdict", "action"] =
      orGet data ["decision", "verdict", "action"] := by
    simp only [orGet, kept "decision" (by decide), kept "verdict" (by decide),
      kept "action" (by decide)]
  have inferred : inferDecisionText py (data.set "ok" (.bool true)) =
      inferDecisionText py data := by
    rw [inferDecisionText, kept "instructions" (by decide), kept "summary" (by decide),
      kept "reason" (by decide), inferDecisionText]
  rw [decisionText, stated, inferred, decisionText]

theorem settleDecision_spec {requireHuman : Bool} {data decided : Payload}
    {kind : SupervisorDecisionKind} {warnings : List String}
    (settled : settleDecision py requireHuman data = .ok (decided, kind, warnings)) :
    decisionKind requireHuman (decisionToken py (decisionText py data)) = some kind ∧
      decided.get "decision" .null = .string kind.value := by
  rw [settleDecision] at settled
  split at settled
  · cases settled
  · rename_i found stated
    split at settled
    · split at settled
      · cases settled
        refine ⟨stated, ?_⟩
        rw [ProjectExecution.Row.get_set_ne _ (by decide), ProjectExecution.Row.get_set_self]
      · cases settled
        exact ⟨stated, ProjectExecution.Row.get_set_self ..⟩
    · cases settled
      exact ⟨stated, ProjectExecution.Row.get_set_self ..⟩

theorem settleSummary_decision {data summarized : Payload} {text : String}
    (settled : settleSummary py data text = .ok summarized) :
    summarized.get "decision" .null = data.get "decision" .null := by
  rw [settleSummary] at settled
  rcases ite_eq_iff.mp settled with ⟨-, failed⟩ | ⟨-, done⟩
  · cases failed
  · cases done
    rw [ProjectExecution.Row.get_set_ne _ (by decide),
      ProjectExecution.Row.get_set_ne _ (by decide)]

theorem settleClassification_decision (data : Payload) :
    (settleClassification py data).1.get "decision" .null = data.get "decision" .null := by
  rw [settleClassification]
  split
  · exact ProjectExecution.Row.get_set_ne data (by decide) _ _
  · exact ProjectExecution.Row.get_set_ne data (by decide) _ _

theorem settleResume_decision (data : Payload) :
    (settleResume py data).1.get "decision" .null = data.get "decision" .null := by
  rw [settleResume]
  split
  · exact ProjectExecution.Row.get_set_ne data (by decide) _ _
  · exact ProjectExecution.Row.get_set_ne data (by decide) _ _

theorem settleEvidence_decision (data : Payload) :
    (settleEvidence py data).1.get "decision" .null = data.get "decision" .null := by
  rw [settleEvidence, ProjectExecution.Row.get_set_ne _ (by decide),
    ProjectExecution.Row.get_set_ne _ (by decide)]

theorem settlePaths_decision (kind : SupervisorDecisionKind) (candidatePaths : List String)
    (data : Payload) :
    (settlePaths py kind candidatePaths data).1.get "decision" .null =
      data.get "decision" .null := by
  rw [settlePaths, ProjectExecution.Row.get_set_ne _ (by decide),
    ProjectExecution.Row.get_set_ne _ (by decide)]

theorem settleQuestion_decision (kind : SupervisorDecisionKind) (data : Payload) :
    (settleQuestion py kind (settleDelegations data)).get "decision" .null =
      data.get "decision" .null := by
  rw [settleQuestion, ProjectExecution.Row.get_set_ne _ (by decide), settleDelegations,
    ProjectExecution.Row.get_set_ne _ (by decide)]

/-- A mapping that is normalized does not refuse, its text stands for a kind, and that
kind is the decision of the normal form. -/
theorem normalizeMapping_spec {candidatePaths : List String} {requireHuman : Bool}
    {raw : Payload} {normalized : Payload × List String}
    (done : normalizeMapping py candidatePaths requireHuman raw = .ok normalized) :
    (mergedPayload raw).get "ok" .null ≠ .bool false ∧
      ∃ kind, statedKind py requireHuman raw = some kind ∧
        normalized.1.get "decision" .null = .string kind.value := by
  rw [normalizeMapping] at done
  split at done
  · cases done
  · rename_i willing
    refine ⟨willing, ?_⟩
    obtain ⟨⟨decided, kind, highImpact⟩, settled, done⟩ := bind_eq_ok.mp done
    obtain ⟨summarized, summary, done⟩ := bind_eq_ok.mp done
    obtain ⟨read, decision⟩ := settleDecision_spec settled
    rw [decisionText_set_ok] at read
    refine ⟨kind, read, ?_⟩
    rw [← Except.ok.inj done]
    calc
      _ = _ := settleQuestion_decision ..
      _ = _ := settlePaths_decision ..
      _ = _ := settleEvidence_decision ..
      _ = _ := settleResume_decision ..
      _ = _ := settleSummary_decision summary
      _ = _ := settleClassification_decision ..
      _ = .string kind.value := decision

theorem checkKind_eq_ok {decision checked : SupervisorDecision}
    (accepted : SupervisorDecision.checkKind decision = .ok checked) : checked = decision := by
  rw [SupervisorDecision.checkKind] at accepted
  repeat' split at accepted
  all_goals cases accepted
  rfl

/-- The strict object takes its kind from the decision of the mapping. -/
theorem fromMapping_kind {python : Python} {raw : Payload} {decision : SupervisorDecision}
    (built : SupervisorDecision.fromMapping python raw = .ok decision) :
    SupervisorDecision.parseKind python raw = .ok decision.decision := by
  obtain ⟨kind, parsed, built⟩ := bind_eq_ok.mp built
  obtain ⟨classification, -, built⟩ := bind_eq_ok.mp built
  obtain ⟨summary, -, built⟩ := bind_eq_ok.mp built
  obtain ⟨actions, -, built⟩ := bind_eq_ok.mp built
  obtain ⟨actionsTaken, -, built⟩ := bind_eq_ok.mp built
  obtain ⟨resumeStage, -, built⟩ := bind_eq_ok.mp built
  obtain ⟨delegations, -, built⟩ := bind_eq_ok.mp built
  obtain ⟨question, -, built⟩ := bind_eq_ok.mp built
  obtain ⟨evidence, -, built⟩ := bind_eq_ok.mp built
  obtain ⟨implementationSummary, -, built⟩ := bind_eq_ok.mp built
  obtain ⟨retain, -, built⟩ := bind_eq_ok.mp built
  obtain ⟨discard, -, built⟩ := bind_eq_ok.mp built
  dsimp only at built
  split at built
  · cases built
  · rw [checkKind_eq_ok built]
    exact parsed

theorem parseKind_value {python : Python} {raw : Payload} {kind found : SupervisorDecisionKind}
    (stated : raw.get "decision" .null = .string kind.value)
    (parsed : SupervisorDecision.parseKind python raw = .ok found) : found = kind := by
  have member : strippedMember python raw "decision" "" = kind.value := by
    rw [strippedMember, ProjectExecution.Row.get_of_get_null stated]
    exact stripString_value kind
  rw [SupervisorDecision.parseKind] at parsed
  split at parsed
  · cases parsed
  · rw [member, ofValue_value] at parsed
    exact (Except.ok.inj parsed).symm

/-- An accepted mapping does not refuse, and its decision is of the kind that its text
stands for. -/
theorem strictDecision_kind {candidatePaths : List String} {requireHuman : Bool}
    {payload : Payload} {decision : SupervisorDecision}
    (accepted : strictDecision py candidatePaths requireHuman payload = .ok decision) :
    (mergedPayload payload).get "ok" .null ≠ .bool false ∧
      statedKind py requireHuman payload = some decision.decision := by
  obtain ⟨normalized, done, built⟩ := bind_eq_ok.mp accepted
  obtain ⟨willing, kind, read, stated⟩ := normalizeMapping_spec done
  rw [parseKind_value stated (fromMapping_kind built)]
  exact ⟨willing, read⟩

end Kind

/-! ## The first source that decides counts -/

section Attempts

variable {py} {candidatePaths : List String} {requireHuman : Bool}

theorem toOption_compileMapping (source : String × Payload) :
    (compileMapping py candidatePaths requireHuman source).toOption.map
        Compilation.decision =
      (strictDecision py candidatePaths requireHuman source.2).toOption := by
  rw [compileMapping, strictDecision]
  cases normalizeMapping py candidatePaths requireHuman source.2 with
  | error error => rfl
  | ok normalized =>
      obtain ⟨settled, warnings⟩ := normalized
      rw [ok_bind, ok_bind]
      dsimp only
      cases SupervisorDecision.fromMapping py.toPython settled with
      | error error => rfl
      | ok decision => rfl

theorem toOption_compileText (text : String) :
    (compileText py candidatePaths requireHuman text).toOption.map Compilation.decision =
      (parseFreeformDecision py text).toOption.bind fun payload =>
        (strictDecision py candidatePaths requireHuman payload).toOption := by
  rw [compileText]
  cases parseFreeformDecision py text with
  | error error => rfl
  | ok payload =>
      have same : (compileMapping py candidatePaths requireHuman ("freeform", payload)).toOption.map
          Compilation.decision =
        (strictDecision py candidatePaths requireHuman payload).toOption :=
        toOption_compileMapping _
      rw [ok_bind]
      cases compiled : compileMapping py candidatePaths requireHuman ("freeform", payload) with
      | error error =>
          rw [compiled] at same
          exact same
      | ok compilation =>
          rw [compiled] at same
          exact same

end Attempts

/-- The answer compiles to the decision of the first source that gives one. -/
theorem toOption_compileSupervisorDecision (result : Payload) (candidatePaths : List String)
    (requireHuman : Bool) :
    (compileSupervisorDecision py result candidatePaths requireHuman).toOption.map
        Compilation.decision =
      (answerSources py result).findSome? fun source => source.bind fun payload =>
        (strictDecision py (incidentPaths candidatePaths) requireHuman payload).toOption := by
  have mapping : (fun source => (((compileMapping py (incidentPaths candidatePaths)
      requireHuman source).mapError fun error => source.1 ++ ": " ++ error).toOption.map
        Compilation.decision)) = fun source =>
      (strictDecision py (incidentPaths candidatePaths) requireHuman source.2).toOption := by
    funext source
    rw [toOption_mapError, toOption_compileMapping]
  have prose : (fun text => (((compileText py (incidentPaths candidatePaths)
      requireHuman text).mapError fun error => "freeform: " ++ error).toOption.map
        Compilation.decision)) = fun text =>
      (parseFreeformDecision py text).toOption.bind fun payload =>
        (strictDecision py (incidentPaths candidatePaths) requireHuman payload).toOption := by
    funext text
    rw [toOption_mapError, toOption_compileText]
  rw [compileSupervisorDecision, toOption_mapError, toOption_firstOk, List.map_findSome?,
    decisionAttempts, answerSources, List.findSome?_append, List.findSome?_append,
    List.findSome?_map, List.findSome?_map, List.findSome?_map, List.findSome?_map]
  congr 1
  · exact congrArg (fun attempt => List.findSome? attempt (answerMappings py result)) mapping
  · exact congrArg (fun attempt => List.findSome? attempt (answerTexts result)) prose

/-! ## Upgrades -/

/-- The most authoritative payload that could be decoded. -/
def authoritativePayload (result : Payload) : Option Payload :=
  (answerMappings py result).head?.map Prod.snd

/-- The payload reports a failure, or one of its decision texts stands for something
other than a recovery. -/
def StatesRefusal (requireHuman : Bool) (payload : Payload) : Prop :=
  payload.get "ok" .null = .bool false ∨
    ∃ name ∈ ["decision", "verdict", "action"], ∃ kind, kind ≠ .resolved ∧
      decisionKind requireHuman
        (decisionToken py (scalarText py (payload.get name .null))) = some kind

/-- The payload refuses as it stands, or with its nested decision laid over it. -/
def Refuses (requireHuman : Bool) (payload : Payload) : Prop :=
  StatesRefusal py requireHuman payload ∨
    StatesRefusal py requireHuman (mergedPayload payload)

/-- An answer whose authoritative payload refuses does not compile to a recovery. -/
def NeverUpgrades (result : Payload) (candidatePaths : List String) (requireHuman : Bool) :
    Prop :=
  ∀ payload compilation, authoritativePayload py result = some payload →
    Refuses py requireHuman payload →
    compileSupervisorDecision py result candidatePaths requireHuman = .ok compilation →
    compilation.decision.decision ≠ .resolved

/-- The first source that gives a decision reads as a recovery. -/
def RecoveryFirst (candidatePaths : List String) (requireHuman : Bool)
    (sources : List (Option Payload)) : Prop :=
  ∃ front payload back, sources = front ++ some payload :: back ∧
    (∀ other, some other ∈ front → ¬ Decides py candidatePaths requireHuman other) ∧
    Decides py candidatePaths requireHuman payload ∧
    statedKind py requireHuman payload = some .resolved

section Upgrades

variable {py} {candidatePaths : List String} {requireHuman : Bool}

theorem not_decides_iff {payload : Payload} :
    ¬ Decides py candidatePaths requireHuman payload ↔
      (strictDecision py candidatePaths requireHuman payload).toOption = none := by
  rw [Decides]
  cases strictDecision py candidatePaths requireHuman payload with
  | error error => simp [Except.toOption]
  | ok decision => simp [Except.toOption]

theorem recoveryFirst_iff {sources : List (Option Payload)} :
    RecoveryFirst py candidatePaths requireHuman sources ↔
      ∃ decision, decision.decision = .resolved ∧
        (sources.findSome? fun source => source.bind fun payload =>
          (strictDecision py candidatePaths requireHuman payload).toOption) =
            some decision := by
  constructor
  · rintro ⟨front, payload, back, shape, undecided, ⟨decision, accepted⟩, read⟩
    have kind := (strictDecision_kind accepted).2
    rw [read, Option.some.injEq] at kind
    refine ⟨decision, kind.symm, List.findSome?_eq_some_iff.mpr
      ⟨front, some payload, back, shape, ?_, ?_⟩⟩
    · rw [Option.bind_some, accepted]
      rfl
    · intro source member
      cases source with
      | none => rfl
      | some other => exact not_decides_iff.mp (undecided other member)
  · rintro ⟨decision, resolved, found⟩
    obtain ⟨front, source, back, shape, here, earlier⟩ := List.findSome?_eq_some_iff.mp found
    cases source with
    | none => cases here
    | some payload =>
        have accepted : strictDecision py candidatePaths requireHuman payload =
            .ok decision := by
          rw [Option.bind_some] at here
          cases strict : strictDecision py candidatePaths requireHuman payload with
          | error error =>
              rw [strict] at here
              cases here
          | ok other =>
              rw [strict] at here
              cases here
              rfl
        refine ⟨front, payload, back, shape, ?_, ⟨decision, accepted⟩, ?_⟩
        · intro other member
          exact not_decides_iff.mpr (earlier (some other) member)
        · rw [(strictDecision_kind accepted).2, resolved]

theorem recoveryFirst_cons {payload : Payload} {weaker : List (Option Payload)} :
    RecoveryFirst py candidatePaths requireHuman (some payload :: weaker) ↔
      (Decides py candidatePaths requireHuman payload ∧
        statedKind py requireHuman payload = some .resolved) ∨
      (¬ Decides py candidatePaths requireHuman payload ∧
        RecoveryFirst py candidatePaths requireHuman weaker) := by
  constructor
  · rintro ⟨front, chosen, back, shape, undecided, decides, read⟩
    cases front with
    | nil =>
        cases shape
        exact .inl ⟨decides, read⟩
    | cons head tail =>
        obtain ⟨same, rest⟩ := List.cons.inj shape
        refine .inr ⟨undecided payload (same ▸ List.mem_cons_self), tail, chosen, back, rest,
          ?_, decides, read⟩
        exact fun other member => undecided other (List.mem_cons_of_mem _ member)
  · rintro (⟨decides, read⟩ | ⟨silent, front, chosen, back, shape, undecided, decides, read⟩)
    · exact ⟨[], payload, weaker, rfl, by simp, decides, read⟩
    · refine ⟨some payload :: front, chosen, back, by rw [shape]; rfl, ?_, decides, read⟩
      intro other member
      rcases List.mem_cons.mp member with here | later
      · rw [Option.some.inj here]
        exact silent
      · exact undecided other later

/-- A payload that reports a failure to the compiler gives no decision. -/
theorem not_decides_of_failure {payload : Payload}
    (failure : (mergedPayload payload).get "ok" .null = .bool false) :
    ¬ Decides py candidatePaths requireHuman payload :=
  fun ⟨_, accepted⟩ => (strictDecision_kind accepted).1 failure

end Upgrades

theorem answerSources_of_authoritative {result payload : Payload}
    (top : authoritativePayload py result = some payload) :
    answerSources py result = some payload :: (answerSources py result).tail := by
  obtain ⟨source, first, same⟩ := Option.map_eq_some_iff.mp top
  obtain ⟨rest, mappings⟩ := List.head?_eq_some_iff.mp first
  rw [answerSources, mappings, List.map_cons, same]
  rfl

/-- A refusal stands exactly when the payload gives a decision that does not read as a
recovery, or gives none and the first weaker source that does is no recovery either. -/
theorem neverUpgrades_iff (result : Payload) (candidatePaths : List String)
    (requireHuman : Bool) :
    NeverUpgrades py result candidatePaths requireHuman ↔
      ∀ payload, authoritativePayload py result = some payload →
        Refuses py requireHuman payload →
        (Decides py (incidentPaths candidatePaths) requireHuman payload ∧
          statedKind py requireHuman payload ≠ some .resolved) ∨
        (¬ Decides py (incidentPaths candidatePaths) requireHuman payload ∧
          ¬ RecoveryFirst py (incidentPaths candidatePaths) requireHuman
            (answerSources py result).tail) := by
  constructor
  · intro never payload top refuses
    have settled : ¬ RecoveryFirst py (incidentPaths candidatePaths) requireHuman
        (answerSources py result) := by
      intro recovery
      obtain ⟨decision, resolved, found⟩ := recoveryFirst_iff.mp recovery
      rw [← toOption_compileSupervisorDecision] at found
      obtain ⟨compilation, compiled, same⟩ := exists_ok_of_toOption found
      exact never payload compilation top refuses compiled (same ▸ resolved)
    rw [answerSources_of_authoritative py top, recoveryFirst_cons] at settled
    by_cases decides : Decides py (incidentPaths candidatePaths) requireHuman payload
    · exact .inl ⟨decides, fun read => settled (.inl ⟨decides, read⟩)⟩
    · exact .inr ⟨decides, fun weaker => settled (.inr ⟨decides, weaker⟩)⟩
  · intro settled payload compilation top refuses compiled resolved
    have recovery : RecoveryFirst py (incidentPaths candidatePaths) requireHuman
        (answerSources py result) := by
      refine recoveryFirst_iff.mpr ⟨compilation.decision, resolved, ?_⟩
      rw [← toOption_compileSupervisorDecision, compiled]
      rfl
    rw [answerSources_of_authoritative py top, recoveryFirst_cons] at recovery
    rcases settled payload top refuses with ⟨decides, other⟩ | ⟨silent, quiet⟩
    · rcases recovery with ⟨-, read⟩ | ⟨silent, -⟩
      · exact other read
      · exact silent decides
    · rcases recovery with ⟨decides, -⟩ | ⟨-, weaker⟩
      · exact silent decides
      · exact quiet weaker

/-- An interpreter for ASCII texts. -/
def plainSupervisor : SupervisorInterpreter where
  toOutputInterpreter := plainOutput
  casefold text := text.map Char.toLower
  isDecimal := Char.isDigit

/-- An answer that reports its failure in words that a recovery is announced with. -/
def failedAnswer : Payload :=
  [("final_message", .string "\x7b\"ok\": false, \"summary\": \"could not recover\"\x7d")]

theorem failedAnswer_upgraded : ¬ NeverUpgrades plainSupervisor failedAnswer [] true := by
  intro never
  have top : authoritativePayload plainSupervisor failedAnswer =
      some [("ok", .bool false), ("summary", .string "could not recover")] := by
    decide +kernel
  have resolved : (compileSupervisorDecision plainSupervisor failedAnswer [] true).toOption.map
      (fun compilation => compilation.decision.decision) = some .resolved := by
    decide +kernel
  obtain ⟨compilation, compiled, kind⟩ := exists_ok_of_toOption resolved
  exact never _ compilation top (.inl (.inl rfl)) compiled kind

end Execraft.Orchestrate
