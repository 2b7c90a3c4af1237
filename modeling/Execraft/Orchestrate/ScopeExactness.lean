import Execraft.Orchestrate.ScopePolicy

/-!
# How exact approved paths are

What the declarations of approved paths authorize.  Paths are compared without the
blanks around them, so an approval that authorizes anything authorizes more paths
than it names.
-/

namespace Execraft.Orchestrate

open Foundation Foundation.Text

/-! ## Authorized paths -/

/-- The write scope covers the path of the repository. -/
def Authorized (isDirectory : String → String → Bool) (writeScope : List String)
    (repositoryId path : String) : Prop :=
  pathMatchesScope (isDirectory repositoryId) path
    (repositoryScopePatterns repositoryId writeScope) = true

/-- One entry of a write scope covers the path. -/
def EntryCovers (isDirectory : String → String → Bool) (raw repositoryId path : String) :
    Prop :=
  ∃ pattern, scopePattern repositoryId raw = some pattern ∧
    patternCovers (isDirectory repositoryId) (normalizePath path) pattern = true

section Entries

variable {isDirectory : String → String → Bool} {repositoryId path : String}

theorem normalizePath_empty : normalizePath "" = "" := by
  decide +kernel

theorem mem_repositoryScopePatterns {writeScope : List String} {pattern : String} :
    pattern ∈ repositoryScopePatterns repositoryId writeScope ↔
      pattern ≠ "" ∧ ∃ raw ∈ writeScope, scopePattern repositoryId raw = some pattern := by
  induction writeScope using List.reverseRecOn with
  | nil => simp [repositoryScopePatterns]
  | append_singleton front last inductionHypothesis =>
      have split : (pattern ≠ "" ∧ ∃ raw ∈ front ++ [last],
          scopePattern repositoryId raw = some pattern) ↔
            pattern ∈ repositoryScopePatterns repositoryId front ∨
              pattern ≠ "" ∧ scopePattern repositoryId last = some pattern := by
        rw [inductionHypothesis]
        constructor
        · rintro ⟨nonempty, raw, member, declared⟩
          rcases List.mem_append.mp member with earlier | atLast
          · exact Or.inl ⟨nonempty, raw, earlier, declared⟩
          · rw [List.mem_singleton.mp atLast] at declared
            exact Or.inr ⟨nonempty, declared⟩
        · rintro (⟨nonempty, raw, earlier, declared⟩ | ⟨nonempty, declared⟩)
          · exact ⟨nonempty, raw, List.mem_append_left _ earlier, declared⟩
          · exact ⟨nonempty, last, by simp, declared⟩
      rw [split]
      unfold repositoryScopePatterns
      rw [List.foldl_append, List.foldl_cons, List.foldl_nil]
      cases declared : scopePattern repositoryId last with
      | none => simp
      | some other =>
          dsimp only
          rw [Option.some.injEq]
          by_cases skipped : other = "" ∨ other ∈ repositoryScopePatterns repositoryId front
          · rw [repositoryScopePatterns] at skipped
            rw [if_pos skipped]
            constructor
            · exact Or.inl
            · rintro (listed | ⟨nonempty, rfl⟩)
              · exact listed
              · exact skipped.resolve_left nonempty
          · rw [repositoryScopePatterns] at skipped
            rw [if_neg skipped, List.mem_append, List.mem_singleton]
            constructor
            · rintro (listed | rfl)
              · exact Or.inl listed
              · exact Or.inr ⟨fun empty => skipped (Or.inl empty), rfl⟩
            · rintro (listed | ⟨_, same⟩)
              · exact Or.inl listed
              · exact Or.inr same.symm

/-- A scope authorizes what its entries cover. -/
theorem authorized_iff {writeScope : List String} :
    Authorized isDirectory writeScope repositoryId path ↔
      ∃ raw ∈ writeScope, EntryCovers isDirectory raw repositoryId path := by
  unfold Authorized pathMatchesScope
  rw [List.any_eq_true]
  constructor
  · rintro ⟨pattern, listed, covers⟩
    obtain ⟨_, raw, member, declared⟩ := mem_repositoryScopePatterns.mp listed
    exact ⟨raw, member, pattern, declared, covers⟩
  · rintro ⟨raw, member, pattern, declared, covers⟩
    refine ⟨pattern, ?_, covers⟩
    refine mem_repositoryScopePatterns.mpr ⟨?_, raw, member, declared⟩
    rintro rfl
    rw [patternCovers, normalizePath_empty] at covers
    cases covers

/-- Blanks at the end of a path do not count. -/
theorem normalizePath_blanks (path : String) (count : Nat) :
    normalizePath (path ++ String.ofList (List.replicate count ' ')) =
      normalizePath path := by
  have blank : isSpace ' ' = true := by decide
  have stripped : strip (path.toList ++ List.replicate count ' ') = strip path.toList := by
    by_cases visible : ∃ character ∈ path.toList, isSpace character = false
    · have unchanged : (path.toList ++ List.replicate count ' ').dropWhile isSpace =
          path.toList.dropWhile isSpace ++ List.replicate count ' ' := by
        rw [List.dropWhile_append, if_neg]
        rw [List.isEmpty_iff, List.dropWhile_eq_nil_iff]
        intro all
        obtain ⟨character, member, notSpace⟩ := visible
        rw [all character member] at notSpace
        cases notSpace
      unfold strip
      rw [unchanged, List.reverse_append, List.reverse_replicate,
        List.dropWhile_append_of_pos]
      intro character member
      rw [List.eq_of_mem_replicate member]
      exact blank
    · have allBlank : ∀ character ∈ path.toList, isSpace character = true := by
        intro character member
        by_contra notSpace
        exact visible ⟨character, member, Bool.eq_false_iff.mpr notSpace⟩
      rw [strip_eq_nil_iff.mpr allBlank, strip_eq_nil_iff]
      intro character member
      rcases List.mem_append.mp member with inPath | inBlanks
      · exact allBlank character inPath
      · rw [List.eq_of_mem_replicate inBlanks]
        exact blank
  unfold normalizePath
  rw [String.toList_append, String.toList_ofList, stripped]

theorem authorized_blanks {writeScope : List String} (count : Nat) :
    Authorized isDirectory writeScope repositoryId
        (path ++ String.ofList (List.replicate count ' ')) ↔
      Authorized isDirectory writeScope repositoryId path := by
  unfold Authorized pathMatchesScope
  rw [normalizePath_blanks]

end Entries

/-! ## Plain declarations -/

/-- A character that neither patterns nor normal forms treat in a special way. -/
def isPlain (character : Char) : Bool :=
  !isSpace character && character ≠ '\\' && !isGlobMeta character

section Plain

variable {text raw pattern : String}

theorem isPlain_iff {character : Char} :
    isPlain character = true ↔ isSpace character = false ∧ character ≠ '\\' ∧
      isGlobMeta character = false := by
  unfold isPlain
  simp [and_assoc]

theorem strip_plain {characters : List Char}
    (plain : ∀ character ∈ characters, isPlain character = true) :
    strip characters = characters :=
  strip_of_stripped (stripped_of_visible fun character member =>
    (isPlain_iff.mp (plain character member)).1)

theorem slashes_plain {characters : List Char}
    (plain : ∀ character ∈ characters, isPlain character = true) :
    slashes characters = characters := by
  unfold slashes
  conv_rhs => rw [← List.map_id characters]
  apply List.map_congr_left
  intro character member
  exact if_neg (isPlain_iff.mp (plain character member)).2.1

theorem dropCurrent_suffix (characters : List Char) :
    dropCurrent characters <:+ characters := by
  fun_induction dropCurrent characters with
  | case1 rest inductionHypothesis =>
      exact inductionHypothesis.trans ((List.suffix_cons _ _).trans (List.suffix_cons _ _))
  | case2 other => exact List.suffix_refl _

theorem normalizePath_suffix
    (plain : ∀ character ∈ text.toList, isPlain character = true) :
    (normalizePath text).toList <:+ text.toList := by
  unfold normalizePath
  rw [String.toList_ofList, strip_plain plain, slashes_plain plain]
  exact (List.dropWhile_suffix _).trans (dropCurrent_suffix _)

theorem plain_of_suffix {first second : List Char} (suffix : first <:+ second)
    (plain : ∀ character ∈ second, isPlain character = true) :
    ∀ character ∈ first, isPlain character = true :=
  fun character member => plain character (suffix.subset member)

theorem partitionColon_suffix {parts : String × String}
    (parsed : partitionColon text = some parts) : parts.2.toList <:+ text.toList := by
  unfold partitionColon at parsed
  split at parsed
  · rename_i rest shape
    cases parsed
    rw [String.toList_ofList]
    exact (shape ▸ List.suffix_cons ':' rest).trans (List.dropWhile_suffix _)
  · cases parsed

/-- In every repository a plain entry declares one of its ends. -/
theorem scopePattern_suffix {repositoryId : String}
    (plain : ∀ character ∈ raw.toList, isPlain character = true)
    (declared : scopePattern repositoryId raw = some pattern) :
    pattern.toList <:+ raw.toList := by
  have same : stripString raw = raw := by
    rw [stripString, strip_plain plain, String.ofList_toList]
  have normal := normalizePath_suffix plain
  unfold scopePattern at declared
  rw [same] at declared
  dsimp only at declared
  split_ifs at declared with inside
  · rw [← Option.some.inj declared, String.toList_ofList]
    exact (List.drop_suffix _ _).trans normal
  · split at declared
    · rename_i declaredRepository remainder parsed
      split_ifs at declared
      rw [← Option.some.inj declared]
      exact (partitionColon_suffix parsed).trans normal
    · rw [← Option.some.inj declared]
      exact normal

/-- A plain entry that names no directory covers only paths whose normal form is an end
of it. -/
theorem entryCovers_plain {isDirectory : String → String → Bool}
    {repositoryId path : String}
    (plain : ∀ character ∈ raw.toList, isPlain character = true)
    (file : raw.toList.getLast? ≠ some '/')
    (noDirectory : ∀ name, isDirectory repositoryId name = false)
    (covers : EntryCovers isDirectory raw repositoryId path) :
    (normalizePath path).toList <:+ raw.toList := by
  obtain ⟨pattern, declared, covers⟩ := covers
  have ending := scopePattern_suffix plain declared
  have patternPlain := plain_of_suffix ending plain
  have normal := normalizePath_suffix patternPlain
  unfold patternCovers at covers
  dsimp only at covers
  split_ifs at covers with empty glob
  · obtain ⟨character, member, special⟩ := List.any_eq_true.mp glob
    have ordinary := isPlain_iff.mp (patternPlain character (normal.subset member))
    rw [ordinary.2.2] at special
    cases special
  · rcases Bool.or_eq_true_iff.mp covers with same | below
    · rw [of_decide_eq_true same]
      exact normal.trans ending
    · have directory := (Bool.and_eq_true_iff.mp below).1
      unfold directoryDeclared at directory
      rw [noDirectory, Bool.or_false, decide_eq_true_eq, rstripOf] at directory
      have kept : (pattern.toList.reverse.dropWhile isSpace).reverse = pattern.toList := by
        rw [List.dropWhile_eq_self_iff.mpr, List.reverse_reverse]
        intro nonempty
        have visible := patternPlain _ (List.mem_reverse.mp (List.getElem_mem nonempty))
        rw [(isPlain_iff.mp visible).1]
        decide
      rw [kept, slashes_plain patternPlain] at directory
      obtain ⟨front, shape⟩ := ending
      refine absurd ?_ file
      rw [← shape, List.getLast?_append, directory]
      rfl

end Plain

/-! ## Approvals -/

/-- The path of the repository is in the list of qualified paths. -/
def Approved (qualifiedPaths : List String) (repositoryId path : String) : Prop :=
  ∃ qualified ∈ qualifiedPaths, partitionColon qualified = some (repositoryId, path)

section Approvals

variable {isDirectory : String → String → Bool}

theorem mem_appendExactScopePaths {qualifiedPaths additions : List String}
    {package : WorkPackage}
    (appended : (appendExactScopePaths qualifiedPaths package).2 = .ok additions)
    {raw : String} :
    raw ∈ (appendExactScopePaths qualifiedPaths package).1.writeScope ↔
      raw ∈ package.writeScope ∨ ∃ repositoryId path,
        Approved qualifiedPaths repositoryId path ∧
          raw = exactDeclaration repositoryId path := by
  induction qualifiedPaths generalizing package additions with
  | nil => simp [appendExactScopePaths, Approved]
  | cons qualified rest inductionHypothesis =>
      rw [appendExactScopePaths] at appended ⊢
      cases parsed : partitionColon qualified with
      | none =>
          rw [parsed] at appended
          cases appended
      | some parts =>
          rw [parsed] at appended
          dsimp only at appended ⊢
          have listed : ∀ repositoryId path,
              Approved (qualified :: rest) repositoryId path ↔
                parts = (repositoryId, path) ∨ Approved rest repositoryId path := by
            intro repositoryId path
            simp [Approved, parsed]
          by_cases foreign : parts.1 ∉ package.affectedRepositories
          · rw [if_pos foreign] at appended
            cases appended
          rw [if_neg foreign] at appended ⊢
          by_cases present : exactDeclaration parts.1 parts.2 ∈ package.writeScope
          · rw [if_pos present] at appended ⊢
            rw [inductionHypothesis appended]
            constructor
            · rintro (earlier | ⟨repositoryId, path, approved, same⟩)
              · exact Or.inl earlier
              · exact Or.inr ⟨repositoryId, path,
                  (listed repositoryId path).mpr (Or.inr approved), same⟩
            · rintro (earlier | ⟨repositoryId, path, approved, same⟩)
              · exact Or.inl earlier
              · rcases (listed repositoryId path).mp approved with rfl | later
                · rw [same]
                  exact Or.inl present
                · exact Or.inr ⟨repositoryId, path, later, same⟩
          · rw [if_neg present] at appended ⊢
            have completed : ∃ others, (appendExactScopePaths rest
                { package with
                  writeScope := package.writeScope ++
                    [exactDeclaration parts.1 parts.2] }).2 = .ok others := by
              cases result : (appendExactScopePaths rest
                { package with
                  writeScope := package.writeScope ++
                    [exactDeclaration parts.1 parts.2] }).2 with
              | ok others => exact ⟨others, rfl⟩
              | error failure =>
                  rw [result] at appended
                  cases appended
            obtain ⟨others, appendedRest⟩ := completed
            dsimp only
            rw [inductionHypothesis appendedRest]
            constructor
            · rintro (earlier | ⟨repositoryId, path, approved, same⟩)
              · rcases List.mem_append.mp earlier with old | new
                · exact Or.inl old
                · exact Or.inr ⟨parts.1, parts.2, (listed _ _).mpr (Or.inl rfl),
                    List.mem_singleton.mp new⟩
              · exact Or.inr ⟨repositoryId, path,
                  (listed repositoryId path).mpr (Or.inr approved), same⟩
            · rintro (earlier | ⟨repositoryId, path, approved, same⟩)
              · exact Or.inl (List.mem_append_left _ earlier)
              · rcases (listed repositoryId path).mp approved with rfl | later
                · rw [same]
                  exact Or.inl (by simp)
                · exact Or.inr ⟨repositoryId, path, later, same⟩

/-- An approval authorizes what was authorized and what its declarations cover. -/
theorem authorized_appendExactScopePaths {qualifiedPaths additions : List String}
    {package : WorkPackage}
    (appended : (appendExactScopePaths qualifiedPaths package).2 = .ok additions)
    {repositoryId path : String} :
    Authorized isDirectory (appendExactScopePaths qualifiedPaths package).1.writeScope
        repositoryId path ↔
      Authorized isDirectory package.writeScope repositoryId path ∨
        ∃ approvedId approvedPath, Approved qualifiedPaths approvedId approvedPath ∧
          EntryCovers isDirectory (exactDeclaration approvedId approvedPath)
            repositoryId path := by
  rw [authorized_iff, authorized_iff]
  constructor
  · rintro ⟨raw, member, covers⟩
    rcases (mem_appendExactScopePaths appended).mp member with
      earlier | ⟨approvedId, approvedPath, approved, rfl⟩
    · exact Or.inl ⟨raw, earlier, covers⟩
    · exact Or.inr ⟨approvedId, approvedPath, approved, covers⟩
  · rintro (⟨raw, earlier, covers⟩ | ⟨approvedId, approvedPath, approved, covers⟩)
    · exact ⟨raw, (mem_appendExactScopePaths appended).mpr (Or.inl earlier), covers⟩
    · exact ⟨_, (mem_appendExactScopePaths appended).mpr
        (Or.inr ⟨approvedId, approvedPath, approved, rfl⟩), covers⟩

/-- Taking over repositories leaves the write scope alone. -/
theorem writeScope_acquireRepositories (repositories qualifiedPaths : List String)
    (package : WorkPackage) :
    (acquireRepositories repositories qualifiedPaths package).1.writeScope =
      package.writeScope := by
  induction qualifiedPaths generalizing package with
  | nil => rfl
  | cons qualified rest inductionHypothesis =>
      rw [acquireRepositories]
      cases partitionColon qualified with
      | none => rfl
      | some parts =>
          dsimp only
          by_cases unknown : parts.1 ∉ repositories
          · rw [if_pos unknown]
          · rw [if_neg unknown]
            by_cases owned : parts.1 ∈ package.affectedRepositories
            · rw [if_pos owned]
              exact inductionHypothesis package
            · rw [if_neg owned]
              exact inductionHypothesis _

theorem appendRecoveredScopePaths_ok {repositories qualifiedPaths : List String}
    {package : WorkPackage} {added : List String × List String}
    (recovered : (appendRecoveredScopePaths repositories qualifiedPaths package).2 =
      .ok added) :
    (appendExactScopePaths qualifiedPaths
        (acquireRepositories repositories qualifiedPaths package).1).2 = .ok added.1 ∧
      (appendRecoveredScopePaths repositories qualifiedPaths package).1.writeScope =
        (appendExactScopePaths qualifiedPaths
          (acquireRepositories repositories qualifiedPaths package).1).1.writeScope := by
  unfold appendRecoveredScopePaths at recovered ⊢
  dsimp only at recovered ⊢
  cases acquired : (acquireRepositories repositories qualifiedPaths package).2 with
  | error failure =>
      rw [acquired] at recovered
      cases recovered
  | ok addedRepositories =>
      rw [acquired] at recovered
      dsimp only at recovered ⊢
      cases appended : (appendExactScopePaths qualifiedPaths
          (acquireRepositories repositories qualifiedPaths package).1).2 with
      | error failure =>
          rw [appended] at recovered
          cases recovered
      | ok addedPaths =>
          rw [appended] at recovered
          dsimp only at recovered ⊢
          cases recovered
          refine ⟨rfl, ?_⟩
          split_ifs <;> rfl

end Approvals

/-! ## Exactness -/

section Exactness

variable {isDirectory : String → String → Bool} {repositories qualifiedPaths : List String}

/-- In these repositories the later scope authorizes what the earlier one did and the
approved paths, nothing else. -/
def Exact (isDirectory : String → String → Bool)
    (repositories qualifiedPaths before after : List String) : Prop :=
  ∀ repositoryId ∈ repositories, ∀ path,
    Authorized isDirectory after repositoryId path ↔
      Authorized isDirectory before repositoryId path ∨
        Approved qualifiedPaths repositoryId path

/-- The approved paths, and all that their declarations cover, were authorized before. -/
def GainsNothing (isDirectory : String → String → Bool)
    (repositories qualifiedPaths before : List String) : Prop :=
  ∀ repositoryId ∈ repositories, ∀ path,
    Approved qualifiedPaths repositoryId path ∨
      (∃ approvedId approvedPath, Approved qualifiedPaths approvedId approvedPath ∧
        EntryCovers isDirectory (exactDeclaration approvedId approvedPath)
          repositoryId path) →
    Authorized isDirectory before repositoryId path

theorem approved_bounded (qualifiedPaths : List String) :
    ∃ bound, ∀ repositoryId path, Approved qualifiedPaths repositoryId path →
      path.length ≤ bound := by
  induction qualifiedPaths with
  | nil => exact ⟨0, by rintro _ _ ⟨_, impossible, _⟩; cases impossible⟩
  | cons qualified rest inductionHypothesis =>
      obtain ⟨bound, bounded⟩ := inductionHypothesis
      refine ⟨max bound
        ((partitionColon qualified).elim 0 fun parts => parts.2.length), ?_⟩
      rintro repositoryId path ⟨listed, member, parsed⟩
      rcases List.mem_cons.mp member with rfl | later
      · rw [parsed]
        exact Nat.le_max_right _ _
      · exact (bounded repositoryId path ⟨listed, later, parsed⟩).trans
          (Nat.le_max_left _ _)

/-- No list approves a path with every number of blanks behind it. -/
theorem exists_unapproved (qualifiedPaths : List String) (repositoryId path : String) :
    ∃ count, ¬ Approved qualifiedPaths repositoryId
      (path ++ String.ofList (List.replicate count ' ')) := by
  obtain ⟨bound, bounded⟩ := approved_bounded qualifiedPaths
  refine ⟨bound + 1, fun approved => ?_⟩
  have short := bounded _ _ approved
  rw [String.length_append, String.length_ofList, List.length_replicate] at short
  omega

theorem exact_iff {before after : List String}
    (authorized : ∀ repositoryId path, Authorized isDirectory after repositoryId path ↔
      Authorized isDirectory before repositoryId path ∨
        ∃ approvedId approvedPath, Approved qualifiedPaths approvedId approvedPath ∧
          EntryCovers isDirectory (exactDeclaration approvedId approvedPath)
            repositoryId path) :
    Exact isDirectory repositories qualifiedPaths before after ↔
      GainsNothing isDirectory repositories qualifiedPaths before := by
  constructor
  · intro exact repositoryId known path gained
    have later : Authorized isDirectory after repositoryId path := by
      rcases gained with approved | covered
      · exact (exact repositoryId known path).mpr (Or.inr approved)
      · exact (authorized repositoryId path).mpr (Or.inr covered)
    -- A path that differs in blanks only is authorized alike, and is not in the list.
    obtain ⟨count, unapproved⟩ := exists_unapproved qualifiedPaths repositoryId path
    rw [← authorized_blanks count] at later ⊢
    exact ((exact repositoryId known _).mp later).resolve_right unapproved
  · intro nothing repositoryId known path
    rw [authorized]
    constructor
    · rintro (earlier | covered)
      · exact Or.inl earlier
      · exact Or.inl (nothing repositoryId known path (Or.inr covered))
    · rintro (earlier | approved)
      · exact Or.inl earlier
      · exact Or.inl (nothing repositoryId known path (Or.inl approved))

/-- Both ways of approving paths are exact only where they authorize nothing new. -/
theorem approvals_exact_iff (isDirectory : String → String → Bool)
    (repositories qualifiedPaths : List String) (package : WorkPackage) :
    (∀ additions, (appendExactScopePaths qualifiedPaths package).2 = .ok additions →
      (Exact isDirectory repositories qualifiedPaths package.writeScope
          (appendExactScopePaths qualifiedPaths package).1.writeScope ↔
        GainsNothing isDirectory repositories qualifiedPaths package.writeScope)) ∧
      ∀ known added,
        (appendRecoveredScopePaths known qualifiedPaths package).2 = .ok added →
          (Exact isDirectory repositories qualifiedPaths package.writeScope
              (appendRecoveredScopePaths known qualifiedPaths package).1.writeScope ↔
            GainsNothing isDirectory repositories qualifiedPaths package.writeScope) := by
  constructor
  · intro additions appended
    exact exact_iff fun _ _ => authorized_appendExactScopePaths appended
  · intro known added recovered
    obtain ⟨appended, same⟩ := appendRecoveredScopePaths_ok recovered
    rw [same]
    apply exact_iff
    intro repositoryId path
    rw [authorized_appendExactScopePaths appended, writeScope_acquireRepositories]

/-- A package that may write nothing yet. -/
def emptyScope : WorkPackage :=
  { id := "shard", title := "Shard", affectedRepositories := ["core"] }

/-- The approval of a name with brackets authorizes another file. -/
theorem brackets_inexact :
    ¬ Exact (fun _ _ => false) ["core"] ["core:a[1].py"] emptyScope.writeScope
      (appendExactScopePaths ["core:a[1].py"] emptyScope).1.writeScope := by
  intro exact
  have authorized : Authorized (fun _ _ => false)
      (appendExactScopePaths ["core:a[1].py"] emptyScope).1.writeScope "core" "a1.py" := by
    unfold Authorized
    decide +kernel
  rcases (exact "core" (by decide) "a1.py").mp authorized with earlier | approved
  · exact absurd earlier (by unfold Authorized; decide +kernel)
  · obtain ⟨qualified, member, parsed⟩ := approved
    rw [List.mem_singleton.mp member] at parsed
    exact absurd parsed (by decide +kernel)

end Exactness

end Execraft.Orchestrate
