import Execraft.Roadmap.Migration

/-!
# The allocation of identities

Every identity is new, and the identities of the remaining items do not change when
those of other items are taken already.
-/

namespace Execraft.Roadmaps

open Foundation

variable {py : Python} {count : String → Nat} {existing taken : List String}
variable {used larger : List String} {key : ItemKey} {candidate id : String}
variable {keys : List ItemKey} {allocation : List (ItemKey × String)}

/-! ## One identity -/

theorem suffixedCandidate_notMem {digest : String} {widths : List Nat}
    (resolved : suffixedCandidate py candidate digest key used widths = .ok id) :
    id ∉ used := by
  induction widths with
  | nil => cases resolved
  | cons width rest inductionHypothesis =>
      rw [suffixedCandidate] at resolved
      obtain ⟨text, valid, chosen⟩ := bind_eq_ok.mp resolved
      by_cases unused : text ∈ used
      · rw [if_neg (not_not.mpr unused)] at chosen
        exact inductionHypothesis chosen
      · rw [if_pos unused] at chosen
        cases chosen
        exact unused

theorem deduplicateCandidate_notMem
    (resolved : deduplicateCandidate py candidate key used = .ok id) : id ∉ used := by
  unfold deduplicateCandidate at resolved
  by_cases unused : candidate ∈ used
  · rw [if_neg (not_not.mpr unused)] at resolved
    exact suffixedCandidate_notMem resolved
  · rw [if_pos unused] at resolved
    cases resolved
    exact unused

/-- Further used identities do not matter as long as the result is free. -/
theorem suffixedCandidate_mono {digest : String} {widths : List Nat}
    (included : used ⊆ larger) (free : id ∉ larger)
    (resolved : suffixedCandidate py candidate digest key used widths = .ok id) :
    suffixedCandidate py candidate digest key larger widths = .ok id := by
  induction widths with
  | nil => cases resolved
  | cons width rest inductionHypothesis =>
      rw [suffixedCandidate] at resolved ⊢
      obtain ⟨text, valid, chosen⟩ := bind_eq_ok.mp resolved
      rw [valid, ok_bind]
      by_cases unused : text ∈ used
      · rw [if_neg (not_not.mpr unused)] at chosen
        rw [if_neg (not_not.mpr (included unused))]
        exact inductionHypothesis chosen
      · rw [if_pos unused] at chosen
        cases chosen
        rw [if_pos free]

theorem deduplicateCandidate_mono (included : used ⊆ larger) (free : id ∉ larger)
    (resolved : deduplicateCandidate py candidate key used = .ok id) :
    deduplicateCandidate py candidate key larger = .ok id := by
  unfold deduplicateCandidate at resolved ⊢
  by_cases unused : candidate ∈ used
  · rw [if_neg (not_not.mpr unused)] at resolved
    rw [if_neg (not_not.mpr (included unused))]
    exact suffixedCandidate_mono included free resolved
  · rw [if_pos unused] at resolved
    cases resolved
    rw [if_pos free]

/-- Only whether the plain identity exists matters. -/
theorem candidateId_congr
    (same : count key.2 = 1 → (key.2 ∈ existing ↔ key.2 ∈ taken)) :
    candidateId py count existing key = candidateId py count taken key := by
  unfold candidateId
  by_cases single : count key.2 = 1
  · simp only [single, same single]
  · simp only [single, false_and, if_false]

/-! ## All identities -/

theorem allocate_cons
    (allocated : allocate py count existing used (key :: keys) = .ok allocation) :
    ∃ candidate id others, candidateId py count existing key = .ok candidate ∧
      deduplicateCandidate py candidate key used = .ok id ∧
      allocate py count existing (used ++ [id]) keys = .ok others ∧
      allocation = (key, id) :: others := by
  rw [allocate] at allocated
  obtain ⟨candidate, asked, rest⟩ := bind_eq_ok.mp allocated
  obtain ⟨id, resolved, rest⟩ := bind_eq_ok.mp rest
  obtain ⟨others, later, same⟩ := bind_eq_ok.mp rest
  cases same
  exact ⟨candidate, id, others, asked, resolved, later, rfl⟩

theorem allocate_keys
    (allocated : allocate py count existing used keys = .ok allocation) :
    allocation.map Prod.fst = keys := by
  induction keys generalizing used allocation with
  | nil =>
      cases allocated
      rfl
  | cons key rest inductionHypothesis =>
      obtain ⟨_, id, others, _, _, later, same⟩ := allocate_cons allocated
      rw [same, List.map_cons, inductionHypothesis later]

theorem allocate_notMem
    (allocated : allocate py count existing used keys = .ok allocation) :
    ∀ entry ∈ allocation, entry.2 ∉ used := by
  induction keys generalizing used allocation with
  | nil =>
      cases allocated
      intro entry impossible
      cases impossible
  | cons key rest inductionHypothesis =>
      obtain ⟨_, id, others, _, resolved, later, same⟩ := allocate_cons allocated
      rw [same]
      intro entry member
      rcases List.mem_cons.mp member with isFirst | inRest
      · rw [isFirst]
        exact deduplicateCandidate_notMem resolved
      · intro old
        exact inductionHypothesis later entry inRest (List.mem_append_left _ old)

theorem allocate_nodup
    (allocated : allocate py count existing used keys = .ok allocation) :
    (allocation.map Prod.snd).Nodup := by
  induction keys generalizing used allocation with
  | nil =>
      cases allocated
      exact List.nodup_nil
  | cons key rest inductionHypothesis =>
      obtain ⟨_, id, others, _, _, later, same⟩ := allocate_cons allocated
      rw [same, List.map_cons, List.nodup_cons]
      refine ⟨?_, inductionHypothesis later⟩
      intro member
      obtain ⟨entry, inOthers, equal⟩ := List.mem_map.mp member
      apply allocate_notMem later entry inOthers
      rw [equal]
      exact List.mem_append_right _ List.mem_cons_self

/-- When the identities of the other items exist already, the kept items get what
they got among all, unless a plain identity exists now that did not before. -/
theorem allocate_filter {kept : ItemKey → Bool}
    (allocated : allocate py count existing used keys = .ok allocation)
    (included : used ⊆ larger)
    (free : ∀ entry ∈ allocation, kept entry.1 = true → entry.2 ∉ larger)
    (gone : ∀ entry ∈ allocation, kept entry.1 = false → entry.2 ∈ larger)
    (plain : ∀ key ∈ keys, kept key = true → count key.2 = 1 →
      (key.2 ∈ existing ↔ key.2 ∈ taken)) :
    allocate py count taken larger (keys.filter kept) =
      .ok (allocation.filter fun entry => kept entry.1) := by
  induction keys generalizing used larger allocation with
  | nil =>
      cases allocated
      rfl
  | cons key rest inductionHypothesis =>
      obtain ⟨candidate, id, others, asked, resolved, later, same⟩ :=
        allocate_cons allocated
      rw [same] at free gone
      have here : (key, id) ∈ (key, id) :: others := List.mem_cons_self
      have plainRest : ∀ key ∈ rest, kept key = true → count key.2 = 1 →
          (key.2 ∈ existing ↔ key.2 ∈ taken) :=
        fun other member => plain other (List.mem_cons_of_mem _ member)
      rw [same]
      cases isKept : kept key with
      | true =>
          have unused := free _ here isKept
          have askedAgain : candidateId py count taken key = .ok candidate := by
            rw [← candidateId_congr (plain key List.mem_cons_self isKept)]
            exact asked
          have rest := inductionHypothesis later
            (by
              intro text member
              rcases List.mem_append.mp member with old | isNew
              · exact List.mem_append_left _ (included old)
              · exact List.mem_append_right _ isNew :
              used ++ [id] ⊆ larger ++ [id])
            (by
              intro entry member entryKept inLarger
              rcases List.mem_append.mp inLarger with old | isNew
              · exact free entry (List.mem_cons_of_mem _ member) entryKept old
              · apply allocate_notMem later entry member
                rw [List.mem_singleton.mp isNew]
                exact List.mem_append_right _ List.mem_cons_self)
            (by
              intro entry member entryGone
              exact List.mem_append_left _
                (gone entry (List.mem_cons_of_mem _ member) entryGone))
            plainRest
          simp only [List.filter_cons, isKept, if_true]
          rw [allocate, askedAgain, ok_bind,
            deduplicateCandidate_mono included unused resolved, ok_bind, rest, ok_bind]
      | false =>
          have taken := gone _ here isKept
          simp only [List.filter_cons, isKept, Bool.false_eq_true, if_false]
          apply inductionHypothesis later
          · intro text member
            rcases List.mem_append.mp member with old | isNew
            · exact included old
            · rw [List.mem_singleton.mp isNew]
              exact taken
          · exact fun entry member => free entry (List.mem_cons_of_mem _ member)
          · exact fun entry member => gone entry (List.mem_cons_of_mem _ member)
          · exact plainRest

end Execraft.Roadmaps
