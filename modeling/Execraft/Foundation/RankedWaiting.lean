import Mathlib.Data.List.MinMax
import Mathlib.Order.Basic

/-!
# Waiting along a rank

Agents wait for one another.  When whoever blocks a waiting agent and waits too waits at a
higher rank, some waiting agent is blocked by nobody who waits.  Steps that use up a finite
amount of work come to an end.
-/

namespace Foundation

section Waiting

variable {Agent Rank : Type} [LinearOrder Rank] {agents : List Agent}
  {waits : Agent → Prop} [DecidablePred waits] {rank : Agent → Rank}
  {blocks : Agent → Agent → Prop}

/-- A waiting agent of the highest rank is blocked by nobody who waits. -/
theorem exists_last_waiting (some : ∃ agent ∈ agents, waits agent)
    (upward : ∀ agent ∈ agents, waits agent → ∀ other ∈ agents, blocks other agent →
      waits other → rank agent < rank other) :
    ∃ agent ∈ agents, waits agent ∧ ∀ other ∈ agents, blocks other agent → ¬waits other := by
  obtain ⟨first, isAgent, isWaiting⟩ := some
  have nonempty : agents.filter waits ≠ [] :=
    List.ne_nil_of_mem (List.mem_filter.mpr ⟨isAgent, decide_eq_true isWaiting⟩)
  cases best : (agents.filter waits).argmax rank with
  | none => exact absurd (List.argmax_eq_none.mp best) nonempty
  | some last =>
      have member := List.argmax_mem (Option.mem_def.mpr best)
      rw [List.mem_filter, decide_eq_true_iff] at member
      refine ⟨last, member.1, member.2, fun other isOther blocking otherWaits => ?_⟩
      have higher := upward last member.1 member.2 other isOther blocking otherWaits
      have listed : other ∈ agents.filter waits :=
        List.mem_filter.mpr ⟨isOther, decide_eq_true otherWaits⟩
      exact absurd higher (not_lt.mpr (List.le_of_mem_argmax listed (Option.mem_def.mpr best)))

end Waiting

section Work

variable {State : Type} {moves : State → State → Prop} {holds : State → Prop}
  {work : State → Nat}

/-- What holds at the start and is kept by every step holds all along a run. -/
theorem chain_keeps (keeps : ∀ before after, holds before → moves before after → holds after)
    {start : State} {states : List State} (initial : holds start)
    (run : List.IsChain moves (start :: states)) : ∀ state ∈ start :: states, holds state := by
  induction states generalizing start with
  | nil =>
      intro state member
      rw [List.mem_singleton.mp member]
      exact initial
  | cons next rest inductionHypothesis =>
      obtain ⟨move, further⟩ := List.isChain_cons_cons.mp run
      exact List.forall_mem_cons.mpr
        ⟨initial, inductionHypothesis (keeps start next initial move) further⟩

/-- A run has at most as many steps as there is work. -/
theorem length_le_work (keeps : ∀ before after, holds before → moves before after → holds after)
    (uses : ∀ before after, holds before → moves before after → work after < work before)
    {start : State} {states : List State} (initial : holds start)
    (run : List.IsChain moves (start :: states)) : states.length ≤ work start := by
  induction states generalizing start with
  | nil => exact Nat.zero_le _
  | cons next rest inductionHypothesis =>
      obtain ⟨move, further⟩ := List.isChain_cons_cons.mp run
      have shorter := inductionHypothesis (keeps start next initial move) further
      have less := uses start next initial move
      rw [List.length_cons]
      omega

/-- A condition that lasts until a goal is met, and does not last to the end of a run, leads
to the goal. -/
theorem exists_goal {lasts goal : State → Prop}
    (moving : ∀ before after, lasts before → moves before after → lasts after ∨ goal after)
    {start : State} {states : List State} (initial : lasts start)
    (run : List.IsChain moves (start :: states))
    (ended : ¬lasts ((start :: states).getLast (List.cons_ne_nil _ _))) :
    ∃ state ∈ states, goal state := by
  induction states generalizing start with
  | nil => exact absurd initial ended
  | cons next rest inductionHypothesis =>
      obtain ⟨move, further⟩ := List.isChain_cons_cons.mp run
      rcases moving start next initial move with still | reached
      · rw [List.getLast_cons (List.cons_ne_nil _ _)] at ended
        obtain ⟨state, member, met⟩ := inductionHypothesis still further ended
        exact ⟨state, List.mem_cons_of_mem _ member, met⟩
      · exact ⟨next, List.mem_cons_self .., reached⟩

end Work

end Foundation
