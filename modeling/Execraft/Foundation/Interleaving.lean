import Execraft.Foundation.Program
import Mathlib.Logic.Function.Basic
import Mathlib.Logic.Relation

/-!
# Interleaved programs

Any number of callers run their programs against one world; each turn performs one
effect of one caller.  A protocol assigns every caller a role that its effects
change, and an invariant relates the world to all roles.
-/

namespace Foundation

namespace Program

variable {Effect : Type} {Reply : Effect → Type} {Failure Value Other World : Type}
variable {Caller Role : Type}

/-! ## Protocols -/

/-- What an effect and its reply make of the role of a caller; forbidden effects
have no next role. -/
abbrev Protocol (Effect : Type) (Reply : Effect → Type) (Role : Type) :=
  Role → (effect : Effect) → Reply effect → Option Role

/-- The program keeps to the protocol as long as its effects are answered as
`answers` says, and returns in a role that satisfies `returns`. -/
def Obeys (protocol : Protocol Effect Reply Role)
    (answers : (effect : Effect) → Reply effect → Prop) :
    Role → Program Effect Reply Failure Value → (Value → Role → Prop) → Prop
  | role, .pure value, returns => returns value role
  | _, .raise _, _ => True
  | role, .perform effect next, returns =>
      ∀ reply, answers effect reply →
        ∃ later, protocol role effect reply = some later ∧
          Obeys protocol answers later (next reply) returns

section Obeys

variable {protocol : Protocol Effect Reply Role}
variable {answers : (effect : Effect) → Reply effect → Prop} {role : Role}

theorem obeys_pure {value : Value} {returns : Value → Role → Prop}
    (holds : returns value role) :
    Obeys protocol answers role
      (pure value : Program Effect Reply Failure Value) returns :=
  holds

theorem obeys_raise {failure : Failure} {returns : Value → Role → Prop} :
    Obeys protocol answers role
      (Program.raise failure : Program Effect Reply Failure Value) returns :=
  trivial

theorem obeys_request {effect : Effect} {returns : Reply effect → Role → Prop}
    (replies : ∀ reply, answers effect reply →
      ∃ later, protocol role effect reply = some later ∧ returns reply later) :
    Obeys protocol answers role
      (request effect : Program Effect Reply Failure (Reply effect)) returns := by
  intro reply answered
  exact replies reply answered

theorem obeys_bind {program : Program Effect Reply Failure Value}
    {next : Value → Program Effect Reply Failure Other} {returns : Other → Role → Prop}
    (first : Obeys protocol answers role program fun value later =>
      Obeys protocol answers later (next value) returns) :
    Obeys protocol answers role (program >>= next) returns := by
  induction program generalizing role with
  | pure value => exact first
  | raise failure => trivial
  | perform effect rest inductionHypothesis =>
      intro reply answered
      obtain ⟨later, moved, continues⟩ := first reply answered
      exact ⟨later, moved, inductionHypothesis reply continues⟩

theorem Obeys.mono {program : Program Effect Reply Failure Value}
    {returns weaker : Value → Role → Prop}
    (obeys : Obeys protocol answers role program returns)
    (weaken : ∀ value later, returns value later → weaker value later) :
    Obeys protocol answers role program weaker := by
  induction program generalizing role with
  | pure value => exact weaken value role obeys
  | raise failure => trivial
  | perform effect rest inductionHypothesis =>
      intro reply answered
      obtain ⟨later, moved, continues⟩ := obeys reply answered
      exact ⟨later, moved, inductionHypothesis reply continues⟩

theorem obeys_ofOutcome {outcome : Except Failure Value}
    {returns : Value → Role → Prop}
    (holds : ∀ value, outcome = .ok value → returns value role) :
    Obeys protocol answers role
      (ofOutcome outcome : Program Effect Reply Failure Value) returns := by
  cases outcome with
  | ok value => exact holds value rfl
  | error failure => trivial

/-- Effects that keep the role keep to the protocol. -/
theorem obeys_of_performs {allowed : Effect → Prop}
    (idle : ∀ effect reply, allowed effect → protocol role effect reply = some role)
    {program : Program Effect Reply Failure Value}
    (performs : program.Performs allowed) :
    Obeys protocol answers role program fun _ later => later = role := by
  induction program with
  | pure value => exact rfl
  | raise failure => trivial
  | perform effect rest inductionHypothesis =>
      intro reply _
      exact ⟨role, idle effect reply performs.1,
        inductionHypothesis reply (performs.2 reply)⟩

end Obeys

/-! ## Turns -/

/-- The world and what each caller still has to run. -/
structure Configuration (Effect : Type) (Reply : Effect → Type)
    (Failure Value World Caller : Type) where
  world : World
  programs : Caller → Program Effect Reply Failure Value

section Turns

variable [DecidableEq Caller]
variable {step : World → (effect : Effect) → Reply effect → World → Prop}

/-- One caller performs its next effect, in a world where `guard` lets it. -/
inductive Turn (step : World → (effect : Effect) → Reply effect → World → Prop)
    (guard : World → Effect → Prop) :
    Configuration Effect Reply Failure Value World Caller →
      Configuration Effect Reply Failure Value World Caller → Prop where
  | perform {world after : World}
      {programs : Caller → Program Effect Reply Failure Value} {caller : Caller}
      {effect : Effect} {reply : Reply effect}
      {next : Reply effect → Program Effect Reply Failure Value} :
      programs caller = .perform effect next → guard world effect →
        step world effect reply after →
          Turn step guard ⟨world, programs⟩
            ⟨after, Function.update programs caller (next reply)⟩

/-- The configurations that turns lead to. -/
abbrev Turns (step : World → (effect : Effect) → Reply effect → World → Prop)
    (guard : World → Effect → Prop) :
    Configuration Effect Reply Failure Value World Caller →
      Configuration Effect Reply Failure Value World Caller → Prop :=
  Relation.ReflTransGen (Turn step guard)

variable {guard : World → Effect → Prop}
variable {protocol : Protocol Effect Reply Role}
variable {answers : (effect : Effect) → Reply effect → Prop}

/-- An invariant of the world and all roles that every permitted effect keeps
holds in every configuration that callers who obey the protocol reach. -/
theorem Turns.invariant (invariant : World → (Caller → Role) → Prop)
    (kept : ∀ world roles caller effect reply after later, invariant world roles →
      guard world effect → step world effect reply after →
        protocol (roles caller) effect reply = some later →
          invariant after (Function.update roles caller later))
    (answered : ∀ world roles effect reply after, invariant world roles →
      step world effect reply after → answers effect reply)
    {start final : Configuration Effect Reply Failure Value World Caller}
    {roles : Caller → Role} (initial : invariant start.world roles)
    (obeys : ∀ caller, Obeys protocol answers (roles caller) (start.programs caller)
      fun _ _ => True)
    (turns : Turns step guard start final) :
    ∃ later, invariant final.world later := by
  have general : ∃ later, invariant final.world later ∧
      ∀ caller, Obeys protocol answers (later caller) (final.programs caller)
        fun _ _ => True := by
    induction turns with
    | refl => exact ⟨roles, initial, obeys⟩
    | tail _ turn inductionHypothesis =>
        obtain ⟨current, holds, following⟩ := inductionHypothesis
        cases turn with
        | @perform world after programs caller effect reply next present allowed
            performed =>
            have atCaller : Obeys protocol answers (current caller) (programs caller)
                fun _ _ => True := following caller
            rw [present] at atCaller
            obtain ⟨later, moved, continues⟩ :=
              atCaller reply (answered _ _ _ _ _ holds performed)
            refine ⟨Function.update current caller later,
              kept _ _ _ _ _ _ _ holds allowed performed moved, ?_⟩
            intro other
            by_cases same : other = caller
            · dsimp only
              rw [same, Function.update_self, Function.update_self]
              exact continues
            · dsimp only
              rw [Function.update_of_ne same, Function.update_of_ne same]
              exact following other
  obtain ⟨later, holds, _⟩ := general
  exact ⟨later, holds⟩

/-! ## Schedules -/

/-- The configuration after the callers of a schedule took their turns in a world
that a function describes, if `guard` lets them; a caller that has finished stands
still. -/
def follow (handle : World → (effect : Effect) → Reply effect × World)
    (guard : World → Effect → Prop) [∀ world effect, Decidable (guard world effect)] :
    List Caller → Configuration Effect Reply Failure Value World Caller →
      Option (Configuration Effect Reply Failure Value World Caller)
  | [], configuration => some configuration
  | caller :: schedule, configuration =>
      match configuration.programs caller with
      | .pure _ => follow handle guard schedule configuration
      | .raise _ => follow handle guard schedule configuration
      | .perform effect next =>
          if guard configuration.world effect then
            follow handle guard schedule
              ⟨(handle configuration.world effect).2,
                Function.update configuration.programs caller
                  (next (handle configuration.world effect).1)⟩
          else none

section Follow

variable {handle : World → (effect : Effect) → Reply effect × World}
variable [∀ world effect, Decidable (guard world effect)] {schedule : List Caller}
variable {world after : World}
variable {programs : Caller → Program Effect Reply Failure Value} {caller : Caller}
variable {effect : Effect} {reply : Reply effect}
variable {next : Reply effect → Program Effect Reply Failure Value}

/-- The next turn of a schedule, for a caller in front of an effect. -/
theorem follow_turn (present : programs caller = .perform effect next)
    (permitted : guard world effect) (answered : handle world effect = (reply, after)) :
    follow handle guard (caller :: schedule) ⟨world, programs⟩ =
      follow handle guard schedule
        ⟨after, Function.update programs caller (next reply)⟩ := by
  rw [follow]
  split
  · rename_i value finished
    cases present.symm.trans finished
  · rename_i failure finished
    cases present.symm.trans finished
  · rename_i other rest standing
    cases present.symm.trans standing
    rw [if_pos permitted, answered]

/-- The turn after it, when the caller goes on alone. -/
theorem follow_update {program : Program Effect Reply Failure Value}
    (shape : program = .perform effect next) (permitted : guard world effect)
    (answered : handle world effect = (reply, after)) :
    follow handle guard (caller :: schedule)
        ⟨world, Function.update programs caller program⟩ =
      follow handle guard schedule
        ⟨after, Function.update programs caller (next reply)⟩ := by
  rw [follow_turn ((Function.update_self caller program programs).trans shape) permitted
    answered, Function.update_idem]

end Follow

theorem turns_follow {handle : World → (effect : Effect) → Reply effect × World}
    (handles : ∀ world effect,
      step world effect (handle world effect).1 (handle world effect).2)
    [∀ world effect, Decidable (guard world effect)] {schedule : List Caller}
    {start final : Configuration Effect Reply Failure Value World Caller}
    (followed : follow handle guard schedule start = some final) :
    Turns step guard start final := by
  induction schedule generalizing start with
  | nil =>
      cases followed
      exact Relation.ReflTransGen.refl
  | cons caller schedule inductionHypothesis =>
      obtain ⟨world, programs⟩ := start
      rw [follow] at followed
      split at followed
      · exact inductionHypothesis followed
      · exact inductionHypothesis followed
      · rename_i effect next present
        by_cases permitted : guard world effect
        · rw [if_pos permitted] at followed
          exact Relation.ReflTransGen.head
            (Turn.perform present permitted (handles world effect))
            (inductionHypothesis followed)
        · rw [if_neg permitted] at followed
          cases followed

end Turns

end Program

end Foundation
