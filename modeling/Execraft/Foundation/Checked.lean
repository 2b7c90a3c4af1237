import Execraft.Foundation.Outcome

/-!
# Checked values

A check turns raw input into a value or fails, and accepts what it returned
again unchanged.  The values that it lets pass form a type, so that a record made
of them cannot hold anything else.
-/

namespace Foundation

variable {Raw Value Failure Other : Type}

/-- A check whose results pass it again unchanged. -/
structure Check (Raw Value Failure : Type) where
  run : Raw → Except Failure Value
  /-- A value as raw input. -/
  embed : Value → Raw
  settled : ∀ raw value, run raw = .ok value → run (embed value) = .ok value

/-- A value that passes the check unchanged. -/
structure Checked (check : Check Raw Value Failure) where
  value : Value
  passes : check.run (check.embed value) = .ok value

namespace Check

variable (check : Check Raw Value Failure)

/-- The check with its result in the checked type. -/
def read (raw : Raw) : Except Failure (Checked check) :=
  match passed : check.run raw with
  | .ok value => .ok ⟨value, check.settled raw value passed⟩
  | .error failure => .error failure

variable {check}

theorem read_eq_ok {raw : Raw} {checked : Checked check} :
    check.read raw = .ok checked ↔ check.run raw = .ok checked.value := by
  obtain ⟨value, passes⟩ := checked
  unfold read
  split
  · rename_i other passed
    constructor
    · intro same
      cases same
      exact passed
    · intro same
      cases passed.symm.trans same
      rfl
  · rename_i failure failed
    constructor
    · intro same
      cases same
    · intro same
      cases failed.symm.trans same

/-- A checked value is read back as itself. -/
@[simp]
theorem read_embed (checked : Checked check) :
    check.read (check.embed checked.value) = .ok checked :=
  read_eq_ok.mpr checked.passes

end Check

theorem Checked.ext {check : Check Raw Value Failure} {left right : Checked check}
    (same : left.value = right.value) : left = right := by
  cases left
  cases right
  cases same
  rfl

instance {check : Check Raw Value Failure} [DecidableEq Value] :
    DecidableEq (Checked check) := fun left right =>
  decidable_of_iff (left.value = right.value)
    ⟨Checked.ext, fun same => congrArg Checked.value same⟩

end Foundation
