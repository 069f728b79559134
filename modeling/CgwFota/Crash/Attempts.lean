import Mathlib.Tactic.Common

/-!
# Attempts to write

A write that was not confirmed may have taken place all the same. What a cell may hold follows from
the attempts to write it, newest first.

## Main definition

`MayHold`: the value of the newest attempt, or, where nobody confirmed that attempt, whatever the
cell may have held before it. The two lemmas are what a store needs of it: a further attempt keeps
the account, and a confirmed one settles it.
-/
namespace Crash

variable {ν : Type} {initial value value' written : ν} {confirmed : Bool}
  {attempts : List (ν × Bool)}

/-- The value of the newest attempt, or where that was not confirmed what was there before it. -/
def MayHold (initial : ν) : List (ν × Bool) → ν → Prop
  | [], value => value = initial
  | (written, confirmed) :: older, value =>
    value = written ∨ confirmed = false ∧ MayHold initial older value

/-- One more attempt: the cell holds what was written or, unconfirmed, still what it held. -/
theorem MayHold.attempt (holds : MayHold initial attempts value)
    (either : value' = written ∨ confirmed = false ∧ value' = value) :
    MayHold initial ((written, confirmed) :: attempts) value' := by
  rcases either with same | ⟨open_, same⟩
  · exact .inl same
  · exact .inr ⟨open_, same ▸ holds⟩

/-- A confirmed write hides everything before it. -/
theorem MayHold.of_confirmed (holds : MayHold initial ((written, true) :: attempts) value) :
    value = written := by
  -- The second case of the account needs an attempt that was not confirmed.
  rcases holds with same | ⟨open_, -⟩
  · exact same
  · cases open_

end Crash
