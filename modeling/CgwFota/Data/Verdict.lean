import Mathlib.Data.List.Basic

/-!
# Chains of checks

A computation that may fail at several places, and otherwise has a value that does not depend on
them: the outcome is the first of the errors, or the value where there is none.

## Main results

* `bind_eq`: chains of checks compose to chains of checks
* `ok_iff`: the value is returned exactly if no check fails
* `error_iff`: an error is returned exactly if it is the first one

## Proof strategy

A function written as a sequence of checks is rewritten into a `verdict` once, check by check with
`bind_eq`; `ok_iff` and `error_iff` then say all of it.
-/

universe u

/-- The first of the errors, or the value. -/
def verdict {ε α : Type u} (errors : List (Option ε)) (value : α) : Except ε α :=
  match errors.findSome? id with
  | some e => .error e
  | none => .ok value

namespace Verdict

variable {ε α β : Type u} {errors more : List (Option ε)} {value : α} {result : β}

theorem pure_eq : (pure value : Except ε α) = verdict [] value := rfl

/-- Chains are put after one another. -/
theorem bind_eq {r : Except ε α} {f : α → Except ε β} (first : r = verdict errors value)
    (rest : f value = verdict more result) : (r >>= f) = verdict (errors ++ more) result := by
  subst first
  unfold verdict at *
  rw [List.findSome?_append]
  cases errors.findSome? id with
  | none => exact rest
  | some e => rfl

/-- A value is returned if and only if no check found an error, and then it is the one given. -/
theorem ok_iff {other : α} :
    verdict errors value = .ok other ↔ (∀ e ∈ errors, e = none) ∧ value = other := by
  unfold verdict
  cases first : errors.findSome? id with
  | none => simpa using fun _ => List.findSome?_eq_none_iff.mp first
  | some e =>
    obtain ⟨a, member, same⟩ := List.exists_of_findSome?_eq_some first
    constructor
    · intro impossible
      cases impossible
    -- a value was promised, so no check may have found this error
    · rintro ⟨none, -⟩
      rw [none a member] at same
      cases same

/-- An error is returned if and only if it was found and no check before it found one. -/
theorem error_iff {e : ε} :
    verdict errors value = .error e ↔
      ∃ before after, errors = before ++ some e :: after ∧ ∀ b ∈ before, b = none := by
  unfold verdict
  cases first : errors.findSome? id with
  | none =>
    constructor
    · intro impossible
      cases impossible
    · rintro ⟨before, after, rfl, -⟩
      cases List.findSome?_eq_none_iff.mp first (some e) (by simp)
  | some other =>
    obtain ⟨before, found, after, split, same, passed⟩ := List.findSome?_eq_some_iff.mp first
    constructor
    · intro same'
      cases same'
      exact ⟨before, after, by rw [split]; exact congrArg _ (congrArg (· :: after) same), passed⟩
    · rintro ⟨before', after', split', passed'⟩
      -- the first error is at one place only
      have again : errors.findSome? id = some e :=
        List.findSome?_eq_some_iff.mpr ⟨before', some e, after', split', rfl, passed'⟩
      rw [first] at again
      cases again
      rfl

end Verdict
