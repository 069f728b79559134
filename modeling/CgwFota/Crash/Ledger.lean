import Mathlib.Order.UpperLower.Principal

/-!
# Handing out numbers once

The spent numbers form a lower set that only grows, whatever is lost on the way. A number is handed
out when it was not spent before and is spent afterwards; then no number is handed out twice and
each is larger than all before it.

## Main definition

`Issued`: the numbers handed out so far are strictly decreasing, newest first, and all spent. The
order is linear, so that a number outside a lower set lies above the whole of it; that is the only
fact about numbers that is used.
-/
namespace Crash

variable {α : Type} [LinearOrder α]

/-- The numbers handed out so far, newest first. -/
structure Issued (spent : LowerSet α) (numbers : List α) : Prop where
  decreasing : numbers.Pairwise (· > ·)
  covered : ∀ n ∈ numbers, n ∈ spent

variable {spent spent' : LowerSet α} {numbers : List α} {n : α}

theorem Issued.nil (spent : LowerSet α) : Issued spent [] := ⟨.nil, by simp⟩

theorem Issued.grow (issued : Issued spent numbers) (grows : spent ≤ spent') :
    Issued spent' numbers :=
  ⟨issued.decreasing, fun n member => grows (issued.covered n member)⟩

/-- Everything spent lies below a number that is not. -/
theorem lt_of_fresh {m : α} (old : m ∈ spent) (fresh : n ∉ spent) : m < n := by
  by_contra above
  exact fresh (spent.lower (not_lt.mp above) old)

/-- A fresh number that is spent from now on is the next one to be handed out. -/
theorem Issued.issue (issued : Issued spent numbers) (grows : spent ≤ spent')
    (fresh : n ∉ spent) (now : n ∈ spent') : Issued spent' (n :: numbers) := by
  constructor
  · apply List.Pairwise.cons _ issued.decreasing
    intro m member
    exact lt_of_fresh (issued.covered m member) fresh
  -- What was handed out earlier stays spent because the set grows.
  · intro m member
    rcases List.mem_cons.mp member with rfl | member
    · exact now
    · exact grows (issued.covered m member)

end Crash
