import Mathlib.Tactic.Common

/-!
# Safety properties of traces

A trace lists what was observed, newest entry first. A safety property says of every entry how it
relates to the entries before it.

## Main definition

`Always`: every entry satisfies the property relative to its past. It is a recursion over the list,
so that a property of a concrete trace can be decided, and `always_iff` gives its meaning without
the recursion. The other lemmas are the rules of use: what a longer trace adds, what a shorter one
keeps, and how properties are weakened and combined.
-/
namespace Crash

variable {α : Type}

/-- Every entry satisfies `P` relative to its past. -/
def Always (P : α → List α → Prop) : List α → Prop
  | [] => True
  | a :: past => P a past ∧ Always P past

variable {P Q : α → List α → Prop}

@[simp] theorem always_nil : Always P [] := trivial

@[simp] theorem always_cons {a : α} {past : List α} :
    Always P (a :: past) ↔ P a past ∧ Always P past := Iff.rfl

theorem Always.of_append {new old : List α} (h : Always P (new ++ old)) : Always P old := by
  induction new with
  | nil => exact h
  | cons a new ih => exact ih h.2

/-- A trace that grows keeps a property if each new entry satisfies it on top of any new entries
before it and the whole of the old trace. -/
theorem Always.append {new old : List α} (h : Always P old)
    (fresh : ∀ a ∈ new, ∀ before, (∀ b ∈ before, b ∈ new) → P a (before ++ old)) :
    Always P (new ++ old) := by
  induction new with
  | nil => exact h
  | cons a new ih =>
    refine ⟨fresh a (by simp) new fun b member => by simp [member],
      ih fun b member before sub => ?_⟩
    -- The entries before `b` are new as well, so the premise covers them.
    exact fresh b (by simp [member]) before fun b member => by simp [sub b member]

theorem Always.mono {t : List α} (h : Always P t) (imp : ∀ a past, P a past → Q a past) :
    Always Q t := by
  induction t with
  | nil => trivial
  | cons a past ih => exact ⟨imp a past h.1, ih h.2⟩

theorem Always.and {t : List α} (h : Always P t) (h' : Always Q t) :
    Always (fun a past => P a past ∧ Q a past) t := by
  induction t with
  | nil => trivial
  | cons a past ih => exact ⟨⟨h.1, h'.1⟩, ih h.2 h'.2⟩

/-- Every entry of the trace has some past relative to which it satisfies the property. -/
theorem Always.of_mem {t : List α} (h : Always P t) {a : α} (member : a ∈ t) :
    ∃ past, P a past := by
  induction t with
  | nil => cases member
  | cons b past ih =>
    rcases List.mem_cons.mp member with rfl | member
    · exact ⟨past, h.1⟩
    · exact ih h.2 member

/-- `Always` speaks about each split of the trace at one entry. -/
theorem always_iff {t : List α} :
    Always P t ↔ ∀ later a past, t = later ++ a :: past → P a past := by
  constructor
  · rintro h later a past rfl
    exact h.of_append.1
  · intro h
    induction t with
    | nil => trivial
    | cons a past ih =>
      exact ⟨h [] a past rfl, ih fun later b rest split => h (a :: later) b rest (by simp [split])⟩

instance decidableAlways [∀ a past, Decidable (P a past)] : ∀ t, Decidable (Always P t)
  | [] => inferInstanceAs (Decidable True)
  | a :: past =>
    have : Decidable (Always P past) := decidableAlways past
    inferInstanceAs (Decidable (P a past ∧ Always P past))

end Crash
