import Mathlib.Tactic.Common

/-!
# Tables keyed by their own entries

Every entry of the table sits under the key it carries, so an entry can only be replaced by another
one with the same key.

## Main definitions

* `Keyed`: a table, with the proof that its entries sit under their own keys
* `Keyed.insert`: the only way to add an entry; the key is not an argument
-/

/-- A table whose entries carry their keys. -/
structure Keyed {κ α : Type} (key : α → κ) where
  get : κ → Option α
  keyed : ∀ k a, get k = some a → key a = k

namespace Keyed

variable {κ α : Type} {key : α → κ}

protected def empty : Keyed key := ⟨fun _ => none, by simp⟩

instance : Inhabited (Keyed key) := ⟨Keyed.empty⟩

@[simp] theorem get_empty (k : κ) : (Keyed.empty : Keyed key).get k = none := rfl

/-- Two tables with the same entries are equal; the proofs about the keys play no part. -/
@[ext] theorem ext {t u : Keyed key} (h : ∀ k, t.get k = u.get k) : t = u := by
  cases t; cases u
  simp only [mk.injEq]
  funext k
  exact h k

section Insert

variable [DecidableEq κ]

/-- Store `a` under its own key. -/
def insert (t : Keyed key) (a : α) : Keyed key where
  get k := if key a = k then some a else t.get k
  keyed k b h := by
    split at h
    next same => cases h; exact same
    next => exact t.keyed k b h

theorem get_insert (t : Keyed key) (a : α) (k : κ) :
    (t.insert a).get k = if key a = k then some a else t.get k := rfl

@[simp] theorem get_insert_self (t : Keyed key) (a : α) : (t.insert a).get (key a) = some a := by
  simp [get_insert]

theorem get_insert_ne (t : Keyed key) (a : α) {k : κ} (other : key a ≠ k) :
    (t.insert a).get k = t.get k := by
  simp [get_insert, other]

end Insert

end Keyed
