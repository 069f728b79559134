import Mathlib.Algebra.Group.Nat.Defs
import Mathlib.Tactic.Common

/-!
# Little-endian numbers

A number that is stored in a fixed number of bytes, the least significant one first.

## Main results

* `value_lt`: what a field of a given width can hold
* `Spells.unique`: a number has one spelling in a field
-/
namespace CgwFota.LittleEndian

/-- The number that some bytes spell. -/
def value : List UInt8 → Nat
  | [] => 0
  | byte :: rest => byte.toNat + 256 * value rest

/-- The bytes of `n` in a field of this width. -/
structure Spells (width n : Nat) (bytes : List UInt8) : Prop where
  length : bytes.length = width
  value : value bytes = n

theorem value_lt (bytes : List UInt8) : value bytes < 256 ^ bytes.length := by
  induction bytes with
  | nil => decide
  | cons byte rest ih =>
    have digit := byte.toNat_lt
    rw [value, List.length_cons, Nat.pow_succ]
    omega

/-- Fields of one width spell different numbers. -/
theorem value_injective {bytes bytes' : List UInt8} (width : bytes.length = bytes'.length)
    (same : value bytes = value bytes') : bytes = bytes' := by
  induction bytes generalizing bytes' with
  | nil => exact (List.length_eq_zero_iff.mp width.symm).symm
  | cons byte rest ih =>
    cases bytes' with
    | nil => cases width
    | cons byte' rest' =>
      have digit := byte.toNat_lt
      have digit' := byte'.toNat_lt
      rw [value, value] at same
      -- the last digit is the remainder, the others are the quotient
      have first : byte.toNat = byte'.toNat := by omega
      have others : value rest = value rest' := by omega
      rw [UInt8.toNat_inj.mp first, ih (Nat.succ.inj width) others]

theorem Spells.unique {width n : Nat} {bytes bytes' : List UInt8} (here : Spells width n bytes)
    (there : Spells width n bytes') : bytes = bytes' :=
  value_injective (here.length.trans there.length.symm) (here.value.trans there.value.symm)

end CgwFota.LittleEndian
