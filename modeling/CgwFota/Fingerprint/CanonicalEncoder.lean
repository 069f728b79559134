import CgwFota.Data.Delimited
import CgwFota.Inventory.Envelope

/-!
# The canonical encoder

A record is its domain, the number of its fields and the fields, each with its length. A string is
the sequence of its bytes here, whatever they are.

## Main definitions

* `CanonicalEncoder`: the buffer, the place left for the number of fields, and that number
* `Holds`: the encoder has these fields so far
* `stringField`, `optionalStringField`, `enumField`, `listField`: what the fields are made of

## Main results

* `Holds.writeStringField` and its siblings, `Holds.finalize`: what the encoder writes
* `selfDelimiting_stringField` and its siblings: a field tells where it ends

## Proof strategy

Every write is `writeField`, so one lemma about it gives the bytes of a record as its header and its
fields one behind the other. That the fields can be told apart is then a matter of these bytes, and
the general rules on codes that end by themselves apply.
-/
namespace CgwFota.Fingerprint

open Delimited
open Inventory (Bytes putU32Le getU32Le)

/-! ### Integers -/

def putU16Be (v : UInt16) : Bytes := [((v >>> 8) &&& 0xFF).toUInt8, (v &&& 0xFF).toUInt8]

def putU32Be (v : UInt32) : Bytes :=
  [ ((v >>> 24) &&& 0xFF).toUInt8,
    ((v >>> 16) &&& 0xFF).toUInt8,
    ((v >>> 8) &&& 0xFF).toUInt8,
    (v &&& 0xFF).toUInt8 ]

@[simp] theorem length_putU32Be (v : UInt32) : (putU32Be v).length = 4 := rfl

theorem putU32Be_injective {v w : UInt32} (same : putU32Be v = putU32Be w) : v = w := by
  have reversed : putU32Le v = putU32Le w := congrArg List.reverse same
  rw [← Inventory.getU32Le_putU32Le v [], reversed, Inventory.getU32Le_putU32Le]

/-- A length as it is written. -/
def size (n : Nat) : Bytes := putU32Be (UInt32.ofNat n)

/-- Lengths below four gigabytes are told apart by the bytes they are written with. -/
theorem selfDelimiting_size : SelfDelimiting (· < 2 ^ 32) size := by
  refine .of_length (fun n _ => length_putU32Be _) fun m n small small' same => ?_
  have equal := congrArg UInt32.toNat (putU32Be_injective same)
  rw [UInt32.toNat_ofNat', UInt32.toNat_ofNat'] at equal
  rw [← Nat.mod_eq_of_lt small, ← Nat.mod_eq_of_lt small']
  exact equal

/-! ### The encoder -/

inductive FieldState where
  | Missing | Null | Present
  deriving DecidableEq, Repr

def FieldState.code : FieldState → UInt8
  | Missing => 0
  | Null => 1
  | Present => 2

structure CanonicalEncoder where
  buf : Bytes
  fieldCountPos : Nat
  fieldCount : UInt32 := 0

namespace CanonicalEncoder

/-- The number of fields is filled in by `finalize`. -/
def new (domain : Bytes) : CanonicalEncoder :=
  let buf := size domain.length ++ domain
  { buf := buf ++ putU32Be 0, fieldCountPos := buf.length }

/-- A field header and what follows it. -/
def writeField (fieldId : UInt16) (state : FieldState) (length : UInt32) (bytes : Bytes)
    (enc : CanonicalEncoder) : CanonicalEncoder :=
  { enc with
    buf := enc.buf ++ (putU16Be fieldId ++ [state.code] ++ putU32Be length ++ bytes)
    fieldCount := enc.fieldCount + 1 }

def writeStringField (fieldId : UInt16) (value : Bytes) : CanonicalEncoder → CanonicalEncoder :=
  writeField fieldId .Present (UInt32.ofNat value.length) value

def writeOptionalStringField (fieldId : UInt16) :
    Option Bytes → CanonicalEncoder → CanonicalEncoder
  | none => writeField fieldId .Missing 0 []
  | some value => writeField fieldId .Present (UInt32.ofNat value.length) value

def writeEnumField (fieldId : UInt16) (code : UInt32) : CanonicalEncoder → CanonicalEncoder :=
  writeField fieldId .Present 4 (putU32Be code)

def writeBytesField (fieldId : UInt16) (data : Bytes) : CanonicalEncoder → CanonicalEncoder :=
  writeField fieldId .Present (UInt32.ofNat data.length) data

def writeListField (fieldId : UInt16) (itemBytes : List Bytes) :
    CanonicalEncoder → CanonicalEncoder :=
  let totalLen := itemBytes.foldl (fun total item => total + UInt32.ofNat item.length) 4
  writeField fieldId .Present totalLen (size itemBytes.length ++ itemBytes.flatten)

def finalize (enc : CanonicalEncoder) : Bytes :=
  let pos := enc.fieldCountPos
  let fc := enc.fieldCount
  (((enc.buf.set pos ((fc >>> 24) &&& 0xFF).toUInt8).set (pos + 1)
    ((fc >>> 16) &&& 0xFF).toUInt8).set
    (pos + 2) ((fc >>> 8) &&& 0xFF).toUInt8).set (pos + 3) (fc &&& 0xFF).toUInt8

/-! ### What the encoder writes -/

/-- The beginning of a record. -/
def header (domain : Bytes) : Bytes := size domain.length ++ domain

/-- The encoder has these fields so far. -/
structure Holds (domain : Bytes) (count : UInt32) (fields : Bytes) (enc : CanonicalEncoder) :
    Prop where
  buf : enc.buf = header domain ++ putU32Be 0 ++ fields
  fieldCountPos : enc.fieldCountPos = (header domain).length
  fieldCount : enc.fieldCount = count

def field (fieldId : UInt16) (state : FieldState) (length : UInt32) (bytes : Bytes) : Bytes :=
  putU16Be fieldId ++ [state.code] ++ putU32Be length ++ bytes

variable {domain fields : Bytes} {count : UInt32} {enc : CanonicalEncoder}

theorem holds_new (domain : Bytes) : Holds domain 0 [] (new domain) :=
  ⟨by simp [new, header], rfl, rfl⟩

/-- A field goes behind the ones that are there, and is counted. -/
theorem Holds.writeField (holds : Holds domain count fields enc) (fieldId : UInt16)
    (state : FieldState) (length : UInt32) (bytes : Bytes) :
    Holds domain (count + 1) (fields ++ field fieldId state length bytes)
      (enc.writeField fieldId state length bytes) := by
  constructor
  · show enc.buf ++ field fieldId state length bytes = _
    rw [holds.buf, List.append_assoc]
  · exact holds.fieldCountPos
  · show enc.fieldCount + 1 = count + 1
    rw [holds.fieldCount]

/-- The number of fields takes the place that was left for it. -/
theorem Holds.finalize (holds : Holds domain count fields enc) :
    enc.finalize = header domain ++ putU32Be count ++ fields := by
  unfold CanonicalEncoder.finalize
  dsimp only
  rw [holds.buf, holds.fieldCountPos, holds.fieldCount]
  generalize header domain = front
  have zero : putU32Be 0 = [0, 0, 0, 0] := rfl
  rw [zero, List.append_assoc]
  simp [putU32Be]

end CanonicalEncoder

/-! ### Fields that can be told apart -/

section Fields

open CanonicalEncoder

def stringField (fieldId : UInt16) (value : Bytes) : Bytes :=
  field fieldId .Present (UInt32.ofNat value.length) value

def optionalStringField (fieldId : UInt16) : Option Bytes → Bytes
  | none => field fieldId .Missing 0 []
  | some value => stringField fieldId value

def enumField (fieldId : UInt16) (code : UInt32) : Bytes :=
  field fieldId .Present 4 (putU32Be code)

def listField (fieldId : UInt16) (items : List Bytes) : Bytes :=
  field fieldId .Present (items.foldl (fun total item => total + UInt32.ofNat item.length) 4)
    (size items.length ++ items.flatten)

section Writes

variable {domain fields : Bytes} {count : UInt32} {enc : CanonicalEncoder}

theorem CanonicalEncoder.Holds.writeStringField (holds : Holds domain count fields enc)
    (fieldId : UInt16) (value : Bytes) :
    Holds domain (count + 1) (fields ++ stringField fieldId value)
      (enc.writeStringField fieldId value) :=
  holds.writeField fieldId .Present _ value

theorem CanonicalEncoder.Holds.writeOptionalStringField (holds : Holds domain count fields enc)
    (fieldId : UInt16) (value : Option Bytes) :
    Holds domain (count + 1) (fields ++ optionalStringField fieldId value)
      (enc.writeOptionalStringField fieldId value) := by
  cases value with
  | none => exact holds.writeField fieldId .Missing 0 []
  | some value => exact holds.writeField fieldId .Present _ value

theorem CanonicalEncoder.Holds.writeEnumField (holds : Holds domain count fields enc)
    (fieldId : UInt16) (code : UInt32) :
    Holds domain (count + 1) (fields ++ enumField fieldId code)
      (enc.writeEnumField fieldId code) :=
  holds.writeField fieldId .Present 4 (putU32Be code)

theorem CanonicalEncoder.Holds.writeBytesField (holds : Holds domain count fields enc)
    (fieldId : UInt16) (data : Bytes) :
    Holds domain (count + 1) (fields ++ stringField fieldId data)
      (enc.writeBytesField fieldId data) :=
  holds.writeField fieldId .Present _ data

theorem CanonicalEncoder.Holds.writeListField (holds : Holds domain count fields enc)
    (fieldId : UInt16) (items : List Bytes) :
    Holds domain (count + 1) (fields ++ listField fieldId items)
      (enc.writeListField fieldId items) :=
  holds.writeField fieldId .Present _ _

end Writes

/-- Shorter than four gigabytes. -/
def Short (value : Bytes) : Prop := value.length < 2 ^ 32

instance (value : Bytes) : Decidable (Short value) := inferInstanceAs (Decidable (_ < _))

theorem selfDelimiting_stringField (fieldId : UInt16) :
    SelfDelimiting Short (stringField fieldId) := by
  have self := selfDelimiting_size.prefixed (β := UInt8).behind
    (putU16Be fieldId ++ [FieldState.Present.code])
  intro a b xs ys short short' same
  refine self a b xs ys short short' ?_
  simp only [List.append_assoc]
  simpa [stringField, field, size] using same

/-- The field of a string that may be missing is self-delimiting: its state tells whether there is
one. -/
theorem selfDelimiting_optionalStringField (fieldId : UInt16) :
    SelfDelimiting (fun o => ∀ value, o = some value → Short value)
      (optionalStringField fieldId) := by
  rintro (_ | a) (_ | b) xs ys short short' same
  · exact ⟨rfl, List.append_cancel_left same⟩
  -- one is missing and the other is there, so the states differ
  · exfalso
    simp [optionalStringField, stringField, field, putU16Be, FieldState.code] at same
  · exfalso
    simp [optionalStringField, stringField, field, putU16Be, FieldState.code] at same
  · obtain ⟨rfl, rest⟩ := selfDelimiting_stringField fieldId a b xs ys (short a rfl)
      (short' b rfl) same
    exact ⟨rfl, rest⟩

theorem selfDelimiting_enumField (fieldId : UInt16) :
    SelfDelimiting (fun _ => True) (enumField fieldId) := by
  refine .of_length (n := 11) (fun code _ => rfl) fun code code' _ _ same => ?_
  exact putU32Be_injective (List.append_cancel_left same)

/-- The items of a list are told apart, whatever their total says. -/
theorem listField_injective {α : Type} {P : α → Prop} {item : α → Bytes}
    (self : SelfDelimiting P item) {as bs : List α} (heres : ∀ a ∈ as, P a)
    (theres : ∀ b ∈ bs, P b) (few : as.length < 2 ^ 32) (few' : bs.length < 2 ^ 32)
    {fieldId : UInt16} (same : listField fieldId (as.map item) = listField fieldId (bs.map item)) :
    as = bs := by
  have items := (List.append_inj same rfl).2
  rw [List.length_map, List.length_map, ← List.flatMap_def, ← List.flatMap_def] at items
  exact (selfDelimiting_size.counted self).injective ⟨few, heres⟩ ⟨few', theres⟩ items

end Fields

end CgwFota.Fingerprint
