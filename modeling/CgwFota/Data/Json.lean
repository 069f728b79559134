import Mathlib.Algebra.Group.Int.Defs
import Mathlib.Algebra.Group.Nat.Defs
import Mathlib.Tactic.Common

/-!
# JSON values

A value as a program handles it, with the accessors of a library that throws on a type it did not
expect. An object keeps its members sorted by key. The text form is a parameter: a printer and a
parser, related by the law that parsing undoes printing.

## Main definitions

* `Json`: the values; a double is kept by its bits
* `member?`, `atKey`, `value`: lookups that fail, throw, or fall back to a default
* `getUInt64` and its siblings: conversions, which cut a number to the width of the target
* `Canonical`: the values a parser returns
* `JsonText`, `LawfulJsonText`, `StrictJsonText`: a printer and a parser, and what is asked of them

## Main results

* `getUInt64_toNat`, `getUInt32_toNat`, `getInt64_toInt`: a number that was stored is read again
* `canonical_uint64` and its siblings: a number that is stored is canonical
-/

structure JsonException where
  what : String
  deriving DecidableEq, Repr

inductive Json where
  | null
  | boolean (b : Bool)
  | integer (n : Int)
  /-- A double, by its bits. -/
  | float (bits : UInt64)
  | string (s : String)
  | array (items : List Json)
  | object (members : List (String × Json))
  deriving Inhabited

namespace Json

def typeName : Json → String
  | null => "null"
  | boolean _ => "boolean"
  | integer _ | float _ => "number"
  | string _ => "string"
  | array _ => "array"
  | object _ => "object"

def typeError (id : Nat) (text : String) : JsonException :=
  ⟨"[json.exception.type_error." ++ toString id ++ "] " ++ text⟩

/-! ### Members of objects -/

/-- Keys are ordered by their characters. -/
def keyBefore (a b : String) : Bool := go a.toList b.toList
where
  go : List Char → List Char → Bool
    | _, [] => false
    | [], _ :: _ => true
    | c :: cs, d :: ds => c.toNat < d.toNat || c.toNat = d.toNat && go cs ds

section Members

variable {α : Type}

/-- Add a member unless the key is there already. -/
def emplace (key : String) (a : α) : List (String × α) → List (String × α)
  | [] => [(key, a)]
  | (k, b) :: rest =>
    if keyBefore key k then (key, a) :: (k, b) :: rest
    else if key = k then (k, b) :: rest
    else (k, b) :: emplace key a rest

/-- Add a member, or replace the value of the key. -/
def assign (key : String) (a : α) : List (String × α) → List (String × α)
  | [] => [(key, a)]
  | (k, b) :: rest =>
    if keyBefore key k then (key, a) :: (k, b) :: rest
    else if key = k then (key, a) :: rest
    else (k, b) :: assign key a rest

/-- Keys in strictly increasing order, so that no key occurs twice. -/
def SortedKeys (members : List (String × α)) : Prop :=
  (members.map Prod.fst).Pairwise (keyBefore · ·)

theorem emplace_first {key : String} {a : α} {members : List (String × α)}
    (first : ∀ m ∈ members, keyBefore key m.1) : emplace key a members = (key, a) :: members := by
  cases members with
  | nil => rfl
  | cons m rest =>
    have less : keyBefore key m.1 := first m (by simp)
    simp [emplace, less]

end Members

/-- The object written as an initializer list. -/
def ofMembers (members : List (String × Json)) : Json :=
  .object (members.foldl (fun ms m => emplace m.1 m.2 ms) [])

/-! ### Accessors -/

def member? (key : String) : Json → Option Json
  | object members => members.lookup key
  | _ => none

def contains (j : Json) (key : String) : Bool := (j.member? key).isSome

/-- The value under a key that must be there. -/
def atKey (j : Json) (key : String) : Except JsonException Json :=
  match j with
  | object members =>
    match members.lookup key with
    | some v => .ok v
    | none => .error ⟨"[json.exception.out_of_range.403] key '" ++ key ++ "' not found"⟩
  | _ => .error (typeError 304 ("cannot use at() with " ++ j.typeName))

/-- The value under a key, or a default where the object has no such key. -/
def value {α : Type} (get : Json → Except JsonException α) (j : Json) (key : String)
    (default : α) : Except JsonException α :=
  match j with
  | object members =>
    match members.lookup key with
    | some v => get v
    | none => .ok default
  | _ => .error (typeError 306 ("cannot use value() with " ++ j.typeName))

/-- Assignment through a key; null turns into an object first. -/
def set (j : Json) (key : String) (v : Json) : Except JsonException Json :=
  match j with
  | null => .ok (object (assign key v []))
  | object members => .ok (object (assign key v members))
  | _ => .error (typeError 305 ("cannot use operator[] with a string argument with " ++ j.typeName))

def erase (j : Json) (key : String) : Except JsonException Json :=
  match j with
  | object members => .ok (object (members.filter (·.1 ≠ key)))
  | _ => .error (typeError 307 ("cannot use erase() with " ++ j.typeName))

/-- What a loop over the value visits: a scalar counts as one item, null as none. -/
def items : Json → List Json
  | null => []
  | array items => items
  | object members => members.map Prod.snd
  | scalar => [scalar]

/-! ### Conversions -/

/-- A double with its fractional part dropped. -/
def truncate (bits : UInt64) : Int :=
  let exponent := bits.toNat / 2 ^ 52 % 2 ^ 11
  let fraction := bits.toNat % 2 ^ 52
  let mantissa := if exponent = 0 then fraction else fraction + 2 ^ 52
  let magnitude : Nat := mantissa * 2 ^ max exponent 1 / 2 ^ 1075
  if bits.toNat < 2 ^ 63 then magnitude else -magnitude

def finite (bits : UInt64) : Bool := bits.toNat / 2 ^ 52 % 2 ^ 11 ≠ 2047

/-- The integer a number converts to before it is cut to the width of the target. -/
def number (j : Json) : Except JsonException Int :=
  match j with
  | integer n => .ok n
  | float bits => .ok (truncate bits)
  | _ => .error (typeError 302 ("type must be number, but is " ++ j.typeName))

def getUInt64 (j : Json) : Except JsonException UInt64 := j.number.map UInt64.ofInt

def getInt64 (j : Json) : Except JsonException Int64 := j.number.map Int64.ofInt

/-- Only the two native integer types of the library refuse a boolean. -/
def getUInt32 (j : Json) : Except JsonException UInt32 :=
  match j with
  | boolean b => .ok (if b then 1 else 0)
  | _ => j.number.map UInt32.ofInt

def getString (j : Json) : Except JsonException String :=
  match j with
  | string s => .ok s
  | _ => .error (typeError 302 ("type must be string, but is " ++ j.typeName))

def getBoolean (j : Json) : Except JsonException Bool :=
  match j with
  | boolean b => .ok b
  | _ => .error (typeError 302 ("type must be boolean, but is " ++ j.typeName))

/-! ### Text -/

/-- The values a parser returns: integers of 64 bits, finite doubles, sorted objects. -/
inductive Canonical : Json → Prop
  | null : Canonical null
  | boolean (b : Bool) : Canonical (boolean b)
  | integer {n : Int} (low : -2 ^ 63 ≤ n) (high : n < 2 ^ 64) : Canonical (integer n)
  | float {bits : UInt64} (finite : finite bits) : Canonical (float bits)
  | string (s : String) : Canonical (string s)
  | array {items : List Json} (each : ∀ j ∈ items, Canonical j) : Canonical (array items)
  | object {members : List (String × Json)} (sorted : SortedKeys members)
      (each : ∀ m ∈ members, Canonical m.2) : Canonical (object members)

theorem getUInt64_toNat (x : UInt64) : getUInt64 (.integer x.toNat) = .ok x := by
  have inside := x.toNat_lt
  have same : UInt64.ofInt x.toNat = x := by
    unfold UInt64.ofInt
    rw [Int.emod_eq_of_lt (by omega) (by omega), Int.toNat_natCast]
    exact UInt64.ofNat_toNat
  simp [getUInt64, number, Except.map, same]

theorem getUInt32_toNat (x : UInt32) : getUInt32 (.integer x.toNat) = .ok x := by
  have inside := x.toNat_lt
  have same : UInt32.ofInt x.toNat = x := by
    unfold UInt32.ofInt
    rw [Int.emod_eq_of_lt (by omega) (by omega), Int.toNat_natCast]
    exact UInt32.ofNat_toNat
  simp [getUInt32, number, Except.map, same]

theorem getInt64_toInt (x : Int64) : getInt64 (.integer x.toInt) = .ok x := by
  simp [getInt64, number, Except.map]

theorem canonical_uint64 (x : UInt64) : Canonical (.integer x.toNat) := by
  have inside := x.toNat_lt
  exact .integer (by omega) (by omega)

theorem canonical_uint32 (x : UInt32) : Canonical (.integer x.toNat) := by
  have inside := x.toNat_lt
  exact .integer (by omega) (by omega)

theorem canonical_int64 (x : Int64) : Canonical (.integer x.toInt) := by
  have low := x.le_toInt
  have high := x.toInt_lt
  exact .integer (by omega) (by omega)

/-- A bound for a string printed in quotes, every character escaped. -/
def stringLength (s : String) : Nat := 6 * s.utf8ByteSize + 2

mutual

/-- A bound for the compact text of a canonical value. -/
def maxLength : Json → Nat
  | null => 4
  | boolean _ => 5
  | integer _ => 20
  | float _ => 25
  | string s => stringLength s
  | array items => 2 + maxLengthItems items
  | object members => 2 + maxLengthMembers members

def maxLengthItems : List Json → Nat
  | [] => 0
  | j :: rest => maxLength j + 1 + maxLengthItems rest

def maxLengthMembers : List (String × Json) → Nat
  | [] => 0
  | (key, j) :: rest => stringLength key + 1 + maxLength j + 1 + maxLengthMembers rest

end

end Json

/-- A library's printer and parser of JSON text. -/
class JsonText where
  dump : Json → List UInt8
  parse : List UInt8 → Except JsonException Json

/-- Parsing undoes printing, and a text is no longer than its value allows. -/
class LawfulJsonText [JsonText] : Prop where
  parse_dump : ∀ {j : Json}, j.Canonical → JsonText.parse (JsonText.dump j) = .ok j
  length_dump : ∀ {j : Json}, j.Canonical → (JsonText.dump j).length ≤ j.maxLength

/-- The parser returns nothing but values of the library. -/
class StrictJsonText [JsonText] : Prop extends LawfulJsonText where
  canonical_parse : ∀ {bytes : List UInt8} {j : Json}, JsonText.parse bytes = .ok j → j.Canonical
