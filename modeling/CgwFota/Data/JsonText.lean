import CgwFota.Data.Json

/-!
# A JSON text that obeys the laws

Compact JSON over bytes: what is printed is read back, so the laws asked of a library are those of
something that exists. The reader knows no white space, and a double is printed by its bits.

## Main definitions

* `text`: the printer; `quoted` escapes quotes, backslashes and control characters
* `readValue`: the reader, which takes one value from the front of the bytes
* `compactText`, `strictText`: the two as a library of JSON text, without and with a check that the
  value is canonical

## Main results

* `readValue_text`: a printed value is read back, whatever stops it
* `length_text_le`: the text is no longer than `maxLength`
* `lawful_compactText`, `strict_strictText`: the laws hold

## Proof strategy

The reader has fuel, and every call of it in the reading of a value gets one less. The round trip is
proved by recursion on the fuel, with the length of the text as the fuel that is enough; what
follows a value must not continue it (`Stops`).
-/
namespace Json.Compact

/-! ### Digits -/

def isDigit (b : UInt8) : Bool := 48 ≤ b && b ≤ 57

def decimal (n : Nat) : List UInt8 := (Nat.toDigits 10 n).map fun c => UInt8.ofNat c.toNat

def ofDecimal (ds : List UInt8) : Nat := Nat.ofDigitChars 10 (ds.map fun b => Char.ofNat b.toNat) 0

theorem digit_of_mem {n : Nat} {c : Char} (member : c ∈ Nat.toDigits 10 n) :
    48 ≤ c.toNat ∧ c.toNat ≤ 57 := by
  have digit := Nat.isDigit_of_mem_toDigits (by decide) (by decide) member
  simp only [Char.isDigit, Bool.and_eq_true, decide_eq_true_eq, ge_iff_le,
    UInt32.le_iff_toNat_le] at digit
  exact digit

theorem toNat_byte {n : Nat} {c : Char} (member : c ∈ Nat.toDigits 10 n) :
    (UInt8.ofNat c.toNat).toNat = c.toNat := by
  have range := digit_of_mem member
  exact UInt8.toNat_ofNat_of_lt' (by show c.toNat < 256; omega)

theorem ofDecimal_decimal (n : Nat) : ofDecimal (decimal n) = n := by
  have same : (decimal n).map (fun b => Char.ofNat b.toNat) = Nat.toDigits 10 n := by
    rw [decimal, List.map_map]
    apply (List.map_congr_left fun c member => ?_).trans (List.map_id _)
    simp only [Function.comp, toNat_byte member, Char.ofNat_toNat, id]
  rw [ofDecimal, same]
  exact Nat.ofDigitChars_ten_toDigits

theorem isDigit_of_mem_decimal {n : Nat} {b : UInt8} (member : b ∈ decimal n) : isDigit b := by
  obtain ⟨c, digit, rfl⟩ := List.mem_map.mp member
  have range := digit_of_mem digit
  simp [isDigit, UInt8.le_iff_toNat_le, toNat_byte digit, range]

theorem decimal_ne_nil (n : Nat) : decimal n ≠ [] := by
  simp [decimal]

theorem length_decimal_le {n : Nat} (small : n < 2 ^ 64) : (decimal n).length ≤ 20 := by
  rw [decimal, List.length_map, Nat.length_toDigits_le_iff (by decide) (by decide)]
  omega

/-- Digits are taken up to the first byte that is none. -/
theorem takeWhile_decimal (n : Nat) {rest : List UInt8} (stop : ∀ b ∈ rest.head?, ¬isDigit b) :
    (decimal n ++ rest).takeWhile isDigit = decimal n ∧
      (decimal n ++ rest).dropWhile isDigit = rest := by
  have digits : ∀ b ∈ decimal n, isDigit b := fun b member => isDigit_of_mem_decimal member
  rw [List.takeWhile_append_of_pos digits, List.dropWhile_append_of_pos digits]
  -- the digits end at the end of the text or at a byte that is none
  cases rest with
  | nil => simp
  | cons b rest =>
    have none : ¬isDigit b := stop b rfl
    simp [none]

/-! ### Strings -/

def hexDigit (d : UInt8) : UInt8 := if d < 10 then 48 + d else 87 + d

def hexValue (b : UInt8) : UInt8 := if b < 58 then b - 48 else b - 87

def escape (b : UInt8) : List UInt8 :=
  if b = 34 ∨ b = 92 then [92, b]
  else if b < 32 then [92, 117, 48, 48, hexDigit (b / 16), hexDigit (b % 16)]
  else [b]

def bytesOf (s : String) : List UInt8 := s.toByteArray.data.toList

def quoted (s : String) : List UInt8 := 34 :: (bytesOf s).flatMap escape ++ [34]

/-- The bytes up to the closing quote, and what follows it. -/
def unquote : List UInt8 → Option (List UInt8 × List UInt8)
  | [] => none
  | b :: rest =>
    if b = 34 then some ([], rest)
    else if b = 92 then
      match rest with
      | [] => none
      | c :: rest =>
        if c = 117 then
          match rest with
          | _ :: _ :: high :: low :: rest =>
            (unquote rest).map fun p => ((16 * hexValue high + hexValue low) :: p.1, p.2)
          | _ => none
        else (unquote rest).map fun p => (c :: p.1, p.2)
    else (unquote rest).map fun p => (b :: p.1, p.2)

def readString (bs : List UInt8) : Option (String × List UInt8) := do
  let (bytes, rest) ← unquote bs
  let s ← String.fromUTF8? ⟨bytes.toArray⟩
  return (s, rest)

theorem hexValue_hexDigit : ∀ n < 32,
    16 * hexValue (hexDigit (UInt8.ofNat n / 16)) + hexValue (hexDigit (UInt8.ofNat n % 16))
      = UInt8.ofNat n := by
  decide

/-- An escaped byte is read back, and the reading goes on behind it. -/
theorem unquote_escape (b : UInt8) (bs : List UInt8) :
    unquote (escape b ++ bs) = (unquote bs).map fun p => (b :: p.1, p.2) := by
  unfold escape
  -- quotes and backslashes stand behind a backslash
  by_cases special : b = 34 ∨ b = 92
  · have plain : b ≠ 117 := by
      rcases special with rfl | rfl
      · decide
      · decide
    rw [if_pos special]
    show unquote (92 :: b :: bs) = _
    rw [unquote.eq_def]
    simp [plain]
  rw [if_neg special]
  -- control characters are spelled in hexadecimal
  by_cases control : b < 32
  · have value := hexValue_hexDigit b.toNat (UInt8.lt_iff_toNat_lt.mp control)
    rw [UInt8.ofNat_toNat] at value
    rw [if_pos control]
    show unquote (92 :: 117 :: 48 :: 48 :: hexDigit (b / 16) :: hexDigit (b % 16) :: bs) = _
    rw [unquote.eq_def]
    simp [value]
  -- any other byte stands for itself
  · rw [if_neg control]
    obtain ⟨notQuote, notBackslash⟩ := not_or.mp special
    show unquote (b :: bs) = _
    rw [unquote.eq_def]
    simp [notQuote, notBackslash]

theorem unquote_quoted (bytes rest : List UInt8) :
    unquote (bytes.flatMap escape ++ 34 :: rest) = some (bytes, rest) := by
  induction bytes with
  | nil => unfold unquote; simp
  | cons b bytes ih =>
    rw [List.flatMap_cons, List.append_assoc, unquote_escape, ih]
    rfl

theorem readString_quoted (s : String) (rest : List UInt8) :
    readString ((bytesOf s).flatMap escape ++ 34 :: rest) = some (s, rest) := by
  have bytes : (⟨(bytesOf s).toArray⟩ : ByteArray) = s.toByteArray := by
    simp [bytesOf]
  have decoded : String.fromUTF8? s.toByteArray = some s := dif_pos s.isValidUTF8
  simp [readString, unquote_quoted, bytes, decoded]

theorem length_escape_le (b : UInt8) : (escape b).length ≤ 6 := by
  unfold escape
  split
  · simp
  · split
    · simp
    · simp

/-- A quoted string is as long as the bound of the values says, at most. -/
theorem length_quoted_le (s : String) : (quoted s).length ≤ stringLength s := by
  have escaped (bytes : List UInt8) : (bytes.flatMap escape).length ≤ 6 * bytes.length := by
    induction bytes with
    | nil => simp
    | cons b bytes ih =>
      have head := length_escape_le b
      simp only [List.flatMap_cons, List.length_append, List.length_cons]
      omega
  have size : (bytesOf s).length = s.utf8ByteSize := rfl
  have whole := escaped (bytesOf s)
  simp only [quoted, stringLength, List.length_append, List.length_cons, List.length_nil]
  omega

/-! ### Printer -/

mutual

def text : Json → List UInt8
  | .null => [110, 117, 108, 108]
  | .boolean true => [116, 114, 117, 101]
  | .boolean false => [102, 97, 108, 115, 101]
  | .integer n => (if n < 0 then [45] else []) ++ decimal n.natAbs
  | .float bits => decimal bits.toNat ++ [46, 48]
  | .string s => quoted s
  | .array items => 91 :: textItems items ++ [93]
  | .object members => 123 :: textMembers members ++ [125]

def textItems : List Json → List UInt8
  | [] => []
  | j :: rest => text j ++ (if rest.isEmpty then [] else 44 :: textItems rest)

def textMembers : List (String × Json) → List UInt8
  | [] => []
  | (key, j) :: rest =>
    quoted key ++ 58 :: text j ++ (if rest.isEmpty then [] else 44 :: textMembers rest)

end

/-! ### Reader -/

/-- Skip the bytes of a literal. -/
def expect (literal bs : List UInt8) : Option (List UInt8) :=
  if bs.take literal.length = literal then some (bs.drop literal.length) else none

def readNumber (bs : List UInt8) : Option (Json × List UInt8) :=
  let negative := bs.head? = some 45
  let body := if negative then bs.tail else bs
  let n := ofDecimal (body.takeWhile isDigit)
  let rest := body.dropWhile isDigit
  if body.takeWhile isDigit = [] then none
  else if rest.take 2 = [46, 48] then some (.float (UInt64.ofNat n), rest.drop 2)
  else some (.integer (if negative then -n else n), rest)

mutual

def readValue : Nat → List UInt8 → Option (Json × List UInt8)
  | 0, _ => none
  | _, [] => none
  | fuel + 1, b :: rest =>
    if b = 110 then do return (.null, ← expect [117, 108, 108] rest)
    else if b = 116 then do return (.boolean true, ← expect [114, 117, 101] rest)
    else if b = 102 then do return (.boolean false, ← expect [97, 108, 115, 101] rest)
    else if b = 34 then do
      let (s, rest) ← readString rest
      return (.string s, rest)
    else if b = 91 then
      if rest.head? = some 93 then some (.array [], rest.tail)
      else do
        let (items, rest) ← readItems fuel rest
        return (.array items, ← expect [93] rest)
    else if b = 123 then
      if rest.head? = some 125 then some (.object [], rest.tail)
      else do
        let (members, rest) ← readMembers fuel rest
        return (.object members, ← expect [125] rest)
    else readNumber (b :: rest)

def readItems : Nat → List UInt8 → Option (List Json × List UInt8)
  | 0, _ => none
  | fuel + 1, bs => do
    let (j, rest) ← readValue fuel bs
    if rest.head? = some 44 then do
      let (items, rest) ← readItems fuel rest.tail
      return (j :: items, rest)
    else return ([j], rest)

/-- Of two members with one key the later one counts. -/
def readMembers : Nat → List UInt8 → Option (List (String × Json) × List UInt8)
  | 0, _ => none
  | fuel + 1, bs => do
    let (key, rest) ← readString (← expect [34] bs)
    let (j, rest) ← readValue fuel (← expect [58] rest)
    if rest.head? = some 44 then do
      let (members, rest) ← readMembers fuel rest.tail
      return (emplace key j members, rest)
    else return ([(key, j)], rest)

end

/-! ### What is printed is read back -/

@[simp] theorem expect_append (literal rest : List UInt8) :
    expect literal (literal ++ rest) = some rest := by
  simp [expect]

/-- What may follow a value: nothing, a comma or a closing bracket. -/
def Stops (rest : List UInt8) : Prop := ∀ b ∈ rest.head?, b = 44 ∨ b = 93 ∨ b = 125

theorem Stops.not_digit {rest : List UInt8} (stops : Stops rest) :
    ∀ b ∈ rest.head?, ¬isDigit b := by
  intro b first
  rcases stops b first with rfl | rfl | rfl
  · decide
  · decide
  · decide

/-- What stops a value is no fraction, so it does not turn an integer into a double. -/
theorem Stops.not_fraction {rest : List UInt8} (stops : Stops rest) : rest.take 2 ≠ [46, 48] := by
  cases rest with
  | nil => simp
  | cons b rest =>
    have first := stops b rfl
    intro same
    simp only [List.take_succ_cons, List.cons.injEq] at same
    rw [same.1] at first
    revert first
    decide

/-- A decimal number starts with a digit. -/
theorem decimal_head (n : Nat) : ∃ b ds, decimal n = b :: ds ∧ isDigit b := by
  cases digits : decimal n with
  | nil => exact absurd digits (decimal_ne_nil n)
  | cons b ds =>
    refine ⟨b, ds, rfl, isDigit_of_mem_decimal (n := n) ?_⟩
    rw [digits]
    exact List.mem_cons_self

/-- A number without a sign, and with or without a fraction. -/
theorem readNumber_decimal (n : Nat) {rest : List UInt8} (stop : ∀ b ∈ rest.head?, ¬isDigit b) :
    readNumber (decimal n ++ rest) =
      if rest.take 2 = [46, 48] then some (.float (UInt64.ofNat n), rest.drop 2)
      else some (.integer n, rest) := by
  obtain ⟨taken, dropped⟩ := takeWhile_decimal n stop
  have unsigned : (decimal n ++ rest).head? ≠ some 45 := by
    obtain ⟨b, ds, digits, digit⟩ := decimal_head n
    rw [digits]
    rintro ⟨⟩
    revert digit
    decide
  simp only [readNumber, if_neg unsigned, taken, dropped, decimal_ne_nil, if_false,
    ofDecimal_decimal]

theorem readNumber_integer (n : Int) {rest : List UInt8} (stops : Stops rest) :
    readNumber (text (.integer n) ++ rest) = some (.integer n, rest) := by
  -- a sign comes first, and the digits of the absolute value follow
  by_cases negative : n < 0
  · obtain ⟨taken, dropped⟩ := takeWhile_decimal n.natAbs stops.not_digit
    have value : -(n.natAbs : Int) = n := by omega
    have printed : text (.integer n) ++ rest = 45 :: (decimal n.natAbs ++ rest) := by
      simp [text, negative]
    have sign : (45 :: (decimal n.natAbs ++ rest)).head? = some 45 := rfl
    rw [printed]
    simp only [readNumber, if_pos sign, List.tail_cons, taken, dropped, decimal_ne_nil, if_false,
      stops.not_fraction, ofDecimal_decimal, value]
  · have value : (n.natAbs : Int) = n := by omega
    have printed : text (.integer n) = decimal n.natAbs := by simp [text, negative]
    rw [printed, readNumber_decimal n.natAbs stops.not_digit, if_neg stops.not_fraction, value]

/-- A printed double is read back: its fraction tells it from an integer. -/
theorem readNumber_float (bits : UInt64) (rest : List UInt8) :
    readNumber (text (.float bits) ++ rest) = some (.float bits, rest) := by
  have point : ∀ b ∈ (46 :: 48 :: rest : List UInt8).head?, ¬isDigit b := by
    rintro b ⟨⟩
    decide
  have printed : text (.float bits) ++ rest = decimal bits.toNat ++ 46 :: 48 :: rest := by
    simp [text]
  rw [printed, readNumber_decimal bits.toNat point]
  simp

/-- What a number starts with. -/
def StartsNumber (bs : List UInt8) : Prop := ∃ b tail, bs = b :: tail ∧ (b = 45 ∨ isDigit b)

theorem startsNumber_decimal (n : Nat) (after : List UInt8) :
    StartsNumber (decimal n ++ after) := by
  obtain ⟨b, ds, digits, digit⟩ := decimal_head n
  exact ⟨b, ds ++ after, by rw [digits]; rfl, Or.inr digit⟩

theorem text_integer_head (n : Int) : StartsNumber (text (.integer n)) := by
  by_cases negative : n < 0
  · exact ⟨45, decimal n.natAbs, by simp [text, negative], Or.inl rfl⟩
  · have printed : text (.integer n) = decimal n.natAbs ++ [] := by simp [text, negative]
    rw [printed]
    exact startsNumber_decimal _ _

theorem text_float_head (bits : UInt64) : StartsNumber (text (.float bits)) := by
  simp only [text]
  exact startsNumber_decimal _ _

/-- A text that starts like a number is read as one. -/
theorem readValue_of_number {fuel : Nat} {bs rest : List UInt8} (starts : StartsNumber bs) :
    readValue (fuel + 1) (bs ++ rest) = readNumber (bs ++ rest) := by
  obtain ⟨b, tail, rfl, first⟩ := starts
  -- a sign or a digit starts no literal, no string, no array and no object
  have other (c : UInt8) (literal : ¬isDigit c) (unsigned : c ≠ 45) : b ≠ c := by
    rintro rfl
    rcases first with sign | digit
    · exact unsigned sign
    · exact literal digit
  have n := other 110 (by decide) (by decide)
  have t := other 116 (by decide) (by decide)
  have f := other 102 (by decide) (by decide)
  have q := other 34 (by decide) (by decide)
  have a := other 91 (by decide) (by decide)
  have o := other 123 (by decide) (by decide)
  simp [readValue, n, t, f, q, a, o]

theorem StartsNumber.not_bracket {bs : List UInt8} (starts : StartsNumber bs) :
    ∃ b tail, bs = b :: tail ∧ b ≠ 93 ∧ b ≠ 125 := by
  obtain ⟨b, tail, rfl, first⟩ := starts
  refine ⟨b, tail, rfl, ?_, ?_⟩
  all_goals
    rintro rfl
    revert first
    decide

/-- No value starts with a closing bracket. -/
theorem text_head (j : Json) : ∃ b tail, text j = b :: tail ∧ b ≠ 93 ∧ b ≠ 125 := by
  cases j with
  | integer n => exact (text_integer_head n).not_bracket
  | float bits => exact (text_float_head bits).not_bracket
  | boolean b => cases b <;> simp [text]
  | null => simp [text]
  | string s => simp [text, quoted]
  | array items => simp [text]
  | object members => simp [text]

theorem stops_close {rest : List UInt8} {b : UInt8} (closes : rest.head? = some b)
    (bracket : b = 93 ∨ b = 125) : Stops rest := by
  intro c first
  rw [closes] at first
  cases first
  exact Or.inr bracket

theorem stops_comma (rest : List UInt8) : Stops (44 :: rest) := by
  rintro b ⟨⟩
  exact Or.inl rfl

mutual

/-- A printed value is read back if the fuel covers its text and nothing continues it. -/
theorem readValue_text (j : Json) (canonical : j.Canonical) (fuel : Nat) (rest : List UInt8)
    (enough : (text j).length ≤ fuel) (stops : Stops rest) :
    readValue fuel (text j ++ rest) = some (j, rest) := by
  cases fuel with
  -- no text is empty, so fuel is needed
  | zero =>
    obtain ⟨b, tail, printed, _⟩ := text_head j
    rw [printed] at enough
    cases enough
  | succ fuel =>
  cases j with
  | null => simp [text, readValue, expect]
  | boolean b => cases b <;> simp [text, readValue, expect]
  | integer n =>
    rw [readValue_of_number (text_integer_head n)]
    exact readNumber_integer n stops
  | float bits =>
    rw [readValue_of_number (text_float_head bits)]
    exact readNumber_float bits rest
  | string s =>
    have inside := readString_quoted s rest
    simp [text, quoted, readValue, inside]
  -- the items are read with one unit of fuel less, up to the closing bracket
  | array items =>
    cases items with
    | nil => simp [text, textItems, readValue]
    | cons j items =>
      cases canonical with
      | array each =>
      have shorter : (textItems (j :: items)).length < fuel := by
        simp only [text, List.cons_append, List.length_cons, List.length_append] at enough
        omega
      have inside := readItems_text j items each fuel (93 :: rest) shorter rfl
      obtain ⟨b, tail, printed, notClose, _⟩ := text_head j
      -- the first item is not mistaken for the closing bracket
      have first : (textItems (j :: items) ++ 93 :: rest).head? ≠ some 93 := by
        simpa [textItems, printed] using notClose
      have shape :
          text (array (j :: items)) ++ rest = 91 :: (textItems (j :: items) ++ 93 :: rest) := by
        simp [text]
      rw [shape]
      simp only [readValue, first, inside]
      simp [expect]
  -- the members are read the same way, and their keys are sorted already
  | object members =>
    cases members with
    | nil => simp [text, textMembers, readValue]
    | cons m members =>
      cases canonical with
      | object sorted each =>
      have shorter : (textMembers (m :: members)).length < fuel := by
        simp only [text, List.cons_append, List.length_cons, List.length_append] at enough
        omega
      have inside := readMembers_text m members sorted each fuel (125 :: rest) shorter rfl
      have first : (textMembers (m :: members) ++ 125 :: rest).head? ≠ some 125 := by
        simp [textMembers, quoted]
      have shape : text (object (m :: members)) ++ rest =
          123 :: (textMembers (m :: members) ++ 125 :: rest) := by
        simp [text]
      rw [shape]
      simp only [readValue, first, inside]
      simp [expect]
termination_by fuel

/-- A printed sequence of items is read back up to the closing bracket. -/
theorem readItems_text (j : Json) (items : List Json) (canonical : ∀ i ∈ j :: items, i.Canonical)
    (fuel : Nat) (rest : List UInt8) (enough : (textItems (j :: items)).length < fuel)
    (closes : rest.head? = some 93) :
    readItems fuel (textItems (j :: items) ++ rest) = some (j :: items, rest) := by
  cases fuel with
  | zero => cases enough
  | succ fuel =>
  have head := canonical j List.mem_cons_self
  cases items with
  | nil =>
    have printed : textItems [j] = text j := by simp [textItems]
    rw [printed] at enough ⊢
    have value := readValue_text j head fuel rest (by omega) (stops_close closes (Or.inl rfl))
    simp [readItems, value, closes]
  -- a comma stands between the items, and it stops the first of them
  | cons i items =>
    have printed : textItems (j :: i :: items) = text j ++ 44 :: textItems (i :: items) := by
      simp [textItems]
    rw [printed, List.length_append, List.length_cons] at enough
    rw [printed, List.append_assoc, List.cons_append]
    have value := readValue_text j head fuel (44 :: (textItems (i :: items) ++ rest)) (by omega)
      (stops_comma _)
    have each : ∀ k ∈ i :: items, k.Canonical := fun k member =>
      canonical k (List.mem_cons_of_mem j member)
    have others := readItems_text i items each fuel rest (by omega) closes
    simp [readItems, value, others]
termination_by fuel

/-- A printed sequence of members is read back up to the closing bracket. -/
theorem readMembers_text (m : String × Json) (members : List (String × Json))
    (sorted : SortedKeys (m :: members)) (canonical : ∀ i ∈ m :: members, i.2.Canonical)
    (fuel : Nat) (rest : List UInt8) (enough : (textMembers (m :: members)).length < fuel)
    (closes : rest.head? = some 125) :
    readMembers fuel (textMembers (m :: members) ++ rest) = some (m :: members, rest) := by
  cases fuel with
  | zero => cases enough
  | succ fuel =>
  obtain ⟨key, j⟩ := m
  have head : j.Canonical := canonical (key, j) List.mem_cons_self
  cases members with
  | nil =>
    have printed : textMembers [(key, j)] = quoted key ++ 58 :: text j := by simp [textMembers]
    rw [printed] at enough ⊢
    simp only [List.length_append, List.length_cons] at enough
    have value := readValue_text j head fuel rest (by omega) (stops_close closes (Or.inr rfl))
    have name := readString_quoted key (58 :: (text j ++ rest))
    simp [quoted, readMembers, expect, name, value, closes]
  | cons i members =>
    have printed : textMembers ((key, j) :: i :: members) =
        quoted key ++ 58 :: text j ++ 44 :: textMembers (i :: members) := by
      simp [textMembers]
    rw [printed] at enough ⊢
    simp only [List.length_append, List.length_cons] at enough
    have value := readValue_text j head fuel (44 :: (textMembers (i :: members) ++ rest)) (by omega)
      (stops_comma _)
    have name := readString_quoted key
      (58 :: (text j ++ 44 :: (textMembers (i :: members) ++ rest)))
    obtain ⟨least, ordered⟩ := List.pairwise_cons.mp sorted
    have each : ∀ k ∈ i :: members, k.2.Canonical := fun k member =>
      canonical k (List.mem_cons_of_mem _ member)
    have others := readMembers_text i members ordered each fuel rest (by omega) closes
    -- the members are put together from the back, each before the ones that follow it
    have added : emplace key j (i :: members) = (key, j) :: i :: members :=
      emplace_first fun k member => least k.1 (List.mem_map_of_mem member)
    simp [quoted, readMembers, expect, name, value, others, added]
termination_by fuel

end

/-! ### Lengths -/

mutual

/-- The text of a canonical value is no longer than its bound. -/
theorem length_text_le (j : Json) (canonical : j.Canonical) : (text j).length ≤ j.maxLength := by
  cases canonical with
  | null => simp [text, maxLength]
  | boolean b => cases b <;> simp [text, maxLength]
  | @integer n low high =>
    by_cases negative : n < 0
    -- a sign and at most 19 digits, since the number is no less than `-2 ^ 63`
    · have digits : (decimal n.natAbs).length ≤ 19 := by
        rw [decimal, List.length_map, Nat.length_toDigits_le_iff (by decide) (by decide)]
        omega
      simp only [text, maxLength, if_pos negative, List.length_append, List.length_cons,
        List.length_nil]
      omega
    · have digits : (decimal n.natAbs).length ≤ 20 := length_decimal_le (by omega)
      simp only [text, maxLength, if_neg negative, List.nil_append]
      exact digits
  | @float bits _ =>
    have digits := length_decimal_le bits.toNat_lt
    simp only [text, maxLength, List.length_append, List.length_cons, List.length_nil]
    omega
  | string s => exact length_quoted_le s
  | @array items each =>
    have inside := length_textItems_le items each
    simp only [text, maxLength, List.cons_append, List.length_cons, List.length_append,
      List.length_nil]
    omega
  | @object members _ each =>
    have inside := length_textMembers_le members each
    simp only [text, maxLength, List.cons_append, List.length_cons, List.length_append,
      List.length_nil]
    omega

theorem length_textItems_le (items : List Json) (canonical : ∀ j ∈ items, j.Canonical) :
    (textItems items).length ≤ maxLengthItems items := by
  cases items with
  | nil => simp [textItems]
  | cons j items =>
    have head := length_text_le j (canonical j List.mem_cons_self)
    have tail := length_textItems_le items fun i member =>
      canonical i (List.mem_cons_of_mem j member)
    simp only [textItems, maxLengthItems, List.length_append]
    split
    · simp only [List.length_nil]
      omega
    · simp only [List.length_cons]
      omega

/-- The text of a sequence of members is bounded likewise. -/
theorem length_textMembers_le (members : List (String × Json))
    (canonical : ∀ m ∈ members, m.2.Canonical) :
    (textMembers members).length ≤ maxLengthMembers members := by
  cases members with
  | nil => simp [textMembers]
  | cons m members =>
    obtain ⟨key, j⟩ := m
    have head := length_text_le j (canonical (key, j) List.mem_cons_self)
    have name := length_quoted_le key
    have tail := length_textMembers_le members fun i member =>
      canonical i (List.mem_cons_of_mem _ member)
    simp only [textMembers, maxLengthMembers, List.length_append, List.length_cons]
    split
    · simp only [List.length_nil]
      omega
    · simp only [List.length_cons]
      omega

end

/-! ### Printer and reader together -/

def read (bytes : List UInt8) : Except JsonException Json :=
  match readValue bytes.length bytes with
  | some (j, []) => .ok j
  | _ => .error ⟨"[json.exception.parse_error.101] parse error"⟩

theorem read_text {j : Json} (canonical : j.Canonical) : read (text j) = .ok j := by
  have nothing : Stops [] := by rintro b ⟨⟩
  have whole := readValue_text j canonical (text j).length [] (Nat.le_refl _) nothing
  rw [List.append_nil] at whole
  simp [read, whole]

/-! ### Values of the library -/

mutual

/-- A value that the library could have returned, as a check. -/
def isCanonical : Json → Bool
  | integer n => -2 ^ 63 ≤ n && n < 2 ^ 64
  | float bits => finite bits
  | array items => isCanonicalItems items
  | object members =>
    decide ((members.map Prod.fst).Pairwise fun a b => keyBefore a b) && isCanonicalMembers members
  | _ => true

def isCanonicalItems : List Json → Bool
  | [] => true
  | j :: items => isCanonical j && isCanonicalItems items

def isCanonicalMembers : List (String × Json) → Bool
  | [] => true
  | (_, j) :: members => isCanonical j && isCanonicalMembers members

end

mutual

/-- The check decides whether a value is canonical. -/
theorem isCanonical_iff (j : Json) : isCanonical j ↔ j.Canonical := by
  cases j with
  | null => exact iff_of_true rfl .null
  | boolean b => exact iff_of_true rfl (.boolean b)
  | string s => exact iff_of_true rfl (.string s)
  | integer n =>
    simp only [isCanonical, Bool.and_eq_true, decide_eq_true_eq]
    constructor
    · exact fun range => .integer range.1 range.2
    · intro canonical
      cases canonical with
      | integer low high => exact ⟨low, high⟩
  | float bits =>
    constructor
    · exact fun finite => .float finite
    · intro canonical
      cases canonical with
      | float finite => exact finite
  | array items =>
    rw [isCanonical, isCanonicalItems_iff items]
    constructor
    · exact fun each => .array each
    · intro canonical
      cases canonical with
      | array each => exact each
  | object members =>
    rw [isCanonical, Bool.and_eq_true, decide_eq_true_eq, isCanonicalMembers_iff members]
    constructor
    · exact fun parts => .object parts.1 parts.2
    · intro canonical
      cases canonical with
      | object sorted each => exact ⟨sorted, each⟩

theorem isCanonicalItems_iff (items : List Json) :
    isCanonicalItems items ↔ ∀ j ∈ items, j.Canonical := by
  cases items with
  | nil => simp [isCanonicalItems]
  | cons j items =>
    rw [isCanonicalItems, Bool.and_eq_true, isCanonical_iff j, isCanonicalItems_iff items,
      List.forall_mem_cons]

theorem isCanonicalMembers_iff (members : List (String × Json)) :
    isCanonicalMembers members ↔ ∀ m ∈ members, m.2.Canonical := by
  cases members with
  | nil => simp [isCanonicalMembers]
  | cons m members =>
    obtain ⟨key, j⟩ := m
    rw [isCanonicalMembers, Bool.and_eq_true, isCanonical_iff j, isCanonicalMembers_iff members,
      List.forall_mem_cons]

end

/-- The reader refuses what the library has no value for. -/
def readStrict (bytes : List UInt8) : Except JsonException Json := do
  let j ← read bytes
  if isCanonical j then return j
  else .error ⟨"[json.exception.out_of_range.406] number overflow"⟩

theorem readStrict_text {j : Json} (canonical : j.Canonical) : readStrict (text j) = .ok j := by
  simp [readStrict, read_text canonical, (isCanonical_iff j).mpr canonical, bind, Except.bind,
    pure, Except.pure]

/-- What the strict reader returns is canonical. -/
theorem canonical_of_readStrict {bytes : List UInt8} {j : Json} (done : readStrict bytes = .ok j) :
    j.Canonical := by
  unfold readStrict at done
  cases parsed : read bytes with
  | error x =>
    rw [parsed] at done
    cases done
  | ok i =>
    rw [parsed] at done
    by_cases canonical : isCanonical i
    · simp only [canonical, if_true, bind, Except.bind] at done
      cases done
      exact (isCanonical_iff j).mp canonical
    · simp [canonical, bind, Except.bind] at done

/-! ### Texts of members -/

/-- A sequence of members is at least as long as the value of any of them. -/
theorem length_textMembers_ge {members : List (String × Json)} {m : String × Json}
    (member : m ∈ members) : (text m.2).length ≤ (textMembers members).length := by
  induction members with
  | nil => cases member
  | cons m' members ih =>
    obtain ⟨key, j⟩ := m'
    simp only [textMembers, List.length_append, List.length_cons]
    rcases List.mem_cons.mp member with rfl | member
    · simp only
      omega
    · have inside := ih member
      have more : members.isEmpty = false := by
        cases members with
        | nil => cases member
        | cons => rfl
      simp only [more, if_false, Bool.false_eq_true, List.length_cons]
      omega

/-- The text of an object is at least as long as the text of any of its members. -/
theorem length_text_member? {j v : Json} {key : String} (stored : j.member? key = some v) :
    (text v).length ≤ (text j).length := by
  cases j with
  | object members =>
    obtain ⟨before, after, split, _⟩ := List.lookup_eq_some_iff.mp stored
    have member : (key, v) ∈ members := by simp [split]
    have inside := length_textMembers_ge member
    simp only [text, List.cons_append, List.length_cons, List.length_append] at inside ⊢
    omega
  | _ => cases stored

/-- A string of so many plain characters. -/
def repeated (n : Nat) : String := String.ofList (List.replicate n 'e')

/-- A quoted string of plain characters has its quotes and its characters. -/
theorem length_quoted_repeated (n : Nat) : (quoted (repeated n)).length = n + 2 := by
  have plain : escape 101 = [101] := by decide
  have bytes : bytesOf (repeated n) = List.replicate n 101 := by
    unfold bytesOf repeated
    rw [String.toByteArray_ofList]
    induction n with
    | zero => rfl
    | succ n ih =>
      rw [List.replicate_succ, List.utf8Encode_cons, ByteArray.data_append, Array.toList_append, ih]
      rfl
  have each : (List.replicate n (101 : UInt8)).flatMap escape = List.replicate n 101 := by
    clear bytes
    induction n with
    | zero => rfl
    | succ n ih => rw [List.replicate_succ, List.flatMap_cons, ih, plain, List.singleton_append]
  rw [quoted, bytes, each]
  simp

end Json.Compact

open Json.Compact in
/-- Compact JSON as a library of JSON text. -/
abbrev compactText : JsonText := ⟨text, read⟩

open Json.Compact in
theorem lawful_compactText : @LawfulJsonText compactText :=
  letI := compactText
  ⟨fun canonical => read_text canonical, fun canonical => length_text_le _ canonical⟩

open Json.Compact in
/-- Compact JSON whose reader returns nothing but values of the library. -/
abbrev strictText : JsonText := ⟨text, readStrict⟩

open Json.Compact in
theorem strict_strictText : @StrictJsonText strictText :=
  letI := strictText
  { parse_dump := fun canonical => readStrict_text canonical
    length_dump := fun canonical => length_text_le _ canonical
    canonical_parse := canonical_of_readStrict }
