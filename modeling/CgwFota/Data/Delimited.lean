import Mathlib.Tactic.Common

/-!
# Codes that end by themselves

The encoding of a value tells where it ends, whatever follows. Such encodings can be put one behind
the other, and a list of them behind its length, and still be read in one way only.

## Main definition

* `SelfDelimiting`: among the values with `P`, the encoding and what follows it can be told apart

## Main results

* `SelfDelimiting.append`, `.comap`, `.behind`: records of fields, and fields behind a tag
* `SelfDelimiting.counted`, `.prefixed`: lists and content behind their lengths
* `SelfDelimiting.flatMap_injective`: a list of them with nothing behind it

## Proof strategy

A list is read from its front: what is known of one encoding gives the first value and where the
others begin, and the induction is on the list.
-/
namespace Delimited

variable {α β γ δ : Type} {P : α → Prop} {Q : γ → Prop} {f : α → List β} {g : γ → List β}

/-- Among the values with `P`, what begins with an encoding begins with no other one. -/
def SelfDelimiting (P : α → Prop) (f : α → List β) : Prop :=
  ∀ a b xs ys, P a → P b → f a ++ xs = f b ++ ys → a = b ∧ xs = ys

theorem SelfDelimiting.injective (self : SelfDelimiting P f) {a b : α} (here : P a) (there : P b)
    (same : f a = f b) : a = b :=
  (self a b [] [] here there (by rw [same])).1

/-- Values are encoded at one length, and differently. -/
theorem SelfDelimiting.of_length {n : Nat} (fixed : ∀ a, P a → (f a).length = n)
    (injective : ∀ a b, P a → P b → f a = f b → a = b) : SelfDelimiting P f := by
  intro a b xs ys here there same
  obtain ⟨heads, tails⟩ := List.append_inj same ((fixed a here).trans (fixed b there).symm)
  exact ⟨injective a b here there heads, tails⟩

/-- One encoding behind the other. -/
theorem SelfDelimiting.append (first : SelfDelimiting P f) (second : SelfDelimiting Q g) :
    SelfDelimiting (fun p : α × γ => P p.1 ∧ Q p.2) fun p => f p.1 ++ g p.2 := by
  rintro ⟨a, c⟩ ⟨b, d⟩ xs ys ⟨pa, qc⟩ ⟨pb, qd⟩ same
  dsimp only at same
  rw [List.append_assoc, List.append_assoc] at same
  obtain ⟨rfl, rest⟩ := first a b _ _ pa pb same
  obtain ⟨rfl, tails⟩ := second c d xs ys qc qd rest
  exact ⟨rfl, tails⟩

/-- A value is told apart by its parts. -/
theorem SelfDelimiting.comap (self : SelfDelimiting P f) (parts : δ → α)
    (injective : ∀ x y, parts x = parts y → x = y) :
    SelfDelimiting (fun x => P (parts x)) fun x => f (parts x) := by
  intro x y xs ys here there same
  obtain ⟨equal, rest⟩ := self _ _ xs ys here there same
  exact ⟨injective x y equal, rest⟩

/-- Something fixed may stand before the encoding. -/
theorem SelfDelimiting.behind (self : SelfDelimiting P f) (header : List β) :
    SelfDelimiting P fun a => header ++ f a := by
  intro a b xs ys here there same
  dsimp only at same
  rw [List.append_assoc, List.append_assoc] at same
  exact self a b xs ys here there (List.append_cancel_left same)

/-- Two lists of one length are told apart by their encodings, with anything behind them. -/
theorem SelfDelimiting.flatMap (self : SelfDelimiting P f) {as bs : List α} {xs ys : List β}
    (heres : ∀ a ∈ as, P a) (theres : ∀ b ∈ bs, P b) (lengths : as.length = bs.length)
    (same : as.flatMap f ++ xs = bs.flatMap f ++ ys) : as = bs ∧ xs = ys := by
  induction as generalizing bs with
  | nil =>
    obtain rfl := List.eq_nil_of_length_eq_zero lengths.symm
    exact ⟨rfl, same⟩
  | cons a as ih =>
    cases bs with
    | nil => cases lengths
    | cons b bs =>
      -- the first encoding ends at the same place on both sides
      simp only [List.flatMap_cons, List.append_assoc] at same
      obtain ⟨rfl, rest⟩ :=
        self a b _ _ (heres a List.mem_cons_self) (theres b List.mem_cons_self) same
      obtain ⟨rfl, tails⟩ := ih (fun a member => heres a (List.mem_cons_of_mem _ member))
        (fun b member => theres b (List.mem_cons_of_mem _ member)) (Nat.succ.inj lengths) rest
      exact ⟨rfl, tails⟩

/-- A list of nonempty encodings, with nothing behind it. -/
theorem SelfDelimiting.flatMap_injective (self : SelfDelimiting P f) (nonempty : ∀ a, f a ≠ [])
    {as bs : List α} (heres : ∀ a ∈ as, P a) (theres : ∀ b ∈ bs, P b)
    (same : as.flatMap f = bs.flatMap f) : as = bs := by
  induction as generalizing bs with
  | nil =>
    cases bs with
    | nil => rfl
    | cons b bs => exact absurd same.symm (by simp [nonempty b])
  | cons a as ih =>
    cases bs with
    | nil => exact absurd same (by simp [nonempty a])
    | cons b bs =>
      obtain ⟨rfl, rest⟩ :=
        self a b _ _ (heres a List.mem_cons_self) (theres b List.mem_cons_self) same
      rw [ih (fun a member => heres a (List.mem_cons_of_mem _ member))
        (fun b member => theres b (List.mem_cons_of_mem _ member)) rest]

/-- Content that ends with a mark that does not occur in it. -/
theorem selfDelimiting_terminated (stop : β) :
    SelfDelimiting (fun bs : List β => stop ∉ bs) fun bs => bs ++ [stop] := by
  intro as bs xs ys free free' same
  dsimp only at same
  rw [List.append_assoc, List.append_assoc] at same
  -- the mark is met on both sides at once, since neither content has it
  induction as generalizing bs with
  | nil =>
    cases bs with
    | nil => exact ⟨rfl, List.append_cancel_left same⟩
    | cons b bs => exact absurd (List.cons.inj same).1 (List.ne_of_not_mem_cons free')
  | cons a as ih =>
    cases bs with
    | nil => exact absurd (List.cons.inj same).1.symm (List.ne_of_not_mem_cons free)
    | cons b bs =>
      obtain ⟨rfl, tails⟩ := List.cons.inj same
      obtain ⟨rfl, rest⟩ := ih bs (List.not_mem_of_not_mem_cons free)
        (List.not_mem_of_not_mem_cons free') tails
      exact ⟨rfl, rest⟩

/-- A list behind its length. -/
theorem SelfDelimiting.counted {count : Nat → List β} {bound : Nat}
    (counts : SelfDelimiting (· < bound) count) (self : SelfDelimiting P f) :
    SelfDelimiting (fun as : List α => as.length < bound ∧ ∀ a ∈ as, P a) fun as =>
      count as.length ++ as.flatMap f := by
  rintro as bs xs ys ⟨short, heres⟩ ⟨short', theres⟩ same
  dsimp only at same
  rw [List.append_assoc, List.append_assoc] at same
  obtain ⟨lengths, rest⟩ := counts _ _ _ _ short short' same
  exact self.flatMap heres theres lengths rest

/-- Plain content behind its length. -/
theorem SelfDelimiting.prefixed {count : Nat → List β} {bound : Nat}
    (counts : SelfDelimiting (· < bound) count) :
    SelfDelimiting (fun bs : List β => bs.length < bound) fun bs => count bs.length ++ bs := by
  intro as bs xs ys short short' same
  dsimp only at same
  rw [List.append_assoc, List.append_assoc] at same
  obtain ⟨lengths, rest⟩ := counts _ _ _ _ short short' same
  exact List.append_inj rest lengths

end Delimited
