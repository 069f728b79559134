import Mathlib.Data.List.Nodup
import Mathlib.Tactic.Common

/-!
# Sorting by a comparator

A comparator that puts any two different keys in one order. Records with different keys have one
sorted arrangement, and records with equal keys stand next to each other once they are sorted.

## Main definitions

* `Strict`: the order is irreflexive and transitive, and two keys free of each other are equal
* `pair`, `lex`: two components, and lists
* `sortBy`: a stable sort by the key of a record

## Main results

* `Strict.pair`, `Strict.lex`, `Strict.comap`: such orders are built from such orders
* `Strict.sorted_unique`: what is sorted depends on the records only, not on their order before
* `Strict.nodup_of_adjacent`: to find a repeated key it is enough to compare neighbours

## Proof strategy

Two keys come in one of three relations (`Strict.cases`). The proofs about composed orders split on
the relation of the first components and leave the rest to the order of the second ones.
-/
namespace Comparator

variable {α β : Type}

/-- `before` is a strict total order. -/
structure Strict (before : α → α → Bool) : Prop where
  irrefl : ∀ a, before a a = false
  trans : ∀ a b c, before a b = true → before b c = true → before a c = true
  total : ∀ a b, before a b = false → before b a = false → a = b

/-- The first component decides, and then the second one. -/
def pair (first : α → α → Bool) (second : β → β → Bool) (p q : α × β) : Bool :=
  first p.1 q.1 || !first q.1 p.1 && second p.2 q.2

/-- The first difference decides; a list comes before the ones that continue it. -/
def lex (before : α → α → Bool) : List α → List α → Bool
  | _, [] => false
  | [], _ :: _ => true
  | a :: as, b :: bs => before a b || !before b a && lex before as bs

variable {before : α → α → Bool} {second : β → β → Bool}

theorem Strict.asymm (strict : Strict before) {a b : α} (earlier : before a b = true) :
    before b a = false := by
  cases later : before b a with
  | false => rfl
  | true =>
    have loop := strict.trans a b a earlier later
    rw [strict.irrefl] at loop
    cases loop

theorem Strict.cases (strict : Strict before) (a b : α) :
    before a b = true ∧ before b a = false ∨ a = b ∨ before b a = true ∧ before a b = false := by
  cases earlier : before a b with
  | true => exact .inl ⟨rfl, strict.asymm earlier⟩
  | false =>
    cases later : before b a with
    | true => exact .inr (.inr ⟨rfl, rfl⟩)
    | false => exact .inr (.inl (strict.total a b earlier later))

/-- A pair of strict orders, taken one after the other, is a strict order. -/
theorem Strict.pair (first : Strict before) (other : Strict second) :
    Strict (Comparator.pair before second) where
  irrefl p := by simp [Comparator.pair, first.irrefl, other.irrefl]
  trans p q r earlier later := by
    have transitive := first.trans p.1 q.1 r.1
    -- the first components decide, unless they are equal on both sides
    rcases first.cases p.1 q.1 with ⟨pq, qp⟩ | same | ⟨qp, pq⟩
    · rcases first.cases q.1 r.1 with ⟨qr, rq⟩ | same | ⟨rq, qr⟩
      · simp [Comparator.pair, transitive pq qr]
      · simp [Comparator.pair, ← same, pq]
      · simp [Comparator.pair, qr, rq] at later
    · simp only [Comparator.pair, same, first.irrefl, Bool.false_or, Bool.not_false, Bool.true_and]
        at earlier
      simp only [Comparator.pair, same, Bool.or_eq_true, Bool.and_eq_true] at later ⊢
      rcases later with later | ⟨free, later⟩
      · exact .inl later
      · exact .inr ⟨free, other.trans _ _ _ earlier later⟩
    · simp [Comparator.pair, pq, qp] at earlier
  total p q free free' := by
    rcases first.cases p.1 q.1 with ⟨pq, qp⟩ | same | ⟨qp, pq⟩
    · simp [Comparator.pair, pq] at free
    · simp only [Comparator.pair, same, first.irrefl, Bool.false_or, Bool.not_false, Bool.true_and]
        at free free'
      exact Prod.ext same (other.total _ _ free free')
    · simp [Comparator.pair, qp] at free'

/-- The order of lists is strict if the order of their elements is. -/
theorem Strict.lex (strict : Strict before) : Strict (Comparator.lex before) where
  irrefl as := by
    induction as with
    | nil => rfl
    | cons a as ih => simp [Comparator.lex, strict.irrefl, ih]
  trans as bs cs earlier later := by
    induction as generalizing bs cs with
    | nil =>
      cases cs with
      | nil => cases bs <;> cases later
      | cons c cs => rfl
    | cons a as ih =>
      cases bs with
      | nil => cases earlier
      | cons b bs =>
        cases cs with
        | nil => cases later
        | cons c cs =>
          have transitive := strict.trans a b c
          -- the heads decide; where they are equal, the tails do
          rcases strict.cases a b with ⟨ab, ba⟩ | rfl | ⟨ba, ab⟩
          · rcases strict.cases b c with ⟨bc, cb⟩ | rfl | ⟨cb, bc⟩
            · simp [Comparator.lex, transitive ab bc]
            · simp [Comparator.lex, ab]
            · simp [Comparator.lex, bc, cb] at later
          · simp only [Comparator.lex, strict.irrefl, Bool.false_or, Bool.not_false, Bool.true_and]
              at earlier
            simp only [Comparator.lex, Bool.or_eq_true, Bool.and_eq_true] at later ⊢
            rcases later with later | ⟨free, later⟩
            · exact .inl later
            · exact .inr ⟨free, ih bs cs earlier later⟩
          · simp [Comparator.lex, ab, ba] at earlier
  total as bs free free' := by
    induction as generalizing bs with
    | nil =>
      cases bs with
      | nil => rfl
      | cons b bs => cases free
    | cons a as ih =>
      cases bs with
      | nil => cases free'
      | cons b bs =>
        rcases strict.cases a b with ⟨ab, ba⟩ | rfl | ⟨ba, ab⟩
        · simp [Comparator.lex, ab] at free
        · simp only [Comparator.lex, strict.irrefl, Bool.false_or, Bool.not_false, Bool.true_and]
            at free free'
          rw [ih bs free free']
        · simp [Comparator.lex, ba] at free'

theorem strict_nat : Strict fun a b : Nat => decide (a < b) where
  irrefl a := by simp
  trans a b c earlier later := by
    simp only [decide_eq_true_eq] at *
    omega
  total a b free free' := by
    simp only [decide_eq_false_iff_not] at *
    omega

/-- Keys that are told apart by their images. -/
theorem Strict.comap (strict : Strict before) {image : β → α}
    (injective : ∀ x y, image x = image y → x = y) :
    Strict fun x y => before (image x) (image y) where
  irrefl _ := strict.irrefl _
  trans _ _ _ := strict.trans _ _ _
  total x y free free' := injective x y (strict.total _ _ free free')

/-! ### Sorting -/

section Sorting

variable {key : β → α} {xs ys : List β}

/-- Sort by the keys, leaving records with equal keys in their order. -/
def sortBy (before : α → α → Bool) (key : β → α) (xs : List β) : List β :=
  xs.mergeSort fun x y => !before (key y) (key x)

theorem sortBy_perm (before : α → α → Bool) (key : β → α) (xs : List β) :
    (sortBy before key xs).Perm xs := List.mergeSort_perm xs _

/-- What `sortBy` returns has no record before one with a smaller key. -/
theorem Strict.sorted (strict : Strict before) (key : β → α) (xs : List β) :
    (sortBy before key xs).Pairwise fun x y => before (key y) (key x) = false := by
  have sorted := @List.pairwise_mergeSort _ (fun x y => !before (key y) (key x)) ?_ ?_ xs
  · exact sorted.imp fun {x y} holds => by simpa using holds
  · intro x y z xy yz
    simp only [Bool.not_eq_true'] at *
    -- not before is transitive too, since two keys are always comparable
    rcases strict.cases (key z) (key x) with ⟨zx, -⟩ | same | ⟨-, free⟩
    · rcases strict.cases (key x) (key y) with ⟨early, -⟩ | same | ⟨late, -⟩
      · rw [strict.trans _ _ _ zx early] at yz
        cases yz
      · rw [← same, zx] at yz
        cases yz
      · rw [late] at xy
        cases xy
    · rw [same]
      exact strict.irrefl _
    · exact free
  · intro x y
    rcases strict.cases (key y) (key x) with ⟨-, free⟩ | same | ⟨-, free⟩
    · simp [free]
    · simp [same, strict.irrefl]
    · simp [free]

/-- Records with different keys have one sorted arrangement. -/
theorem Strict.sorted_unique (strict : Strict before) (key : β → α) (perm : xs.Perm ys)
    (distinct : (xs.map key).Nodup)
    (sorted : xs.Pairwise fun x y => before (key y) (key x) = false)
    (sorted' : ys.Pairwise fun x y => before (key y) (key x) = false) : xs = ys := by
  refine perm.eq_of_pairwise ?_ sorted sorted'
  intro x y member member' early late
  exact List.inj_on_of_nodup_map distinct member (perm.mem_iff.mpr member')
    (strict.total _ _ late early)

/-- In sorted records equal keys are next to each other. -/
theorem Strict.nodup_of_adjacent (strict : Strict before)
    (sorted : xs.Pairwise fun x y => before (key y) (key x) = false)
    (apart : xs.IsChain fun x y => key x ≠ key y) : (xs.map key).Nodup := by
  -- with neighbours apart, the order of the keys is strict from one record to the next
  have increasing : xs.Pairwise fun x y => before (key x) (key y) = true := by
    induction xs with
    | nil => exact .nil
    | cons x rest ih =>
      obtain ⟨least, sorted⟩ := List.pairwise_cons.mp sorted
      have later := ih sorted apart.of_cons
      refine List.pairwise_cons.mpr ⟨?_, later⟩
      cases rest with
      | nil => simp
      | cons z zs =>
        have next : before (key x) (key z) = true := by
          rcases strict.cases (key x) (key z) with ⟨early, -⟩ | same | ⟨late, -⟩
          · exact early
          · exact absurd same (List.isChain_cons_cons.mp apart).1
          · rw [least z List.mem_cons_self] at late
            cases late
        intro y member
        rcases List.mem_cons.mp member with rfl | member
        · exact next
        · exact strict.trans _ _ _ next ((List.pairwise_cons.mp later).1 y member)
  rw [List.nodup_iff_pairwise_ne, List.pairwise_map]
  refine increasing.imp fun {x y} early same => ?_
  rw [same, strict.irrefl] at early
  cases early

end Sorting

end Comparator
