import Mathlib.Tactic.Common

/-!
# Changes of a keyed store

A log of changes, each of one key. What a change writes may depend on a stamp, such as the time it
is made at, that the log does not fix. Afterwards every key holds what its last change put there.

## Main definitions

* `Changes`: which key a change is of and what it puts there.
* `Applied`: the changes lead from one content to the other, each with some stamp.
* `last`: the last change of a key.
* `Shows`: what a key holds afterwards, told by its last change alone.

## Main result

`Applied.shows`: where the changes were applied every key shows what the log says. Whether a key was
touched and by what is then a question about lists.
-/
namespace Crash

/-- How changes of type `κ` act on values of type `ν` under keys of type `ι`. -/
structure Changes (κ ι τ ν : Type) where
  key : κ → ι
  value : τ → κ → Option ν

namespace Changes

variable {κ ι τ ν : Type} [DecidableEq ι] (changes : Changes κ ι τ ν)

def apply (stamp : τ) (c : κ) (d : ι → Option ν) : ι → Option ν :=
  fun k => if k = changes.key c then changes.value stamp c else d k

/-- The changes lead from one content to the other, each with some stamp. -/
def Applied : List κ → (ι → Option ν) → (ι → Option ν) → Prop
  | [], d, d' => d' = d
  | c :: cs, d, d' => ∃ stamp, Applied cs (changes.apply stamp c d) d'

/-- What the changes lead to where all stamps are the same. -/
def settled (stamp : τ) (d : ι → Option ν) (cs : List κ) : ι → Option ν :=
  cs.foldl (fun d c => changes.apply stamp c d) d

/-- The last change of a key. -/
def last (k : ι) : List κ → Option κ
  | [] => none
  | c :: cs => (last k cs).or (if changes.key c = k then some c else none)

variable {changes} {d d' : ι → Option ν} {cs cs' : List κ} {c : κ} {k : ι}

variable (changes) in
theorem applied_settled (stamp : τ) (d : ι → Option ν) (cs : List κ) :
    changes.Applied cs d (changes.settled stamp d cs) := by
  induction cs generalizing d with
  | nil => rfl
  | cons c cs ih => exact ⟨stamp, ih _⟩

/-- A log in two parts is applied by way of some content in between. -/
theorem applied_append : changes.Applied (cs ++ cs') d d' ↔
    ∃ mid, changes.Applied cs d mid ∧ changes.Applied cs' mid d' := by
  induction cs generalizing d with
  | nil =>
    constructor
    · exact fun applied => ⟨d, rfl, applied⟩
    · rintro ⟨mid, rfl, applied⟩
      exact applied
  | cons first cs ih =>
    constructor
    · rintro ⟨stamp, applied⟩
      obtain ⟨mid, before, after⟩ := ih.mp applied
      exact ⟨mid, ⟨stamp, before⟩, after⟩
    · rintro ⟨mid, ⟨stamp, before⟩, after⟩
      exact ⟨stamp, ih.mpr ⟨mid, before, after⟩⟩

theorem Applied.snoc (applied : changes.Applied cs d d') (c : κ) (stamp : τ) :
    changes.Applied (cs ++ [c]) d (changes.apply stamp c d') :=
  applied_append.mpr ⟨d', applied, stamp, rfl⟩

theorem last_eq_none : changes.last k cs = none ↔ ∀ c ∈ cs, changes.key c ≠ k := by
  induction cs with
  | nil => simp [last]
  | cons first cs ih => simp [last, ih, and_comm]

/-- The last change of a key is one of the changes, and no later one is of that key. -/
theorem last_eq_some (last : changes.last k cs = some c) :
    ∃ before after, cs = before ++ c :: after ∧ changes.key c = k ∧
      ∀ c' ∈ after, changes.key c' ≠ k := by
  induction cs with
  | nil => cases last
  | cons first cs ih =>
    unfold Changes.last at last
    -- The last change is looked for in the rest first.
    cases rest : changes.last k cs with
    | some c' =>
      rw [rest] at last
      cases last
      obtain ⟨before, after, rfl, key, later⟩ := ih rest
      exact ⟨first :: before, after, rfl, key, later⟩
    | none =>
      rw [rest] at last
      by_cases here : changes.key first = k
      · simp only [here, Option.none_or, if_true] at last
        cases last
        exact ⟨[], cs, rfl, here, last_eq_none.mp rest⟩
      · simp [here] at last

/-- The last change of a key in a log of two parts is in the second one if that has any. -/
theorem last_append : changes.last k (cs ++ cs') = (changes.last k cs').or (changes.last k cs) := by
  induction cs with
  | nil => simp [last]
  | cons first cs ih => simp [last, ih, Option.or_assoc]

/-- Where every key is changed at most once, each change is the last one of its key. -/
theorem last_of_mem (apart : (cs.map changes.key).Nodup) (member : c ∈ cs) :
    changes.last (changes.key c) cs = some c := by
  obtain ⟨before, after, rfl⟩ := List.append_of_mem member
  rw [List.map_append, List.map_cons, List.nodup_append, List.nodup_cons] at apart
  have later : changes.last (changes.key c) after = none :=
    last_eq_none.mpr fun c' member' same =>
      apart.2.1.1 (List.mem_map.mpr ⟨c', member', same⟩)
  rw [last_append, last, later]
  simp

/-- What a key holds afterwards: what its last change put there, or what it held before. -/
def Shows (changes : Changes κ ι τ ν) (cs : List κ) (d : ι → Option ν) (k : ι) (v : Option ν) :
    Prop :=
  match changes.last k cs with
  | none => v = d k
  | some c => ∃ stamp, v = changes.value stamp c

/-- After the changes every key shows what the log says. -/
theorem Applied.shows (applied : changes.Applied cs d d') (k : ι) :
    changes.Shows cs d k (d' k) := by
  induction cs generalizing d with
  | nil =>
    cases applied
    rfl
  | cons first cs ih =>
    obtain ⟨stamp, applied⟩ := applied
    have rest := ih applied
    unfold Shows at *
    unfold last
    -- A later change of the key hides the first one; otherwise the first one may be its last.
    cases later : changes.last k cs with
    | some c =>
      rw [later] at rest
      exact rest
    | none =>
      rw [later] at rest
      by_cases here : changes.key first = k
      · simp only [here, Option.none_or, if_true]
        exact ⟨stamp, rest.trans (if_pos here.symm)⟩
      · simp only [here, Option.none_or, if_false]
        exact rest.trans (if_neg (Ne.symm here))

theorem Shows.of_last {v : Option ν} (shown : changes.Shows cs d k v)
    (last : changes.last k cs = some c) : ∃ stamp, v = changes.value stamp c := by
  unfold Shows at shown
  rw [last] at shown
  exact shown

theorem Shows.frame {v : Option ν} (shown : changes.Shows cs d k v)
    (untouched : changes.last k cs = none) : v = d k := by
  unfold Shows at shown
  rw [untouched] at shown
  exact shown

/-- Keys without a change are all that is left of the old content. -/
theorem Shows.congr {v : Option ν} (shown : changes.Shows cs d k v)
    (same : changes.last k cs = none → d k = d' k) : changes.Shows cs d' k v := by
  unfold Shows at *
  cases last : changes.last k cs with
  | none =>
    rw [last] at shown
    exact shown.trans (same last)
  | some c =>
    rw [last] at shown
    exact shown

theorem Applied.of_last (applied : changes.Applied cs d d') (last : changes.last k cs = some c) :
    ∃ stamp, d' k = changes.value stamp c :=
  (applied.shows k).of_last last

theorem Applied.frame (applied : changes.Applied cs d d') (untouched : changes.last k cs = none) :
    d' k = d k :=
  (applied.shows k).frame untouched

/-- A beginning of the changes leaves alone what the changes leave alone. -/
theorem last_prefix (untouched : changes.last k cs = none) (inside : cs' <+: cs) :
    changes.last k cs' = none :=
  last_eq_none.mpr fun c member => last_eq_none.mp untouched c (inside.subset member)

end Changes

end Crash
