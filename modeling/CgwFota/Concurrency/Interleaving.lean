import Mathlib.Data.Nat.Init
import Mathlib.Order.WellFounded
import Mathlib.Tactic.Common

/-!
# Interleavings

The parties of a system take their steps in any order. A step is an action, and an action is not
enabled in every state. What holds at the start and is kept by every allowed action holds in every
state that is reached.

## Main definitions

* `Reach`: the states that allowed actions lead to
* `Run`: an endless run, in which nothing may happen at a time
* `Fair`, `FairTo`: an action, or some action of a set, that stays enabled is taken

## Main results

* `Reach.invariant`: the rule for what holds in every state
* `Run.Fair.taken`: the rule for what a fair action ends
* `Run.reaches`: the rule for what happens at some time, by a rank that only goes down

## Proof strategy

`reaches` is proved by induction on the rank. As long as the goal is not met and the rank is not
lowered, the set of helping actions does not change, so fairness applies to it.
-/
namespace Interleaving

variable {σ α : Type} {step : σ → α → Option σ} {allowed : σ → α → Prop} {first s s' : σ}

/-- The states that allowed actions lead to. -/
inductive Reach (step : σ → α → Option σ) (allowed : σ → α → Prop) (first : σ) : σ → Prop
  | start : Reach step allowed first first
  | next {s s' : σ} {a : α} (reach : Reach step allowed first s) (fine : allowed s a)
    (moved : step s a = some s') : Reach step allowed first s'

/-- What holds at the start and is kept by every allowed action holds wherever a run leads. -/
theorem Reach.invariant {P : σ → Prop} (reach : Reach step allowed first s) (start : P first)
    (keeps : ∀ s a s', P s → allowed s a → step s a = some s' → P s') : P s := by
  induction reach with
  | start => exact start
  | next _ fine moved ih => exact keeps _ _ _ ih fine moved

/-- A guarded action is enabled where its guard holds. -/
theorem of_guarded {guard : Prop} [Decidable guard] {next : σ}
    (moved : (if guard then some next else none) = some s') : guard ∧ next = s' := by
  obtain ⟨met, same⟩ := Option.ite_none_right_eq_some.mp moved
  exact ⟨met, Option.some.inj same⟩

/-- One action after the other. -/
def walk (step : σ → α → Option σ) (s : σ) : List α → Option σ
  | [] => some s
  | a :: as => (step s a).bind fun s => walk step s as

/-- A walk of allowed actions stays among the states that are reached. -/
theorem Reach.walk {as : List α} (reach : Reach step allowed first s)
    (fine : ∀ s, ∀ a ∈ as, allowed s a) (walked : walk step s as = some s') :
    Reach step allowed first s' := by
  induction as generalizing s with
  | nil =>
    cases walked
    exact reach
  | cons a as ih =>
    unfold Interleaving.walk at walked
    obtain ⟨mid, moved, walked⟩ := Option.bind_eq_some_iff.mp walked
    exact ih (reach.next (fine s a List.mem_cons_self) moved)
      (fun s b member => fine s b (List.mem_cons_of_mem _ member)) walked

/-- A walk through two lists of actions is a walk through the one and then through the other. -/
theorem walk_append (as bs : List α) :
    walk step s (as ++ bs) = (walk step s as).bind fun s => walk step s bs := by
  induction as generalizing s with
  | nil => rfl
  | cons a as ih =>
    show ((step s a).bind fun s => walk step s (as ++ bs)) =
      ((step s a).bind fun s => walk step s as).bind fun s => walk step s bs
    rw [Option.bind_assoc]
    exact Option.bind_congr fun mid _ => ih

/-! ### Endless runs -/

/-- A run without end. At a time without an action nothing happens. -/
structure Run (step : σ → α → Option σ) (first : σ) where
  state : Nat → σ
  action : Nat → Option α
  begins : state 0 = first
  moved : ∀ n a, action n = some a → step (state n) a = some (state (n + 1))
  still : ∀ n, action n = none → state (n + 1) = state n

namespace Run

variable {run : Run step first} {n : Nat} {a : α}

/-- An action that stays enabled is taken. -/
def Fair (run : Run step first) (a : α) : Prop :=
  ∀ n, (∀ m ≥ n, ∃ s, step (run.state m) a = some s) → ∃ m ≥ n, run.action m = some a

theorem reach (run : Run step first) (n : Nat) :
    Reach step (fun _ _ => True) first (run.state n) := by
  induction n with
  | zero =>
    rw [run.begins]
    exact .start
  | succ n ih =>
    cases taken : run.action n with
    -- at a time without an action the state stays
    | none =>
      rw [run.still n taken]
      exact ih
    | some a => exact ih.next trivial (run.moved n a taken)

/-- What nothing but one action of a set can end lasts until such an action is taken. -/
theorem lasts {P : σ → Prop} (ends : α → Prop)
    (keeps : ∀ m ≥ n, ∀ a, run.action m = some a → ¬ends a → P (run.state m) →
      P (run.state (m + 1)))
    (never : ∀ m ≥ n, P (run.state m) → ∀ a, run.action m = some a → ¬ends a)
    (here : P (run.state n)) : ∀ m ≥ n, P (run.state m) := by
  intro m later
  induction m, later using Nat.le_induction with
  | base => exact here
  | succ m later ih =>
    cases taken : run.action m with
    | none =>
      rw [run.still m taken]
      exact ih
    | some a => exact keeps m later a taken (never m later ih a taken) ih

/-- A condition that enables a fair action and is ended by nothing else is ended by it. -/
theorem Fair.taken {P : σ → Prop} (fair : run.Fair a)
    (enabled : ∀ m ≥ n, P (run.state m) → ∃ s, step (run.state m) a = some s)
    (keeps : ∀ m ≥ n, ∀ b, run.action m = some b → b ≠ a → P (run.state m) →
      P (run.state (m + 1)))
    (here : P (run.state n)) : ∃ m ≥ n, P (run.state m) ∧ run.action m = some a := by
  by_contra never
  have other : ∀ m ≥ n, P (run.state m) → ∀ b, run.action m = some b → b ≠ a := by
    rintro m later holds b taken rfl
    exact never ⟨m, later, holds, taken⟩
  -- the action is never taken, so the condition lasts and enables it forever
  have always := lasts (· = a) keeps other here
  obtain ⟨m, later, taken⟩ := fair n fun m later => enabled m later (always m later)
  exact never ⟨m, later, always m later, taken⟩

/-- When some action of a set is enabled from some time on, one of the set is taken. -/
def FairTo (run : Run step first) (acts : α → Prop) : Prop :=
  ∀ n, (∀ m ≥ n, ∃ a s, acts a ∧ step (run.state m) a = some s) →
    ∃ m ≥ n, ∃ a, acts a ∧ run.action m = some a

/-- The run that walks through a list of actions and rests. -/
def through (as : List α) (last : σ) (walked : walk step first as = some last) :
    Run step first where
  state n := (walk step first (as.take n)).getD last
  action n := as[n]?
  begins := by simp [walk]
  moved n a taken := by
    obtain ⟨bound, rfl⟩ := List.getElem?_eq_some_iff.mp taken
    have next := List.take_succ_eq_append_getElem bound
    rw [← List.take_append_drop (n + 1) as, walk_append, next, walk_append] at walked
    obtain ⟨_, reached, -⟩ := Option.bind_eq_some_iff.mp walked
    obtain ⟨mid, before, moved⟩ := Option.bind_eq_some_iff.mp reached
    obtain ⟨after, moved, -⟩ := Option.bind_eq_some_iff.mp moved
    rw [next, walk_append, before]
    simp [walk, moved]
  still n none := by
    have past := List.getElem?_eq_none_iff.mp none
    rw [List.take_of_length_le past, List.take_of_length_le (by omega)]

/-- Past the list nothing has to be taken where nothing is enabled. -/
theorem through_fair {as : List α} {last : σ} (walked : walk step first as = some last)
    {acts : α → Prop} (rests : ∀ a, acts a → step last a = none) :
    (through as last walked).FairTo acts := by
  intro n enabled
  -- past the end of the list the run rests in its last state
  obtain ⟨a, s, helps, moved⟩ := enabled (max n as.length) (Nat.le_max_left _ _)
  have there : (through as last walked).state (max n as.length) = last := by
    show (walk step first (as.take (max n as.length))).getD last = last
    rw [List.take_of_length_le (Nat.le_max_right _ _), walked]
    rfl
  rw [there, rests a helps] at moved
  cases moved

/-! ### Ranks -/

/-- A goal is reached when at any time before some set of actions helps: it is enabled and fair,
its actions lower the rank, and every other action lowers the rank or keeps it and the set. -/
theorem reaches {κ β : Type} {r : β → β → Prop} (wf : WellFounded r) (goal : σ → Prop)
    (rank : σ → β) (acts : κ → α → Prop) (helper : σ → κ) (fair : ∀ k, run.FairTo (acts k))
    (enabled : ∀ m, ¬goal (run.state m) →
      ∃ a s, acts (helper (run.state m)) a ∧ step (run.state m) a = some s)
    (moves : ∀ m a, ¬goal (run.state m) → run.action m = some a →
      goal (run.state (m + 1)) ∨ r (rank (run.state (m + 1))) (rank (run.state m)) ∨
        ¬acts (helper (run.state m)) a ∧ rank (run.state (m + 1)) = rank (run.state m) ∧
          helper (run.state (m + 1)) = helper (run.state m)) :
    ∀ n, ∃ m ≥ n, goal (run.state m) := by
  intro n
  generalize same : rank (run.state n) = b
  induction b using wf.induction generalizing n with
  | _ b ih =>
    by_contra never
    have before : ∀ m ≥ n, ¬goal (run.state m) := fun m later met => never ⟨m, later, met⟩
    have higher : ∀ m ≥ n, ¬r (rank (run.state m)) b := by
      intro m later lower
      -- a lower rank reaches the goal, by the induction
      obtain ⟨k, after, met⟩ := ih _ lower m rfl
      exact before k (by omega) met
    -- Until the helper acts, nothing changes the rank or the helper.
    have stays : ∀ m ≥ n, rank (run.state m) = b ∧
        helper (run.state m) = helper (run.state n) ∧
        ∀ a, run.action m = some a → ¬acts (helper (run.state n)) a := by
      have one : ∀ m ≥ n, rank (run.state m) = b → helper (run.state m) = helper (run.state n) →
          ∀ a, run.action m = some a → ¬acts (helper (run.state n)) a ∧
            rank (run.state (m + 1)) = b ∧
            helper (run.state (m + 1)) = helper (run.state n) := by
        intro m later level helps a taken
        rcases moves m a (before m later) taken with met | lower | ⟨other, kept, helped⟩
        -- the goal is met, the rank goes down, or the helper has not acted
        · exact absurd met (before (m + 1) (by omega))
        · rw [level] at lower
          exact absurd lower (higher (m + 1) (by omega))
        · exact ⟨helps ▸ other, kept.trans level, helped.trans helps⟩
      intro m later
      have level : rank (run.state m) = b ∧ helper (run.state m) = helper (run.state n) := by
        induction m, later using Nat.le_induction with
        | base => exact ⟨same, rfl⟩
        | succ m later stay =>
          cases taken : run.action m with
          | none =>
            rw [run.still m taken]
            exact stay
          | some a => exact (one m later stay.1 stay.2 a taken).2
      exact ⟨level.1, level.2, fun a taken => (one m later level.1 level.2 a taken).1⟩
    obtain ⟨m, later, a, helps, taken⟩ := fair (helper (run.state n)) n fun m later => by
      rw [← (stays m later).2.1]
      exact enabled m (before m later)
    exact (stays m later).2.2 a taken helps

end Run

end Interleaving
