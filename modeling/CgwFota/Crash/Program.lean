import Mathlib.Order.Defs.Unbundled
import Mathlib.Tactic.Common

/-!
# Programs that may be cut short

A program runs in an environment and changes a world. It either finishes with a value or crashes
part way; what it did to the world before the crash stays. Its weakest precondition therefore has
two postconditions, one for each way to stop.

## Main definitions

* `Program`: the monad, with `Outcome` for the two ways to stop.
* `wp`: the weakest precondition. Its rules are equivalences for the constructs of the language and
  are tagged for `simp`, so that a program is run symbolically by rewriting.
* `Keeps`: a program keeps an invariant however it stops.
* `Follows`: the relations between the world a program starts in and the one it leaves. Frame
  conditions are of this form, and invariants follow from them.
* `Outcome.settle`: what becomes of the world when a crashed process is restarted.
-/
namespace Crash

/-- How a program stops, with the world it leaves behind. -/
inductive Outcome (ω α : Type) where
  | done (value : α) (world : ω)
  | crashed (world : ω)

def Program (ε ω α : Type) : Type := ε → ω → Outcome ω α

variable {ε ω α β : Type}

namespace Program

protected def pure (a : α) : Program ε ω α := fun _ w => .done a w

protected def bind (m : Program ε ω α) (f : α → Program ε ω β) : Program ε ω β := fun e w =>
  match m e w with
  | .done a w' => f a e w'
  | .crashed w' => .crashed w'

instance : Monad (Program ε ω) where
  pure := Program.pure
  bind := Program.bind

/-- The current world. -/
def world : Program ε ω ω := fun _ w => .done w w

/-- Change the world without giving the process a chance to crash. -/
def update (f : ω → ω) : Program ε ω Unit := fun _ w => .done () (f w)

/-- Run `m` on every element in turn. -/
def forEach (m : α → Program ε ω Unit) : List α → Program ε ω Unit
  | [] => pure ()
  | a :: as => do
    m a
    forEach m as

/-- Steps may be grouped in either way. -/
theorem bind_bind {γ : Type} (m : Program ε ω α) (f : α → Program ε ω β) (g : β → Program ε ω γ) :
    (m >>= f) >>= g = m >>= fun a => f a >>= g := by
  funext e w
  simp only [bind, Program.bind]
  cases m e w with
  | done a w' => rfl
  | crashed w' => rfl

end Program

open Program

/-! ### Weakest preconditions -/

/-- `Q` holds where `m` finishes and `C` where it crashes. -/
def wp (m : Program ε ω α) (Q : α → ω → Prop) (C : ω → Prop) (e : ε) (w : ω) : Prop :=
  match m e w with
  | .done a w' => Q a w'
  | .crashed w' => C w'

section Rules

variable {Q Q' : α → ω → Prop} {C C' : ω → Prop} {e : ε} {w : ω}

@[simp] theorem wp_pure (a : α) : wp (pure a) Q C e w ↔ Q a w := Iff.rfl

@[simp] theorem wp_bind (m : Program ε ω β) (f : β → Program ε ω α) :
    wp (m >>= f) Q C e w ↔ wp m (fun b w' => wp (f b) Q C e w') C e w := by
  show wp (Program.bind m f) Q C e w ↔ _
  unfold wp Program.bind
  cases m e w <;> rfl

@[simp] theorem wp_world {Q : ω → ω → Prop} : wp world Q C e w ↔ Q w w := Iff.rfl

@[simp] theorem wp_update {Q : Unit → ω → Prop} (f : ω → ω) :
    wp (update f) Q C e w ↔ Q () (f w) := Iff.rfl

@[simp] theorem wp_ite (p : Prop) [Decidable p] (m n : Program ε ω α) :
    wp (if p then m else n) Q C e w ↔ if p then wp m Q C e w else wp n Q C e w := by
  split <;> rfl

theorem wp_mono {m : Program ε ω α} (h : wp m Q C e w)
    (done : ∀ a w', Q a w' → Q' a w') (crashed : ∀ w', C w' → C' w') :
    wp m Q' C' e w := by
  unfold wp at *
  cases run : m e w with
  | done a w' => rw [run] at h; exact done a w' h
  | crashed w' => rw [run] at h; exact crashed w' h

theorem wp_true {m : Program ε ω α} : wp m (fun _ _ => True) (fun _ => True) e w := by
  unfold wp
  split <;> trivial

theorem wp_and {m : Program ε ω α} (h : wp m Q C e w) (h' : wp m Q' C' e w) :
    wp m (fun a w => Q a w ∧ Q' a w) (fun w => C w ∧ C' w) e w := by
  unfold wp at *
  cases run : m e w with
  | done a w' => rw [run] at h h'; exact ⟨h, h'⟩
  | crashed w' => rw [run] at h h'; exact ⟨h, h'⟩

theorem of_wp {P : Prop} {m : Program ε ω α} (h : wp m (fun _ _ => P) (fun _ => P) e w) : P := by
  unfold wp at h
  split at h
  · exact h
  · exact h

instance decidableWp {m : Program ε ω α} [∀ a w, Decidable (Q a w)] [∀ w, Decidable (C w)] :
    Decidable (wp m Q C e w) :=
  match run : m e w with
  | .done a w' => decidable_of_iff (Q a w') (by simp only [wp, run])
  | .crashed w' => decidable_of_iff (C w') (by simp only [wp, run])

/-- The rule for a loop over a list: what the body keeps the loop keeps. -/
theorem wp_forEach {m : α → Program ε ω Unit} {I C : ω → Prop} (as : List α)
    (each : ∀ a ∈ as, ∀ w, I w → wp (m a) (fun _ => I) C e w) (w : ω) (holds : I w) :
    wp (forEach m as) (fun _ => I) C e w := by
  induction as generalizing w with
  | nil => exact holds
  | cons a as ih =>
    -- The invariant that the first round leaves is what the rest starts from.
    have rest := ih fun b member => each b (by simp [member])
    show wp (m a >>= fun _ => forEach m as) _ C e w
    rw [wp_bind]
    exact wp_mono (each a (by simp) w holds) (fun _ w' holds => rest w' holds) fun _ h => h

end Rules

/-! ### Invariants of programs -/

/-- Started where `I` holds, `m` leaves `I` true however it stops. -/
def Keeps (e : ε) (I : ω → Prop) (m : Program ε ω α) : Prop :=
  ∀ w, I w → wp m (fun _ => I) I e w

section Invariants

variable {e : ε} {I : ω → Prop}

theorem Keeps.pure (a : α) : Keeps e I (pure a) := fun _ h => h

theorem Keeps.bind {m : Program ε ω β} {f : β → Program ε ω α}
    (hm : Keeps e I m) (hf : ∀ b, Keeps e I (f b)) : Keeps e I (m >>= f) := by
  intro w h
  rw [wp_bind]
  exact wp_mono (hm w h) (fun b w' h' => hf b w' h') (fun _ h' => h')

theorem Keeps.ite {p : Prop} [Decidable p] {m n : Program ε ω α}
    (hm : p → Keeps e I m) (hn : ¬p → Keeps e I n) : Keeps e I (if p then m else n) := by
  split
  next yes => exact hm yes
  next no => exact hn no

theorem Keeps.update {f : ω → ω} (h : ∀ w, I w → I (f w)) : Keeps e I (update f) := h

end Invariants

/-! ### Effects of programs -/

/-- From the world `m` was started in, `R` leads to where it finishes and `C` to where it
crashes. -/
def Follows (e : ε) (R C : ω → ω → Prop) (m : Program ε ω α) : Prop :=
  ∀ w, wp m (fun _ => R w) (C w) e w

section Relations

variable {e : ε} {R R' C C' : ω → ω → Prop}

theorem Follows.keeps {m : Program ε ω α} (h : Follows e R C m) {I : ω → Prop}
    (done : ∀ w w', R w w' → I w → I w') (crashed : ∀ w w', C w w' → I w → I w') : Keeps e I m :=
  fun w holds => wp_mono (h w) (fun _ w' r => done w w' r holds)
    (fun w' c => crashed w w' c holds)

theorem Follows.mono {m : Program ε ω α} (h : Follows e R C m)
    (done : ∀ w w', R w w' → R' w w') (crashed : ∀ w w', C w w' → C' w w') : Follows e R' C' m :=
  fun w => wp_mono (h w) (fun _ w' => done w w') (fun w' => crashed w w')

theorem Follows.ite {p : Prop} [Decidable p] {m n : Program ε ω α}
    (hm : p → Follows e R C m) (hn : ¬p → Follows e R C n) :
    Follows e R C (if p then m else n) := by
  split
  next yes => exact hm yes
  next no => exact hn no

variable [IsPreorder ω R]

theorem Follows.pure (a : α) : Follows e R C (pure a) := fun w => refl_of R w

variable [Trans R C C]

/-- Two steps lead where the composition of their relations leads; a crash in the second one comes
after the whole first one. -/
theorem Follows.bind {m : Program ε ω β} {f : β → Program ε ω α}
    (hm : Follows e R C m) (hf : ∀ b, Follows e R C (f b)) : Follows e R C (m >>= f) := by
  intro w
  rw [wp_bind]
  exact wp_mono (hm w)
    (fun b w' r => wp_mono (hf b w') (fun _ _ => trans_of R r) (fun _ => Trans.trans r))
    (fun _ c => c)

theorem Follows.forEach {m : α → Program ε ω Unit} (hm : ∀ a, Follows e R C (m a)) :
    ∀ as, Follows e R C (forEach m as)
  | [] => Follows.pure ()
  | a :: as => (hm a).bind fun _ => Follows.forEach hm as

end Relations

/-! ### Runs -/

/-- Where the system goes on after a program: a crashed process is restarted. -/
def Outcome.settle (restart : ω → ω) : Outcome ω α → ω
  | .done _ w => w
  | .crashed w => restart w

theorem settle_of_wp {m : Program ε ω α} {e : ε} {w : ω} {restart : ω → ω} {P : ω → Prop}
    (h : wp m (fun _ => P) (fun w' => P (restart w')) e w) : P ((m e w).settle restart) := by
  unfold wp at h
  cases run : m e w with
  | done a w' => rw [run] at h; exact h
  | crashed w' => rw [run] at h; exact h

end Crash
