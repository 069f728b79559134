import CgwFota.Crash.Program

/-!
# Programs that throw

A program that throws has a third way to stop. The second half relates such a program to what it
does where nothing disturbs it: a list of changes and a result. A disturbance may cut the list
short.

## Main definitions

* `Throwing`: programs with exceptions, over the programs that may crash.
* `wpt`: the weakest precondition with three postconditions, for a value, an exception and a crash.
* `Performs`: from a world reached by some changes, the program makes exactly these further changes
  and ends with this result; where something disturbs it, it has made a beginning of them.
* `Reads`: the program changes nothing and returns a value with some property.

## Proof strategy

A program is proved to perform a script in the order in which it is written: `bind` puts the changes
of two programs after one another, `fold` those of the rounds of a loop. What may vary between runs,
such as the time of day, is read by `Reads` and does not show in the script.
-/
namespace Crash

/-- Programs with exceptions of type `χ`. -/
abbrev Throwing (ε ω χ : Type) : Type → Type := ExceptT χ (Program ε ω)

variable {ε ω χ α β σ κ : Type}

namespace Throwing

/-- Run a program that reports its failure as a value. -/
def attempt (m : Program ε ω (Except χ α)) : Throwing ε ω χ α := ExceptT.mk m

/-- Run `m` on every element in turn and pass a value along. -/
def fold (m : σ → α → Throwing ε ω χ σ) : List α → σ → Throwing ε ω χ σ
  | [], s => pure s
  | a :: as, s => do
    let s ← m s a
    fold m as s

end Throwing

open Throwing

/-! ### Weakest preconditions -/

/-- What holds at the end: `Q` of a value, `E` of an exception. -/
def Ending (Q : α → ω → Prop) (E : χ → ω → Prop) : Except χ α → ω → Prop
  | .ok a => Q a
  | .error x => E x

/-- `Q` holds where `m` returns, `E` where it throws and `C` where it crashes. -/
def wpt (m : Throwing ε ω χ α) (Q : α → ω → Prop) (E : χ → ω → Prop) (C : ω → Prop) (e : ε)
    (w : ω) : Prop :=
  wp m.run (Ending Q E) C e w

section Rules

variable {Q Q' : α → ω → Prop} {E E' : χ → ω → Prop} {C C' : ω → Prop} {e : ε} {w : ω}

@[simp] theorem wpt_pure (a : α) : wpt (pure a) Q E C e w ↔ Q a w := Iff.rfl

@[simp] theorem wpt_throw (x : χ) :
    wpt (throw x : Throwing ε ω χ α) Q E C e w ↔ E x w := Iff.rfl

@[simp] theorem wpt_attempt (m : Program ε ω (Except χ α)) :
    wpt (attempt m) Q E C e w ↔ wp m (Ending Q E) C e w := Iff.rfl

/-- A program in sequence: an exception or a crash of the first part is one of the whole. -/
@[simp] theorem wpt_bind (m : Throwing ε ω χ β) (f : β → Throwing ε ω χ α) :
    wpt (m >>= f) Q E C e w ↔ wpt m (fun b w' => wpt (f b) Q E C e w') E C e w := by
  -- The continuation of the transformer is the case distinction on how the first part ended.
  have same : Ending (fun b w' => wpt (f b) Q E C e w') E =
      fun r w' => wp (ExceptT.bindCont f r) (Ending Q E) C e w' := by
    funext r w'
    cases r with
    | ok b => rfl
    | error x => rfl
  have whole := wp_bind (Q := Ending Q E) (C := C) (e := e) (w := w) m.run (ExceptT.bindCont f)
  rw [← same] at whole
  exact whole

theorem wpt_mono {m : Throwing ε ω χ α} (h : wpt m Q E C e w)
    (done : ∀ a w', Q a w' → Q' a w') (thrown : ∀ x w', E x w' → E' x w')
    (crashed : ∀ w', C w' → C' w') : wpt m Q' E' C' e w := by
  apply wp_mono h _ crashed
  intro r w' ending
  cases r with
  | ok a => exact done a w' ending
  | error x => exact thrown x w' ending

end Rules

/-! ### What a program does -/

/-- A disturbance cut the changes short. -/
def CutShort (disturbed : Prop) (Reached : List κ → ω → Prop) (changes : List κ) (w : ω) : Prop :=
  disturbed ∧ ∃ part, part <+: changes ∧ Reached part w

/-- After the changes `before`, the program makes the changes `next` and ends with `r`, unless a
disturbance cuts it short. -/
def Performs (e : ε) (disturbed : Prop) (Reached : List κ → ω → Prop) (before : List κ)
    (m : Throwing ε ω χ α) (next : List κ) (r : Except χ α) : Prop :=
  ∀ w, Reached before w →
    wpt m (fun a w' => r = .ok a ∧ Reached (before ++ next) w')
      (fun x w' => (r = .error x ∧ Reached (before ++ next) w') ∨
        CutShort disturbed Reached (before ++ next) w')
      (CutShort disturbed Reached (before ++ next)) e w

/-- After the changes `before`, the program changes nothing and returns a value with property `P`,
unless a disturbance stops it. -/
def Reads (e : ε) (disturbed : Prop) (Reached : List κ → ω → Prop) (before : List κ)
    (m : Throwing ε ω χ α) (P : α → Prop) : Prop :=
  ∀ w, Reached before w →
    wpt m (fun a w' => P a ∧ Reached before w') (fun _ => CutShort disturbed Reached before)
      (CutShort disturbed Reached before) e w

/-- The changes and the result of a loop, from those of its body. -/
def loop (body : σ → α → List κ × Except χ σ) : List α → σ → List κ × Except χ σ
  | [], s => ([], .ok s)
  | a :: as, s =>
    match body s a with
    | (changes, .error x) => (changes, .error x)
    | (changes, .ok s) => (changes ++ (loop body as s).1, (loop body as s).2)

theorem loop_congr {body body' : σ → α → List κ × Except χ σ} {as : List α}
    (same : ∀ a ∈ as, ∀ s, body s a = body' s a) (s : σ) : loop body as s = loop body' as s := by
  induction as generalizing s with
  | nil => rfl
  | cons a as ih =>
    unfold loop
    rw [same a List.mem_cons_self s]
    rcases body' s a with ⟨changes, result⟩
    cases result with
    | error x => rfl
    | ok s' =>
      dsimp only
      rw [ih fun b member => same b (List.mem_cons_of_mem _ member)]

section Performs

variable {e : ε} {disturbed : Prop} {Reached : List κ → ω → Prop} {before next later : List κ}

theorem CutShort.append {changes : List κ} {w : ω} (cut : CutShort disturbed Reached changes w)
    (rest : List κ) : CutShort disturbed Reached (changes ++ rest) w := by
  obtain ⟨really, part, inside, reached⟩ := cut
  exact ⟨really, part, inside.trans (List.prefix_append _ _), reached⟩

namespace Performs

theorem pure (a : α) :
    Performs e disturbed Reached before (pure a : Throwing ε ω χ α) [] (.ok a) := by
  intro w reached
  rw [wpt_pure, List.append_nil]
  exact ⟨rfl, reached⟩

theorem throw (x : χ) :
    Performs e disturbed Reached before (throw x : Throwing ε ω χ α) [] (.error x) := by
  intro w reached
  rw [wpt_throw, List.append_nil]
  exact .inl ⟨rfl, reached⟩

/-- The changes of two programs come after one another. -/
theorem bind {m : Throwing ε ω χ β} {f : β → Throwing ε ω χ α} {b : β} {r : Except χ α}
    (first : Performs e disturbed Reached before m next (.ok b))
    (second : Performs e disturbed Reached (before ++ next) (f b) later r) :
    Performs e disturbed Reached before (m >>= f) (next ++ later) r := by
  intro w reached
  rw [wpt_bind, ← List.append_assoc]
  refine wpt_mono (first w reached) ?_ ?_ ?_
  -- Nothing disturbed the first part, so the second one starts where the script says.
  · rintro b' w' ⟨same, reached⟩
    cases same
    exact second w' reached
  -- The first part was cut short, and with it the whole.
  · rintro x w' (⟨failed, -⟩ | cut)
    · cases failed
    · exact .inr (cut.append later)
  · exact fun w' cut => cut.append later

theorem bind_silent {m : Throwing ε ω χ β} {f : β → Throwing ε ω χ α} {b : β} {r : Except χ α}
    (first : Performs e disturbed Reached before m [] (.ok b))
    (second : Performs e disturbed Reached before (f b) next r) :
    Performs e disturbed Reached before (m >>= f) next r := by
  apply first.bind
  rw [List.append_nil]
  exact second

/-- After an exception the second part never runs. -/
theorem bind_error {m : Throwing ε ω χ β} {f : β → Throwing ε ω χ α} {x : χ}
    (first : Performs e disturbed Reached before m next (.error x)) :
    Performs e disturbed Reached before (m >>= f) next (.error x) := by
  intro w reached
  rw [wpt_bind]
  refine wpt_mono (first w reached) ?_ ?_ ?_
  · rintro b w' ⟨failed, -⟩
    cases failed
  · rintro x' w' (⟨same, reached⟩ | cut)
    · cases same
      exact .inl ⟨rfl, reached⟩
    · exact .inr cut
  · exact fun w' cut => cut

/-- A program that ends by returning something computed from what it got. -/
theorem returning {m : Throwing ε ω χ β} {r : Except χ β} (g : β → α)
    (done : Performs e disturbed Reached before m next r) :
    Performs e disturbed Reached before (m >>= fun b => Pure.pure (g b)) next (r.map g) := by
  cases r with
  | error x => exact bind_error done
  | ok b =>
    rw [← List.append_nil next]
    apply bind done
    exact Performs.pure (g b)

/-- A loop performs what its body performs. `Fine` speaks about the elements that are left and the
changes made so far. -/
theorem fold {m : σ → α → Throwing ε ω χ σ} {body : σ → α → List κ × Except χ σ}
    (Fine : List α → List κ → Prop)
    (each : ∀ a as s before, Fine (a :: as) before →
      Performs e disturbed Reached before (m s a) (body s a).1 (body s a).2)
    (fine : ∀ a as s before, Fine (a :: as) before → Fine as (before ++ (body s a).1))
    (as : List α) (s : σ) (start : Fine as before) :
    Performs e disturbed Reached before (fold m as s) (loop body as s).1 (loop body as s).2 := by
  induction as generalizing s before with
  | nil => exact Performs.pure s
  -- The induction is on what is left of the list; the changes so far are generalised.
  | cons a as ih =>
    have first := each a as s before start
    have after := fine a as s before start
    unfold loop
    rcases body : body s a with ⟨changes, result⟩
    rw [body] at first after
    cases result with
    | error x => exact bind_error first
    | ok s' => exact first.bind (ih s' after)

end Performs

/-- What a program reads may vary from run to run; what it goes on to do does not. -/
theorem Reads.bind {m : Throwing ε ω χ β} {f : β → Throwing ε ω χ α} {P : β → Prop}
    {r : Except χ α} (first : Reads e disturbed Reached before m P)
    (second : ∀ b, P b → Performs e disturbed Reached before (f b) next r) :
    Performs e disturbed Reached before (m >>= f) next r := by
  intro w reached
  rw [wpt_bind]
  refine wpt_mono (first w reached) ?_ ?_ ?_
  · rintro b w' ⟨read, reached⟩
    exact second b read w' reached
  · exact fun x w' cut => .inr (cut.append next)
  · exact fun w' cut => cut.append next

end Performs

end Crash
