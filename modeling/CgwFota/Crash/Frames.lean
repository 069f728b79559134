import CgwFota.Crash.Throwing

/-!
# What programs that throw lead to

The relations between worlds that a program leads to, however it ends, where the program may throw
as well.

## Main definition

`Leads`: the relation holds between the world a program was started in and the world it leaves,
whether it returns, throws or crashes. It is the frame a program is proved to respect when nothing
more is known about it than which parts of the world it can write to, and it is derived from
`Follows`, rule by rule: every construct of the language of programs has one.
-/
namespace Crash.Throwing

variable {ε ω χ α β σ : Type} {e : ε} {R : ω → ω → Prop}

/-- `R` leads from the world `m` was started in to where it returns, throws or crashes. -/
def Leads (e : ε) (R : ω → ω → Prop) (m : Throwing ε ω χ α) : Prop := Follows e R R m.run

theorem Leads.attempt {m : Program ε ω (Except χ α)} (h : Follows e R R m) :
    Leads e R (attempt m) := h

theorem Leads.ite {p : Prop} [Decidable p] {m n : Throwing ε ω χ α} (hm : p → Leads e R m)
    (hn : ¬p → Leads e R n) : Leads e R (if p then m else n) := by
  split
  next yes => exact hm yes
  next no => exact hn no

variable [IsPreorder ω R]

theorem Leads.pure (a : α) : Leads e R (Pure.pure a : Throwing ε ω χ α) := fun w => refl_of R w

theorem Leads.throw (x : χ) : Leads e R (throw x : Throwing ε ω χ α) := fun w => refl_of R w

variable [Trans R R R]

/-- What comes after an exception never runs, and what comes after a value goes on from there. -/
theorem Leads.bind {m : Throwing ε ω χ β} {f : β → Throwing ε ω χ α} (hm : Leads e R m)
    (hf : ∀ b, Leads e R (f b)) : Leads e R (m >>= f) := by
  apply Follows.bind hm
  rintro (x | b)
  -- An exception ends the program where it is.
  · exact Follows.pure _
  · exact hf b

/-- A loop leads where its body does, by induction on what is left to be run over. -/
theorem Leads.fold {m : σ → α → Throwing ε ω χ σ} {as : List α}
    (each : ∀ a ∈ as, ∀ s, Leads e R (m s a)) (s : σ) : Leads e R (fold m as s) := by
  induction as generalizing s with
  | nil => exact Leads.pure s
  | cons a as ih =>
    apply (each a List.mem_cons_self s).bind
    exact fun s' => ih (fun b member => each b (List.mem_cons_of_mem _ member)) s'

end Crash.Throwing
