import Mathlib.Data.List.Induction

/-!
# What happened in a run

A run takes one step after another from where it starts.  That something happened in it is said of
the steps, each in the state in which it was made (`Happened`), and not of what the state remembers.
A property of states that begins with such an event and then stays tells whether it happened
(`happened_iff`).
-/

namespace Callpoint

variable {σ τ : Type} {step : σ → τ → σ} {start : σ} {event other : σ → τ → Prop} {xs : List τ}

/-- **Something happened** in a run: one of its steps was such an event, in the state in which it
was made. -/
def Happened (step : σ → τ → σ) (start : σ) (event : σ → τ → Prop) (xs : List τ) : Prop :=
  ∃ before x after, xs = before ++ x :: after ∧ event (before.foldl step start) x

theorem not_happened_nil : ¬ Happened step start event [] := by
  rintro ⟨before, x, after, hsplit, -⟩
  exact List.append_ne_nil_of_right_ne_nil before (List.cons_ne_nil x after) hsplit.symm

/-- What happened in a run happened at its last step or before. -/
theorem happened_append_singleton (x : τ) :
    Happened step start event (xs ++ [x]) ↔
      Happened step start event xs ∨ event (xs.foldl step start) x := by
  constructor
  · rintro ⟨before, y, after, hsplit, hevent⟩
    rcases List.eq_nil_or_concat after with rfl | ⟨after, z, rfl⟩
    · obtain ⟨rfl, hx⟩ := List.append_inj' hsplit rfl
      obtain rfl := List.singleton_inj.mp hx
      exact Or.inr hevent
    · rw [List.concat_eq_append, ← List.cons_append, ← List.append_assoc] at hsplit
      exact Or.inl ⟨before, y, after, (List.append_inj' hsplit rfl).1, hevent⟩
  · rintro (⟨before, y, after, rfl, hevent⟩ | hevent)
    · exact ⟨before, y, after ++ [x], by rw [List.append_assoc, List.cons_append], hevent⟩
    · exact ⟨xs, x, [], rfl, hevent⟩

/-- **What holds from an event on** tells whether it happened.  The states of the run may be known
to keep an invariant. -/
theorem happened_iff {P I : σ → Prop} (hinv : ∀ s x, I s → I (step s x))
    (hstep : ∀ s x, I s → (P (step s x) ↔ P s ∨ event s x)) (hstart : I start)
    (hnot : ¬ P start) (xs : List τ) :
    P (xs.foldl step start) ↔ Happened step start event xs := by
  induction xs using List.reverseRecOn with
  | nil => exact iff_of_false hnot not_happened_nil
  | append_singleton xs x ih =>
    have hstate : I (xs.foldl step start) :=
      List.foldlRecOn xs step hstart fun s hs y _ => hinv s y hs
    rw [happened_append_singleton, ← ih, List.foldl_append]
    exact hstep _ x hstate

/-- One of two things happened if the one did or the other. -/
theorem happened_or :
    Happened step start (fun s x => event s x ∨ other s x) xs ↔
      Happened step start event xs ∨ Happened step start other xs := by
  constructor
  · rintro ⟨before, x, after, hsplit, hevent | hother⟩
    · exact Or.inl ⟨before, x, after, hsplit, hevent⟩
    · exact Or.inr ⟨before, x, after, hsplit, hother⟩
  · rintro (⟨before, x, after, hsplit, hevent⟩ | ⟨before, x, after, hsplit, hother⟩)
    · exact ⟨before, x, after, hsplit, Or.inl hevent⟩
    · exact ⟨before, x, after, hsplit, Or.inr hother⟩

end Callpoint
