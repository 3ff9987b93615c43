/-!
# What results are like

What is made of a result is made of one that there is (`map_eq_ok_iff`).  A computation that may
fail `Yields` a property if its result has it whenever there is one.  The property is carried
through the steps of a computation (`Yields.bind`) and through loops (`Yields.foldlM`).
-/

namespace Callpoint

/-- **Whatever comes of a computation has a property.** -/
def Yields {ε α : Type} (x : Except ε α) (P : α → Prop) : Prop := ∀ a, x = .ok a → P a

variable {ε ε' α β : Type} {x : Except ε α} {P : α → Prop} {Q : β → Prop}

theorem yields_ok {a : α} (h : P a) : Yields (.ok a : Except ε α) P := fun _ heq =>
  Except.ok.inj heq ▸ h

theorem yields_error (e : ε) : Yields (.error e : Except ε α) P := fun _ heq => nomatch heq

theorem yields_any (x : Except ε α) : Yields x fun _ => True := fun _ _ => trivial

theorem ok_bind (a : α) (f : α → Except ε β) : (.ok a >>= f : Except ε β) = f a := rfl

/-- What is made of a result is made of one that there is. -/
theorem map_eq_ok_iff {f : α → β} {b : β} : x.map f = .ok b ↔ ∃ a, x = .ok a ∧ f a = b := by
  cases x with
  | error e =>
    constructor
    · rintro ⟨⟩
    · rintro ⟨a, ⟨⟩, -⟩
  | ok a =>
    constructor
    · intro h
      exact ⟨a, rfl, Except.ok.inj h⟩
    · rintro ⟨c, hc, rfl⟩
      rw [Except.ok.inj hc]
      rfl

namespace Yields

theorem imp {P' : α → Prop} (h : Yields x P) (himp : ∀ a, P a → P' a) : Yields x P' :=
  fun a heq => himp a (h a heq)

/-- Of two steps the second starts from what the first one yields. -/
theorem bind {f : α → Except ε β} (hx : Yields x P) (hf : ∀ a, P a → Yields (f a) Q) :
    Yields (x >>= f) Q := by
  cases x with
  | error e => exact yields_error e
  | ok a => exact hf a (hx a rfl)

theorem map {f : α → β} (h : Yields x fun a => Q (f a)) : Yields (x.map f) Q := by
  cases x with
  | error e => exact yields_error e
  | ok a => exact yields_ok (h a rfl)

theorem mapError (h : Yields x P) (f : ε → ε') : Yields (x.mapError f) P := by
  cases x with
  | error e => exact yields_error (f e)
  | ok a => exact yields_ok (h a rfl)

/-- What a loop begins with and each of its steps keeps, it ends with. -/
theorem foldlM {step : β → α → Except ε β} {xs : List α} {b : β} (hb : Q b)
    (hstep : ∀ b, Q b → ∀ a ∈ xs, Yields (step b a) Q) : Yields (xs.foldlM step b) Q := by
  induction xs generalizing b with
  | nil => exact yields_ok hb
  | cons a xs ih =>
    rw [List.foldlM_cons]
    exact (hstep b hb a List.mem_cons_self).bind fun b' hb' =>
      ih hb' fun c hc d hd => hstep c hc d (List.mem_cons_of_mem _ hd)

end Yields

end Callpoint
