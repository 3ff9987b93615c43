import Callpoint.Errors.Chain

/-!
# The typed error of a chain

`Chain.definition?` finds the typed error that has no other one above it, under any number of plain
links (`definition?_eq_some_iff`), and finds none only if there is none (`definition?_eq_none_iff`).

A typed error derived from another one may say something else, but it keeps its code and its status
(`DerivedFrom.code_eq`, `DerivedFrom.status_eq`).
-/

namespace Callpoint

namespace Chain

/-- **The outermost typed error:** everything above it is a plain link. -/
def Outermost (c : Chain) (t : TypedError) : Prop :=
  ∃ above : Chain, c = above ++ t.chain ∧ ∀ d, Link.typed d ∉ above

/-- **A chain without a typed error** anywhere. -/
def Untyped (c : Chain) : Prop := ∀ d, Link.typed d ∉ c

theorem definition?_append_of_untyped {above : Chain} (h : above.Untyped) (rest : Chain) :
    definition? (above ++ rest) = definition? rest := by
  induction above with
  | nil => rfl
  | cons link above ih =>
    have hrest : Untyped above := fun d hd => h d (List.mem_cons_of_mem _ hd)
    cases link with
    | typed d => exact absurd List.mem_cons_self (h d)
    | text message => exact ih hrest
    | stream error => exact ih hrest

theorem definition?_chain (t : TypedError) : definition? t.chain = some t := rfl

theorem definition?_eq_none_iff (c : Chain) : c.definition? = none ↔ c.Untyped := by
  constructor
  · intro h
    induction c with
    | nil => exact fun d => List.not_mem_nil
    | cons link c ih =>
      intro d hd
      cases link with
      | typed e => exact absurd h (by simp [definition?])
      | text message =>
        rcases List.mem_cons.mp hd with hd | hd
        · cases hd
        · exact ih h d hd
      | stream error =>
        rcases List.mem_cons.mp hd with hd | hd
        · cases hd
        · exact ih h d hd
  · intro h
    have := definition?_append_of_untyped h []
    rw [List.append_nil] at this
    exact this

theorem definition?_eq_some_iff (c : Chain) (t : TypedError) :
    c.definition? = some t ↔ c.Outermost t := by
  constructor
  · intro h
    induction c with
    | nil => cases h
    | cons link c ih =>
      -- A plain link joins what is above the error that the rest of the chain has.
      cases link with
      | typed d =>
        obtain rfl := Option.some.inj h
        exact ⟨[], rfl, fun _ => List.not_mem_nil⟩
      | text message =>
        obtain ⟨above, hc, huntyped⟩ := ih h
        refine ⟨.text message :: above, by rw [hc, List.cons_append], fun d hd => ?_⟩
        rcases List.mem_cons.mp hd with hd | hd
        · cases hd
        · exact huntyped d hd
      | stream error =>
        obtain ⟨above, hc, huntyped⟩ := ih h
        refine ⟨.stream error :: above, by rw [hc, List.cons_append], fun d hd => ?_⟩
        rcases List.mem_cons.mp hd with hd | hd
        · cases hd
        · exact huntyped d hd
  · rintro ⟨above, rfl, huntyped⟩
    rw [definition?_append_of_untyped huntyped, definition?_chain]

/-- A chain has no typed error, or one that is the outermost. -/
theorem untyped_or_outermost (c : Chain) : c.Untyped ∨ ∃ t, c.Outermost t := by
  cases h : c.definition? with
  | none => exact Or.inl ((definition?_eq_none_iff c).mp h)
  | some t => exact Or.inr ⟨t, (definition?_eq_some_iff c t).mp h⟩

end Chain

namespace TypedError

/-- **Errors made of another one** at the place where it is returned: with a message, details or
a cause of their own. -/
inductive DerivedFrom (base : TypedError) : TypedError → Prop
  | itself : DerivedFrom base base
  | message {e : TypedError} (text : String) (h : DerivedFrom base e) :
      DerivedFrom base (e.modify (·.withMessage text))
  | details {e : TypedError} (details : Option Json) (h : DerivedFrom base e) :
      DerivedFrom base (e.modify (·.withDetails details))
  | cause {e : TypedError} (cause : Chain) (h : DerivedFrom base e) :
      DerivedFrom base (e.withCause cause)

variable {base e : TypedError}

theorem DerivedFrom.code_eq (h : DerivedFrom base e) : e.code = base.code := by
  induction h with
  | itself => rfl
  | message _ _ ih => exact ih
  | details _ _ ih => exact ih
  | cause _ _ ih => exact ih

theorem DerivedFrom.status_eq (h : DerivedFrom base e) : e.status = base.status := by
  induction h with
  | itself => rfl
  | message _ _ ih => exact ih
  | details _ _ ih => exact ih
  | cause _ _ ih => exact ih

end TypedError

end Callpoint
