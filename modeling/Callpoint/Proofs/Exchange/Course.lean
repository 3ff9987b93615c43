import Callpoint.Exchange.Serve

/-!
# Laws of courses

What a composed course comes to, and what happens on the way: a second stretch starts only where the
first one did not end the course (`outcome_bind`, `events_bind_ok`, `events_bind_error`).

A course is quiet if the handler is not called during it.  Quietness is kept by composition
(`Quiet.bind`), so it is read off a course stretch by stretch.
-/

namespace Callpoint

namespace Event

variable {α : Type}

theorem calls_append (xs ys : List (Event α)) : calls (xs ++ ys) = calls xs ++ calls ys := by
  unfold calls
  rw [List.filterMap_append]

end Event

namespace Course

variable {α ε β γ : Type}

/-! ### Composition -/

theorem outcome_bind_ok {c : Course α ε β} {b : β} (f : β → Course α ε γ)
    (h : c.outcome = .ok b) : (c >>= f).outcome = (f b).outcome := by
  show (Course.bind c f).outcome = _
  unfold Course.bind
  rw [h]

theorem outcome_bind_error {c : Course α ε β} {e : ε} (f : β → Course α ε γ)
    (h : c.outcome = .error e) : (c >>= f).outcome = .error e := by
  show (Course.bind c f).outcome = _
  unfold Course.bind
  rw [h]

theorem events_bind_ok {c : Course α ε β} {b : β} (f : β → Course α ε γ)
    (h : c.outcome = .ok b) : (c >>= f).events = c.events ++ (f b).events := by
  show (Course.bind c f).events = _
  unfold Course.bind
  rw [h]

theorem events_bind_error {c : Course α ε β} {e : ε} (f : β → Course α ε γ)
    (h : c.outcome = .error e) : (c >>= f).events = c.events := by
  show (Course.bind c f).events = _
  unfold Course.bind
  rw [h]

/-- An event does not decide anything. -/
@[simp] theorem outcome_emit_bind (s : Signal) (f : Unit → Course α ε γ) :
    (emit s >>= f).outcome = (f ()).outcome := rfl

@[simp] theorem outcome_event_bind (e : Event α) (f : Unit → Course α ε γ) :
    (event e >>= f).outcome = (f ()).outcome := rfl

/-- The verdict of the validator is a value like any other: showing it a value does not end a
course. -/
@[simp] theorem outcome_validate_bind (v : Validator) (name : String) (value : Json)
    (f : Except (List Violation) Unit → Course α ε γ) :
    (validate v name value >>= f).outcome = (f (v name value)).outcome := rfl

/-! ### Quiet courses -/

/-- **The handler is not called.** -/
def Quiet (c : Course α ε β) : Prop := Event.calls c.events = []

theorem quiet_pure (b : β) : Quiet (Pure.pure b : Course α ε β) := rfl

theorem quiet_stop (e : ε) : Quiet (stop e : Course α ε β) := rfl

theorem Quiet.bind {c : Course α ε β} {f : β → Course α ε γ} (hc : c.Quiet)
    (hf : ∀ b, (f b).Quiet) : (c >>= f).Quiet := by
  unfold Quiet at hc ⊢
  -- Whether the second stretch starts at all is decided by the outcome of the first.
  cases h : c.outcome with
  | error e => rw [events_bind_error f h, hc]
  | ok b => rw [events_bind_ok f h, Event.calls_append, hc, List.nil_append, hf b]

/-- Signals are not calls. -/
theorem Quiet.after_emit (s : Signal) {f : Unit → Course α ε γ} (h : (f ()).Quiet) :
    (emit s >>= f).Quiet := by
  have hemit : Quiet (emit s : Course α ε Unit) := rfl
  exact hemit.bind fun _ => h

/-- Showing a value to the validator is not a call, whatever the verdict. -/
theorem Quiet.after_validate (v : Validator) (name : String) (value : Json)
    {f : Except (List Violation) Unit → Course α ε γ} (h : ∀ verdict, (f verdict).Quiet) :
    (validate v name value >>= f).Quiet := by
  have hvalidate : Quiet (validate v name value : Course α ε _) := rfl
  exact hvalidate.bind h

end Course

end Callpoint
