import Callpoint.Context
import Callpoint.Errors.Definition
import Callpoint.Signal

/-!
# The course of a call

What happens during a call, in order: signals to observers, values shown to the validator, and the
call of the handler.  A `Course` collects these events until it ends with a result or with an early
answer.
-/

namespace Callpoint

/-- **A rule set for values of named types.** A value is accepted or refused with the rules it
breaks. -/
def Validator := String → Json → Except (List Violation) Unit

/-- The validator that accepts everything. -/
def Validator.acceptAll : Validator := fun _ _ => .ok ()

/-- **One event of a call** whose handler takes an `α`. -/
inductive Event (α : Type) where
  | signal (signal : Signal)
  | shown (typeName : String) (value : Json)
  | called (context : Context) (input : α)

namespace Event

/-- The signals among some events. -/
def signals {α : Type} (events : List (Event α)) : List Signal :=
  events.filterMap fun
    | .signal s => some s
    | _ => none

/-- What the validator was shown. -/
def shownValues {α : Type} (events : List (Event α)) : List (String × Json) :=
  events.filterMap fun
    | .shown t v => some (t, v)
    | _ => none

/-- The calls of the handler. -/
def calls {α : Type} (events : List (Event α)) : List (Context × α) :=
  events.filterMap fun
    | .called c x => some (c, x)
    | _ => none

end Event

/-- **A stretch of a call:** its events, and its result or the answer that ends the call early. -/
structure Course (α ε β : Type) where
  events : List (Event α)
  outcome : Except ε β

namespace Course

variable {α ε β γ : Type}

/-- Nothing but a result. -/
def pure (b : β) : Course α ε β := ⟨[], .ok b⟩

/-- One stretch after another; an early answer ends the course. -/
def bind (c : Course α ε β) (f : β → Course α ε γ) : Course α ε γ :=
  match c.outcome with
  | .error e => ⟨c.events, .error e⟩
  | .ok b => ⟨c.events ++ (f b).events, (f b).outcome⟩

instance : Monad (Course α ε) where
  pure := Course.pure
  bind := Course.bind

/-- One event. -/
def event (e : Event α) : Course α ε Unit := ⟨[e], .ok ()⟩

/-- One signal. -/
def emit (s : Signal) : Course α ε Unit := event (.signal s)

/-- An early answer. -/
def stop (e : ε) : Course α ε β := ⟨[], .error e⟩

/-- The validator's verdict on a value, which is shown to it. -/
def validate (v : Validator) (typeName : String) (value : Json) :
    Course α ε (Except (List Violation) Unit) := do
  event (.shown typeName value)
  return v typeName value

end Course

end Callpoint
