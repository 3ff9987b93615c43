import Callpoint.Proofs.Errors.Chain
import Callpoint.Proofs.Exchange.Admission

/-!
# Answers to what a handler returns

What a handler returns is delivered, declared or hidden (`exists_delivers_or_hidden_or_declared`):
an output that can be delivered becomes the response of success, an error that the specification
declares is told to the client, and all else becomes one and the same answer.

`serve_of_passed` and `serve_of_stopped` say what serving a request comes to behind the gates and
ahead of them.
-/

namespace Callpoint

open Callpoint.Http

/-- **An error with that code is declared.** -/
def Spec.DeclaresCode (spec : Spec) (code : String) : Prop := ∃ d ∈ spec.errors, d.code = code

theorem Spec.declares_iff (spec : Spec) (t : TypedError) :
    spec.declares t = true ↔ spec.DeclaresCode t.code := by
  rw [Spec.declares, Spec.declaresCode, List.any_eq_true]
  simp only [Definition.hasCode, beq_iff_eq]
  rfl

namespace Service

variable {α β : Type}

/-- What the service makes of the outcome of a handler. -/
def respond (s : Service) (e : Endpoint α β) : Except Chain β → Course α Response Served
  | .ok y => s.encodeOutput e y
  | .error chain => classify e.spec chain

section Relations

variable (s : Service) (e : Endpoint α β)

/-- **An output becomes a response** with the status of success and the default headers. -/
inductive Delivers (y : β) : Response → Prop
  | empty (hplace : e.spec.output.placeholder = true) :
      Delivers y ((Response.empty e.spec.successStatus).withHeaders s.policy.defaultHeaders)
  | body {value : Json} (hplace : e.spec.output.placeholder = false)
      (hencode : e.output.encode y = .ok value)
      (haccept : s.policy.validateOutput = true →
        s.validator e.spec.output.name value = .ok ()) :
      Delivers y ((Response.json e.spec.successStatus (Text.encode value.compact)).withHeaders
        s.policy.defaultHeaders)

/-- **An outcome of which clients learn nothing:** an error that is not typed or not declared, an
output that breaks the rules it is checked against, or one that has no encoding.  Outputs that
stand for no body are neither checked nor encoded. -/
inductive Hidden : Except Chain β → Prop
  | untyped {chain : Chain} (h : chain.Untyped) : Hidden (.error chain)
  | undeclared {chain : Chain} {t : TypedError} (h : chain.Outermost t)
      (hcode : ¬ e.spec.DeclaresCode t.code) : Hidden (.error chain)
  | invalid {y : β} {value : Json} {violations : List Violation}
      (hplace : e.spec.output.placeholder = false) (hencode : e.output.encode y = .ok value)
      (hcheck : s.policy.validateOutput = true)
      (hrules : s.validator e.spec.output.name value = .error violations) : Hidden (.ok y)
  | unencodable {y : β} {reason : String} (hplace : e.spec.output.placeholder = false)
      (hencode : e.output.encode y = .error reason) : Hidden (.ok y)

end Relations

variable {s : Service} {e : Endpoint α β} {r : Request} {c : Context} {x : α}

/-- **What a handler returns is delivered, declared or hidden.** -/
theorem exists_delivers_or_hidden_or_declared (s : Service) (e : Endpoint α β)
    (outcome : Except Chain β) :
    (∃ y response, outcome = .ok y ∧ s.Delivers e y response) ∨ s.Hidden e outcome ∨
      ∃ chain t, outcome = .error chain ∧ chain.Outermost t ∧ e.spec.DeclaresCode t.code := by
  cases outcome with
  | error chain =>
    rcases chain.untyped_or_outermost with h | ⟨t, h⟩
    · exact Or.inr (Or.inl (.untyped h))
    -- The outermost typed error decides, whatever it wraps.
    by_cases hcode : e.spec.DeclaresCode t.code
    · exact Or.inr (Or.inr ⟨chain, t, rfl, h, hcode⟩)
    · exact Or.inr (Or.inl (.undeclared h hcode))
  | ok y =>
    cases hplace : e.spec.output.placeholder with
    | true => exact Or.inl ⟨y, _, rfl, .empty hplace⟩
    | false =>
      cases hencode : e.output.encode y with
      | error reason => exact Or.inr (Or.inl (.unencodable hplace hencode))
      | ok value =>
        cases hrules : s.validator e.spec.output.name value with
        | ok _ => exact Or.inl ⟨y, _, rfl, .body hplace hencode fun _ => hrules⟩
        | error violations =>
          -- A service that does not check outputs delivers this one in spite of the rules.
          by_cases hcheck : s.policy.validateOutput = true
          · exact Or.inr (Or.inl (.invalid hplace hencode hcheck hrules))
          · exact Or.inl ⟨y, _, rfl, .body hplace hencode fun h => absurd h hcheck⟩

/-- What is delivered is the answer, and nothing is told of it to the service. -/
theorem outcome_respond_of_delivers {y : β} {response : Response} (h : s.Delivers e y response) :
    (s.respond e (.ok y)).outcome = .ok ⟨response, none⟩ := by
  show (s.encodeOutput e y).outcome = _
  unfold encodeOutput
  cases h with
  | empty hplace =>
    rw [hplace]
    rfl
  | body hplace hencode haccept =>
    rw [hplace, hencode]
    by_cases hcheck : s.policy.validateOutput = true
    · simp only [Bool.false_eq_true, ↓reduceIte, Course.outcome_emit_bind, hcheck,
        Course.outcome_validate_bind, haccept hcheck]
      rfl
    · simp only [Bool.false_eq_true, ↓reduceIte, Course.outcome_emit_bind, hcheck]
      rfl

/-- A declared error is answered as it is. -/
theorem outcome_respond_of_declared {chain : Chain} {t : TypedError} (h : chain.Outermost t)
    (hcode : e.spec.DeclaresCode t.code) :
    (s.respond e (.error chain)).outcome = .ok ⟨Response.ofError t.toDefinition, none⟩ := by
  show (classify e.spec chain : Course α Response Served).outcome = _
  unfold classify
  rw [(Chain.definition?_eq_some_iff chain t).mpr h]
  simp only [(e.spec.declares_iff t).mpr hcode, ↓reduceIte]
  rfl

/-- All hidden outcomes have one answer; the service alone learns what it was. -/
theorem outcome_respond_of_hidden {outcome : Except Chain β} (h : s.Hidden e outcome) :
    ∃ failure, (s.respond e outcome).outcome = .ok ⟨internalError, some failure⟩ := by
  cases h with
  | @untyped chain h =>
    refine ⟨.handler e.spec.name chain, ?_⟩
    show (classify e.spec chain : Course α Response Served).outcome = _
    unfold classify
    rw [(Chain.definition?_eq_none_iff chain).mpr h]
    rfl
  | @undeclared chain t h hcode =>
    refine ⟨.undeclared e.spec.name t, ?_⟩
    have hfalse : e.spec.declares t = false := by
      rw [← Bool.not_eq_true, e.spec.declares_iff]
      exact hcode
    show (classify e.spec chain : Course α Response Served).outcome = _
    unfold classify
    rw [(Chain.definition?_eq_some_iff chain t).mpr h]
    simp only [hfalse, Bool.false_eq_true, ↓reduceIte]
    rfl
  | @invalid y value violations hplace hencode hcheck hrules =>
    refine ⟨.invalidOutput e.spec.name violations, ?_⟩
    show (s.encodeOutput e y).outcome = _
    unfold encodeOutput
    rw [hplace, hencode]
    simp only [Bool.false_eq_true, ↓reduceIte, Course.outcome_emit_bind, hcheck,
      Course.outcome_validate_bind, hrules]
    rfl
  | @unencodable y reason hplace hencode =>
    refine ⟨.unencodable e.spec.name reason, ?_⟩
    show (s.encodeOutput e y).outcome = _
    unfold encodeOutput
    rw [hplace, hencode]
    rfl

/-- The handler's outcome never ends a course early. -/
theorem exists_outcome_respond (s : Service) (e : Endpoint α β) (outcome : Except Chain β) :
    ∃ answer, (s.respond e outcome).outcome = .ok answer := by
  rcases exists_delivers_or_hidden_or_declared s e outcome with
    ⟨y, response, rfl, h⟩ | h | ⟨chain, t, rfl, h, hcode⟩
  · exact ⟨_, outcome_respond_of_delivers h⟩
  · obtain ⟨failure, hf⟩ := outcome_respond_of_hidden h
    exact ⟨_, hf⟩
  · exact ⟨_, outcome_respond_of_declared h hcode⟩

/-- No answer calls the handler again. -/
theorem quiet_respond (s : Service) (e : Endpoint α β) (outcome : Except Chain β) :
    (s.respond e outcome).Quiet := by
  cases outcome with
  | error chain =>
    show (classify e.spec chain : Course α Response Served).Quiet
    unfold classify
    split
    · split
      · exact .after_emit _ (Course.quiet_pure _)
      · exact .after_emit _ (Course.quiet_pure _)
    · exact .after_emit _ (Course.quiet_pure _)
  | ok y =>
    show (s.encodeOutput e y).Quiet
    unfold encodeOutput
    refine .after_emit _ ?_
    split
    · exact Course.quiet_pure _
    split
    · exact .after_emit _ (Course.quiet_pure _)
    -- The rest is the same for the validator's verdict and for none.
    split
    · refine .after_validate _ _ _ fun verdict => ?_
      cases verdict with
      | error violations => exact .after_emit _ (Course.quiet_pure _)
      | ok _ => exact Course.quiet_pure _
    · refine (Course.quiet_pure _).bind fun verdict => ?_
      cases verdict with
      | error violations => exact .after_emit _ (Course.quiet_pure _)
      | ok _ => exact Course.quiet_pure _

/-! ### Serving -/

/-- What an answer becomes on its way to the client. -/
def sent (id : RequestId) (answer : Served) : Served :=
  { answer with response := answer.response.withRequestId id }

/-- To call the handler is to call it, to answer what it returns, and to send that. -/
theorem callHandler_eq (s : Service) (e : Endpoint α β) (c : Context) (x : α) :
    s.callHandler e c x = Course.event (.called c x) >>= fun _ =>
      s.respond e (e.handler c x) >>= fun answer =>
        Course.emit (.responseWritten (sent c.requestId answer).response.status) >>= fun _ =>
          pure (sent c.requestId answer) := by
  unfold callHandler respond
  cases e.handler c x <;> rfl

theorem outcome_callHandler {answer : Served}
    (h : (s.respond e (e.handler c x)).outcome = .ok answer) :
    (s.callHandler e c x).outcome = .ok (sent c.requestId answer) := by
  rw [callHandler_eq, Course.outcome_event_bind, Course.outcome_bind_ok _ h]
  rfl

/-- Behind the gates the handler is called once. -/
theorem calls_callHandler (s : Service) (e : Endpoint α β) (c : Context) (x : α) :
    Event.calls (s.callHandler e c x).events = [(c, x)] := by
  -- All that follows the call is the answer and its signal.
  have hrest : ∀ answer, (Course.emit (.responseWritten (sent c.requestId answer).response.status)
      >>= fun _ => pure (sent c.requestId answer) : Course α Response Served).Quiet :=
    fun _ => .after_emit _ (Course.quiet_pure _)
  have hquiet := (quiet_respond s e (e.handler c x)).bind hrest
  unfold Course.Quiet at hquiet
  rw [callHandler_eq, Course.events_bind_ok _ rfl, Event.calls_append, hquiet]
  rfl

/-- A request that a gate stops is answered by the gate. -/
theorem serve_of_stopped {response : Response}
    (h : (s.passGates e.spec e.input r).outcome = .error response) :
    Event.calls (s.serve e r).1 = [] ∧ (s.serve e r).2 = ⟨response, none⟩ := by
  have hcourse : (s.course e r).outcome = .error response := Course.outcome_bind_error _ h
  have hevents : (s.course e r).events = (s.passGates e.spec e.input r).events :=
    Course.events_bind_error _ h
  unfold serve
  simp only [hcourse, hevents]
  exact ⟨quiet_passGates, trivial⟩

/-- A request that passes is answered by what becomes of the handler's outcome. -/
theorem serve_of_passed {answer : Served}
    (h : (s.passGates e.spec e.input r).outcome = .ok (c, x))
    (hanswer : (s.respond e (e.handler c x)).outcome = .ok answer) :
    Event.calls (s.serve e r).1 = [(c, x)] ∧ (s.serve e r).2 = sent c.requestId answer := by
  have hcourse : (s.course e r).outcome = .ok (sent c.requestId answer) :=
    (Course.outcome_bind_ok _ h).trans (outcome_callHandler hanswer)
  have hevents : (s.course e r).events
      = (s.passGates e.spec e.input r).events ++ (s.callHandler e c x).events :=
    Course.events_bind_ok _ h
  have hquiet : Event.calls (s.passGates e.spec e.input r).events = [] := quiet_passGates
  unfold serve
  simp only [hcourse, hevents]
  rw [Event.calls_append, hquiet, calls_callHandler]
  exact ⟨rfl, trivial⟩

/-- A request that reached the handler had passed the gates. -/
theorem outcome_passGates_of_mem_calls (h : (c, x) ∈ Event.calls (s.serve e r).1) :
    (s.passGates e.spec e.input r).outcome = .ok (c, x) := by
  cases hgates : (s.passGates e.spec e.input r).outcome with
  | error response =>
    rw [(serve_of_stopped hgates).1] at h
    cases h
  | ok passed =>
    obtain ⟨c', x'⟩ := passed
    obtain ⟨answer, hanswer⟩ := exists_outcome_respond s e (e.handler c' x')
    rw [(serve_of_passed hgates hanswer).1, List.mem_singleton] at h
    rw [h]

/-- What a request that reached the handler is answered. -/
theorem served_of_mem_calls {answer : Served} (h : (c, x) ∈ Event.calls (s.serve e r).1)
    (hanswer : (s.respond e (e.handler c x)).outcome = .ok answer) :
    (s.serve e r).2 = sent c.requestId answer :=
  (serve_of_passed (outcome_passGates_of_mem_calls h) hanswer).2

end Service

end Callpoint
