import Callpoint.Proofs.Exchange.Reach

/-!
# What clients can tell apart

Two runs that end in hidden outcomes have the same answer but for the identifier of the request, and
two runs that end in a declared error have the same answer if the errors say the same
(`answers_agree`).  The runs may be of different services, endpoints and requests, so in particular
nothing of a handler's secret can be read off an answer.
-/

namespace Callpoint

open Callpoint.Http

namespace Service

/-! ### The answers in full -/

/-- The body of the answer for everything that clients must not learn of. -/
def hiddenBody : String :=
  "\x7b\"code\":\"INTERNAL_ERROR\",\"message\":\"internal server error\"\x7d"

/-- **The answer for everything that clients must not learn of:** nothing in it but the identifier
of the request differs from one to the other. -/
def hiddenResponse (id : RequestId) : Response where
  status := 500
  headers := [("content-type", Text.encode "application/json"),
    ("x-request-id", Text.encode id.text)]
  body := Text.encode hiddenBody

theorem withRequestId_json (status : Nat) (body : Bytes) (id : RequestId) :
    (Response.json status body).withRequestId id
      = ⟨status, [("content-type", Text.encode "application/json"),
          ("x-request-id", Text.encode id.text)], body⟩ := rfl

theorem withRequestId_internalError (id : RequestId) :
    internalError.withRequestId id = hiddenResponse id := by
  -- The only text in the answer, and the same each time.
  have hbody : Errors.internalError.body.toJson.compact = hiddenBody := by decide
  unfold internalError Response.ofError
  rw [withRequestId_json, hbody]
  rfl

/-- An answer for a typed error depends on nothing but what the error says. -/
theorem ofError_congr {d₁ d₂ : Definition} (hcode : d₁.code = d₂.code)
    (hstatus : d₁.status = d₂.status) (hmessage : d₁.message = d₂.message)
    (hdetails : d₁.details = d₂.details) : Response.ofError d₁ = Response.ofError d₂ := by
  unfold Response.ofError Definition.body
  rw [hcode, hstatus, hmessage, hdetails]

variable {α β α₁ β₁ α₂ β₂ : Type}

theorem served_of_hidden {s : Service} {e : Endpoint α β} {r : Request} {c : Context} {x : α}
    (hcall : (c, x) ∈ Event.calls (s.serve e r).1) (h : s.Hidden e (e.handler c x)) :
    (s.serve e r).2.response = hiddenResponse c.requestId ∧
      (s.serve e r).2.failure.isSome = true := by
  obtain ⟨failure, hanswer⟩ := outcome_respond_of_hidden h
  rw [served_of_mem_calls hcall hanswer]
  exact ⟨withRequestId_internalError c.requestId, rfl⟩

theorem served_of_declared {s : Service} {e : Endpoint α β} {r : Request} {c : Context} {x : α}
    {chain : Chain} {t : TypedError} (hcall : (c, x) ∈ Event.calls (s.serve e r).1)
    (herror : e.handler c x = .error chain) (ht : chain.Outermost t)
    (hcode : e.spec.DeclaresCode t.code) :
    (s.serve e r).2
      = ⟨(Response.ofError t.toDefinition).withRequestId c.requestId, none⟩ := by
  have hanswer := outcome_respond_of_declared (s := s) ht hcode
  rw [← herror] at hanswer
  exact served_of_mem_calls hcall hanswer

/-- **Nothing leaks through the outcome of a handler.**  Take any two runs that reach their handlers
under one request identifier.  If both outcomes are hidden, both answers are the one answer for
hidden outcomes, and both runs report a failure.  If both are errors whose outermost typed errors
are declared and say the same, the answers are the same and no run reports a failure, whatever else
the chains hold. -/
theorem answers_agree (s₁ s₂ : Service) (e₁ : Endpoint α₁ β₁) (e₂ : Endpoint α₂ β₂)
    (r₁ r₂ : Request) (c₁ c₂ : Context) (x₁ : α₁) (x₂ : α₂)
    (h₁ : (c₁, x₁) ∈ Event.calls (s₁.serve e₁ r₁).1)
    (h₂ : (c₂, x₂) ∈ Event.calls (s₂.serve e₂ r₂).1) (hid : c₁.requestId = c₂.requestId) :
    (s₁.Hidden e₁ (e₁.handler c₁ x₁) → s₂.Hidden e₂ (e₂.handler c₂ x₂) →
      (s₁.serve e₁ r₁).2.response = (s₂.serve e₂ r₂).2.response ∧
      (s₁.serve e₁ r₁).2.response = hiddenResponse c₁.requestId ∧
      (s₁.serve e₁ r₁).2.failure.isSome = true ∧ (s₂.serve e₂ r₂).2.failure.isSome = true) ∧
    (∀ chain₁ chain₂ t₁ t₂, e₁.handler c₁ x₁ = .error chain₁ → e₂.handler c₂ x₂ = .error chain₂ →
      chain₁.Outermost t₁ → chain₂.Outermost t₂ →
      e₁.spec.DeclaresCode t₁.code → e₂.spec.DeclaresCode t₂.code →
      t₁.code = t₂.code → t₁.status = t₂.status → t₁.message = t₂.message →
      t₁.details = t₂.details →
      (s₁.serve e₁ r₁).2.response = (s₂.serve e₂ r₂).2.response ∧
      (s₁.serve e₁ r₁).2.failure = none ∧ (s₂.serve e₂ r₂).2.failure = none) := by
  constructor
  · intro hidden₁ hidden₂
    obtain ⟨hresponse₁, hfailure₁⟩ := served_of_hidden h₁ hidden₁
    obtain ⟨hresponse₂, hfailure₂⟩ := served_of_hidden h₂ hidden₂
    refine ⟨?_, hresponse₁, hfailure₁, hfailure₂⟩
    rw [hresponse₁, hresponse₂, hid]
  · intro chain₁ chain₂ t₁ t₂ herror₁ herror₂ ht₁ ht₂ hdecl₁ hdecl₂ hcode hstatus hmessage hdetails
    have hserved₁ := served_of_declared h₁ herror₁ ht₁ hdecl₁
    have hserved₂ := served_of_declared h₂ herror₂ ht₂ hdecl₂
    rw [hserved₁, hserved₂, hid, ofError_congr hcode hstatus hmessage hdetails]
    exact ⟨rfl, rfl, rfl⟩

/-- A password in a plain error cannot be told from an error that nobody declared, and a declared
error with a query among its causes cannot be told from one that was only passed on. -/
theorem answers_agree_probe :
    (({} : Service).serve (.always [] (.error [.text "password=hunter2"])) .probe).2.response
        = (({} : Service).serve (.always [] (.error [.typed Errors.notFound])) .probe).2.response ∧
      (({} : Service).serve (.always [.error { Errors.notFound with }]
          (.error [.typed Errors.notFound, .text "SELECT *", .typed Errors.forbidden]))
          .probe).2.response
        = (({} : Service).serve (.always [.error { Errors.notFound with }]
          (.error [.text "loading", .typed Errors.notFound])) .probe).2.response := by
  constructor
  · have h := (answers_agree {} {} (.always [] (.error [.text "password=hunter2"]))
      (.always [] (.error [.typed Errors.notFound])) .probe .probe _ _ () ()
      (mem_calls_probe {} [] _ rfl rfl) (mem_calls_probe {} [] _ rfl rfl) rfl).1
    refine (h (.untyped ?_) (.undeclared (t := { Errors.notFound with }) ⟨[], rfl, ?_⟩ ?_)).1
    · simp [Chain.Untyped]
    · simp
    · rintro ⟨d, hd, -⟩
      cases hd
  · have hdeclared : (Endpoint.always [.error { Errors.notFound with }]
        (.ok ())).spec.DeclaresCode "NOT_FOUND" := ⟨_, List.mem_singleton_self _, rfl⟩
    have h := (answers_agree {} {} (.always [.error { Errors.notFound with }]
        (.error [.typed Errors.notFound, .text "SELECT *", .typed Errors.forbidden]))
      (.always [.error { Errors.notFound with }]
        (.error [.text "loading", .typed Errors.notFound])) .probe .probe _ _ () ()
      (mem_calls_probe {} _ _ rfl rfl) (mem_calls_probe {} _ _ rfl rfl) rfl).2
    refine (h _ _ { Errors.notFound with causes := [.text "SELECT *", .typed Errors.forbidden] }
      { Errors.notFound with } rfl rfl ⟨[], rfl, ?_⟩ ⟨[.text "loading"], rfl, ?_⟩ hdeclared
      hdeclared rfl rfl rfl rfl).1
    · simp
    · simp

end Service

end Callpoint
