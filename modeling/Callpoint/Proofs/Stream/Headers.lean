import Callpoint.Proofs.Exchange.Headers
import Callpoint.Proofs.RequestId
import Callpoint.Proofs.Stream.Delivery
import Callpoint.Proofs.Stream.Statuses

/-!
# Headers of streams

A stream is committed with headers of its own, merged with the default headers like those of a
success (`merges_of_openStream`).  So there are two statements on all answers of a service, streams
or not: one on the identifier, which every answer tells and which is the one that the handler knows
(`one_identifier`), and one on default headers, which come with success and with streams and with
nothing else (`default_headers_merged`).
-/

namespace Callpoint.Service

open Callpoint.Http
open Callpoint.Response (Plain)

variable {α β : Type} {s : Service} {p : StreamPolicy} {e : StreamEndpoint α} {r : Request}
  {committed : Committed}

/-- **The headers that a stream comes with,** apart from default headers. -/
def ownStreamHeaders (id : RequestId) : Headers := streamHeaders ++ [Response.idLine id]

theorem values_id_ownStreamHeaders (id : RequestId) :
    (ownStreamHeaders id).values "x-request-id" = [Text.encode id.text] := rfl

/-! ### What is opened -/

/-- **A stream comes with the default headers,** merged with its own. -/
theorem merges_of_openStream (h : (s.openStream p e r).outcome = .ok committed) :
    Headers.Merges (ownStreamHeaders (s.requestId r)) s.policy.defaultHeaders
      committed.headers := by
  obtain ⟨c, x, hgates, rfl⟩ := passed_of_openStream h
  rw [← requestId_of_passed hgates]
  exact Headers.merges_addMissing (ownStreamHeaders c.requestId) s.policy.defaultHeaders

theorem requestId_of_mem_calls_openStream {c : Context} {x : α}
    (h : (c, x) ∈ Event.calls (s.openStream p e r).events) : c.requestId = s.requestId r :=
  requestId_of_passed (outcome_passGates_of_mem_calls_openStream h)

/-! ### Identifiers -/

/-- **One identifier.**  There is exactly one that a service knows a request by.  Its text is read
as itself; every answer has it as the one value of its name, whether a handler is called or a stream
is to be opened, and whatever comes of it; and it is what handlers and callbacks know of the
request. -/
theorem one_identifier (s : Service) (e : Endpoint α β) (p : StreamPolicy)
    (stream : StreamEndpoint α) (r : Request) :
    ∃ id, (∀ other, s.Identifies r other ↔ other = id) ∧ RequestId.parse? id.text = some id ∧
      (s.serve e r).2.response.headers.values "x-request-id" = [Text.encode id.text] ∧
      (∀ c x, (c, x) ∈ Event.calls (s.serve e r).1 → c.requestId = id) ∧
      (∀ response, (s.openStream p stream r).outcome = .error response →
        response.headers.values "x-request-id" = [Text.encode id.text]) ∧
      (∀ committed, (s.openStream p stream r).outcome = .ok committed →
        committed.headers.values "x-request-id" = [Text.encode id.text]) ∧
      ∀ c x, (c, x) ∈ Event.calls (s.openStream p stream r).events → c.requestId = id := by
  refine ⟨s.requestId r, s.identifies_iff r, RequestId.parse?_text _, values_id_serve s e r,
    fun _ _ => requestId_of_mem_calls, ?_, ?_, fun _ _ => requestId_of_mem_calls_openStream⟩
  · intro response hresponse
    exact (plain_of_stopped (stopped_of_openStream hresponse)).values_id
  -- The identifier is set among the stream's own headers, so default ones do not reach it.
  · intro committed hcommitted
    exact values_id_of_merges (merges_of_openStream hcommitted) (values_id_ownStreamHeaders _)

/-- A trusted identifier is told in its canonical spelling, although it came in another one and
there is a default header of the name. -/
theorem one_identifier_trusted :
    let trusting : Policy := { trustRequestId := true }
    let s : Service := { policy := trusting.withDefaultHeader "X-Request-ID" (Text.encode "none") }
    let lines := Headers.append [] "X-Request-ID" (Text.encode "000000000000000000000000000000AB")
    let r := { Request.probe with headers := lines }
    r.Carries ⟨0xab⟩ ∧ (∃ c, (c, ()) ∈ Event.calls (s.serve (.always [] (.ok ())) r).1 ∧
        c.requestId = ⟨0xab⟩) ∧
      (s.serve (.always [] (.ok ())) r).2.response.headers.values "x-request-id"
        = [Text.encode "00000000-0000-0000-0000-0000000000ab"] ∧
      ∃ committed, (s.openStream {} (.silent []) r).outcome = .ok committed ∧
        committed.headers.values "x-request-id"
          = [Text.encode "00000000-0000-0000-0000-0000000000ab"] := by
  intro trusting s lines r
  have hcarries : r.Carries ⟨0xab⟩ := by
    refine ⟨_, _, "000000000000000000000000000000AB", rfl, ?_, rfl⟩
    decide +kernel
  obtain ⟨id, hid, -, hserve, hcalls, -, hopen, -⟩ :=
    one_identifier s (.always [] (.ok ())) {} (.silent []) r
  obtain rfl := (hid _).mp (.carried rfl hcarries)
  exact ⟨hcarries, ⟨_, List.mem_singleton_self _, hcalls _ _ (List.mem_singleton_self _)⟩, hserve,
    _, rfl, hopen _ rfl⟩

/-! ### Default headers -/

/-- **Default headers.**  If the handler comes to an output that can be sent, the answer has all
default headers of those names that the service does not set itself, and under the names that it
does set what it sets and nothing else; a stream that is opened has them in the same way.  All other
answers have none.  To add default headers a second time changes nothing. -/
theorem default_headers_merged (s : Service) (e : Endpoint α β) (p : StreamPolicy)
    (stream : StreamEndpoint α) (r : Request) :
    (s.Succeeds e r → Headers.Merges (e.ownHeaders (s.requestId r)) s.policy.defaultHeaders
        (s.serve e r).2.response.headers) ∧
      (¬ s.Succeeds e r → Plain (s.requestId r) (s.serve e r).2.response.headers) ∧
      (∀ committed, (s.openStream p stream r).outcome = .ok committed →
        Headers.Merges (ownStreamHeaders (s.requestId r)) s.policy.defaultHeaders
          committed.headers) ∧
      (∀ response, (s.openStream p stream r).outcome = .error response →
        Plain (s.requestId r) response.headers) ∧
      ∀ (more : Headers) (response : Response),
        (∀ name, ((response.withHeaders more).withHeaders more).headers.values name
            = (response.withHeaders more).headers.values name) ∧
          (more.Canonical →
            (response.withHeaders more).withHeaders more = response.withHeaders more) := by
  refine ⟨merges_of_succeeds, plain_of_not_succeeds, fun _ => merges_of_openStream,
    fun _ h => plain_of_stopped (stopped_of_openStream h), fun more response => ⟨?_, ?_⟩⟩
  · exact response.headers.values_addMissing_addMissing more
  · intro hmore
    exact congrArg (fun headers => { response with headers := headers })
      (Headers.addMissing_addMissing response.headers hmore)

/-- Default headers with a name of two lines and a name that streams set themselves: an answer
without a body has them all, a stream those of the first name only, and an error none. -/
theorem default_headers_merged_probe :
    let varying := Policy.withDefaultHeader {} "Vary" (Text.encode "Origin")
    let typed := varying.withDefaultHeader "Content-Type" (Text.encode "text/plain")
    let s : Service := { policy := typed.withDefaultHeader "vary" (Text.encode "Accept") }
    let served := (s.serve (.always [] (.ok ())) .probe).2.response.headers
    s.policy.defaultHeaders.Canonical ∧
      served.values "Vary" = [Text.encode "Origin", Text.encode "Accept"] ∧
      served.values "Content-Type" = [Text.encode "text/plain"] ∧
      (∃ committed, (s.openStream {} (.silent []) .probe).outcome = .ok committed ∧
        committed.headers.values "Vary" = [Text.encode "Origin", Text.encode "Accept"] ∧
          committed.headers.values "Content-Type" = [Text.encode "text/event-stream"]) ∧
      (s.serve (.always [] (.error [])) .probe).2.response.headers.values "Vary" = [] := by
  intro varying typed s served
  obtain ⟨hsuccess, -, hopen, -⟩ :=
    default_headers_merged s (.always [] (.ok ())) {} (.silent []) .probe
  obtain ⟨-, hfailure, -⟩ :=
    default_headers_merged s (.always [] (.error [])) {} (.silent []) .probe
  have hcanonical : s.policy.defaultHeaders.Canonical :=
    ((Headers.canonical_nil.append _ _).append _ _).append _ _
  have hserved := hsuccess ⟨_, (), (), List.mem_singleton_self _, rfl, .nothing rfl⟩
  have hopened := hopen _ rfl
  refine ⟨hcanonical, hserved "Vary", hserved "Content-Type", ?_, ?_⟩
  · exact ⟨_, rfl, hopened "Vary", hopened "Content-Type"⟩
  · have hnone : ¬ s.Succeeds (.always [] (.error [])) .probe := by
      rintro ⟨c, x, y, -, hok, -⟩
      cases hok
    have hvary : ∀ h, Plain (s.requestId .probe) h → h.values "Vary" = [] := by
      rintro h (_ | d)
      · rfl
      · cases d <;> rfl
    exact hvary _ (hfailure hnone)

end Callpoint.Service
