import Callpoint.Proofs.Settings.Loading
import Callpoint.Proofs.Stream.Headers

/-!
# Configured headers

Settings list default headers by name, and services send them with each success.  On the way the
names are taken to lower case (`Settings.exists_policy_of_check`), so two names of the settings may
become one name of the answer.  A configured header is therefore told by one line, with the value
that is configured, if and only if no other configured name is the same but for its spelling
(`Loader.configured_header_once_iff`).
-/

namespace Callpoint

open Callpoint.Http

/-! ### From settings to lines -/

theorem headerName?_eq_key {s name : String} (h : headerName? s = some name) :
    name = Headers.key s := by
  obtain ⟨-, hname⟩ := Option.ite_none_right_eq_some.mp h
  exact (Option.some.inj hname).symm

theorem headerValue?_eq_self {bytes value : Bytes} (h : headerValue? bytes = some value) :
    value = bytes := by
  obtain ⟨-, hvalue⟩ := Option.ite_none_right_eq_some.mp h
  exact (Option.some.inj hvalue).symm

namespace CallSettings

/-- The line that tells a configured header. -/
def sentLine (header : String × String) : String × HeaderValue :=
  (Headers.key header.1, Text.encode header.2)

theorem yields_headerLine (header : String × String) :
    Yields (headerLine header) fun line => line = sentLine header := by
  unfold headerLine
  split
  · next name value hname hvalue =>
    exact yields_ok (Prod.ext (headerName?_eq_key hname) (headerValue?_eq_self hvalue))
  · exact yields_error _
  · exact yields_error _

theorem yields_headerLines (headers : Assoc String) :
    Yields (headers.mapM headerLine) fun lines => lines = headers.map sentLine := by
  induction headers with
  | nil => exact yields_ok rfl
  | cons header headers ih =>
    rw [List.mapM_cons]
    exact (yields_headerLine header).bind fun line hline => ih.bind fun lines hlines =>
      yields_ok (congrArg₂ List.cons hline hlines)

theorem defaultHeaders_foldl (lines : List (String × HeaderValue)) (p : Policy) :
    (lines.foldl (fun p line => p.withDefaultHeader line.1 line.2) p).defaultHeaders
      = p.defaultHeaders ++ lines.map fun line => (Headers.key line.1, line.2) := by
  induction lines generalizing p with
  | nil => exact (List.append_nil _).symm
  | cons line lines ih =>
    rw [List.foldl_cons, ih, List.map_cons]
    exact List.append_assoc p.defaultHeaders [(Headers.key line.1, line.2)] _

/-- **The default headers of a service** are the configured ones, line by line. -/
theorem exists_policy {s : CallSettings} {lines : List (String × HeaderValue)}
    (h : s.headerLines = .ok lines) :
    ∃ policy, s.policy = .ok policy ∧ policy.defaultHeaders = s.defaultHeaders.map sentLine := by
  unfold policy
  refine ⟨_, by rw [h]; rfl, ?_⟩
  obtain rfl := yields_headerLines s.defaultHeaders lines h
  rw [defaultHeaders_foldl, List.map_map]
  refine (List.nil_append _).trans (List.map_congr_left fun header _ => ?_)
  exact Prod.ext (Headers.key_key header.1) rfl

/-! ### Values of a configured name -/

/-- **No other configured name** is the same name of a header. -/
def Unrivalled (s : CallSettings) (name : String) : Prop :=
  ∀ other ∈ s.defaultHeaders.names, Headers.key other = Headers.key name → other = name

instance (s : CallSettings) (name : String) : Decidable (s.Unrivalled name) :=
  inferInstanceAs (Decidable (∀ other ∈ s.defaultHeaders.names, _))

theorem values_map_sentLine (headers : Assoc String) (name : String) :
    Headers.values (headers.map sentLine) name
      = (headers.filter fun header => Headers.key header.1 = Headers.key name).map
          fun header => Text.encode header.2 := by
  unfold Headers.values
  rw [List.filter_map, List.map_map]
  rfl

/-- What is listed under a name and nowhere else is all that a filter for the name leaves. -/
theorem filter_eq_singleton {headers : Assoc String} (hnodup : headers.names.Nodup)
    {header : String × String} (hheader : header ∈ headers) {keep : String × String → Bool}
    (hkeep : keep header = true) (honly : ∀ h ∈ headers, keep h = true → h.1 = header.1) :
    headers.filter keep = [header] := by
  obtain ⟨before, after, rfl⟩ := List.append_of_mem hheader
  rw [Assoc.names, List.map_append, List.map_cons, List.nodup_append, List.nodup_cons] at hnodup
  obtain ⟨-, ⟨hafter, -⟩, hbefore⟩ := hnodup
  have hnone_before : before.filter keep = [] := List.filter_eq_nil_iff.mpr fun h hh hkept =>
    hbefore _ (List.mem_map_of_mem hh) _ List.mem_cons_self
      (honly h (List.mem_append_left _ hh) hkept)
  have hnone_after : after.filter keep = [] := List.filter_eq_nil_iff.mpr fun h hh hkept =>
    hafter (honly h (List.mem_append_right _ (List.mem_cons_of_mem _ hh)) hkept
      ▸ List.mem_map_of_mem hh)
  rw [List.filter_append, List.filter_cons_of_pos hkeep, hnone_before, hnone_after]
  rfl

theorem values_eq_singleton_iff {s : CallSettings} (hnodup : s.defaultHeaders.names.Nodup)
    {header : String × String} (hheader : header ∈ s.defaultHeaders) :
    Headers.values (s.defaultHeaders.map sentLine) header.1 = [Text.encode header.2]
      ↔ s.Unrivalled header.1 := by
  rw [values_map_sentLine]
  constructor
  · intro hvalues other hother hkey
    obtain ⟨rival, hrival, rfl⟩ := List.mem_map.mp hother
    -- One value is one line, and both names have one.
    have hlength := congrArg List.length hvalues
    rw [List.length_map] at hlength
    obtain ⟨line, hline⟩ := List.length_eq_one_iff.mp hlength
    have hfirst := List.mem_singleton.mp
      (hline ▸ List.mem_filter.mpr ⟨hheader, decide_eq_true rfl⟩)
    have hsecond := List.mem_singleton.mp
      (hline ▸ List.mem_filter.mpr ⟨hrival, decide_eq_true hkey⟩)
    rw [hfirst, hsecond]
  · intro halone
    rw [filter_eq_singleton hnodup hheader (decide_eq_true rfl) fun h hh hkey =>
      halone h.1 (List.mem_map_of_mem hh) (of_decide_eq_true hkey)]
    rfl

end CallSettings

namespace Settings

/-- Settings that pass the check make a policy with their headers. -/
theorem exists_policy_of_check {s : Settings} (h : s.check = .ok ()) :
    ∃ policy, s.calls.policy = .ok policy ∧
      policy.defaultHeaders = s.calls.defaultHeaders.map CallSettings.sentLine := by
  cases hlines : s.calls.headerLines with
  | ok lines => exact CallSettings.exists_policy hlines
  | error e =>
    unfold check at h
    rw [hlines] at h
    cases h

namespace Loader

/-! ### Headers from a variable -/

/-- A loader with one variable, the one that sets the default headers. -/
def ofHeaders (value : String) : Loader :=
  (({} : Loader).withFamily "APP").withVariables [("APP_PIPELINE_DEFAULT_HEADERS", value)]

theorem built_ofHeaders (value : String) : (ofHeaders value).Built :=
  (Built.start.family "APP").given _

theorem load_ofHeaders {value : String} {pairs headers : Assoc String}
    (hpairs : readPairs value = .ok pairs) (hsorted : sortedTexts pairs = headers)
    (hcheck : check { calls := { defaultHeaders := headers } } = .ok ()) :
    (ofHeaders value).load = .ok { calls := { defaultHeaders := headers } } := by
  have hfield : Field.ofVariable? "APP" "APP_PIPELINE_DEFAULT_HEADERS" = some .defaultHeaders := by
    decide +kernel
  have hupper : Text.uppercase "APP" = "APP" := by decide +kernel
  have hassign : Field.assign .defaultHeaders value {}
      = .ok { calls := { defaultHeaders := headers } } := by
    rw [Field.assign, hpairs, ← hsorted]
    rfl
  have hoverridden : (ofHeaders value).overridden
      = .ok { calls := { defaultHeaders := headers } } := by
    simp [ofHeaders, overridden, withFamily, withVariables, hupper, override, familyOf, hfield,
      hassign, Except.mapError]
  rw [load, hoverridden]
  show ((check _).mapError _ >>= _) = _
  rw [hcheck]
  rfl

/-! ### From settings to the wire -/

/-- **One line for each configured header.**  The settings that a loader gives make a policy.  Take a
service with it, an answer of success or a stream that is opened, and a configured header of a name
that is not set anyway.  There is one line of its name, with the configured value, if and only if no
other configured name is the same in another spelling. -/
theorem configured_header_once_iff {l : Loader} (hbuilt : l.Built) {settings : Settings}
    (hload : l.load = .ok settings) :
    ∃ policy, settings.calls.policy = .ok policy ∧
      ∀ s : Service, s.policy = policy → ∀ header ∈ settings.calls.defaultHeaders,
        (∀ (α β : Type) (e : Endpoint α β) (r : Request), s.Succeeds e r →
          (e.ownHeaders (s.requestId r)).contains header.1 = false →
            ((s.serve e r).2.response.headers.values header.1 = [Text.encode header.2]
              ↔ settings.calls.Unrivalled header.1)) ∧
        ∀ (α : Type) (p : StreamPolicy) (e : StreamEndpoint α) (r : Request)
          (committed : Committed), (s.openStream p e r).outcome = .ok committed →
          (Service.ownStreamHeaders (s.requestId r)).contains header.1 = false →
            (committed.headers.values header.1 = [Text.encode header.2]
              ↔ settings.calls.Unrivalled header.1) := by
  obtain ⟨hdistinct, hcheck⟩ := hbuilt.yields_load settings hload
  obtain ⟨policy, hpolicy, hheaders⟩ := exists_policy_of_check hcheck
  refine ⟨policy, hpolicy, fun s hs header hheader => ?_⟩
  -- Where headers are merged, a name that is not set anyway has its configured values.
  have hmerged : ∀ {own sent : Headers}, own.Merges s.policy.defaultHeaders sent →
      own.contains header.1 = false →
        (sent.values header.1 = [Text.encode header.2] ↔ settings.calls.Unrivalled header.1) := by
    intro own sent hmerges hown
    rw [hmerges header.1, hown, if_neg Bool.false_ne_true, hs, hheaders]
    exact CallSettings.values_eq_singleton_iff hdistinct hheader
  constructor
  · intro α β e r hsuccess hown
    exact hmerged (Service.merges_of_succeeds hsuccess) hown
  · intro α p e r committed hopen hown
    exact hmerged (Service.merges_of_openStream hopen) hown

/-- Two headers of different names are told by one line each. -/
theorem configured_header_once_service :
    ∃ settings policy, (ofHeaders "x-region=eu, x-service=orders").load = .ok settings ∧
      settings.calls.policy = .ok policy ∧ ("x-service", "orders") ∈ settings.calls.defaultHeaders ∧
      let s : Service := { policy }
      (s.serve (.always [] (.ok ())) .probe).2.response.headers.values "x-service"
          = [Text.encode "orders"] ∧
        ∃ committed, (s.openStream {} (.silent []) .probe).outcome = .ok committed ∧
          committed.headers.values "x-service" = [Text.encode "orders"] := by
  have hload : (ofHeaders "x-region=eu, x-service=orders").load
      = .ok { calls := { defaultHeaders := [("x-region", "eu"), ("x-service", "orders")] } } :=
    load_ofHeaders rfl (List.mergeSort_of_pairwise (by decide)) (by decide +kernel)
  obtain ⟨policy, hpolicy, honce⟩ := configured_header_once_iff (built_ofHeaders _) hload
  obtain ⟨hserve, hopen⟩ :=
    honce { policy } rfl ("x-service", "orders") (List.mem_cons_of_mem _ List.mem_cons_self)
  have halone : CallSettings.Unrivalled
      { defaultHeaders := [("x-region", "eu"), ("x-service", "orders")] } "x-service" := by
    decide +kernel
  refine ⟨_, policy, hload, hpolicy, List.mem_cons_of_mem _ List.mem_cons_self, ?_, _, rfl, ?_⟩
  · exact (hserve _ _ _ _ ⟨_, (), (), List.mem_singleton_self _, rfl, .nothing rfl⟩ rfl).mpr halone
  · exact (hopen _ {} (.silent []) .probe _ rfl rfl).mpr halone

/-- **One name in two spellings** is accepted, and every success has two lines of it. -/
theorem configured_header_twice :
    ∃ settings policy, (ofHeaders "X-A=1,x-a=1").Built ∧
      (ofHeaders "X-A=1,x-a=1").load = .ok settings ∧ settings.calls.policy = .ok policy ∧
      ("x-a", "1") ∈ settings.calls.defaultHeaders ∧
      let s : Service := { policy }
      let e := Endpoint.always [] (.ok ())
      s.Succeeds e .probe ∧ (e.ownHeaders (s.requestId .probe)).contains "x-a" = false ∧
        (s.serve e .probe).2.response.headers.values "x-a"
          = [Text.encode "1", Text.encode "1"] := by
  have hload : (ofHeaders "X-A=1,x-a=1").load
      = .ok { calls := { defaultHeaders := [("X-A", "1"), ("x-a", "1")] } } :=
    load_ofHeaders rfl (List.mergeSort_of_pairwise (by decide)) (by decide +kernel)
  obtain ⟨policy, hpolicy, hheaders⟩ := exists_policy_of_check
    (s := { calls := { defaultHeaders := [("X-A", "1"), ("x-a", "1")] } }) (by decide +kernel)
  have hsuccess : Service.Succeeds { policy } (.always [] (.ok ())) .probe :=
    ⟨_, (), (), List.mem_singleton_self _, rfl, .nothing rfl⟩
  refine ⟨_, policy, built_ofHeaders _, hload, hpolicy,
    List.mem_cons_of_mem _ List.mem_cons_self, hsuccess, rfl, ?_⟩
  refine (Service.merges_of_succeeds hsuccess "x-a").trans ((if_neg Bool.false_ne_true).trans ?_)
  show Headers.values policy.defaultHeaders "x-a" = _
  rw [hheaders]
  decide +kernel

end Loader

end Settings

end Callpoint
