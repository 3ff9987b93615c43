import Callpoint.Proofs.Exchange.Reach
import Callpoint.Proofs.Stream.Delivery

/-!
# Parameters of calls

What a handler or the callback of a stream finds among the parameters of a request.  The values that
the router matched come first and the first value of a name counts, so that no query reaches what
is matched; behind them are the first values of declared names and nothing else of the query
(`matched_params_prevail`).
-/

namespace Callpoint

namespace Params

/-- **The first value of a name.** -/
def First (p : Params) (name value : String) : Prop :=
  ∃ before after, p = before ++ (name, value) :: after ∧ name ∉ before.map Prod.fst

/-- **What a query gives to names:** one pair for each name that has a value in it, in the order of
the names, with the first value. -/
inductive Gives (query : Params) : List String → Params → Prop
  | nil : Gives query [] []
  | found {name value : String} {names : List String} {given : Params}
      (hfirst : query.First name value) (hrest : Gives query names given) :
      Gives query (name :: names) ((name, value) :: given)
  | absent {name : String} {names : List String} {given : Params}
      (hnone : name ∉ query.map Prod.fst) (hrest : Gives query names given) :
      Gives query (name :: names) given

/-- A lookup finds the first value of a name. -/
theorem get?_eq_some_iff {p : Params} {name value : String} :
    p.get? name = some value ↔ p.First name value := by
  unfold get? First
  rw [List.lookup_eq_some_iff]
  refine exists_congr fun before => exists_congr fun after => and_congr_right fun _ => ?_
  constructor
  · intro hall hmem
    obtain ⟨pair, hpair, hname⟩ := List.mem_map.mp hmem
    exact absurd hname.symm (bne_iff_ne.mp (hall pair hpair))
  · intro hmem pair hpair
    refine bne_iff_ne.mpr fun hname => hmem ?_
    exact List.mem_map.mpr ⟨pair, hpair, hname.symm⟩

theorem get?_eq_none_iff {p : Params} {name : String} :
    p.get? name = none ↔ name ∉ p.map Prod.fst := by
  rw [← contains_iff, contains, Option.isSome_iff_ne_none, not_not]

/-- Pairs behind others do not count for their names. -/
theorem get?_append_of_mem {p : Params} {name : String} (h : name ∈ p.map Prod.fst) (more : Params) :
    get? (p ++ more) name = p.get? name := by
  have hsome : p.get? name ≠ none := fun hnone => get?_eq_none_iff.mp hnone h
  obtain ⟨value, hvalue⟩ := Option.ne_none_iff_exists'.mp hsome
  unfold get? at hvalue ⊢
  rw [List.lookup_append, hvalue]
  rfl

/-- What a query gives are first values of declared names. -/
theorem Gives.of_mem {query given : Params} {names : List String} (h : Gives query names given)
    {name value : String} (hmem : (name, value) ∈ given) :
    name ∈ names ∧ query.First name value := by
  induction h with
  | nil => cases hmem
  | found hfirst hrest ih =>
    rcases List.mem_cons.mp hmem with heq | hmem
    · obtain ⟨rfl, rfl⟩ := Prod.mk.inj heq
      exact ⟨List.mem_cons_self, hfirst⟩
    · obtain ⟨hname, hvalue⟩ := ih hmem
      exact ⟨List.mem_cons_of_mem _ hname, hvalue⟩
  | absent hnone hrest ih =>
    obtain ⟨hname, hvalue⟩ := ih hmem
    exact ⟨List.mem_cons_of_mem _ hname, hvalue⟩

end Params

namespace Service

open Params (First Gives)

variable {s : Service} {spec : Spec} {r : Request} {c : Context}

/-- What is bound of a query is what it gives to the declared names. -/
theorem gives_boundQuery (spec : Spec) (query : Params) :
    Gives query spec.queryParams (boundQuery spec query) := by
  unfold boundQuery
  induction spec.queryParams with
  | nil => exact .nil
  | cons name names ih =>
    rw [List.filterMap_cons]
    -- A declared name gives a pair only if the query has it.
    cases hvalue : query.lookup name with
    | none => exact .absent (Params.get?_eq_none_iff.mp hvalue) ih
    | some value => exact .found (Params.get?_eq_some_iff.mp hvalue) ih

/-- **A request reaches a handler** with a specification: it is called in a context, to answer the
request or to write a stream. -/
inductive Reaches (s : Service) (spec : Spec) (r : Request) (c : Context) : Prop
  | call {α β : Type} {e : Endpoint α β} {x : α} (hspec : e.spec = spec)
      (h : (c, x) ∈ Event.calls (s.serve e r).1) : Reaches s spec r c
  | stream {α : Type} {p : StreamPolicy} {e : StreamEndpoint α} {x : α} (hspec : e.spec = spec)
      (h : (c, x) ∈ Event.calls (s.openStream p e r).events) : Reaches s spec r c

/-- Handlers and callbacks are called in the context that the gates have made. -/
theorem Reaches.context_eq (h : s.Reaches spec r c) : c = s.contextOf spec r := by
  cases h with
  | call hspec h =>
    subst hspec
    exact (admits_of_passed (outcome_passGates_of_mem_calls h)).2
  | stream hspec h =>
    subst hspec
    exact (admits_of_passed (outcome_passGates_of_mem_calls_openStream h)).2

/-- In that context the matched parameters come first. -/
theorem Reaches.params_eq (h : s.Reaches spec r c) :
    c.params = r.params ++ boundQuery spec r.queryPairs := by
  rw [h.context_eq]
  rfl

/-- A name that the router matched has the value that it matched first. -/
theorem Reaches.param?_of_matched (h : s.Reaches spec r c) {name : String}
    (hname : name ∈ r.params.map Prod.fst) : c.param? name = r.params.get? name := by
  rw [Context.param?, h.params_eq]
  exact Params.get?_append_of_mem hname _

/-- **Matched parameters prevail.**  Whenever requests with the same matched parameters reach a
handler with the same specification, whatever their queries are, each matched name has the same
value for both, which is the first one that the router matched.  The parameters are what the router
matched and behind it one pair, with the first value in the query, for each declared name that has
one, in the order of declaration: all that a handler sees of a query is the first value of a
declared name. -/
theorem matched_params_prevail {r₁ r₂ : Request} (hmatched : r₁.params = r₂.params)
    {c₁ c₂ : Context} (h₁ : s.Reaches spec r₁ c₁) (h₂ : s.Reaches spec r₂ c₂) :
    (∀ name ∈ r₁.params.map Prod.fst, c₁.param? name = c₂.param? name ∧
        ∀ value, c₁.param? name = some value ↔ r₁.params.First name value) ∧
      (∃ given, Gives r₁.queryPairs spec.queryParams given ∧ c₁.params = r₁.params ++ given) ∧
      ∀ name value, (name, value) ∈ c₁.params → (name, value) ∈ r₁.params ∨
        (name ∈ spec.queryParams ∧ First r₁.queryPairs name value) := by
  have hgives : Gives r₁.queryPairs spec.queryParams (boundQuery spec r₁.queryPairs) :=
    gives_boundQuery spec r₁.queryPairs
  refine ⟨fun name hname => ⟨?_, fun value => ?_⟩, ⟨_, hgives, h₁.params_eq⟩, fun name value => ?_⟩
  · have hother : name ∈ r₂.params.map Prod.fst := hmatched ▸ hname
    rw [h₁.param?_of_matched hname, h₂.param?_of_matched hother, hmatched]
  · rw [h₁.param?_of_matched hname, Params.get?_eq_some_iff]
  · intro hmem
    rw [h₁.params_eq] at hmem
    exact (List.mem_append.mp hmem).imp_right hgives.of_mem

/-- A query that has the name of a matched parameter twice and a name that is not declared does not
change what the handler finds under the matched name. -/
theorem matched_params_prevail_id :
    let e := Endpoint.always [.pathParam "id", .queryParam "page", .queryParam "id"] (.ok ())
    let r (query : String) : Request :=
      { Request.probe with
        uri := { Request.probe.uri with query := some query.toList }
        params := [("id", "7")] }
    let s : Service := {}
    ∃ c₁ c₂, s.Reaches e.spec (r "id=8&id=9&admin=1") c₁ ∧ s.Reaches e.spec (r "page=2") c₂ ∧
      c₁.param? "id" = some "7" ∧ c₂.param? "id" = some "7" ∧
      c₁.params = [("id", "7"), ("id", "8")] := by
  intro e r s
  have hadmits : ∀ query, s.Admits e.spec e.input (r query) () := by
    intro query
    refine ⟨?_, .ignored rfl, rfl⟩
    intro name hname
    obtain rfl := List.mem_singleton.mp hname
    exact List.mem_singleton_self _
  have hreaches : ∀ query, s.Reaches e.spec (r query) (s.contextOf e.spec (r query)) := by
    intro query
    refine .call (e := e) (x := ()) rfl ?_
    rw [calls_of_admits (hadmits query)]
    exact List.mem_singleton_self _
  have hmatched : (r "id=8&id=9&admin=1").params = (r "page=2").params := rfl
  obtain ⟨hparam, -, -⟩ := matched_params_prevail hmatched (hreaches _) (hreaches _)
  obtain ⟨hsame, hvalue⟩ := hparam "id" (List.mem_singleton_self _)
  have hseven := (hvalue "7").mpr ⟨[], [], rfl, List.not_mem_nil⟩
  have hgiven : boundQuery e.spec (r "id=8&id=9&admin=1").queryPairs = [("id", "8")] := by
    decide +kernel
  refine ⟨_, _, hreaches _, hreaches _, hseven, hsame ▸ hseven, ?_⟩
  rw [(hreaches _).params_eq, hgiven]
  rfl

end Service

end Callpoint
