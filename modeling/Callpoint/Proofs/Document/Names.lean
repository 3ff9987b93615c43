import Mathlib.Data.List.Nodup
import Mathlib.Data.List.Perm.Subperm
import Callpoint.Proofs.Document.Operations
import Callpoint.Proofs.Document.Placeholders

/-!
# What a document names

An operation is known by its identifier, and within it a parameter by its place and its name.  The
parameters of an operation are those that its endpoint names, in its path or by declaration, and no
others (`tellsParameters`).  Each is told once, unless the path has a placeholder twice or a query
parameter is declared twice; for path parameters that are declared it does not matter
(`nodup_labels_iff`).

The identifiers are the names of the endpoints, whatever their paths and methods are
(`operationIds_perm`).  So `named_once_iff` says of a document when each of its names is unique.
-/

namespace Callpoint

/-- What a parameter is known by in an operation. -/
def Parameter.label (p : Parameter) : ParameterPlace × String := (p.place, p.name)

namespace Document

variable {spec : Spec} {name : String}

/-! ### Parameters -/

/-- **What an endpoint names in its path:** the placeholders, and the path parameters that it
declares. -/
def NamesInPath (spec : Spec) (name : String) : Prop :=
  HasPlaceholder spec.path.toList name.toList ∨ name ∈ spec.pathParams

/-- **Parameters are those of an endpoint:** a required one in the path for each name in its path,
an optional one in the query for each query parameter, and no others. -/
structure TellsParameters (ps : List Parameter) (spec : Spec) : Prop where
  path : ∀ name, NamesInPath spec name → ∃ p ∈ ps, p.label = (.path, name)
  query : ∀ name ∈ spec.queryParams, ∃ p ∈ ps, p.label = (.query, name)
  only : ∀ p ∈ ps, p.place = .path ∧ p.required = true ∧ NamesInPath spec p.name ∨
    p.place = .query ∧ p.required = false ∧ p.name ∈ spec.queryParams

theorem mem_pathParameterNames_iff : name ∈ pathParameterNames spec ↔ NamesInPath spec name := by
  unfold pathParameterNames NamesInPath
  rw [mem_foldl_addDistinct, mem_placeholders_iff]

theorem tellsParameters (spec : Spec) : TellsParameters (parameters spec) spec where
  path name h := by
    refine ⟨textParameter .path true name, List.mem_append_left _ ?_, rfl⟩
    exact List.mem_map_of_mem (mem_pathParameterNames_iff.mpr h)
  query name h :=
    ⟨textParameter .query false name, List.mem_append_right _ (List.mem_map_of_mem h), rfl⟩
  only p hp := by
    rcases List.mem_append.mp hp with hp | hp
    · obtain ⟨name, hname, rfl⟩ := List.mem_map.mp hp
      exact Or.inl ⟨rfl, rfl, mem_pathParameterNames_iff.mp hname⟩
    · obtain ⟨name, hname, rfl⟩ := List.mem_map.mp hp
      exact Or.inr ⟨rfl, rfl, hname⟩

/-- Declared parameters are added to the placeholders only if they are new. -/
theorem nodup_pathParameterNames_iff (spec : Spec) :
    (pathParameterNames spec).Nodup ↔ (placeholders spec.path.toList).Nodup :=
  ⟨fun h => h.sublist (sublist_foldl_addDistinct _ _), nodup_foldl_addDistinct⟩

/-- **When each parameter is told once:** no placeholder and no query parameter comes twice. -/
theorem nodup_labels_iff (spec : Spec) :
    ((parameters spec).map Parameter.label).Nodup ↔
      (placeholders spec.path.toList).Nodup ∧ spec.queryParams.Nodup := by
  have hlabels : (parameters spec).map Parameter.label
      = (pathParameterNames spec).map (ParameterPlace.path, ·)
        ++ spec.queryParams.map (ParameterPlace.query, ·) := by
    unfold parameters
    rw [List.map_append, List.map_map, List.map_map]
    rfl
  have hinj : ∀ place : ParameterPlace, Function.Injective fun name : String => (place, name) :=
    fun _ _ _ heq => (Prod.mk.inj heq).2
  rw [hlabels, List.nodup_append, List.nodup_map_iff (hinj _), List.nodup_map_iff (hinj _),
    nodup_pathParameterNames_iff]
  -- The places tell path parameters and query parameters apart.
  refine and_congr_right fun _ => and_iff_left fun a ha b hb heq => ?_
  obtain ⟨_, -, rfl⟩ := List.mem_map.mp ha
  obtain ⟨_, -, rfl⟩ := List.mem_map.mp hb
  cases heq

/-! ### Operations -/

theorem mem_operationsIn_of_operationAt {paths : Assoc PathItem} {method path : String}
    {op : Operation} (h : operationAt paths method path = some op) :
    ∃ m : Method, m.name = method ∧ (path, m, op) ∈ operationsIn paths := by
  obtain ⟨item, hitem, h⟩ := Option.bind_eq_some_iff.mp h
  obtain ⟨m, hm, hop⟩ := Option.bind_eq_some_iff.mp h
  refine ⟨m, Method.name_of_ofName? hm, List.mem_flatMap.mpr ⟨_, Assoc.mem_of_get? hitem, ?_⟩⟩
  refine List.mem_map_of_mem (List.mem_filterMap.mpr ⟨m, m.mem_all, ?_⟩)
  rw [hop]
  rfl

variable {outline : Outline} {descriptions : Descriptions} {specs : List Spec} {doc : Document}

/-- **Each operation has the name of its endpoint,** and each endpoint has one operation. -/
theorem operationIds_perm (h : build outline descriptions specs = .ok doc) :
    (doc.operations.map fun entry => entry.2.2.operationId).Perm (specs.map Spec.name) := by
  obtain ⟨hbuildable, hplaces⟩ := places_of_build h
  -- Endpoints differ in their places, all their operations are there, and there are as many.
  let entry (spec : Spec) := (spec.path, spec.method, operation outline.bearer spec)
  let entries := doc.operations.map fun (path, m, op) => (path, m.name, op)
  have hnodup : (specs.map entry).Nodup := by
    refine List.pairwise_map.mpr (hbuildable.apart.imp fun happart heq => happart ?_)
    exact ⟨(Prod.mk.inj (Prod.mk.inj heq).2).1, (Prod.mk.inj heq).1⟩
  have hsubset : specs.map entry ⊆ entries := by
    intro e he
    obtain ⟨spec, hspec, rfl⟩ := List.mem_map.mp he
    obtain ⟨m, hm, hmem⟩ := mem_operationsIn_of_operationAt
      ((hplaces.operation _ _ _).mpr ⟨spec, hspec, rfl, rfl, rfl⟩)
    exact List.mem_map.mpr ⟨_, hmem, congrArg (fun method => (_, method, _)) hm⟩
  have hlength : entries.length ≤ (specs.map entry).length := by
    rw [List.length_map, List.length_map]
    exact Nat.le_of_eq hplaces.count
  have hperm := ((List.subperm_of_subset hnodup hsubset).perm_of_length_le hlength).symm
  have hids := hperm.map fun e => e.2.2.operationId
  rw [List.map_map, List.map_map] at hids
  exact hids

/-- **When the names of a document are unique.** The identifiers of its operations differ exactly if
the names of the endpoints do.  Each operation has the parameters of its endpoint and no others: a
required one for every placeholder of the path and every declared path parameter, and an optional
one for every query parameter.  None of them is there twice exactly if the path has no placeholder
twice and no query parameter is declared twice. -/
theorem named_once_iff (h : build outline descriptions specs = .ok doc) :
    ((doc.operations.map fun entry => entry.2.2.operationId).Nodup ↔ (specs.map Spec.name).Nodup)
    ∧ ∀ path m op, (path, m, op) ∈ doc.operations → ∃ spec ∈ specs,
      spec.path = path ∧ spec.method = m.name ∧ TellsParameters op.parameters spec ∧
      ((op.parameters.map Parameter.label).Nodup ↔
        (placeholders spec.path.toList).Nodup ∧ spec.queryParams.Nodup) := by
  refine ⟨(operationIds_perm h).nodup_iff, fun path m op hop => ?_⟩
  obtain ⟨spec, hspec, hmethod, hpath, rfl⟩ := exists_spec_of_mem_operations h hop
  exact ⟨spec, hspec, hpath, hmethod, tellsParameters spec, nodup_labels_iff spec⟩

/-- An endpoint that declares the one placeholder of its path, and a query parameter of the same
name. -/
def userPosts : Spec := .build "userPosts" "GET" "/users/{id}/posts" [.pathParam "id",
  .queryParam "id", .queryParam "page"]

/-- An endpoint without parameters. -/
def posts : Spec := .build "posts" "GET" "/posts" []

/-- All names are unique, although `id` is declared in three places. -/
theorem named_once_userPosts :
    ∃ doc, build { info := ⟨"Blog", "1", none⟩ } ⟨[]⟩ [userPosts, posts] = .ok doc ∧
      (doc.operations.map fun entry => entry.2.2.operationId).Nodup ∧
      ∀ path m op, (path, m, op) ∈ doc.operations → (op.parameters.map Parameter.label).Nodup := by
  refine Exists.imp (fun doc h => ⟨h, ?_⟩) ⟨_, rfl⟩
  obtain ⟨hids, hparameters⟩ := named_once_iff h
  refine ⟨hids.mpr (by decide), fun path m op hop => ?_⟩
  obtain ⟨spec, hspec, -, -, -, honce⟩ := hparameters path m op hop
  refine honce.mpr ?_
  rcases List.mem_pair.mp hspec with rfl | rfl
  · exact ⟨by decide +kernel, by decide⟩
  · exact ⟨by decide +kernel, by decide⟩

/-- An endpoint with a placeholder that its path has twice and a query parameter declared twice. -/
def friendship : Spec := .build "userPosts" "GET" "/users/{id}/friends/{id}"
  [.queryParam "page", .queryParam "page"]

/-- **Names are repeated:** two endpoints of one name, whose paths differ, have one operation
identifier; and a repeated placeholder and a repeated declaration are each told twice. -/
theorem names_repeated :
    ∃ doc, build { info := ⟨"Blog", "1", none⟩ } ⟨[]⟩ [userPosts, friendship] = .ok doc ∧
      ¬ (doc.operations.map fun entry => entry.2.2.operationId).Nodup ∧
      ∃ op, doc.operation? "GET" "/users/{id}/friends/{id}" = some op ∧
        (op.parameters.map Parameter.label).count (.path, "id") = 2 ∧
        (op.parameters.map Parameter.label).count (.query, "page") = 2 := by
  refine Exists.imp (fun doc h => ⟨h, ?_⟩) ⟨_, rfl⟩
  refine ⟨?_, _, operation?_of_build h (List.mem_cons_of_mem _ List.mem_cons_self), ?_, ?_⟩
  · rw [(operationIds_perm h).nodup_iff]
    decide
  · decide +kernel
  · decide +kernel

end Document

end Callpoint
