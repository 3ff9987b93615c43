import Callpoint.Document.Build

/-!
# Where a document keeps its operations

`place` puts the operation of one endpoint under its method and path and changes nothing else
(`place_ok`); it fails rather than put two operations in one place.  So no operation of a document
that was built is lost: `operation?_of_build` finds the one of each endpoint.
-/

namespace Callpoint

theorem Method.name_of_ofName? {name : String} {m : Method} (h : Method.ofName? name = some m) :
    m.name = name := by
  have := List.find?_some h
  exact beq_iff_eq.mp this

namespace Document

/-- The operation under a method and a path. -/
def operationAt (paths : Assoc PathItem) (method path : String) : Option Operation := do
  let item ← Assoc.get? paths path
  item.operation? (← Method.ofName? method)

/-- A path item that is missing has no operations. -/
theorem operationAt_eq (paths : Assoc PathItem) (method path : String) :
    operationAt paths method path =
      (Method.ofName? method).bind ((Assoc.get? paths path).getD {}).operation? := by
  unfold operationAt
  cases Assoc.get? paths path with
  | none => cases Method.ofName? method <;> rfl
  | some item => rfl

theorem operationAt_set (paths : Assoc PathItem) (path : String) (m : Method) (op : Operation)
    (method other : String) :
    operationAt (Assoc.set path ((((Assoc.get? paths path).getD {}).set m op)) paths) method other
      = if Method.ofName? method = some m ∧ other = path then some op
        else operationAt paths method other := by
  rw [operationAt_eq, operationAt_eq, Assoc.get?_set]
  cases hm : Method.ofName? method with
  | none => simp
  | some n =>
    by_cases hpath : other = path
    · subst hpath
      simp only [↓reduceIte, Option.getD_some, Option.bind_some, PathItem.set, Option.some.injEq,
        and_true]
    · simp only [hpath, ↓reduceIte, and_false]

/-- What it takes to place an operation, and what comes of it. -/
theorem place_eq_ok_iff {bearer : Option String} {paths paths' : Assoc PathItem} {spec : Spec} :
    place bearer paths spec = .ok paths' ↔
      ∃ m, Method.ofName? spec.method = some m ∧
        operationAt paths spec.method spec.path = none ∧
        paths' = Assoc.set spec.path
          (((Assoc.get? paths spec.path).getD {}).set m (operation bearer spec)) paths := by
  rw [operationAt_eq]
  unfold place
  cases hm : Method.ofName? spec.method with
  | none => simp
  | some m =>
    cases hop : ((Assoc.get? paths spec.path).getD {}).operation? m with
    | some first => simp [hop]
    | none => simp [hop, eq_comm]

/-- **One more endpoint:** its place was free and holds its operation now, and every other place is
as it was. -/
theorem place_ok {bearer : Option String} {paths paths' : Assoc PathItem} {spec : Spec}
    (h : place bearer paths spec = .ok paths') :
    operationAt paths spec.method spec.path = none ∧
      operationAt paths' spec.method spec.path = some (operation bearer spec) ∧
      ∀ method path, ¬ (method = spec.method ∧ path = spec.path) →
        operationAt paths' method path = operationAt paths method path := by
  obtain ⟨m, hm, hfree, rfl⟩ := place_eq_ok_iff.mp h
  refine ⟨hfree, ?_, fun method path hne => ?_⟩
  · rw [operationAt_set, if_pos ⟨hm, rfl⟩]
  · rw [operationAt_set, if_neg]
    -- Methods with one name are equal, so another place differs in the method or in the path.
    rintro ⟨hmethod, hpath⟩
    have hname := Method.name_of_ofName? hmethod
    rw [Method.name_of_ofName? hm] at hname
    exact hne ⟨hname.symm, hpath⟩

/-- An operation that has its place keeps it. -/
theorem operationAt_of_place {bearer : Option String} {paths paths' : Assoc PathItem} {spec : Spec}
    (h : place bearer paths spec = .ok paths') {method path : String} {op : Operation}
    (hop : operationAt paths method path = some op) : operationAt paths' method path = some op := by
  obtain ⟨hfree, -, hother⟩ := place_ok h
  rw [hother method path, hop]
  rintro ⟨rfl, rfl⟩
  rw [hfree] at hop
  cases hop

/-- Placing many endpoints keeps what was there and adds the operation of each. -/
theorem operationAt_of_foldlM_place {bearer : Option String} {specs : List Spec}
    {paths paths' : Assoc PathItem} (h : specs.foldlM (place bearer) paths = .ok paths') :
    (∀ method path op, operationAt paths method path = some op →
      operationAt paths' method path = some op) ∧
    ∀ spec ∈ specs, operationAt paths' spec.method spec.path = some (operation bearer spec) := by
  induction specs generalizing paths with
  | nil =>
    obtain rfl := Except.ok.inj h
    exact ⟨fun _ _ _ hop => hop, fun _ hspec => absurd hspec List.not_mem_nil⟩
  | cons spec specs ih =>
    -- The hypothesis says of the places after `spec` that they are kept, which keeps its own.
    rw [List.foldlM_cons] at h
    cases hplace : place bearer paths spec with
    | error e =>
      rw [hplace] at h
      cases h
    | ok next =>
      rw [hplace] at h
      obtain ⟨hkeep, hrest⟩ := ih h
      refine ⟨fun method path op hop => hkeep _ _ _ (operationAt_of_place hplace hop), ?_⟩
      intro other hother
      rcases List.mem_cons.mp hother with rfl | hother
      · exact hkeep _ _ _ (place_ok hplace).2.1
      · exact hrest other hother

/-- What a document that was built consists of: the placed endpoints, the schemas that they refer to
and their tags. -/
theorem contents_of_build {outline : Outline} {descriptions : Descriptions} {specs : List Spec}
    {doc : Document} (h : build outline descriptions specs = .ok doc) :
    specs.foldlM (place outline.bearer) [] = .ok doc.paths ∧
      (∃ c, doc.components = some c ∧ c.schemas = schemas descriptions specs) ∧
      doc.tags = distinct (specs.flatMap Spec.tags) := by
  unfold build at h
  cases hpaths : specs.foldlM (place outline.bearer) [] with
  | error e =>
    rw [hpaths] at h
    cases h
  | ok paths =>
    rw [hpaths] at h
    obtain rfl := Except.ok.inj h
    exact ⟨rfl, ⟨_, rfl, rfl⟩, rfl⟩

/-- **No endpoint is lost:** a document that was built has the operation of each. -/
theorem operation?_of_build {outline : Outline} {descriptions : Descriptions} {specs : List Spec}
    {doc : Document} (h : build outline descriptions specs = .ok doc) {spec : Spec}
    (hspec : spec ∈ specs) :
    doc.operation? spec.method spec.path = some (operation outline.bearer spec) :=
  (operationAt_of_foldlM_place (contents_of_build h).1).2 spec hspec

end Document

end Callpoint
