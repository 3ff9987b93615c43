import Callpoint.Proofs.Document.Components
import Callpoint.Proofs.Document.Operations

/-!
# References

Every reference in a document leads to one of its components (`references_resolve`).  The argument
goes by where the schemas of a document come from (`Document.Origin`).  The types that an operation
refers to are those that the components are collected from, so what its schemas refer to is reached;
and a component refers to what its type leads to, which is reached as well.  Two things need a look
of their own: errors, which refer to the error component without mentioning a type of that name, and
their details, whose names are bare before they are looked up.
-/

namespace Callpoint

/-- **A schema stands in an operation:** it is that of a parameter, or of something that the
operation takes or answers. -/
inductive Operation.Holds (op : Operation) (s : Schema) : Prop
  | parameter {p : Parameter} (hp : p ∈ op.parameters) (h : p.schema = some s)
  | request {body : RequestContent} {mediaType : String} {media : MediaType}
      (hbody : op.requestBody = some body) (hmedia : (mediaType, media) ∈ body.content)
      (h : media.schema = some s)
  | response {status mediaType : String} {answer : ResponseContent} {media : MediaType}
      (hanswer : (status, answer) ∈ op.responses) (hmedia : (mediaType, media) ∈ answer.content)
      (h : media.schema = some s)

namespace Document

/-- **A schema stands in a document:** in one of its operations, or as a component. -/
inductive Holds (doc : Document) (s : Schema) : Prop
  | operation {path : String} {m : Method} {op : Operation} (hop : (path, m, op) ∈ doc.operations)
      (h : op.Holds s)
  | component {c : Components} {name : String} (hc : doc.components = some c)
      (h : (name, s) ∈ c.schemas)

variable {bearer : Option String} {d : Descriptions} {spec : Spec} {specs : List Spec}
  {name other : String} {s : Schema}

/-! ### Reached types -/

/-- A name that an operation mentions is reached. -/
theorem reaches_of_mentions (hspec : spec ∈ specs) {t : FieldType} (ht : t ∈ typesOf spec)
    (h : t.Mentions name) : Reaches d specs name :=
  ⟨name, ⟨spec, hspec, t, ht, h⟩, .refl⟩

theorem Reaches.tail (h : Reaches d specs name) (hother : (described d).LeadsTo name other) :
    Reaches d specs other := by
  obtain ⟨start, hstart, hreach⟩ := h
  exact ⟨start, hstart, hreach.tail hother⟩

theorem mem_names_of_reaches (h : Reaches d specs name) : name ∈ (schemas d specs).names :=
  mem_names_schemas_iff.mpr (Or.inr h)

/-! ### Origins -/

/-- **Where the schemas of a document come from:** from texts, from the types that an operation
mentions, from its groups of errors, and from what is described. -/
inductive Origin (d : Descriptions) (specs : List Spec) : Schema → Prop
  | text : Origin d specs .string
  | type {spec : Spec} {t : FieldType} (hspec : spec ∈ specs) (ht : t ∈ typesOf spec) :
      Origin d specs (.ofFieldType t)
  | group {spec : Spec} {status : Nat} {group : List Definition} (hspec : spec ∈ specs)
      (hgroup : (status, group) ∈ errorGroups spec) : Origin d specs (groupSchema group)
  | error : Origin d specs errorSchema
  | component {name : String} (h : Reaches d specs name) :
      Origin d specs ((described d).component name)

/-- Components are the shared error and what is reached. -/
theorem origin_of_mem_schemas (h : (name, s) ∈ schemas d specs) : Origin d specs s := by
  rcases eq_of_mem_schemas h with rfl | ⟨hname, rfl⟩
  · exact .error
  · exact .component hname

/-- An operation mentions the types of its input and of its output as they are spelled. -/
theorem mem_typesOf_input (h : spec.input.placeholder = false) :
    .ofTypeName spec.input.fullName ∈ typesOf spec := by
  unfold typesOf
  simp only [h, Bool.false_eq_true, if_false, List.mem_append, List.mem_singleton, true_or]

theorem mem_typesOf_output (h : spec.output.placeholder = false) :
    .ofTypeName spec.output.fullName ∈ typesOf spec := by
  unfold typesOf
  simp only [h, Bool.false_eq_true, if_false, List.mem_append, List.mem_singleton, true_or, or_true]

/-- The details of its errors it mentions by their bare name, whatever arguments the type has. -/
theorem mem_typesOf_details {status : Nat} {group : List Definition}
    (hgroup : (status, group) ∈ errorGroups spec) (h : detailsName? group = some name) :
    .named name ∈ typesOf spec := by
  unfold typesOf
  refine List.mem_append_right _ (List.mem_filterMap.mpr ⟨_, hgroup, ?_⟩)
  exact congrArg (Option.map FieldType.named) h

theorem eq_of_mem_content {mediaType other : String} {media : MediaType} {p : Schema}
    (hmedia : (other, media) ∈ content mediaType p) (h : media.schema = some s) : s = p := by
  obtain ⟨-, rfl⟩ := Prod.mk.inj (List.mem_singleton.mp hmedia)
  exact (Option.some.inj h).symm

/-- What an operation answers when it succeeds is of the type of its output, or a text. -/
theorem origin_of_successResponse (hspec : spec ∈ specs) {mediaType : String} {media : MediaType}
    (hmedia : (mediaType, media) ∈ (successResponse spec).content) (h : media.schema = some s) :
    Origin d specs s := by
  unfold successResponse at hmedia
  cases hplaceholder : spec.output.placeholder with
  | true =>
    cases hstreaming : spec.streaming with
    | true =>
      simp only [hstreaming, hplaceholder, if_true] at hmedia
      rw [eq_of_mem_content hmedia h]
      exact .text
    | false =>
      simp only [hstreaming, hplaceholder, if_true, Bool.false_eq_true, if_false] at hmedia
      exact absurd hmedia List.not_mem_nil
  | false =>
    have htype : s = typeSchema spec.output := by
      cases hstreaming : spec.streaming <;>
        simp only [hstreaming, hplaceholder, if_true, Bool.false_eq_true, if_false] at hmedia <;>
        exact eq_of_mem_content hmedia h
    rw [htype]
    exact .type hspec (mem_typesOf_output hplaceholder)

/-- Parameters are texts, and bodies are of the types that the operation mentions. -/
theorem origin_of_operation (hspec : spec ∈ specs) (h : (operation bearer spec).Holds s) :
    Origin d specs s := by
  cases h with
  | parameter hp h =>
    have htext : s = .string := by
      rcases List.mem_append.mp hp with hp | hp
      · obtain ⟨_, -, rfl⟩ := List.mem_map.mp hp
        exact (Option.some.inj h).symm
      · obtain ⟨_, -, rfl⟩ := List.mem_map.mp hp
        exact (Option.some.inj h).symm
    rw [htext]
    exact .text
  | request hbody hmedia h =>
    obtain ⟨hplaceholder, hbody⟩ := Option.ite_none_left_eq_some.mp hbody
    obtain rfl := Option.some.inj hbody
    rw [eq_of_mem_content hmedia h]
    exact .type hspec (mem_typesOf_input (Bool.not_eq_true _ ▸ hplaceholder))
  | response hanswer hmedia h =>
    -- The answers are that of success and one for each group of errors.
    rcases Assoc.mem_of_mem_setAll hanswer with hanswer | hanswer
    · obtain ⟨-, rfl⟩ := Prod.mk.inj (List.mem_singleton.mp hanswer)
      exact origin_of_successResponse hspec hmedia h
    · obtain ⟨⟨_, group⟩, hgroup, heq⟩ := List.mem_map.mp hanswer
      obtain ⟨-, rfl⟩ := Prod.mk.inj heq
      rw [eq_of_mem_content hmedia h]
      exact .group hspec hgroup

/-! ### What schemas refer to -/

/-- The shared error refers to nothing. -/
theorem refersTo_errorSchema {N : String → Prop} : errorSchema.RefersTo N := by
  have hobject : Schema.object.RefersTo N := Schema.refersTo_of_leaf rfl rfl
  have htext : Schema.string.RefersTo N := Schema.refersTo_of_leaf rfl rfl
  have hdetails : Schema.anyObject.RefersTo N := Schema.refersTo_of_leaf rfl rfl
  exact ((((hobject.withProperty htext).withProperty htext).withProperty hdetails).withRequired
    "code").withRequired "message"

/-- The schema of a type that an operation mentions. -/
theorem refersTo_of_mem_typesOf (hspec : spec ∈ specs) {t : FieldType} (ht : t ∈ typesOf spec) :
    (Schema.ofFieldType t).RefersTo (· ∈ (schemas d specs).names) :=
  Schema.refersTo_ofFieldType fun _ hname =>
    mem_names_of_reaches (reaches_of_mentions hspec ht hname)

/-- A group of errors refers to the shared error and to its details. -/
theorem refersTo_groupSchema (hspec : spec ∈ specs) {status : Nat} {group : List Definition}
    (hgroup : (status, group) ∈ errorGroups spec) :
    (groupSchema group).RefersTo (· ∈ (schemas d specs).names) := by
  have herror : (Schema.component errorComponent).RefersTo (· ∈ (schemas d specs).names) :=
    Schema.refersTo_component (mem_names_schemas_iff.mpr (Or.inl rfl))
  unfold groupSchema
  split
  · next name hname =>
    have hdetails : (Schema.component (bareName name)).RefersTo (· ∈ (schemas d specs).names) :=
      refersTo_of_mem_typesOf hspec (mem_typesOf_details hgroup hname)
    have hobject : Schema.object.RefersTo (· ∈ (schemas d specs).names) :=
      Schema.refersTo_of_leaf rfl rfl
    refine Schema.refersTo_of_parts rfl fun p hp => ?_
    -- The parts are the two that are combined: the error and what is known of its details.
    rcases List.mem_pair.mp hp with rfl | rfl
    · exact herror
    · exact hobject.withProperty hdetails
  · exact herror

/-- **Whatever a schema comes from, it refers to components.** -/
theorem refersTo_of_origin (h : Origin d specs s) :
    s.RefersTo (· ∈ (schemas d specs).names) := by
  cases h with
  | text => exact Schema.refersTo_of_leaf rfl rfl
  | type hspec ht => exact refersTo_of_mem_typesOf hspec ht
  | group hspec hgroup => exact refersTo_groupSchema hspec hgroup
  | error => exact refersTo_errorSchema
  | component hname =>
    -- What the type leads to is one step further on the way that reached it.
    exact ((described d).refersTo_component _).imp fun other hother =>
      mem_names_of_reaches (hname.tail hother)

theorem refersTo_of_mem_schemas (h : (name, s) ∈ schemas d specs) :
    s.RefersTo (· ∈ (schemas d specs).names) :=
  refersTo_of_origin (origin_of_mem_schemas h)

theorem refersTo_of_holds (hspec : spec ∈ specs) (h : (operation bearer spec).Holds s) :
    s.RefersTo (· ∈ (schemas d specs).names) :=
  refersTo_of_origin (origin_of_operation hspec h)

/-! ### Documents -/

variable {outline : Outline} {doc : Document}

/-- Whatever stands in a document has one of these origins. -/
theorem origin_of_holds (h : build outline d specs = .ok doc) (hs : doc.Holds s) :
    Origin d specs s := by
  obtain ⟨-, ⟨c, hc, hschemas⟩, -⟩ := contents_of_build h
  cases hs with
  | operation hop hs =>
    obtain ⟨spec, hspec, -, -, rfl⟩ := exists_spec_of_mem_operations h hop
    exact origin_of_operation hspec hs
  | component hc' hs =>
    obtain rfl := Option.some.inj (hc.symm.trans hc')
    exact origin_of_mem_schemas (hschemas ▸ hs)

/-- **Every reference leads to a component.** Wherever a reference stands in a document, at any
depth of the schemas of its operations and of its components, it is the path of components followed
by the name of one that the document has. -/
theorem references_resolve (h : build outline d specs = .ok doc) :
    ∃ c, doc.components = some c ∧ ∀ s, doc.Holds s → ∀ n : Schema, n.Occurs s →
      ∀ r, n.reference = some r → ∃ name ∈ c.schemas.names, r = Schema.componentPath ++ name := by
  obtain ⟨-, ⟨c, hc, hschemas⟩, -⟩ := contents_of_build h
  refine ⟨c, hc, fun s hs => ?_⟩
  rw [hschemas]
  show s.RefersTo _
  cases hs with
  | operation hop hs =>
    obtain ⟨spec, hspec, -, -, rfl⟩ := exists_spec_of_mem_operations h hop
    exact refersTo_of_holds hspec hs
  | component hc' hs =>
    obtain rfl := Option.some.inj (hc.symm.trans hc')
    exact refersTo_of_mem_schemas (hschemas ▸ hs)

/-- A type that refers to itself. -/
theorem references_resolve_cycle :
    ∃ doc, build { info := ⟨"Trees", "1", none⟩ }
        ⟨[("Tree", [{ name := "branches", type := .array (.named "app::Tree") }])]⟩
        [.build "plant" "POST" "/trees" [.types ⟨"app::Tree", false⟩ ⟨"Vec<app::Tree>", false⟩]]
          = .ok doc
      ∧ ∃ c, doc.components = some c ∧ ∀ s, doc.Holds s → ∀ n : Schema, n.Occurs s →
        ∀ r, n.reference = some r → ∃ name ∈ c.schemas.names, r = Schema.componentPath ++ name :=
  Exists.imp (fun _ h => ⟨h, references_resolve h⟩) ⟨_, rfl⟩

end Document

end Callpoint
