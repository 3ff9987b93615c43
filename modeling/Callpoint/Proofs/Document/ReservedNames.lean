import Callpoint.Proofs.Document.References
import Callpoint.Proofs.Schema.Objects

/-!
# Reserved names

A document gives a meaning of its own to some names: the error component, the details of a failed
validation with its violations, and the type that stands for no body.  They are looked up among the
bare names of all types, so a type that bears one of them takes the place of what it is reserved
for, or loses its own.

`KeepsApart` is what readers of a document rely on.  `keepsApart_iff` says what that takes of the
described types: one that is used under the name of the error component has to look like an error,
those that stand in for the details have to look like them, and one that is used under the name of
the type without a body must have nothing to send.
-/

namespace Callpoint

/-! ### What schemas describe -/

namespace Schema

variable {s : Schema} {name : String}

/-- An object that has a property of a type. -/
def HasProperty (s : Schema) (name : String) (t : SchemaType) : Prop :=
  ∃ p, Assoc.get? s.properties name = some p ∧ p.type = some t

/-- **A schema describes errors as they are sent:** with a code and a message, which alone are never
missing, and details of any kind. -/
structure DescribesErrors (s : Schema) : Prop where
  type : s.type = some .object
  code : s.HasProperty "code" .string
  message : s.HasProperty "message" .string
  required : ∀ key, key ∈ s.required ↔ key = "code" ∨ key = "message"
  details : ∃ p, Assoc.get? s.properties "details" = some p ∧
    p.type = some .object ∧ p.extra = some (.allowed true)

/-- **A schema describes the violations that a service sends:** a list of objects with a field, a
rule and a value.  `component?` is where the component of the violations is looked up. -/
def DescribesViolations (component? : String → Option Schema) (s : Schema) : Prop :=
  s.type = some .object ∧
  ∃ list item name violation,
    Assoc.get? s.properties "violations" = some list ∧
    list.type = some .array ∧ list.items = some item ∧
    item.reference = some (componentPath ++ name) ∧ component? name = some violation ∧
    violation.type = some .object ∧
    ∀ key ∈ ["field", "rule", "value"], violation.HasProperty key .string

theorem componentPath_append_inj {other : String} :
    componentPath ++ name = componentPath ++ other ↔ name = other :=
  String.append_right_inj _

/-- Only what the schema refers to is looked up. -/
theorem DescribesViolations.congr {N : String → Prop}
    {component₁? component₂? : String → Option Schema} (hs : s.RefersTo N)
    (hsame : ∀ name, N name → component₁? name = component₂? name)
    (h : s.DescribesViolations component₁?) : s.DescribesViolations component₂? := by
  obtain ⟨htype, list, item, name, violation, hlist, harray, hitem, href, hviolation, hrest⟩ := h
  refine ⟨htype, list, item, name, violation, hlist, harray, hitem, href, ?_, hrest⟩
  -- The items stand two steps inside the schema.
  have hproperty : list ∈ s.properties.map Prod.snd :=
    List.mem_map_of_mem (Assoc.mem_of_get? hlist)
  have hlist' : list ∈ s.parts := by simp [parts, hproperty]
  have hitem' : item ∈ list.parts := by simp [parts, hitem]
  obtain ⟨other, hother, heq⟩ := hs item (.part hlist' (.part hitem' .here)) _ href
  obtain rfl := componentPath_append_inj.mp heq
  rw [← hsame name hother]
  exact hviolation

end Schema

/-! ### Names that are kept apart -/

/-- **Where the details of the errors under a status are described:** the component that the
response refers to for them. -/
def Operation.DetailsAt (op : Operation) (status : Nat) (name : String) : Prop :=
  ∃ answer mediaType media s part p,
    Assoc.get? op.responses (toString status) = some answer ∧
    (mediaType, media) ∈ answer.content ∧ media.schema = some s ∧ part ∈ s.allOf ∧
    Assoc.get? part.properties "details" = some p ∧
    p.reference = some (Schema.componentPath ++ name)

/-- **One type uses another:** a field that is sent mentions it.  No name is an exception. -/
def Descriptions.Uses (d : Descriptions) (name other : String) : Prop :=
  ∃ fields, d.fields? name = some fields ∧ ∃ f ∈ fields, ¬ f.Dropped ∧ f.type.Mentions other

namespace Document

variable {d : Descriptions} {spec : Spec} {specs : List Spec} {name other : String}

/-- The component of a name. -/
def schema? (doc : Document) (name : String) : Option Schema :=
  doc.components.bind fun c => Assoc.get? c.schemas name

/-- **A type that the operations use:** they mention it, or a type that uses it, directly or through
others. -/
def Uses (d : Descriptions) (specs : List Spec) (name : String) : Prop :=
  ∃ start, Mentioned specs start ∧ Relation.ReflTransGen (described d).Uses start name

/-- **A failed validation is documented** as the one that every service sends. -/
def DocumentsViolations (spec : Spec) : Prop :=
  ∃ e ∈ documentedErrors spec, e.is Errors.validationError = true ∧
    e.status = Errors.validationError.status ∧ e.detailsType = Errors.validationError.detailsType

/-- **What readers of a document rely on,** whatever the types are called: the error component
describes errors, what a failed validation refers to describes violations, and each described type
that is used has a component of its own fields. -/
structure KeepsApart (d : Descriptions) (specs : List Spec) (doc : Document) : Prop where
  errors : ∃ s, doc.schema? errorComponent = some s ∧ s.DescribesErrors
  violations : ∀ spec ∈ specs, DocumentsViolations spec →
    ∀ op, doc.operation? spec.method spec.path = some op →
    ∀ name, op.DetailsAt Errors.validationError.status name →
      ∃ s, doc.schema? name = some s ∧ s.DescribesViolations doc.schema?
  types : ∀ name fields, Uses d specs name → d.fields? name = some fields →
    doc.schema? name = some (.ofFields fields)

/-! ### What that takes -/

/-- **A type that is used under the name of the error component looks like an error.** -/
def LooksLikeError (d : Descriptions) (specs : List Spec) : Prop :=
  Uses d specs errorComponent →
    (Schema.ofFields ((d.fields? errorComponent).getD [])).DescribesErrors

/-- A failed validation is documented with its details. -/
def RefersToDetails (bearer : Option String) (specs : List Spec) : Prop :=
  ∃ spec ∈ specs, DocumentsViolations spec ∧
    ∃ name, (operation bearer spec).DetailsAt Errors.validationError.status name

/-- **The details of a failed validation look like what is sent,** by what is described under their
names. -/
def DetailsDescribed (d : Descriptions) : Prop :=
  ((described d).component Errors.validationDetailsName).DescribesViolations
    fun name => some ((described d).component name)

/-- **A type that is used under the name of the type without a body has nothing to send.** -/
def SendsNothing (d : Descriptions) (specs : List Spec) : Prop :=
  Uses d specs TypeRef.noBody.name →
    ∀ fields, d.fields? TypeRef.noBody.name = some fields → ∀ f ∈ fields, f.Dropped

/-! ### Details -/

theorem mem_squeeze {a : String} {names : List String} : a ∈ squeeze names ↔ a ∈ names := by
  fun_induction squeeze names with
  | case1 b rest ih => simp [ih]
  | case2 a' b rest hne ih => simp [ih]
  | case3 => exact Iff.rfl

/-- The type of the details of a group is that of each error in it that has details. -/
theorem eq_of_detailsName? {group : List Definition} (h : detailsName? group = some name)
    {e : Definition} (he : e ∈ group) (hother : e.detailsName = some other) : other = name := by
  have hmem : other ∈ squeeze (group.filterMap Definition.detailsName) :=
    mem_squeeze.mpr (List.mem_filterMap.mpr ⟨e, he, hother⟩)
  unfold detailsName? at h
  split at h
  · next only heq =>
    obtain rfl := Option.some.inj h
    rw [heq] at hmem
    exact List.mem_singleton.mp hmem
  · cases h

/-- Details are described where their one type is. -/
theorem detailsName?_of_reference {group : List Definition} {part p : Schema}
    (hpart : part ∈ (groupSchema group).allOf) (hp : Assoc.get? part.properties "details" = some p)
    (href : p.reference = some (Schema.componentPath ++ name)) :
    ∃ only, detailsName? group = some only ∧ name = bareName only := by
  unfold groupSchema at hpart
  split at hpart
  · next only honly =>
    refine ⟨only, honly, ?_⟩
    rcases List.mem_pair.mp hpart with rfl | rfl
    · cases hp
    · obtain rfl := Option.some.inj hp
      exact (Schema.componentPath_append_inj.mp (Option.some.inj href)).symm
  · exact absurd hpart List.not_mem_nil

theorem bareName_validationDetailsName :
    bareName Errors.validationDetailsName = Errors.validationDetailsName := by
  decide

/-- **Where the details of a failed validation are described,** if the response refers to them. -/
theorem details_of_documentsViolations {bearer : Option String} (h : DocumentsViolations spec)
    (hdetails : (operation bearer spec).DetailsAt Errors.validationError.status name) :
    name = Errors.validationDetailsName ∧ .named Errors.validationDetailsName ∈ typesOf spec := by
  obtain ⟨e, he, -, hstatus, htype⟩ := h
  obtain ⟨answer, mediaType, media, s, part, p, hanswer, hmedia, hs, hpart, hp, href⟩ := hdetails
  rcases get?_responses spec Errors.validationError.status with
    ⟨hnone, -⟩ | ⟨-, group, hgroup, hget⟩
  · exact absurd ⟨e, he, hstatus⟩ hnone
  -- The response under the status is that of its group, and the error is one of them.
  obtain rfl := Option.some.inj (hanswer.symm.trans hget)
  rw [eq_of_mem_content hmedia hs] at hpart
  obtain ⟨only, honly, rfl⟩ := detailsName?_of_reference hpart hp href
  have hmem : e ∈ group := by
    rw [eq_filter_of_mem_errorGroups hgroup]
    exact List.mem_filter.mpr ⟨he, beq_iff_eq.mpr hstatus⟩
  have hname : e.detailsName = some Errors.validationDetailsName := by
    rw [Definition.detailsName, htype]
    exact congrArg some bareName_validationDetailsName
  obtain rfl := eq_of_detailsName? honly hmem hname
  exact ⟨bareName_validationDetailsName, mem_typesOf_details hgroup honly⟩

/-! ### Used types -/

theorem uses_of_reaches (h : Reaches d specs name) : Uses d specs name := by
  obtain ⟨start, hstart, hreach⟩ := h
  exact ⟨start, hstart, hreach.lift id fun _ _ hleads => hleads.2⟩

/-- Nothing is described beforehand of the type without a body. -/
theorem fields?_described_noBody :
    (described d).fields? TypeRef.noBody.name = d.fields? TypeRef.noBody.name := by
  have hbuiltin : detailTypes.fields? TypeRef.noBody.name = none := by decide
  rw [described, Descriptions.fields?_orElse, hbuiltin]
  cases d.fields? TypeRef.noBody.name <;> rfl

/-- All types that are used are reached, unless the way to them goes through the type without a
body. -/
theorem reaches_of_uses (hnothing : SendsNothing d specs) (h : Uses d specs name) :
    Reaches d specs name := by
  obtain ⟨start, hstart, hreach⟩ := h
  refine ⟨start, hstart, ?_⟩
  induction hreach with
  | refl => exact .refl
  | tail hway hlast ih =>
    -- A type that uses another one has something to send.
    refine ih.tail ⟨?_, hlast⟩
    rintro rfl
    obtain ⟨fields, hfields, f, hf, hsent, -⟩ := hlast
    rw [fields?_described_noBody] at hfields
    exact hsent (hnothing ⟨start, hstart, hway⟩ fields hfields f hf)

/-! ### Documents -/

variable {outline : Outline} {doc : Document}

/-- The components of a document are those that its types are collected to. -/
theorem schema?_of_build (h : build outline d specs = .ok doc) :
    doc.schema? = Assoc.get? (schemas d specs) := by
  obtain ⟨-, ⟨c, hc, hschemas⟩, -⟩ := contents_of_build h
  funext name
  rw [schema?, hc, Option.bind_some, hschemas]

/-- In a document that has the details, their description is what it is by itself. -/
theorem describesViolations_iff (h : build outline d specs = .ok doc)
    (hreaches : Reaches d specs Errors.validationDetailsName) :
    ((described d).component Errors.validationDetailsName).DescribesViolations doc.schema? ↔
      DetailsDescribed d := by
  have hsame : ∀ name, (described d).LeadsTo Errors.validationDetailsName name →
      doc.schema? name = some ((described d).component name) := by
    intro name hname
    rw [schema?_of_build h]
    exact get?_schemas_of_reaches (hreaches.tail hname)
  have hrefers := (described d).refersTo_component Errors.validationDetailsName
  exact ⟨Schema.DescribesViolations.congr hrefers hsame,
    Schema.DescribesViolations.congr hrefers fun name hname => (hsame name hname).symm⟩

/-- A type's own description comes before the one that is there beforehand. -/
theorem component_described (hname : name ≠ TypeRef.noBody.name) :
    (described d).component name
      = .ofFields ((d.fields? name <|> detailTypes.fields? name).getD []) := by
  rw [Descriptions.component, Descriptions.documentedFields, if_neg hname, described,
    Descriptions.fields?_orElse]

/-- Nothing is described beforehand of the error component. -/
theorem component_errorComponent :
    (described d).component errorComponent = .ofFields ((d.fields? errorComponent).getD []) := by
  rw [component_described (by decide)]
  cases d.fields? errorComponent <;> rfl

/-- A described type has a component of its own fields, unless it is taken for the type without a
body and has some to send. -/
theorem component_of_fields? {fields : List Field} (hfields : d.fields? name = some fields)
    (hnothing : name = TypeRef.noBody.name → ∀ f ∈ fields, f.Dropped) :
    (described d).component name = .ofFields fields := by
  by_cases hname : name = TypeRef.noBody.name
  · rw [Descriptions.component, Descriptions.documentedFields, if_pos hname,
      Schema.ofFields_eq_object_iff.mpr (hnothing hname)]
    rfl
  · rw [component_described hname, hfields]
    rfl

/-- Where nothing else is said of them, the details are described as a service itself sends them. -/
theorem detailsDescribed_of_none (hdetails : d.fields? Errors.validationDetailsName = none)
    (hviolation : d.fields? "ValidationViolation" = none) : DetailsDescribed d := by
  unfold DetailsDescribed
  rw [component_described (by decide), hdetails]
  refine ⟨rfl, _, _, "ValidationViolation", _, rfl, rfl, rfl, rfl, rfl, ?_⟩
  rw [component_described (by decide), hviolation]
  refine ⟨rfl, fun key hkey => ?_⟩
  simp only [List.mem_cons, List.not_mem_nil, or_false] at hkey
  rcases hkey with rfl | rfl | rfl <;> exact ⟨_, rfl, rfl⟩

theorem describesErrors_errorSchema : errorSchema.DescribesErrors where
  type := rfl
  code := ⟨_, rfl, rfl⟩
  message := ⟨_, rfl, rfl⟩
  required := fun _ => List.mem_pair
  details := ⟨_, rfl, rfl, rfl⟩

/-- What stands under the name of the error component depends on whether a type of that name is
used. -/
theorem errors_iff (h : build outline d specs = .ok doc) (hnothing : SendsNothing d specs) :
    (∃ s, doc.schema? errorComponent = some s ∧ s.DescribesErrors) ↔ LooksLikeError d specs := by
  rw [schema?_of_build h]
  unfold LooksLikeError
  by_cases huses : Uses d specs errorComponent
  · have hreaches := reaches_of_uses hnothing huses
    rw [get?_schemas_of_reaches hreaches, component_errorComponent]
    simp [huses]
  -- Where it is not used, the shared component stays in its place.
  · rw [get?_schemas_errorComponent fun hreaches => huses (uses_of_reaches hreaches)]
    simp [huses, describesErrors_errorSchema]

/-- Failed validations are described as they are sent exactly if their details are. -/
theorem violations_iff (h : build outline d specs = .ok doc) :
    (∀ spec ∈ specs, DocumentsViolations spec →
      ∀ op, doc.operation? spec.method spec.path = some op →
      ∀ name, op.DetailsAt Errors.validationError.status name →
        ∃ s, doc.schema? name = some s ∧ s.DescribesViolations doc.schema?) ↔
      (RefersToDetails outline.bearer specs → DetailsDescribed d) := by
  -- The details that are referred to are reached, so they have a component.
  have hcomponent : ∀ spec ∈ specs, DocumentsViolations spec → ∀ name,
      (operation outline.bearer spec).DetailsAt Errors.validationError.status name →
      doc.schema? name = some ((described d).component Errors.validationDetailsName) ∧
        Reaches d specs Errors.validationDetailsName := by
    intro spec hspec hdocuments name hdetails
    obtain ⟨rfl, htype⟩ := details_of_documentsViolations hdocuments hdetails
    have hmentions := FieldType.Mentions.named Errors.validationDetailsName
    rw [bareName_validationDetailsName] at hmentions
    have hreaches : Reaches d specs Errors.validationDetailsName :=
      reaches_of_mentions hspec htype hmentions
    rw [schema?_of_build h]
    exact ⟨get?_schemas_of_reaches hreaches, hreaches⟩
  constructor
  · rintro hall ⟨spec, hspec, hdocuments, name, hdetails⟩
    obtain ⟨hschema, hreaches⟩ := hcomponent spec hspec hdocuments name hdetails
    obtain ⟨s, hs, hviolations⟩ :=
      hall spec hspec hdocuments _ (operation?_of_build h hspec) name hdetails
    obtain rfl := Option.some.inj (hschema.symm.trans hs)
    exact (describesViolations_iff h hreaches).mp hviolations
  · intro hdescribed spec hspec hdocuments op hop name hdetails
    obtain rfl := Option.some.inj ((operation?_of_build h hspec).symm.trans hop)
    obtain ⟨hschema, hreaches⟩ := hcomponent spec hspec hdocuments name hdetails
    refine ⟨_, hschema, (describesViolations_iff h hreaches).mpr ?_⟩
    exact hdescribed ⟨spec, hspec, hdocuments, name, hdetails⟩

/-- All types that are used keep their fields exactly if none of them is taken for no body. -/
theorem types_iff (h : build outline d specs = .ok doc) :
    (∀ name fields, Uses d specs name → d.fields? name = some fields →
      doc.schema? name = some (.ofFields fields)) ↔ SendsNothing d specs := by
  rw [schema?_of_build h]
  constructor
  · intro hall huses fields hfields
    -- The component of the type without a body is the empty object.
    have hmem := Assoc.mem_names_of_get? (hall _ fields huses hfields)
    rcases mem_names_schemas_iff.mp hmem with hname | hreaches
    · exact absurd hname (by decide)
    · have hget := hall _ fields huses hfields
      rw [get?_schemas_of_reaches hreaches, Descriptions.component, Descriptions.documentedFields,
        if_pos rfl, Option.some.injEq] at hget
      exact Schema.ofFields_eq_object_iff.mp hget.symm
  · intro hnothing name fields huses hfields
    rw [get?_schemas_of_reaches (reaches_of_uses hnothing huses), component_of_fields? hfields]
    rintro rfl
    exact hnothing huses fields hfields

/-- **When reserved names are kept apart from those of types.** A document does so exactly if the
types that bear a reserved name fit what it is reserved for: one that is used as the error component
looks like an error, the details of a failed validation are described as they are sent wherever they
are referred to, and one that is used under the name of the type without a body has nothing to send.
So it does if no type of the name of the error component is used, and none of the other names is
described. -/
theorem keepsApart_iff (h : build outline d specs = .ok doc) :
    (KeepsApart d specs doc ↔ LooksLikeError d specs ∧
      (RefersToDetails outline.bearer specs → DetailsDescribed d) ∧ SendsNothing d specs) ∧
    (¬ Uses d specs errorComponent →
      (∀ name ∈ [Errors.validationDetailsName, "ValidationViolation", TypeRef.noBody.name],
        d.fields? name = none) → KeepsApart d specs doc) := by
  have hiff : KeepsApart d specs doc ↔ LooksLikeError d specs ∧
      (RefersToDetails outline.bearer specs → DetailsDescribed d) ∧ SendsNothing d specs := by
    -- What is said of errors needs that all used types are reached.
    rw [← violations_iff h, ← types_iff h]
    constructor
    · intro hkeeps
      exact ⟨(errors_iff h ((types_iff h).mp hkeeps.types)).mp hkeeps.errors, hkeeps.violations,
        hkeeps.types⟩
    · rintro ⟨herror, hviolations, htypes⟩
      exact ⟨(errors_iff h ((types_iff h).mp htypes)).mpr herror, hviolations, htypes⟩
  refine ⟨hiff, fun hunused hnone => hiff.mpr ⟨?_, fun _ => ?_, fun _ fields hfields => ?_⟩⟩
  · exact fun huses => absurd huses hunused
  · exact detailsDescribed_of_none (hnone _ (by simp)) (hnone _ (by simp))
  · rw [hnone _ (by simp)] at hfields
    cases hfields

/-- Fields that are sent like those of an error. -/
def errorLike : List Field :=
  [{ name := "Code", type := .string, tags := [("json", "code")] },
    { name := "Message", type := .string, tags := [("json", "message")] },
    { name := "Details", type := .map, tags := [("json", "details,omitempty")] }]

/-- A type that is used under the name of the error component and looks like an error. -/
theorem keepsApart_errorLike :
    ∃ doc, build { info := ⟨"Failures", "1", none⟩ } ⟨[("Error", errorLike)]⟩
        [.build "report" "POST" "/failures" [.types ⟨"app::Error", false⟩ .noBody]] = .ok doc
      ∧ KeepsApart ⟨[("Error", errorLike)]⟩
        [.build "report" "POST" "/failures" [.types ⟨"app::Error", false⟩ .noBody]] doc := by
  refine Exists.imp (fun doc h => ⟨h, (keepsApart_iff h).1.mpr ⟨fun _ => ?_, fun _ => ?_, ?_⟩⟩)
    ⟨_, rfl⟩
  · exact ⟨rfl, ⟨_, rfl, rfl⟩, ⟨_, rfl, rfl⟩, fun _ => List.mem_pair, ⟨_, rfl, rfl, rfl⟩⟩
  · exact detailsDescribed_of_none rfl rfl
  · intro _ fields hfields
    cases hfields

/-- A type that bears the name of the error component, of which nothing is known. -/
theorem errors_taken_for_a_type : ∃ doc, build { info := ⟨"Failures", "1", none⟩ } ⟨[]⟩
      [.build "list" "GET" "/failures" [.types .noBody ⟨"app::Error", false⟩]] = .ok doc
    ∧ ¬ KeepsApart ⟨[]⟩
      [.build "list" "GET" "/failures" [.types .noBody ⟨"app::Error", false⟩]] doc := by
  refine Exists.imp (fun doc h => ⟨h, fun hkeeps => ?_⟩) ⟨_, rfl⟩
  obtain ⟨s, hs, herror⟩ := hkeeps.errors
  have htype : FieldType.ofTypeName "app::Error" = .named "Error" := by
    rw [FieldType.ofTypeName, FieldType.lower]
    rfl
  have hmentions : (FieldType.ofTypeName "app::Error").Mentions errorComponent :=
    htype ▸ FieldType.Mentions.named "Error"
  rw [schema?_of_build h, get?_schemas_of_reaches (reaches_of_mentions (List.mem_singleton_self _)
    (mem_typesOf_output rfl) hmentions), component_errorComponent] at hs
  obtain rfl := Option.some.inj hs
  obtain ⟨p, hp, -⟩ := herror.code
  cases hp

end Document

end Callpoint
