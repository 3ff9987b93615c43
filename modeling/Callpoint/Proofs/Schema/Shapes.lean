import Callpoint.Proofs.Schema.Nodes
import Callpoint.Proofs.Schema.Tokens

/-!
# Shapes of schemas

A schema has one of five shapes, and its facets have a meaning for what it describes
(`Schema.Shapely`).  The two are decided apart: the schema of a field by its type, and its facets by
its rules, which look at the type a second time.  Both looks see the same
(`Shape.schemaType?_ofType`), so rules put no bounds on texts and no lengths on numbers, whatever
they say (`Facets.fits_ofRules`), and every schema that is made of fields is shapely in all its
parts (`Schema.ShapelyObject.ofFields`).
-/

namespace Callpoint

open Callpoint.Number

variable {t : Option SchemaType}

/-! ### Facets -/

/-- **Facets have a meaning for a type of values:** bounds for numbers, lengths for texts, and
counts of items for arrays. -/
structure Facets.Fits (f : Facets) (t : Option SchemaType) : Prop where
  bounds : (t = some .integer ∨ t = some .number) ∨
    (f.minimum = none ∧ f.maximum = none ∧
      f.exclusiveMinimum = false ∧ f.exclusiveMaximum = false)
  lengths : t = some .string ∨ (f.minLength = none ∧ f.maxLength = none)
  counts : t = some .array ∨
    (f.minItems = none ∧ f.maxItems = none ∧ f.uniqueItems = false)

/-- **A rule has a meaning for a type of values.** -/
def Rule.Suits (t : Option SchemaType) : Rule → Prop
  | .minimum _ _ | .maximum _ _ => t = some .integer ∨ t = some .number
  | .minLength _ | .maxLength _ | .length _ => t = some .string
  | .itemCount _ | .uniqueItems => t = some .array
  | .format _ | .oneOf _ => True

namespace Facets

variable {f lower upper : Facets}

theorem fits_empty (t : Option SchemaType) : Fits {} t :=
  ⟨.inr ⟨rfl, rfl, rfl, rfl⟩, .inr ⟨rfl, rfl⟩, .inr ⟨rfl, rfl, rfl⟩⟩

/-- What has a meaning for values of which nothing is known has it for all. -/
theorem Fits.of_none (h : f.Fits none) (t : Option SchemaType) : f.Fits t where
  bounds := .inr (h.bounds.resolve_left fun ht => ht.elim nofun nofun)
  lengths := .inr (h.lengths.resolve_left nofun)
  counts := .inr (h.counts.resolve_left nofun)

/-- Facets that are laid over others have a meaning where both have. -/
theorem Fits.overlay (hlower : lower.Fits t) (hupper : upper.Fits t) :
    (lower.overlay upper).Fits t where
  bounds := by
    rcases hlower.bounds with ht | hnone
    · exact .inl ht
    · refine hupper.bounds.imp_right fun hnone' => ?_
      simp [Facets.overlay, hnone, hnone']
  lengths := by
    rcases hlower.lengths with ht | hnone
    · exact .inl ht
    · refine hupper.lengths.imp_right fun hnone' => ?_
      simp [Facets.overlay, hnone, hnone']
  counts := by
    rcases hlower.counts with ht | hnone
    · exact .inl ht
    · refine hupper.counts.imp_right fun hnone' => ?_
      simp [Facets.overlay, hnone, hnone']

/-- A rule that has a meaning adds a facet that has one. -/
theorem Fits.addTo (h : f.Fits t) {rule : Rule} (hrule : rule.Suits t) : (rule.addTo f).Fits t := by
  obtain ⟨hbounds, hlengths, hcounts⟩ := h
  cases rule with
  | minimum | maximum => exact ⟨.inl hrule, hlengths, hcounts⟩
  | minLength | maxLength | length => exact ⟨hbounds, .inl hrule, hcounts⟩
  | itemCount | uniqueItems => exact ⟨hbounds, hlengths, .inl hrule⟩
  | format | oneOf => exact ⟨hbounds, hlengths, hcounts⟩

end Facets

/-! ### Rules -/

/-- The type of the values of a shape, as far as rules go by it. -/
def Shape.schemaType? : Shape → Option SchemaType
  | .integer => some .integer
  | .number => some .number
  | .string => some .string
  | .boolean => some .boolean
  | .array => some .array
  | .other => none

/-- **Rules and schemas see the same type,** unless rules do not look at it. -/
theorem Shape.schemaType?_ofType (type : FieldType) :
    (Shape.ofType type).schemaType? = none ∨
      (Shape.ofType type).schemaType? = (Schema.ofFieldType type).type := by
  induction type with
  | pointer inner ih => exact ih
  | string | integer | number | boolean | array => exact .inr rfl
  | dateTime | map | named => exact .inl rfl

/-- Numbers are integers or not. -/
theorem Shape.schemaType?_of_isNumeric {shape : Shape} (h : shape.isNumeric = true) :
    shape.schemaType? = some .integer ∨ shape.schemaType? = some .number := by
  cases shape with
  | integer => exact .inl rfl
  | number => exact .inr rfl
  | string | boolean | array | other => cases h

/-- What a token says has a meaning for the type of the values. -/
theorem Rule.Says.suits {shape : Shape} {token : Rule.Token} {rule : Rule}
    (h : Rule.Says shape token rule) : rule.Suits shape.schemaType? := by
  cases h with
  | bound side hnumeric => cases side <;> exact Shape.schemaType?_of_isNumeric hnumeric
  | minLength htext | maxLength htext | length htext => exact htext ▸ rfl
  | itemCount harray | uniqueItems harray => exact harray ▸ rfl
  | format | oneOf => trivial

/-- **Rules put facets only where they have a meaning,** whatever they say. -/
theorem Facets.fits_ofRules (rules : String) (type : FieldType) :
    (Facets.ofRules rules type).Fits (Schema.ofFieldType type).type := by
  have hfits : (Facets.ofRules rules type).Fits (Shape.ofType type).schemaType? := by
    refine List.foldlRecOn (motive := fun f => Fits f _) _ Rule.addTo (fits_empty _)
      fun f hf rule hrule => ?_
    obtain ⟨token, -, hsays⟩ := Rule.says_of_mem_ofText hrule
    exact hf.addTo hsays.suits
  rcases Shape.schemaType?_ofType type with hnone | hsame
  · exact (hnone ▸ hfits).of_none _
  · exact hsame ▸ hfits

namespace Schema

variable {s q : Schema} {k : SchemaKind}

/-! ### Shapes -/

/-- **A schema has a shape.** Each is told by what it has and what it does not have; a combination
has nothing but the schemas that it combines. -/
inductive HasShape (s : Schema) : SchemaKind → Prop
  | reference (hreference : s.reference ≠ none) (htype : s.type = none) (hitems : s.items = none)
      (hproperties : s.properties = []) (hallOf : s.allOf = []) : HasShape s .reference
  | array (hreference : s.reference = none) (htype : s.type = some .array) (hitems : s.items ≠ none)
      (hproperties : s.properties = []) (hallOf : s.allOf = []) : HasShape s .array
  | object (hreference : s.reference = none) (htype : s.type = some .object)
      (hitems : s.items = none) (hallOf : s.allOf = []) : HasShape s .object
  | primitive (hreference : s.reference = none)
      (htype : s.type ∈ [some .string, some .number, some .integer, some .boolean])
      (hitems : s.items = none) (hproperties : s.properties = []) (hallOf : s.allOf = []) :
      HasShape s .primitive
  | other (hbare : s = { allOf := s.allOf }) (hallOf : s.allOf ≠ []) : HasShape s .other

/-- No schema has two shapes. -/
theorem HasShape.kind_eq (h : s.HasShape k) : s.kind = k := by
  unfold kind
  cases h with
  | reference hreference =>
    obtain ⟨r, hr⟩ := Option.ne_none_iff_exists'.mp hreference
    rw [hr]
  | array hreference htype => rw [hreference, htype]
  | object hreference htype => rw [hreference, htype]
  | primitive hreference htype =>
    rw [hreference]
    simp only [List.mem_cons, List.not_mem_nil, or_false] at htype
    rcases htype with htype | htype | htype | htype <;> rw [htype]
  | other hbare => rw [hbare]

/-- **A schema is shapely:** it has one of the shapes and facets that have a meaning for its type. -/
structure Shapely (s : Schema) : Prop where
  shape : s.HasShape s.kind
  facets : s.facets.Fits s.type

theorem HasShape.shapely (h : s.HasShape k) (hfacets : s.facets.Fits s.type) : s.Shapely :=
  ⟨h.kind_eq.symm ▸ h, hfacets⟩

/-- A shapely schema has the shape of its kind and no other. -/
theorem Shapely.hasShape_iff (h : s.Shapely) (k : SchemaKind) : s.HasShape k ↔ k = s.kind :=
  ⟨fun hk => hk.kind_eq.symm, fun hk => hk ▸ h.shape⟩

/-- A shape does not depend on facets and documentation, unless schemas are combined. -/
theorem HasShape.of_dressed (h : s.HasShape k) (hk : k ≠ .other) (facets : Facets)
    (description : Option String) (sample : Option Json) :
    HasShape { s with facets := facets, description := description, sample := sample } k := by
  -- Shapes look at the other parts only, but a combination must be bare.
  cases h with
  | reference h₁ h₂ h₃ h₄ h₅ => exact .reference h₁ h₂ h₃ h₄ h₅
  | array h₁ h₂ h₃ h₄ h₅ => exact .array h₁ h₂ h₃ h₄ h₅
  | object h₁ h₂ h₃ h₄ => exact .object h₁ h₂ h₃ h₄
  | primitive h₁ h₂ h₃ h₄ h₅ => exact .primitive h₁ h₂ h₃ h₄ h₅
  | other => exact absurd rfl hk

/-! ### Schemas of types -/

theorem everywhere_shapely_of_leaf (h : s.HasShape k) (hfacets : s.facets.Fits s.type)
    (hparts : s.parts = []) : s.Everywhere Shapely :=
  everywhere_of_parts_eq_nil (h.shapely hfacets) hparts

theorem everywhere_shapely_component (name : String) : (component name).Everywhere Shapely :=
  everywhere_shapely_of_leaf (.reference nofun rfl rfl rfl rfl) (Facets.fits_empty _) rfl

/-- A type alone is shapely, but for an array, which needs items. -/
theorem everywhere_shapely_ofType {type : SchemaType} (h : type ≠ .array) :
    (ofType type).Everywhere Shapely := by
  cases type with
  | string | number | integer | boolean =>
    exact everywhere_shapely_of_leaf (.primitive rfl (by decide) rfl rfl rfl) (Facets.fits_empty _)
      rfl
  | object => exact everywhere_shapely_of_leaf (.object rfl rfl rfl rfl) (Facets.fits_empty _) rfl
  | array => exact absurd rfl h

theorem everywhere_shapely_anyObject : anyObject.Everywhere Shapely :=
  everywhere_shapely_of_leaf (.object rfl rfl rfl rfl) (Facets.fits_empty _) rfl

/-- A time is a text with a format. -/
theorem everywhere_shapely_dateTime : dateTime.Everywhere Shapely := by
  have hformat : Rule.Suits (some .string) (.format "date-time") := trivial
  exact everywhere_shapely_of_leaf (.primitive rfl (by decide) rfl rfl rfl)
    ((Facets.fits_empty _).addTo hformat) rfl

/-- The schema of a field type is shapely, along the type. -/
theorem everywhere_shapely_ofFieldType (type : FieldType) :
    (ofFieldType type).Everywhere Shapely := by
  induction type with
  | pointer inner ih => exact ih
  | array element ih =>
    exact ih.array (HasShape.shapely (.array rfl rfl nofun rfl rfl) (Facets.fits_empty _))
  | string | integer | number | boolean => exact everywhere_shapely_ofType nofun
  | dateTime => exact everywhere_shapely_dateTime
  | map => exact everywhere_shapely_anyObject
  | named name => exact everywhere_shapely_component _

/-- Types are not combined. -/
theorem kind_ofFieldType_ne_other (type : FieldType) : (ofFieldType type).kind ≠ .other := by
  induction type with
  | pointer inner ih => exact ih
  | string | integer | number | boolean | dateTime | array | map | named => exact nofun

/-! ### Schemas of fields -/

/-- **The schema of a field is shapely,** whatever its rules say. -/
theorem everywhere_shapely_schema (f : Field) : f.schema.Everywhere Shapely := by
  obtain ⟨hself, hparts⟩ := everywhere_iff.mp (everywhere_shapely_ofFieldType f.type)
  obtain ⟨facets, description, sample, hdress, hfacets⟩ := dress_cases f (ofFieldType f.type)
  -- The facets are those of the type, or those of the rules laid over them.
  have hfits : facets.Fits (ofFieldType f.type).type := by
    rcases hfacets with rfl | ⟨rules, rfl⟩
    · exact hself.facets
    · exact hself.facets.overlay (Facets.fits_ofRules rules f.type)
  have hshape := hself.shape.of_dressed (kind_ofFieldType_ne_other f.type) facets description sample
  unfold Field.schema
  rw [hdress]
  exact everywhere_iff.mpr ⟨hshape.shapely hfits, hparts⟩

/-- **An object that is shapely in all its parts.** -/
structure ShapelyObject (s : Schema) : Prop where
  shape : s.HasShape .object
  everywhere : s.Everywhere Shapely

namespace ShapelyObject

theorem object : ShapelyObject object :=
  ⟨.object rfl rfl rfl rfl, everywhere_shapely_ofType nofun⟩

/-- A required name does not change what an object is. -/
theorem withRequired (h : s.ShapelyObject) (name : String) :
    (s.withRequired name).ShapelyObject := by
  obtain ⟨hself, hparts⟩ := everywhere_iff.mp h.everywhere
  have hshape : (s.withRequired name).HasShape .object := by
    cases h.shape with
    | object hreference htype hitems hallOf => exact .object hreference htype hitems hallOf
  exact ⟨hshape, everywhere_iff.mpr ⟨hshape.shapely hself.facets, hparts⟩⟩

theorem withProperty (h : s.ShapelyObject) (name : String) (hq : q.Everywhere Shapely) :
    (s.withProperty name q).ShapelyObject := by
  have hself := (everywhere_iff.mp h.everywhere).1
  have hshape : (s.withProperty name q).HasShape .object := by
    cases h.shape with
    | object hreference htype hitems hallOf => exact .object hreference htype hitems hallOf
  exact ⟨hshape, h.everywhere.withProperty (hshape.shapely hself.facets) hq⟩

theorem addProperty (h : s.ShapelyObject) (wire : String) (required : Bool)
    (hq : q.Everywhere Shapely) : (s.addProperty wire required q).ShapelyObject := by
  cases required with
  | true => exact (h.withRequired wire).withProperty wire hq
  | false => exact h.withProperty wire hq

/-- The object of any fields is shapely, field by field. -/
theorem ofFields (fields : List Field) : (ofFields fields).ShapelyObject := by
  refine List.foldlRecOn fields addField object fun o ho f _ => ?_
  unfold addField
  split
  · exact ho
  · exact ho.addProperty _ _ (everywhere_shapely_schema f)

end ShapelyObject

end Schema

end Callpoint
