import Callpoint.Schema.Basic
import Callpoint.Schema.Descriptions
import Callpoint.Schema.Rules
import Callpoint.Text.Case

/-!
# Catalogues of components

A field type is turned into a schema in which every named type is a reference.  The schemas that the
references lead to are the components.  A catalogue is asked for schemas and keeps the components of
all names met on the way: a name that is new gets its place before the fields of its type are looked
at, so that a type comes ahead of those it refers to and a cycle of types comes to an end.

Every catalogue that comes out of a call extends the one that went in (`Catalog.Extends`).  The calls
return the two together (`Grown`), which is why they end: each new name of a described type leaves
one less to be met (`Catalog.unmet_put_lt`).
-/

namespace Callpoint

/-! ### Schemas of types and fields -/

/-- **The schema of a field type.** Named types become references. -/
def Schema.ofFieldType : FieldType → Schema
  | .string => .string
  | .integer => .ofType .integer
  | .number => .ofType .number
  | .boolean => .ofType .boolean
  | .dateTime => .dateTime
  | .pointer inner => ofFieldType inner
  | .array element => .array (ofFieldType element)
  | .map => .anyObject
  | .named name => .component (bareName name)

namespace Field

/-- The name of a field on the wire and whether it is required; `none` if the field is not
sent.  The first part of the tag is the name, and the field's own name in lower case stands in for
one that is missing; `omitempty` among the other parts makes the field optional. -/
def wire? (f : Field) : Option (String × Bool) :=
  match f.tag? wireKey with
  | none => some (Text.lowercase f.name, true)
  | some tag =>
    match Text.pieces ',' tag.toList with
    | [] => none
    | name :: options =>
      if name = ['-'] then none
      else
        let required := !options.any fun o => String.ofList (Text.trim o) == "omitempty"
        some (if name.isEmpty then Text.lowercase f.name else String.ofList name, required)

/-- An example as a value of a type: a number or a truth value if it can be read as one, the parts
between commas for an array, the text as it stands otherwise. -/
def exampleValue (type : Option SchemaType) (text : String) : Json :=
  let literal (shape : Shape) : Json :=
    (shape.literal? (Text.trim text.toList)).getD (.string text)
  match type with
  | some .integer => literal .integer
  | some .number => literal .number
  | some .boolean => literal .boolean
  | some .array =>
    .array ((Text.pieces ',' text.toList).map fun p => .string (String.ofList (Text.trim p)))
  | _ => .string text

/-- A schema with the rules, the description and the example of a field laid over it. -/
def dress (f : Field) (s : Schema) : Schema :=
  let s := match f.tag? rulesKey with
    | some rules => s.constrain (Facets.ofRules rules f.type)
    | none => s
  { s with
    description := f.tag? descriptionKey <|> s.description
    sample := (f.tag? exampleKey).map (exampleValue s.type) <|> s.sample }

/-- The schema of a field. -/
def schema (f : Field) : Schema := f.dress (Schema.ofFieldType f.type)

end Field

namespace Schema

/-- An object schema with a property added.  A later property of one name takes the place of an
earlier one, and each required one is listed. -/
def addProperty (o : Schema) (wire : String) (required : Bool) (p : Schema) : Schema :=
  (if required then o.withRequired wire else o).withProperty wire p

/-- An object schema with a field added, unless the field is not sent. -/
def addField (o : Schema) (f : Field) : Schema :=
  match f.wire? with
  | none => o
  | some (wire, required) => o.addProperty wire required f.schema

/-- The schema of an object with fields. -/
def ofFields (fields : List Field) : Schema := fields.foldl addField .object

end Schema

namespace Descriptions

/-- The fields of a type as far as they are documented: none for a type that is not described or
that bears the name of the type without a body. -/
def documentedFields (d : Descriptions) (name : String) : List Field :=
  if name = TypeRef.noBody.name then [] else (d.fields? name).getD []

theorem mem_names_of_documentedFields {d : Descriptions} {name : String}
    (h : d.documentedFields name ≠ []) : name ∈ d.types.names := by
  unfold documentedFields fields? at h
  split at h
  · exact absurd rfl h
  cases hfields : Assoc.get? d.types name with
  | none =>
    rw [hfields] at h
    exact absurd rfl h
  | some fields => exact Assoc.mem_names_of_get? hfields

end Descriptions

/-! ### Catalogues -/

/-- **The components met so far,** in the order in which their names were first met. -/
structure Catalog where
  descriptions : Descriptions
  components : Assoc Schema := []
deriving Inhabited

namespace Catalog

variable {c c₁ c₂ : Catalog} {name : String} {s : Schema}

/-- The names met so far. -/
def names (c : Catalog) : List String := c.components.names

/-- The catalogue with a component set. -/
def put (c : Catalog) (name : String) (s : Schema) : Catalog :=
  { c with components := Assoc.set name s c.components }

@[simp] theorem descriptions_put : (c.put name s).descriptions = c.descriptions := rfl

theorem names_put : (c.put name s).names = if name ∈ c.names then c.names else c.names ++ [name] :=
  Assoc.names_set c.components name s

theorem mem_names_put_self : name ∈ (c.put name s).names := by
  rw [names_put]
  split
  · assumption
  · simp

/-- **One catalogue goes on from another:** it has the same descriptions, and the names that were
met before come first and in their order. -/
structure Extends (c₁ c₂ : Catalog) : Prop where
  descriptions : c₂.descriptions = c₁.descriptions
  names : c₁.names <+: c₂.names

namespace Extends

theorem refl (c : Catalog) : c.Extends c := ⟨rfl, List.prefix_refl _⟩

theorem trans {c₃ : Catalog} (h₁ : c₁.Extends c₂) (h₂ : c₂.Extends c₃) : c₁.Extends c₃ :=
  ⟨h₂.descriptions.trans h₁.descriptions, h₁.names.trans h₂.names⟩

theorem put (c : Catalog) (name : String) (s : Schema) : c.Extends (c.put name s) := by
  refine ⟨rfl, ?_⟩
  rw [names_put]
  split
  · exact List.prefix_refl _
  · exact List.prefix_append _ _

end Extends

/-! ### What is left to be met -/

/-- How many described types have not been met. -/
def unmet (c : Catalog) : Nat := c.descriptions.types.names.countP fun name => name ∉ c.names

theorem Extends.unmet_le (h : c₁.Extends c₂) : c₂.unmet ≤ c₁.unmet := by
  unfold unmet
  rw [h.descriptions]
  refine List.countP_mono_left fun name _ hnew => ?_
  have hnew : name ∉ c₂.names := of_decide_eq_true hnew
  exact decide_eq_true fun hmem => hnew (h.names.subset hmem)

/-- A described type that is met for the first time leaves fewer to be met. -/
theorem unmet_put_lt (hnew : name ∉ c.names) (hknown : name ∈ c.descriptions.types.names) :
    (c.put name s).unmet < c.unmet := by
  unfold unmet
  rw [descriptions_put]
  obtain ⟨before, after, hsplit⟩ := List.append_of_mem hknown
  -- `name` itself is no longer counted, and no name around it is counted that was not.
  have hmono (l : List String) :
      l.countP (fun n => n ∉ (c.put name s).names) ≤ l.countP fun n => n ∉ c.names := by
    refine List.countP_mono_left fun n _ hn => ?_
    have hn : n ∉ (c.put name s).names := of_decide_eq_true hn
    exact decide_eq_true fun hmem => hn ((Extends.put c name s).names.subset hmem)
  have hbefore := hmono before
  have hafter := hmono after
  have hput : name ∈ (c.put name s).names := mem_names_put_self
  rw [hsplit, List.countP_append, List.countP_append, List.countP_cons, List.countP_cons]
  simp only [hput, hnew, not_true_eq_false, not_false_eq_true, decide_true, decide_false,
    Bool.false_eq_true, ↓reduceIte]
  omega

end Catalog

/-- **What comes of a call** on a catalogue: a value, and a catalogue that goes on from it. -/
structure Grown (c : Catalog) (α : Type) where
  catalog : Catalog
  value : α
  grows : c.Extends catalog

namespace Catalog

/-- The order in which the calls descend: no more names to meet, and a smaller thing to look at. -/
theorem descends {m n i j : Nat} (hunmet : m ≤ n) (hsize : i < j) :
    Prod.Lex (· < ·) (· < ·) (m, i) (n, j) := by
  rcases Nat.lt_or_eq_of_le hunmet with h | h
  · exact .left _ _ h
  · subst h
    exact .right _ hsize

theorem sizeOf_list_pos {α : Type} [SizeOf α] (xs : List α) : 0 < sizeOf xs := by
  cases xs with
  | nil => rw [List.nil.sizeOf_spec]; omega
  | cons x xs => rw [List.cons.sizeOf_spec]; omega

theorem sizeOf_tail_lt (f : Field) (fields : List Field) : sizeOf fields < sizeOf (f :: fields) := by
  rw [List.cons.sizeOf_spec]
  omega

theorem sizeOf_type_lt (f : Field) (fields : List Field) :
    sizeOf f.type + 2 < sizeOf (f :: fields) := by
  obtain ⟨name, type, tags⟩ := f
  have htags := sizeOf_list_pos tags
  have hfields := sizeOf_list_pos fields
  rw [List.cons.sizeOf_spec, Field.mk.sizeOf_spec]
  show sizeOf type + 2 < _
  omega

/-- The fields of a name that is new are looked at with one type less to meet, unless there are
none. -/
theorem descends_documentedFields {c : Catalog} {name : String} {s : Schema}
    (hnew : name ∉ c.names) :
    Prod.Lex (· < ·) (· < ·)
      ((c.put name s).unmet, sizeOf (c.descriptions.documentedFields name)) (c.unmet, 2) := by
  by_cases hfields : c.descriptions.documentedFields name = []
  · rw [hfields]
    exact descends (Extends.put c name s).unmet_le (by decide)
  · exact .left _ _ (unmet_put_lt hnew (Descriptions.mem_names_of_documentedFields hfields))

mutual

/-- **The schema of a field type,** with all names that it mentions added. -/
def schemaOf (c : Catalog) (t : FieldType) : Grown c Schema :=
  match t with
  | .pointer inner => c.schemaOf inner
  | .array element =>
    let r := c.schemaOf element
    ⟨r.catalog, .array r.value, r.grows⟩
  | .named name =>
    let r := c.meet (bareName name)
    ⟨r.catalog, .component (bareName name), r.grows⟩
  | t => ⟨c, .ofFieldType t, .refl c⟩
termination_by (c.unmet, sizeOf t + 2)
decreasing_by
  · exact descends (Nat.le_refl _) (by rw [FieldType.pointer.sizeOf_spec]; omega)
  · exact descends (Nat.le_refl _) (by rw [FieldType.array.sizeOf_spec]; omega)
  · exact descends (Nat.le_refl _) (by rw [FieldType.named.sizeOf_spec]; omega)

/-- An object schema with the fields of a type added, and all names that they mention. -/
def addFields (c : Catalog) (o : Schema) (fields : List Field) : Grown c Schema :=
  match fields with
  | [] => ⟨c, o, .refl c⟩
  | f :: fields =>
    match f.wire? with
    | none => c.addFields o fields
    | some (wire, required) =>
      let r := c.schemaOf f.type
      let rest := r.catalog.addFields (o.addProperty wire required (f.dress r.value)) fields
      ⟨rest.catalog, rest.value, r.grows.trans rest.grows⟩
termination_by (c.unmet, sizeOf fields)
decreasing_by
  · exact descends (Nat.le_refl _) (sizeOf_tail_lt f fields)
  · exact descends (Nat.le_refl _) (sizeOf_type_lt f fields)
  · exact descends r.grows.unmet_le (sizeOf_tail_lt f fields)

/-- **Adds a name** that is not there yet: first its place, then all that its fields mention, and
then its component. -/
def meet (c : Catalog) (name : String) : Grown c Unit :=
  if name ∈ c.names then ⟨c, (), .refl c⟩
  else
    let r := (c.put name .object).addFields .object (c.descriptions.documentedFields name)
    ⟨r.catalog.put name r.value, (),
      ((Extends.put c name .object).trans r.grows).trans (.put r.catalog name r.value)⟩
termination_by (c.unmet, 2)
decreasing_by
  exact descends_documentedFields ‹_›

end

/-! ### Questions -/

/-- **What a catalogue is asked for:** a reference to a type, its component, or the schema of a type
by its full name or as a field type.  Names may be full ones. -/
inductive Query where
  | reference (name : String)
  | component (name : String)
  | typeSchema (full : String)
  | fieldSchema (type : FieldType)

/-- The catalogue after a question, and the schema that was asked for. -/
def ask (c : Catalog) : Query → Catalog × Schema
  | .reference name => ((c.meet (bareName name)).catalog, .component (bareName name))
  | .component name =>
    let met := (c.meet (bareName name)).catalog
    (met, (Assoc.get? met.components (bareName name)).getD {})
  | .typeSchema full => let r := c.schemaOf (.ofTypeName full); (r.catalog, r.value)
  | .fieldSchema type => let r := c.schemaOf type; (r.catalog, r.value)

/-- The catalogue after some questions. -/
def askAll (c : Catalog) (queries : List Query) : Catalog :=
  queries.foldl (fun c q => (c.ask q).1) c

end Catalog

end Callpoint
