import Callpoint.Schema.Catalog

/-!
# Pointers leave no trace

Pointers are looked through in two places that know nothing of each other: the schema of a type
looks through them at every depth, and rules are read with the shape of a type, for which only those
at its top count.  Neither leaves a trace of them.  So taking every pointer out of the descriptions
and out of what is asked for goes through each call of a catalogue (`withoutPointers_calls`), through
a question (`withoutPointers_ask`) and through any row of questions
(`withoutPointers_askAll`, `answers_withoutPointers`).
-/

namespace Callpoint

namespace FieldType

/-- **The type without any pointer,** whether around it or below its arrays. -/
def withoutPointers : FieldType → FieldType
  | .pointer inner => inner.withoutPointers
  | .array element => .array element.withoutPointers
  | t => t

end FieldType

/-- The shape of a type is that of its top, and an array remains one whatever its elements are. -/
theorem Shape.ofType_withoutPointers (t : FieldType) : ofType t.withoutPointers = ofType t := by
  induction t with
  | pointer inner ih => exact ih
  | _ => rfl

/-! ### Rules and fields -/

theorem Facets.ofRules_withoutPointers (rules : String) (t : FieldType) :
    ofRules rules t.withoutPointers = ofRules rules t := by
  unfold ofRules Rule.ofText
  rw [Shape.ofType_withoutPointers]

namespace Field

/-- The field with a type that has no pointers. -/
def withoutPointers (f : Field) : Field := { f with type := f.type.withoutPointers }

theorem tag?_withoutPointers (f : Field) (key : String) : f.withoutPointers.tag? key = f.tag? key :=
  rfl

theorem wire?_withoutPointers (f : Field) : f.withoutPointers.wire? = f.wire? := rfl

theorem dress_withoutPointers (f : Field) (s : Schema) : f.withoutPointers.dress s = f.dress s := by
  have hrules (rules : String) :
      Facets.ofRules rules f.withoutPointers.type = Facets.ofRules rules f.type :=
    Facets.ofRules_withoutPointers rules f.type
  simp only [dress, tag?_withoutPointers, hrules]

end Field

/-! ### Descriptions and questions -/

namespace Descriptions

/-- The descriptions with fields that have no pointers in their types. -/
def withoutPointers (d : Descriptions) : Descriptions :=
  ⟨d.types.map fun (name, fields) => (name, fields.map Field.withoutPointers)⟩

theorem fields?_withoutPointers (d : Descriptions) (name : String) :
    d.withoutPointers.fields? name = (d.fields? name).map (List.map Field.withoutPointers) :=
  Assoc.get?_map _ d.types name

theorem documentedFields_withoutPointers (d : Descriptions) (name : String) :
    d.withoutPointers.documentedFields name
      = (d.documentedFields name).map Field.withoutPointers := by
  unfold documentedFields
  rw [fields?_withoutPointers]
  split
  · rfl
  · cases d.fields? name <;> rfl

end Descriptions

namespace Catalog

/-- The question without any pointer in the type that it asks for.  A full type name asks for the
type that it is lowered to. -/
def Query.withoutPointers : Query → Query
  | .reference name => .reference name
  | .component name => .component name
  | .typeSchema full => .fieldSchema (FieldType.ofTypeName full).withoutPointers
  | .fieldSchema type => .fieldSchema type.withoutPointers

/-- The catalogue over descriptions without pointers, with the same components. -/
def withoutPointers (c : Catalog) : Catalog :=
  { c with descriptions := c.descriptions.withoutPointers }

theorem names_withoutPointers (c : Catalog) : c.withoutPointers.names = c.names := rfl

theorem put_withoutPointers (c : Catalog) (name : String) (s : Schema) :
    c.withoutPointers.put name s = (c.put name s).withoutPointers := rfl

/-! ### Each step goes the same way -/

/-- **Each of the three calls goes the same way without pointers:** it returns the same, and leaves
the same components. -/
theorem withoutPointers_calls :
    (∀ (c : Catalog) (t : FieldType),
      (c.withoutPointers.schemaOf t.withoutPointers).catalog
          = (c.schemaOf t).catalog.withoutPointers ∧
        (c.withoutPointers.schemaOf t.withoutPointers).value = (c.schemaOf t).value) ∧
    (∀ (c : Catalog) (name : String),
      (c.withoutPointers.meet name).catalog = (c.meet name).catalog.withoutPointers) ∧
    ∀ (c : Catalog) (o : Schema) (fields : List Field),
      (c.withoutPointers.addFields o (fields.map Field.withoutPointers)).catalog
          = (c.addFields o fields).catalog.withoutPointers ∧
        (c.withoutPointers.addFields o (fields.map Field.withoutPointers)).value
          = (c.addFields o fields).value := by
  -- The cases are the branches of the calls on what may have pointers.
  apply schemaOf.mutual_induct
  case case1 =>
    intro c inner ih
    rw [FieldType.withoutPointers, schemaOf]
    exact ih
  case case2 =>
    intro c element ih
    rw [FieldType.withoutPointers, schemaOf, schemaOf]
    exact ⟨ih.1, congrArg Schema.array ih.2⟩
  case case3 =>
    intro c name ih
    rw [FieldType.withoutPointers, schemaOf, schemaOf]
    · exact ⟨ih, rfl⟩
    all_goals nofun
  case case4 =>
    intro c t hpointer harray hnamed
    cases t with
    | pointer inner => exact absurd rfl (hpointer inner)
    | array element => exact absurd rfl (harray element)
    | named name => exact absurd rfl (hnamed name)
    | _ => simp [FieldType.withoutPointers, schemaOf]
  case case5 =>
    intro c name hmem
    rw [meet, meet, names_withoutPointers, if_pos hmem, if_pos hmem]
  case case6 =>
    intro c name hnew ih
    rw [meet, meet, names_withoutPointers, if_neg hnew, if_neg hnew]
    -- Both put the name first, so the fields are looked at from the same components.
    have hfields : c.withoutPointers.descriptions.documentedFields name
        = (c.descriptions.documentedFields name).map Field.withoutPointers :=
      Descriptions.documentedFields_withoutPointers c.descriptions name
    show Catalog.put _ name _ = Catalog.withoutPointers (Catalog.put _ name _)
    rw [put_withoutPointers, hfields, ih.1, ih.2, put_withoutPointers]
  case case7 =>
    intro c o
    rw [List.map_nil, addFields, addFields]
    exact ⟨rfl, rfl⟩
  case case8 =>
    intro c o f fields hwire ih
    rw [List.map_cons, addFields, addFields, Field.wire?_withoutPointers, hwire]
    exact ih
  case case9 =>
    intro c o f fields wire required hwire r hfirst _ hrest
    have htype : f.withoutPointers.type = f.type.withoutPointers := rfl
    rw [List.map_cons, addFields, addFields, Field.wire?_withoutPointers, hwire]
    simp only
    -- The names behind the first field are in both runs, so the other fields start alike.
    rw [htype, hfirst.1, hfirst.2, Field.dress_withoutPointers]
    exact hrest

/-- **A question goes the same way without pointers.** -/
theorem withoutPointers_ask (c : Catalog) (q : Query) :
    c.withoutPointers.ask q.withoutPointers = ((c.ask q).1.withoutPointers, (c.ask q).2) := by
  obtain ⟨hschema, hmeet, -⟩ := withoutPointers_calls
  cases q with
  | reference name => exact Prod.ext (hmeet c _) rfl
  | component name =>
    simp only [ask, Query.withoutPointers, hmeet]
    rfl
  | typeSchema full => exact Prod.ext (hschema c _).1 (hschema c _).2
  | fieldSchema type => exact Prod.ext (hschema c _).1 (hschema c _).2

/-! ### Rows of questions -/

/-- The answers to some questions, each with what the ones before it have left. -/
def answers (c : Catalog) : List Query → List Schema
  | [] => []
  | q :: queries => (c.ask q).2 :: (c.ask q).1.answers queries

theorem withoutPointers_askAll (c : Catalog) (queries : List Query) :
    c.withoutPointers.askAll (queries.map Query.withoutPointers)
      = (c.askAll queries).withoutPointers := by
  induction queries generalizing c with
  | nil => rfl
  | cons q queries ih =>
    simp only [List.map_cons, askAll, List.foldl_cons, withoutPointers_ask]
    exact ih (c.ask q).1

theorem answers_withoutPointers (c : Catalog) (queries : List Query) :
    c.withoutPointers.answers (queries.map Query.withoutPointers) = c.answers queries := by
  induction queries generalizing c with
  | nil => rfl
  | cons q queries ih =>
    simp only [List.map_cons, answers, withoutPointers_ask, ih]

/-- **Pointers are transparent.**  Whatever the described types are, and whatever a catalogue is
asked for in turn: with all pointers taken out, of the descriptions and of the questions, the
answers are the same, and so are the components that are left, one by one in their order. -/
theorem pointers_are_transparent (d : Descriptions) (queries : List Query) :
    answers { descriptions := d.withoutPointers } (queries.map Query.withoutPointers)
        = answers { descriptions := d } queries ∧
      (askAll { descriptions := d.withoutPointers } (queries.map Query.withoutPointers)).components
        = (askAll { descriptions := d } queries).components := by
  have hanswers := answers_withoutPointers { descriptions := d } queries
  have hcomponents :=
    congrArg components (withoutPointers_askAll { descriptions := d } queries)
  exact ⟨hanswers, hcomponents⟩

end Catalog

end Callpoint
