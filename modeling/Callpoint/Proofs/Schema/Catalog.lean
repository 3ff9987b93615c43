import Callpoint.Proofs.Schema.DepthFirst
import Callpoint.Schema.Catalog

/-!
# Which components there are

A question walks the described types depth first from the names that it asks for (`Catalog.Met`),
and each component that it adds is the schema of one type by itself.  So a catalogue depends on the
names that were asked for, and on the order in which they were, but not on how far other questions
had gone (`components_of_questions`).
-/

namespace Callpoint

namespace Text

/-- The first part of a text is empty if the text is, or if it starts with the separator. -/
theorem head?_pieces_eq_nil_iff (sep : Char) (cs : List Char) :
    (pieces sep cs).head? = some [] ↔ cs = [] ∨ ∃ rest, cs = sep :: rest := by
  cases cs with
  | nil => simp [pieces]
  | cons c cs =>
    rw [pieces]
    split
    · simp [*]
    · cases hpieces : pieces sep cs <;> simp [*]

/-- When the first part of a text is one character. -/
theorem head?_pieces_eq_singleton_iff {sep a : Char} (hne : a ≠ sep) (cs : List Char) :
    (pieces sep cs).head? = some [a] ↔ cs = [a] ∨ ∃ rest, cs = a :: sep :: rest := by
  cases cs with
  | nil => simp [pieces]
  | cons c cs =>
    have hhead := head?_pieces_eq_nil_iff sep cs
    rw [pieces]
    split
    · next hsep =>
      subst hsep
      simp [Ne.symm hne]
    · cases hpieces : pieces sep cs with
      | nil => exact absurd hpieces (pieces_ne_nil sep cs)
      | cons p ps =>
        rw [hpieces] at hhead
        simp only [List.head?_cons, Option.some.injEq] at hhead
        simp only [List.head?_cons, Option.some.injEq, List.cons.injEq, hhead]
        constructor
        · rintro ⟨rfl, rfl | ⟨rest, rfl⟩⟩
          · exact Or.inl ⟨rfl, rfl⟩
          · exact Or.inr ⟨rest, rfl, rfl⟩
        · rintro (⟨rfl, rfl⟩ | ⟨rest, rfl, rfl⟩)
          · exact ⟨rfl, Or.inl rfl⟩
          · exact ⟨rfl, Or.inr ⟨rest, rfl⟩⟩

end Text

/-! ### Where a type leads -/

namespace FieldType

/-- **A name occurs in a field type,** under any pointers and arrays. -/
inductive Mentions : FieldType → String → Prop
  | named (name : String) : Mentions (.named name) (bareName name)
  | pointer {inner : FieldType} {name : String} (h : Mentions inner name) :
      Mentions (.pointer inner) name
  | array {element : FieldType} {name : String} (h : Mentions element name) :
      Mentions (.array element) name

/-- The names that occur in a field type; there is at most one. -/
def mentions : FieldType → List String
  | .pointer inner => inner.mentions
  | .array element => element.mentions
  | .named name => [bareName name]
  | _ => []

/-- The list holds the name of `Mentions` and no other. -/
theorem mem_mentions_iff {t : FieldType} {name : String} : name ∈ t.mentions ↔ t.Mentions name := by
  constructor
  · intro h
    -- Along the type: only a name ends the way, and a basic type mentions nothing.
    induction t with
    | pointer inner ih => exact .pointer (ih h)
    | array element ih => exact .array (ih h)
    | named full =>
      obtain rfl := List.mem_singleton.mp h
      exact .named full
    | _ => cases h
  · intro h
    induction h with
    | named full => exact List.mem_singleton_self _
    | pointer _ ih => exact ih
    | array _ ih => exact ih

end FieldType

namespace Field

/-- **A field that is not sent:** the first part of its tag for the wire is a dash. -/
def Dropped (f : Field) : Prop :=
  ∃ tag, f.tag? wireKey = some tag ∧
    (tag.toList = ['-'] ∨ ∃ options, tag.toList = '-' :: ',' :: options)

/-- A field has no name for the wire for one reason only, which is the dash. -/
theorem wire?_eq_none_iff (f : Field) : f.wire? = none ↔ f.Dropped := by
  unfold wire? Dropped
  cases htag : f.tag? wireKey with
  | none => simp
  | some tag =>
    simp only [Option.some.injEq, exists_eq_left',
      ← Text.head?_pieces_eq_singleton_iff (by decide : '-' ≠ ',')]
    cases hpieces : Text.pieces ',' tag.toList with
    | nil => exact absurd hpieces (Text.pieces_ne_nil _ _)
    | cons name options =>
      simp only [List.head?_cons, Option.some.injEq]
      split
      · simp [*]
      · simp [*]

end Field

namespace Descriptions

/-- **One type leads to another:** a field that is sent mentions it.  A type that is not described,
or that stands for no body, leads nowhere. -/
def LeadsTo (d : Descriptions) (name other : String) : Prop :=
  name ≠ TypeRef.noBody.name ∧ ∃ fields, d.fields? name = some fields ∧
    ∃ f ∈ fields, ¬ f.Dropped ∧ f.type.Mentions other

/-- The names that some fields mention, as far as they are sent. -/
def mentionsOf (fields : List Field) : List String :=
  fields.flatMap fun f => if f.wire?.isSome then f.type.mentions else []

/-- Of the fields only those that are sent contribute their names. -/
theorem mem_mentionsOf_iff {fields : List Field} {name : String} :
    name ∈ mentionsOf fields ↔ ∃ f ∈ fields, ¬ f.Dropped ∧ f.type.Mentions name := by
  simp only [mentionsOf, List.mem_flatMap]
  refine exists_congr fun f => and_congr_right fun _ => ?_
  rw [← f.wire?_eq_none_iff]
  cases f.wire? with
  | none => simp
  | some wire => simp [FieldType.mem_mentions_iff]

/-- The names that a type leads to, in the order of its fields. -/
def leadsTo (d : Descriptions) (name : String) : List String := mentionsOf (d.documentedFields name)

theorem mem_leadsTo_iff {d : Descriptions} {name other : String} :
    other ∈ d.leadsTo name ↔ d.LeadsTo name other := by
  unfold leadsTo documentedFields LeadsTo
  by_cases hname : name = TypeRef.noBody.name
  · simp [hname, mentionsOf]
  rw [if_neg hname]
  cases hfields : d.fields? name with
  | none => simp [mentionsOf]
  | some fields =>
    simp only [Option.getD_some, mem_mentionsOf_iff, Option.some.injEq, exists_eq_left', hname,
      ne_eq, not_false_eq_true, true_and]

/-- The component of a type, from its own fields. -/
def component (d : Descriptions) (name : String) : Schema := .ofFields (d.documentedFields name)

end Descriptions

namespace Catalog

variable {c c₁ c₂ c₃ : Catalog} {name : String} {starts more : List String}

/-! ### One walk -/

/-- **The second catalogue comes from the first one by a walk** from `starts`: the names are those
of the walk, and the components of the new ones are complete. -/
structure Met (c₁ : Catalog) (starts : List String) (c₂ : Catalog) : Prop where
  descriptions : c₂.descriptions = c₁.descriptions
  visits : Visits c₁.descriptions.leadsTo c₁.names starts c₂.names
  kept : ∀ name ∈ c₁.names, Assoc.get? c₂.components name = Assoc.get? c₁.components name
  complete : ∀ name ∈ c₂.names, name ∉ c₁.names →
    Assoc.get? c₂.components name = some (c₁.descriptions.component name)

namespace Met

theorem nothing (c : Catalog) : c.Met [] c :=
  ⟨rfl, .done, fun _ _ => rfl, fun _ hmem hnew => absurd hmem hnew⟩

/-- A name that is known is passed over, even while its component is still being filled. -/
theorem again (h : name ∈ c.names) : c.Met [name] c :=
  ⟨rfl, .again h .done, fun _ _ => rfl, fun _ hmem hnew => absurd hmem hnew⟩

/-- Two walks one behind the other are one walk, and the second leaves the components of the first
alone. -/
theorem append (h : c₁.Met starts c₂) (hmore : c₂.Met more c₃) : c₁.Met (starts ++ more) c₃ := by
  refine ⟨hmore.descriptions.trans h.descriptions, ?_, ?_, ?_⟩
  · refine h.visits.append ?_
    rw [← h.descriptions]
    exact hmore.visits
  · intro name hname
    rw [hmore.kept name (h.visits.isPrefix.subset hname)]
    exact h.kept name hname
  · intro name hname hnew
    -- A new name was completed by the walk that met it first.
    by_cases hmid : name ∈ c₂.names
    · rw [hmore.kept name hmid]
      exact h.complete name hmid hnew
    · rw [← h.descriptions]
      exact hmore.complete name hname hmid

/-- A name that is new: its place is taken, then all that it leads to is met, and then its component
takes the place. -/
theorem first (hnew : name ∉ c.names)
    (h : (c.put name .object).Met (c.descriptions.leadsTo name) c₂) :
    c.Met [name] (c₂.put name (c.descriptions.component name)) := by
  have hnames : (c.put name .object).names = c.names ++ [name] := by
    rw [names_put, if_neg hnew]
  have hself : name ∈ c₂.names := h.visits.isPrefix.subset mem_names_put_self
  have hfinal : (c₂.put name (c.descriptions.component name)).names = c₂.names := by
    rw [names_put, if_pos hself]
  refine ⟨h.descriptions, ?_, ?_, ?_⟩
  · rw [hfinal]
    refine .first hnew ?_ .done
    rw [← hnames]
    exact h.visits
  · intro other hother
    -- The new component goes to a place that no older name has.
    have hne : other ≠ name := by
      rintro rfl
      exact hnew hother
    have hother' : other ∈ (c.put name .object).names := by
      rw [hnames]
      exact List.mem_append_left _ hother
    have hkept := h.kept other hother'
    simp only [put, Assoc.get?_set, if_neg hne] at hkept ⊢
    exact hkept
  · intro other hother hother'
    rw [hfinal] at hother
    simp only [put, Assoc.get?_set]
    by_cases heq : other = name
    · rw [if_pos heq, heq]
    · rw [if_neg heq]
      refine h.complete other hother ?_
      rw [hnames, List.mem_append, List.mem_singleton]
      exact not_or.mpr ⟨hother', heq⟩

end Met

/-! ### The calls walk -/

/-- Each of the three calls walks: from the names that a type mentions, from a name, and from the
names that fields mention.  What it returns is what the type or the fields are by themselves. -/
theorem met_calls :
    (∀ (c : Catalog) (t : FieldType),
      c.Met t.mentions (c.schemaOf t).catalog ∧ (c.schemaOf t).value = .ofFieldType t) ∧
    (∀ (c : Catalog) (name : String), c.Met [name] (c.meet name).catalog) ∧
    ∀ (c : Catalog) (o : Schema) (fields : List Field),
      c.Met (Descriptions.mentionsOf fields) (c.addFields o fields).catalog ∧
        (c.addFields o fields).value = fields.foldl Schema.addField o := by
  -- The cases are the branches of the calls: of types, of names, and of fields.
  apply schemaOf.mutual_induct
  case case1 =>
    intro c inner ih
    rw [schemaOf]
    exact ih
  case case2 =>
    intro c element ih
    rw [schemaOf]
    exact ⟨ih.1, congrArg Schema.array ih.2⟩
  case case3 =>
    intro c name ih
    rw [schemaOf]
    exact ⟨ih, rfl⟩
  case case4 =>
    intro c t hpointer harray hnamed
    rw [schemaOf]
    · cases t with
      | pointer inner => exact absurd rfl (hpointer inner)
      | array element => exact absurd rfl (harray element)
      | named name => exact absurd rfl (hnamed name)
      | _ => exact ⟨.nothing c, rfl⟩
    all_goals assumption
  case case5 =>
    intro c name hmem
    rw [meet, if_pos hmem]
    exact .again hmem
  case case6 =>
    intro c name hnew ih
    rw [meet, if_neg hnew]
    -- The fields are looked at with the place taken, so the walk behind `name` passes it over.
    show c.Met [name] (Catalog.put _ name _)
    -- The induction hypothesis says what the fields are by themselves, so the component is too.
    rw [ih.2]
    exact .first hnew ih.1
  case case7 =>
    intro c o
    rw [addFields]
    exact ⟨.nothing c, rfl⟩
  case case8 =>
    intro c o f fields hwire ih
    have hmentions : Descriptions.mentionsOf (f :: fields) = Descriptions.mentionsOf fields := by
      simp [Descriptions.mentionsOf, hwire]
    have hadd : o.addField f = o := by
      simp [Schema.addField, hwire]
    rw [addFields, hwire, List.foldl_cons, hmentions, hadd]
    exact ih
  case case9 =>
    intro c o f fields wire required hwire r hfirst _ hrest
    have hmentions : Descriptions.mentionsOf (f :: fields)
        = f.type.mentions ++ Descriptions.mentionsOf fields := by
      simp [Descriptions.mentionsOf, hwire]
    have hadd : o.addField f = o.addProperty wire required (f.dress (c.schemaOf f.type).value) := by
      simp [Schema.addField, hwire, hfirst.2, Field.schema]
    rw [addFields, hwire, List.foldl_cons, hmentions, hadd]
    exact ⟨hfirst.1.append hrest.1, hrest.2⟩

/-! ### Questions walk -/

/-- The names that a question asks for. -/
def Query.names : Query → List String
  | .reference name | .component name => [bareName name]
  | .typeSchema full => (FieldType.ofTypeName full).mentions
  | .fieldSchema type => type.mentions

/-- What a question is answered with, whatever was asked before. -/
def Query.answer (d : Descriptions) : Query → Schema
  | .reference name => .component (bareName name)
  | .component name => d.component (bareName name)
  | .typeSchema full => .ofFieldType (.ofTypeName full)
  | .fieldSchema type => .ofFieldType type

theorem met_ask (c : Catalog) (q : Query) : c.Met q.names (c.ask q).1 := by
  cases q with
  | reference name => exact met_calls.2.1 c _
  | component name => exact met_calls.2.1 c _
  | typeSchema full => exact (met_calls.1 c _).1
  | fieldSchema type => exact (met_calls.1 c _).1

/-- Questions one after the other make one walk, from all their names in order. -/
theorem met_askAll (c : Catalog) (queries : List Query) :
    c.Met (queries.flatMap Query.names) (c.askAll queries) := by
  induction queries generalizing c with
  | nil => exact .nothing c
  | cons q queries ih =>
    rw [List.flatMap_cons]
    exact (met_ask c q).append (ih _)

/-- A component that some questions leave is the one of its type. -/
theorem eq_component_of_mem_askAll {d : Descriptions} {queries : List Query} {s : Schema}
    (h : (name, s) ∈ (askAll { descriptions := d } queries).components) :
    s = d.component name := by
  have hmet := met_askAll { descriptions := d } queries
  have hcomplete := hmet.complete name (List.mem_map_of_mem h) List.not_mem_nil
  -- Each name stands there once, so the entry that was found is the one looked up.
  rw [Assoc.get?_of_mem (hmet.visits.nodup List.nodup_nil) h] at hcomplete
  exact Option.some.inj hcomplete

/-- The component of a type that was asked for is there. -/
theorem component_mem_askAll {d : Descriptions} {queries : List Query}
    (h : name ∈ queries.flatMap Query.names) :
    (name, d.component name) ∈ (askAll { descriptions := d } queries).components := by
  have hmet := met_askAll { descriptions := d } queries
  exact Assoc.mem_of_get? (hmet.complete name (hmet.visits.mem_of_start h) List.not_mem_nil)

/-- **No component is left open:** each one is that of its type by itself. -/
def Complete (c : Catalog) : Prop :=
  ∀ name ∈ c.names, Assoc.get? c.components name = some (c.descriptions.component name)

/-- A walk leaves nothing open behind it. -/
theorem Met.complete_of_complete (h : c₁.Met starts c₂) (hc : c₁.Complete) : c₂.Complete := by
  intro name hname
  rw [h.descriptions]
  -- What is old was complete before, and what is new is by the walk itself.
  by_cases hold : name ∈ c₁.names
  · rw [h.kept name hold]
    exact hc name hold
  · exact h.complete name hname hold

/-- In a complete catalogue an answer tells nothing of the questions before it. -/
theorem answer_of_complete (hc : c.Complete) (q : Query) :
    (c.ask q).2 = q.answer c.descriptions := by
  cases q with
  | reference name => rfl
  | component name =>
    -- Only this answer is read from the catalogue, and there it is complete.
    have hmet := met_calls.2.1 c (bareName name)
    have hname := hmet.visits.mem_of_start (List.mem_singleton_self _)
    have hcomponent := hmet.complete_of_complete hc _ hname
    rw [hmet.descriptions] at hcomponent
    show (Assoc.get? (c.meet (bareName name)).catalog.components _).getD {} = _
    rw [hcomponent]
    rfl
  | typeSchema full => exact (met_calls.1 c _).2
  | fieldSchema type => exact (met_calls.1 c _).2

/-- **What a catalogue holds after any questions,** whatever the described types are.

The names are those that can be reached from the names asked for, each once, in the order of a
depth-first walk; the component of a described type is the object of its fields, and any other is
the empty object.  The next answer does not depend on the questions before it. -/
theorem components_of_questions (d : Descriptions) (queries : List Query) :
    let c := askAll { descriptions := d } queries
    let asked := queries.flatMap Query.names
    (∀ name, name ∈ c.components.names ↔
      ∃ start ∈ asked, Relation.ReflTransGen d.LeadsTo start name) ∧
    c.components.names.Nodup ∧
    (∀ order, Visits d.leadsTo [] asked order ↔ order = c.components.names) ∧
    (∀ name s, (name, s) ∈ c.components →
      (∀ fields, name ≠ TypeRef.noBody.name → d.fields? name = some fields →
        s = .ofFields fields) ∧
      (name = TypeRef.noBody.name ∨ d.fields? name = none → s = .object)) ∧
    ∀ q, (c.ask q).2 = q.answer d := by
  intro c asked
  have hmet : Met { descriptions := d } asked c := met_askAll _ queries
  -- The first catalogue is empty, so all of its components are complete.
  have hcomplete : c.Complete := hmet.complete_of_complete fun _ h => absurd h List.not_mem_nil
  have hnodup : c.components.names.Nodup := hmet.visits.nodup List.nodup_nil
  have hleads : (fun x y => y ∈ d.leadsTo x) = d.LeadsTo := by
    funext x y
    exact propext Descriptions.mem_leadsTo_iff
  refine ⟨fun name => ?_, hnodup, fun order => ?_, fun name s hs => ?_, fun q => ?_⟩
  · rw [← hleads]
    exact hmet.visits.mem_iff
  · constructor
    · exact fun h => h.unique hmet.visits
    · rintro rfl
      exact hmet.visits
  · have hname : name ∈ c.names := List.mem_map_of_mem hs
    have hown := hcomplete name hname
    rw [Assoc.get?_of_mem hnodup hs, hmet.descriptions] at hown
    obtain rfl := Option.some.inj hown
    unfold Descriptions.component Descriptions.documentedFields
    constructor
    · intro fields hne hfields
      rw [if_neg hne, hfields]
      rfl
    · rintro (hbody | hunknown)
      · rw [if_pos hbody]
        rfl
      · rw [hunknown]
        split <;> rfl
  · rw [answer_of_complete hcomplete q, hmet.descriptions]

/-- Two types that lead to each other, one of them also to itself. -/
example : (askAll { descriptions := ⟨[
      ("A", [{ name := "b", type := .named "B" }]),
      ("B", [{ name := "a", type := .pointer (.named "m::A") },
        { name := "bs", type := .array (.named "B") }])]⟩ }
    [.reference "m::A"]).names = ["A", "B"] := by cbv

end Catalog

end Callpoint
