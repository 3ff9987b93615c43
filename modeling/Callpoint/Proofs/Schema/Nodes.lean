import Callpoint.Proofs.Schema.Catalog

/-!
# Schemas inside schemas

A schema is made of others, at any depth.  What holds everywhere in it holds of the schema itself
and everywhere in its parts (`Schema.everywhere_iff`), and that is how each way to make a schema is
gone through.  The first use is for references: those of a component lead to the names that its type
leads to, and nowhere else (`Descriptions.refersTo_component`).
-/

namespace Callpoint

namespace Schema

variable {s p : Schema} {P Q : Schema → Prop}

/-! ### Parts -/

/-- **The schemas that a schema is made of:** those of its properties and its items, those that it
combines, and the one of what else it allows. -/
def parts (s : Schema) : List Schema :=
  s.properties.map Prod.snd ++ s.items.toList ++ s.allOf ++
    match s.extra with
    | some (.matching p) => [p]
    | _ => []

/-- **A schema occurs in another one,** at any depth. -/
inductive Occurs (n : Schema) : Schema → Prop
  | here : Occurs n n
  | part {s p : Schema} (hp : p ∈ s.parts) (h : Occurs n p) : Occurs n s

/-- All that occurs in a schema has a property. -/
def Everywhere (P : Schema → Prop) (s : Schema) : Prop := ∀ n, n.Occurs s → P n

/-- Everywhere in a schema means in it and everywhere in its parts. -/
theorem everywhere_iff : s.Everywhere P ↔ P s ∧ ∀ p ∈ s.parts, p.Everywhere P := by
  constructor
  · exact fun h => ⟨h s .here, fun p hp n hn => h n (.part hp hn)⟩
  · rintro ⟨hself, hparts⟩ n hn
    cases hn with
    | here => exact hself
    | part hp h => exact hparts _ hp n h

theorem Everywhere.imp (h : s.Everywhere P) (himp : ∀ n, P n → Q n) : s.Everywhere Q :=
  fun n hn => himp n (h n hn)

theorem everywhere_of_parts_eq_nil (hself : P s) (hparts : s.parts = []) : s.Everywhere P := by
  rw [everywhere_iff, hparts]
  exact ⟨hself, fun p hp => absurd hp List.not_mem_nil⟩

/-- A property takes the place of the one of the same name and adds no other part. -/
theorem mem_parts_withProperty {name : String} {q : Schema}
    (h : p ∈ (s.withProperty name q).parts) : p ∈ s.parts ∨ p = q := by
  simp only [parts, withProperty, List.mem_append, or_assoc] at h ⊢
  rcases h with h | h
  -- Only the properties change; the other three kinds of parts are passed on.
  · obtain ⟨⟨other, p'⟩, hmem, rfl⟩ := List.mem_map.mp h
    rcases Assoc.mem_of_mem_set hmem with hmem | ⟨-, rfl⟩
    · exact Or.inl (List.mem_map_of_mem hmem)
    · exact Or.inr (Or.inr (Or.inr (Or.inr rfl)))
  · rcases h with h | h | h
    · exact Or.inr (Or.inl h)
    · exact Or.inr (Or.inr (Or.inl h))
    · exact Or.inr (Or.inr (Or.inr (Or.inl h)))

theorem Everywhere.array (h : s.Everywhere P) (hself : P (Schema.array s)) :
    (Schema.array s).Everywhere P := by
  refine everywhere_iff.mpr ⟨hself, fun p hp => ?_⟩
  obtain rfl : p = s := List.mem_singleton.mp hp
  exact h

/-- An object to which a property is added is made of what it was made of, and of the property. -/
theorem Everywhere.withProperty (h : s.Everywhere P) {name : String} {q : Schema}
    (hself : P (s.withProperty name q)) (hq : q.Everywhere P) :
    (s.withProperty name q).Everywhere P := by
  refine everywhere_iff.mpr ⟨hself, fun p hp => ?_⟩
  rcases mem_parts_withProperty hp with hp | rfl
  · exact (everywhere_iff.mp h).2 p hp
  · exact hq

/-- **What is laid over a schema** are facets, those that its rules imply, and documentation. -/
theorem dress_cases (f : Field) (s : Schema) :
    ∃ facets description sample,
      f.dress s = { s with facets := facets, description := description, sample := sample } ∧
      (facets = s.facets ∨ ∃ rules, facets = s.facets.overlay (Facets.ofRules rules f.type)) := by
  unfold Field.dress
  cases f.tag? Field.rulesKey with
  | none => exact ⟨_, _, _, rfl, .inl rfl⟩
  | some rules => exact ⟨_, _, _, rfl, .inr ⟨rules, rfl⟩⟩

/-! ### References -/

variable {N : String → Prop}

/-- **The references in a schema lead to names with a property,** and nowhere else. -/
def RefersTo (N : String → Prop) (s : Schema) : Prop :=
  s.Everywhere fun n => ∀ r, n.reference = some r → ∃ name, N name ∧ r = componentPath ++ name

theorem RefersTo.imp {M : String → Prop} (h : s.RefersTo N) (himp : ∀ name, N name → M name) :
    s.RefersTo M := by
  refine Everywhere.imp h fun n hn r hr => ?_
  obtain ⟨name, hname, hpath⟩ := hn r hr
  exact ⟨name, himp name hname, hpath⟩

/-- A schema that is no reference refers by its parts. -/
theorem refersTo_of_parts (hreference : s.reference = none) (hparts : ∀ p ∈ s.parts, p.RefersTo N) :
    s.RefersTo N := by
  refine everywhere_iff.mpr ⟨fun r hr => ?_, hparts⟩
  rw [hreference] at hr
  cases hr

/-- A schema that neither refers nor has parts. -/
theorem refersTo_of_leaf (hreference : s.reference = none) (hparts : s.parts = []) :
    s.RefersTo N :=
  refersTo_of_parts hreference (hparts ▸ fun _ hp => absurd hp List.not_mem_nil)

theorem refersTo_component {name : String} (h : N name) : (component name).RefersTo N := by
  refine everywhere_of_parts_eq_nil (fun r hr => ?_) rfl
  obtain rfl := Option.some.inj hr
  exact ⟨name, h, rfl⟩

theorem RefersTo.array (h : s.RefersTo N) : (Schema.array s).RefersTo N :=
  Everywhere.array h nofun

/-- An object to which a property is added refers to what it referred to, and to what the property
does. -/
theorem RefersTo.withProperty (h : s.RefersTo N) {name : String} {q : Schema} (hq : q.RefersTo N) :
    (s.withProperty name q).RefersTo N :=
  Everywhere.withProperty h (everywhere_iff.mp h).1 hq

theorem RefersTo.withRequired (h : s.RefersTo N) (name : String) :
    (s.withRequired name).RefersTo N :=
  everywhere_iff.mpr (everywhere_iff.mp h)

/-- An object refers to no more than before and what the new property refers to. -/
theorem RefersTo.addProperty (h : s.RefersTo N) {wire : String} (required : Bool) {q : Schema}
    (hq : q.RefersTo N) : (s.addProperty wire required q).RefersTo N := by
  cases required with
  | true => exact (h.withRequired wire).withProperty hq
  | false => exact h.withProperty hq

/-- The schema of a field type refers to the name that occurs in the type. -/
theorem refersTo_ofFieldType {t : FieldType} (h : ∀ name, t.Mentions name → N name) :
    (ofFieldType t).RefersTo N := by
  induction t with
  | pointer inner ih => exact ih fun name hname => h name (.pointer hname)
  | array element ih => exact (ih fun name hname => h name (.array hname)).array
  | named name => exact refersTo_component (h _ (.named name))
  | string => exact refersTo_of_leaf rfl rfl
  | integer => exact refersTo_of_leaf rfl rfl
  | number => exact refersTo_of_leaf rfl rfl
  | boolean => exact refersTo_of_leaf rfl rfl
  | dateTime => exact refersTo_of_leaf rfl rfl
  | map => exact refersTo_of_leaf rfl rfl

/-- What is laid over a schema leaves its references alone. -/
theorem RefersTo.dress (h : s.RefersTo N) (f : Field) : (f.dress s).RefersTo N := by
  obtain ⟨facets, description, sample, hdress, -⟩ := dress_cases f s
  rw [hdress]
  exact everywhere_iff.mpr (everywhere_iff.mp h)

/-- An object refers to the names that occur in the types of the fields that are sent. -/
theorem refersTo_ofFields {fields : List Field}
    (h : ∀ f ∈ fields, ¬ f.Dropped → ∀ name, f.type.Mentions name → N name) :
    (ofFields fields).RefersTo N := by
  have hobject : object.RefersTo N := refersTo_of_leaf rfl rfl
  -- Field by field, starting from the object without properties.
  refine List.foldlRecOn fields addField hobject fun o ho f hf => ?_
  unfold addField
  cases hwire : f.wire? with
  | none => exact ho
  | some wire =>
    have hsent : ¬ f.Dropped := by
      rw [← f.wire?_eq_none_iff, hwire]
      exact Option.some_ne_none _
    exact ho.addProperty wire.2 ((refersTo_ofFieldType (h f hf hsent)).dress f)

end Schema

/-- **The component of a type refers to the names that the type leads to.** -/
theorem Descriptions.refersTo_component (d : Descriptions) (name : String) :
    (d.component name).RefersTo (d.LeadsTo name) := by
  refine Schema.refersTo_ofFields fun f hf hsent other hother => ?_
  rw [← mem_leadsTo_iff]
  exact mem_mentionsOf_iff.mpr ⟨f, hf, hsent, hother⟩

end Callpoint
