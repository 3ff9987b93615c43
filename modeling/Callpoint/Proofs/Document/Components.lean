import Callpoint.Document.Build
import Callpoint.Proofs.Document.Responses
import Callpoint.Proofs.Schema.Nodes

/-!
# Which components a document has

A document describes the error component and all types that its operations reach, each by its own
fields (`get?_schemas_of_reaches`).  Types are known by their bare names, so a type that is reached
under the name of the error component takes its place, and the error component is as it should be
only if there is none (`get?_schemas_errorComponent`).
-/

namespace Callpoint.Document

variable {d : Descriptions} {specs : List Spec} {name : String}

/-- **The descriptions that a document goes by:** the given ones, and behind them those of the
details that a service itself sends. -/
def described (d : Descriptions) : Descriptions := d.orElse detailTypes

/-- A name that the operations mention. -/
def Mentioned (specs : List Spec) (name : String) : Prop :=
  ∃ spec ∈ specs, ∃ t ∈ typesOf spec, t.Mentions name

/-- **A type that the operations reach:** they mention a type that leads to it. -/
def Reaches (d : Descriptions) (specs : List Spec) (name : String) : Prop :=
  ∃ start, Mentioned specs start ∧ Relation.ReflTransGen (described d).LeadsTo start name

/-- The catalogue of all types that the operations mention. -/
def catalogOf (d : Descriptions) (specs : List Spec) : Catalog :=
  Catalog.askAll { descriptions := described d } ((specs.flatMap typesOf).map .fieldSchema)

theorem met_catalogOf (d : Descriptions) (specs : List Spec) :
    Catalog.Met { descriptions := described d }
      ((specs.flatMap typesOf).flatMap FieldType.mentions) (catalogOf d specs) := by
  have hmet := Catalog.met_askAll { descriptions := described d }
    ((specs.flatMap typesOf).map .fieldSchema)
  rw [List.flatMap_map] at hmet
  exact hmet

theorem mem_names_catalogOf_iff : name ∈ (catalogOf d specs).names ↔ Reaches d specs name := by
  have hleads : (fun x y => y ∈ (described d).leadsTo x) = (described d).LeadsTo := by
    funext x y
    exact propext Descriptions.mem_leadsTo_iff
  rw [(met_catalogOf d specs).visits.mem_iff, hleads]
  refine exists_congr fun start => and_congr_left fun _ => ?_
  constructor
  · intro hstart
    obtain ⟨t, ht, hmentions⟩ := List.mem_flatMap.mp hstart
    obtain ⟨spec, hspec, ht⟩ := List.mem_flatMap.mp ht
    exact ⟨spec, hspec, t, ht, FieldType.mem_mentions_iff.mp hmentions⟩
  · rintro ⟨spec, hspec, t, ht, hmentions⟩
    exact List.mem_flatMap.mpr ⟨t, List.mem_flatMap.mpr ⟨spec, hspec, ht⟩,
      FieldType.mem_mentions_iff.mpr hmentions⟩

theorem component_of_mem_catalogOf {s : Schema} (h : (name, s) ∈ (catalogOf d specs).components) :
    s = (described d).component name :=
  Catalog.eq_component_of_mem_askAll h

/-- **A type that is reached is described by its own fields.** -/
theorem get?_schemas_of_reaches (h : Reaches d specs name) :
    Assoc.get? (schemas d specs) name = some ((described d).component name) := by
  -- What was collected is set last, so it is what is found, under the name of errors as well.
  rcases Assoc.get?_setAll [(errorComponent, errorSchema)] (catalogOf d specs).components name with
    ⟨hnot, -⟩ | ⟨s, hs, hget⟩
  · exact absurd (mem_names_catalogOf_iff.mpr h) hnot
  · rw [← component_of_mem_catalogOf hs]
    exact hget

/-- **Errors are described as they are sent** unless a type of that name is reached. -/
theorem get?_schemas_errorComponent (h : ¬ Reaches d specs errorComponent) :
    Assoc.get? (schemas d specs) errorComponent = some errorSchema := by
  rcases Assoc.get?_setAll [(errorComponent, errorSchema)] (catalogOf d specs).components
    errorComponent with ⟨-, hget⟩ | ⟨s, hs, -⟩
  · exact hget
  · exact absurd (mem_names_catalogOf_iff.mp (List.mem_map_of_mem hs)) h

theorem mem_names_schemas_iff :
    name ∈ (schemas d specs).names ↔ name = errorComponent ∨ Reaches d specs name := by
  refine (Assoc.mem_names_setAll _ (catalogOf d specs).components name).trans ?_
  exact or_congr List.mem_singleton mem_names_catalogOf_iff

/-- The components are the schema of errors and those of the types that are reached. -/
theorem eq_of_mem_schemas {s : Schema} (h : (name, s) ∈ schemas d specs) :
    s = errorSchema ∨ Reaches d specs name ∧ s = (described d).component name := by
  rcases Assoc.mem_of_mem_setAll h with h | h
  · exact Or.inl (Prod.mk.inj (List.mem_singleton.mp h)).2
  · exact Or.inr ⟨mem_names_catalogOf_iff.mp (List.mem_map_of_mem h), component_of_mem_catalogOf h⟩

end Callpoint.Document
