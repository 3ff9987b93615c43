import Callpoint.Proofs.Document.References
import Callpoint.Proofs.Schema.Shapes

/-!
# Shapes in a document

All schemas of a document are shapely, at any depth (`schemas_have_one_shape`): whatever the types
of a service are and whatever the rules of their fields say, each schema has exactly one shape, and
each constraint stands where it has a meaning.  The statement follows the schemas to where they come
from; only the fields of components have rules.
-/

namespace Callpoint.Document

open Callpoint.Schema (Shapely ShapelyObject everywhere_iff everywhere_shapely_component
  everywhere_shapely_ofType everywhere_shapely_anyObject everywhere_shapely_ofFieldType)

variable {d : Descriptions} {spec : Spec} {specs : List Spec} {s n : Schema} {outline : Outline}
  {doc : Document}

theorem everywhere_shapely_errorSchema : errorSchema.Everywhere Shapely := by
  have htext : Schema.string.Everywhere Shapely := everywhere_shapely_ofType nofun
  exact (((((ShapelyObject.object.withProperty "code" htext).withProperty "message"
    htext).withProperty "details" everywhere_shapely_anyObject).withRequired "code").withRequired
      "message").everywhere

theorem everywhere_shapely_groupSchema (group : List Definition) :
    (groupSchema group).Everywhere Shapely := by
  unfold groupSchema
  split
  · next name _ =>
    have hdetails := ShapelyObject.object.withProperty "details"
      (everywhere_shapely_component (bareName name))
    refine everywhere_iff.mpr
      ⟨Schema.HasShape.shapely (.other rfl nofun) (Facets.fits_empty _), fun p hp => ?_⟩
    rcases List.mem_pair.mp hp with rfl | rfl
    · exact everywhere_shapely_component _
    · exact hdetails.everywhere
  · exact everywhere_shapely_component _

/-- **Whatever a schema comes from, it is shapely.** -/
theorem everywhere_shapely_of_origin (h : Origin d specs s) : s.Everywhere Shapely := by
  cases h with
  | text => exact everywhere_shapely_ofType nofun
  | type => exact everywhere_shapely_ofFieldType _
  | group => exact everywhere_shapely_groupSchema _
  | error => exact everywhere_shapely_errorSchema
  | component => exact (ShapelyObject.ofFields _).everywhere

/-- **Every schema has exactly one shape, and constraints that have a meaning for it.** Wherever a
schema stands in a document, at any depth of the schemas of its operations and of its components,
the one shape that it has is that of its kind.  Bounds stand only on numbers, lengths only on texts,
and counts of items only on arrays. -/
theorem schemas_have_one_shape (h : build outline d specs = .ok doc) (hs : doc.Holds s)
    (hn : n.Occurs s) : (∀ k, n.HasShape k ↔ k = n.kind) ∧ n.facets.Fits n.type := by
  have hshapely : n.Shapely := everywhere_shapely_of_origin (origin_of_holds h hs) n hn
  exact ⟨hshapely.hasShape_iff, hshapely.facets⟩

/-- Counts of things, behind a pointer, with rules for numbers, arrays and texts. -/
def counted : Field :=
  { name := "Count", type := .pointer .integer,
    tags := [("json", "count"), ("validate", "min=1,unique,len=3,max=9")] }

/-- Things in stock, with their count. -/
def stock : Spec := .build "stock" "GET" "/stock" [.types .noBody ⟨"app::Stock", false⟩]

/-- The rules for numbers are kept, those for arrays and texts are not. -/
theorem schemas_have_one_shape_counted : ∃ (doc : Document) (s n : Schema),
    build { info := ⟨"Stock", "1", none⟩ } ⟨[("Stock", [counted])]⟩ [stock] = .ok doc ∧
      doc.Holds s ∧ n.Occurs s ∧ n.facets.minimum.isSome = true ∧
      (∀ k, n.HasShape k ↔ k = .primitive) ∧
      n.facets.minItems = none ∧ n.facets.uniqueItems = false ∧ n.facets.minLength = none := by
  refine Exists.imp (fun doc h => ⟨.ofFields [counted], counted.schema, h, ?_⟩) ⟨_, rfl⟩
  have htype : FieldType.ofTypeName "app::Stock" = .named "Stock" := by
    rw [FieldType.ofTypeName, FieldType.lower]
    rfl
  have hmentions : (FieldType.ofTypeName "app::Stock").Mentions "Stock" :=
    htype ▸ FieldType.Mentions.named "Stock"
  have hreaches : Reaches ⟨[("Stock", [counted])]⟩ [stock] "Stock" :=
    reaches_of_mentions (List.mem_singleton_self _) (mem_typesOf_output rfl) hmentions
  obtain ⟨-, ⟨c, hc, hschemas⟩, -⟩ := contents_of_build h
  have hmem : ("Stock", Schema.ofFields [counted]) ∈ c.schemas :=
    hschemas ▸ Assoc.mem_of_get? (get?_schemas_of_reaches hreaches)
  have hholds : doc.Holds (.ofFields [counted]) := .component hc hmem
  have hoccurs : counted.schema.Occurs (.ofFields [counted]) :=
    .part (List.mem_singleton_self _) .here
  obtain ⟨hshape, hfits⟩ := schemas_have_one_shape h hholds hoccurs
  obtain ⟨hitems, -, hunique⟩ := hfits.counts.resolve_left nofun
  obtain ⟨hlength, -⟩ := hfits.lengths.resolve_left nofun
  exact ⟨hholds, hoccurs, rfl, hshape, hitems, hunique, hlength⟩

end Callpoint.Document
