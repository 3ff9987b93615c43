import Mathlib.Logic.Function.Iterate
import Callpoint.Proofs.Schema.Catalog
import Callpoint.Proofs.TypeName

/-!
# One name for a type

Paths are stripped in many places: when a specification takes a type, when a type is described,
when a field type is made of a name, and when a catalogue is asked.  On some ways this happens twice.
It makes no difference, because a bare name is its own bare name, so that a type goes by one name in
all of these places (`goesBy_iterate`), and the components of a catalogue have bare names only
(`bareName_of_mem_askAll`).
-/

namespace Callpoint

/-- **What is written goes by a name** in a specification, among the described types, in references
and among the components. -/
structure GoesBy (written name : String) : Prop where
  specified (placeholder : Bool) : (TypeRef.mk written placeholder).name = name
  described (d : Descriptions) (fields : List Field) :
    (d.insert written fields).fields? name = some fields
  referred (c : Catalog) : (c.ask (.reference written)).2.referenced? = some name
  kept (c : Catalog) : name ∈ (c.ask (.reference written)).1.names
  /-- A field type made of a name has been stripped before the catalogue is asked. -/
  asField (c : Catalog) :
    c.ask (.fieldSchema (.ofName written)) = c.ask (.reference written)

namespace Schema

theorem referenced?_component (name : String) : (component name).referenced? = some name := by
  have hpath : (componentPath ++ name).toList = componentPath.toList ++ name.toList :=
    String.toList_append
  have hprefix : componentPath.toList.isPrefixOf (componentPath ++ name).toList = true := by
    rw [hpath, List.isPrefixOf_iff_prefix]
    exact List.prefix_append _ _
  have hrest : (componentPath ++ name).toList.drop componentPath.length = name.toList := by
    rw [hpath]
    exact List.drop_left
  show (if componentPath.toList.isPrefixOf (componentPath ++ name).toList then
    some (String.ofList ((componentPath ++ name).toList.drop componentPath.length)) else none) = _
  rw [if_pos hprefix, hrest, String.ofList_toList]

end Schema

namespace Catalog

/-- What is asked for by name is there afterwards. -/
theorem mem_names_ask_reference (c : Catalog) (name : String) :
    bareName name ∈ (c.ask (.reference name)).1.names :=
  (met_ask c (.reference name)).visits.mem_of_start (List.mem_singleton_self _)

theorem ask_fieldSchema_ofName (c : Catalog) (name : String) :
    c.ask (.fieldSchema (.ofName name)) = c.ask (.reference name) := by
  unfold ask FieldType.ofName
  simp only [schemaOf, bareName_bareName]

/-- **Whatever a catalogue was asked for, its components have bare names.** -/
theorem bareName_of_mem_askAll (d : Descriptions) (queries : List Query) {name : String}
    (h : name ∈ (askAll { descriptions := d } queries).names) : bareName name = name := by
  have hmentioned {t : FieldType} {other : String} (h : t.Mentions other) :
      bareName other = other := by
    induction h with
    | named full => exact bareName_bareName full
    | pointer _ ih => exact ih
    | array _ ih => exact ih
  have hasked : ∀ start ∈ queries.flatMap Query.names, bareName start = start := by
    intro start hstart
    obtain ⟨q, -, hq⟩ := List.mem_flatMap.mp hstart
    cases q with
    | reference full =>
      obtain rfl := List.mem_singleton.mp hq
      exact bareName_bareName full
    | component full =>
      obtain rfl := List.mem_singleton.mp hq
      exact bareName_bareName full
    | typeSchema full => exact hmentioned (FieldType.mem_mentions_iff.mp hq)
    | fieldSchema type => exact hmentioned (FieldType.mem_mentions_iff.mp hq)
  -- A name was asked for, or a field of a type that was met mentions it.
  have hmet := met_askAll { descriptions := d } queries
  obtain ⟨start, hstart, hreach⟩ := hmet.visits.mem_iff.mp h
  cases hreach with
  | refl => exact hasked name hstart
  | tail _ hleads =>
    obtain ⟨-, fields, -, f, -, -, hmentions⟩ := Descriptions.mem_leadsTo_iff.mp hleads
    exact hmentioned hmentions

end Catalog

theorem goesBy_bareName (written : String) : GoesBy written (bareName written) where
  specified _ := rfl
  described d fields := by
    show Assoc.get? (Assoc.set (bareName written) fields d.types) (bareName written) = some fields
    rw [Assoc.get?_set, if_pos rfl]
  referred c := Schema.referenced?_component (bareName written)
  kept c := c.mem_names_ask_reference written
  asField c := c.ask_fieldSchema_ofName written

/-- However often a name was stripped before, it goes by the same name. -/
theorem goesBy_iterate (full : String) (times : Nat) :
    GoesBy (bareName^[times] full) (bareName full) := by
  have hname : ∀ full, bareName (bareName^[times] full) = bareName full := by
    induction times with
    | zero => exact fun full => rfl
    | succ times ih =>
      intro full
      calc bareName (bareName^[times] (bareName full))
          = bareName (bareName full) := ih (bareName full)
        _ = bareName full := bareName_bareName full
  rw [← hname full]
  exact goesBy_bareName _

/-- **What stripping leaves of a name.**  No separator is left, so that stripping again changes
nothing, and a character that is no part of a path parts what is stripped on its own.  So a type goes
by one name wherever it is named, however often the name was stripped on the way there. -/
theorem stripped_names_agree :
    (∀ full : String, ¬ [':', ':'] <:+: (bareName full).toList ∧
      bareName (bareName full) = bareName full) ∧
    (∀ (a b : String) (c : Char), Text.isAlphanumeric c = false → c ≠ '_' → c ≠ ':' →
      bareName (a ++ String.singleton c ++ b) = bareName a ++ String.singleton c ++ bareName b) ∧
    (∀ (full : String) (times : Nat),
      GoesBy (bareName^[times] full) (bareName full)) ∧
    ∀ (d : Descriptions) (queries : List Catalog.Query),
      ∀ name ∈ (Catalog.askAll { descriptions := d } queries).names, bareName name = name := by
  refine ⟨fun full => ⟨not_infix_bareName full, bareName_bareName full⟩, ?_, goesBy_iterate, ?_⟩
  · intro a b c hletter hunderscore hcolon
    have hmark : TypeName.isPathChar c = false := by
      simp [TypeName.isPathChar, hletter, hunderscore, hcolon]
    exact bareName_append hmark a b
  · intro d queries name hname
    exact Catalog.bareName_of_mem_askAll d queries hname

/-- Runs of colons on both sides of a bracket. -/
theorem stripped_names_agree_page :
    Text.isAlphanumeric '<' = false ∧ bareName ":::Page" = "Page" ∧
      bareName "::b:User>" = "b:User>" ∧
      bareName (":::Page" ++ String.singleton '<' ++ "::b:User>")
        = bareName ":::Page" ++ String.singleton '<' ++ bareName "::b:User>" := by
  have hmark : Text.isAlphanumeric '<' = false := by decide
  refine ⟨hmark, by decide, by decide, ?_⟩
  exact stripped_names_agree.2.1 ":::Page" "::b:User>" '<' hmark (by decide) (by decide)

end Callpoint
