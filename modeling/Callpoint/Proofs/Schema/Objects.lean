import Mathlib.Data.List.Basic
import Callpoint.Proofs.Schema.Catalog

/-!
# Objects with fields

An object has a property for each name under which one of its fields is sent, and a list of the
names that are required.  The two are kept in different ways.  A property of a name takes the place
of an earlier one, so the last field of a name is the one that is described
(`get?_properties_ofFields_iff`).  Required names are collected as the fields come
(`required_ofFields`), so a name stays listed whatever later fields of that name say, and is listed
again by each one that is required.

`Schema.AgreesWith` is what readers of an object rely on, and `component_agreesWith_iff` says what
that takes of the fields: no required field may come before another one of its name.
-/

namespace Callpoint

namespace Field

variable {f : Field} {wire : String} {required : Bool}

/-! ### Names on the wire -/

/-- **A field is sent under a name.** -/
def SentAs (f : Field) (wire : String) : Prop := f.wire?.map Prod.fst = some wire

/-- **A field is required:** nothing behind the name in its tag for the wire is `omitempty`. -/
def Required (f : Field) : Prop :=
  ∀ tag ∈ f.tag? wireKey, ∀ option ∈ (Text.pieces ',' tag.toList).tail,
    String.ofList (Text.trim option) ≠ "omitempty"

instance (f : Field) (wire : String) : Decidable (f.SentAs wire) :=
  inferInstanceAs (Decidable (_ = _))

instance (f : Field) : Decidable f.Required :=
  inferInstanceAs (Decidable (∀ tag ∈ f.tag? wireKey, _))

/-- The flag of a field that is sent says whether it is required. -/
theorem required_iff_of_wire? (h : f.wire? = some (wire, required)) :
    required = true ↔ f.Required := by
  unfold wire? at h
  unfold Required
  cases htag : f.tag? wireKey with
  | none =>
    rw [htag] at h
    obtain ⟨-, rfl⟩ := Prod.mk.inj (Option.some.inj h)
    exact iff_of_true rfl nofun
  | some tag =>
    rw [htag] at h
    cases hpieces : Text.pieces ',' tag.toList with
    | nil => exact absurd hpieces (Text.pieces_ne_nil ',' _)
    | cons name options =>
      simp only [hpieces] at h
      split at h
      · cases h
      · obtain ⟨-, rfl⟩ := Prod.mk.inj (Option.some.inj h)
        simp [hpieces]

/-- The property of a field that is sent. -/
def property? (f : Field) : Option (String × Schema) := f.wire?.map fun w => (w.1, f.schema)

/-- The name that a field adds to the required ones. -/
def requiredName? (f : Field) : Option String :=
  f.wire?.bind fun w => if w.2 then some w.1 else none

/-- A name is required by the fields that are sent under it and are required. -/
theorem requiredName?_eq_some_iff :
    f.requiredName? = some wire ↔ f.SentAs wire ∧ f.Required := by
  unfold requiredName? SentAs
  cases hwire : f.wire? with
  | none => simp
  | some w => simp [← required_iff_of_wire? hwire, and_comm]

theorem property?_eq_some_iff {p : Schema} :
    f.property? = some (wire, p) ↔ f.SentAs wire ∧ p = f.schema := by
  unfold property? SentAs
  cases f.wire? with
  | none => simp
  | some w => simp [eq_comm]

end Field

/-- **The last of some fields that is sent under a name.** -/
def LastAs (fields : List Field) (wire : String) (f : Field) : Prop :=
  ∃ before after, fields = before ++ f :: after ∧ f.SentAs wire ∧ ∀ g ∈ after, ¬ g.SentAs wire

/-- If a field is sent under a name, one is the last of them. -/
theorem exists_lastAs {fields : List Field} {wire : String} (h : ∃ f ∈ fields, f.SentAs wire) :
    ∃ f, LastAs fields wire f := by
  induction fields with
  | nil =>
    obtain ⟨f, hf, -⟩ := h
    cases hf
  | cons f fields ih =>
    by_cases hlater : ∃ g ∈ fields, g.SentAs wire
    · obtain ⟨g, before, after, rfl, hg⟩ := ih hlater
      exact ⟨g, f :: before, after, rfl, hg⟩
    · rw [List.exists_mem_cons_iff, or_iff_left hlater] at h
      exact ⟨f, [], fields, rfl, h, fun g hg hwire => hlater ⟨g, hg, hwire⟩⟩

theorem LastAs.append {fields : List Field} {wire : String} {f : Field} (h : LastAs fields wire f)
    (front : List Field) : LastAs (front ++ fields) wire f := by
  obtain ⟨before, after, rfl, hf⟩ := h
  exact ⟨front ++ before, after, (List.append_assoc ..).symm, hf⟩

namespace Schema

variable {fields : List Field} {o s p : Schema} {name wire : String} {f : Field}

/-! ### Objects field by field -/

/-- A field that is sent sets its property. -/
theorem properties_addField (o : Schema) (f : Field) :
    (o.addField f).properties = Assoc.setAll o.properties f.property?.toList := by
  unfold addField Field.property?
  rcases f.wire? with _ | ⟨wire, required⟩
  · rfl
  · cases required <;> rfl

theorem required_addField (o : Schema) (f : Field) :
    (o.addField f).required = o.required ++ f.requiredName?.toList := by
  unfold addField Field.requiredName?
  rcases f.wire? with _ | ⟨wire, required⟩
  · exact (List.append_nil _).symm
  · cases required
    · exact (List.append_nil _).symm
    · rfl

/-- **The properties** are set in the order of the fields. -/
theorem properties_ofFields (fields : List Field) :
    (ofFields fields).properties = Assoc.setAll [] (fields.filterMap Field.property?) := by
  -- For the induction on the fields the object may have properties already.
  suffices h : ∀ o : Schema, (fields.foldl addField o).properties
      = Assoc.setAll o.properties (fields.filterMap Field.property?) from h object
  induction fields with
  | nil => exact fun o => rfl
  | cons f fields ih =>
    intro o
    rw [List.foldl_cons, ih, properties_addField, List.filterMap_cons]
    cases f.property? <;> rfl

/-- **The required names** are those of all required fields, in their order. -/
theorem required_ofFields (fields : List Field) :
    (ofFields fields).required = fields.filterMap Field.requiredName? := by
  suffices h : ∀ o : Schema, (fields.foldl addField o).required
      = o.required ++ fields.filterMap Field.requiredName? from h object
  induction fields with
  | nil => exact fun o => (List.append_nil _).symm
  | cons f fields ih =>
    intro o
    rw [List.foldl_cons, ih, required_addField, List.filterMap_cons, List.append_assoc]
    cases f.requiredName? <;> rfl

/-- The properties of an object with fields bear the names under which the fields are sent. -/
theorem mem_names_ofFields_iff :
    name ∈ Assoc.names (ofFields fields).properties ↔ ∃ f ∈ fields, f.SentAs name := by
  have hnone : name ∉ Assoc.names ([] : Assoc Schema) := List.not_mem_nil
  rw [properties_ofFields, Assoc.mem_names_setAll, or_iff_right hnone]
  constructor
  · intro h
    obtain ⟨entry, hentry, rfl⟩ := List.mem_map.mp h
    obtain ⟨f, hf, hproperty⟩ := List.mem_filterMap.mp hentry
    exact ⟨f, hf, (Field.property?_eq_some_iff.mp hproperty).1⟩
  · rintro ⟨f, hf, hsent⟩
    have hproperty := Field.property?_eq_some_iff.mpr ⟨hsent, rfl⟩
    exact List.mem_map.mpr ⟨_, List.mem_filterMap.mpr ⟨f, hf, hproperty⟩, rfl⟩

/-- An object has no properties if none of its fields is sent. -/
theorem ofFields_eq_object_iff : ofFields fields = object ↔ ∀ f ∈ fields, f.Dropped := by
  simp only [← Field.wire?_eq_none_iff]
  constructor
  · intro h f hf
    refine Option.eq_none_iff_forall_ne_some.mpr fun wire hwire => ?_
    have hname : wire.1 ∈ Assoc.names (ofFields fields).properties :=
      mem_names_ofFields_iff.mpr ⟨f, hf, congrArg (Option.map Prod.fst) hwire⟩
    rw [h] at hname
    exact List.not_mem_nil hname
  · intro h
    refine List.foldlRecOn (motive := (· = object)) fields addField rfl fun o ho f hf => ?_
    rw [addField, h f hf, ho]

/-- **The last field of a name is described.** -/
theorem get?_properties_of_lastAs (h : LastAs fields wire f) :
    Assoc.get? (ofFields fields).properties wire = some f.schema := by
  obtain ⟨before, after, rfl, hsent, hlater⟩ := h
  have hproperty := Field.property?_eq_some_iff.mpr ⟨hsent, rfl⟩
  have hafter : wire ∉ Assoc.names (after.filterMap Field.property?) := by
    intro hmem
    obtain ⟨entry, hentry, rfl⟩ := List.mem_map.mp hmem
    obtain ⟨g, hg, hg'⟩ := List.mem_filterMap.mp hentry
    exact hlater g hg (Field.property?_eq_some_iff.mp hg').1
  rw [properties_ofFields, List.filterMap_append, List.filterMap_cons_some hproperty]
  -- What is set behind the property of `f` has other names.
  have hset : Assoc.setAll [] (before.filterMap Field.property? ++
        (wire, f.schema) :: after.filterMap Field.property?)
      = Assoc.setAll (Assoc.set wire f.schema (Assoc.setAll [] (before.filterMap Field.property?)))
          (after.filterMap Field.property?) := by
    rw [Assoc.setAll, List.foldl_append, List.foldl_cons]
    rfl
  rw [hset]
  rcases Assoc.get?_setAll (Assoc.set wire f.schema _) (after.filterMap Field.property?) wire with
    ⟨-, hget⟩ | ⟨p, hp, -⟩
  · rw [hget, Assoc.get?_set, if_pos rfl]
  · exact absurd (List.mem_map_of_mem hp) hafter

theorem get?_properties_ofFields_iff :
    Assoc.get? (ofFields fields).properties wire = some p ↔
      ∃ f, LastAs fields wire f ∧ p = f.schema := by
  constructor
  · intro h
    obtain ⟨f, hf⟩ := exists_lastAs (mem_names_ofFields_iff.mp (Assoc.mem_names_of_get? h))
    exact ⟨f, hf, Option.some.inj (h.symm.trans (get?_properties_of_lastAs hf))⟩
  · rintro ⟨f, hf, rfl⟩
    exact get?_properties_of_lastAs hf

theorem mem_required_ofFields_iff :
    wire ∈ (ofFields fields).required ↔ ∃ f ∈ fields, f.SentAs wire ∧ f.Required := by
  simp only [required_ofFields, List.mem_filterMap, Field.requiredName?_eq_some_iff]

/-! ### What is required -/

/-- **An object agrees with fields on what is required:** no name is listed twice, each one is that
of a property, and a property is listed exactly if the field that it describes is required. -/
structure AgreesWith (s : Schema) (fields : List Field) : Prop where
  nodup : s.required.Nodup
  described : ∀ wire ∈ s.required, wire ∈ Assoc.names s.properties
  kept : ∀ wire f, LastAs fields wire f → (wire ∈ s.required ↔ f.Required)

/-- A field that is required is listed, whatever fields come behind it. -/
theorem required_names_described (h : wire ∈ (ofFields fields).required) :
    wire ∈ Assoc.names (ofFields fields).properties := by
  obtain ⟨f, hf, hsent, -⟩ := mem_required_ofFields_iff.mp h
  exact mem_names_ofFields_iff.mpr ⟨f, hf, hsent⟩

/-- **No required field comes before another one of its name.** -/
def Unreplaced (fields : List Field) : Prop :=
  fields.Pairwise fun f g => ∀ wire, f.SentAs wire → g.SentAs wire → ¬ f.Required

/-- Where no required field is replaced, what is listed agrees with the fields. -/
theorem agreesWith_of_unreplaced (h : Unreplaced fields) : (ofFields fields).AgreesWith fields where
  nodup := by
    rw [required_ofFields]
    refine List.Pairwise.filterMap _ (fun f g hfg => ?_) h
    rintro wire hf other hg rfl
    obtain ⟨hsent, hrequired⟩ := Field.requiredName?_eq_some_iff.mp hf
    exact hfg wire hsent (Field.requiredName?_eq_some_iff.mp hg).1 hrequired
  described _ := required_names_described
  kept := by
    intro wire f hlast
    constructor
    · intro hmem
      obtain ⟨g, hg, hsent, hrequired⟩ := mem_required_ofFields_iff.mp hmem
      obtain ⟨before, after, rfl, hsent', hlater⟩ := hlast
      -- The one that is listed is required, so it does not come before `f`, and behind `f` is none.
      rcases List.mem_append.mp hg with hg | hg
      · have hpair := (List.pairwise_append.mp h).2.2 g hg f List.mem_cons_self
        exact absurd hrequired (hpair wire hsent hsent')
      · rcases List.mem_cons.mp hg with rfl | hg
        · exact hrequired
        · exact absurd hsent (hlater g hg)
    · intro hrequired
      obtain ⟨before, after, rfl, hsent, -⟩ := hlast
      exact mem_required_ofFields_iff.mpr
        ⟨f, List.mem_append_right _ List.mem_cons_self, hsent, hrequired⟩

/-- Where it agrees, no required field is replaced: it would be listed twice. -/
theorem unreplaced_of_agreesWith (h : (ofFields fields).AgreesWith fields) : Unreplaced fields := by
  refine List.pairwise_iff_forall_sublist.mpr fun {f g} hsub wire hf hg hrequired => ?_
  obtain ⟨front, rest, rfl, hfront, hrest⟩ := List.cons_sublist_iff.mp hsub
  have hg' : g ∈ rest := List.singleton_sublist.mp hrest
  obtain ⟨last, hlast⟩ := exists_lastAs ⟨g, hg', hg⟩
  -- The last field of the name is required as well, so the name is listed for both of them.
  have hlisted : wire ∈ (ofFields (front ++ rest)).required :=
    mem_required_ofFields_iff.mpr ⟨f, List.mem_append_left _ hfront, hf, hrequired⟩
  have hlast' : last.Required := (h.kept wire last (hlast.append front)).mp hlisted
  have hnodup := h.nodup
  rw [required_ofFields, List.filterMap_append, List.nodup_append] at hnodup
  obtain ⟨before, after, rfl, hsent, -⟩ := hlast
  refine hnodup.2.2 wire ?_ wire ?_ rfl
  · exact List.mem_filterMap.mpr ⟨f, hfront, Field.requiredName?_eq_some_iff.mpr ⟨hf, hrequired⟩⟩
  · exact List.mem_filterMap.mpr ⟨last, List.mem_append_right _ List.mem_cons_self,
      Field.requiredName?_eq_some_iff.mpr ⟨hsent, hlast'⟩⟩

end Schema

namespace Catalog

variable {d : Descriptions} {queries : List Query} {name : String} {s : Schema}

/-- **When a component and its required names go together.**  Whatever was asked for, the component
of a type describes under each name the last field that is sent under it, and all required names are
those of properties.  It agrees with the fields on what is required if and only if no required field
comes before another one of its name. -/
theorem component_agreesWith_iff
    (h : (name, s) ∈ (askAll { descriptions := d } queries).components) :
    (∀ wire p, Assoc.get? s.properties wire = some p ↔
      ∃ f, LastAs (d.documentedFields name) wire f ∧ p = f.schema) ∧
    (∀ wire ∈ s.required, wire ∈ Assoc.names s.properties) ∧
    (s.AgreesWith (d.documentedFields name) ↔ Schema.Unreplaced (d.documentedFields name)) := by
  obtain rfl := eq_component_of_mem_askAll h
  exact ⟨fun _ _ => Schema.get?_properties_ofFields_iff,
    fun _ => Schema.required_names_described,
    ⟨Schema.unreplaced_of_agreesWith, Schema.agreesWith_of_unreplaced⟩⟩

/-- An identifier that is a text. -/
def textId (tag : String) : Field := { name := "ID", type := .string, tags := [("json", tag)] }

/-- An identifier that is a number. -/
def numberId (tag : String) : Field := { name := "Id", type := .integer, tags := [("json", tag)] }

/-- Users that have identifiers of both kinds. -/
def users (first second : String) : Descriptions := ⟨[("User", [textId first, numberId second])]⟩

/-- An optional field in front of a required one of its name. -/
theorem component_agreesWith_users :
    ∃ s, ("User", s) ∈
        (askAll { descriptions := users "id,omitempty" "id" } [.reference "User"]).components ∧
      Assoc.get? s.properties "id" = some (numberId "id").schema ∧ s.required = ["id"] ∧
      s.AgreesWith ((users "id,omitempty" "id").documentedFields "User") := by
  have hmem : ("User", (users "id,omitempty" "id").component "User") ∈
      (askAll { descriptions := users "id,omitempty" "id" } [.reference "User"]).components :=
    component_mem_askAll (by decide)
  obtain ⟨hproperties, -, hagrees⟩ := component_agreesWith_iff hmem
  have hlast : LastAs ((users "id,omitempty" "id").documentedFields "User") "id" (numberId "id") :=
    ⟨[textId "id,omitempty"], [], rfl, by decide, nofun⟩
  refine ⟨_, hmem, (hproperties "id" _).mpr ⟨_, hlast, rfl⟩, by decide, hagrees.mpr ?_⟩
  exact List.pairwise_pair.mpr fun _ _ _ => by decide

/-- **A field that is replaced stays required.**  If both fields of a name are required it is listed
twice, and if the second one is optional it is listed all the same. -/
theorem replaced_field_stays_required :
    (∃ s, ("User", s) ∈
        (askAll { descriptions := users "id" "id" } [.reference "User"]).components ∧
      s.required = ["id", "id"] ∧
      ¬ s.AgreesWith ((users "id" "id").documentedFields "User")) ∧
    ∃ s, ("User", s) ∈
        (askAll { descriptions := users "id" "id,omitempty" } [.reference "User"]).components ∧
      s.required = ["id"] ∧
      Assoc.get? s.properties "id" = some (numberId "id,omitempty").schema ∧
      ¬ s.AgreesWith ((users "id" "id,omitempty").documentedFields "User") := by
  constructor
  · refine ⟨(users "id" "id").component "User", component_mem_askAll (by decide), by decide, ?_⟩
    intro hagrees
    exact absurd hagrees.nodup (by decide)
  · have hlast : LastAs ((users "id" "id,omitempty").documentedFields "User") "id"
        (numberId "id,omitempty") := ⟨[textId "id"], [], rfl, by decide, nofun⟩
    refine ⟨(users "id" "id,omitempty").component "User", component_mem_askAll (by decide),
      by decide, Schema.get?_properties_of_lastAs hlast, fun hagrees => ?_⟩
    exact absurd ((hagrees.kept "id" _ hlast).mp (by decide)) (by decide)

end Catalog

end Callpoint
