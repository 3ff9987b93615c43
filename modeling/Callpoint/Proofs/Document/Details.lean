import Callpoint.Proofs.Document.KeptResponses
import Callpoint.Proofs.Document.ReservedNames
import Callpoint.Proofs.Schema.Lowering

/-!
# Details as bodies

Where the errors under a status have details of one type, their response refers to the component of
the bare name of that type.  As a body the same type is lowered by its full name, so a list of users
is an array of references to users, while details of that type refer to a component of their own.
The two agree exactly for types that are known by their own name (`details_like_bodies_iff`), which
of all the types that can be put together are those of a program's own
(`namesItself_fullName_iff`).
-/

namespace Callpoint

/-! ### Types known by their own name -/

namespace FieldType

/-- **A type is known by its own name:** pointers apart, its field type is a name, and this is the
bare name of the type. -/
def NamesItself (fullName : String) : Prop :=
  (ofTypeName fullName).resolved = .named (bareName fullName)

/-- A name that a field type comes down to is bare. -/
def NamesBare (type : FieldType) : Prop :=
  ∀ name, type.resolved = .named name → bareName name = name

theorem namesBare_ofName (full : String) : NamesBare (ofName full) := by
  intro name h
  obtain rfl : bareName full = name := FieldType.named.inj h
  exact bareName_bareName full

theorem namesBare_leafOf (full head : List Char) (base : String) :
    NamesBare (leafOf full head base) := by
  unfold leafOf
  repeat' split
  all_goals first
    | exact namesBare_ofName _
    | exact fun _ h => nomatch h

/-- A name that is a whole layer stands bare. -/
theorem namesBare_layerOfName {full : List Char} {type : FieldType}
    (h : layerOfName full = .whole type) : NamesBare type := by
  obtain ⟨head, arg, hcut⟩ : ∃ head arg, headAndArg full = (head, arg) := ⟨_, _, rfl⟩
  rw [layerOfName_of_cut hcut String.toList_ofList.symm] at h
  split at h
  · -- Without an argument it is a list of maps.
    cases arg <;> cases h
    exact fun _ h => nomatch h
  · split at h
    · cases arg <;> cases h
      exact fun _ h => nomatch h
    · cases h
      exact namesBare_leafOf _ _ _

theorem namesBare_layerOf {full : List Char} {type : FieldType}
    (h : layerOf full = .whole type) : NamesBare type := by
  change layerBehindMark _ = _ at h
  unfold layerBehindMark at h
  split at h
  · cases h
  · exact namesBare_layerOfName h

/-- Names in field types of full names are bare. -/
theorem namesBare_lower (full : List Char) : NamesBare (lower full) := by
  fun_induction lower full with
  | case1 full type hlayer => exact namesBare_layerOf hlayer
  | case2 full inner hlayer ih => exact ih
  | case3 full element hlayer ih => exact fun _ h => nomatch h

end FieldType

namespace TypeExpr

open FieldType

/-- A type of a program's own, with arguments or without. -/
def IsUser (t : TypeExpr) : Prop := ∃ path args, t = .user path args

theorem toList_bareName_fullName (t : TypeExpr) :
    (bareName t.fullName).toList = TypeName.bareFrom [] t.text := by
  rw [bareName, fullName, String.toList_ofList, String.toList_ofList]

/-- The bare name of a path with arguments has those of the arguments inside. -/
theorem length_bareFrom_lt (path args : List Char) :
    (TypeName.bareFrom [] args).length < (TypeName.bareFrom [] (appliedTo path args)).length := by
  have hopen : TypeName.isPathChar '<' = false := by decide
  have hclose : TypeName.isPathChar '>' = false := by decide
  rw [appliedTo, TypeName.bareFrom_append_cons hopen, TypeName.bareFrom_append_cons hclose]
  simp only [List.length_append, List.length_cons]
  omega

/-- A name that a type comes down to is that of a type of a program's own: of the type itself, or of
one inside it, whose name is shorter. -/
theorem isUser_or_length_lt {name : String} : (t : TypeExpr) →
    t.fieldType.resolved = .named name →
    (t.IsUser ∧ name = bareName t.fullName) ∨
      name.toList.length < (TypeName.bareFrom [] t.text).length
  | .user path args, h => .inl ⟨⟨path, args, rfl⟩, (FieldType.named.inj h).symm⟩
  | .reference t, h => .inr <| by
    have hmark : TypeName.bareFrom [] (reference t).text = '&' :: TypeName.bareFrom [] t.text :=
      bareFrom_behindMarks 1 t.text
    rw [hmark, List.length_cons]
    -- The type inside is the one that is named, or it has one inside it that is.
    rcases isUser_or_length_lt t h with ⟨-, rfl⟩ | hlt
    · rw [toList_bareName_fullName]
      exact Nat.lt_succ_self _
    · exact Nat.lt_succ_of_lt hlt
  | .wrapper type t, h => .inr <| by
    refine Nat.lt_of_le_of_lt ?_ (length_bareFrom_lt type.path.text t.text)
    rcases isUser_or_length_lt t h with ⟨-, rfl⟩ | hlt
    · exact Nat.le_of_eq (congrArg List.length (toList_bareName_fullName t))
    · exact Nat.le_of_lt hlt
  | .primitive p, h => by
    cases p <;> cases h
  | .string, h => nomatch h
  | .sequence _ _, h | .map _ _ _, h | .slice _, h | .array _ _, h => nomatch h

/-- **Of all types that keep their structure, those of a program's own are known by their name.** -/
theorem namesItself_fullName_iff {t : TypeExpr} (hlegible : t.Legible)
    (hfaithful : t.FaithfulBehind 0) : NamesItself t.fullName ↔ t.IsUser := by
  rw [NamesItself, ofTypeName_fullName hlegible hfaithful]
  constructor
  · intro h
    rcases isUser_or_length_lt t h with ⟨huser, -⟩ | hlt
    · exact huser
    · rw [toList_bareName_fullName] at hlt
      exact absurd hlt (Nat.lt_irrefl _)
  · rintro ⟨path, args, rfl⟩
    rfl

end TypeExpr

namespace Schema

theorem component_inj {name other : String} :
    Schema.component name = .component other ↔ name = other := by
  rw [← @componentPath_append_inj name other]
  exact ⟨fun h => Option.some.inj (congrArg Schema.reference h), fun h => by rw [component, h]; rfl⟩

/-- A reference to a component is the schema of a field type that comes down to its name. -/
theorem component_eq_ofFieldType_iff {name : String} : (t : FieldType) →
    (Schema.component name = .ofFieldType t ↔
      ∃ inner, t.resolved = .named inner ∧ bareName inner = name)
  | .pointer inner => component_eq_ofFieldType_iff inner
  | .named inner => by
    rw [ofFieldType, component_inj, eq_comm]
    exact ⟨fun h => ⟨inner, rfl, h⟩, fun ⟨other, hother, h⟩ => FieldType.named.inj hother ▸ h⟩
  | .string | .integer | .number | .boolean | .dateTime | .array _ | .map =>
    iff_of_false (fun h => nomatch congrArg Schema.reference h) fun ⟨_, h, _⟩ => nomatch h

end Schema

/-- **What an operation says of the details under a status:** the schema that its response adds to
that of the errors for them. -/
def Operation.DescribesDetails (op : Operation) (status : Nat) (s : Schema) : Prop :=
  ∃ answer mediaType media whole part,
    Assoc.get? op.responses (toString status) = some answer ∧
    (mediaType, media) ∈ answer.content ∧ media.schema = some whole ∧ part ∈ whole.allOf ∧
    Assoc.get? part.properties "details" = some s

namespace Document

variable {outline : Outline} {descriptions : Descriptions} {specs : List Spec} {doc : Document}
  {bearer : Option String} {spec : Spec} {status : Nat} {fullName : String} {s : Schema}

/-- **The errors under a status have details of one type:** at least one of them, and none has
details of another type. -/
def RecordsOnly (spec : Spec) (status : Nat) (fullName : String) : Prop :=
  (∃ e ∈ documentedErrors spec, e.status = status ∧ e.detailsType = some fullName) ∧
    ∀ e ∈ documentedErrors spec, e.status = status →
      ∀ other, e.detailsType = some other → other = fullName

/-- **What a document says of a type as a body:** of the request that an endpoint takes, or of what
one answers when it succeeds, as events or at once. -/
inductive DescribesBody (doc : Document) (specs : List Spec) (fullName : String) (s : Schema) : Prop
  | request {spec : Spec} {op : Operation} {body : RequestContent} {mediaType : String}
      {media : MediaType} (hspec : spec ∈ specs) (htype : spec.input = ⟨fullName, false⟩)
      (hop : doc.operation? spec.method spec.path = some op) (hbody : op.requestBody = some body)
      (hmedia : (mediaType, media) ∈ body.content) (hs : media.schema = some s)
  | response {spec : Spec} {op : Operation} {answer : ResponseContent} {mediaType : String}
      {media : MediaType} (hspec : spec ∈ specs) (htype : spec.output = ⟨fullName, false⟩)
      (hop : doc.operation? spec.method spec.path = some op)
      (hanswer : Assoc.get? op.responses (toString spec.successStatus) = some answer)
      (hsuccess : answer.DescribesSuccess spec) (hmedia : (mediaType, media) ∈ answer.content)
      (hs : media.schema = some s)

/-! ### What is said of details -/

theorem squeeze_of_forall_eq {names : List String} {name : String} (hne : names ≠ [])
    (h : ∀ other ∈ names, other = name) : squeeze names = [name] := by
  induction names with
  | nil => exact absurd rfl hne
  | cons a rest ih =>
    cases rest with
    | nil =>
      rw [h a List.mem_cons_self]
      rfl
    | cons b rest =>
      have hab : a = b := (h a (by simp)).trans (h b (by simp)).symm
      rw [squeeze, if_pos hab]
      exact ih nofun fun other hother => h other (List.mem_cons_of_mem _ hother)

/-- Errors whose details are of one type have the bare name of it for their details. -/
theorem detailsName?_of_recordsOnly {group : List Definition} (h : RecordsOnly spec status fullName)
    (hgroup : (status, group) ∈ errorGroups spec) :
    detailsName? group = some (bareName fullName) := by
  -- The group is all that is documented under the status.
  have hmem : ∀ e, e ∈ group ↔ e ∈ documentedErrors spec ∧ e.status = status := fun e => by
    rw [eq_filter_of_mem_errorGroups hgroup, List.mem_filter, beq_iff_eq]
  obtain ⟨⟨e, he, hstatus, htype⟩, honly⟩ := h
  have hne : group.filterMap Definition.detailsName ≠ [] := by
    have hname : e.detailsName = some (bareName fullName) := by
      rw [Definition.detailsName, htype, Option.map_some]
    exact List.ne_nil_of_mem (List.mem_filterMap.mpr ⟨e, (hmem e).mpr ⟨he, hstatus⟩, hname⟩)
  have hall : ∀ name ∈ group.filterMap Definition.detailsName, name = bareName fullName := by
    intro name hname
    obtain ⟨other, hother, hname⟩ := List.mem_filterMap.mp hname
    obtain ⟨type, htype, rfl⟩ := Option.map_eq_some_iff.mp hname
    obtain ⟨hdocumented, hstatus⟩ := (hmem other).mp hother
    rw [honly other hdocumented hstatus type htype]
  rw [detailsName?, squeeze_of_forall_eq hne hall]

/-- Details of one type refer to the component of its bare name. -/
theorem describesDetails_iff (h : RecordsOnly spec status fullName) :
    (operation bearer spec).DescribesDetails status s ↔ s = .component (bareName fullName) := by
  obtain ⟨e, he, hstatus, -⟩ := h.1
  rcases get?_responses spec status with ⟨hnone, -⟩ | ⟨-, group, hgroup, hget⟩
  · exact absurd ⟨e, he, hstatus⟩ hnone
  have hschema : groupSchema group = { allOf := [.component errorComponent,
      Schema.object.withProperty "details" (.component (bareName fullName))] } := by
    rw [groupSchema, detailsName?_of_recordsOnly h hgroup]
    simp only [bareName_bareName]
  constructor
  -- Of the two parts only the second has a property for details.
  · rintro ⟨answer, mediaType, media, whole, part, hanswer, hmedia, hwhole, hpart, hs⟩
    obtain rfl := Option.some.inj (hanswer.symm.trans hget)
    rw [eq_of_mem_content hmedia hwhole, hschema] at hpart
    rcases List.mem_pair.mp hpart with rfl | rfl
    · cases hs
    · exact (Option.some.inj hs).symm
  · rintro rfl
    refine ⟨_, _, _, groupSchema group,
      Schema.object.withProperty "details" (.component (bareName fullName)), hget,
      List.mem_cons_self, rfl, ?_, rfl⟩
    rw [hschema]
    exact List.mem_pair.mpr (.inr rfl)

/-! ### What is said of bodies -/

/-- Bodies are described by the schema of their type. -/
theorem eq_typeSchema_of_describesBody (h : build outline descriptions specs = .ok doc)
    (hbody : DescribesBody doc specs fullName s) : s = typeSchema ⟨fullName, false⟩ := by
  cases hbody with
  | request hspec htype hop hbody hmedia hs =>
    obtain rfl := Option.some.inj ((operation?_of_build h hspec).symm.trans hop)
    simp only [operation, htype, Bool.false_eq_true, if_false, Option.some.injEq] at hbody
    subst hbody
    exact eq_of_mem_content hmedia hs
  | @response spec _ _ _ _ hspec htype hop hanswer hsuccess hmedia hs =>
    -- The type is no placeholder, so the answer has a body, in a stream as one of its events.
    have hplace : spec.output.placeholder = false := by rw [htype]
    cases hstreaming : spec.streaming with
    | true =>
      rw [hsuccess.events hstreaming hplace, htype] at hmedia
      exact eq_of_mem_content hmedia hs
    | false =>
      rw [hsuccess.body hstreaming hplace, htype] at hmedia
      exact eq_of_mem_content hmedia hs

/-! ### Both -/

/-- **When a type is documented alike as details and as a body.**  In a document that was built,
details of one type are described, and what is said of them equals what is said of the type as a
body of any endpoint exactly if the type is known by its own name. -/
theorem details_like_bodies_iff (h : build outline descriptions specs = .ok doc)
    (hspec : spec ∈ specs) (hdetails : RecordsOnly spec status fullName) :
    ∃ op, doc.operation? spec.method spec.path = some op ∧
      (∃ details, op.DescribesDetails status details) ∧
      ∀ details body, op.DescribesDetails status details → DescribesBody doc specs fullName body →
        (details = body ↔ FieldType.NamesItself fullName) := by
  refine ⟨_, operation?_of_build h hspec, ⟨_, (describesDetails_iff hdetails).mpr rfl⟩, ?_⟩
  intro details body hdescribes hbody
  obtain rfl := (describesDetails_iff hdetails).mp hdescribes
  obtain rfl := eq_typeSchema_of_describesBody h hbody
  rw [typeSchema, Schema.component_eq_ofFieldType_iff]
  constructor
  · rintro ⟨inner, hinner, hname⟩
    rw [FieldType.NamesItself, hinner, ← hname, FieldType.namesBare_lower _ inner hinner]
  · exact fun hitself => ⟨_, hitself, bareName_bareName fullName⟩

/-- An endpoint that takes a type and has an error with details of that type. -/
def rejects (fullName : String) : Spec :=
  let taken : Definition := { code := "TAKEN", status := 409, message := "name is taken" }
  .build "create" "POST" "/users"
    [.types ⟨fullName, false⟩ .noBody, .error ⟨taken.documenting fullName, []⟩]

theorem recordsOnly_rejects (fullName : String) : RecordsOnly (rejects fullName) 409 fullName := by
  refine ⟨⟨_, List.mem_cons_self, rfl, rfl⟩, fun e he hstatus other hother => ?_⟩
  rcases List.mem_cons.mp he with rfl | he
  · exact (Option.some.inj hother).symm
  · -- No error that a service answers by itself has this status.
    have hservice := serviceError_of_mem_implicitErrors (List.mem_filter.mp he).1
    cases hservice <;> exact absurd hstatus (by decide)

theorem describesBody_rejects {fullName : String}
    (h : build outline descriptions [rejects fullName] = .ok doc) :
    DescribesBody doc [rejects fullName] fullName (typeSchema ⟨fullName, false⟩) :=
  .request List.mem_cons_self rfl (operation?_of_build h List.mem_cons_self) rfl
    List.mem_cons_self rfl

/-- A user is documented alike as the details of an error and as a body. -/
theorem details_like_bodies_user :
    ∃ doc, build { info := ⟨"Users", "1", none⟩ } ⟨[]⟩ [rejects "app::User"] = .ok doc ∧
      ∃ op s, doc.operation? "POST" "/users" = some op ∧ op.DescribesDetails 409 s ∧
        DescribesBody doc [rejects "app::User"] "app::User" s := by
  refine Exists.imp (fun doc h => ⟨h, ?_⟩) ⟨_, rfl⟩
  have hitself : FieldType.NamesItself "app::User" :=
    (TypeExpr.namesItself_fullName_iff (t := .user TypeExpr.userPath []) trivial
      ⟨by decide, by decide⟩).mpr ⟨_, _, rfl⟩
  have hbody := describesBody_rejects h
  obtain ⟨op, hop, ⟨details, hdetails⟩, halike⟩ :=
    details_like_bodies_iff h List.mem_cons_self (recordsOnly_rejects "app::User")
  exact ⟨op, details, hop, hdetails, (halike _ _ hdetails hbody).mpr hitself ▸ hbody⟩

/-- A list of users is an array as a body, but has a component of its own as the details of an
error. -/
theorem details_unlike_bodies_list : ∃ doc,
    build { info := ⟨"Users", "1", none⟩ } ⟨[]⟩ [rejects "alloc::vec::Vec<app::User>"] = .ok doc ∧
      ∃ op, doc.operation? "POST" "/users" = some op ∧
        op.DescribesDetails 409 (.component "Vec<User>") ∧
        DescribesBody doc [rejects "alloc::vec::Vec<app::User>"] "alloc::vec::Vec<app::User>"
          (.array (.component "User")) := by
  refine Exists.imp (fun doc h => ⟨h, ?_⟩) ⟨_, rfl⟩
  have htype : FieldType.ofTypeName "alloc::vec::Vec<app::User>" = .array (.named "User") :=
    TypeExpr.ofTypeName_fullName (t := .sequence .vec (.user TypeExpr.userPath []))
      ⟨trivial, trivial⟩ ⟨by decide, by decide⟩
  have hbody := describesBody_rejects h
  rw [typeSchema, htype] at hbody
  refine ⟨_, operation?_of_build h List.mem_cons_self, ?_, hbody⟩
  exact (describesDetails_iff (recordsOnly_rejects _)).mpr rfl

end Document

end Callpoint
