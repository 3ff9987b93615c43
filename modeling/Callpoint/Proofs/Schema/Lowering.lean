import Callpoint.Proofs.Schema.TypeText

/-!
# Lowering full names

Lowering reads a full name from outside: it drops one reference mark, cuts off what stands between
brackets, and looks at the last segment of the path in front of it.  Where it finds a type built as
the name says, the field type follows the structure of the type (`TypeExpr.fieldType`).

Two things come between.  An array is cut at its first semicolon, and an argument at the first comma
outside of brackets, so semicolons inside an element and brackets in a constant lead astray: a name
free of them is `TypeExpr.Legible`.  And of several reference marks in a row all but one stay part
of the name.  `ofTypeName_eq_fieldType_iff` says that a legible name is lowered by its structure
exactly when nothing that needs its whole name to be known stands behind two marks.
-/

namespace Callpoint

open Callpoint.Text FieldType

/-! ### One layer -/

namespace FieldType

variable {full head : List Char} {arg : Option (List Char)} {base : String}

/-- The outermost layer of a text that has no blanks and no reference mark to drop. -/
def layerBehindMark (full : List Char) : Layer :=
  match enclosed? '[' ']' full with
  | some elements => .arrayOf (elements.takeWhile (· != ';'))
  | none => layerOfName full

/-- To look at a solid text drops one of its marks and no more. -/
theorem layerOf_behindMarks (h : Solid full) (marks : Nat) :
    layerOf (behindMarks marks full) = layerBehindMark (behindMarks (marks - 1) full) := by
  show layerBehindMark (stripReference (trim (behindMarks marks full))) = _
  rw [trim_behindMarks h, stripReference_behindMarks h]

theorem layerBehindMark_of_enclosed?_eq_none (h : enclosed? '[' ']' full = none) :
    layerBehindMark full = layerOfName full := by
  rw [layerBehindMark, h]

theorem lower_of_whole {type : FieldType} (h : layerOf full = .whole type) :
    lower full = type := by
  rw [lower]
  split <;> simp_all

theorem lower_of_pointerTo {inner : List Char} (h : layerOf full = .pointerTo inner) :
    lower full = .pointer (lower inner) := by
  rw [lower]
  split <;> simp_all

theorem lower_of_arrayOf {element : List Char} (h : layerOf full = .arrayOf element) :
    lower full = .array (lower element) := by
  rw [lower]
  split <;> simp_all

/-! ### Names -/

/-- Of a name that was cut, the last segment alone tells what its layer is. -/
theorem layerOfName_of_cut (hcut : headAndArg full = (head, arg))
    (hbase : TypeName.lastSegment head = base.toList) :
    layerOfName full =
      if sequenceNames.contains base then arg.elim (.whole (.array .map)) .arrayOf
      else if wrapperNames.contains base then arg.elim (.whole (.pointer .map)) .pointerTo
      else .whole (leafOf full head base) := by
  simp only [layerOfName, hcut, hbase, String.ofList_toList]

/-- A name without a meaning of its own stands for itself. -/
theorem layerOfName_of_unknown (hcut : headAndArg full = (head, arg))
    (hbase : TypeName.lastSegment head = base.toList) (hunknown : base ∉ knownNames)
    (hfree : ¬ (base = "Value" ∧ freeFormPath.toList <+: head)) :
    layerOfName full = .whole (ofName (String.ofList full)) := by
  simp only [knownNames, List.mem_append, not_or] at hunknown
  obtain ⟨⟨⟨⟨⟨⟨htext, hinteger⟩, hothers⟩, hdate⟩, hsequence⟩, hwrapper⟩, hmap⟩ := hunknown
  simp only [List.mem_cons, List.not_mem_nil, or_false, not_or] at hothers
  have hnamed : base = "Value" → freeFormPath.toList <+: head →
      FieldType.map = ofName (String.ofList full) := fun hvalue hprefix =>
    absurd ⟨hvalue, hprefix⟩ hfree
  rw [layerOfName_of_cut hcut hbase]
  simpa [leafOf, htext, hinteger, hothers, hdate, hsequence, hwrapper, hmap] using hnamed

theorem not_mem_knownNames_of_mark {cs : List Char} (h : base.toList = '&' :: cs) :
    base ∉ knownNames := fun hknown => by
  have hmarks : ∀ name ∈ knownNames, name.toList.head? ≠ some '&' := by decide
  exact hmarks base hknown (by rw [h]; rfl)

/-! ### Paths behind marks -/

section

variable {path : List Char} {marks : Nat}

/-- What lies in front of a path with or without arguments is decided by its last segment. -/
theorem layerOf_headed (hpath : IsPath path) (args : Option (List Char))
    (hbase : TypeName.lastSegment (behindMarks (marks - 1) path) = base.toList) :
    layerOf (behindMarks marks (headed path args)) =
      if sequenceNames.contains base then
        (args.bind (firstArgFrom 0 [])).elim (.whole (.array .map)) .arrayOf
      else if wrapperNames.contains base then
        (args.bind (firstArgFrom 0 [])).elim (.whole (.pointer .map)) .pointerTo
      else .whole (leafOf (behindMarks (marks - 1) (headed path args))
        (behindMarks (marks - 1) path) base) := by
  rw [layerOf_behindMarks (solid_headed hpath args),
    layerBehindMark_of_enclosed?_eq_none (enclosed?_headed hpath _ _),
    layerOfName_of_cut (headAndArg_headed hpath _ _) hbase]

/-- A path whose last segment is not known stands for itself, with all that is left of its marks. -/
theorem layerOf_headed_of_unknown (hpath : IsPath path) (args : Option (List Char))
    (hbase : TypeName.lastSegment (behindMarks (marks - 1) path) = base.toList)
    (hunknown : base ∉ knownNames)
    (hfree : ¬ (base = "Value" ∧ freeFormPath.toList <+: behindMarks (marks - 1) path)) :
    layerOf (behindMarks marks (headed path args))
      = .whole (ofName (String.ofList (behindMarks (marks - 1) (headed path args)))) := by
  rw [layerOf_behindMarks (solid_headed hpath args),
    layerBehindMark_of_enclosed?_eq_none (enclosed?_headed hpath _ _),
    layerOfName_of_unknown (headAndArg_headed hpath _ _) hbase hunknown hfree]

/-- Marks stay in front of the modules, so the last segment of a library path has none. -/
theorem lastSegment_library (p : LibraryPath) (marks : Nat) :
    TypeName.lastSegment (behindMarks marks p.text) = p.name.toList := by
  have hsplit : behindMarks marks p.text
      = behindMarks marks p.modules.toList ++ ':' :: ':' :: p.name.toList := by
    simp only [behindMarks, LibraryPath.text, List.append_assoc]
  rw [hsplit, TypeName.lastSegment_behind _ p.name_plain]

end

/-- A sequence is an array behind any number of marks, and its element behind none. -/
theorem lower_sequence (type : SequenceType) {t : TypeExpr} (h : t.Unmarked) (marks : Nat) :
    lower (behindMarks marks (TypeExpr.sequence type t).text) = .array (lower t.text) := by
  refine lower_of_arrayOf ((layerOf_headed type.path.isPath (some t.text)
    (lastSegment_library _ _)).trans ?_)
  rw [Option.bind_some, firstArgFrom_text h]
  cases type <;> rfl

/-- A wrapper is a pointer behind any number of marks. -/
theorem lower_wrapper (type : WrapperType) {t : TypeExpr} (h : t.Unmarked) (marks : Nat) :
    lower (behindMarks marks (TypeExpr.wrapper type t).text) = .pointer (lower t.text) := by
  refine lower_of_pointerTo ((layerOf_headed type.path.isPath (some t.text)
    (lastSegment_library _ _)).trans ?_)
  rw [Option.bind_some, firstArgFrom_text h]
  cases type <;> rfl

theorem lower_map (type : MapType) (k v : TypeExpr) (marks : Nat) :
    lower (behindMarks marks (TypeExpr.map type k v).text) = .map := by
  refine lower_of_whole ((layerOf_headed type.path.isPath (some _)
    (lastSegment_library _ _)).trans ?_)
  cases type <;> rfl

/-- The owned text is known by its last segment, so behind any number of marks. -/
theorem lower_string (marks : Nat) :
    lower (behindMarks marks TypeExpr.string.text) = .string :=
  lower_of_whole (layerOf_headed stringPath.isPath none (lastSegment_library _ _))

/-! ### Names behind marks -/

section

variable {marks : Nat} {cs : List Char}

/-- Reference marks stay in a bare name. -/
theorem bareFrom_behindMarks (marks : Nat) (cs : List Char) :
    TypeName.bareFrom [] (behindMarks marks cs) = behindMarks marks (TypeName.bareFrom [] cs) := by
  induction marks with
  | zero => rfl
  | succ marks ih =>
    have hmark : TypeName.isPathChar '&' = false := by decide
    rw [behindMarks_succ, behindMarks_succ, ← ih]
    exact TypeName.bareFrom_append_cons hmark [] [] _

/-- Marks in front of a name make it another name. -/
theorem ofName_behindMarks_eq_iff :
    ofName (String.ofList (behindMarks marks cs)) = ofName (String.ofList cs) ↔ marks = 0 := by
  constructor
  · intro h
    simp only [ofName, bareName, String.toList_ofList, bareFrom_behindMarks, FieldType.named.injEq,
      String.ofList_inj] at h
    -- The bare names would be equal, and so their lengths.
    have hlength := congrArg List.length h
    simpa [behindMarks] using hlength
  · rintro rfl
    rfl

/-- Without a separator the last segment is everything, marks included. -/
theorem lastSegment_behindMarks_of_not_mem (h : ':' ∉ cs) :
    TypeName.lastSegment (behindMarks marks cs) = behindMarks marks cs :=
  TypeName.lastSegment_of_not_mem (by simp [behindMarks, h])

/-- A text behind a mark without a separator is not known, however it goes on. -/
theorem not_mem_knownNames_behindMarks :
    String.ofList (behindMarks (marks + 1) cs) ∉ knownNames :=
  not_mem_knownNames_of_mark String.toList_ofList

/-- Nor can a mark begin the path of free-form values. -/
theorem not_freeForm_behindMarks : ¬ freeFormPath.toList <+: behindMarks (marks + 1) cs := by
  rintro ⟨rest, hrest⟩
  exact absurd (congrArg List.head? hrest) (by simp [freeFormPath, behindMarks_succ])

end

end FieldType

/-! ### Primitives -/

namespace Primitive

theorem colon_not_mem_name (p : Primitive) : ':' ∉ p.name.toList := by
  cases p with
  | integer signed width => cases signed <;> cases width <;> decide
  | float double => cases double <;> decide
  | _ => decide

theorem leafOf_name (p : Primitive) (full head : List Char) :
    leafOf full head p.name = p.fieldType := by
  cases p with
  | integer signed width => cases signed <;> cases width <;> rfl
  | float double => cases double <;> rfl
  | _ => rfl

/-- Behind one mark at most a primitive is seen by its name. -/
theorem layerOf_name (p : Primitive) {marks : Nat} (h : marks ≤ 1) :
    layerOf (behindMarks marks p.name.toList) = .whole p.fieldType := by
  have hzero : marks - 1 = 0 := Nat.sub_eq_zero_of_le h
  have hbase : TypeName.lastSegment (behindMarks (marks - 1) p.name.toList) = p.name.toList := by
    rw [hzero, lastSegment_behindMarks_of_not_mem p.colon_not_mem_name, behindMarks_zero]
  have hplain : p.name ∉ sequenceNames ∧ p.name ∉ wrapperNames := by
    cases p with
    | integer signed width => cases signed <;> cases width <;> decide
    | float double => cases double <;> decide
    | _ => decide
  refine (layerOf_headed p.isPath_name none hbase).trans ?_
  rw [if_neg (by simpa using hplain.1), if_neg (by simpa using hplain.2), leafOf_name]

/-- A primitive is known by its whole name, which a second mark changes. -/
theorem lower_iff (p : Primitive) (marks : Nat) :
    lower (behindMarks marks (TypeExpr.primitive p).text) = p.fieldType ↔ marks ≤ 1 := by
  refine ⟨fun h => Nat.le_of_not_lt fun hmarks => ?_, fun h => lower_of_whole (p.layerOf_name h)⟩
  -- Of two marks one is left in front of the name, which is then nobody's.
  obtain ⟨k, hk⟩ : ∃ k, marks - 1 = k + 1 := ⟨marks - 2, by omega⟩
  have hbase : TypeName.lastSegment (behindMarks (marks - 1) p.name.toList)
      = (String.ofList (behindMarks (k + 1) p.name.toList)).toList := by
    rw [hk, lastSegment_behindMarks_of_not_mem p.colon_not_mem_name, String.toList_ofList]
  have hnamed := lower_of_whole (layerOf_headed_of_unknown p.isPath_name none hbase
    not_mem_knownNames_behindMarks fun hfree => not_freeForm_behindMarks (hk ▸ hfree.2))
  have hkind : ∀ name, p.fieldType ≠ .named name := by cases p <;> exact fun _ => nofun
  exact hkind _ (h.symm.trans hnamed)

end Primitive

/-! ### Types of a program's own -/

namespace UserPath

/-- The last segment of a path behind marks is not a known name. -/
theorem exists_base (p : UserPath) (marks : Nat) :
    ∃ base : String, TypeName.lastSegment (behindMarks marks p.text) = base.toList ∧
      base ∉ knownNames ∧ (marks = 0 → base = p.name) := by
  rcases p.text_cases with h | ⟨pre, h⟩
  · cases marks with
    | zero => exact ⟨p.name, p.lastSegment_text, p.name_unknown, fun _ => rfl⟩
    | succ marks =>
      refine ⟨String.ofList (behindMarks (marks + 1) p.text), ?_, not_mem_knownNames_behindMarks,
        fun hzero => nomatch hzero⟩
      rw [lastSegment_behindMarks_of_not_mem (h ▸ p.colon_not_mem_name), String.toList_ofList]
  · refine ⟨p.name, ?_, p.name_unknown, fun _ => rfl⟩
    have hsplit : behindMarks marks p.text
        = behindMarks marks pre ++ ':' :: ':' :: p.name.toList := by
      rw [h, behindMarks, behindMarks, List.append_assoc]
    rw [hsplit, TypeName.lastSegment_behind _ p.colon_not_mem_name]

variable {args : Option (List Char)}

/-- The path of free-form values is recognised where no mark is left. -/
theorem lower_of_isFreeForm (p : UserPath) {marks : Nat} (hmarks : marks ≤ 1)
    (h : p.IsFreeForm) : lower (behindMarks marks (headed p.text args)) = .map := by
  have hzero : marks - 1 = 0 := Nat.sub_eq_zero_of_le hmarks
  have hbase : TypeName.lastSegment (behindMarks (marks - 1) p.text) = "Value".toList := by
    rw [hzero, behindMarks_zero, p.lastSegment_text, h.1]
  refine lower_of_whole ((layerOf_headed p.isPath_text _ hbase).trans ?_)
  simp [leafOf, hzero, behindMarks_zero, h.2, sequenceNames, wrapperNames, textNames, integerNames,
    dateTimeNames, mapNames]

/-- Any other path of a program's own stands for itself. -/
theorem lower_of_named (p : UserPath) {marks : Nat} (h : marks ≤ 1 → ¬ p.IsFreeForm) :
    lower (behindMarks marks (headed p.text args))
      = ofName (String.ofList (behindMarks (marks - 1) (headed p.text args))) := by
  obtain ⟨base, hbase, hunknown, hname⟩ := p.exists_base (marks - 1)
  refine lower_of_whole (layerOf_headed_of_unknown p.isPath_text _ hbase hunknown fun hfree => ?_)
  -- It must not be the path of free-form values, which no mark in front can be.
  cases hk : marks - 1 with
  | zero =>
    rw [hk, behindMarks_zero] at hfree
    exact h (Nat.sub_eq_zero_iff_le.mp hk) ⟨hname hk ▸ hfree.1, hfree.2⟩
  | succ k =>
    rw [hk] at hfree
    exact not_freeForm_behindMarks hfree.2

/-- A type of a program's own goes by its whole name, which a second mark changes. -/
theorem lower_iff (p : UserPath) (marks : Nat) :
    lower (behindMarks marks (headed p.text args)) = ofName (String.ofList (headed p.text args))
      ↔ marks ≤ 1 ∧ ¬ p.IsFreeForm := by
  constructor
  · intro h
    -- A free-form value is a map, and a map is no name.
    have hfree : ¬ (marks ≤ 1 ∧ p.IsFreeForm) := fun hfree => by
      rw [p.lower_of_isFreeForm hfree.1 hfree.2] at h
      exact nomatch h
    rw [p.lower_of_named fun hmarks hform => hfree ⟨hmarks, hform⟩, ofName_behindMarks_eq_iff,
      Nat.sub_eq_zero_iff_le] at h
    exact ⟨h, fun hform => hfree ⟨h, hform⟩⟩
  · rintro ⟨hmarks, hfree⟩
    rw [p.lower_of_named fun _ => hfree, ofName_behindMarks_eq_iff]
    exact Nat.sub_eq_zero_of_le hmarks

end UserPath

/-! ### Brackets -/

namespace FieldType

variable {marks : Nat}

/-- Between brackets stands an element, up to the first semicolon. -/
theorem layerOf_bracketed (inner : List Char) (h : marks ≤ 1) :
    layerOf (behindMarks marks ('[' :: (inner ++ [']'])))
      = .arrayOf (inner.takeWhile (· != ';')) := by
  rw [layerOf_behindMarks (solid_bracketed inner), Nat.sub_eq_zero_of_le h, behindMarks_zero,
    layerBehindMark, enclosed?_enclosing]

/-- Behind a second mark the brackets no longer enclose the whole text. -/
theorem layerOf_bracketed_behind (inner : List Char) (h : 1 < marks) :
    ∃ name, layerOf (behindMarks marks ('[' :: (inner ++ [']']))) = .whole (.named name) := by
  obtain ⟨k, hk⟩ : ∃ k, marks - 1 = k + 1 := ⟨marks - 2, by omega⟩
  have hconcat : behindMarks (k + 1) ('[' :: (inner ++ [']']))
      = behindMarks (k + 1) ('[' :: inner) ++ [']'] := by
    rw [behindMarks, behindMarks, List.append_assoc, List.cons_append]
  have hopen : enclosed? '[' ']' (behindMarks (k + 1) ('[' :: (inner ++ [']']))) = none := by
    rw [behindMarks_succ, enclosed?, if_neg (by simp)]
  have hcut : headAndArg (behindMarks (k + 1) ('[' :: (inner ++ [']'])))
      = (behindMarks (k + 1) ('[' :: (inner ++ [']'])), none) := by
    refine headAndArg_of_getLast? ?_
    rw [hconcat, List.getLast?_concat]
    decide
  -- The last segment ends in the bracket, and no name that is known does.
  obtain ⟨front, hfront⟩ := TypeName.lastSegment_concat (c := ']')
    (behindMarks (k + 1) ('[' :: inner)) (by decide)
  have hbase : TypeName.lastSegment (behindMarks (k + 1) ('[' :: (inner ++ [']'])))
      = (String.ofList (front ++ [']'])).toList := by rw [hconcat, hfront, String.toList_ofList]
  have hunknown : String.ofList (front ++ [']']) ∉ knownNames := fun hknown => by
    have hlast : ∀ name ∈ knownNames, name.toList.getLast? ≠ some ']' := by decide
    exact hlast _ hknown (by rw [String.toList_ofList, List.getLast?_concat])
  rw [layerOf_behindMarks (solid_bracketed inner), hk, layerBehindMark_of_enclosed?_eq_none hopen,
    layerOfName_of_unknown hcut hbase hunknown fun hfree => not_freeForm_behindMarks hfree.2]
  exact ⟨_, rfl⟩

/-- Elements between brackets are found behind one mark at most. -/
theorem lower_bracketed_iff {inner : List Char} {type : FieldType} :
    lower (behindMarks marks ('[' :: (inner ++ [']']))) = .array type ↔
      marks ≤ 1 ∧ lower (inner.takeWhile (· != ';')) = type := by
  rcases Nat.lt_or_ge 1 marks with h | h
  · obtain ⟨name, hname⟩ := layerOf_bracketed_behind inner h
    rw [lower_of_whole hname]
    exact ⟨nofun, fun hle => absurd hle.1 (by omega)⟩
  · rw [lower_of_arrayOf (layerOf_bracketed inner h), FieldType.array.injEq]
    exact ⟨fun heq => ⟨h, heq⟩, And.right⟩

theorem takeWhile_of_not_mem {cs : List Char} (h : ';' ∉ cs) (rest : List Char) :
    (cs ++ rest).takeWhile (· != ';') = cs ++ rest.takeWhile (· != ';') :=
  List.takeWhile_append_of_pos fun _ hc => bne_iff_ne.mpr fun heq => h (heq ▸ hc)

end FieldType

/-! ### Lowering by structure -/

namespace TypeExpr

/-- **A type whose full name is not cut in the wrong place:** the element of a slice or an array is
written without a semicolon, and the argument of a sequence or a wrapper without brackets in its
constants. -/
def Legible : TypeExpr → Prop
  | .primitive _ | .string | .user _ _ | .map _ _ _ => True
  | .sequence _ t | .wrapper _ t => t.Unmarked ∧ t.Legible
  | .reference t => t.Legible
  | .slice t | .array t _ => ';' ∉ t.text ∧ t.Legible

/-- **A type that keeps its structure behind some reference marks.**  Types that are known by the
last segment of a path keep it behind any number of them, those that are known by their whole name
or its brackets behind one. -/
def FaithfulBehind : Nat → TypeExpr → Prop
  | marks, .primitive _ => marks ≤ 1
  | marks, .user path _ => marks ≤ 1 ∧ ¬ path.IsFreeForm
  | marks, .slice t | marks, .array t _ => marks ≤ 1 ∧ t.FaithfulBehind 0
  | _, .string | _, .map _ _ _ => True
  | _, .sequence _ t | _, .wrapper _ t => t.FaithfulBehind 0
  | marks, .reference t => t.FaithfulBehind (marks + 1)

theorem exists_headed (path : UserPath) (args : List TypeArgument) :
    ∃ written, (TypeExpr.user path args).text = headed path.text written := by
  cases args with
  | nil => exact ⟨none, rfl⟩
  | cons a args => exact ⟨some _, rfl⟩

/-- Lowering behind any number of marks, by induction on the type: a reference adds a mark, and what
is taken out of brackets stands behind none. -/
theorem lower_behindMarks_iff : (t : TypeExpr) → (marks : Nat) → t.Legible →
    (lower (behindMarks marks t.text) = t.fieldType ↔ t.FaithfulBehind marks)
  | .primitive p, marks, _ => p.lower_iff marks
  | .string, marks, _ => iff_of_true (lower_string marks) trivial
  | .user path args, marks, _ => by
    obtain ⟨written, hwritten⟩ := exists_headed path args
    rw [fieldType, fullName, hwritten]
    exact path.lower_iff marks
  | .sequence type t, marks, h => by
    rw [lower_sequence type h.1, fieldType, FieldType.array.injEq]
    exact lower_behindMarks_iff t 0 h.2
  | .wrapper type t, marks, h => by
    rw [lower_wrapper type h.1, fieldType, FieldType.pointer.injEq]
    exact lower_behindMarks_iff t 0 h.2
  | .map type k v, marks, _ => iff_of_true (lower_map type k v marks) trivial
  | .reference t, marks, h => by
    -- The mark of the reference joins those in front of it.
    rw [text, behindMarks_cons, fieldType]
    exact lower_behindMarks_iff t (marks + 1) h
  | .slice t, marks, h => by
    have hcut : t.text.takeWhile (· != ';') = t.text := by
      simpa using takeWhile_of_not_mem h.1 []
    rw [text, fieldType, lower_bracketed_iff, hcut]
    exact and_congr_right' (lower_behindMarks_iff t 0 h.2)
  | .array t n, marks, h => by
    have hbracketed : (array t n).text
        = '[' :: ((t.text ++ ';' :: ' ' :: Nat.toDigits 10 n) ++ [']']) := by simp [text]
    rw [hbracketed, fieldType, lower_bracketed_iff, takeWhile_of_not_mem h.1,
      List.takeWhile_cons_of_neg (by simp), List.append_nil]
    exact and_congr_right' (lower_behindMarks_iff t 0 h.2)

/-- Such a type is lowered to its own structure. -/
theorem ofTypeName_fullName {t : TypeExpr} (hlegible : t.Legible) (hfaithful : t.FaithfulBehind 0) :
    ofTypeName t.fullName = t.fieldType := by
  rw [ofTypeName, fullName, String.toList_ofList]
  exact (lower_behindMarks_iff t 0 hlegible).mpr hfaithful

/-- **Full names are lowered by the structure of the type** exactly when nothing that is known by
its whole name or its brackets stands behind a second reference mark, and no type of a program's own
bears the path of free-form values. -/
theorem ofTypeName_eq_fieldType_iff {t : TypeExpr} (h : t.Legible) :
    ofTypeName t.fullName = t.fieldType ↔ t.FaithfulBehind 0 := by
  rw [ofTypeName, fullName, String.toList_ofList]
  exact lower_behindMarks_iff t 0 h

/-- A type of a program's own. -/
def userPath : UserPath where
  modules := ["app"]
  name := "User"
  name_ne_empty := by decide
  name_unknown := by decide
  parts_plain := by decide

/-- Lists of optional triples of references to users. -/
def userTriples : TypeExpr :=
  .sequence .vec (.wrapper .option (.array (.reference (.user userPath [])) 3))

theorem lower_userTriples :
    ofTypeName "alloc::vec::Vec<core::option::Option<[&app::User; 3]>>"
      = .array (.pointer (.array (.named "User"))) := by
  have hname : userTriples.fullName
      = "alloc::vec::Vec<core::option::Option<[&app::User; 3]>>" := by decide
  have htype : userTriples.fieldType = .array (.pointer (.array (.named "User"))) := by decide
  have hlegible : userTriples.Legible := ⟨trivial, trivial, by decide, trivial⟩
  have hfaithful : userTriples.FaithfulBehind 0 := ⟨by decide, by decide, by decide⟩
  rw [← hname, ← htype]
  exact (ofTypeName_eq_fieldType_iff hlegible).mpr hfaithful

/-- Rows of two numbers each, in a fixed number. -/
def grid : TypeExpr := .array (.array (.primitive (.integer false .bits8)) 2) 3

/-- Arrays of arrays are cut inside the inner one. -/
theorem lower_grid :
    grid.fullName = "[[u8; 2]; 3]" ∧ grid.fieldType = .array (.array .integer) ∧
      ofTypeName grid.fullName = .array (.named "[u8") := by
  have hname : grid.fullName = "[[u8; 2]; 3]" := by decide
  have houter : layerOf "[[u8; 2]; 3]".toList = .arrayOf "[u8".toList := by rfl
  have hinner : layerOf "[u8".toList = .whole (.named "[u8") := by rfl
  refine ⟨hname, rfl, ?_⟩
  rw [hname, ofTypeName, lower_of_arrayOf houter, lower_of_whole hinner]

end TypeExpr

end Callpoint
