import Callpoint.Text.Blank
import Callpoint.TypeName

/-!
# Field types

What a field holds, and how the full name of a type is lowered to it.  A type name is peeled layer
by layer: a reference is dropped, a wrapper becomes a pointer, a collection an array of its first
argument, and what is left is a primitive, a map or a name.  Each layer is shorter than the text
around it (`Layer.length_lt`), so lowering ends.
-/

namespace Callpoint

open Callpoint.Text

/-- **What a field holds.** -/
inductive FieldType where
  | string
  | integer
  | number
  | boolean
  | dateTime
  | pointer (inner : FieldType)
  | array (element : FieldType)
  | map
  | named (name : String)
deriving DecidableEq, Repr, Inhabited

namespace FieldType

/-- The type without the pointers around it. -/
def resolved : FieldType → FieldType
  | .pointer inner => inner.resolved
  | t => t

/-- A type by its name, of which the bare form counts. -/
def ofName (name : String) : FieldType := .named (bareName name)

/-! ### Peeling a type name -/

/-- The text without a reference mark, its lifetime and its mutability at the start. -/
def stripReference : List Char → List Char
  | '&' :: rest =>
    let referent := trimLeft (match rest with
      | '\'' :: lifetime => (lifetime.dropWhile fun c => !isBlank c).drop 1
      | _ => rest)
    trimLeft (match referent with
      | 'm' :: 'u' :: 't' :: ' ' :: cs => cs
      | _ => referent)
  | cs => cs

/-- What stands between two brackets that enclose a whole text. -/
def enclosed? (left right : Char) : List Char → Option (List Char)
  | [] => none
  | c :: cs => if c = left ∧ cs.getLast? = some right then some cs.dropLast else none

/-- The first of the arguments in a text, of which `arg` was read in reverse, inside `depth`
brackets.  Only a comma outside of all brackets ends it. -/
def firstArgFrom (depth : Nat) (arg : List Char) : List Char → Option (List Char)
  | [] => if (trim arg.reverse).isEmpty then none else some (trim arg.reverse)
  | c :: cs =>
    if c = '<' ∨ c = '[' ∨ c = '(' then firstArgFrom (depth + 1) (c :: arg) cs
    else if c = '>' ∨ c = ']' ∨ c = ')' then firstArgFrom (depth - 1) (c :: arg) cs
    else if c = ',' ∧ depth = 0 then some (trim arg.reverse)
    else firstArgFrom depth (c :: arg) cs

/-- A type name cut into the path in front of its arguments and the first argument. -/
def headAndArg (full : List Char) : List Char × Option (List Char) :=
  match enclosed? '<' '>' (full.dropWhile (· != '<')) with
  | some args => (full.takeWhile (· != '<'), firstArgFrom 0 [] args)
  | none => (full, none)

/-- **The outermost layer of a type name.** -/
inductive Layer where
  | whole (type : FieldType)
  | pointerTo (inner : List Char)
  | arrayOf (element : List Char)

/-- Names of types that hold one text. -/
def textNames : List String := ["String", "str", "char", "Uuid"]

/-- Names of whole numbers. -/
def integerNames : List String :=
  ["i8", "i16", "i32", "i64", "i128", "isize", "u8", "u16", "u32", "u64", "u128", "usize"]

/-- Names of points in time. -/
def dateTimeNames : List String := ["DateTime", "SystemTime", "OffsetDateTime"]

/-- Names of sequences. -/
def sequenceNames : List String :=
  ["Vec", "VecDeque", "HashSet", "BTreeSet", "IndexSet", "SmallVec"]

/-- Names of types that stand for their argument. -/
def wrapperNames : List String := ["Option", "Box", "Arc", "Rc"]

/-- Names of maps. -/
def mapNames : List String := ["HashMap", "BTreeMap", "IndexMap"]

/-- The path under which a type called `Value` is a free-form one. -/
def freeFormPath : String := "serde_json"

/-- The type of a name that is neither a sequence nor a wrapper: `full` is all of it, `head` the
path in front of its arguments and `base` the last segment of that path. -/
def leafOf (full head : List Char) (base : String) : FieldType :=
  if textNames.contains base then .string
  else if integerNames.contains base then .integer
  else if base = "f32" ∨ base = "f64" then .number
  else if base = "bool" then .boolean
  else if dateTimeNames.contains base then .dateTime
  else if mapNames.contains base then .map
  else if base = "Value" ∧ freeFormPath.toList.isPrefixOf head then .map
  else ofName (String.ofList full)

/-- The layer of a name that is no list of elements in brackets.  A sequence or a wrapper without an
argument is one of maps. -/
def layerOfName (full : List Char) : Layer :=
  let (head, arg) := headAndArg full
  let base := String.ofList (TypeName.lastSegment head)
  if sequenceNames.contains base then arg.elim (.whole (.array .map)) .arrayOf
  else if wrapperNames.contains base then arg.elim (.whole (.pointer .map)) .pointerTo
  else .whole (leafOf full head base)

/-- The outermost layer of a type name. -/
def layerOf (full : List Char) : Layer :=
  let full := stripReference (trim full)
  match enclosed? '[' ']' full with
  | some elements => .arrayOf (elements.takeWhile (· != ';'))
  | none => layerOfName full

/-! ### Layers are shorter than what they are peeled from -/

theorem length_dropWhile_le (p : Char → Bool) (cs : List Char) :
    (cs.dropWhile p).length ≤ cs.length :=
  (List.dropWhile_suffix p).length_le

theorem length_takeWhile_le (p : Char → Bool) (cs : List Char) :
    (cs.takeWhile p).length ≤ cs.length :=
  (List.takeWhile_prefix p).length_le

theorem length_trim_le (cs : List Char) : (trim cs).length ≤ cs.length := by
  have h₁ := length_dropWhile_le isBlank cs
  have h₂ := length_dropWhile_le isBlank (trimLeft cs).reverse
  simp only [trim, trimRight, List.length_reverse] at *
  simp only [trimLeft] at *
  omega

theorem length_stripReference_le (cs : List Char) : (stripReference cs).length ≤ cs.length := by
  unfold stripReference
  split
  · next rest =>
    have drop : ∀ cs : List Char, (trimLeft cs).length ≤ cs.length := length_dropWhile_le isBlank
    have lifetime : ∀ cs : List Char,
        ((cs.dropWhile fun c => !isBlank c).drop 1).length ≤ cs.length := fun cs => by
      have h := length_dropWhile_le (fun c => !isBlank c) cs
      rw [List.length_drop]
      omega
    have referent : (trimLeft (match rest with
        | '\'' :: lifetime => (lifetime.dropWhile fun c => !isBlank c).drop 1
        | _ => rest)).length ≤ rest.length := by
      refine Nat.le_trans (drop _) ?_
      split
      · exact Nat.le_succ_of_le (lifetime _)
      · exact Nat.le_refl _
    refine Nat.le_trans (drop _) ?_
    split
    · next cs heq =>
      rw [heq] at referent
      simp only [List.length_cons] at referent ⊢
      omega
    · exact Nat.le_succ_of_le referent
  · exact Nat.le_refl _

theorem length_enclosed?_lt {left right : Char} {cs inner : List Char}
    (h : enclosed? left right cs = some inner) : inner.length < cs.length := by
  cases cs with
  | nil => simp [enclosed?] at h
  | cons c cs =>
    simp only [enclosed?] at h
    split at h
    · cases h
      simp only [List.length_dropLast, List.length_cons]
      omega
    · cases h

theorem length_firstArgFrom_le {depth : Nat} {arg cs inner : List Char}
    (h : firstArgFrom depth arg cs = some inner) : inner.length ≤ arg.length + cs.length := by
  fun_induction firstArgFrom depth arg cs with
  | case1 => cases h
  | case2 depth arg =>
    cases h
    have := length_trim_le arg.reverse
    simp_all
  | case3 _ _ _ _ _ ih => have := ih h; simp_all; omega
  | case4 _ _ _ _ _ _ ih => have := ih h; simp_all; omega
  | case5 depth arg =>
    cases h
    have := length_trim_le arg.reverse
    simp_all
    omega
  | case6 _ _ _ _ _ _ _ ih => have := ih h; simp_all; omega

theorem length_headAndArg_lt {full inner : List Char} (h : (headAndArg full).2 = some inner) :
    inner.length < full.length := by
  unfold headAndArg at h
  split at h
  · next args heq =>
    have h₁ := length_enclosed?_lt heq
    have h₂ := length_dropWhile_le (· != '<') full
    have h₃ := length_firstArgFrom_le h
    simp only [List.length_nil] at h₃
    omega
  · cases h

/-- The text of the next layer, if there is one. -/
def Layer.inner? : Layer → Option (List Char)
  | .whole _ => none
  | .pointerTo inner => some inner
  | .arrayOf element => some element

theorem inner?_layerOfName {full inner : List Char}
    (h : (layerOfName full).inner? = some inner) : (headAndArg full).2 = some inner := by
  simp only [layerOfName] at h
  cases harg : (headAndArg full).2 <;> rw [harg] at h <;> split at h <;> try split at h
  all_goals simp_all [Layer.inner?]

theorem Layer.length_lt {full inner : List Char} (h : (layerOf full).inner? = some inner) :
    inner.length < full.length := by
  have h₁ := length_stripReference_le (trim full)
  have h₂ := length_trim_le full
  unfold layerOf at h
  simp only at h
  split at h
  · next elements heq =>
    have h₃ := length_enclosed?_lt heq
    have h₄ := length_takeWhile_le (· != ';') elements
    simp only [Layer.inner?, Option.some.injEq] at h
    subst h
    omega
  · have h₃ := length_headAndArg_lt (inner?_layerOfName h)
    omega

/-! ### Lowering -/

/-- Lowers a type name layer by layer. -/
def lower (full : List Char) : FieldType :=
  match _h : layerOf full with
  | .whole type => type
  | .pointerTo inner => .pointer (lower inner)
  | .arrayOf element => .array (lower element)
termination_by full.length
decreasing_by
  · exact Layer.length_lt (by rw [_h]; rfl)
  · exact Layer.length_lt (by rw [_h]; rfl)

/-- **The field type of a full type name.** -/
def ofTypeName (full : String) : FieldType := lower full.toList

end FieldType

end Callpoint
