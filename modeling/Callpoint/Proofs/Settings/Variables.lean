import Mathlib.Data.Prod.Lex
import Mathlib.Data.String.Basic
import Mathlib.Order.Bounds.Basic
import Callpoint.Settings.Loader

/-!
# What variables change

The variables with the name of a field give it texts (`Field.texts`).  If all of them can be read,
each field gets the value of its greatest text, and a field without texts keeps its value
(`Overridden`).  If some cannot be read, loading tells of the first of these by name and text
(`FirstUnread`).  Both speak of nothing but the texts of the fields.  So it does not matter in which
order the variables are given, how often one is repeated, and what other variables there are
(`Loader.variables_override`).
-/

namespace Callpoint.Settings

/-! ### Fields -/

namespace Field

/-- What a field holds. -/
def Value : Field → Type
  | maxBodyBytes | bufferSize | keepAliveSeconds => Nat
  | validateOutput | trustRequestId | logEnabled | fileLineInfo => Bool
  | defaultHeaders => Assoc String
  | logLevel => String
  | logFormat => LogFormat

/-- The value of a field. -/
def get : (f : Field) → Settings → f.Value
  | maxBodyBytes, s => s.calls.maxBodyBytes
  | validateOutput, s => s.calls.validateOutput
  | trustRequestId, s => s.calls.trustRequestId
  | defaultHeaders, s => s.calls.defaultHeaders
  | bufferSize, s => s.streams.bufferSize
  | keepAliveSeconds, s => s.streams.keepAliveSeconds
  | logEnabled, s => s.logging.enabled
  | logLevel, s => s.logging.level
  | logFormat, s => s.logging.format
  | fileLineInfo, s => s.logging.fileLineInfo

/-- Settings with another value of a field. -/
def set : (f : Field) → f.Value → Settings → Settings
  | maxBodyBytes, n, s => { s with calls := { s.calls with maxBodyBytes := n } }
  | validateOutput, b, s => { s with calls := { s.calls with validateOutput := b } }
  | trustRequestId, b, s => { s with calls := { s.calls with trustRequestId := b } }
  | defaultHeaders, hs, s => { s with calls := { s.calls with defaultHeaders := hs } }
  | bufferSize, n, s => { s with streams := { s.streams with bufferSize := n } }
  | keepAliveSeconds, n, s => { s with streams := { s.streams with keepAliveSeconds := n } }
  | logEnabled, b, s => { s with logging := { s.logging with enabled := b } }
  | logLevel, level, s => { s with logging := { s.logging with level := level } }
  | logFormat, format, s => { s with logging := { s.logging with format := format } }
  | fileLineInfo, b, s => { s with logging := { s.logging with fileLineInfo := b } }

/-- What a text says of a field. -/
def read : (f : Field) → String → Except VariableError f.Value
  | maxBodyBytes, text | bufferSize, text => readNumber text
  | keepAliveSeconds, text => readSeconds text
  | validateOutput, text | trustRequestId, text | logEnabled, text | fileLineInfo, text =>
    readFlag text
  | defaultHeaders, text => (readPairs text).map sortedTexts
  | logLevel, text => .ok text
  | logFormat, text => (LogFormat.parse text).mapError fun _ => .format

@[simp]
theorem get_set (f : Field) (value : f.Value) (s : Settings) : f.get (f.set value s) = value := by
  cases f <;> rfl

/-- A field that is set leaves the others as they are. -/
theorem get_set_of_ne {f g : Field} (h : g ≠ f) (value : f.Value) (s : Settings) :
    g.get (f.set value s) = g.get s := by
  cases f <;> cases g <;> first | rfl | exact absurd rfl h

/-- **Setting a field to what a text says** is reading the text and setting the field. -/
theorem assign_eq (f : Field) (text : String) (s : Settings) :
    f.assign text s = (f.read text).map fun value => f.set value s := by
  cases f with
  | defaultHeaders =>
    unfold assign read
    dsimp only
    cases readPairs text <;> rfl
  | logFormat =>
    unfold assign read
    dsimp only
    cases LogFormat.parse text <;> rfl
  | maxBodyBytes | validateOutput | trustRequestId | bufferSize | keepAliveSeconds | logEnabled |
    logLevel | fileLineInfo => rfl

end Field

/-- Settings are what their fields hold. -/
theorem ext_get {s t : Settings} (h : ∀ f : Field, f.get s = f.get t) : s = t := by
  obtain ⟨⟨_, _, _, _⟩, ⟨_, _⟩, ⟨_, _, _, _⟩⟩ := s
  obtain ⟨⟨_, _, _, _⟩, ⟨_, _⟩, ⟨_, _, _, _⟩⟩ := t
  obtain rfl := h .maxBodyBytes
  obtain rfl := h .validateOutput
  obtain rfl := h .trustRequestId
  obtain rfl := h .defaultHeaders
  obtain rfl := h .bufferSize
  obtain rfl := h .keepAliveSeconds
  obtain rfl := h .logEnabled
  obtain rfl := h .logLevel
  obtain rfl := h .logFormat
  obtain rfl := h .fileLineInfo
  rfl

/-! ### Names of variables -/

namespace Field

/-- The name of a field behind the family. -/
def key (f : Field) : String := ((keys.map Prod.swap).lookup f).getD ""

/-- The variable of a family that sets a field. -/
def variableName (f : Field) (family : String) : String := family ++ "_" ++ f.key

/-- No two fields share a key, so a key tells its field. -/
theorem get?_keys_iff {key : String} {f : Field} : keys.get? key = some f ↔ key = f.key := by
  constructor
  · intro h
    have hkeys : ∀ entry ∈ keys, entry.1 = entry.2.key := by decide
    exact hkeys _ (Assoc.mem_of_get? h)
  · rintro rfl
    exact Assoc.get?_of_mem (by decide) (by cases f <;> decide)

/-- A variable sets a field if its name is that of the family and the field together. -/
theorem ofVariable?_eq_some_iff {family name : String} {f : Field} :
    ofVariable? family name = some f ↔ name = f.variableName family := by
  unfold ofVariable? variableName
  dsimp only
  rw [Option.ite_none_right_eq_some, List.isPrefixOf_iff_prefix, get?_keys_iff]
  constructor
  · rintro ⟨⟨key, hkey⟩, hdrop⟩
    rw [← hkey, List.drop_left] at hdrop
    rw [← String.toList_inj, String.toList_append, ← hkey, ← hdrop, String.toList_ofList]
  · rintro rfl
    have happend : (family ++ "_" ++ f.key).toList = (family ++ "_").toList ++ f.key.toList :=
      String.toList_append
    rw [happend, List.drop_left, String.ofList_toList]
    exact ⟨List.prefix_append _ _, rfl⟩

theorem variableName_injective (family : String) :
    Function.Injective fun f : Field => f.variableName family := by
  intro f g h
  have hf := ofVariable?_eq_some_iff.mpr (rfl : f.variableName family = _)
  have hg := ofVariable?_eq_some_iff.mpr h
  exact Option.some.inj (hf.symm.trans hg)

/-- **The texts that a field is given** by the variables of a family. -/
def texts (f : Field) (family : String) (vars : List (String × String)) : Set String :=
  {text | (f.variableName family, text) ∈ vars}

end Field

/-! ### Variables in turn -/

variable {family : String} {vars : List (String × String)} {s t : Settings}

/-- The settings with one more variable. -/
def applyVariable (s : Settings) (entry : String × Field × String) :
    Except (String × VariableError) Settings :=
  (entry.2.1.assign entry.2.2 s).mapError fun e => (entry.1, e)

theorem override_eq_foldlM (family : String) (vars : List (String × String)) (s : Settings) :
    override family vars s = (familyOf family vars).foldlM applyVariable s := rfl

/-- **What variables do when all are read:** the last one of a field counts, and a field that none
of them sets is left as it is. -/
structure Applied (entries : List (String × Field × String)) (s t : Settings) : Prop where
  read : ∀ entry ∈ entries, ∃ value, entry.2.1.read entry.2.2 = .ok value
  field : ∀ f : Field, (∀ entry ∈ entries, entry.2.1 ≠ f) ∧ f.get t = f.get s ∨
    ∃ before name text after, entries = before ++ (name, f, text) :: after ∧
      (∀ entry ∈ after, entry.2.1 ≠ f) ∧ f.read text = .ok (f.get t)

/-- A variable that is read counts for its field unless another one of that field follows. -/
theorem applied_cons {entries : List (String × Field × String)} {name text : String} {f : Field}
    {value : f.Value} (hread : f.read text = .ok value)
    (h : Applied entries (f.set value s) t) : Applied ((name, f, text) :: entries) s t where
  read := List.forall_mem_cons.mpr ⟨⟨value, hread⟩, h.read⟩
  field g := by
    -- Either nothing behind sets `g`, and then it matters whether this variable does.
    rcases h.field g with ⟨hnone, hget⟩ | ⟨before, name', text', after, rfl, hafter, hlast⟩
    · by_cases hg : g = f
      · subst hg
        refine Or.inr ⟨[], name, text, entries, rfl, hnone, ?_⟩
        rw [hget, Field.get_set]
        exact hread
      · refine Or.inl ⟨List.forall_mem_cons.mpr ⟨fun heq => hg heq.symm, hnone⟩, ?_⟩
        rw [hget, Field.get_set_of_ne hg]
    · exact Or.inr ⟨(name, f, text) :: before, name', text', after, rfl, hafter, hlast⟩

/-- **The first variable that is not read** is told, with what it should have been. -/
def Refused (entries : List (String × Field × String)) (name : String) (e : VariableError) : Prop :=
  ∃ before f text after, entries = before ++ (name, f, text) :: after ∧ f.read text = .error e ∧
    ∀ entry ∈ before, ∃ value, entry.2.1.read entry.2.2 = .ok value

/-- **A run over variables** applies all of them or refuses the first that is not read. -/
theorem foldlM_applyVariable (entries : List (String × Field × String)) (s : Settings) :
    (∃ t, entries.foldlM applyVariable s = .ok t ∧ Applied entries s t) ∨
      ∃ name e, entries.foldlM applyVariable s = .error (name, e) ∧ Refused entries name e := by
  induction entries generalizing s with
  | nil =>
    have hnone (p : String × Field × String → Prop) : ∀ entry ∈ [], p entry := fun _ h => nomatch h
    exact Or.inl ⟨s, rfl, hnone _, fun f => Or.inl ⟨hnone _, rfl⟩⟩
  | cons entry entries ih =>
    obtain ⟨name, f, text⟩ := entry
    have hstep : applyVariable s (name, f, text)
        = ((f.read text).map fun value => f.set value s).mapError fun e => (name, e) := by
      rw [← Field.assign_eq]
      rfl
    rw [List.foldlM_cons, hstep]
    -- Induction on the variables, for any settings: a text that is not read ends the run.
    cases hread : f.read text with
    | error e =>
      exact Or.inr ⟨name, e, rfl, [], f, text, entries, rfl, hread, fun _ h => nomatch h⟩
    | ok value =>
      rcases ih (f.set value s) with ⟨t, hrun, happlied⟩ | ⟨name', e, hrun, hrefused⟩
      · exact Or.inl ⟨t, hrun, applied_cons hread happlied⟩
      · obtain ⟨before, g, text', after, rfl, hg, hbefore⟩ := hrefused
        refine Or.inr ⟨name', e, hrun, (name, f, text) :: before, g, text', after, rfl, hg, ?_⟩
        exact List.forall_mem_cons.mpr ⟨⟨value, hread⟩, hbefore⟩

/-! ### Variables of a family -/

/-- The variables of a family are those that give some field a text. -/
theorem mem_familyOf_iff {name text : String} {f : Field} :
    (name, f, text) ∈ familyOf family vars ↔
      name = f.variableName family ∧ text ∈ f.texts family vars := by
  unfold familyOf
  rw [List.mem_filterMap]
  constructor
  · rintro ⟨⟨_, _⟩, hmem, hfield⟩
    obtain ⟨g, hg, ⟨⟩⟩ := Option.map_eq_some_iff.mp hfield
    obtain rfl := Field.ofVariable?_eq_some_iff.mp hg
    exact ⟨rfl, List.mem_mergeSort.mp hmem⟩
  · rintro ⟨rfl, htext⟩
    refine ⟨(f.variableName family, text), List.mem_mergeSort.mpr htext, ?_⟩
    exact Option.map_eq_some_iff.mpr ⟨f, Field.ofVariable?_eq_some_iff.mpr rfl, rfl⟩

/-- Variables come in the order of their names, and of their texts where the names are the same. -/
theorem pairwise_familyOf (family : String) (vars : List (String × String)) :
    (familyOf family vars).Pairwise fun a b => toLex (a.1, a.2.2) ≤ toLex (b.1, b.2.2) := by
  have hle : ∀ a b : String × String,
      decide (a.1 < b.1 ∨ a.1 = b.1 ∧ a.2 ≤ b.2) = decide (toLex a ≤ toLex b) := fun a b =>
    decide_eq_decide.mpr Prod.Lex.toLex_le_toLex.symm
  unfold familyOf
  simp only [hle]
  have hsorted : (vars.mergeSort fun a b => decide (toLex a ≤ toLex b)).Pairwise fun a b =>
      decide (toLex a ≤ toLex b) = true := by
    -- The order is total, so sorting by it puts the variables in order.
    refine List.pairwise_mergeSort (fun a b c hab hbc => ?_) (fun a b => ?_) vars
    · exact decide_eq_true (le_trans (of_decide_eq_true hab) (of_decide_eq_true hbc))
    · rw [Bool.or_eq_true, decide_eq_true_iff, decide_eq_true_iff]
      exact le_total _ _
  refine List.Pairwise.filterMap _ (fun a b hab x hx y hy => ?_) hsorted
  obtain ⟨f, -, rfl⟩ := Option.map_eq_some_iff.mp hx
  obtain ⟨g, -, rfl⟩ := Option.map_eq_some_iff.mp hy
  exact of_decide_eq_true hab

/-- What is in front of a variable is not greater, and what is behind it is not less. -/
theorem familyOf_eq_append {before after : List (String × Field × String)}
    {entry : String × Field × String} (hsplit : familyOf family vars = before ++ entry :: after) :
    (∀ other ∈ before, toLex (other.1, other.2.2) ≤ toLex (entry.1, entry.2.2)) ∧
      ∀ other ∈ after, toLex (entry.1, entry.2.2) ≤ toLex (other.1, other.2.2) := by
  have hsorted := pairwise_familyOf family vars
  rw [hsplit, List.pairwise_append] at hsorted
  obtain ⟨-, hbehind, hacross⟩ := hsorted
  exact ⟨fun other hother => hacross other hother entry List.mem_cons_self,
    (List.pairwise_cons.mp hbehind).1⟩

/-- **All texts that fields are given can be read.** -/
def Readable (family : String) (vars : List (String × String)) : Prop :=
  ∀ f : Field, ∀ text ∈ f.texts family vars, ∃ value, f.read text = .ok value

/-- **Settings are overridden by variables:** a field that is given texts has the value of the
greatest of them, and the others have the values they had. -/
def Overridden (family : String) (vars : List (String × String)) (s t : Settings) : Prop :=
  ∀ f : Field, f.texts family vars = ∅ ∧ f.get t = f.get s ∨
    ∃ text, IsGreatest (f.texts family vars) text ∧ f.read text = .ok (f.get t)

/-- **The first variable that cannot be read:** of those with a text that cannot be read the one
that comes first, and what its text should have been. -/
def FirstUnread (family : String) (vars : List (String × String)) (name : String)
    (e : VariableError) : Prop :=
  ∃ f : Field, ∃ text ∈ f.texts family vars, name = f.variableName family ∧
    f.read text = .error e ∧ ∀ g : Field, ∀ other ∈ g.texts family vars,
      (¬ ∃ value, g.read other = .ok value) →
        toLex (name, text) ≤ toLex (g.variableName family, other)

/-- What the last text of a field says is what its greatest says, since texts are sorted. -/
theorem overridden_of_applied (h : Applied (familyOf family vars) s t) :
    Readable family vars ∧ Overridden family vars s t := by
  refine ⟨fun f text htext => h.read _ (mem_familyOf_iff.mpr ⟨rfl, htext⟩), fun f => ?_⟩
  rcases h.field f with ⟨hnone, hget⟩ | ⟨before, name, text, after, hsplit, hafter, hread⟩
  · refine Or.inl ⟨Set.eq_empty_of_forall_notMem fun text htext => ?_, hget⟩
    exact hnone _ (mem_familyOf_iff.mpr ⟨rfl, htext⟩) rfl
  · have hmem : (name, f, text) ∈ familyOf family vars := hsplit ▸ List.mem_append_cons_self
    obtain ⟨rfl, htext⟩ := mem_familyOf_iff.mp hmem
    refine Or.inr ⟨text, ⟨htext, fun other hother => ?_⟩, hread⟩
    -- What is not behind the last text of a field is not greater.
    have hother := mem_familyOf_iff.mpr ⟨rfl, hother⟩
    rw [hsplit, List.mem_append, List.mem_cons] at hother
    rcases hother with hbefore | heq | hbehind
    · have hle := (familyOf_eq_append hsplit).1 _ hbefore
      rcases Prod.Lex.toLex_le_toLex.mp hle with hlt | ⟨-, hle⟩
      · exact absurd hlt (lt_irrefl _)
      · exact hle
    · exact le_of_eq (Prod.mk.inj (Prod.mk.inj heq).2).2
    · exact absurd rfl (hafter _ hbehind)

/-- What is in front was read, and what is behind comes later in the order. -/
theorem firstUnread_of_refused {name : String} {e : VariableError}
    (h : Refused (familyOf family vars) name e) :
    ¬ Readable family vars ∧ FirstUnread family vars name e := by
  obtain ⟨before, f, text, after, hsplit, hread, hbefore⟩ := h
  have hmem : (name, f, text) ∈ familyOf family vars := hsplit ▸ List.mem_append_cons_self
  obtain ⟨rfl, htext⟩ := mem_familyOf_iff.mp hmem
  refine ⟨fun hreadable => ?_, f, text, htext, rfl, hread, fun g other hother hunread => ?_⟩
  · obtain ⟨value, hvalue⟩ := hreadable f text htext
    rw [hread] at hvalue
    cases hvalue
  · have hother := mem_familyOf_iff.mpr ⟨rfl, hother⟩
    rw [hsplit, List.mem_append, List.mem_cons] at hother
    rcases hother with hmem | heq | hbehind
    · exact absurd (hbefore _ hmem) hunread
    · obtain ⟨hname, heq⟩ := Prod.mk.inj heq
      exact le_of_eq (congrArg toLex (Prod.ext hname.symm (Prod.mk.inj heq).2.symm))
    · exact (familyOf_eq_append hsplit).2 _ hbehind

/-- **Overriding** is applying all variables, or telling of the first that cannot be read. -/
theorem override_cases (family : String) (vars : List (String × String)) (s : Settings) :
    (∃ t, override family vars s = .ok t ∧ Readable family vars ∧ Overridden family vars s t) ∨
      ∃ name e, override family vars s = .error (name, e) ∧ ¬ Readable family vars ∧
        FirstUnread family vars name e := by
  rw [override_eq_foldlM]
  rcases foldlM_applyVariable (familyOf family vars) s with ⟨t, hrun, h⟩ | ⟨name, e, hrun, h⟩
  · exact Or.inl ⟨t, hrun, overridden_of_applied h⟩
  · exact Or.inr ⟨name, e, hrun, firstUnread_of_refused h⟩

theorem Overridden.unique {t' : Settings} (h : Overridden family vars s t)
    (h' : Overridden family vars s t') : t = t' := by
  refine ext_get fun f => ?_
  rcases h f with ⟨hnone, hget⟩ | ⟨text, htext, hread⟩ <;>
    rcases h' f with ⟨hnone', hget'⟩ | ⟨text', htext', hread'⟩
  · exact hget.trans hget'.symm
  · exact absurd (hnone ▸ htext'.1) (Set.notMem_empty _)
  · exact absurd (hnone' ▸ htext.1) (Set.notMem_empty _)
  -- There is one greatest text at most.
  · obtain rfl := htext.unique htext'
    exact Except.ok.inj (hread.symm.trans hread')

theorem FirstUnread.unique {name name' : String} {e e' : VariableError}
    (h : FirstUnread family vars name e) (h' : FirstUnread family vars name' e') :
    (name, e) = (name', e') := by
  obtain ⟨f, text, htext, rfl, hread, hfirst⟩ := h
  obtain ⟨f', text', htext', rfl, hread', hfirst'⟩ := h'
  have hunread {f : Field} {text : String} {e : VariableError} (h : f.read text = .error e) :
      ¬ ∃ value, f.read text = .ok value := by
    rintro ⟨value, hvalue⟩
    rw [h] at hvalue
    cases hvalue
  -- Each of the two is no later than the other.
  have heq := le_antisymm (hfirst f' text' htext' (hunread hread'))
    (hfirst' f text htext (hunread hread))
  obtain ⟨hname, rfl⟩ := Prod.mk.inj (toLex.injective heq)
  obtain rfl := Field.variableName_injective family hname
  exact Prod.ext rfl (Except.error.inj (hread.symm.trans hread'))

/-! ### Loading -/

/-- **Two lists of variables tell the same:** they give each field the same texts. -/
def TellsSame (family : String) (given vars : List (String × String)) : Prop :=
  ∀ f : Field, f.texts family given = f.texts family vars

section

variable {given others : List (String × String)}

/-- Neither the order of variables nor others that name no field of the family tell anything. -/
theorem tellsSame_of_perm (h : given.Perm (vars ++ others))
    (hothers : ∀ entry ∈ others, Field.ofVariable? family entry.1 = none) :
    TellsSame family given vars := by
  refine fun f => Set.ext fun text => ?_
  refine h.mem_iff.trans (List.mem_append.trans (or_iff_left fun hmem => ?_))
  have hfield := Field.ofVariable?_eq_some_iff.mpr (rfl : f.variableName family = _)
  rw [hothers _ hmem] at hfield
  cases hfield

/-- Variables that tell the same override alike. -/
theorem TellsSame.override_eq (h : TellsSame family given vars) (s : Settings) :
    override family given s = override family vars s := by
  have hreadable : Readable family given ↔ Readable family vars :=
    forall_congr' fun f => by rw [h f]
  -- Both runs are settled by the texts, which are the same, so only like outcomes meet.
  rcases override_cases family given s with
      ⟨t, hrun, hread, ht⟩ | ⟨name, e, hrun, hread, hfirst⟩ <;>
    rcases override_cases family vars s with
      ⟨t', hrun', hread', ht'⟩ | ⟨name', e', hrun', hread', hfirst'⟩
  · have ht : Overridden family vars s t := fun f => h f ▸ ht f
    rw [hrun, hrun', ht.unique ht']
  · exact absurd (hreadable.mp hread) hread'
  · exact absurd (hreadable.mpr hread') hread
  · obtain ⟨f, text, htext, hname, hunread, hleast⟩ := hfirst
    have hfirst : FirstUnread family vars name e :=
      ⟨f, text, h f ▸ htext, hname, hunread, fun g other hother => hleast g other (h g ▸ hother)⟩
    rw [hrun, hrun', hfirst.unique hfirst']

end

namespace Loader

/-- **What variables do.**  If all texts that the variables of a family give to fields can be read,
the settings are those of the loader, overridden by them; then they are checked.  If some cannot be
read, loading tells of the first of these.  Both are the same for all variables that tell the same,
in any order, with any repetitions, and among any others. -/
theorem variables_override (l : Loader) (family : String) (vars : List (String × String)) :
    (Readable (Text.uppercase family) vars →
      ∃ s, Overridden (Text.uppercase family) vars l.settings s ∧
        ∀ given, TellsSame (Text.uppercase family) given vars →
          ((l.withFamily family).withVariables given).overridden = .ok s ∧
          ((l.withFamily family).withVariables given).load
            = (s.check.mapError .invalid).map fun _ => s) ∧
    (¬ Readable (Text.uppercase family) vars →
      ∃ name e, FirstUnread (Text.uppercase family) vars name e ∧
        ∀ given, TellsSame (Text.uppercase family) given vars →
          ((l.withFamily family).withVariables given).load = .error (.badVariable name e)) := by
  -- Loading with other variables that tell the same starts from the same outcome.
  have hoverridden {given} (hgiven : TellsSame (Text.uppercase family) given vars) :
      ((l.withFamily family).withVariables given).overridden
        = (override (Text.uppercase family) vars l.settings).mapError fun failure =>
            .badVariable failure.1 failure.2 := by
    rw [← hgiven.override_eq]
    rfl
  rcases override_cases (Text.uppercase family) vars l.settings with
    ⟨s, hrun, hread, hs⟩ | ⟨name, e, hrun, hread, hfirst⟩
  · refine ⟨fun _ => ⟨s, hs, fun given hgiven => ?_⟩, fun hnot => absurd hread hnot⟩
    rw [load, hoverridden hgiven, hrun]
    refine ⟨rfl, ?_⟩
    show (s.check.mapError LoadError.invalid >>= fun _ => .ok s) = _
    cases s.check <;> rfl
  · refine ⟨fun h => absurd h hread, fun _ => ⟨name, e, hfirst, fun given hgiven => ?_⟩⟩
    rw [load, hoverridden hgiven, hrun]
    rfl

/-- Two variables of one name. -/
def bufferSizes : List (String × String) :=
  [("APP_STREAM_BUFFER_SIZE", "64"), ("APP_STREAM_BUFFER_SIZE", "8")]

theorem mem_texts_bufferSizes {f : Field} {text : String} :
    text ∈ f.texts "APP" bufferSizes ↔ f = .bufferSize ∧ (text = "64" ∨ text = "8") := by
  have hsize : Field.bufferSize.variableName "APP" = "APP_STREAM_BUFFER_SIZE" := by
    decide +kernel
  have hname {name : String} :
      (f.variableName "APP", text) = ("APP_STREAM_BUFFER_SIZE", name) ↔
        f = .bufferSize ∧ text = name := by
    rw [Prod.mk.injEq, ← hsize, (Field.variableName_injective "APP").eq_iff]
  refine List.mem_pair.trans ?_
  rw [hname, hname, and_or_left]

/-- In any order and among other variables the greater text counts, which is not that of the greater
number; and no other field is changed. -/
theorem variables_override_bufferSizes :
    ∃ s : Settings, s.streams.bufferSize = 8 ∧ (∀ f : Field, f ≠ .bufferSize → f.get s = f.get {}) ∧
      ∀ given, given.Perm (bufferSizes ++ [("HOME", "/root"), ("APP_PORT", "many")]) →
        ((({} : Loader).withFamily "app").withVariables given).overridden = .ok s := by
  have hupper : Text.uppercase "app" = "APP" := by decide +kernel
  have hread : readNumber "8" = .ok 8 ∧ readNumber "64" = .ok 64 := ⟨rfl, rfl⟩
  obtain ⟨s, hs, hload⟩ := (variables_override {} "app" bufferSizes).1 fun f text htext => by
    obtain ⟨rfl, rfl | rfl⟩ := mem_texts_bufferSizes.mp (hupper ▸ htext)
    · exact ⟨_, hread.2⟩
    · exact ⟨_, hread.1⟩
  rw [hupper] at hs
  refine ⟨s, ?_, fun f hf => ?_, fun given hgiven => ?_⟩
  · rcases hs .bufferSize with ⟨hnone, -⟩ | ⟨text, ⟨htext, hgreatest⟩, hvalue⟩
    · exact absurd (hnone ▸ mem_texts_bufferSizes.mpr ⟨rfl, Or.inr rfl⟩) (Set.notMem_empty "8")
    · have hge := hgreatest (mem_texts_bufferSizes.mpr ⟨rfl, Or.inr rfl⟩)
      obtain ⟨-, rfl | rfl⟩ := mem_texts_bufferSizes.mp htext
      · exact absurd hge (by decide)
      · exact Except.ok.inj (hvalue.symm.trans hread.1)
  · rcases hs f with ⟨-, hget⟩ | ⟨text, ⟨htext, -⟩, -⟩
    · exact hget
    · exact absurd (mem_texts_bufferSizes.mp htext).1 hf
  · refine (hload given (hupper ▸ tellsSame_of_perm hgiven ?_)).1
    decide +kernel

end Loader

end Callpoint.Settings
