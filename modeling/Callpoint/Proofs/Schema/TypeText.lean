import Callpoint.Proofs.Text.Blank
import Callpoint.Proofs.TypeName
import Callpoint.Schema.TypeExpr

/-!
# Full names as texts

What the full name of a type looks like from outside: some reference marks, and behind them a text
that is neither a reference nor in need of trimming (`exists_solid`).  Of a path with arguments both
are found again (`headAndArg_appliedTo`), and a type whose brackets match is taken for one argument
(`firstArgFrom_text`).
-/

namespace Callpoint

open Callpoint.Text FieldType

variable {c : Char} {cs ds path : List Char}

/-! ### Paths -/

/-- A path has no character that neither names nor separators have. -/
theorem not_mem_of_isPath (h : IsPath cs) (hc : isNameChar c = false) (hcolon : c ≠ ':') :
    c ∉ cs := fun hmem =>
  (h.2 c hmem).elim (fun hname => Bool.false_ne_true (hc.symm.trans hname)) hcolon

theorem not_isBlank_of_isPath (h : IsPath cs) (hc : c ∈ cs) : isBlank c = false := by
  rcases h.2 c hc with hname | rfl
  · simp only [isNameChar, Bool.and_eq_true, Bool.not_eq_true'] at hname
    exact hname.1.2
  · decide

/-- A path ends in a character of a name or in a colon. -/
theorem getLast?_ne_of_isPath (h : IsPath cs) (hc : isNameChar c = false) (hcolon : c ≠ ':') :
    cs.getLast? ≠ some c := fun hlast =>
  not_mem_of_isPath h hc hcolon (List.mem_of_getLast? hlast)

/-- The name of a primitive is a path of one segment. -/
theorem Primitive.isPath_name (p : Primitive) : IsPath p.name.toList := by
  cases p with
  | integer signed width => cases signed <;> cases width <;> decide
  | float double => cases double <;> decide
  | _ => decide

namespace UserPath

/-- The segments of a path are names, so none of them holds a separator. -/
theorem colon_not_mem_name (p : UserPath) : ':' ∉ p.name.toList := fun h =>
  absurd (p.parts_plain p.name List.mem_cons_self ':' h) (by decide)

theorem isPath_text (p : UserPath) : IsPath p.text := by
  refine ⟨fun hnil => p.name_ne_empty ?_, fun c hc => ?_⟩
  · exact String.toList_inj.mp (List.append_eq_nil_iff.mp hnil).2
  · rcases List.mem_append.mp hc with hfront | hname
    · obtain ⟨m, hm, hc⟩ := List.mem_flatMap.mp hfront
      rcases List.mem_append.mp hc with hc | hc
      · exact .inl (p.parts_plain m (List.mem_cons_of_mem _ hm) c hc)
      · right
        simpa using hc
    · exact .inl (p.parts_plain _ List.mem_cons_self c hname)

/-- A path is a name alone, or a name behind a separator. -/
theorem text_cases (p : UserPath) :
    p.text = p.name.toList ∨ ∃ pre, p.text = pre ++ ':' :: ':' :: p.name.toList := by
  unfold text front
  rcases List.eq_nil_or_concat p.modules with hnil | ⟨modules, m, hmodules⟩
  · left
    rw [hnil, List.flatMap_nil, List.nil_append]
  · right
    refine ⟨modules.flatMap (fun m => m.toList ++ [':', ':']) ++ m.toList, ?_⟩
    rw [hmodules]
    simp

theorem lastSegment_text (p : UserPath) : TypeName.lastSegment p.text = p.name.toList := by
  rcases p.text_cases with h | ⟨pre, h⟩
  · rw [h, TypeName.lastSegment_of_not_mem p.colon_not_mem_name]
  · rw [h, TypeName.lastSegment_behind pre p.colon_not_mem_name]

end UserPath

/-! ### Reference marks -/

/-- A text behind some reference marks. -/
def behindMarks (marks : Nat) (cs : List Char) : List Char := List.replicate marks '&' ++ cs

theorem behindMarks_zero (cs : List Char) : behindMarks 0 cs = cs := rfl

theorem behindMarks_succ (marks : Nat) (cs : List Char) :
    behindMarks (marks + 1) cs = '&' :: behindMarks marks cs := rfl

/-- A mark of the text counts with those in front of it. -/
theorem behindMarks_cons (marks : Nat) (cs : List Char) :
    behindMarks marks ('&' :: cs) = behindMarks (marks + 1) cs := by
  rw [behindMarks, behindMarks, List.replicate_succ', List.append_assoc, List.singleton_append]

theorem getLast?_behindMarks (marks : Nat) (h : cs.getLast? = some c) :
    (behindMarks marks cs).getLast? = some c := by
  rw [behindMarks, List.getLast?_append, h, Option.some_or]

/-- A text that is no reference and needs no trimming: lowering leaves it whole. -/
structure Solid (cs : List Char) : Prop where
  head : ∃ c rest, cs = c :: rest ∧ isBlank c = false ∧ c ≠ '&' ∧ c ≠ '\''
  last : ∃ c, cs.getLast? = some c ∧ isBlank c = false
  not_mut : ¬ ['m', 'u', 't', ' '] <+: cs

theorem solid_of_isPath (h : IsPath cs) : Solid cs := by
  obtain ⟨c, rest, rfl⟩ := List.exists_cons_of_ne_nil h.1
  refine ⟨⟨c, rest, rfl, not_isBlank_of_isPath h List.mem_cons_self, ?_, ?_⟩, ?_, fun hmut => ?_⟩
  · rintro rfl
    exact not_mem_of_isPath h (by decide) (by decide) List.mem_cons_self
  · rintro rfl
    exact not_mem_of_isPath h (by decide) (by decide) List.mem_cons_self
  -- Neither end is a blank, and the blank of a mutability would be in the path.
  · have hlast := List.getLast?_eq_some_getLast h.1
    exact ⟨_, hlast, not_isBlank_of_isPath h (List.mem_of_getLast? hlast)⟩
  · have hblank : isBlank ' ' = false := not_isBlank_of_isPath h (hmut.subset (by simp))
    exact absurd hblank (by decide)

/-- A path with arguments is solid, whatever the arguments are. -/
theorem solid_appliedTo (h : IsPath path) (args : List Char) : Solid (appliedTo path args) := by
  obtain ⟨c, rest, hpath, hc⟩ := (solid_of_isPath h).head
  refine ⟨⟨c, _, congrArg (· ++ _) hpath, hc⟩, ⟨'>', ?_, by decide⟩, fun hmut => ?_⟩
  · rw [appliedTo, ← List.cons_append, ← List.append_assoc, List.getLast?_concat]
  · -- The blank behind the mutability would stand in the path, which ends before the bracket.
    have hopened : path ++ ['<'] <+: appliedTo path args := ⟨args ++ ['>'], by simp [appliedTo]⟩
    rcases List.prefix_or_prefix_of_prefix hmut hopened with hin | hin
    · rcases List.mem_append.mp (hin.subset (show ' ' ∈ _ by simp)) with hblank | hblank
      · exact absurd (not_isBlank_of_isPath h hblank) (by decide)
      · exact absurd hblank (by decide)
    · exact absurd (hin.subset (List.mem_append_right _ List.mem_cons_self)) (by decide)

theorem solid_bracketed (cs : List Char) : Solid ('[' :: (cs ++ [']'])) :=
  ⟨⟨'[', _, rfl, by decide⟩, ⟨']', by rw [← List.cons_append, List.getLast?_concat], by decide⟩,
    by simp⟩

/-- Every full name is a solid text behind some reference marks. -/
theorem exists_solid : (t : TypeExpr) →
    ∃ marks cs, Solid cs ∧ t.text = behindMarks marks cs
  | .primitive p => ⟨0, _, solid_of_isPath p.isPath_name, rfl⟩
  | .string => ⟨0, _, solid_of_isPath stringPath.isPath, rfl⟩
  | .user path [] => ⟨0, _, solid_of_isPath path.isPath_text, rfl⟩
  | .user path (_ :: _) => ⟨0, _, solid_appliedTo path.isPath_text _, rfl⟩
  | .sequence c _ => ⟨0, _, solid_appliedTo c.path.isPath _, rfl⟩
  | .wrapper c _ => ⟨0, _, solid_appliedTo c.path.isPath _, rfl⟩
  | .map c _ _ => ⟨0, _, solid_appliedTo c.path.isPath _, rfl⟩
  | .slice _ => ⟨0, _, solid_bracketed _, rfl⟩
  | .array t n => ⟨0, _, solid_bracketed (t.text ++ ';' :: ' ' :: Nat.toDigits 10 n), by
      simp [TypeExpr.text, behindMarks_zero]⟩
  | .reference t => by
    obtain ⟨marks, cs, hsolid, htext⟩ := exists_solid t
    exact ⟨marks + 1, cs, hsolid, congrArg (List.cons '&') htext⟩

/-- A solid text behind marks has no blank at its ends. -/
theorem trim_behindMarks (h : Solid cs) (marks : Nat) :
    trim (behindMarks marks cs) = behindMarks marks cs := by
  obtain ⟨⟨c, rest, rfl, hc, -, -⟩, ⟨d, hlast, hd⟩, -⟩ := h
  refine trim_of_ends (fun e he => ?_) fun e he => ?_
  · cases marks with
    | zero => cases he; exact hc
    | succ marks => cases he; decide
  · rw [getLast?_behindMarks marks hlast] at he
    cases he
    exact hd

/-- Of a reference without a lifetime and mutability only the mark is dropped. -/
theorem stripReference_mark {rest : List Char} (hblank : isBlank c = false) (hquote : c ≠ '\'')
    (hmut : ¬ ['m', 'u', 't', ' '] <+: c :: rest) :
    stripReference ('&' :: c :: rest) = c :: rest := by
  have hkept : trimLeft (c :: rest) = c :: rest :=
    trimLeft_of_head? fun d hd => by cases hd; exact hblank
  unfold stripReference
  split
  · next referent heq =>
    cases heq
    split
    · next heq => cases heq; exact absurd rfl hquote
    · simp only [hkept]
      split
      · next cs heq => exact absurd ⟨cs, heq.symm⟩ hmut
      · exact hkept
  · next hno => exact absurd rfl (hno _)

/-- Of several marks one is dropped, and a solid text without marks stays. -/
theorem stripReference_behindMarks (h : Solid cs) (marks : Nat) :
    stripReference (behindMarks marks cs) = behindMarks (marks - 1) cs := by
  obtain ⟨⟨c, rest, rfl, hblank, hamp, hquote⟩, -, hmut⟩ := h
  match marks with
  | 0 =>
    rw [Nat.zero_sub, behindMarks_zero]
    unfold stripReference
    split
    · next heq => cases heq; exact absurd rfl hamp
    · rfl
  -- The last mark stands before the text itself, any other before a mark.
  | 1 => exact stripReference_mark hblank hquote hmut
  | marks + 2 => exact stripReference_mark (by decide) (by decide) (by simp)

/-! ### Heads and arguments -/

theorem enclosed?_enclosing (left right : Char) (cs : List Char) :
    enclosed? left right (left :: (cs ++ [right])) = some cs := by
  rw [enclosed?, if_pos ⟨rfl, List.getLast?_concat⟩, List.dropLast_concat]

/-- A path and its arguments are told apart at the first bracket. -/
theorem headAndArg_appliedTo (h : '<' ∉ path) (args : List Char) :
    headAndArg (appliedTo path args) = (path, firstArgFrom 0 [] args) := by
  have hpath : ∀ c ∈ path, (c != '<') = true := fun c hc =>
    bne_iff_ne.mpr fun heq => h (heq ▸ hc)
  have hdrop : (appliedTo path args).dropWhile (· != '<') = '<' :: (args ++ ['>']) := by
    rw [appliedTo, List.dropWhile_append_of_pos hpath, List.dropWhile_cons_of_neg (by simp)]
  have htake : (appliedTo path args).takeWhile (· != '<') = path := by
    rw [appliedTo, List.takeWhile_append_of_pos hpath, List.takeWhile_cons_of_neg (by simp),
      List.append_nil]
  rw [headAndArg, hdrop, htake, enclosed?_enclosing]

theorem enclosed?_of_getLast? {left right : Char} (h : cs.getLast? ≠ some right) :
    enclosed? left right cs = none := by
  cases cs with
  | nil => rfl
  | cons c cs =>
    refine if_neg fun henclosed => h ?_
    rw [List.getLast?_cons, henclosed.2]
    rfl

/-- Only a text that ends in a bracket has arguments. -/
theorem headAndArg_of_getLast? (h : cs.getLast? ≠ some '>') : headAndArg cs = (cs, none) := by
  have hnone : enclosed? '<' '>' (cs.dropWhile (· != '<')) = none := by
    refine enclosed?_of_getLast? fun hlast => h ?_
    obtain ⟨pre, hpre⟩ := List.dropWhile_suffix (l := cs) (· != '<')
    rw [← hpre, List.getLast?_append, hlast, Option.some_or]
  rw [headAndArg, hnone]

/-- A path, with arguments or without. -/
def headed (path : List Char) : Option (List Char) → List Char
  | none => path
  | some args => appliedTo path args

theorem solid_headed (h : IsPath path) : (args : Option (List Char)) → Solid (headed path args)
  | none => solid_of_isPath h
  | some args => solid_appliedTo h args

theorem behindMarks_appliedTo (marks : Nat) (path args : List Char) :
    behindMarks marks (appliedTo path args) = appliedTo (behindMarks marks path) args := by
  rw [behindMarks, behindMarks, appliedTo, appliedTo, List.append_assoc]

/-- Behind marks a path and its arguments are told apart as well; the marks stay with the path. -/
theorem headAndArg_headed (h : IsPath path) (marks : Nat) : (args : Option (List Char)) →
    headAndArg (behindMarks marks (headed path args))
      = (behindMarks marks path, args.bind (firstArgFrom 0 []))
  | none => by
    have hlast := List.getLast?_eq_some_getLast h.1
    -- Without arguments the path is at the end, and no path ends in a bracket.
    refine headAndArg_of_getLast? fun hend => ?_
    rw [headed, getLast?_behindMarks marks hlast] at hend
    exact getLast?_ne_of_isPath h (by decide) (by decide) (hlast.trans hend)
  | some args => by
    have hpath : '<' ∉ behindMarks marks path := by
      simp [behindMarks, not_mem_of_isPath h (c := '<') (by decide) (by decide)]
    rw [headed, behindMarks_appliedTo, headAndArg_appliedTo hpath, Option.bind_some]

/-- A path is not taken for a slice, with arguments or without. -/
theorem enclosed?_headed (h : IsPath path) (marks : Nat) (args : Option (List Char)) :
    enclosed? '[' ']' (behindMarks marks (headed path args)) = none := by
  have hlast : (headed path args).getLast? ≠ some ']' := by
    cases args with
    | none => exact getLast?_ne_of_isPath h (by decide) (by decide)
    | some args =>
      rw [headed, appliedTo, ← List.cons_append, ← List.append_assoc, List.getLast?_concat]
      decide
  obtain ⟨c, hc, -⟩ := (solid_headed h args).last
  refine enclosed?_of_getLast? ?_
  rwa [getLast?_behindMarks marks hc, ← hc]

/-! ### Reading an argument -/

section

variable {depth least : Nat} {arg rest : List Char}

/-- A bracket that opens is kept and counted. -/
theorem firstArgFrom_opening (h : c = '<' ∨ c = '[' ∨ c = '(') :
    firstArgFrom depth arg (c :: cs) = firstArgFrom (depth + 1) (c :: arg) cs := by
  rw [firstArgFrom, if_pos h]

theorem firstArgFrom_closing (h : c = '>' ∨ c = ']' ∨ c = ')') :
    firstArgFrom depth arg (c :: cs) = firstArgFrom (depth - 1) (c :: arg) cs := by
  have hopening : ¬ (c = '<' ∨ c = '[' ∨ c = '(') := by rcases h with rfl | rfl | rfl <;> decide
  rw [firstArgFrom, if_neg hopening, if_pos h]

theorem firstArgFrom_of_not_isMark (h : isMark c = false) :
    firstArgFrom depth arg (c :: cs) = firstArgFrom depth (c :: arg) cs := by
  simp only [isMark, List.contains_eq_mem, List.mem_cons, List.not_mem_nil, or_false,
    decide_eq_false_iff_not, not_or] at h
  rw [firstArgFrom, if_neg (by simp [h]), if_neg (by simp [h]), if_neg (by simp [h])]

/-- Inside of brackets a comma ends nothing. -/
theorem firstArgFrom_comma (h : 0 < depth) :
    firstArgFrom depth arg (',' :: cs) = firstArgFrom depth (',' :: arg) cs := by
  rw [firstArgFrom, if_neg (by decide), if_neg (by decide), if_neg fun hend => by omega]

/-- A text that is read over inside `least` brackets and more, and leaves their number as it is. -/
def PassesIn (least : Nat) (cs : List Char) : Prop :=
  ∀ depth arg rest, least ≤ depth →
    firstArgFrom depth arg (cs ++ rest) = firstArgFrom depth (cs.reverse ++ arg) rest

namespace PassesIn

theorem nil : PassesIn least [] := fun _ _ _ _ => rfl

theorem append (hcs : PassesIn least cs) (hds : PassesIn least ds) :
    PassesIn least (cs ++ ds) := fun depth arg rest h => by
  rw [List.append_assoc, hcs _ _ _ h, hds _ _ _ h, List.reverse_append, List.append_assoc]

theorem cons (hc : PassesIn least [c]) (hcs : PassesIn least cs) : PassesIn least (c :: cs) :=
  hc.append hcs

/-- What is read over anywhere is read over inside of brackets. -/
theorem mono (h : PassesIn 0 cs) : PassesIn least cs := fun _ _ _ _ => h _ _ _ (Nat.zero_le _)

/-- A text without brackets and commas is read over anywhere. -/
theorem of_not_isMark (h : ∀ c ∈ cs, isMark c = false) : PassesIn least cs := by
  induction cs with
  | nil => exact nil
  | cons c cs ih =>
    refine cons (fun depth arg rest _ => ?_) (ih fun d hd => h d (List.mem_cons_of_mem _ hd))
    exact firstArgFrom_of_not_isMark (h c List.mem_cons_self)

theorem single {c : Char} (h : isMark c = false) : PassesIn least [c] :=
  of_not_isMark fun _ hd => List.mem_singleton.mp hd ▸ h

theorem comma : PassesIn 1 [','] := fun _ _ _ h => firstArgFrom_comma h

/-- What passes in brackets passes with them anywhere. -/
theorem enclosed {left right : Char} (hleft : left = '<' ∨ left = '[' ∨ left = '(')
    (hright : right = '>' ∨ right = ']' ∨ right = ')') (h : PassesIn 1 cs) :
    PassesIn 0 (left :: (cs ++ [right])) := fun depth arg rest _ => by
  rw [List.cons_append, firstArgFrom_opening hleft, List.append_assoc, h _ _ _ (by omega),
    List.singleton_append, firstArgFrom_closing hright, Nat.add_sub_cancel]
  simp

end PassesIn

end

theorem isMark_of_isPath (h : IsPath path) (hc : c ∈ path) : isMark c = false := by
  rcases h.2 c hc with hname | rfl
  · simp only [isNameChar, Bool.and_eq_true, Bool.not_eq_true'] at hname
    exact hname.1.1
  · decide

/-- Arguments that pass inside of their brackets pass anywhere behind their path. -/
theorem passesIn_appliedTo (h : IsPath path) (hargs : PassesIn 1 cs) :
    PassesIn 0 (appliedTo path cs) :=
  (PassesIn.of_not_isMark fun _ => isMark_of_isPath h).append
    (.enclosed (.inl rfl) (.inl rfl) hargs)

theorem passesIn_digits (n : Nat) : PassesIn 1 (Nat.toDigits 10 n) :=
  .of_not_isMark fun c hc => by
    have hdigit : c.isDigit = true := Nat.isDigit_of_mem_toDigits (by decide) (by decide) hc
    refine Bool.eq_false_iff.mpr fun hmark => ?_
    simp only [isMark, List.contains_eq_mem, List.mem_cons, List.not_mem_nil, or_false,
      decide_eq_true_eq] at hmark
    rcases hmark with rfl | rfl | rfl | rfl | rfl | rfl | rfl <;> exact absurd hdigit (by decide)

/-- Arguments are separated by a comma and a blank. -/
theorem passesIn_separated (hcs : PassesIn 0 cs) (hds : PassesIn 1 ds) :
    PassesIn 1 (cs ++ ',' :: ' ' :: ds) :=
  hcs.mono.append (.cons .comma (.cons (.single (by decide)) hds))

mutual

/-- No constant among the arguments that are written in a type holds a bracket or a comma. -/
def TypeExpr.Unmarked : TypeExpr → Prop
  | .primitive _ | .string => True
  | .user _ args => ArgumentsUnmarked args
  | .sequence _ t | .wrapper _ t | .reference t | .slice t | .array t _ => t.Unmarked
  | .map _ k v => k.Unmarked ∧ v.Unmarked

/-- No constant in an argument holds a bracket or a comma. -/
def TypeArgument.Unmarked : TypeArgument → Prop
  | .type t => t.Unmarked
  | .literal text => ∀ c ∈ text, isMark c = false

/-- No constant in any of the arguments holds a bracket or a comma. -/
def ArgumentsUnmarked : List TypeArgument → Prop
  | [] => True
  | a :: args => a.Unmarked ∧ ArgumentsUnmarked args

end

mutual

/-- A full name is read over if the only brackets in it are those of its types. -/
theorem passesIn_text : (t : TypeExpr) → t.Unmarked → PassesIn 0 t.text
  | .primitive p, _ => .of_not_isMark fun _ => isMark_of_isPath p.isPath_name
  | .string, _ => .of_not_isMark fun _ => isMark_of_isPath stringPath.isPath
  | .user path [], _ => .of_not_isMark fun _ => isMark_of_isPath path.isPath_text
  | .user path (a :: args), h =>
    passesIn_appliedTo path.isPath_text
      ((passesIn_argument a h.1).mono.append (passesIn_moreArguments args h.2))
  | .sequence c t, h => passesIn_appliedTo c.path.isPath (passesIn_text t h).mono
  | .wrapper c t, h => passesIn_appliedTo c.path.isPath (passesIn_text t h).mono
  | .map c k v, h =>
    passesIn_appliedTo c.path.isPath
      (passesIn_separated (passesIn_text k h.1) (passesIn_text v h.2).mono)
  | .reference t, h => .cons (.single (by decide)) (passesIn_text t h)
  | .slice t, h => .enclosed (.inr (.inl rfl)) (.inr (.inl rfl)) (passesIn_text t h).mono
  | .array t n, h => by
    have hlength : PassesIn 1 (';' :: ' ' :: Nat.toDigits 10 n) :=
      .cons (.single (by decide)) (.cons (.single (by decide)) (passesIn_digits n))
    simpa [TypeExpr.text] using PassesIn.enclosed (.inr (.inl rfl)) (.inr (.inl rfl))
      ((passesIn_text t h).mono.append hlength)

/-- An argument is a type, or a constant without brackets and commas. -/
theorem passesIn_argument : (a : TypeArgument) → a.Unmarked → PassesIn 0 a.text
  | .type t, h => passesIn_text t h
  | .literal _, h => .of_not_isMark h

/-- Further arguments stand behind commas, so they pass inside of brackets only. -/
theorem passesIn_moreArguments : (args : List TypeArgument) → ArgumentsUnmarked args →
    PassesIn 1 (moreArgumentsText args)
  | [], _ => .nil
  | a :: args, h =>
    .cons .comma (.cons (.single (by decide))
      ((passesIn_argument a h.1).mono.append (passesIn_moreArguments args h.2)))

end

/-- **A full name alone is one argument.** -/
theorem firstArgFrom_text {t : TypeExpr} (h : t.Unmarked) :
    firstArgFrom 0 [] t.text = some t.text := by
  obtain ⟨marks, cs, hsolid, htext⟩ := exists_solid t
  have htrim : trim t.text = t.text := htext ▸ trim_behindMarks hsolid marks
  have hne : t.text ≠ [] := by
    obtain ⟨c, rest, rfl, -⟩ := hsolid.head
    simp [htext, behindMarks]
  -- Read over from the start, the name is all there is before the end.
  have hpassed : firstArgFrom 0 [] t.text = firstArgFrom 0 t.text.reverse [] := by
    simpa using passesIn_text t h 0 [] [] (Nat.le_refl 0)
  rw [hpassed, firstArgFrom, List.reverse_reverse, htrim, if_neg (by simpa using hne)]

end Callpoint
