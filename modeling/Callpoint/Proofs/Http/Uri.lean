import Callpoint.Http.Uri
import Callpoint.Proofs.Http.Form
import Callpoint.Proofs.Results
import Callpoint.Proofs.Text.Lines

/-!
# Absolute paths as targets

A text that begins with a slash and has no fragment is a target when it is short enough and each of
its characters is allowed where it stands (`parse_eq_ok_iff`).  Its path is what stands in front of
the first question mark, and its query is what stands behind it.  Pairs are added behind a text,
each with the separator that the text calls for (`addPair`): this adds them to its pairs
(`pairsOf_addPair`) and leaves it a target if it is one (`clean_addPair`).
-/

namespace Callpoint.Http.Uri

open Callpoint.Text

/-! ### Parts of a text -/

/-- What stands in front of the first question mark. -/
def pathOf (cs : List Char) : List Char := cs.takeWhile (· ≠ '?')

/-- What stands behind the first question mark, if there is one. -/
def queryOf (cs : List Char) : Option (List Char) := (cutAtFirst '?' cs).map Prod.snd

/-- **Every character is allowed where it stands.** -/
structure Clean (cs : List Char) : Prop where
  path : ∀ c ∈ pathOf cs, isPathChar c = true
  query : ∀ q ∈ queryOf cs, ∀ c ∈ q, isQueryChar c = true

/-- **An absolute path**, perhaps with a query, and without a fragment. -/
structure Absolute (cs : List Char) : Prop where
  slash : cs.head? = some '/'
  noFragment : '#' ∉ cs

/-- The pairs of the query of a text. -/
def pairsOf (cs : List Char) : List (String × String) :=
  match queryOf cs with
  | some q => Form.decodePairs q
  | none => []

/-- The character that begins a query, or goes on with the one that there is. -/
def separator (cs : List Char) : Char := if '?' ∈ cs then '&' else '?'

/-- A text with one more pair behind it. -/
def addPair (cs : List Char) (p : String × String) : List Char :=
  cs ++ separator cs :: Form.encodePair p

/-! ### Path and query -/

theorem pathOf_mark (cs : List Char) : pathOf ('?' :: cs) = [] := rfl

theorem queryOf_mark (cs : List Char) : queryOf ('?' :: cs) = some cs := rfl

theorem pathOf_cons {c : Char} (h : c ≠ '?') (cs : List Char) :
    pathOf (c :: cs) = c :: pathOf cs :=
  List.takeWhile_cons_of_pos (decide_eq_true h)

theorem queryOf_cons {c : Char} (h : c ≠ '?') (cs : List Char) :
    queryOf (c :: cs) = queryOf cs := by
  unfold queryOf
  rw [cutAtFirst, if_neg h, Option.map_map]
  rfl

/-- Behind a question mark everything is query. -/
theorem clean_mark {cs : List Char} :
    Clean ('?' :: cs) ↔ ∀ c ∈ cs, isQueryChar c = true := by
  constructor
  · intro h
    exact h.query cs rfl
  · intro h
    refine ⟨fun c hc => absurd hc List.not_mem_nil, fun q hq => ?_⟩
    rwa [← Option.some.inj hq]

theorem clean_cons {c : Char} (h : c ≠ '?') {cs : List Char} :
    Clean (c :: cs) ↔ isPathChar c = true ∧ Clean cs := by
  constructor
  · rintro ⟨hpath, hquery⟩
    rw [pathOf_cons h, List.forall_mem_cons] at hpath
    rw [queryOf_cons h] at hquery
    exact ⟨hpath.1, hpath.2, hquery⟩
  · rintro ⟨hc, hpath, hquery⟩
    refine ⟨?_, ?_⟩
    · rw [pathOf_cons h, List.forall_mem_cons]
      exact ⟨hc, hpath⟩
    · rwa [queryOf_cons h]

/-! ### Parsing -/

/-- A query without a fragment is read whole, if all of it is allowed. -/
theorem parseQuery_eq_ok_iff {cs q : List Char} (h : '#' ∉ cs) :
    parseQuery cs = .ok q ↔ (∀ c ∈ cs, isQueryChar c = true) ∧ q = cs := by
  induction cs generalizing q with
  | nil =>
    rw [parseQuery, Except.ok.injEq, eq_comm]
    simp
  | cons c cs ih =>
    obtain ⟨hc, hcs⟩ := List.ne_and_not_mem_of_not_mem_cons h
    rw [parseQuery, if_neg (Ne.symm hc), List.forall_mem_cons]
    split
    · next hquery =>
      constructor
      · intro hok
        obtain ⟨rest, hrest, rfl⟩ := map_eq_ok_iff.mp hok
        obtain ⟨hall, rfl⟩ := (ih hcs).mp hrest
        exact ⟨⟨hquery, hall⟩, rfl⟩
      · rintro ⟨⟨-, hall⟩, rfl⟩
        rw [(ih hcs).mpr ⟨hall, rfl⟩]
        rfl
    · next hquery =>
      simp [hquery]

/-- **A path and its query are read as they stand.** -/
theorem parsePath_eq_ok_iff {cs : List Char} {u : List Char × Option (List Char)} (h : '#' ∉ cs) :
    parsePath cs = .ok u ↔ Clean cs ∧ u = (pathOf cs, queryOf cs) := by
  induction cs generalizing u with
  | nil =>
    have hclean : Clean [] := ⟨fun c hc => absurd hc List.not_mem_nil, fun q hq => by cases hq⟩
    rw [parsePath, Except.ok.injEq, eq_comm, and_iff_right hclean]
    rfl
  | cons c cs ih =>
    obtain ⟨hc, hcs⟩ := List.ne_and_not_mem_of_not_mem_cons h
    rw [parsePath]
    split
    -- At the question mark the path ends and the query begins.
    · next hmark =>
      subst hmark
      rw [clean_mark, pathOf_mark, queryOf_mark]
      constructor
      · intro hok
        obtain ⟨q, hq, rfl⟩ := map_eq_ok_iff.mp hok
        obtain ⟨hall, rfl⟩ := (parseQuery_eq_ok_iff hcs).mp hq
        exact ⟨hall, rfl⟩
      · rintro ⟨hall, rfl⟩
        rw [(parseQuery_eq_ok_iff hcs).mpr ⟨hall, rfl⟩]
        rfl
    · next hmark =>
      rw [if_neg (Ne.symm hc), clean_cons hmark, pathOf_cons hmark, queryOf_cons hmark]
      split
      · next hpath =>
        constructor
        · intro hok
          obtain ⟨v, hv, rfl⟩ := map_eq_ok_iff.mp hok
          obtain ⟨hclean, rfl⟩ := (ih hcs).mp hv
          exact ⟨⟨hpath, hclean⟩, rfl⟩
        · rintro ⟨⟨-, hclean⟩, rfl⟩
          rw [(ih hcs).mpr ⟨hclean, rfl⟩]
          rfl
      · next hpath =>
        simp [hpath]

/-- A text that begins with a slash has neither a scheme nor a host. -/
theorem parse_of_slash {s : String} (h : s.toList.head? = some '/') :
    parse s = if 65534 < s.utf8ByteSize then .error .tooLong
      else (parsePath s.toList).map fun u => ⟨none, none, u.1, u.2⟩ := by
  obtain ⟨cs, hcs⟩ := List.head?_eq_some_iff.mp h
  unfold parse
  rw [hcs]
  split
  · rfl
  · -- A slash alone has a case of its own, which says the same.
    cases cs with
    | nil => rfl
    | cons c cs =>
      show (parsePath ('/' :: c :: cs) >>= fun u => Except.ok _) = _
      cases parsePath ('/' :: c :: cs) <;> rfl

/-- **What target an absolute path is.** -/
theorem parse_eq_ok_iff {s : String} {u : Uri} (h : Absolute s.toList) :
    parse s = .ok u ↔ s.utf8ByteSize ≤ 65534 ∧ Clean s.toList
      ∧ u = ⟨none, none, pathOf s.toList, queryOf s.toList⟩ := by
  rw [parse_of_slash h.slash]
  split
  · next hlong =>
    simp [Nat.not_le.mpr hlong]
  · next hshort =>
    rw [and_iff_right (Nat.not_lt.mp hshort)]
    constructor
    · intro hok
      obtain ⟨v, hv, rfl⟩ := map_eq_ok_iff.mp hok
      obtain ⟨hclean, rfl⟩ := (parsePath_eq_ok_iff h.noFragment).mp hv
      exact ⟨hclean, rfl⟩
    · rintro ⟨hclean, rfl⟩
      rw [(parsePath_eq_ok_iff h.noFragment).mpr ⟨hclean, rfl⟩]
      rfl

/-! ### One more pair -/

theorem separator_mark (cs : List Char) : separator ('?' :: cs) = '&' :=
  if_pos List.mem_cons_self

theorem separator_cons {c : Char} (h : c ≠ '?') (cs : List Char) :
    separator (c :: cs) = separator cs := by
  have hmem : '?' ∈ c :: cs ↔ '?' ∈ cs := by
    rw [List.mem_cons, or_iff_right (Ne.symm h)]
  simp only [separator, hmem]

/-- Pairs are encoded in characters that a query allows. -/
theorem isQueryChar_of_mem_encodePair {p : String × String} {c : Char}
    (h : c ∈ Form.encodePair p) : isQueryChar c = true := by
  rcases Form.eq_or_isMark_of_mem_encodePair h with rfl | hmark
  · rfl
  · unfold Form.IsMark at hmark
    simp only [isQueryChar, Bool.or_eq_true, Bool.and_eq_true, beq_iff_eq, decide_eq_true_eq]
    omega

/-- **What stands in a query grows by the pair, and nothing else changes.** -/
theorem queryOf_addPair (cs : List Char) (p : String × String) :
    queryOf (addPair cs p) = some (match queryOf cs with
      | some q => q ++ '&' :: Form.encodePair p
      | none => Form.encodePair p) := by
  induction cs with
  | nil => exact queryOf_mark _
  | cons c cs ih =>
    -- The first question mark decides, so the induction runs up to it.
    by_cases hmark : c = '?'
    · subst hmark
      unfold addPair
      rw [separator_mark, List.cons_append, queryOf_mark, queryOf_mark]
    · unfold addPair at ih ⊢
      rw [separator_cons hmark, List.cons_append, queryOf_cons hmark, queryOf_cons hmark, ih]

/-- Every character of a pair is allowed in a query. -/
theorem clean_addPair {cs : List Char} {p : String × String} :
    Clean (addPair cs p) ↔ Clean cs := by
  have hpair : ∀ c ∈ Form.encodePair p, isQueryChar c = true := fun _ hc =>
    isQueryChar_of_mem_encodePair hc
  induction cs with
  | nil =>
    have hclean : Clean [] := ⟨fun c hc => absurd hc List.not_mem_nil, fun q hq => by cases hq⟩
    exact iff_of_true (clean_mark.mpr hpair) hclean
  | cons c cs ih =>
    unfold addPair at ih ⊢
    by_cases hmark : c = '?'
    · subst hmark
      have hrest : ∀ c ∈ '&' :: Form.encodePair p, isQueryChar c = true :=
        List.forall_mem_cons.mpr ⟨rfl, hpair⟩
      -- Behind the mark the separator is allowed, too.
      rw [separator_mark, List.cons_append, clean_mark, clean_mark, List.forall_mem_append,
        and_iff_left hrest]
    · rw [separator_cons hmark, List.cons_append, clean_cons hmark, clean_cons hmark]
      exact and_congr_right fun _ => ih

/-- **The pairs of a text with one more pair are its own, and then that one.** -/
theorem pairsOf_addPair (cs : List Char) (p : String × String) :
    pairsOf (addPair cs p) = pairsOf cs ++ [p] := by
  unfold pairsOf
  rw [queryOf_addPair]
  cases queryOf cs with
  | none => exact Form.decodePairs_encodePair p
  | some q =>
    show Form.decodePairs (q ++ '&' :: Form.encodePair p) = _
    rw [Form.decodePairs_append, Form.decodePairs_encodePair]

theorem Absolute.addPair {cs : List Char} (h : Absolute cs) (p : String × String) :
    Absolute (addPair cs p) := by
  obtain ⟨rest, rfl⟩ := List.head?_eq_some_iff.mp h.slash
  refine ⟨rfl, fun hmem => ?_⟩
  rcases List.mem_append.mp hmem with hmem | hmem
  · exact h.noFragment hmem
  · rcases List.mem_cons.mp hmem with hsep | hmem
    · unfold separator at hsep
      split at hsep <;> contradiction
    · rcases Form.eq_or_isMark_of_mem_encodePair hmem with heq | hmark
      · contradiction
      · revert hmark
        decide

end Callpoint.Http.Uri
