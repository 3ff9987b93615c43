import Callpoint.Probe.Draft
import Callpoint.Proofs.Http.Uri

/-!
# The query of a draft

Each pair that is added to a draft stands behind what was its target before
(`toList_fullTarget_withQuery`), so that the request has the pairs of the draft's target, and then
the added ones in order.  Pairs are no reason why a draft is no request, but for the length of the
target (`exists_build_addQuery_iff`).
-/

namespace Callpoint.Draft

open Callpoint.Http

variable {d : Draft}

/-- **A draft with more pairs in its query**, added one after the other. -/
def addQuery (d : Draft) (ps : List (String × String)) : Draft :=
  ps.foldl (fun d p => d.withQuery p.1 p.2) d

/-- Adding pairs changes nothing but the list of pairs. -/
theorem addQuery_eq (d : Draft) (ps : List (String × String)) :
    d.addQuery ps = { d with query := d.query ++ ps } := by
  unfold addQuery
  induction ps generalizing d with
  | nil => rw [List.foldl_nil, List.append_nil]
  | cons p ps ih => rw [List.foldl_cons, ih, withQuery, List.append_assoc, List.singleton_append]

/-! ### The target -/

theorem fullTarget_of_nil (h : d.query = []) : d.fullTarget = d.target := by
  unfold fullTarget
  rw [h]
  rfl

/-- Pairs stand behind the target, with the separator that the target calls for. -/
theorem toList_fullTarget_of_ne_nil (h : d.query ≠ []) :
    d.fullTarget.toList
      = d.target.toList ++ Uri.separator d.target.toList :: Form.encodePairs d.query := by
  unfold fullTarget Uri.separator
  rw [if_neg (by simpa using h)]
  by_cases hmark : '?' ∈ d.target.toList <;>
    simp [hmark, String.toList_append]

/-- **Each pair is added behind what is there.** -/
theorem toList_fullTarget_withQuery (d : Draft) (name value : String) :
    (d.withQuery name value).fullTarget.toList
      = Uri.addPair d.fullTarget.toList (name, value) := by
  have hne : (d.withQuery name value).query ≠ [] :=
    List.append_ne_nil_of_right_ne_nil _ (List.cons_ne_nil _ _)
  rw [toList_fullTarget_of_ne_nil hne]
  by_cases hquery : d.query = []
  · rw [fullTarget_of_nil hquery]
    show d.target.toList ++ _ :: Form.encodePairs (d.query ++ [(name, value)]) = _
    rw [hquery]
    rfl
  · -- The target has a query by now, begun by one of the pairs if not before.
    have hmark : '?' ∈ d.fullTarget.toList := by
      rw [toList_fullTarget_of_ne_nil hquery, Uri.separator]
      split
      · next hmem => exact List.mem_append_left _ hmem
      · exact List.mem_append_right _ List.mem_cons_self
    have hsep : Uri.separator d.fullTarget.toList = '&' := if_pos hmark
    show d.target.toList ++ _ :: Form.encodePairs (d.query ++ [(name, value)]) = _
    rw [Uri.addPair, hsep, toList_fullTarget_of_ne_nil hquery, Form.encodePairs_concat hquery,
      List.append_assoc, List.cons_append]
    rfl

/-- Pairs leave the beginning of a target alone. -/
theorem absolute_fullTarget_addQuery (h : Uri.Absolute d.fullTarget.toList)
    (ps : List (String × String)) : Uri.Absolute (d.addQuery ps).fullTarget.toList := by
  unfold addQuery
  induction ps generalizing d with
  | nil => exact h
  | cons p ps ih =>
    refine ih ?_
    rw [toList_fullTarget_withQuery]
    exact h.addPair p

/-- Encoded pairs have no character that a target must not have. -/
theorem clean_fullTarget_addQuery (d : Draft) (ps : List (String × String)) :
    Uri.Clean (d.addQuery ps).fullTarget.toList ↔ Uri.Clean d.fullTarget.toList := by
  unfold addQuery
  induction ps generalizing d with
  | nil => exact Iff.rfl
  | cons p ps ih =>
    rw [List.foldl_cons, ih, toList_fullTarget_withQuery, Uri.clean_addPair]

/-- **The pairs of the target of a draft are those of what was there, and then the added ones.** -/
theorem pairsOf_fullTarget_addQuery (d : Draft) (ps : List (String × String)) :
    Uri.pairsOf (d.addQuery ps).fullTarget.toList = Uri.pairsOf d.fullTarget.toList ++ ps := by
  unfold addQuery
  induction ps generalizing d with
  | nil => rw [List.foldl_nil, List.append_nil]
  | cons p ps ih =>
    rw [List.foldl_cons, ih, toList_fullTarget_withQuery, Uri.pairsOf_addPair, List.append_assoc,
      List.singleton_append]

theorem size_le_size_addQuery (d : Draft) (ps : List (String × String)) :
    d.fullTarget.utf8ByteSize ≤ (d.addQuery ps).fullTarget.utf8ByteSize := by
  unfold addQuery
  induction ps generalizing d with
  | nil => exact Nat.le_refl _
  | cons p ps ih =>
    have hstep : (d.withQuery p.1 p.2).fullTarget
        = d.fullTarget ++ String.ofList (Uri.separator d.fullTarget.toList
          :: Form.encodePair p) := by
      apply String.toList_injective
      rw [toList_fullTarget_withQuery, String.toList_append, String.toList_ofList]
      rfl
    calc d.fullTarget.utf8ByteSize
        ≤ (d.withQuery p.1 p.2).fullTarget.utf8ByteSize := by
          rw [hstep, String.utf8ByteSize_append]
          omega
      _ ≤ _ := ih _

theorem fullTarget_bare (d : Draft) : { d with query := [] }.fullTarget = d.target := rfl

/-- Every draft is one without pairs, to which its pairs were added. -/
theorem eq_addQuery (d : Draft) : { d with query := [] }.addQuery d.query = d := by
  rw [addQuery_eq, List.nil_append]

theorem absolute_fullTarget (h : Uri.Absolute d.target.toList) :
    Uri.Absolute d.fullTarget.toList := by
  have habsolute := absolute_fullTarget_addQuery (d := { d with query := [] })
    h d.query
  rwa [eq_addQuery] at habsolute

/-- A draft's own pairs stand behind those of its target. -/
theorem pairsOf_fullTarget (d : Draft) :
    Uri.pairsOf d.fullTarget.toList = Uri.pairsOf d.target.toList ++ d.query := by
  have hpairs := pairsOf_fullTarget_addQuery { d with query := [] } d.query
  rwa [eq_addQuery, fullTarget_bare] at hpairs

/-! ### The request -/

theorem parse_of_build {r : Request} (h : d.build = .ok r) :
    d.error = none ∧ Uri.parse d.fullTarget = .ok r.uri := by
  unfold build at h
  split at h
  · cases h
  · next hnone =>
    split at h
    · cases h
    · next uri hparse =>
      cases h
      exact ⟨hnone, hparse⟩

/-- A draft without an error is a request if its target can be parsed. -/
theorem exists_build_of_parse {uri : Uri} (hnone : d.error = none)
    (hparse : Uri.parse d.fullTarget = .ok uri) : ∃ r, d.build = .ok r := by
  unfold build
  rw [hnone]
  dsimp only
  rw [hparse]
  exact ⟨_, rfl⟩

/-- **When a draft is a request.** -/
theorem exists_build_iff (h : Uri.Absolute d.target.toList) :
    (∃ r, d.build = .ok r) ↔ d.error = none ∧ d.fullTarget.utf8ByteSize ≤ 65534
      ∧ Uri.Clean d.fullTarget.toList := by
  have hparse := fun u => Uri.parse_eq_ok_iff (u := u) (absolute_fullTarget h)
  constructor
  · rintro ⟨r, hr⟩
    obtain ⟨hnone, hok⟩ := parse_of_build hr
    obtain ⟨hsize, hclean, -⟩ := (hparse _).mp hok
    exact ⟨hnone, hsize, hclean⟩
  · rintro ⟨hnone, hsize, hclean⟩
    exact exists_build_of_parse hnone ((hparse _).mpr ⟨hsize, hclean, rfl⟩)

/-- **Pairs do not matter to whether a draft is a request**, but for the length of the target. -/
theorem exists_build_addQuery_iff (h : Uri.Absolute d.target.toList)
    (ps : List (String × String)) :
    (∃ r, (d.addQuery ps).build = .ok r)
      ↔ (∃ r, d.build = .ok r) ∧ (d.addQuery ps).fullTarget.utf8ByteSize ≤ 65534 := by
  have hadded : Uri.Absolute (d.addQuery ps).target.toList := by rwa [addQuery_eq]
  have herror : (d.addQuery ps).error = d.error := by rw [addQuery_eq]
  have hsize := size_le_size_addQuery d ps
  -- Of the three conditions only the length tells the two drafts apart.
  rw [exists_build_iff h, exists_build_iff hadded, clean_fullTarget_addQuery, herror]
  constructor
  · rintro ⟨hnone, hle, hclean⟩
    exact ⟨⟨hnone, Nat.le_trans hsize hle, hclean⟩, hle⟩
  · rintro ⟨⟨hnone, -, hclean⟩, hle⟩
    exact ⟨hnone, hle, hclean⟩

/-- The pairs of a request are those of the full target. -/
theorem queryPairs_of_build (h : Uri.Absolute d.target.toList) {r : Request}
    (hbuild : d.build = .ok r) : r.queryPairs = Uri.pairsOf d.fullTarget.toList := by
  obtain ⟨-, hparse⟩ := parse_of_build hbuild
  obtain ⟨-, -, huri⟩ := (Uri.parse_eq_ok_iff (absolute_fullTarget h)).mp hparse
  unfold Request.queryPairs
  rw [huri]
  rfl

/-- **A request has the pairs of its target's own query, and then exactly those that were added**,
in order.  It has them whatever characters they are made of, and when they are empty. -/
theorem queryPairs_addQuery (d : Draft) (habsolute : Uri.Absolute d.target.toList)
    (ps : List (String × String)) (r : Request) (hbuild : (d.addQuery ps).build = .ok r) :
    ∃ base, d.build = .ok base ∧ base.queryPairs = Uri.pairsOf d.target.toList ++ d.query
      ∧ r.queryPairs = base.queryPairs ++ ps := by
  have hadded : Uri.Absolute (d.addQuery ps).target.toList := by rwa [addQuery_eq]
  obtain ⟨⟨base, hbase⟩, -⟩ := (exists_build_addQuery_iff habsolute ps).mp ⟨r, hbuild⟩
  have hpairs := queryPairs_of_build habsolute hbase
  refine ⟨base, hbase, ?_, ?_⟩
  · rw [hpairs, pairsOf_fullTarget]
  · rw [queryPairs_of_build hadded hbuild, pairsOf_fullTarget_addQuery, hpairs]

/-- A draft whose target has a query that ends in a separator. -/
def secondPage : Draft := { method := "GET", target := "/search?page=2&" }

/-- Pairs with separators, with a character of two bytes, and without any character. -/
def oddPairs : List (String × String) := [("q", "a b"), ("", "50%+x&y=é"), ("", "")]

theorem encodePairs_oddPairs :
    Form.encodePairs oddPairs = "q=a+b&=50%25%2Bx%26y%3D%C3%A9&=".toList := by
  simp only [oddPairs, Form.encodePairs, List.map_cons, List.map_nil, Form.encodePair,
    Form.encodeText, Text.encode_eq_flatMap]
  decide

theorem pairsOf_secondPage : Uri.pairsOf secondPage.target.toList = [("page", "2")] := by
  have hquery : Uri.queryOf secondPage.target.toList
      = some (Form.encodePair ("page", "2") ++ ['&']) := by
    simp only [Form.encodePair, Form.encodeText, Text.encode_eq_flatMap]
    decide
  unfold Uri.pairsOf
  rw [hquery]
  dsimp only
  rw [Form.decodePairs_append, Form.decodePairs_encodePair]
  rfl

theorem exists_build_oddPairs : ∃ r, (secondPage.addQuery oddPairs).build = .ok r := by
  have hfull : (secondPage.addQuery oddPairs).fullTarget
      = "/search?page=2&&q=a+b&=50%25%2Bx%26y%3D%C3%A9&=" := by
    rw [addQuery_eq]
    show "/search?page=2&" ++ "&" ++ String.ofList (Form.encodePairs oddPairs) = _
    rw [encodePairs_oddPairs]
    rfl
  have hparse : Uri.parse (secondPage.addQuery oddPairs).fullTarget = .ok ⟨none, none,
      "/search".toList, some "page=2&&q=a+b&=50%25%2Bx%26y%3D%C3%A9&=".toList⟩ := by
    rw [hfull]
    rfl
  exact exists_build_of_parse rfl hparse

theorem queryPairs_addQuery_oddPairs :
    Uri.Absolute secondPage.target.toList ∧ ∃ r, (secondPage.addQuery oddPairs).build = .ok r
      ∧ r.queryPairs = [("page", "2"), ("q", "a b"), ("", "50%+x&y=é"), ("", "")] := by
  have habsolute : Uri.Absolute secondPage.target.toList := ⟨rfl, by decide⟩
  obtain ⟨r, hbuild⟩ := exists_build_oddPairs
  obtain ⟨base, -, hbase, hpairs⟩ :=
    queryPairs_addQuery secondPage habsolute oddPairs r hbuild
  refine ⟨habsolute, r, hbuild, ?_⟩
  rw [hpairs, hbase, pairsOf_secondPage]
  rfl

end Callpoint.Draft
