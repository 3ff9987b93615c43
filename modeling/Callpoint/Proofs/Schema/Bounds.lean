import Callpoint.Proofs.Number.Literal
import Callpoint.Proofs.Schema.Tokens

/-!
# Bounds in rules and facets

A rule text bounds numbers, lengths of texts and numbers of items.  Facets keep one bound on each
side, the last one that was read, but an exclusive flag that was set once stays.  So a value that
meets all rules can be shut out in one way only: the last bound on a side allows it as the very
limit, and another bound on that side is strict (`admits_ofRules_iff`).
-/

namespace Callpoint

open Callpoint.Number

/-! ### What rules ask for -/

/-- A limit on a side allows a number; a strict one does not allow itself. -/
def Side.Allows : Side → Bool → ℚ → ℚ → Prop
  | .lower, false, limit, x => limit ≤ x
  | .lower, true, limit, x => limit < x
  | .upper, false, limit, x => x ≤ limit
  | .upper, true, limit, x => x < limit

/-- **A bound on numbers.** -/
structure Bound where
  side : Side
  strict : Bool
  value : Int
deriving DecidableEq, Repr

/-- A number keeps within a bound. -/
def Bound.Holds (b : Bound) (x : ℚ) : Prop := b.side.Allows b.strict b.value x

namespace Rule

/-- The bound on numbers that a token stands for. -/
def Token.bound? (t : Token) : Option Bound :=
  match boundKind? t.name, t.param.bind integer? with
  | some (side, strict), some value => some ⟨side, strict, value⟩
  | _, _ => none

/-- The bounds on numbers in a rule text, in their order. -/
def bounds (rules : String) : List Bound := (tokens rules).filterMap Token.bound?

/-- **A bound on numbers is a small integer,** if it can be read at all: one of those that binary
numbers have exactly. -/
def Token.Exact (t : Token) : Prop :=
  (boundKind? t.name).isSome = true → ∀ param, t.param = some param →
    (finiteNumber? param).isSome = true → ∃ i, integer? param = some i ∧ i.natAbs ≤ 2 ^ 53

end Rule

/-- The value of a number. -/
def Json.value? : Json → Option ℚ
  | .number (.int i) => some i
  | .number (.float x) => x.value?
  | _ => none

/-- **A value meets the bounds in a rule text** as they are meant for a type. -/
structure Rule.Met (rules : String) (type : FieldType) (v : Json) : Prop where
  number : (Shape.ofType type).isNumeric = true → ∀ x, v.value? = some x →
    ∀ b ∈ bounds rules, b.Holds x
  text : Shape.ofType type = .string → ∀ s, v = .string s →
    ∀ t ∈ tokens rules, ∀ n, t.count? = some n →
      (t.name = "min" → n ≤ s.length) ∧ (t.name = "max" → s.length ≤ n) ∧
        (t.name = "len" → s.length = n)
  items : Shape.ofType type = .array → ∀ items, v = .array items →
    ∀ t ∈ tokens rules, ∀ n, t.count? = some n → t.name = "len" → items.length = n

namespace Facets

/-- The limit of numbers on a side. -/
def limit? (f : Facets) : Side → Option ℚ
  | .lower => f.minimum.bind Binary64.value?
  | .upper => f.maximum.bind Binary64.value?

/-- Whether the limit on a side is strict. -/
def isExclusive (f : Facets) : Side → Bool
  | .lower => f.exclusiveMinimum
  | .upper => f.exclusiveMaximum

/-- A number keeps to the limits. -/
def AdmitsNumber (f : Facets) (x : ℚ) : Prop :=
  ∀ side limit, f.limit? side = some limit → side.Allows (f.isExclusive side) limit x

/-- The length of a text keeps to the limits. -/
def AdmitsLength (f : Facets) (length : Nat) : Prop :=
  (∀ n, f.minLength = some n → n ≤ length) ∧ ∀ n, f.maxLength = some n → length ≤ n

/-- The number of items of an array keeps to the limits. -/
def AdmitsCount (f : Facets) (count : Nat) : Prop :=
  (∀ n, f.minItems = some n → n ≤ count) ∧ ∀ n, f.maxItems = some n → count ≤ n

/-- **Facets admit a value,** as far as its size goes. -/
structure Admits (f : Facets) (v : Json) : Prop where
  number : ∀ x, v.value? = some x → f.AdmitsNumber x
  text : ∀ s, v = .string s → f.AdmitsLength s.length
  items : ∀ items, v = .array items → f.AdmitsCount items.length

end Facets

/-! ### Bounds of numbers -/

namespace Rule

variable {shape : Shape} {t : Token} {r : Rule}

/-- What is read as an integer is read as a number. -/
theorem finiteNumber?_of_integer? {param : List Char} {i : Int} (h : integer? param = some i) :
    (finiteNumber? param).isSome = true := by
  obtain ⟨negative, n, hread, -, hn⟩ := binary?_of_integer? h
  rw [finiteNumber?, hread, Option.filter_some, if_pos (Binary64.isFinite_ofRatio_one negative hn)]
  rfl

/-- A small integer is read as itself. -/
theorem value?_of_finiteNumber? {param : List Char} {i : Int} {x : Binary64}
    (h : integer? param = some i) (hsmall : i.natAbs ≤ 2 ^ 53) (hx : finiteNumber? param = some x) :
    x.value? = some (i : ℚ) := by
  obtain ⟨y, hread, hfinite, hvalue⟩ := value?_of_integer? h hsmall
  rw [finiteNumber?, hread, Option.filter_some, if_pos hfinite] at hx
  exact Option.some.inj hx ▸ hvalue

/-- A token bounds numbers by its name and the integer that it is given. -/
theorem bound?_eq_some_iff {b : Bound} :
    t.bound? = some b ↔ boundKind? t.name = some (b.side, b.strict) ∧
      ∃ param, t.param = some param ∧ integer? param = some b.value := by
  constructor
  · intro h
    unfold Token.bound? at h
    split at h
    · next hkind hvalue =>
      cases h
      obtain ⟨param, hparam, hi⟩ := Option.bind_eq_some_iff.mp hvalue
      exact ⟨hkind, param, hparam, hi⟩
    · cases h
  · rintro ⟨hkind, param, hparam, hi⟩
    simp only [Token.bound?, hkind, hparam, Option.bind_some, hi]

/-- Under such a name the rule is made of the parameter, if that is a number. -/
theorem ofToken?_of_bound {side : Side} {strict : Bool} {param : List Char}
    (hshape : shape.isNumeric = true) (hkind : boundKind? t.name = some (side, strict))
    (hparam : t.param = some param) :
    ofToken? shape t = (finiteNumber? param).map (ofBound side strict) := by
  rw [ofToken?, hparam]
  -- Each of the names leads to the rule of its kind.
  unfold boundKind? at hkind
  split at hkind
  all_goals first
    | cases hkind
      next hname => simp only [hname, withParam?, sized?, numeric?, hshape, if_true]; rfl
    | exact nomatch hkind

/-- A token that bounds numbers says so. -/
theorem ofToken?_of_bound? {b : Bound} (hshape : shape.isNumeric = true) (hexact : t.Exact)
    (hb : t.bound? = some b) :
    ∃ x, ofToken? shape t = some (.ofBound b.side b.strict x) ∧
      x.value? = some (b.value : ℚ) := by
  obtain ⟨hkind, param, hparam, hvalue⟩ := bound?_eq_some_iff.mp hb
  have hsome := finiteNumber?_of_integer? hvalue
  obtain ⟨i, hi, hsmall⟩ := hexact (by rw [hkind]; rfl) param hparam hsome
  obtain rfl := Option.some.inj (hvalue.symm.trans hi)
  obtain ⟨x, hx⟩ := Option.isSome_iff_exists.mp hsome
  refine ⟨x, ?_, value?_of_finiteNumber? hvalue hsmall hx⟩
  rw [ofToken?_of_bound hshape hkind hparam, hx, Option.map_some]

/-- A token that does not bound numbers says nothing of bounds. -/
theorem ne_ofBound_of_bound? (hexact : t.Exact) (hb : t.bound? = none)
    (hr : ofToken? shape t = some r) (side : Side) (strict : Bool) (x : Binary64) :
    r ≠ .ofBound side strict x := by
  intro heq
  cases says_of_ofToken? hr with
  | @bound side' strict' param y hshape hkind hparam hy =>
    obtain ⟨i, hi, -⟩ := hexact (by rw [hkind]; rfl) param hparam (by rw [hy]; rfl)
    have hsome : t.bound? = some ⟨side', strict', i⟩ :=
      bound?_eq_some_iff.mpr ⟨hkind, param, hparam, hi⟩
    exact nomatch hb.symm.trans hsome
  | _ => cases side <;> cases heq

end Rule

/-! ### What facets keep of bounds -/

/-- The last of some bounds on a side. -/
def lastOn (side : Side) (bs : List Bound) : Option Bound :=
  (bs.filter fun b => decide (b.side = side)).getLast?

/-- Whether one of some bounds on a side is strict. -/
def strictOn (side : Side) (bs : List Bound) : Bool :=
  bs.any fun b => decide (b.side = side) && b.strict

/-- A bound that is read replaces the one on its side. -/
theorem lastOn_concat (side : Side) (bs : List Bound) (b : Bound) :
    lastOn side (bs ++ [b]) = if b.side = side then some b else lastOn side bs := by
  rw [lastOn, lastOn, List.filter_append]
  split
  · next h => rw [List.filter_cons_of_pos (by simpa using h), List.filter_nil, List.getLast?_concat]
  · next h =>
    rw [List.filter_cons_of_neg (by simpa using h), List.filter_nil, List.append_nil]

/-- A strict bound is never forgotten. -/
theorem strictOn_concat (side : Side) (bs : List Bound) (b : Bound) :
    strictOn side (bs ++ [b]) = (strictOn side bs || (decide (b.side = side) && b.strict)) := by
  rw [strictOn, strictOn, List.any_append, List.any_cons, List.any_nil, Bool.or_false]

namespace Facets

variable {f : Facets} {bs : List Bound} {shape : Shape} {t : Rule.Token} {r : Rule}

/-- **What facets know of bounds:** the last one on each side, and whether any was strict. -/
def Reads (f : Facets) (bs : List Bound) : Prop :=
  ∀ side, f.limit? side = (lastOn side bs).map (fun b => (b.value : ℚ)) ∧
    f.isExclusive side = strictOn side bs

theorem reads_empty : Reads {} [] := by
  intro side
  cases side <;> exact ⟨rfl, rfl⟩

/-- A bound that is added is the last on its side, and makes it strict if it is. -/
theorem reads_addTo_ofBound (h : f.Reads bs) {x : Binary64} {b : Bound}
    (hx : x.value? = some (b.value : ℚ)) :
    (Rule.addTo f (.ofBound b.side b.strict x)).Reads (bs ++ [b]) := by
  obtain ⟨side, strict, value⟩ := b
  intro other
  obtain ⟨hbound, hexclusive⟩ := h other
  rw [lastOn_concat, strictOn_concat, ← hexclusive]
  cases side <;> cases other <;>
    simp_all [Rule.ofBound, Rule.addTo, limit?, isExclusive]

/-- Other rules leave the limits of numbers alone. -/
theorem reads_addTo_of_other (h : f.Reads bs) (hr : ∀ side strict x, r ≠ .ofBound side strict x) :
    (Rule.addTo f r).Reads bs := by
  intro side
  have hside := h side
  cases r with
  | minimum x strict => exact absurd rfl (hr .lower strict x)
  | maximum x strict => exact absurd rfl (hr .upper strict x)
  | _ => cases side <;> exact hside

/-- The facets of tokens for numbers have what the tokens say of bounds. -/
theorem reads_foldl (hshape : shape.isNumeric = true) {ts : List Rule.Token}
    (hexact : ∀ t ∈ ts, t.Exact) (h : f.Reads bs) :
    ((ts.filterMap (Rule.ofToken? shape)).foldl Rule.addTo f).Reads
      (bs ++ ts.filterMap Rule.Token.bound?) := by
  induction ts generalizing f bs with
  | nil => simpa using h
  | cons t ts ih =>
    obtain ⟨ht, hts⟩ := List.forall_mem_cons.mp hexact
    -- Induction on the tokens, with the bounds that were read before as `bs`.
    cases hb : t.bound? with
    | some b =>
      obtain ⟨x, hsays, hvalue⟩ := Rule.ofToken?_of_bound? hshape ht hb
      have hstep := ih hts (reads_addTo_ofBound h hvalue)
      rw [List.append_assoc] at hstep
      rw [List.filterMap_cons_some hsays, List.filterMap_cons_some hb]
      exact hstep
    | none =>
      rw [List.filterMap_cons_none hb]
      cases hr : Rule.ofToken? shape t with
      | none =>
        rw [List.filterMap_cons_none hr]
        exact ih hts h
      | some r =>
        rw [List.filterMap_cons_some hr]
        exact ih hts (reads_addTo_of_other h (Rule.ne_ofBound_of_bound? ht hb hr))

/-- The facets of a rule text know of its bounds if it is for numbers, and of none otherwise. -/
theorem reads_ofRules {rules : String} {type : FieldType}
    (hexact : (Shape.ofType type).isNumeric = true → ∀ t ∈ Rule.tokens rules, t.Exact) :
    (ofRules rules type).Reads
      (if (Shape.ofType type).isNumeric = true then Rule.bounds rules else []) := by
  split
  · next hshape =>
    have hread := reads_foldl hshape (hexact hshape) reads_empty
    rw [List.nil_append] at hread
    exact hread
  · next hshape =>
    -- For values that are no numbers no token is a bound.
    refine List.foldlRecOn (motive := (Reads · [])) _ _ reads_empty fun f hf r hr => ?_
    obtain ⟨t, -, hsays⟩ := Rule.says_of_mem_ofText hr
    refine reads_addTo_of_other hf fun side strict x heq => ?_
    cases hsays with
    | bound _ hnumeric => exact hshape hnumeric
    | _ => cases side <;> cases heq

end Facets

/-! ### Who is shut out -/

theorem Side.allows_true_iff (side : Side) (limit x : ℚ) :
    side.Allows true limit x ↔ side.Allows false limit x ∧ limit ≠ x := by
  cases side
  · exact lt_iff_le_and_ne
  · exact lt_iff_le_and_ne.trans (and_congr_right' ne_comm)

/-- **A number is shut out by bounds that it meets:** it is the last one on a side, which allows it,
but another one on that side was strict. -/
def ShutOut (bs : List Bound) (x : ℚ) : Prop :=
  ∃ b, lastOn b.side bs = some b ∧ b.strict = false ∧ (b.value : ℚ) = x ∧
    ∃ s ∈ bs, s.side = b.side ∧ s.strict = true

theorem strictOn_iff {side : Side} {bs : List Bound} :
    strictOn side bs = true ↔ ∃ s ∈ bs, s.side = side ∧ s.strict = true := by
  simp [strictOn]

theorem mem_of_lastOn {side : Side} {bs : List Bound} {b : Bound} (h : lastOn side bs = some b) :
    b ∈ bs ∧ b.side = side := by
  simpa using List.mem_filter.mp (List.mem_of_getLast? h)

/-- Facets that know of bounds admit a number that meets them unless it is shut out. -/
theorem Facets.Reads.admitsNumber_iff {f : Facets} {bs : List Bound} (h : f.Reads bs) {x : ℚ}
    (hmet : ∀ b ∈ bs, b.Holds x) : f.AdmitsNumber x ↔ ¬ ShutOut bs x := by
  constructor
  · rintro hallows ⟨b, hlast, hstrict, rfl, hother⟩
    have hlimit : f.limit? b.side = some (b.value : ℚ) := by
      rw [(h b.side).1, hlast, Option.map_some]
    -- The facets make the limit strict, so they cannot admit the limit itself.
    have hmiss := hallows b.side b.value hlimit
    rw [(h b.side).2, strictOn_iff.mpr hother, Side.allows_true_iff] at hmiss
    exact hmiss.2 rfl
  · intro hout side limit hlimit
    rw [(h side).1] at hlimit
    obtain ⟨b, hlast, rfl⟩ := Option.map_eq_some_iff.mp hlimit
    obtain ⟨hmem, rfl⟩ := mem_of_lastOn hlast
    have hholds := hmet b hmem
    unfold Bound.Holds at hholds
    rw [(h b.side).2]
    -- If no bound was strict the flag is that of the last one; else only the limit itself is in
    -- doubt.
    cases hany : strictOn b.side bs with
    | false =>
      have hstrict : b.strict = false := by
        by_contra hstrict
        rw [Bool.not_eq_false] at hstrict
        exact Bool.false_ne_true (hany.symm.trans (strictOn_iff.mpr ⟨b, hmem, rfl, hstrict⟩))
      rwa [hstrict] at hholds
    | true =>
      cases hstrict : b.strict with
      | true => rwa [hstrict] at hholds
      | false =>
        rw [hstrict] at hholds
        rw [Side.allows_true_iff]
        exact ⟨hholds, fun heq => hout ⟨b, hlast, hstrict, heq, strictOn_iff.mp hany⟩⟩

/-! ### Lengths and counts -/

namespace Facets

variable {rules : String} {type : FieldType} {v : Json}

/-- Texts that meet all rules have a length that is admitted: no rule sets another one. -/
theorem admitsLength_ofRules (h : Rule.Met rules type v) {s : String} (hv : v = .string s) :
    (ofRules rules type).AdmitsLength s.length := by
  refine List.foldlRecOn (motive := (AdmitsLength · s.length)) _ _
    ⟨fun _ h => (nomatch h), fun _ h => (nomatch h)⟩ fun f hf r hr => ?_
  obtain ⟨t, ht, hsays⟩ := Rule.says_of_mem_ofText hr
  cases hsays with
  | minLength hshape hname hn =>
    have hlength := (h.text hshape s hv t ht _ hn).1 hname
    exact ⟨fun n heq => Option.some.inj heq ▸ hlength, hf.2⟩
  | maxLength hshape hname hn =>
    have hlength := (h.text hshape s hv t ht _ hn).2.1 hname
    exact ⟨hf.1, fun n heq => Option.some.inj heq ▸ hlength⟩
  | length hshape hname hn =>
    have hlength := (h.text hshape s hv t ht _ hn).2.2 hname
    exact ⟨fun n heq => Option.some.inj heq ▸ hlength.ge,
      fun n heq => Option.some.inj heq ▸ hlength.le⟩
  | bound side => cases side <;> exact hf
  | _ => exact hf

/-- Lists that meet all rules have a number of items that is admitted. -/
theorem admitsCount_ofRules (h : Rule.Met rules type v) {items : List Json} (hv : v = .array items) :
    (ofRules rules type).AdmitsCount items.length := by
  refine List.foldlRecOn (motive := (AdmitsCount · items.length)) _ _
    ⟨fun _ h => (nomatch h), fun _ h => (nomatch h)⟩ fun f hf r hr => ?_
  obtain ⟨t, ht, hsays⟩ := Rule.says_of_mem_ofText hr
  cases hsays with
  | itemCount hshape hname hn =>
    have hcount := h.items hshape items hv t ht _ hn hname
    exact ⟨fun n heq => Option.some.inj heq ▸ hcount.ge,
      fun n heq => Option.some.inj heq ▸ hcount.le⟩
  | bound side => cases side <;> exact hf
  | _ => exact hf

/-- **Whether the facets of rules admit what meets the rules.**  Whatever the tokens are, in which
order they stand and how often, a value that meets all bounds of a rule text is admitted by the
facets that are made of it, but for a number that its bounds shut out. -/
theorem admits_ofRules_iff
    (hexact : (Shape.ofType type).isNumeric = true → ∀ t ∈ Rule.tokens rules, t.Exact)
    (h : Rule.Met rules type v) :
    (ofRules rules type).Admits v ↔
      ∀ x, (Shape.ofType type).isNumeric = true → v.value? = some x →
        ¬ ShutOut (Rule.bounds rules) x := by
  have hreads := reads_ofRules hexact
  constructor
  · intro hadmits x hshape hx
    rw [if_pos hshape] at hreads
    exact (hreads.admitsNumber_iff (h.number hshape x hx)).mp (hadmits.number x hx)
  · intro hout
    refine ⟨fun x hx => ?_, fun _ hv => admitsLength_ofRules h hv,
      fun _ hv => admitsCount_ofRules h hv⟩
    by_cases hshape : (Shape.ofType type).isNumeric = true
    · rw [if_pos hshape] at hreads
      exact (hreads.admitsNumber_iff (h.number hshape x hx)).mpr (hout x hshape hx)
    -- On other values there are no bounds, so nothing can be shut out.
    · rw [if_neg hshape] at hreads
      have hnone : ∀ b ∈ ([] : List Bound), b.Holds x := fun _ hb => nomatch hb
      exact (hreads.admitsNumber_iff hnone).mpr fun ⟨b, hlast, _⟩ => nomatch hlast

theorem exact_of_integer? {t : Rule.Token} {param : List Char} {i : Int}
    (hparam : t.param = some param) (hi : integer? param = some i) (hsmall : i.natAbs ≤ 2 ^ 53) :
    t.Exact := by
  intro _ other hother _
  obtain rfl := Option.some.inj (hparam.symm.trans hother)
  exact ⟨i, hi, hsmall⟩

/-- A number has neither a length nor items, so only its bounds matter. -/
theorem met_of_bounds {i : Int} (hbounds : ∀ b ∈ Rule.bounds rules, b.Holds i) :
    Rule.Met rules type (.number (.int i)) where
  number := fun _ _ hx b hb => Option.some.inj hx ▸ hbounds b hb
  text := fun _ _ hv => nomatch hv
  items := fun _ _ hv => nomatch hv

/-- A number at the last of several limits on a side without a strict one. -/
theorem admits_last_limit :
    (ofRules "gt=0,required,max=64,lte=10" .integer).Admits (.number (.int 10)) := by
  have htokens : Rule.tokens "gt=0,required,max=64,lte=10" = [⟨"gt", some ['0']⟩,
      ⟨"required", none⟩, ⟨"max", some ['6', '4']⟩, ⟨"lte", some ['1', '0']⟩] := by decide
  have hbounds : Rule.bounds "gt=0,required,max=64,lte=10"
      = [⟨.lower, true, 0⟩, ⟨.upper, false, 64⟩, ⟨.upper, false, 10⟩] := by decide
  have hexact : ∀ t ∈ Rule.tokens "gt=0,required,max=64,lte=10", t.Exact := by
    rw [htokens]
    simp only [List.forall_mem_cons]
    exact ⟨exact_of_integer? (i := 0) rfl (by decide) (by decide), fun hkind => (nomatch hkind),
      exact_of_integer? (i := 64) rfl (by decide) (by decide),
      exact_of_integer? (i := 10) rfl (by decide) (by decide), fun _ ht => nomatch ht⟩
  have hmet : Rule.Met "gt=0,required,max=64,lte=10" .integer (.number (.int 10)) := by
    refine met_of_bounds ?_
    rw [hbounds]
    norm_num [Bound.Holds, Side.Allows]
  refine (admits_ofRules_iff (fun _ => hexact) hmet).mpr ?_
  rw [hbounds]
  rintro x - - ⟨b, hlast, hstrict, -, hother⟩
  -- The only strict bound is the last one on its side.
  rcases hside : b.side <;> rw [hside] at hlast hother
  · obtain rfl := Option.some.inj hlast
    exact nomatch hstrict
  · exact absurd hother (by decide)

/-- **A strict limit outlives the one that replaces it:** five is more than zero and no less than
five, but is not admitted. -/
theorem not_admits_last_limit :
    Rule.Met "gt=0,min=5" .integer (.number (.int 5)) ∧
      ¬ (ofRules "gt=0,min=5" .integer).Admits (.number (.int 5)) := by
  have htokens : Rule.tokens "gt=0,min=5" = [⟨"gt", some ['0']⟩, ⟨"min", some ['5']⟩] := by decide
  have hbounds : Rule.bounds "gt=0,min=5" = [⟨.lower, true, 0⟩, ⟨.lower, false, 5⟩] := by decide
  have hexact : ∀ t ∈ Rule.tokens "gt=0,min=5", t.Exact := by
    rw [htokens]
    simp only [List.forall_mem_cons]
    exact ⟨exact_of_integer? (i := 0) rfl (by decide) (by decide),
      exact_of_integer? (i := 5) rfl (by decide) (by decide), fun _ ht => nomatch ht⟩
  have hholds : ∀ b ∈ Rule.bounds "gt=0,min=5", b.Holds (5 : Int) := by
    rw [hbounds]
    norm_num [Bound.Holds, Side.Allows]
  refine ⟨met_of_bounds hholds, fun hadmits => ?_⟩
  have hreads : (ofRules "gt=0,min=5" .integer).Reads (Rule.bounds "gt=0,min=5") :=
    @reads_ofRules _ .integer fun _ => hexact
  refine (hreads.admitsNumber_iff hholds).mp (hadmits.number (5 : Int) rfl) ?_
  rw [hbounds]
  exact ⟨⟨.lower, false, 5⟩, rfl, rfl, rfl, ⟨.lower, true, 0⟩, List.mem_cons_self, rfl, rfl⟩

end Facets

end Callpoint
