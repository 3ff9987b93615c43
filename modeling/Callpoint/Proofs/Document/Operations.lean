import Mathlib.Data.List.Basic
import Mathlib.Data.List.Induction
import Callpoint.Proofs.Document.Paths
import Callpoint.Proofs.FirstUses

/-!
# Which operations a document has

A list of endpoints makes a document unless one of them breaks a rule behind those ahead of it
(`Buildable`, `Breaks`): its method is none that documents know, or its place is taken.  Each list
is the one or has the other (`buildable_or_breaks`), so building is decided by looking at the
endpoints in order.

`Places` accounts for what was placed: the operations are those of the endpoints, as many as there
are, and the paths stand in the order of their first use.  One more endpoint keeps the accounts
(`Places.exists_place`), so they hold of every document that is built (`build_decides`).
-/

namespace Callpoint

theorem Method.mem_all (m : Method) : m ∈ all := by
  cases m <;> decide

theorem Method.ofName?_eq_none_iff {name : String} :
    Method.ofName? name = none ↔ ∀ m : Method, m.name ≠ name := by
  unfold ofName?
  rw [List.find?_eq_none]
  constructor
  · intro h m
    exact fun heq => h m m.mem_all (beq_iff_eq.mpr heq)
  · intro h m _ heq
    exact h m (beq_iff_eq.mp heq)

namespace PathItem

/-- The operations of a path item, each with its method. -/
def operations (item : PathItem) : List (Method × Operation) :=
  Method.all.filterMap fun m => (item.operation? m).map fun op => (m, op)

theorem operation?_of_mem_operations {item : PathItem} {m : Method} {op : Operation}
    (h : (m, op) ∈ item.operations) : item.operation? m = some op := by
  obtain ⟨n, -, hn⟩ := List.mem_filterMap.mp h
  obtain ⟨other, hother, heq⟩ := Option.map_eq_some_iff.mp hn
  obtain ⟨rfl, rfl⟩ := Prod.mk.inj heq
  exact hother

/-- An operation set where there was none is one more. -/
theorem length_operations_set (item : PathItem) {m : Method} (op : Operation)
    (hfree : item.operation? m = none) :
    (item.set m op).operations.length = item.operations.length + 1 := by
  have hnodup : Method.all.Nodup := by decide
  unfold operations
  obtain ⟨before, after, hsplit⟩ := List.append_of_mem m.mem_all
  rw [hsplit, List.nodup_append, List.nodup_cons] at hnodup
  obtain ⟨-, ⟨hafter, -⟩, hbefore⟩ := hnodup
  -- The other methods keep what they had.
  have hsame : ∀ methods : List Method, m ∉ methods →
      methods.filterMap (fun n => ((item.set m op).operation? n).map fun op => (n, op))
        = methods.filterMap fun n => (item.operation? n).map fun op => (n, op) := by
    intro methods hnot
    refine List.filterMap_congr fun n hn => ?_
    have hne : n ≠ m := by
      rintro rfl
      exact hnot hn
    show Option.map _ (if n = m then some op else item.operation? n) = _
    rw [if_neg hne]
  have hset : (item.set m op).operation? m = some op := if_pos rfl
  rw [hsplit, List.filterMap_append, List.filterMap_append, List.filterMap_cons,
    List.filterMap_cons, hsame before fun h => hbefore m h m List.mem_cons_self rfl,
    hsame after hafter, hset, hfree]
  simp only [Option.map_some, Option.map_none, List.length_append, List.length_cons]
  omega

end PathItem

namespace Document

/-! ### Operations -/

/-- All operations of some paths, each with its path and its method. -/
def operationsIn (paths : Assoc PathItem) : List (String × Method × Operation) :=
  paths.flatMap fun (path, item) => item.operations.map fun (m, op) => (path, m, op)

/-- **All operations of a document,** each with its path and its method. -/
def operations (doc : Document) : List (String × Method × Operation) := operationsIn doc.paths

theorem operationsIn_cons (path : String) (item : PathItem) (paths : Assoc PathItem) :
    operationsIn ((path, item) :: paths)
      = (item.operations.map fun (m, op) => (path, m, op)) ++ operationsIn paths := rfl

/-- Where no path is listed twice, each operation is found under its method and its path. -/
theorem operationAt_of_mem_operationsIn {paths : Assoc PathItem} (hnodup : paths.names.Nodup)
    {path : String} {m : Method} {op : Operation} (h : (path, m, op) ∈ operationsIn paths) :
    operationAt paths m.name path = some op := by
  obtain ⟨⟨other, item⟩, hitem, hop⟩ := List.mem_flatMap.mp h
  obtain ⟨⟨n, op'⟩, hn, heq⟩ := List.mem_map.mp hop
  obtain ⟨rfl, rfl, rfl⟩ : other = path ∧ n = m ∧ op' = op := by
    simpa only [Prod.mk.injEq] using heq
  -- The path is listed once, so the lookup comes to this item.
  rw [operationAt_eq, Assoc.get?_of_mem hnodup hitem, Method.ofName?_name]
  exact PathItem.operation?_of_mem_operations hn

/-- An operation set in a free place is one more. -/
theorem length_operationsIn_set {paths : Assoc PathItem} {path : String} {m : Method}
    (op : Operation) (hfree : ((Assoc.get? paths path).getD {}).operation? m = none) :
    (operationsIn (Assoc.set path (((Assoc.get? paths path).getD {}).set m op) paths)).length
      = (operationsIn paths).length + 1 := by
  -- Along the paths: the operation goes into the item that was looked up, or into a new one.
  induction paths with
  | nil =>
    have hone := PathItem.length_operations_set {} (m := m) op rfl
    simp only [Assoc.set, operationsIn_cons, List.length_append, List.length_map]
    exact congrArg (· + 0) hone
  | cons entry paths ih =>
    obtain ⟨other, item⟩ := entry
    by_cases hpath : other = path
    · -- The path is listed here, with the item that was looked up.
      subst hpath
      have hget : Assoc.get? ((other, item) :: paths) other = some item := List.lookup_cons_self
      rw [hget, Option.getD_some] at hfree ⊢
      have hone := item.length_operations_set op hfree
      simp only [Assoc.set, if_true, operationsIn_cons, List.length_append, List.length_map]
      omega
    · have hget : Assoc.get? ((other, item) :: paths) path = Assoc.get? paths path := by
        unfold Assoc.get?
        rw [List.lookup_cons, beq_eq_false_iff_ne.mpr (Ne.symm hpath)]
      rw [hget] at hfree ⊢
      have hrest := ih hfree
      simp only [Assoc.set, if_neg hpath, operationsIn_cons, List.length_append]
      omega

/-! ### Rules -/

/-- **Endpoints that make a document:** every method is one that documents know, and no two of them
have both their method and their path in common. -/
structure Buildable (specs : List Spec) : Prop where
  methods : ∀ spec ∈ specs, ∃ m : Method, m.name = spec.method
  apart : specs.Pairwise fun a b => ¬ (a.method = b.method ∧ a.path = b.path)

/-- **What an endpoint breaks** behind some others, and the error that says so. -/
inductive Breaks (before : List Spec) (spec : Spec) : BuildError → Prop
  | unsupported (h : ∀ m : Method, m.name ≠ spec.method) :
      Breaks before spec (.unsupportedMethod spec.name spec.method)
  | duplicate {first : Spec} (hfirst : first ∈ before) (hmethod : first.method = spec.method)
      (hpath : first.path = spec.path) :
      Breaks before spec (.duplicateOperation spec.method spec.path first.name spec.name)

theorem buildable_nil : Buildable [] := ⟨fun _ h => absurd h List.not_mem_nil, List.Pairwise.nil⟩

/-- Behind others an endpoint fits in, or it breaks a rule. -/
theorem Buildable.append_singleton_or_breaks {before : List Spec} (h : Buildable before)
    (spec : Spec) : Buildable (before ++ [spec]) ∨ ∃ e, Breaks before spec e := by
  by_cases hmethod : ∃ m : Method, m.name = spec.method
  · by_cases htaken : ∃ first ∈ before, first.method = spec.method ∧ first.path = spec.path
    · -- The method is looked at first, so a known one is what makes the place the fault.
      obtain ⟨first, hfirst, hsame, hpath⟩ := htaken
      exact Or.inr ⟨_, .duplicate hfirst hsame hpath⟩
    · left
      constructor
      · intro other hother
        rcases List.mem_append.mp hother with hother | hother
        · exact h.methods other hother
        · obtain rfl := List.mem_singleton.mp hother
          exact hmethod
      · refine List.pairwise_append.mpr ⟨h.apart, List.pairwise_singleton _ _, ?_⟩
        intro first hfirst other hother hsame
        obtain rfl := List.mem_singleton.mp hother
        exact htaken ⟨first, hfirst, hsame⟩
  · exact Or.inr ⟨_, .unsupported fun m hm => hmethod ⟨m, hm⟩⟩

/-- **Endpoints make a document, or there is a first one that breaks a rule.** -/
theorem buildable_or_breaks (specs : List Spec) :
    Buildable specs ∨ ∃ before spec after e,
      specs = before ++ spec :: after ∧ Buildable before ∧ Breaks before spec e := by
  induction specs using List.reverseRecOn with
  | nil => exact Or.inl buildable_nil
  | append_singleton specs last ih =>
    rcases ih with h | ⟨before, spec, after, e, rfl, hbefore, hbreaks⟩
    · rcases h.append_singleton_or_breaks last with hall | ⟨e, hbreaks⟩
      · exact Or.inl hall
      · exact Or.inr ⟨specs, last, [], e, rfl, h, hbreaks⟩
    -- What was broken first stays first, whatever comes behind it.
    · refine Or.inr ⟨before, spec, after ++ [last], e, ?_, hbefore, hbreaks⟩
      rw [List.append_assoc, List.cons_append]

theorem Buildable.of_append {before after : List Spec} (h : Buildable (before ++ after)) :
    Buildable before where
  methods := fun spec hspec => h.methods spec (List.mem_append_left _ hspec)
  apart := (List.pairwise_append.mp h.apart).1

/-! ### Accounts -/

/-- **The endpoints that were placed** are accounted for: the operations are theirs, one for each,
and the paths are in the order of their first use. -/
structure Places (bearer : Option String) (specs : List Spec) (paths : Assoc PathItem) : Prop where
  operation : ∀ method path op, operationAt paths method path = some op ↔
    ∃ spec ∈ specs, spec.method = method ∧ spec.path = path ∧ op = Document.operation bearer spec
  count : (operationsIn paths).length = specs.length
  names : FirstUses (specs.map Spec.path) paths.names

variable {bearer : Option String} {specs before after : List Spec} {spec : Spec}
  {paths : Assoc PathItem}

theorem places_nil : Places bearer [] [] where
  operation := by simp [operationAt, Assoc.get?]
  count := rfl
  names := ⟨fun _ => Iff.rfl, List.Pairwise.nil⟩

/-- One more endpoint that fits in is placed, and the accounts stay in order. -/
theorem Places.exists_place (h : Places bearer before paths)
    (hfits : Buildable (before ++ [spec])) :
    ∃ paths', place bearer paths spec = .ok paths' ∧ Places bearer (before ++ [spec]) paths' := by
  have hspec : spec ∈ before ++ [spec] := List.mem_append_right _ (List.mem_singleton_self _)
  obtain ⟨m, hm⟩ := hfits.methods spec hspec
  have hname : Method.ofName? spec.method = some m := hm ▸ Method.ofName?_name m
  -- The place is free, for the accounts say whose operation would be there.
  have hfree : operationAt paths spec.method spec.path = none := by
    refine Option.eq_none_iff_forall_ne_some.mpr fun op hop => ?_
    obtain ⟨first, hfirst, hmethod, hpath, -⟩ := (h.operation _ _ _).mp hop
    have happart := (List.pairwise_append.mp hfits.apart).2.2
    exact happart first hfirst spec (List.mem_singleton_self _) ⟨hmethod, hpath⟩
  have hplace : place bearer paths spec = .ok _ := place_eq_ok_iff.mpr ⟨m, hname, hfree, rfl⟩
  obtain ⟨-, hown, hother⟩ := place_ok hplace
  refine ⟨_, hplace, ?_, ?_, ?_⟩
  · intro method path op
    by_cases hsame : method = spec.method ∧ path = spec.path
    · obtain ⟨rfl, rfl⟩ := hsame
      rw [hown, Option.some.injEq]
      constructor
      · rintro rfl
        exact ⟨spec, hspec, rfl, rfl, rfl⟩
      · rintro ⟨other, hmem, hmethod, hpath, rfl⟩
        rcases List.mem_append.mp hmem with hmem | hmem
        · have hop := (h.operation _ _ _).mpr ⟨other, hmem, hmethod, hpath, rfl⟩
          rw [hfree] at hop
          cases hop
        · rw [List.mem_singleton.mp hmem]
    · rw [hother method path hsame, h.operation]
      constructor
      · rintro ⟨other, hmem, hplaced⟩
        exact ⟨other, List.mem_append_left _ hmem, hplaced⟩
      · rintro ⟨other, hmem, hmethod, hpath, hop⟩
        rcases List.mem_append.mp hmem with hmem | hmem
        · exact ⟨other, hmem, hmethod, hpath, hop⟩
        · obtain rfl := List.mem_singleton.mp hmem
          exact absurd ⟨hmethod.symm, hpath.symm⟩ hsame
  · rw [operationAt_eq, hname, Option.bind_some] at hfree
    rw [length_operationsIn_set _ hfree, h.count, List.length_append, List.length_singleton]
  · rw [Assoc.names_set, List.map_append, List.map_singleton]
    exact h.names.append_singleton spec.path

/-- **Endpoints that make a document are placed,** all of them. -/
theorem exists_places_of_buildable (bearer : Option String) (h : Buildable specs) :
    ∃ paths, specs.foldlM (place bearer) [] = .ok paths ∧ Places bearer specs paths := by
  induction specs using List.reverseRecOn with
  | nil => exact ⟨[], rfl, places_nil⟩
  | append_singleton specs last ih =>
    obtain ⟨paths, hfold, hpaths⟩ := ih h.of_append
    obtain ⟨paths', hplace, hpaths'⟩ := hpaths.exists_place h
    refine ⟨paths', ?_, hpaths'⟩
    rw [List.foldlM_append, hfold]
    show (List.foldlM (place bearer) paths [last]) = _
    rw [List.foldlM_cons, hplace]
    rfl

/-- An endpoint that breaks a rule is not placed, and the error names it. -/
theorem Places.place_of_breaks (h : Places bearer before paths) (hbefore : Buildable before)
    {e : BuildError} (hbreaks : Breaks before spec e) : place bearer paths spec = .error e := by
  unfold place
  cases hbreaks with
  | unsupported hmethod => rw [Method.ofName?_eq_none_iff.mpr hmethod]
  | @duplicate first hfirst hmethod hpath =>
    obtain ⟨m, hm⟩ := hbefore.methods first hfirst
    have hname : Method.ofName? spec.method = some m := by
      rw [← hmethod, ← hm, Method.ofName?_name]
    have hop := (h.operation spec.method spec.path _).mpr ⟨first, hfirst, hmethod, hpath, rfl⟩
    rw [operationAt_eq, hname, Option.bind_some] at hop
    simp only [hname, hop]
    rfl

/-- **The first endpoint that breaks a rule** is the one that building fails at. -/
theorem foldlM_place_of_breaks (hbefore : Buildable before) {e : BuildError}
    (hbreaks : Breaks before spec e) :
    (before ++ spec :: after).foldlM (place bearer) [] = .error e := by
  obtain ⟨paths, hfold, hpaths⟩ := exists_places_of_buildable bearer hbefore
  rw [List.foldlM_append, hfold]
  show (List.foldlM (place bearer) paths (spec :: after)) = _
  rw [List.foldlM_cons, hpaths.place_of_breaks hbefore hbreaks]
  rfl

/-! ### Building -/

variable {outline : Outline} {descriptions : Descriptions} {doc : Document}

theorem exists_build_of_buildable (outline : Outline) (descriptions : Descriptions)
    (h : Buildable specs) :
    ∃ doc, build outline descriptions specs = .ok doc ∧ Places outline.bearer specs doc.paths := by
  obtain ⟨paths, hfold, hpaths⟩ := exists_places_of_buildable outline.bearer h
  unfold build
  rw [hfold]
  exact ⟨_, rfl, hpaths⟩

/-- Those that do not fail at the first that breaks a rule. -/
theorem build_of_breaks (hbefore : Buildable before) {e : BuildError}
    (hbreaks : Breaks before spec e) :
    build outline descriptions (before ++ spec :: after) = .error e := by
  unfold build
  rw [foldlM_place_of_breaks hbefore hbreaks]
  rfl

/-- A document that was built has the operations of its endpoints. -/
theorem places_of_build (h : build outline descriptions specs = .ok doc) :
    Buildable specs ∧ Places outline.bearer specs doc.paths := by
  rcases buildable_or_breaks specs with hall | ⟨before, spec, after, e, rfl, hbefore, hbreaks⟩
  · obtain ⟨doc', hdoc', hplaces⟩ := exists_build_of_buildable outline descriptions hall
    rw [hdoc'] at h
    obtain rfl := Except.ok.inj h
    exact ⟨hall, hplaces⟩
  · rw [build_of_breaks hbefore hbreaks] at h
    cases h

theorem build_eq_error_iff {e : BuildError} :
    build outline descriptions specs = .error e ↔ ∃ before spec after,
      specs = before ++ spec :: after ∧ Buildable before ∧ Breaks before spec e := by
  constructor
  · intro h
    rcases buildable_or_breaks specs with hall | ⟨before, spec, after, e', rfl, hbefore, hbreaks⟩
    · obtain ⟨doc, hdoc, -⟩ := exists_build_of_buildable outline descriptions hall
      rw [hdoc] at h
      cases h
    · rw [build_of_breaks hbefore hbreaks] at h
      obtain rfl := Except.error.inj h
      exact ⟨before, spec, after, rfl, hbefore, hbreaks⟩
  · rintro ⟨before, spec, after, rfl, hbefore, hbreaks⟩
    exact build_of_breaks hbefore hbreaks

/-- Each operation of a document is that of one of its endpoints, in its place. -/
theorem exists_spec_of_mem_operations (h : build outline descriptions specs = .ok doc)
    {path : String} {m : Method} {op : Operation} (hop : (path, m, op) ∈ doc.operations) :
    ∃ spec ∈ specs,
      spec.method = m.name ∧ spec.path = path ∧ op = operation outline.bearer spec := by
  have hplaces := (places_of_build h).2
  exact (hplaces.operation _ _ _).mp (operationAt_of_mem_operationsIn hplaces.names.nodup hop)

/-- **What building decides.** A document is built from endpoints exactly if each has a method that
documents know and no two have the same place; else the error is that of the first endpoint that
breaks a rule behind those ahead of it.  A document that is built has one operation for each
endpoint and no others, each in its place and with what its endpoint says of itself; the paths, and
the tags, come in the order of their first use. -/
theorem build_decides (outline : Outline) (descriptions : Descriptions) (specs : List Spec) :
    ((∃ doc, build outline descriptions specs = .ok doc) ↔ Buildable specs)
    ∧ (∀ e, build outline descriptions specs = .error e ↔ ∃ before spec after,
        specs = before ++ spec :: after ∧ Buildable before ∧ Breaks before spec e)
    ∧ ∀ doc, build outline descriptions specs = .ok doc →
        (∀ spec ∈ specs, ∃ op, doc.operation? spec.method spec.path = some op
          ∧ op.operationId = spec.name ∧ op.summary = spec.summary
          ∧ op.description = spec.description ∧ op.tags = spec.tags
          ∧ op.deprecated = spec.deprecated)
        ∧ (∀ path m op, (path, m, op) ∈ doc.operations →
          ∃ spec ∈ specs, spec.method = m.name ∧ spec.path = path ∧ op.operationId = spec.name)
        ∧ doc.operations.length = specs.length
        ∧ FirstUses (specs.map Spec.path) doc.paths.names
        ∧ FirstUses (specs.flatMap Spec.tags) doc.tags := by
  refine ⟨⟨?_, ?_⟩, fun e => build_eq_error_iff, fun doc h => ?_⟩
  · rintro ⟨doc, h⟩
    exact (places_of_build h).1
  · intro h
    obtain ⟨doc, hdoc, -⟩ := exists_build_of_buildable outline descriptions h
    exact ⟨doc, hdoc⟩
  · have hplaces := (places_of_build h).2
    refine ⟨fun spec hspec => ?_, fun path m op hop => ?_, hplaces.count, hplaces.names, ?_⟩
    · exact ⟨_, operation?_of_build h hspec, rfl, rfl, rfl, rfl, rfl⟩
    · obtain ⟨spec, hspec, hmethod, hpath, rfl⟩ := exists_spec_of_mem_operations h hop
      exact ⟨spec, hspec, hmethod, hpath, rfl⟩
    · rw [(contents_of_build h).2.2]
      exact firstUses_distinct _

/-- The second endpoint has the path of the first one, and the third one its whole place. -/
example : build { info := ⟨"Probes", "1", none⟩ } ⟨[]⟩ [.build "read" "GET" "/probe" [],
    .build "write" "PUT" "/probe" [], .build "again" "GET" "/probe" []]
      = .error (.duplicateOperation "GET" "/probe" "read" "again") := rfl

end Document

end Callpoint
