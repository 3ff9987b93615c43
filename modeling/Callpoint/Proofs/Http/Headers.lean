import Callpoint.Http.Headers

/-!
# Laws of header maps

A header map is read by the values of its names, and each way to change one is told by what it does
to them (`values_insert`, `values_addMissing`).

The second one is how headers are merged: what is there already stays, name by name, and only the
other names come from elsewhere (`Headers.Merges`).  It does not matter whether a line is inserted
before or after (`Merges.insert`), and merging the same headers a second time changes nothing
(`addMissing_addMissing`).
-/

namespace Callpoint.Http.Headers

variable {h own more : Headers} {name : String}

/-! ### Spellings -/

theorem toLower_toLower (c : Char) : c.toLower.toLower = c.toLower := by
  by_cases h : c.val ≥ 'A'.val ∧ c.val ≤ 'Z'.val
  · have hge : 65 ≤ c.val.toNat := UInt32.le_iff_toNat_le.mp h.1
    have hle : c.val.toNat ≤ 90 := UInt32.le_iff_toNat_le.mp h.2
    have hlower : c.toLower.val = c.val + ('a'.val - 'A'.val) := congrArg Char.val (dif_pos h)
    have hval : c.toLower.val.toNat = c.val.toNat + 32 := by
      have hfits : c.val.toNat + 32 < 2 ^ 32 := by omega
      rw [hlower]
      exact (UInt32.toNat_add _ _).trans (Nat.mod_eq_of_lt hfits)
    -- A lower case letter stands behind all upper case letters.
    have hnot : ¬ (c.toLower.val ≥ 'A'.val ∧ c.toLower.val ≤ 'Z'.val) := by
      rintro ⟨-, hupper⟩
      have hupper : c.toLower.val.toNat ≤ 90 := UInt32.le_iff_toNat_le.mp hupper
      omega
    exact dif_neg hnot
  · have hsame : c.toLower = c := dif_neg h
    rw [hsame, hsame]

/-- A spelling under which a name is kept is kept as it is. -/
theorem key_key (name : String) : key (key name) = key name := by
  unfold key
  rw [String.toList_ofList, List.map_map]
  exact congrArg String.ofList (List.map_congr_left fun c _ => toLower_toLower c)

/-- **All names are spelled as they are kept.** -/
def Canonical (h : Headers) : Prop := ∀ line ∈ h, key line.1 = line.1

theorem canonical_nil : Canonical [] := fun _ hline => absurd hline List.not_mem_nil

theorem Canonical.append (hcanonical : h.Canonical) (name : String) (value : HeaderValue) :
    (h.append name value).Canonical := by
  intro line hline
  rcases List.mem_append.mp hline with hline | hline
  · exact hcanonical line hline
  · obtain rfl := List.mem_singleton.mp hline
    exact key_key name

/-! ### Values -/

theorem values_concat (h more : Headers) (name : String) :
    values (h ++ more) name = h.values name ++ more.values name := by
  unfold values
  rw [List.filter_append, List.map_append]

theorem contains_key (h : Headers) (name : String) : h.contains (key name) = h.contains name := by
  unfold contains
  rw [key_key]

theorem contains_iff : h.contains name = true ↔ h.values name ≠ [] := by
  unfold contains values
  rw [List.any_eq_true]
  constructor
  · rintro ⟨line, hline, hname⟩ hnil
    have hmem : line ∈ h.filter fun line => line.1 = key name := List.mem_filter.mpr ⟨hline, hname⟩
    rw [List.map_eq_nil_iff.mp hnil] at hmem
    cases hmem
  · intro hne
    obtain ⟨value, hvalue⟩ := List.exists_mem_of_ne_nil _ hne
    obtain ⟨line, hline, -⟩ := List.mem_map.mp hvalue
    exact ⟨line, List.mem_filter.mp hline⟩

theorem values_eq_nil (hnot : ¬ h.contains name = true) : h.values name = [] :=
  Classical.byContradiction fun hne => hnot (contains_iff.mpr hne)

/-- What is kept of a header map has all values of a name whose lines are kept. -/
theorem values_filter_of_kept {keep : String × HeaderValue → Bool}
    (hkeep : ∀ value, keep (key name, value) = true) :
    values (h.filter keep) name = h.values name := by
  simp only [values, List.filter_filter]
  refine congrArg (List.map Prod.snd) (List.filter_congr fun line _ => ?_)
  obtain ⟨other, value⟩ := line
  by_cases hname : other = key name
  · simp [hname, hkeep]
  · simp [hname]

theorem values_filter_of_dropped {keep : String × HeaderValue → Bool}
    (hkeep : ∀ value, keep (key name, value) = false) : values (h.filter keep) name = [] := by
  simp only [values, List.filter_filter, List.map_eq_nil_iff, List.filter_eq_nil_iff]
  rintro ⟨other, value⟩ -
  by_cases hname : other = key name
  · simp [hname, hkeep]
  · simp [hname]

/-- **A line that is inserted** is the only one of its name. -/
theorem values_insert (h : Headers) (name other : String) (value : HeaderValue) :
    (h.insert name value).values other
      = if key name = key other then [value] else h.values other := by
  unfold insert
  rw [values_concat]
  by_cases hkey : key name = key other
  · rw [values_filter_of_dropped fun _ => by simp [hkey], if_pos hkey]
    simp [values, hkey]
  · rw [values_filter_of_kept fun _ => by simp [Ne.symm hkey], if_neg hkey]
    simp [values, hkey]

/-- **Lines that are missing** come with all values of their names, and no others come. -/
theorem values_addMissing (h more : Headers) (name : String) :
    (h.addMissing more).values name
      = if h.contains name = true then h.values name else more.values name := by
  unfold addMissing
  rw [values_concat]
  by_cases hname : h.contains name = true
  · rw [values_filter_of_dropped fun _ => by simp [contains_key, hname], if_pos hname,
      List.append_nil]
  · rw [values_filter_of_kept fun _ => by simp [contains_key, hname], if_neg hname,
      values_eq_nil hname, List.nil_append]

/-! ### Merging -/

/-- **Own headers are merged with others:** a name of the own ones has their values and no other,
and every other name has all values that it has among the others, in their order. -/
def Merges (own more h : Headers) : Prop :=
  ∀ name, h.values name = if own.contains name = true then own.values name else more.values name

theorem merges_addMissing (own more : Headers) : own.Merges more (own.addMissing more) :=
  values_addMissing own more

/-- A line may as well be inserted after the merge. -/
theorem Merges.insert (hmerges : own.Merges more h) (name : String) (value : HeaderValue) :
    (own.insert name value).Merges more (h.insert name value) := by
  intro other
  rw [values_insert, values_insert, hmerges other]
  by_cases hkey : key name = key other
  · have hhas : (own.insert name value).contains other = true := by
      rw [contains_iff, values_insert, if_pos hkey]
      exact List.cons_ne_nil _ _
    rw [if_pos hkey, if_pos hkey, if_pos hhas]
  · have hsame : (own.insert name value).contains other = own.contains other := by
      rw [Bool.eq_iff_iff, contains_iff, contains_iff, values_insert, if_neg hkey]
    rw [if_neg hkey, if_neg hkey, hsame]

/-- No name gets more values by merging a second time. -/
theorem values_addMissing_addMissing (h more : Headers) (name : String) :
    ((h.addMissing more).addMissing more).values name = (h.addMissing more).values name := by
  by_cases hname : h.contains name = true
  · have hhas : (h.addMissing more).contains name = true := by
      rw [contains_iff, values_addMissing, if_pos hname]
      exact contains_iff.mp hname
    rw [values_addMissing, if_pos hhas]
  · have hvalues : (h.addMissing more).values name = more.values name := by
      rw [values_addMissing, if_neg hname]
    rw [values_addMissing, hvalues]
    exact ite_self _

/-- **Merging twice is merging once.** -/
theorem addMissing_addMissing (h : Headers) (hmore : more.Canonical) :
    (h.addMissing more).addMissing more = h.addMissing more := by
  -- Every line that could be added a second time has a name that is there since the first time.
  have hnone : more.filter (fun line => !(h.addMissing more).contains line.1) = [] := by
    rw [List.filter_eq_nil_iff]
    intro line hline
    rw [Bool.not_eq_true', Bool.not_eq_false, contains_iff, values_addMissing]
    by_cases hname : h.contains line.1 = true
    · rw [if_pos hname]
      exact contains_iff.mp hname
    · rw [if_neg hname, ← contains_iff]
      exact List.any_eq_true.mpr ⟨line, hline, decide_eq_true (hmore line hline).symm⟩
  show h.addMissing more ++ more.filter (fun line => !(h.addMissing more).contains line.1) = _
  rw [hnone, List.append_nil]

end Callpoint.Http.Headers
