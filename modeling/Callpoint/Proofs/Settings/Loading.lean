import Callpoint.Proofs.Json.Decode
import Callpoint.Settings.Loader

/-!
# Settings that can be loaded

A loader is made step by step (`Loader.Built`).  Whatever all ways to read settings have in common
holds of the settings that it loads.  Here this is that the default headers are listed under
distinct names, since every way to read them ends in `sortedTexts`, and that the settings have
passed the check (`Loader.Built.yields_load`).
-/

namespace Callpoint

open Callpoint.Json

/-- To sort pairs of texts keeps each name once, with the text that came last. -/
theorem nodup_names_sortedTexts (pairs : List (String × String)) :
    (sortedTexts pairs).names.Nodup :=
  ((List.mergeSort_perm _ _).map Prod.fst).nodup_iff.mpr
    (Assoc.nodup_names_setAll (m := []) List.nodup_nil pairs)

/-- **The default headers are listed under distinct names.** -/
def Settings.Distinct (s : Settings) : Prop := s.calls.defaultHeaders.names.Nodup

namespace Settings

/-! ### What is read -/

/-- Headers that are decoded are listed under distinct names. -/
theorem yields_callDecoder : callDecoder.Yields fun calls => calls.defaultHeaders.names.Nodup := by
  unfold callDecoder
  -- Whatever the fields are, the headers among them are sorted.
  have hsorted : ∀ limit, True → ∀ validate, True → ∀ trust, True → ∀ headers, True →
      (CallSettings.mk limit validate trust (sortedTexts headers)).defaultHeaders.names.Nodup :=
    fun _ _ _ _ _ _ headers _ => nodup_names_sortedTexts headers
  exact Decoder.yields_record (Fields.yields_seq (Fields.yields_seq (Fields.yields_seq
    (Fields.yields_map (Fields.yields_of_forall _ fun limit => hsorted limit trivial))
    (Fields.yields_any _)) (Fields.yields_any _)) (Fields.yields_any _))

theorem yields_decoder : decoder.Yields Distinct := by
  refine Decoder.yields_record (Fields.yields_seq (Fields.yields_seq (Fields.yields_map
    (Fields.yields_field ?_ ?_ ?_)) (Fields.yields_any _)) (Fields.yields_any _))
  · exact fun depth r => (yields_callDecoder depth r).imp fun _ h _ _ _ _ => h
  · rintro _ ⟨⟩ _ _ _ _
    exact List.nodup_nil
  · rintro _ ⟨⟩ _ _ _ _
    exact List.nodup_nil

/-- Headers that are read from the other format are listed under distinct names. -/
theorem distinct_of_callsOfToml {v : Toml} {calls : CallSettings}
    (h : callsOfToml? v = some calls) : calls.defaultHeaders.names.Nodup := by
  obtain ⟨fields, -, h⟩ := Option.bind_eq_some_iff.mp h
  split at h
  · simp only [Option.bind_eq_bind, Option.bind_eq_some_iff] at h
    obtain ⟨_, -, _, -, _, -, headers, -, h⟩ := h
    obtain rfl := Option.some.inj h
    exact nodup_names_sortedTexts headers
  · cases h

theorem distinct_of_ofToml {v : Toml} {s : Settings} (h : ofToml? v = some s) : s.Distinct := by
  obtain ⟨fields, -, h⟩ := Option.bind_eq_some_iff.mp h
  split at h
  · next calls _ _ =>
    simp only [Option.bind_eq_bind, Option.bind_eq_some_iff] at h
    obtain ⟨read, hread, _, -, _, -, h⟩ := h
    obtain rfl := Option.some.inj h
    cases calls with
    | none => exact Option.some.inj hread ▸ List.nodup_nil
    | some v => exact distinct_of_callsOfToml hread
  · cases h

/-- Whatever the format of a text is, the settings in it are distinct. -/
theorem yields_parse (format name text : String) :
    Yields (parse format name text) Distinct := by
  unfold parse
  split
  · split
    · next s hs =>
      obtain ⟨v, -, hv⟩ := Option.bind_eq_some_iff.mp hs
      exact yields_ok (distinct_of_ofToml hv)
    · exact yields_error _
  · split
    · exact (yields_decodeText yields_decoder _).mapError _
    · exact yields_error _

/-! ### What variables change -/

/-- A variable sets sorted headers, or it leaves the headers alone. -/
theorem yields_assign (f : Field) (value : String) {s : Settings} (h : s.Distinct) :
    Yields (f.assign value s) Distinct := by
  cases f with
  | defaultHeaders => exact Yields.map fun pairs _ => nodup_names_sortedTexts pairs
  | logLevel => exact yields_ok h
  | logFormat =>
    unfold Field.assign
    dsimp only
    cases LogFormat.parse value with
    | ok f => exact yields_ok h
    | error e => exact yields_error _
  | maxBodyBytes | validateOutput | trustRequestId | bufferSize | keepAliveSeconds | logEnabled |
    fileLineInfo => exact Yields.map fun _ _ => h

theorem yields_override (family : String) (vars : List (String × String)) {s : Settings}
    (h : s.Distinct) : Yields (override family vars s) Distinct :=
  Yields.foldlM h fun _ hs entry _ => (yields_assign entry.2.1 entry.2.2 hs).mapError _

/-! ### Loaders -/

namespace Loader

/-- **The loaders that can be made.** -/
inductive Built : Loader → Prop
  | start : Built {}
  | usual {l : Loader} (hl : Built l) : Built (l.resetTo {})
  | development {l : Loader} (hl : Built l) : Built (l.resetTo .development)
  | production {l : Loader} (hl : Built l) : Built (l.resetTo .production)
  | text {l made : Loader} {text format : String} (hl : Built l)
      (hmade : l.withText text format = .ok made) : Built made
  | file {l made : Loader} {path : String} {file : FileState} (hl : Built l)
      (hmade : l.withFile path file = .ok made) : Built made
  | optionalFile {l made : Loader} {path : String} {file : FileState} (hl : Built l)
      (hmade : l.withOptionalFile path file = .ok made) : Built made
  | family {l : Loader} (hl : Built l) (family : String) : Built (l.withFamily family)
  | given {l : Loader} (hl : Built l) (vars : List (String × String)) :
      Built (l.withVariables vars)

theorem yields_withText (l : Loader) (text format : String) :
    Yields (l.withText text format) fun made => made.settings.Distinct :=
  Yields.map (f := l.resetTo) (yields_parse _ _ _)

theorem yields_withFile (l : Loader) (path : String) (file : FileState) :
    Yields (l.withFile path file) fun made => made.settings.Distinct := by
  cases file with
  | missing | unreadable => exact yields_error _
  | holding bytes =>
    unfold withFile
    dsimp only
    cases Text.decode? bytes with
    | none => exact yields_error _
    | some text => exact Yields.map (f := l.resetTo) (yields_parse _ _ _)

/-- However a loader was made, the settings in it are distinct. -/
theorem Built.distinct {l : Loader} (h : l.Built) : l.settings.Distinct := by
  -- Induction on how it was made: only texts and files bring other headers into it.
  induction h with
  | start | usual | development | production => exact List.nodup_nil
  | text _ hmade => exact yields_withText _ _ _ _ hmade
  | file _ hmade => exact yields_withFile _ _ _ _ hmade
  | @optionalFile l made path file _ hmade ih =>
    cases file with
    | missing => exact Except.ok.inj hmade ▸ ih
    | unreadable => cases hmade
    | holding bytes => exact yields_withFile l path (.holding bytes) made hmade
  | family _ _ ih | given _ _ ih => exact ih

theorem yields_overridden {l : Loader} (h : l.settings.Distinct) :
    Yields l.overridden Distinct := by
  unfold overridden
  split
  · exact yields_ok h
  · exact (yields_override _ _ h).mapError _

/-- **What is loaded** has distinct headers and has passed the check. -/
theorem Built.yields_load {l : Loader} (h : l.Built) :
    Yields l.load fun s => s.Distinct ∧ s.check = .ok () :=
  (yields_overridden h.distinct).bind fun s hs =>
    (Yields.mapError (x := s.check) (P := fun _ => s.check = .ok ()) (fun _ h => h) _).bind
      fun _ hcheck => yields_ok ⟨hs, hcheck⟩

end Loader

end Settings

end Callpoint
