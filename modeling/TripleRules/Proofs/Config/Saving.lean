import TripleRules.Config.File
import TripleRules.Proofs.Config.Document
import TripleRules.Proofs.Config.Overrides
import TripleRules.Proofs.Toml.Standard

/-!
# Saving and loading again

A configuration that comes of a document by profiles and overrides is given back by loading what
saving it wrote, provided that its limit on rounds is one of the integers that documents have
(`Config.reload_of_attainable`). This holds of every format with the laws of formats: documents have
signed integers of sixty-four bits, and so have the limits that are read from them. An override
takes unsigned ones as well, and what cannot be saved is just what has one of these.
-/

namespace TripleRules

open Toml (Value Format)

-- ---------------------------------------------------------------------------
-- Limits that are read
-- ---------------------------------------------------------------------------

theorem Number.fitsSigned_zero : FitsSigned 0 := by decide

theorem Number.FitsSigned.fitsCount {n : Nat} (h : FitsSigned n) : FitsCount n := by
  obtain ⟨-, h⟩ := h
  unfold FitsCount
  omega

theorem Toml.Value.Bounded.part {v w : Value} {names : List String} {part : String → Option Value}
    {name : String} (hv : v.Bounded) (hparts : v.parts? names = some part)
    (hpart : part name = some w) : w.Bounded := by
  rw [Value.parts?.eq_def] at hparts
  split at hparts
  · next entries =>
    obtain rfl := Option.some.inj hparts
    obtain ⟨before, after, rfl, -⟩ := List.lookup_eq_some_iff.mp hpart
    exact Value.bounded_table.mp hv (name, w) (by simp)
  · next items =>
    obtain rfl := Option.some.inj hparts
    obtain ⟨before, after, hzip, -⟩ := List.lookup_eq_some_iff.mp hpart
    have hmem : (name, w) ∈ names.zip items := by simp [hzip]
    exact Value.bounded_array.mp hv w (List.of_mem_zip hmem).2
  · obtain rfl := Option.some.inj hparts
    cases hpart
  · cases hparts

theorem Toml.Value.Bounded.count {v : Value} {n : Nat} (hv : v.Bounded) (h : v.count? = some n) :
    Number.FitsSigned n := by
  rw [Value.count?.eq_def] at h
  split at h
  · obtain rfl := Option.some.inj h
    cases hv
    assumption
  · cases h

theorem of_ifPresent {α : Type} {read : Value → Option α} {o : Option Value} {a : α}
    (h : ifPresent read o = some (some a)) : ∃ v, o = some v ∧ read v = some a := by
  cases o with
  | none => cases h
  | some v =>
    obtain ⟨b, hb, heq⟩ := Option.map_eq_some_iff.mp h
    obtain rfl := Option.some.inj heq
    exact ⟨v, rfl, hb⟩

theorem ProfileSettings.fitsSigned_of_ofValue? {v : Value} {s : ProfileSettings} {n : Nat}
    (hv : v.Bounded) (h : ofValue? v = some s) (hn : s.maxRounds = some n) :
    Number.FitsSigned n := by
  simp only [ofValue?, Option.bind_eq_bind, Option.bind_eq_some_iff, Option.pure_def,
    Option.some.injEq] at h
  obtain ⟨part, hpart, trace, -, maxRounds, hmaxRounds, level, -, description, -, rfl⟩ := h
  obtain rfl : maxRounds = some n := hn
  obtain ⟨w, hw, hcount⟩ := of_ifPresent hmaxRounds
  exact (hv.part hpart hw).count hcount

theorem EngineSettings.fitsSigned_of_ofValue? {v : Value} {e : EngineSettings} (hv : v.Bounded)
    (h : ofValue? v = some e) : Number.FitsSigned e.maxRounds := by
  simp only [ofValue?, Option.bind_eq_bind, Option.bind_eq_some_iff, Option.pure_def,
    Option.some.injEq] at h
  obtain ⟨part, hpart, trace, -, maxRounds, hmaxRounds, rfl⟩ := h
  cases maxRounds with
  | none => exact Number.fitsSigned_zero
  | some n =>
    obtain ⟨w, hw, hcount⟩ := of_ifPresent hmaxRounds
    exact (hv.part hpart hw).count hcount

namespace Config

variable {c d : Config} {format : Format}

def LimitsFit (profiles : Dictionary ProfileSettings) : Prop :=
  ∀ p ∈ profiles.entries, ∀ n, p.2.maxRounds = some n → Number.FitsSigned n

theorem limitsFit_of_profilesOfValue? {v : Value} {profiles : Dictionary ProfileSettings}
    (hv : v.Bounded) (h : profilesOfValue? v = some profiles) : LimitsFit profiles := by
  simp only [profilesOfValue?, Option.bind_eq_bind, Option.bind_eq_some_iff, Option.pure_def,
    Option.some.injEq] at h
  obtain ⟨entries, hentries, results, hresults, rfl⟩ := h
  intro p hp n hn
  obtain ⟨e, he, hread⟩ := Option.mem_of_mapM hresults p (Dictionary.mem_of_mem_ofList hp)
  obtain ⟨s, hs, heq⟩ := Option.bind_eq_some_iff.mp hread
  obtain rfl := Option.some.inj heq
  have hbounded : e.2.Bounded := by
    cases v with
    | table members =>
      obtain rfl := Option.some.inj hentries
      exact Value.bounded_table.mp hv e he
    | _ => cases hentries
  exact ProfileSettings.fitsSigned_of_ofValue? hbounded hs hn

theorem ofString_eq_ok {text : String} :
    ofString text format = .ok c ↔ ofText? text format = some c := by
  rw [ofString, parse]
  cases ofText? text format <;> simp

theorem limits_of_ofString {text : String} (hformat : format.Lawful)
    (h : ofString text format = .ok c) :
    Number.FitsSigned c.engine.maxRounds ∧ LimitsFit c.profiles := by
  obtain ⟨v, hv, hread⟩ := Option.bind_eq_some_iff.mp (ofString_eq_ok.mp h)
  have hbounded := hformat.bounded_of_read hv
  simp only [ofValue?, Option.bind_eq_bind, Option.bind_eq_some_iff, Option.pure_def,
    Option.some.injEq] at hread
  obtain ⟨part, hpart, general, -, engine, hengine, profiles, hprofiles, rfl⟩ := hread
  constructor
  · cases engine with
    | none => exact Number.fitsSigned_zero
    | some e =>
      obtain ⟨w, hw, he⟩ := of_ifPresent hengine
      exact EngineSettings.fitsSigned_of_ofValue? (hbounded.part hpart hw) he
  · cases profiles with
    | none => exact List.forall_mem_nil _
    | some p =>
      obtain ⟨w, hw, hp⟩ := of_ifPresent hprofiles
      exact limitsFit_of_profilesOfValue? (hbounded.part hpart hw) hp

/-- The configurations that come of documents by profiles and overrides. -/
inductive Attainable (format : Format) : Config → Prop
  | loaded {text : String} {c : Config} : ofString text format = .ok c → Attainable format c
  | profile {c d : Config} {name : String} :
    Attainable format c → c.applyProfile name = .ok d → Attainable format d
  | overrides {c d : Config} {lookup : String → Option String} :
    Attainable format c → c.applyOverrides lookup = (d, none) → Attainable format d

structure Limited (c : Config) : Prop where
  maxRounds : Number.FitsCount c.engine.maxRounds
  profiles : LimitsFit c.profiles

theorem Limited.applyProfile {name : String} (hc : c.Limited) (h : c.applyProfile name = .ok d) :
    d.Limited := by
  rcases applyProfile_ok h with ⟨p, rfl⟩ | ⟨s, hs, rfl⟩
  · refine ⟨?_, hc.profiles⟩
    change Number.FitsCount p.maxRounds
    cases p <;> decide
  · refine ⟨?_, hc.profiles⟩
    obtain ⟨before, after, hentries, -⟩ := List.lookup_eq_some_iff.mp hs
    have hfits := hc.profiles (name, s) (by simp [hentries])
    change Number.FitsCount (s.maxRounds.getD c.engine.maxRounds)
    cases hn : s.maxRounds with
    | none => exact hc.maxRounds
    | some n => exact (hfits n hn).fitsCount

theorem Limited.apply {o : Override} {value : String} (ho : o ∈ Config.overrides) (hc : c.Limited)
    (h : o.apply c value = .ok d) : d.Limited := by
  rcases apply_cases ho c value with ⟨-, h'⟩ | h' | ⟨l, h'⟩ | ⟨b, h'⟩ | ⟨n, hn, h'⟩
  · exact hc.applyProfile (h'.symm.trans h)
  · cases h'.symm.trans h
  · obtain rfl := Except.ok.inj (h'.symm.trans h)
    exact ⟨hc.maxRounds, hc.profiles⟩
  · obtain rfl := Except.ok.inj (h'.symm.trans h)
    exact ⟨hc.maxRounds, hc.profiles⟩
  · obtain rfl := Except.ok.inj (h'.symm.trans h)
    exact ⟨of_decide_eq_true (Option.filter_eq_some_iff.mp hn).2, hc.profiles⟩

theorem Attainable.limited (hformat : format.Lawful) (h : c.Attainable format) : c.Limited := by
  induction h with
  | loaded h =>
    obtain ⟨hengine, hprofiles⟩ := limits_of_ofString hformat h
    exact ⟨hengine.fitsCount, hprofiles⟩
  | profile _ h ih => exact ih.applyProfile h
  | @overrides c d lookup _ h ih =>
    have hd : (c.applyOverrides lookup).1.Limited :=
      applyEach_keeps (motive := Limited) (fun o ho c value d h hc => hc.apply ho h) ih
    rwa [h] at hd

-- ---------------------------------------------------------------------------
-- Saving
-- ---------------------------------------------------------------------------

variable {profiles : List (String × ProfileSettings)}

theorem exists_write (hformat : format.Lawful) (hfits : Number.FitsSigned c.engine.maxRounds)
    (hprofiles : LimitsFit c.profiles) (hperm : profiles.Perm c.profiles.entries) :
    ∃ text, format.write? (c.documentWith profiles) = some text ∧
      ofString text format = .ok c := by
  have hdistinct := distinct_documentWith hperm
  have hbounded : (c.documentWith profiles).toValue.Bounded :=
    bounded_documentWith.mpr ⟨hfits, fun p hp => hprofiles p (hperm.mem_iff.mp hp)⟩
  obtain ⟨text, htext⟩ :=
    Option.isSome_iff_exists.mp ((hformat.isSome_write_iff hdistinct).mpr hbounded)
  obtain ⟨v, hv, hsame⟩ := hformat.same_of_write hdistinct htext
  refine ⟨text, htext, ofString_eq_ok.mpr ?_⟩
  rw [ofText?, hv]
  exact ofValue?_of_same hperm hsame

theorem write_eq_none (hformat : format.Lawful) (hfits : ¬ Number.FitsSigned c.engine.maxRounds)
    (hperm : profiles.Perm c.profiles.entries) :
    format.write? (c.documentWith profiles) = none := by
  rw [← Option.not_isSome_iff_eq_none, hformat.isSome_write_iff (distinct_documentWith hperm)]
  exact fun h => hfits (bounded_documentWith.mp h).1

/-- In any format with the laws of formats, saving a configuration and loading it again gives it
back if its limit on rounds is one of the integers of documents, in whatever order the profiles are
written. Otherwise it cannot be saved. -/
theorem reload_of_attainable (hformat : format.Lawful) (h : c.Attainable format) :
    Number.FitsCount c.engine.maxRounds ∧
      (Number.FitsSigned c.engine.maxRounds →
        (∃ text, c.toText format = .ok text ∧ ofString text format = .ok c) ∧
        ∀ profiles, profiles.Perm c.profiles.entries →
          ∃ text, format.write? (c.documentWith profiles) = some text ∧
            ofString text format = .ok c) ∧
      (¬ Number.FitsSigned c.engine.maxRounds →
        c.toText format = .error (.unwritable none) ∧
        ∀ profiles, profiles.Perm c.profiles.entries →
          format.write? (c.documentWith profiles) = none) := by
  obtain ⟨hcount, hprofiles⟩ := h.limited hformat
  refine ⟨hcount, fun hfits => ⟨?_, fun _ => exists_write hformat hfits hprofiles⟩,
    fun hfits => ⟨?_, fun _ => write_eq_none hformat hfits⟩⟩
  · obtain ⟨text, htext, hread⟩ := exists_write hformat hfits hprofiles (.refl _)
    exact ⟨text, by rw [toText, htext], hread⟩
  · rw [toText, write_eq_none hformat hfits (.refl _)]

/-- A profile whose name and description need quotes, in force with the largest limit there is. -/
theorem reload_of_attainable_quoted :
    let s : ProfileSettings :=
      { maxRounds := some 0x7FFFFFFFFFFFFFFF, description := some "it's\n\"done\"" }
    let c : Config := ⟨.quiet, .custom, ⟨true, 0x7FFFFFFFFFFFFFFF⟩, .ofList [("a \"b\"", s)]⟩
    Format.standard.Lawful ∧ c.Attainable .standard ∧ Number.FitsSigned c.engine.maxRounds ∧
      (∃ text, c.toText .standard = .ok text ∧ ofString text .standard = .ok c) ∧
      ∀ profiles, profiles.Perm c.profiles.entries →
        ∃ text, Format.standard.write? (c.documentWith profiles) = some text ∧
          ofString text .standard = .ok c := by
  intro s c
  have hread : ofText? "[profiles.'a \"b\"']
max_rounds_per_stratum = 9223372036854775807
description = \"it's\\n\\\"done\\\"\"
" = some { profiles := c.profiles } := by decide +kernel
  have hprofile : ({ profiles := c.profiles } : Config).applyProfile "a \"b\"" =
    .ok { c with logLevel := .normal, engine.trace := false } := by rfl
  have hoverrides : Config.applyOverrides { c with logLevel := .normal, engine.trace := false }
    (fun key => [("STRATA_LOG_LEVEL", "Q"), ("STRATA_TRACE", "yes")].lookup key) = (c, none) := by
    decide +kernel
  have hattainable : c.Attainable .standard :=
    .overrides (.profile (.loaded (ofString_eq_ok.mpr hread)) hprofile) hoverrides
  have hfits : Number.FitsSigned c.engine.maxRounds := by decide
  have hformat := Format.standard_lawful
  exact ⟨hformat, hattainable, hfits, (reload_of_attainable hformat hattainable).2.1 hfits⟩

/-- An override sets a limit that no document can hold, in any format in which an empty text is an
empty document. -/
theorem unwritable_of_override :
    let c : Config := { engine := ⟨false, 0x8000000000000000⟩ }
    let lookup (key : String) := [("STRATA_MAX_ROUNDS", "9223372036854775808")].lookup key
    ({} : Config).applyOverrides lookup = (c, none) ∧
      (∀ format : Format, format.Lawful → format.read? "" = some (.table []) →
        c.Attainable format ∧ c.toText format = .error (.unwritable none)) ∧
      Format.standard.Lawful ∧ Format.standard.read? "" = some (.table []) := by
  intro c lookup
  have hoverrides : ({} : Config).applyOverrides lookup = (c, none) := by decide +kernel
  refine ⟨hoverrides, fun format hformat hread => ⟨?_, ?_⟩, Format.standard_lawful, by rfl⟩
  · have hloaded : ofString "" format = .ok {} :=
      ofString_eq_ok.mpr (Option.bind_eq_some_iff.mpr ⟨_, hread, rfl⟩)
    exact .overrides (.loaded hloaded) hoverrides
  · have hfits : ¬ Number.FitsSigned c.engine.maxRounds := by decide
    rw [toText, write_eq_none hformat hfits (.refl _)]

end Config

end TripleRules
