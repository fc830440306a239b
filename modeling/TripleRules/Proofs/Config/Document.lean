import TripleRules.Config.Document
import TripleRules.Proofs.Outcome
import TripleRules.Proofs.Toml.Format

/-!
# Configurations as documents

A configuration is read from the document that it makes, whatever the order of the profiles and of
all the other entries (`Config.ofValue?_of_same`). The integers in the document are the limits on
rounds (`Config.bounded_documentWith`).
-/

namespace TripleRules

open Toml (Value Scalar Part)

theorem ifPresent_map {α : Type} (read : Value → Option α) (write : α → Scalar)
    (h : ∀ a, read (write a).toValue = some a) (o : Option α) :
    ifPresent read ((o.map write).map Scalar.toValue) = some o := by
  cases o with
  | none => rfl
  | some a => simp [ifPresent, h]

theorem LogLevel.ofName?_name (l : LogLevel) : ofName? l.name = some l := by
  cases l <;> decide

theorem Profile.ofName?_name (p : Profile) : ofName? p.name = some p := by
  cases p <;> decide

namespace Config

variable {c : Config} {profiles : List (String × ProfileSettings)} {v : Value}

-- ---------------------------------------------------------------------------
-- The settings of a profile
-- ---------------------------------------------------------------------------

theorem nodup_profileEntries (s : ProfileSettings) : ((profileEntries s).map Prod.fst).Nodup := by
  obtain ⟨trace, maxRounds, logLevel, description⟩ := s
  cases trace <;> cases maxRounds <;> cases logLevel <;> cases description <;> simp [profileEntries]

theorem lookup_profileEntries (s : ProfileSettings) :
    (profileEntries s).lookup "trace" = s.trace.map .boolean ∧
      (profileEntries s).lookup "max_rounds_per_stratum" = s.maxRounds.map (fun n => .integer n) ∧
      (profileEntries s).lookup "log_level" = s.logLevel.map (fun l => .text l.name) ∧
      (profileEntries s).lookup "description" = s.description.map .text := by
  obtain ⟨trace, maxRounds, logLevel, description⟩ := s
  cases trace <;> cases maxRounds <;> cases logLevel <;> cases description <;>
    simp [profileEntries, List.lookup_cons]

theorem ofValue?_profileEntries {s : ProfileSettings}
    (h : (Part.fields (profileEntries s)).toValue.Same v) :
    ProfileSettings.ofValue? v = some s := by
  obtain ⟨entries, rfl, hlookup⟩ := Part.exists_of_same_fields h
  obtain ⟨htrace, hrounds, hlevel, hdescription⟩ := lookup_profileEntries s
  have hflag := ifPresent_map Value.flag? .boolean (fun _ => rfl) s.trace
  have hcount := ifPresent_map Value.count? (fun n => .integer n) (fun _ => rfl) s.maxRounds
  have hname := ifPresent_map (fun v => v.name?.bind LogLevel.ofName?) (fun l => .text l.name)
    LogLevel.ofName?_name s.logLevel
  have hstring := ifPresent_map Value.string? .text (fun _ => rfl) s.description
  simp only [ProfileSettings.ofValue?, Value.parts?, Option.bind_eq_bind, Option.bind_some,
    Option.pure_def, hlookup, htrace, hrounds, hlevel, hdescription, hflag, hcount, hname, hstring]

theorem bounded_profileEntries (s : ProfileSettings) :
    (∀ e ∈ profileEntries s, e.2.toValue.Bounded) ↔
      ∀ n, s.maxRounds = some n → Number.FitsSigned n := by
  obtain ⟨trace, maxRounds, logLevel, description⟩ := s
  cases trace <;> cases maxRounds <;> cases logLevel <;> cases description <;>
    simp [profileEntries, Scalar.bounded_toValue_iff]

-- ---------------------------------------------------------------------------
-- The three parts
-- ---------------------------------------------------------------------------

theorem generalOfValue?_of_same
    (h : (Part.fields [("log_level", .text c.logLevel.name),
      ("profile", .text c.profile.name)]).toValue.Same v) :
    generalOfValue? v = some (c.logLevel, c.profile) := by
  obtain ⟨entries, rfl, hlookup⟩ := Part.exists_of_same_fields h
  have hlevel : entries.lookup "log_level" = some (.text c.logLevel.name) := hlookup "log_level"
  have hprofile : entries.lookup "profile" = some (.text c.profile.name) := hlookup "profile"
  simp [generalOfValue?, Value.parts?, hlevel, hprofile, ifPresent, Value.name?,
    LogLevel.ofName?_name, Profile.ofName?_name]

theorem ofValue?_engine_of_same
    (h : (Part.fields [("trace", .boolean c.engine.trace),
      ("max_rounds_per_stratum", .integer c.engine.maxRounds)]).toValue.Same v) :
    EngineSettings.ofValue? v = some c.engine := by
  obtain ⟨entries, rfl, hlookup⟩ := Part.exists_of_same_fields h
  have htrace : entries.lookup "trace" = some (.boolean c.engine.trace) := hlookup "trace"
  have hrounds : entries.lookup "max_rounds_per_stratum" = some (.integer c.engine.maxRounds) :=
    hlookup "max_rounds_per_stratum"
  simp only [EngineSettings.ofValue?, Value.parts?, Option.bind_eq_bind, Option.bind_some, htrace,
    hrounds]
  rfl

theorem profilesOfValue?_of_same (hperm : profiles.Perm c.profiles.entries)
    (h : (Part.tables (profiles.map fun e => (e.1, profileEntries e.2))).toValue.Same v) :
    profilesOfValue? v = some c.profiles := by
  have hnodup := Dictionary.nodup_of_perm hperm
  obtain ⟨entries, rfl, hnames, hentries⟩ := Part.exists_of_same_tables
    (by simpa [Function.comp_def] using hnodup) h
  rw [List.map_map] at hnames
  let settings (e : String × Value) := (ProfileSettings.ofValue? e.2).getD {}
  have hread : ∀ e ∈ entries, ProfileSettings.ofValue? e.2 = some (settings e) ∧
      (e.1, settings e) ∈ profiles := by
    intro e he
    obtain ⟨t, ht, heq, hsame⟩ := hentries e he
    obtain ⟨p, hp, rfl⟩ := List.mem_map.mp ht
    have hp' := ofValue?_profileEntries hsame
    have hsettings : settings e = p.2 := by simp [settings, hp']
    rw [hsettings, ← heq]
    exact ⟨hp', hp⟩
  have hmap : (entries.mapM fun e => do return (e.1, ← ProfileSettings.ofValue? e.2)) =
      some (entries.map fun e => (e.1, settings e)) :=
    Option.mapM_eq_map fun e he => by rw [(hread e he).1]; rfl
  have hsame : (entries.map fun e => (e.1, settings e)).Perm profiles := by
    refine perm_of_forall_mem hnodup (by simpa [Function.comp_def] using hnames) ?_
    exact List.forall_mem_map.mpr fun e he => (hread e he).2
  simp only [profilesOfValue?, Value.entries?, Option.bind_eq_bind, Option.bind_some] at hmap ⊢
  rw [hmap, Option.bind_some, Dictionary.ofList_of_perm (hsame.trans hperm)]
  rfl

theorem ofValue?_of_same (hperm : profiles.Perm c.profiles.entries)
    (h : (c.documentWith profiles).toValue.Same v) : ofValue? v = some c := by
  obtain ⟨entries, rfl, -⟩ := h.exists_entries
  obtain ⟨general, hgeneral, hgeneral'⟩ := h.exists_lookup "general" rfl
  obtain ⟨engine, hengine, hengine'⟩ := h.exists_lookup "engine" rfl
  obtain ⟨defined, hdefined, hdefined'⟩ := h.exists_lookup "profiles" rfl
  simp [ofValue?, Value.parts?, hgeneral, hengine, hdefined, ifPresent,
    generalOfValue?_of_same hgeneral', ofValue?_engine_of_same hengine',
    profilesOfValue?_of_same hperm hdefined']

theorem distinct_documentWith (hperm : profiles.Perm c.profiles.entries) :
    (c.documentWith profiles).Distinct := by
  have hnodup := Dictionary.nodup_of_perm hperm
  refine ⟨by simp [documentWith], ?_⟩
  simp only [documentWith, List.forall_mem_cons]
  exact ⟨by simp [Part.Distinct], by simp [Part.Distinct],
    ⟨by simpa [Function.comp_def] using hnodup,
      List.forall_mem_map.mpr fun e _ => nodup_profileEntries e.2⟩, List.forall_mem_nil _⟩

theorem bounded_documentWith : (c.documentWith profiles).toValue.Bounded ↔
    Number.FitsSigned c.engine.maxRounds ∧
      ∀ p ∈ profiles, ∀ n, p.2.maxRounds = some n → Number.FitsSigned n := by
  simp only [documentWith, Toml.Document.toValue, Part.toValue, Value.bounded_table,
    List.forall_mem_map, List.forall_mem_cons, Scalar.bounded_toValue_iff]
  simp [← bounded_profileEntries, Scalar.bounded_toValue_iff]

end Config

end TripleRules
