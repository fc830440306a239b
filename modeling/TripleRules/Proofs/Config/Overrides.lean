import TripleRules.Config.Basic

/-!
# Overrides that are refused

Overrides come one after the other, and a refused one ends the series without taking back what came
before it. A single override is all or nothing, for it reads its value before it changes anything,
but a series is not: what a refused series leaves is what the keys before the refused one make on
their own (`Config.applyOverrides_refused`). So the configuration is as before exactly if these
change nothing.
-/

namespace TripleRules.Config

variable {c d left : Config} {lookup : String → Option String} {os before after : List Override}
  {o : Override} {e : ConfigError} {value : String}

-- ---------------------------------------------------------------------------
-- Series
-- ---------------------------------------------------------------------------

theorem applyEach_cons_of_none (h : lookup o.key = none) :
    applyEach lookup c (o :: os) = applyEach lookup c os := by
  simp only [applyEach, h]

theorem applyEach_cons_of_ok (h : lookup o.key = some value) (hok : o.apply c value = .ok d) :
    applyEach lookup c (o :: os) = applyEach lookup d os := by
  simp only [applyEach, h, hok]

theorem applyEach_cons_of_error (h : lookup o.key = some value)
    (herror : o.apply c value = .error e) : applyEach lookup c (o :: os) = (c, some e) := by
  simp only [applyEach, h, herror]

theorem applyEach_of_forall_none (h : ∀ o ∈ os, lookup o.key = none) :
    applyEach lookup c os = (c, none) := by
  induction os with
  | nil => rfl
  | cons o rest ih =>
    rw [List.forall_mem_cons] at h
    rw [applyEach_cons_of_none h.1, ih h.2]

theorem applyEach_congr_append {lookup' : String → Option String}
    (hbefore : ∀ o ∈ before, lookup' o.key = lookup o.key)
    (hafter : ∀ o ∈ after, lookup' o.key = none) :
    applyEach lookup' c (before ++ after) = applyEach lookup c before := by
  induction before generalizing c with
  | nil => exact applyEach_of_forall_none hafter
  | cons o rest ih =>
    rw [List.forall_mem_cons] at hbefore
    obtain ⟨ho, hrest⟩ := hbefore
    rw [List.cons_append]
    cases hkey : lookup o.key with
    | none => rw [applyEach_cons_of_none (ho.trans hkey), applyEach_cons_of_none hkey, ih hrest]
    | some value =>
      have hkey' := ho.trans hkey
      cases happly : o.apply c value with
      | ok d =>
        rw [applyEach_cons_of_ok hkey' happly, applyEach_cons_of_ok hkey happly, ih hrest]
      | error e =>
        rw [applyEach_cons_of_error hkey' happly, applyEach_cons_of_error hkey happly]

/-- A refused series has a first override that is refused, and what comes before it succeeds. -/
theorem exists_refused (h : applyEach lookup c os = (left, some e)) :
    ∃ before o after value, os = before ++ o :: after ∧
      applyEach lookup c before = (left, none) ∧ lookup o.key = some value ∧
      o.apply left value = .error e := by
  induction os generalizing c with
  | nil => cases (Prod.mk.inj h).2
  | cons o rest ih =>
    cases hkey : lookup o.key with
    | none =>
      rw [applyEach_cons_of_none hkey] at h
      obtain ⟨before, p, after, value, rfl, hbefore, hp⟩ := ih h
      rw [← applyEach_cons_of_none hkey] at hbefore
      exact ⟨o :: before, p, after, value, rfl, hbefore, hp⟩
    | some value =>
      cases happly : o.apply c value with
      | ok d =>
        rw [applyEach_cons_of_ok hkey happly] at h
        obtain ⟨before, p, after, value, rfl, hbefore, hp⟩ := ih h
        rw [← applyEach_cons_of_ok hkey happly] at hbefore
        exact ⟨o :: before, p, after, _, rfl, hbefore, hp⟩
      | error d =>
        rw [applyEach_cons_of_error hkey happly] at h
        obtain ⟨rfl, herror⟩ := Prod.mk.inj h
        obtain rfl := Option.some.inj herror
        exact ⟨[], o, rest, value, rfl, rfl, hkey, happly⟩

theorem applyEach_keeps {motive : Config → Prop}
    (hstep : ∀ o ∈ os, ∀ c value d, o.apply c value = .ok d → motive c → motive d)
    (hc : motive c) : motive (applyEach lookup c os).1 := by
  induction os generalizing c with
  | nil => exact hc
  | cons o rest ih =>
    rw [List.forall_mem_cons] at hstep
    obtain ⟨ho, hrest⟩ := hstep
    cases hkey : lookup o.key with
    | none =>
      rw [applyEach_cons_of_none hkey]
      exact ih hrest hc
    | some value =>
      cases happly : o.apply c value with
      | ok d =>
        rw [applyEach_cons_of_ok hkey happly]
        exact ih hrest (ho c value d happly hc)
      | error e =>
        rw [applyEach_cons_of_error hkey happly]
        exact hc

-- ---------------------------------------------------------------------------
-- Single overrides
-- ---------------------------------------------------------------------------

theorem nodup_keys : (overrides.map Override.key).Nodup := by decide

theorem applyProfile_ok {name : String} (h : c.applyProfile name = .ok d) :
    (∃ p, d = c.applyBuiltIn p) ∨ ∃ s, c.profiles.get? name = some s ∧ d = c.applyDefined s := by
  simp only [applyProfile] at h
  split at h
  · next p _ => exact .inl ⟨p, (Except.ok.inj h).symm⟩
  · split at h
    · next s hs => exact .inr ⟨s, hs, (Except.ok.inj h).symm⟩
    · cases h

theorem applyProfile_error {name : String} (h : c.applyProfile name = .error e) :
    e = .unknownProfile name := by
  simp only [applyProfile] at h
  split at h
  · cases h
  · split at h
    · cases h
    · exact (Except.error.inj h).symm

/-- An override applies a profile, refuses a value that it cannot read, or changes one setting. -/
theorem apply_cases (ho : o ∈ overrides) (c : Config) (value : String) :
    (o.key = "STRATA_PROFILE" ∧ o.apply c value = c.applyProfile value) ∨
    o.apply c value = .error (.invalidValue o.key value) ∨
    (∃ l, o.apply c value = .ok { c with logLevel := l }) ∨
    (∃ b, o.apply c value = .ok { c with engine.trace := b }) ∨
    ∃ n, Number.count? value = some n ∧ o.apply c value = .ok { c with engine.maxRounds := n } := by
  simp only [overrides, List.mem_cons, List.not_mem_nil, or_false] at ho
  rcases ho with rfl | rfl | rfl | rfl
  · exact .inl ⟨rfl, rfl⟩
  · dsimp only
    cases LogLevel.ofText? value with
    | none => exact .inr (.inl rfl)
    | some l => exact .inr (.inr (.inl ⟨l, rfl⟩))
  · exact .inr (.inr (.inr (.inl ⟨_, rfl⟩)))
  · dsimp only
    cases Number.count? value with
    | none => exact .inr (.inl rfl)
    | some n => exact .inr (.inr (.inr (.inr ⟨n, rfl, rfl⟩)))

theorem profiles_of_apply (ho : o ∈ overrides) (h : o.apply c value = .ok d) :
    d.profiles = c.profiles := by
  rcases apply_cases ho c value with ⟨-, h'⟩ | h' | ⟨l, h'⟩ | ⟨b, h'⟩ | ⟨n, -, h'⟩
  · rcases applyProfile_ok (h'.symm.trans h) with ⟨p, rfl⟩ | ⟨s, -, rfl⟩
    · rfl
    · rfl
  · cases h'.symm.trans h
  · exact Except.ok.inj (h'.symm.trans h) ▸ rfl
  · exact Except.ok.inj (h'.symm.trans h) ▸ rfl
  · exact Except.ok.inj (h'.symm.trans h) ▸ rfl

theorem eq_of_apply_error (ho : o ∈ overrides) (h : o.apply c value = .error e) :
    o.key = "STRATA_PROFILE" ∧ e = .unknownProfile value ∨ e = .invalidValue o.key value := by
  rcases apply_cases ho c value with ⟨hkey, h'⟩ | h' | ⟨l, h'⟩ | ⟨b, h'⟩ | ⟨n, -, h'⟩
  · exact .inl ⟨hkey, applyProfile_error (h'.symm.trans h)⟩
  · exact .inr (Except.error.inj (h'.symm.trans h)).symm
  · cases h'.symm.trans h
  · cases h'.symm.trans h
  · cases h'.symm.trans h

-- ---------------------------------------------------------------------------
-- What a refused series leaves
-- ---------------------------------------------------------------------------

def lookupOnly (keys : List String) (lookup : String → Option String) (key : String) :
    Option String :=
  if key ∈ keys then lookup key else none

theorem applyOverrides_lookupOnly (h : overrides = before ++ after) :
    c.applyOverrides (lookupOnly (before.map Override.key) lookup) =
      applyEach lookup c before := by
  have hnodup := nodup_keys
  rw [h, List.map_append, List.nodup_append] at hnodup
  obtain ⟨-, -, hdisjoint⟩ := hnodup
  rw [applyOverrides, h]
  refine applyEach_congr_append (fun o ho => if_pos (List.mem_map_of_mem ho)) fun o ho => ?_
  exact if_neg fun hmem => hdisjoint _ hmem _ (List.mem_map_of_mem ho) rfl

theorem profiles_applyOverrides (c : Config) (lookup : String → Option String) :
    (c.applyOverrides lookup).1.profiles = c.profiles :=
  applyEach_keeps (motive := fun d => d.profiles = c.profiles)
    (fun _ ho _ _ _ h hprofiles => (profiles_of_apply ho h).trans hprofiles) rfl

/-- If overrides are refused, some key has a value that cannot be used, and the failure names them.
The keys before it succeed on their own, and what they make is what is left. So the configuration
is as before exactly if they change nothing, and always if none of them is set. The profiles that
there are stay as they are in any case. -/
theorem applyOverrides_refused (h : c.applyOverrides lookup = (left, some e)) :
    ∃ before o after value, overrides = before ++ o :: after ∧
      (lookup o.key = some value ∧ o.apply left value = .error e ∧
        (o.key = "STRATA_PROFILE" ∧ e = .unknownProfile value ∨ e = .invalidValue o.key value)) ∧
      c.applyOverrides (lookupOnly (before.map Override.key) lookup) = (left, none) ∧
      (left = c ↔
        c.applyOverrides (lookupOnly (before.map Override.key) lookup) = (c, none)) ∧
      ((∀ p ∈ before, lookup p.key = none) → left = c) ∧
      left.profiles = c.profiles := by
  obtain ⟨before, o, after, value, hsplit, hbefore, hkey, herror⟩ := exists_refused h
  have hmem : o ∈ overrides := by simp [hsplit]
  have hleft : c.applyOverrides (lookupOnly (before.map Override.key) lookup) = (left, none) :=
    (applyOverrides_lookupOnly hsplit).trans hbefore
  refine ⟨before, o, after, value, hsplit, ⟨hkey, herror, eq_of_apply_error hmem herror⟩, hleft,
    ?_, fun hnone => ?_, ?_⟩
  · rw [hleft, Prod.mk.injEq, and_iff_left rfl]
  · rw [applyEach_of_forall_none hnone] at hbefore
    exact (Prod.mk.inj hbefore).1.symm
  · have hprofiles := profiles_applyOverrides c lookup
    rwa [h] at hprofiles

/-- A profile that was defined stays in force although the log level after it is refused. -/
theorem applyOverrides_refused_ci :
    let c : Config := { profiles := .ofList [("ci", { maxRounds := some 500 })] }
    let left : Config := { c with profile := .custom, engine := ⟨false, 500⟩ }
    let lookup (key : String) :=
      [("STRATA_PROFILE", "ci"), ("STRATA_LOG_LEVEL", "loud"), ("STRATA_TRACE", "yes")].lookup key
    c.applyOverrides lookup = (left, some (.invalidValue "STRATA_LOG_LEVEL" "loud")) ∧
      ∃ before o after value, overrides = before ++ o :: after ∧
        (lookup o.key = some value ∧
          o.apply left value = .error (.invalidValue "STRATA_LOG_LEVEL" "loud") ∧
          (o.key = "STRATA_PROFILE" ∧
              .invalidValue "STRATA_LOG_LEVEL" "loud" = ConfigError.unknownProfile value ∨
            .invalidValue "STRATA_LOG_LEVEL" "loud" = ConfigError.invalidValue o.key value)) ∧
        c.applyOverrides (lookupOnly (before.map Override.key) lookup) = (left, none) ∧
        (left = c ↔
          c.applyOverrides (lookupOnly (before.map Override.key) lookup) = (c, none)) ∧
        ((∀ p ∈ before, lookup p.key = none) → left = c) ∧ left.profiles = c.profiles := by
  intro c left lookup
  have h : c.applyOverrides lookup =
      (left, some (.invalidValue "STRATA_LOG_LEVEL" "loud")) := by decide +kernel
  exact ⟨h, applyOverrides_refused h⟩

/-- The limit is refused, and yet the profile is another one afterwards. -/
theorem applyOverrides_half_applied :
    let left : Config := { profile := .strict, engine := ⟨false, 10000⟩ }
    let lookup (key : String) :=
      [("STRATA_PROFILE", "strict"), ("STRATA_MAX_ROUNDS", "lots")].lookup key
    ({} : Config).applyOverrides lookup =
        (left, some (.invalidValue "STRATA_MAX_ROUNDS" "lots")) ∧ left ≠ {} := by
  decide +kernel

end TripleRules.Config
