import TripleRules.Engine.Basic
import TripleRules.Proofs.Dependency.Form
import TripleRules.Proofs.Dependency.Recursion
import TripleRules.Proofs.Dependency.Strata
import TripleRules.Proofs.Outcome
import TripleRules.Proofs.Scope

/-!
# What a prepared engine knows

An engine is prepared exactly if its rules are well-formed and do not recurse
through negation: the two passes over the dependencies agree, and the bound on
the sweeps that find the strata is never the reason of a rejection.
-/

namespace TripleRules

variable {s : RuleSet} {e : Engine}

-- ---------------------------------------------------------------------------
-- Preparation
-- ---------------------------------------------------------------------------

structure Engine.Prepared (s : RuleSet) (e : Engine) : Prop where
  rules : e.rules = s
  functions : e.functions = .standard
  wellFormed : Scope.checkRuleSet s = .ok ()
  recursive : Recursion.check (.ofRules s) s = .ok e.recursive
  strata : Stratification.ofRules s (.ofRules s) = .ok e.strata

theorem Engine.prepared_of_prepare (h : Engine.prepare s = .ok e) : Prepared s e := by
  simp only [prepare, Except.bind_ok, Except.mapError_ok, Except.pure_ok] at h
  obtain ⟨_, hwf, recursive, hrec, strata, hstrata, rfl⟩ := h
  exact ⟨rfl, rfl, hwf, hrec, hstrata⟩

theorem Engine.dependencies_of_prepare (h : Engine.prepare s = .ok e) :
    e.dependencies = .ofRules s := by
  simp only [prepare, Except.bind_ok, Except.mapError_ok, Except.pure_ok] at h
  obtain ⟨_, -, _, -, _, -, rfl⟩ := h
  rfl

theorem Engine.code_defect (d : Defect) : (Rejection.defect d).diagnostic.code = .notWellFormed := by
  cases d with
  | scope r e => cases e <;> rfl
  | openData t => rfl

/-- A rule set is refused for a defect if it has one, otherwise for a cycle through a
negative edge if there is one, and for nothing else. -/
theorem Engine.prepare_cases (s : RuleSet) :
    (∃ d, Scope.checkRuleSet s = .error d ∧ prepare s = .error (.defect d)) ∨
    (Scope.checkRuleSet s = .ok () ∧ (DependencyGraph.ofRules s).HasNegativeCycle ∧
      ∃ c, prepare s = .error (.illegalCycle c)) ∨
    (Scope.checkRuleSet s = .ok () ∧ ¬ (DependencyGraph.ofRules s).HasNegativeCycle ∧
      ∃ e, prepare s = .ok e) := by
  cases hwf : Scope.checkRuleSet s with
  | error d => exact .inl ⟨d, rfl, by rw [prepare, hwf]; rfl⟩
  | ok _ =>
    cases hcheck : Recursion.check (.ofRules s) s with
    | error c =>
      refine .inr (.inl ⟨rfl, ?_, c, by rw [prepare, hwf]; simp only [hcheck]; rfl⟩)
      by_contra hlegal
      obtain ⟨ids, hids⟩ := Recursion.check_isOk_iff.mpr hlegal
      simp [hcheck] at hids
    | ok recursive =>
      have hlegal := Recursion.check_isOk_iff.mp ⟨recursive, hcheck⟩
      obtain ⟨t, ht⟩ := Stratification.ofRules_ok_iff.mpr
        ((Stratification.settle_isSome_iff _).mpr hlegal)
      exact .inr (.inr ⟨rfl, hlegal, _, by rw [prepare, hwf]; simp only [hcheck, ht]; rfl⟩)

theorem Engine.prepare_alike {s' : RuleSet}
    (hwf : Scope.checkRuleSet s = .ok () ↔ Scope.checkRuleSet s' = .ok ())
    (hcycle : (DependencyGraph.ofRules s).HasNegativeCycle ↔
      (DependencyGraph.ofRules s').HasNegativeCycle) :
    (∃ x x', prepare s = .error x ∧ prepare s' = .error x' ∧
      x.diagnostic.code = x'.diagnostic.code) ∨
    ∃ e e', prepare s = .ok e ∧ prepare s' = .ok e' := by
  rcases prepare_cases s with ⟨d, hd, hx⟩ | ⟨hok, hnegative, c, hx⟩ | ⟨hok, hlegal, e, he⟩
  · rcases prepare_cases s' with ⟨d', -, hx'⟩ | ⟨hok', -⟩ | ⟨hok', -⟩
    · exact .inl ⟨_, _, hx, hx', by rw [code_defect, code_defect]⟩
    · simp [hwf.mpr hok'] at hd
    · simp [hwf.mpr hok'] at hd
  · rcases prepare_cases s' with ⟨d', hd', -⟩ | ⟨-, -, c', hx'⟩ | ⟨-, hlegal', -⟩
    · simp [hwf.mp hok] at hd'
    · exact .inl ⟨_, _, hx, hx', rfl⟩
    · exact absurd (hcycle.mp hnegative) hlegal'
  · rcases prepare_cases s' with ⟨d', hd', -⟩ | ⟨-, hnegative', -⟩ | ⟨-, -, e', he'⟩
    · simp [hwf.mp hok] at hd'
    · exact absurd (hcycle.mpr hnegative') hlegal
    · exact .inr ⟨e, e', he, he'⟩

section
variable {s' : RuleSet} (hforms : ∀ r' ∈ s'.rules, ∃ r ∈ s.rules, r'.form = r.form)
  (hdata : ∀ t ∈ s'.data, t.isConcrete = true)
include hforms hdata

theorem Engine.checkRuleSet_of_forms (hwf : Scope.checkRuleSet s = .ok ()) :
    Scope.checkRuleSet s' = .ok () := by
  refine Scope.checkRuleSet_ok.mpr ⟨fun r' hr' => ?_, hdata⟩
  obtain ⟨r, hr, hform⟩ := hforms r' hr'
  rw [Scope.checkRule_congr (Rule.head_of_form hform) (Rule.body_of_form hform)]
  exact (Scope.checkRuleSet_ok.mp hwf).1 r hr

theorem Engine.prepare_of_forms (hprepare : prepare s = .ok e) : ∃ e', prepare s' = .ok e' := by
  have hprepared := prepared_of_prepare hprepare
  have hwf := checkRuleSet_of_forms hforms hdata hprepared.wellFormed
  rcases prepare_cases s' with ⟨d, hd, -⟩ | ⟨-, hcycle, -⟩ | ⟨-, -, hok⟩
  · simp [hwf] at hd
  · exact absurd (hcycle.of_forms hforms) (Recursion.check_isOk_iff.mp ⟨_, hprepared.recursive⟩)
  · exact hok

end

/-- Both passes accept exactly the rule sets without a cycle through a negative
edge, so that only the other checks ever reject one. -/
theorem Engine.prepare_bound_suffices (s : RuleSet) :
    ((Levels.settle (DependencyGraph.ofRules s).edges (s.size + 1)
        (Stratification.initial s (.ofRules s))).isSome = true ↔
      ¬ (DependencyGraph.ofRules s).HasNegativeCycle) ∧
    ((∃ t, Stratification.ofRules s (.ofRules s) = .ok t) ↔
      ∃ ids, Recursion.check (.ofRules s) s = .ok ids) ∧
    ∀ r, prepare s = .error r →
      r.diagnostic.code = .notWellFormed ∨ r.diagnostic.code = .illegalRecursion := by
  have hsettle := Stratification.settle_isSome_iff (s := s) (Stratification.initial s (.ofRules s))
  refine ⟨hsettle, ?_, fun r h => ?_⟩
  · rw [Stratification.ofRules_ok_iff, hsettle, Recursion.check_isOk_iff]
  · simp only [prepare, Except.bind_error, Except.mapError_ok, Except.mapError_error] at h
    rcases h with ⟨d, -, rfl⟩ | ⟨_, -, ⟨c, -, rfl⟩ | ⟨ids, hids, ⟨u, hu, -⟩ | ⟨t, -, h⟩⟩⟩
    · left
      cases d with
      | scope rule e => cases e <;> rfl
      | openData t => rfl
    · exact .inr rfl
    · have hok := Stratification.ofRules_ok_iff.mpr
        (hsettle.mpr (Recursion.check_isOk_iff.mp ⟨ids, hids⟩))
      simp [hu] at hok
    · cases h

end TripleRules
