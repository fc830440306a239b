import TripleRules.Proofs.Dependency.Form
import TripleRules.Proofs.Engine.StableModel

/-!
# More rules and more triples

Rules without negation infer the same whatever negations are judged in, so every set
that they do not lead out of bounds what they infer from a part of it. An evaluation of
fewer rules and fewer triples stays within the output of one of more rules and more
triples, and ends if the larger one does (`evaluate_monotone`).
-/

namespace TripleRules

open Dependency (signedPatternsOfBody)

variable {functions : FunctionRegistry} {s s' : RuleSet} {J J' start start' M : Set Triple}

def Rule.IsPositive (r : Rule) : Prop := ∀ body, .negation body ∉ r.body

theorem Rule.IsPositive.not_mem_negative {r : Rule} (h : r.IsPositive) (p : Triple) :
    (.negative, p) ∉ signedPatternsOfBody .positive r.body := by
  simp only [IsPositive] at h
  generalize r.body = body at h
  intro hp
  induction body with
  | nil => cases hp
  | cons e rest ih =>
    rcases List.mem_append.mp hp with hp | hp
    · cases e with
      | pattern t => simp [Dependency.signedPatterns] at hp
      | condition e => cases hp
      | assignment v e => cases hp
      | negation body => exact h body List.mem_cons_self
    · exact ih (fun body hbody => h body (List.mem_cons_of_mem _ hbody)) hp

namespace RuleSet

theorem closure_of_positive (h : ∀ r ∈ s.rules, r.IsPositive) (J J' : Set Triple) :
    s.closure functions J start = s.closure functions J' start :=
  closure_congr fun r hr p hp => absurd hp ((h r hr).not_mem_negative p)

theorem isStable_closure (h : ∀ r ∈ s.rules, r.IsPositive) :
    s.IsStable functions start (s.closure functions J start) :=
  closure_of_positive h _ _

/-- The model of more rules and more triples bounds what fewer rules infer from fewer. -/
theorem IsStable.closure_subset (hM : s'.IsStable functions start' M)
    (hrules : ∀ f ∈ s.rules.map Rule.form, f ∈ s'.rules.map Rule.form) (hstart : start ⊆ start') :
    s.closure functions M start ⊆ M := by
  refine RuleSet.closure_subset (hstart.trans hM.start_subset) fun r hr u hinfers => ?_
  obtain ⟨r', hr', hform⟩ := List.mem_map.mp (hrules r.form (List.mem_map_of_mem hr))
  refine hM.mem_of_infers hr' ?_
  rwa [Rule.Infers, Rule.head_of_form hform, Rule.body_of_form hform]

end RuleSet

namespace Engine

variable {rules rules' : RuleSet} {prepared prepared' : Engine} {base base' : Graph} {fuel : Nat}
  {outcome : Except Failure Evaluation}

/-- Of two rule sets without negation let the second have the rules of the first, and let
it be evaluated on all triples that the first is. Then, if its evaluation ends, so does that of
the first, with no triple more. Functions that do not keep terms concrete may end it with an
error, which is left out here. -/
theorem evaluate_monotone (hprepare : prepare rules = .ok prepared)
    (hprepare' : prepare rules' = .ok prepared') (hpositive : ∀ r ∈ rules'.rules, r.IsPositive)
    (hrules : ∀ f ∈ rules.rules.map Rule.form, f ∈ rules'.rules.map Rule.form)
    (htriples : ∀ t, t ∈ base.toList ∨ t ∈ rules.data → t ∈ base'.toList ∨ t ∈ rules'.data)
    (settings settings' : EngineSettings) (hmax : settings.maxRounds = 0)
    (hmax' : settings'.maxRounds = 0)
    (h : (prepared'.configure settings' functions).evaluate fuel base' = some outcome)
    (hok : functions.KeepsConcrete ∨ outcome.isOk = true) :
    ∃ n found found', outcome = .ok found' ∧
      (∀ fuel, n ≤ fuel →
        (prepared.configure settings functions).evaluate fuel base = some (.ok found)) ∧
      ∀ t ∈ found.output.toList, t ∈ found'.output.toList := by
  obtain ⟨found', rfl⟩ : ∃ found', outcome = .ok found' := by
    rcases hok with hf | hok
    · exact ok_of_evaluate hprepare' hmax' hf h
    · exact Except.isOk_iff.mp hok
  have hM := isStable_of_evaluate hprepare' h
  have hpositive' : ∀ r ∈ rules.rules, r.IsPositive := by
    intro r hr
    obtain ⟨r', hr', hform⟩ := List.mem_map.mp (hrules r.form (List.mem_map_of_mem hr))
    rw [Rule.IsPositive, ← Rule.body_of_form hform]
    exact hpositive r' hr'
  have hstart : base.facts ∪ {t | t ∈ rules.data} ⊆ base'.facts ∪ {t | t ∈ rules'.data} :=
    fun t ht => htriples t ht
  have hsub := hM.closure_subset hrules hstart
  obtain ⟨n, found, hevaluate, hout⟩ := evaluate_of_isStable hprepare hmax
    (RuleSet.isStable_closure hpositive') hsub
  exact ⟨n, found, found', rfl, hevaluate, fun t ht => hsub (hout.subset ht)⟩

def ancestorsPart : RuleSet := ⟨ancestors.rules.take 2, ancestors.data.take 1, by decide⟩

theorem evaluate_monotone_ancestors : ∃ part whole n found found',
    prepare ancestorsPart = .ok part ∧ prepare ancestors = .ok whole ∧
    (whole.configure {} .standard).evaluate 4 (.ofStore .empty) = some (.ok found') ∧
    (∀ fuel, n ≤ fuel →
      (part.configure {} .standard).evaluate fuel (.ofStore .empty) = some (.ok found)) ∧
    ∀ t ∈ found.output.toList, t ∈ found'.output.toList := by
  obtain ⟨part, hpart⟩ : ∃ part, prepare ancestorsPart = .ok part :=
    Except.isOk_iff.mp (by decide +kernel)
  obtain ⟨whole, found', hwhole, hfound'⟩ : ∃ whole found', prepare ancestors = .ok whole ∧
      (whole.configure {} .standard).evaluate 4 (.ofStore .empty) = some (.ok found') :=
    exists_of_evaluates (by decide +kernel)
  have hpositive : ∀ r ∈ ancestors.rules, r.IsPositive := by
    simp [ancestors, Rule.IsPositive]
  have hrules : ∀ f ∈ ancestorsPart.rules.map Rule.form, f ∈ ancestors.rules.map Rule.form :=
    List.map_subset _ (List.take_subset 2 _)
  obtain ⟨n, found, _, hsame, hevaluate, hsub⟩ := evaluate_monotone hpart hwhole hpositive hrules
    (fun t ht => ht.imp_right fun hd => List.take_subset 1 _ hd) {} {} rfl rfl hfound'
    (.inl FunctionRegistry.standard_keepsConcrete)
  obtain rfl := Except.ok.inj hsame
  exact ⟨part, whole, n, found, found', hpart, hwhole, hfound', hevaluate, hsub⟩

end Engine

end TripleRules
