import TripleRules.Dependency.Basic
import TripleRules.Proofs.Matching

/-!
# What solves a body

`Solves` says which bindings solve a body without listing them, and lets the
patterns outside negations be matched in one set of triples and those inside
negations in another. Where both are the triples of a graph, it is what the
evaluation of the body finds (`mem_solve`). Which bindings solve a body depends
only on triples that its patterns can match, and those outside negations only
ever add to them (`Solves.imp`).
-/

namespace TripleRules

namespace Body

variable {functions : FunctionRegistry} {g : Graph} {b c : Binding} {sign : Sign}

-- ---------------------------------------------------------------------------
-- Solutions
-- ---------------------------------------------------------------------------

theorem holds_iff {e : Expr} : holds functions e b = true ↔ e.condition functions b = .ok true := by
  simp only [holds]
  split
  · next h => simp [h]
  · next h => simp [h]

mutual

/-- An element takes a binding to another, where patterns of either sign are
matched in the triples of that sign. -/
def Extends (functions : FunctionRegistry) (facts : Sign → Set Triple) (sign : Sign) :
    BodyElement → Binding → Binding → Prop
  | .pattern t, b, c => ∃ u ∈ facts sign, b.matchTriple (b.substitute t) u = some c
  | .condition e, b, c => holds functions e b = true ∧ c = b
  | .assignment v e, b, c => assign functions v e b = some c
  | .negation body, b, c => (∀ d, ¬ Solves functions facts .negative body b d) ∧ c = b

def Solves (functions : FunctionRegistry) (facts : Sign → Set Triple) (sign : Sign) :
    List BodyElement → Binding → Binding → Prop
  | [], b, c => c = b
  | e :: rest, b, c =>
    ∃ d, Extends functions facts sign e b d ∧ Solves functions facts sign rest d c

end

mutual

theorem mem_step : ∀ (e : BodyElement) (sign : Sign) (chain : List Binding) (c : Binding),
    c ∈ step functions g e chain ↔
      ∃ b ∈ chain, Extends functions (fun _ => g.facts) sign e b c
  | .pattern t, sign, chain, c => by
    simp [step, Extends, mem_matchPattern, Graph.facts]
  | .condition e, sign, chain, c => by
    simp only [step, Extends, List.mem_filter]
    constructor
    · rintro ⟨hc, h⟩
      exact ⟨c, hc, h, rfl⟩
    · rintro ⟨b, hb, h, rfl⟩
      exact ⟨hb, h⟩
  | .assignment v e, sign, chain, c => by
    simp [step, Extends]
  | .negation body, sign, chain, c => by
    have hempty : ∀ b, (steps functions g body [b]).isEmpty = true ↔
        ∀ d, ¬ Solves functions (fun _ => g.facts) .negative body b d := fun b => by
      simp [List.isEmpty_iff, List.eq_nil_iff_forall_not_mem, mem_steps body .negative]
    simp only [step, Extends, List.mem_filter, hempty]
    constructor
    · rintro ⟨hc, h⟩
      exact ⟨c, hc, h, rfl⟩
    · rintro ⟨b, hb, h, rfl⟩
      exact ⟨hb, h⟩

theorem mem_steps : ∀ (body : List BodyElement) (sign : Sign) (chain : List Binding) (c : Binding),
    c ∈ steps functions g body chain ↔
      ∃ b ∈ chain, Solves functions (fun _ => g.facts) sign body b c
  | [], sign, chain, c => by simp [steps, Solves]
  | e :: rest, sign, chain, c => by
    simp only [steps, Solves, mem_steps rest sign, mem_step e sign]
    constructor
    · rintro ⟨d, ⟨b, hb, hd⟩, h⟩
      exact ⟨b, hb, d, hd, h⟩
    · rintro ⟨b, hb, d, hd, h⟩
      exact ⟨d, ⟨b, hb, hd⟩, h⟩

end

/-- Evaluation finds exactly the bindings that solve a body. -/
theorem mem_solve {body : List BodyElement} :
    c ∈ solve functions g body b ↔
      Solves functions (fun _ => g.facts) .positive body b c := by
  simp [solve, mem_steps body .positive]

-- ---------------------------------------------------------------------------
-- Other triples
-- ---------------------------------------------------------------------------

open Dependency (signedPatterns signedPatternsOfBody)

mutual

theorem sign_of_mem_signedPatterns : ∀ (e : BodyElement) {q : Sign × Triple},
    q ∈ signedPatterns .negative e → q.1 = .negative
  | .pattern t, q, h => by
    obtain rfl := List.mem_singleton.mp h
    rfl
  | .condition _, _, h => by simp [signedPatterns] at h
  | .assignment .., _, h => by simp [signedPatterns] at h
  | .negation body, _, h => sign_of_mem_signedPatternsOfBody body h

theorem sign_of_mem_signedPatternsOfBody : ∀ (body : List BodyElement) {q : Sign × Triple},
    q ∈ signedPatternsOfBody .negative body → q.1 = .negative
  | [], _, h => by simp [signedPatternsOfBody] at h
  | e :: rest, _, h => by
    rcases List.mem_append.mp h with h | h
    · exact sign_of_mem_signedPatterns e h
    · exact sign_of_mem_signedPatternsOfBody rest h

end

/-- What patterns match in one choice of triples, they match in the other; inside
negations the converse holds as well. -/
structure Carries (facts facts' : Sign → Set Triple) (patterns : List (Sign × Triple)) : Prop where
  forth : ∀ q ∈ patterns, ∀ t, q.2.Matches t → t ∈ facts q.1 → t ∈ facts' q.1
  back : ∀ q ∈ patterns, q.1 = .negative → ∀ t, q.2.Matches t → t ∈ facts' q.1 → t ∈ facts q.1

variable {facts facts' : Sign → Set Triple} {patterns more : List (Sign × Triple)}

theorem Carries.subset (h : Carries facts facts' more) (hsub : patterns ⊆ more) :
    Carries facts facts' patterns :=
  ⟨fun q hq => h.forth q (hsub hq), fun q hq => h.back q (hsub hq)⟩

theorem Carries.symm (h : Carries facts facts' patterns) (hneg : ∀ q ∈ patterns, q.1 = .negative) :
    Carries facts' facts patterns :=
  ⟨fun q hq => h.back q hq (hneg q hq), fun q hq _ => h.forth q hq⟩

mutual

theorem Extends.imp : ∀ (e : BodyElement) {sign : Sign} {facts facts' : Sign → Set Triple}
    {b c : Binding}, Carries facts facts' (signedPatterns sign e) →
      Extends functions facts sign e b c → Extends functions facts' sign e b c
  | .pattern t, sign, _, _, _, _, h, ⟨u, hu, hmatch⟩ =>
    ⟨u, h.forth (sign, t) List.mem_cons_self u ⟨_, _, hmatch⟩ hu, hmatch⟩
  | .condition _, _, _, _, _, _, _, hext => hext
  | .assignment .., _, _, _, _, _, _, hext => hext
  | .negation body, _, _, _, _, _, h, ⟨hnone, heq⟩ =>
    -- a solution inside would be carried back
    have hback := h.symm fun _ => sign_of_mem_signedPatternsOfBody body
    ⟨fun d hd => hnone d (Solves.imp body hback hd), heq⟩

/-- What solves a body still does where its patterns match the same triples inside
negations and at least the same outside. -/
theorem Solves.imp : ∀ (body : List BodyElement) {sign : Sign} {facts facts' : Sign → Set Triple}
    {b c : Binding}, Carries facts facts' (signedPatternsOfBody sign body) →
      Solves functions facts sign body b c → Solves functions facts' sign body b c
  | [], _, _, _, _, _, _, hsol => hsol
  | e :: rest, _, _, _, _, _, h, ⟨d, hext, hsol⟩ =>
    ⟨d, Extends.imp e (h.subset (List.subset_append_left _ _)) hext,
      Solves.imp rest (h.subset (List.subset_append_right _ _)) hsol⟩

end

theorem solves_congr {body : List BodyElement} (h : ∀ q ∈ signedPatternsOfBody sign body,
      ∀ t, q.2.Matches t → (t ∈ facts q.1 ↔ t ∈ facts' q.1)) :
    Solves functions facts sign body b c ↔ Solves functions facts' sign body b c :=
  ⟨Solves.imp body ⟨fun q hq t ht => (h q hq t ht).mp, fun q hq _ t ht => (h q hq t ht).mpr⟩,
    Solves.imp body ⟨fun q hq t ht => (h q hq t ht).mpr, fun q hq _ t ht => (h q hq t ht).mp⟩⟩

end Body

end TripleRules
