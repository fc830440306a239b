import TripleRules.Proofs.Dependency.Reach
import TripleRules.Proofs.Matching

/-!
# No dependency is missing

Whenever a pattern of a rule matches a triple that a template of another rule can
produce, the graph has the edge between them with the sign of the pattern.
-/

namespace TripleRules

variable {s : RuleSet} {r q : Rule} {p template t : Triple} {sign : Sign}

namespace Dependency

theorem compatible_of_slots {a b u : Term} (ha : ∀ v ∈ a.slot, u = v) (hb : ∀ v ∈ b.slot, u = v) :
    compatible a b = true := by
  simp only [compatible, Bool.or_eq_true, decide_eq_true_eq]
  cases hva : a.isVariable with
  | true => simp
  | false =>
    cases hvb : b.isVariable with
    | true => simp
    | false =>
      have hua : u = a := ha a (by simp [Term.slot, hva])
      have hub : u = b := hb b (by simp [Term.slot, hvb])
      exact .inr (hua.symm.trans hub)

theorem overlaps_of_admits (hp : p.slots.admits t = true) (ht : template.slots.admits t = true) :
    overlaps p template = true := by
  obtain ⟨hps, hpp, hpo⟩ := Store.admits_iff.mp hp
  obtain ⟨hts, htp, hto⟩ := Store.admits_iff.mp ht
  simp [overlaps, compatible_of_slots hps hts, compatible_of_slots hpp htp,
    compatible_of_slots hpo hto]

end Dependency

def Rule.Produces (r : Rule) (t : Triple) : Prop :=
  ∃ b : Binding, ∃ template ∈ r.head, b.substitute template = t

theorem DependencyGraph.mem_edges_of_matches (hr : r ∈ s.rules) (hq : q ∈ s.rules)
    (hp : (sign, p) ∈ Dependency.signedPatternsOfBody .positive r.body) (hmatch : p.Matches t)
    (hproduces : q.Produces t) : ⟨r.id, sign, q.id⟩ ∈ (ofRules s).edges := by
  obtain ⟨b, template, htemplate, rfl⟩ := hproduces
  exact (mem_edges_iff hr hq).mpr ⟨p, hp, template, htemplate,
    Dependency.overlaps_of_admits hmatch.admits (Triple.admits_substitute b template)⟩

end TripleRules
