import Mathlib.Order.Bounds.Defs
import TripleRules.Proofs.Extension
import TripleRules.Proofs.Matching

/-!
# Unification

A binding unifies a pattern with a concrete triple if it makes the one the other. If any
extension of a binding does, there is a least one, and matching yields it. A look-up passes
over triples without a unifier only, and instantiating the pattern for it does not change the
unifiers of the others. So matching in a graph is unification with each of its triples
(`Body.matchPattern_unifies`).
-/

namespace TripleRules

namespace Binding

variable {b c : Binding} {pattern candidate : Triple}

def unifiers (b : Binding) (pattern candidate : Triple) : Set Binding :=
  {d | b ≤ d ∧ d.substitute pattern = candidate}

theorem mem_unifiers_of_matchTriple (h : b.matchTriple pattern candidate = some c) :
    c ∈ b.unifiers pattern candidate :=
  ⟨le_matchTriple h, substitute_of_matchTriple h⟩

theorem isSome_matchTriple_iff (hc : candidate.isConcrete = true) :
    (b.matchTriple pattern candidate).isSome = true ↔
      (b.unifiers pattern candidate).Nonempty := by
  constructor
  · intro h
    obtain ⟨c, hmatch⟩ := Option.isSome_iff_exists.mp h
    exact ⟨c, mem_unifiers_of_matchTriple hmatch⟩
  · rintro ⟨d, hle, heq⟩
    obtain ⟨c, hmatch, -⟩ := exists_matchTriple hle hc heq
    exact Option.isSome_iff_exists.mpr ⟨c, hmatch⟩

theorem matchTriple_eq_some_iff_isLeast (hc : candidate.isConcrete = true) :
    b.matchTriple pattern candidate = some c ↔ IsLeast (b.unifiers pattern candidate) c := by
  constructor
  · refine fun h => ⟨mem_unifiers_of_matchTriple h, fun d ⟨hle, heq⟩ => ?_⟩
    obtain ⟨c', hmatch, hcd⟩ := exists_matchTriple hle hc heq
    obtain rfl := Option.some.inj (h.symm.trans hmatch)
    exact hcd
  · rintro ⟨⟨hle, heq⟩, hleast⟩
    obtain ⟨d, hmatch, hdc⟩ := exists_matchTriple hle hc heq
    rw [hmatch, le_antisymm hdc (hleast (mem_unifiers_of_matchTriple hmatch))]

end Binding

-- ---------------------------------------------------------------------------
-- Graphs
-- ---------------------------------------------------------------------------

variable {b : Binding}

/-- The matches of a pattern are its least unifiers with the triples of the graph, in their
order. A least unifier binds the variables of the pattern besides those that are bound. -/
theorem Body.matchPattern_unifies (hb : b.Forall fun t => t.isConcrete = true) (g : Graph)
    (pattern : Triple) :
    matchPattern g b pattern = g.toList.filterMap (b.matchTriple pattern) ∧
    ∀ candidate : Triple, candidate.isConcrete = true →
      ((b.matchTriple pattern candidate).isSome = true ↔
        (b.unifiers pattern candidate).Nonempty) ∧
      ∀ c, (b.matchTriple pattern candidate = some c ↔
          IsLeast (b.unifiers pattern candidate) c) ∧
        (b.matchTriple pattern candidate = some c ↔
          b ≤ c ∧ (∀ v, v ∈ c.domain ↔ v ∈ b.domain ∨ v ∈ pattern.vars) ∧
            c.substitute pattern = candidate) := by
  refine ⟨?_, fun candidate hc => ⟨Binding.isSome_matchTriple_iff hc, fun c =>
    ⟨Binding.matchTriple_eq_some_iff_isLeast hc, Binding.matchTriple_eq_some_iff hc⟩⟩⟩
  rw [matchPattern_eq]
  exact List.filterMap_congr fun t _ => Binding.matchTriple_substitute hb

/-- Who knows themselves? -/
theorem Body.matchPattern_unifies_selfKnowledge :
    let ann := Term.ofIri "ann"
    let b := Binding.empty.insert ⟨"p"⟩ (.ofIri "knows")
    let pattern : Triple := ⟨.variable ⟨"x"⟩, .variable ⟨"p"⟩, .variable ⟨"x"⟩⟩
    let g := Graph.ofStore (Store.empty.addAll [⟨ann, .ofIri "knows", .ofIri "bob"⟩,
      ⟨ann, .ofIri "knows", ann⟩, ⟨.ofIri "bob", .ofIri "likes", .ofIri "bob"⟩]).1
    (b.Forall fun t => t.isConcrete = true) ∧
      matchPattern g b pattern = [b.insert ⟨"x"⟩ ann] ∧
      IsLeast (b.unifiers pattern ⟨ann, .ofIri "knows", ann⟩) (b.insert ⟨"x"⟩ ann) := by
  intro ann b pattern g
  have hb : b.Forall fun t => t.isConcrete = true := by
    intro v t hv
    rw [Binding.get?_insert] at hv
    split at hv
    · cases hv
      rfl
    · cases hv
  obtain ⟨hmatches, hunifies⟩ := matchPattern_unifies hb g pattern
  refine ⟨hb, hmatches.trans (by decide +kernel), ?_⟩
  exact ((hunifies ⟨ann, .ofIri "knows", ann⟩ (by decide)).2 _).1.mp (by decide +kernel)

end TripleRules
