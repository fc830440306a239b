import TripleRules.Engine.Body
import TripleRules.Proofs.Binding
import TripleRules.Proofs.Graph.Lookup

/-!
# Matching

A pattern matches only triples that have its own terms in their places, and a
template is instantiated only to such triples. So the look-up for the concrete
places of a pattern leaves out nothing that matches.
-/

namespace TripleRules

namespace Term

variable {p t u : Term} {b c : Binding}

theorem mem_slot (h : u ∈ p.slot) : p = u ∧ ∀ v, p ≠ .variable v := by
  rcases p with i | l | label | v
  · exact ⟨Option.some.inj h, fun v => Term.noConfusion⟩
  · exact ⟨Option.some.inj h, fun v => Term.noConfusion⟩
  · exact ⟨Option.some.inj h, fun v => Term.noConfusion⟩
  · cases h

theorem resolve_of_mem_slot (h : u ∈ p.slot) : b.resolve p = p := by
  rcases p with i | l | label | v
  · rfl
  · rfl
  · rfl
  · cases h

theorem mem_slot_resolve (h : u ∈ p.slot) : u ∈ (b.resolve p).slot := by
  rwa [resolve_of_mem_slot h]

theorem eq_of_matchTerm (h : b.matchTerm p t = some c) (hu : u ∈ p.slot) : t = u := by
  obtain ⟨rfl, hv⟩ := mem_slot hu
  simp only [Binding.matchTerm, Option.ite_none_right_eq_some] at h
  exact h.1.symm

end Term

namespace Triple

variable {p t : Triple} {b c : Binding}

theorem admits_of_matchTriple (h : b.matchTriple p t = some c) : p.slots.admits t = true := by
  simp only [Binding.matchTriple, Option.bind_eq_bind, Option.bind_eq_some_iff] at h
  obtain ⟨_, hs, _, hp, ho⟩ := h
  exact Store.admits_iff.mpr ⟨fun _ hu => Term.eq_of_matchTerm hs hu,
    fun _ hu => Term.eq_of_matchTerm hp hu, fun _ hu => Term.eq_of_matchTerm ho hu⟩

theorem admits_of_substitute (h : (b.substitute p).slots.admits t = true) :
    p.slots.admits t = true := by
  obtain ⟨hs, hp, ho⟩ := Store.admits_iff.mp h
  exact Store.admits_iff.mpr ⟨fun u hu => hs u (Term.mem_slot_resolve hu),
    fun u hu => hp u (Term.mem_slot_resolve hu), fun u hu => ho u (Term.mem_slot_resolve hu)⟩

def Matches (p t : Triple) : Prop := ∃ b c, Binding.matchTriple b (b.substitute p) t = some c

theorem Matches.admits (h : p.Matches t) : p.slots.admits t = true :=
  have ⟨_, _, hmatch⟩ := h
  admits_of_substitute (admits_of_matchTriple hmatch)

theorem Matches.isSome (h : p.Matches t) : (Binding.empty.matchTriple p t).isSome = true := by
  obtain ⟨b, c, hmatch⟩ := h
  have hf : ∀ u : Term, u.isConcrete = true → c.resolve (b.resolve u) = u := fun u hu => by
    rw [Binding.resolve_of_isConcrete hu, Binding.resolve_of_isConcrete hu]
  obtain rfl : t = p.map fun u => c.resolve (b.resolve u) :=
    (Binding.substitute_of_matchTriple hmatch).symm
  obtain ⟨d, hs, hd⟩ := Binding.matchTerm_of_resolves hf (b := .empty) nofun p.subject
  obtain ⟨d', hp, hd'⟩ := Binding.matchTerm_of_resolves hf hd p.predicate
  obtain ⟨d'', ho, -⟩ := Binding.matchTerm_of_resolves hf hd' p.object
  simp [Binding.matchTriple, map, hs, hp, ho]

theorem admits_substitute (b : Binding) (p : Triple) : p.slots.admits (b.substitute p) = true :=
  Store.admits_iff.mpr ⟨fun _ hu => (Term.resolve_of_mem_slot hu).trans (Term.mem_slot hu).1,
    fun _ hu => (Term.resolve_of_mem_slot hu).trans (Term.mem_slot hu).1,
    fun _ hu => (Term.resolve_of_mem_slot hu).trans (Term.mem_slot hu).1⟩

end Triple

namespace Body

variable {g : Graph} {b c : Binding} {p : Triple}

/-- The look-up leaves out no triple that matches. -/
theorem matchPattern_eq (g : Graph) (b : Binding) (p : Triple) :
    matchPattern g b p = g.toList.filterMap (b.matchTriple (b.substitute p)) := by
  simp only [matchPattern, Graph.find_eq_filter, List.filterMap_filter]
  refine List.filterMap_congr fun t _ => ?_
  cases h : b.matchTriple (b.substitute p) t with
  | none => simp
  | some c => simp [Triple.admits_of_matchTriple h]

theorem mem_matchPattern :
    c ∈ matchPattern g b p ↔ ∃ t ∈ g.toList, b.matchTriple (b.substitute p) t = some c := by
  rw [matchPattern_eq, List.mem_filterMap]

end Body

end TripleRules
