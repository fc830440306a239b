import Mathlib.Order.Bounds.Basic
import TripleRules.Proofs.Dependency.Overlap
import TripleRules.Proofs.Dependency.Strata
import TripleRules.Proofs.Engine.Round

/-!
# One stratum

What the rules of a stratum produce matches no negated pattern of that stratum,
and no pattern at all of a lower one. So the rounds of a stratum may judge
negations in the graph as it grows: they find the least set that contains the
graph they started from and is closed under the rules of the stratum, negations
judged in that first graph (`isLeast_of_advances`).
-/

namespace TripleRules

variable {functions : FunctionRegistry} {s : RuleSet} {t : Stratification} {i j k : Nat}
  {level : List RuleId} {r : Rule} {S T U : Set Triple} {u : Triple}

/-- Triples for the patterns outside negations, and triples for those inside. -/
def Body.reading (outside inside : Set Triple) : Sign → Set Triple
  | .positive => outside
  | .negative => inside

theorem Body.Solves.of_reading {body : List BodyElement} {b c : Binding}
    (h : ∀ p, (.positive, p) ∈ Dependency.signedPatternsOfBody .positive body →
      ∀ u, p.Matches u → u ∈ S → u ∈ T)
    (hsolves : Solves functions (reading S U) .positive body b c) :
    Solves functions (reading T U) .positive body b c := by
  refine Solves.imp body ⟨?_, ?_⟩ hsolves
  · rintro ⟨sign, p⟩ hp u hmatch hu
    cases sign with
    | positive => exact h p hp u hmatch hu
    | negative => exact hu
  · rintro ⟨sign, p⟩ _ hsign u _ hu
    obtain rfl : sign = .negative := hsign
    exact hu

/-- Whatever the rules of a stratum derive from some triples is among these, where
negations are judged in other triples. -/
def RuleSet.ClosedUnder (functions : FunctionRegistry) (s : RuleSet) (level : List RuleId)
    (judged S : Set Triple) : Prop :=
  ∀ r ∈ s.rules, r.id ∈ level → ∀ b : Binding,
    Body.Solves functions (Body.reading S judged) .positive r.body .empty b →
      ∀ template ∈ r.head, b.substitute template ∈ S

-- ---------------------------------------------------------------------------
-- What later strata add
-- ---------------------------------------------------------------------------

/-- Triples added to others were produced by rules of that stratum or of higher ones. -/
structure Stratification.Grows (s : RuleSet) (t : Stratification) (i : Nat) (T S : Set Triple) :
    Prop where
  subset : T ⊆ S
  new : ∀ u ∈ S, u ∉ T → ∃ q ∈ s.rules, (∃ j, i ≤ j ∧ t.stratum? q.id = some j) ∧ q.Produces u

namespace Stratification.Grows

theorem refl (T : Set Triple) : Grows s t i T T := ⟨subset_rfl, fun _ hu hnot => absurd hu hnot⟩

theorem trans (h : Grows s t i T S) (h' : Grows s t j S U) (hij : i ≤ j) : Grows s t i T U := by
  refine ⟨h.subset.trans h'.subset, fun u hu hnot => ?_⟩
  by_cases hS : u ∈ S
  · exact h.new u hS hnot
  · obtain ⟨q, hq, ⟨k, hk, hstratum⟩, hproduces⟩ := h'.new u hu hS
    exact ⟨q, hq, ⟨k, Nat.le_trans hij hk, hstratum⟩, hproduces⟩

/-- A pattern matches nothing new from the stratum of its rule on, if it stands in a
negation, and from the next stratum on in any case. -/
theorem mem_iff_of_matches (hofRules : ofRules s (.ofRules s) = .ok t) (h : Grows s t j T S)
    (hr : r ∈ s.rules) (hstratum : t.stratum? r.id = some i) {q : Sign × Triple}
    (hq : q ∈ Dependency.signedPatternsOfBody .positive r.body) (hmatch : q.2.Matches u)
    (hij : i < j + q.1.weight) : u ∈ S ↔ u ∈ T := by
  refine ⟨fun hu => ?_, fun hu => h.subset hu⟩
  by_contra hnot
  obtain ⟨p, hp, ⟨k, hk, hprovider⟩, hproduces⟩ := h.new u hu hnot
  have hedge := DependencyGraph.mem_edges_of_matches hr hp hq hmatch hproduces
  have hle := stratum_le_of_mem_edges hofRules hedge hstratum hprovider
  simp only at hle
  omega

theorem solves_reading_iff (hofRules : ofRules s (.ofRules s) = .ok t) (h : Grows s t i T S)
    (hr : r ∈ s.rules) (hstratum : t.stratum? r.id = some i) {b c : Binding} :
    Body.Solves functions (fun _ => S) .positive r.body b c ↔
      Body.Solves functions (Body.reading S T) .positive r.body b c := by
  refine Body.solves_congr fun q hq u hmatch => ?_
  obtain ⟨sign, p⟩ := q
  cases sign with
  | positive => exact Iff.rfl
  | negative => exact h.mem_iff_of_matches hofRules hr hstratum hq hmatch (Nat.lt_succ_self i)

theorem solves_iff (hofRules : ofRules s (.ofRules s) = .ok t) (h : Grows s t (i + 1) T S)
    (hr : r ∈ s.rules) (hstratum : t.stratum? r.id = some i) {b c : Binding} :
    Body.Solves functions (fun _ => S) .positive r.body b c ↔
      Body.Solves functions (fun _ => T) .positive r.body b c :=
  Body.solves_congr fun _ hq _ hmatch =>
    h.mem_iff_of_matches hofRules hr hstratum hq hmatch (by omega)

end Stratification.Grows

-- ---------------------------------------------------------------------------
-- The rounds of a stratum
-- ---------------------------------------------------------------------------

theorem Rule.derives_iff {g : Graph} : r.Derives functions g u ↔
    ∃ b, Body.Solves functions (fun _ => g.facts) .positive r.body .empty b ∧
      ∃ template ∈ r.head, b.substitute template = u := by
  simp only [Derives, solutions, Body.mem_solve]

namespace Saturation

variable {o before after : Overlay} {n : Nat}

theorem base_of_advances (h : Relation.ReflTransGen (Advances functions s level) before after) :
    after.base = before.base := by
  induction h with
  | refl => rfl
  | tail _ hstep ih =>
    obtain ⟨_, _, _, _, hextend⟩ := hstep
    exact (Overlay.mem_extend hextend).1.trans ih

theorem grows_of_advances (hlevel : ∀ id ∈ level, t.stratum? id = some i)
    (h : Relation.ReflTransGen (Advances functions s level) before after) :
    Stratification.Grows s t i before.toGraph.facts after.toGraph.facts := by
  induction h with
  | refl => exact .refl _
  | tail _ hstep ih =>
    refine ih.trans ⟨fun u hu => (hstep.mem u).mpr (.inl hu), fun u hu hnot => ?_⟩ (Nat.le_refl i)
    obtain ⟨r, hr, hid, hderives⟩ := ((hstep.mem u).mp hu).resolve_left hnot
    obtain ⟨b, -, hproduces⟩ := Rule.derives_iff.mp hderives
    exact ⟨r, hr, ⟨i, Nat.le_refl i, hlevel r.id hid⟩, b, hproduces⟩

theorem mem_of_derive_nil (h : derive functions s level o.toGraph = .ok ([], n))
    (hr : r ∈ s.rules) (hid : r.id ∈ level) (hderives : r.Derives functions o.toGraph u) :
    u ∈ o.toGraph.facts := by
  by_contra hnot
  have hmem := (derive_ok h u).mpr ⟨hnot, r, hr, hid, hderives⟩
  simp at hmem

/-- A stratum that settles has the least set that contains the graph before it and is
closed under its rules. -/
theorem isLeast_of_advances (hofRules : Stratification.ofRules s (.ofRules s) = .ok t)
    (hlevel : t.levels[i]? = some level)
    (h : Relation.ReflTransGen (Advances functions s level) before after)
    (hlast : derive functions s level after.toGraph = .ok ([], n)) :
    IsLeast {S | before.toGraph.facts ⊆ S ∧ s.ClosedUnder functions level before.toGraph.facts S}
      after.toGraph.facts := by
  have hstratum : ∀ id ∈ level, t.stratum? id = some i := fun id hid =>
    ((Stratification.mem_level hofRules hlevel).mp hid).2
  refine ⟨⟨(grows_of_advances hstratum h).subset, ?_⟩, ?_⟩
  · intro r hr hid b hsolves template htemplate
    have hgrows := grows_of_advances hstratum h
    have hsolves := (hgrows.solves_reading_iff hofRules hr (hstratum r.id hid)).mpr hsolves
    exact mem_of_derive_nil hlast hr hid (Rule.derives_iff.mpr ⟨b, hsolves, template, htemplate, rfl⟩)
  · rintro S ⟨hsub, hclosed⟩
    clear hlast
    -- every round stays within a closed set
    induction h with
    | refl => exact hsub
    | @tail mid next hsteps hstep ih =>
      intro u hu
      rcases (hstep.mem u).mp hu with hu | ⟨r, hr, hid, hderives⟩
      · exact ih hu
      · obtain ⟨b, hsolves, template, htemplate, rfl⟩ := Rule.derives_iff.mp hderives
        have hgrows := grows_of_advances hstratum hsteps
        have hsolves := (hgrows.solves_reading_iff hofRules hr (hstratum r.id hid)).mp hsolves
        exact hclosed r hr hid b (hsolves.of_reading fun _ _ _ _ hv => ih hv) template htemplate

end Saturation

end TripleRules
