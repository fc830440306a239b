import Mathlib.Data.Multiset.Filter
import Mathlib.Data.Multiset.MapFold
import TripleRules.Rule.Basic

/-!
# Rearranged rules

Two rules are equivalent exactly if one is the other with its templates and its conjuncts in
another order, inside negations as well (`Rule.equivalent_iff_rearranged`).

The comparison gives every member of one list the first member of the other that is left
for it, and never takes it back. With an equivalence relation this finds a pairing if there
is one (`pairOff_iff_rel`): the classes have the same members left on both sides, whichever
members are taken. That the order inside negations can be ignored is such a relation by
itself, without the comparison that decides it.
-/

namespace TripleRules

-- ---------------------------------------------------------------------------
-- Pairing off
-- ---------------------------------------------------------------------------

section
variable {α β γ : Type} {p : α → Bool} {xs ys rest : List α}

theorem takeFirst?_eq_some (h : takeFirst? p ys = some rest) :
    ∃ y, p y = true ∧ ys.Perm (y :: rest) := by
  induction ys generalizing rest with
  | nil => cases h
  | cons z zs ih =>
    simp only [takeFirst?] at h
    split at h
    · next hz =>
      obtain rfl := Option.some.inj h
      exact ⟨z, hz, .refl _⟩
    · obtain ⟨rest', hrest, rfl⟩ := Option.map_eq_some_iff.mp h
      obtain ⟨y, hy, hperm⟩ := ih hrest
      exact ⟨y, hy, (hperm.cons z).trans (.swap y z rest')⟩

theorem takeFirst?_eq_none : takeFirst? p ys = none ↔ ∀ y ∈ ys, p y = false := by
  induction ys with
  | nil => simp [takeFirst?]
  | cons z zs ih => cases hz : p z <;> simp [takeFirst?, hz, ih]

section
variable {R : α → α → Prop} (hR : Equivalence R)
include hR

theorem rel_iff_map_mk {m n : Multiset α} :
    m.Rel R n ↔ m.map (Quotient.mk ⟨R, hR⟩) = n.map (Quotient.mk ⟨R, hR⟩) := by
  simp only [← Multiset.rel_eq, Multiset.rel_map, Quotient.eq]

theorem rel_equivalence : Equivalence (Multiset.Rel R) where
  refl _ := (rel_iff_map_mk hR).mpr rfl
  symm h := (rel_iff_map_mk hR).mpr ((rel_iff_map_mk hR).mp h).symm
  trans h k := (rel_iff_map_mk hR).mpr (((rel_iff_map_mk hR).mp h).trans ((rel_iff_map_mk hR).mp k))

theorem rel_iff_countP {q : α → α → Bool} (hq : ∀ x y, q x y = true ↔ R x y) :
    Multiset.Rel R (xs : Multiset α) ys ↔ ∀ x, xs.countP (q x) = ys.countP (q x) := by
  classical
  have hcount : ∀ (l : List α) x, ((l : Multiset α).map (Quotient.mk ⟨R, hR⟩)).count
      (Quotient.mk _ x) = l.countP (q x) := fun l x => by
    simp only [Multiset.map_coe, Multiset.coe_count, List.count, List.countP_map]
    refine List.countP_congr fun y _ => ?_
    rw [Function.comp_apply, beq_iff_eq, Quotient.eq, hq]
    exact ⟨hR.symm, hR.symm⟩
  simp only [rel_iff_map_mk hR, Multiset.ext, Quotient.forall, hcount]

/-- Taking the first member that is left is as good as taking any other. -/
theorem pairOff_iff_rel {q : α → α → Bool} (hq : ∀ x ∈ xs, ∀ y, q x y = true ↔ R x y) :
    pairOff q xs ys = true ↔ Multiset.Rel R (xs : Multiset α) ys := by
  induction xs generalizing ys with
  | nil => simp [pairOff]
  | cons x xs ih =>
    obtain ⟨hx, hxs⟩ := List.forall_mem_cons.mp hq
    rw [pairOff]
    cases htake : takeFirst? (q x) ys with
    | none =>
      have hnone := takeFirst?_eq_none.mp htake
      refine iff_of_false Bool.false_ne_true fun hrel => ?_
      obtain ⟨y, hy, hxy⟩ := Multiset.exists_mem_of_rel_of_mem hrel List.mem_cons_self
      exact Bool.false_ne_true ((hnone y hy).symm.trans ((hx y).mpr hxy))
    | some rest =>
      obtain ⟨y, hxy, hperm⟩ := takeFirst?_eq_some htake
      have hclass : Quotient.mk ⟨R, hR⟩ x = Quotient.mk ⟨R, hR⟩ y := Quotient.sound ((hx y).mp hxy)
      rw [ih hxs, Multiset.coe_eq_coe.mpr hperm, rel_iff_map_mk hR, rel_iff_map_mk hR,
        ← Multiset.cons_coe, ← Multiset.cons_coe, Multiset.map_cons, Multiset.map_cons, hclass,
        Multiset.cons_inj_right]

end

theorem rel_comp {R : α → β → Prop} {S : β → γ → Prop} {m : Multiset α} {n : Multiset β}
    {o : Multiset γ} (hmn : Multiset.Rel R m n) (hno : Multiset.Rel S n o) :
    Multiset.Rel (fun x z => ∃ y, R x y ∧ S y z) m o := by
  induction hmn generalizing o with
  | zero =>
    obtain rfl := Multiset.rel_zero_left.mp hno
    exact .zero
  | cons hxy _ ih =>
    obtain ⟨z, o, hyz, hrest, rfl⟩ := Multiset.rel_cons_left.mp hno
    exact .cons ⟨_, hxy, hyz⟩ (ih hrest)

end

-- ---------------------------------------------------------------------------
-- Elements
-- ---------------------------------------------------------------------------

namespace BodyElement

/-- Two elements are the same, or both are negations and the elements of their bodies can be
paired off, each with one that is a rearrangement of it. -/
inductive Rearranged : BodyElement → BodyElement → Prop
  | refl (x : BodyElement) : Rearranged x x
  | negation {xs ys : List BodyElement} :
    Multiset.Rel Rearranged (xs : Multiset BodyElement) ys →
      Rearranged (.negation xs) (.negation ys)

namespace Rearranged

theorem symm : ∀ {x y : BodyElement}, Rearranged x y → Rearranged y x
  | _, _, .refl x => .refl x
  | .negation xs, .negation ys, .negation h => by
    refine .negation (Multiset.rel_flip.mp (h.mono fun x hx y _ hxy => ?_))
    -- smaller than the negation
    have : x ∈ xs := hx
    exact hxy.symm
termination_by x => sizeOf x

theorem trans : ∀ {x y z : BodyElement}, Rearranged x y → Rearranged y z → Rearranged x z
  | _, _, _, .refl _, h => h
  | _, _, _, h, .refl _ => h
  | .negation xs, _, _, .negation h, .negation k => by
    refine .negation ((rel_comp h k).mono fun x hx z _ ⟨y, hxy, hyz⟩ => ?_)
    have : x ∈ xs := hx
    exact hxy.trans hyz
termination_by x => sizeOf x

end Rearranged

theorem rearranged_equivalence : Equivalence Rearranged := ⟨.refl, .symm, .trans⟩

theorem rearranged_negation {xs : List BodyElement} {y : BodyElement} :
    Rearranged (.negation xs) y ↔
      ∃ ys, y = .negation ys ∧ Multiset.Rel Rearranged (xs : Multiset BodyElement) ys := by
  constructor
  · intro h
    cases h with
    | refl => exact ⟨xs, rfl, Multiset.rel_refl_of_refl_on fun x _ => .refl x⟩
    | negation h => exact ⟨_, rfl, h⟩
  · rintro ⟨ys, rfl, h⟩
    exact .negation h

theorem rearranged_negation_iff {xs ys : List BodyElement} :
    Rearranged (.negation xs) (.negation ys) ↔
      Multiset.Rel Rearranged (xs : Multiset BodyElement) ys := by
  simp [rearranged_negation]

theorem rearranged_iff_eq {x y : BodyElement} (hx : ∀ xs, x ≠ .negation xs) :
    Rearranged x y ↔ x = y := by
  constructor
  · intro h
    cases h with
    | refl => rfl
    | negation => exact absurd rfl (hx _)
  · rintro rfl
    exact .refl x

theorem equivalent_iff : ∀ x y : BodyElement, x.equivalent y = true ↔ Rearranged x y
  | .negation xs, .negation ys => by
    rw [equivalent, equivalentBodies_eq, rearranged_negation_iff]
    refine pairOff_iff_rel rearranged_equivalence fun x hx y => ?_
    exact equivalent_iff x y
  | .negation _, .pattern _ | .negation _, .condition _ | .negation _, .assignment .. =>
    iff_of_false (by simp [equivalent]) nofun
  | .pattern _, _ | .condition _, _ | .assignment .., _ => by
    rw [rearranged_iff_eq (by simp)]
    simp [equivalent]
termination_by x => sizeOf x

theorem equivalentBodies_iff {xs ys : List BodyElement} : equivalentBodies xs ys = true ↔
    Multiset.Rel Rearranged (xs : Multiset BodyElement) ys := by
  rw [← rearranged_negation_iff, ← equivalent_iff, equivalent]

end BodyElement

-- ---------------------------------------------------------------------------
-- Rules
-- ---------------------------------------------------------------------------

namespace Rule

theorem equivalentHeads_iff {xs ys : List Triple} : equivalentHeads xs ys = true ↔ xs.Perm ys := by
  rw [equivalentHeads, pairOff_iff_rel eq_equivalence fun _ _ _ => decide_eq_true_iff,
    Multiset.rel_eq, Multiset.coe_eq_coe]

theorem equivalent_iff {r s : Rule} : r.equivalent s = true ↔ r.head.Perm s.head ∧
    Multiset.Rel BodyElement.Rearranged (r.body : Multiset BodyElement) s.body := by
  rw [equivalent, Bool.and_eq_true, equivalentHeads_iff, BodyElement.equivalentBodies_iff]

/-- Equivalent rules have the same templates but for the order, and conjuncts that can be
paired off so that each is the other with its inner bodies rearranged. So equivalence has its
name by right, and rules are equivalent exactly if every template and every class of
conjuncts is as frequent in the one as in the other. -/
theorem equivalent_iff_rearranged :
    (∀ r s : Rule, r.equivalent s = true ↔ r.head.Perm s.head ∧
      Multiset.Rel BodyElement.Rearranged (r.body : Multiset BodyElement) s.body) ∧
    Equivalence (fun r s : Rule => r.equivalent s = true) ∧
    (∀ r s : Rule, r.equivalent s = true ↔ (∀ t, r.head.count t = s.head.count t) ∧
      ∀ x : BodyElement, r.body.countP x.equivalent = s.body.countP x.equivalent) ∧
    ∀ r s : Rule, r.sameForm s = true → r.equivalent s = true := by
  have hbodies := rel_equivalence BodyElement.rearranged_equivalence
  refine ⟨fun r s => equivalent_iff, ⟨fun r => ?_, fun h => ?_, fun h k => ?_⟩, fun r s => ?_,
    fun r s h => ?_⟩
  · exact equivalent_iff.mpr ⟨.refl _, hbodies.refl _⟩
  · obtain ⟨hhead, hbody⟩ := equivalent_iff.mp h
    exact equivalent_iff.mpr ⟨hhead.symm, hbodies.symm hbody⟩
  · obtain ⟨hhead, hbody⟩ := equivalent_iff.mp h
    obtain ⟨khead, kbody⟩ := equivalent_iff.mp k
    exact equivalent_iff.mpr ⟨hhead.trans khead, hbodies.trans hbody kbody⟩
  · rw [equivalent_iff, List.perm_iff_count,
      rel_iff_countP BodyElement.rearranged_equivalence BodyElement.equivalent_iff]
  · simp only [sameForm, Bool.and_eq_true, decide_eq_true_eq] at h
    obtain ⟨hhead, hbody⟩ := h
    exact equivalent_iff.mpr ⟨hhead ▸ .refl _, hbody ▸ hbodies.refl _⟩

end Rule

end TripleRules
