import Mathlib.Order.Defs.PartialOrder
import TripleRules.Binding
import TripleRules.Proofs.Dictionary

/-!
# What bindings hold

Extending a binding adds one entry and keeps the others, and so does matching,
place by place. Whatever holds of all terms that a binding has and of all terms
of a triple holds of the terms that matching the triple leaves in the binding.
-/

namespace TripleRules

namespace Triple

variable {t : Triple} {u : Term} {v : Variable}

theorem mem_vars : v ∈ t.vars ↔ .variable v ∈ t.terms := by
  have hvar : ∀ u : Term, u.toVariable? = some v ↔ u = .variable v := fun u => by
    cases u <;> simp [Term.toVariable?]
  simp [vars, hvar]

theorem mem_terms_map {f : Term → Term} : u ∈ (t.map f).terms ↔ ∃ w ∈ t.terms, f w = u := by
  simp [terms, map, eq_comm]

theorem isConcrete_iff : t.isConcrete = true ↔ ∀ u ∈ t.terms, u.isConcrete = true := by
  simp [isConcrete, hasVariables, terms, Term.isConcrete, and_assoc]

end Triple

theorem Term.exists_variable_or_isConcrete (p : Term) :
    (∃ v, p = .variable v) ∨ p.isConcrete = true := by
  rcases p with i | l | label | v
  · exact .inr rfl
  · exact .inr rfl
  · exact .inr rfl
  · exact .inl ⟨v, rfl⟩

namespace Binding

variable {b c d : Binding} {p t : Term} {v w : Variable}

theorem ext_get? (h : ∀ v, b.get? v = c.get? v) : b = c := by
  obtain ⟨terms⟩ := b
  obtain ⟨terms'⟩ := c
  exact congrArg Binding.mk (Dictionary.ext_get? fun name => h ⟨name⟩)

/-- A binding is below another if the other has all its entries. -/
instance : PartialOrder Binding where
  le b c := ∀ v t, b.get? v = some t → c.get? v = some t
  le_refl _ _ _ h := h
  le_trans _ _ _ h k v t hv := k v t (h v t hv)
  le_antisymm _ _ h k := ext_get? fun v => Option.ext fun t => ⟨h v t, k v t⟩

def Forall (P : Term → Prop) (b : Binding) : Prop := ∀ v t, b.get? v = some t → P t

def Binds (b : Binding) (scope : List Variable) : Prop := ∀ v ∈ scope, (b.get? v).isSome = true

theorem isSome_of_le (h : b ≤ c) (hv : (b.get? v).isSome = true) : (c.get? v).isSome = true := by
  obtain ⟨t, ht⟩ := Option.isSome_iff_exists.mp hv
  simp [h v t ht]

theorem Binds.of_le {scope : List Variable} (hb : b.Binds scope) (h : b ≤ c) : c.Binds scope :=
  fun v hv => isSome_of_le h (hb v hv)

@[simp] theorem get?_empty : empty.get? v = none := rfl

theorem forall_empty (P : Term → Prop) : empty.Forall P := fun _ _ h => nomatch h

-- ---------------------------------------------------------------------------
-- One more entry
-- ---------------------------------------------------------------------------

theorem get?_insert : (b.insert v t).get? w = if w = v then some t else b.get? w := by
  obtain ⟨name⟩ := v
  obtain ⟨other⟩ := w
  simp [get?, insert, Dictionary.get?, Dictionary.insert, Dictionary.lookup_insertEntry]

theorem get?_extend (h : b.extend v t = some c) :
    c.get? w = if w = v then some t else b.get? w := by
  simp only [extend] at h
  split at h
  · next bound hbound =>
    simp only [Option.ite_none_right_eq_some, Option.some.injEq] at h
    obtain ⟨rfl, rfl⟩ := h
    split
    · next hw => rw [hw, hbound]
    · rfl
  · obtain rfl := Option.some.inj h
    exact get?_insert

theorem le_extend (h : b.extend v t = some c) : b ≤ c := by
  intro w u hw
  simp only [extend] at h
  split at h
  · simp only [Option.ite_none_right_eq_some, Option.some.injEq] at h
    exact h.2 ▸ hw
  · next hnone =>
    obtain rfl := Option.some.inj h
    have hne : w ≠ v := by
      rintro rfl
      simp [hnone] at hw
    rw [get?_insert, if_neg hne, hw]

theorem Forall.extend {P : Term → Prop} (hb : b.Forall P) (ht : P t)
    (h : b.extend v t = some c) : c.Forall P := by
  intro w u hw
  rw [get?_extend h] at hw
  split at hw
  · exact Option.some.inj hw ▸ ht
  · exact hb w u hw

-- ---------------------------------------------------------------------------
-- Matching
-- ---------------------------------------------------------------------------

theorem resolve_of_get? (h : b.get? v = some t) : b.resolve (.variable v) = t := by
  rw [resolve, h, Option.getD_some]

theorem resolve_of_isConcrete (hp : p.isConcrete = true) : b.resolve p = p := by
  rcases p with i | l | label | v
  · rfl
  · rfl
  · rfl
  · cases hp

theorem matchTerm_of_isConcrete (hp : p.isConcrete = true) :
    b.matchTerm p t = if p = t then some b else none := by
  rcases p with i | l | label | v
  · rfl
  · rfl
  · rfl
  · cases hp

theorem le_matchTerm (h : b.matchTerm p t = some c) : b ≤ c := by
  simp only [matchTerm] at h
  split at h
  · exact le_extend h
  · simp only [Option.ite_none_right_eq_some, Option.some.injEq] at h
    exact h.2 ▸ le_refl b

theorem Forall.matchTerm {P : Term → Prop} (hb : b.Forall P) (ht : P t)
    (h : b.matchTerm p t = some c) : c.Forall P := by
  simp only [Binding.matchTerm] at h
  split at h
  · exact hb.extend ht h
  · simp only [Option.ite_none_right_eq_some, Option.some.injEq] at h
    exact h.2 ▸ hb

theorem isSome_of_matchTerm (hd : d ≤ b)
    (h : b.matchTerm (d.resolve (.variable v)) t = some c) : (c.get? v).isSome = true := by
  cases hv : d.get? v with
  | some u => simp [le_matchTerm h v u (hd v u hv)]
  | none =>
    simp only [resolve, hv, Option.getD_none, matchTerm] at h
    simp [get?_extend h]

theorem resolve_of_matchTerm (h : b.matchTerm p t = some c) (hd : c ≤ d) : d.resolve p = t := by
  rcases p.exists_variable_or_isConcrete with ⟨v, rfl⟩ | hp
  · exact resolve_of_get? (hd v t (by rw [get?_extend h, if_pos rfl]))
  · rw [matchTerm_of_isConcrete hp, Option.ite_none_right_eq_some] at h
    rw [resolve_of_isConcrete hp, h.1]

/-- A term matches what becomes of it, as far as the same becomes of bound variables. -/
theorem matchTerm_of_resolves {f : Term → Term} (hf : ∀ u, u.isConcrete = true → f u = u)
    (hb : ∀ v u, b.get? v = some u → f (.variable v) = u) (p : Term) :
    ∃ c, b.matchTerm p (f p) = some c ∧ ∀ v u, c.get? v = some u → f (.variable v) = u := by
  rcases p.exists_variable_or_isConcrete with ⟨v, rfl⟩ | hp
  · have hextend : ∃ c, b.extend v (f (.variable v)) = some c := by
      simp only [extend]
      split
      · next bound hbound => exact ⟨b, if_pos (hb v bound hbound).symm⟩
      · exact ⟨_, rfl⟩
    obtain ⟨c, hc⟩ := hextend
    refine ⟨c, hc, fun w u hw => ?_⟩
    rw [get?_extend hc] at hw
    split at hw
    · next heq => rw [heq, Option.some.inj hw]
    · exact hb w u hw
  · exact ⟨b, by rw [matchTerm_of_isConcrete hp, if_pos (hf p hp).symm], hb⟩

variable {pattern candidate : Triple}

theorem le_matchTriple (h : b.matchTriple pattern candidate = some c) : b ≤ c := by
  simp only [matchTriple, Option.bind_eq_bind, Option.bind_eq_some_iff] at h
  obtain ⟨_, hs, _, hp, ho⟩ := h
  exact le_trans (le_matchTerm hs) (le_trans (le_matchTerm hp) (le_matchTerm ho))

theorem Forall.matchTriple {P : Term → Prop} (hb : b.Forall P) (ht : ∀ u ∈ candidate.terms, P u)
    (h : b.matchTriple pattern candidate = some c) : c.Forall P := by
  simp only [Binding.matchTriple, Option.bind_eq_bind, Option.bind_eq_some_iff] at h
  obtain ⟨_, hs, _, hp, ho⟩ := h
  simp only [Triple.terms, List.mem_cons, List.not_mem_nil, or_false, forall_eq_or_imp,
    forall_eq] at ht
  obtain ⟨hsubject, hpredicate, hobject⟩ := ht
  exact ((hb.matchTerm hsubject hs).matchTerm hpredicate hp).matchTerm hobject ho

theorem substitute_of_matchTriple (h : b.matchTriple pattern candidate = some c) :
    c.substitute pattern = candidate := by
  simp only [matchTriple, Option.bind_eq_bind, Option.bind_eq_some_iff] at h
  obtain ⟨d, hs, d', hp, ho⟩ := h
  have hd' : d' ≤ c := le_matchTerm ho
  simp only [substitute, Triple.map, resolve_of_matchTerm hs (le_trans (le_matchTerm hp) hd'),
    resolve_of_matchTerm hp hd', resolve_of_matchTerm ho (le_refl c)]

theorem binds_of_matchTriple (h : b.matchTriple (b.substitute pattern) candidate = some c) :
    c.Binds pattern.vars := by
  simp only [matchTriple, substitute, Triple.map, Option.bind_eq_bind, Option.bind_eq_some_iff] at h
  obtain ⟨d, hs, d', hp, ho⟩ := h
  have hd : b ≤ d := le_matchTerm hs
  have hd' : d ≤ d' := le_matchTerm hp
  have hc : d' ≤ c := le_matchTerm ho
  intro v hv
  have hterm := Triple.mem_vars.mp hv
  simp only [Triple.terms, List.mem_cons, List.not_mem_nil, or_false] at hterm
  rcases hterm with hterm | hterm | hterm
  · rw [← hterm] at hs
    exact isSome_of_le (le_trans hd' hc) (isSome_of_matchTerm (le_refl b) hs)
  · rw [← hterm] at hp
    exact isSome_of_le hc (isSome_of_matchTerm hd hp)
  · rw [← hterm] at ho
    exact isSome_of_matchTerm (le_trans hd hd') ho

-- ---------------------------------------------------------------------------
-- Substitution
-- ---------------------------------------------------------------------------

theorem Forall.resolve {P : Term → Prop} (hb : b.Forall P)
    (hp : (∀ v, p = .variable v → b.get? v = none) → P p) : P (b.resolve p) := by
  rcases p with i | l | label | v
  · exact hp nofun
  · exact hp nofun
  · exact hp nofun
  · simp only [Binding.resolve]
    cases hv : b.get? v with
    | none =>
      refine hp fun w hw => ?_
      obtain rfl := Term.variable.inj hw
      exact hv
    | some t => exact hb v t hv

theorem Forall.substitute {P : Term → Prop} (hb : b.Forall P)
    (hp : ∀ u ∈ pattern.terms, (∀ v, u = .variable v → b.get? v = none) → P u) :
    ∀ u ∈ (b.substitute pattern).terms, P u := by
  intro u hu
  obtain ⟨w, hw, rfl⟩ := Triple.mem_terms_map.mp hu
  exact hb.resolve (hp w hw)

theorem isConcrete_substitute (hb : b.Forall fun t => t.isConcrete = true)
    (hp : b.Binds pattern.vars) : (b.substitute pattern).isConcrete = true := by
  refine Triple.isConcrete_iff.mpr (hb.substitute fun u hu hfree => ?_)
  rcases u with i | l | label | v
  · rfl
  · rfl
  · rfl
  · have hbound := hp v (Triple.mem_vars.mpr hu)
    simp [hfree v rfl] at hbound

end Binding

end TripleRules
