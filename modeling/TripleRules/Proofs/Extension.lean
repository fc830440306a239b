import Mathlib.Data.List.Basic
import TripleRules.Proofs.Binding

/-!
# Least extensions

A binding is determined by the terms that it gives to variables (`Binding.ext_get?`), and it has
a part on every list of variables (`Binding.restrict`). A match yields the least extension
that makes a pattern the given triple (`Binding.matchTriple_eq_some_iff`): it binds the variables
of the pattern and no others. It is the same whether the pattern is instantiated before.
-/

namespace TripleRules

namespace Binding

variable {b c d : Binding} {p t : Term} {v w : Variable} {scope : List Variable}

-- ---------------------------------------------------------------------------
-- Domains
-- ---------------------------------------------------------------------------

theorem mem_domain : v ∈ b.domain ↔ (b.get? v).isSome = true := by
  obtain ⟨name⟩ := v
  simp [domain, get?, Dictionary.get?, Dictionary.names]

theorem get?_eq_none : b.get? v = none ↔ v ∉ b.domain := by
  rw [mem_domain, Option.isSome_iff_ne_none, not_not]

def HasDomain (b : Binding) (scope : List Variable) : Prop := ∀ v, v ∈ b.domain ↔ v ∈ scope

theorem hasDomain_domain (b : Binding) : b.HasDomain b.domain := fun _ => Iff.rfl

theorem mem_domain_of_le (h : b ≤ c) (hv : v ∈ b.domain) : v ∈ c.domain :=
  mem_domain.mpr (isSome_of_le h (mem_domain.mp hv))

theorem get?_of_le (h : b ≤ c) (hv : v ∈ b.domain) : c.get? v = b.get? v := by
  obtain ⟨t, ht⟩ := Option.isSome_iff_exists.mp (mem_domain.mp hv)
  rw [ht, h v t ht]

theorem eq_of_le (hb : b ≤ d) (hc : c ≤ d) (hdomain : ∀ v, v ∈ b.domain ↔ v ∈ c.domain) :
    b = c := by
  refine ext_get? fun v => ?_
  by_cases hv : v ∈ b.domain
  · rw [← get?_of_le hb hv, get?_of_le hc ((hdomain v).mp hv)]
  · rw [get?_eq_none.mpr hv, get?_eq_none.mpr fun h => hv ((hdomain v).mpr h)]

theorem resolve_congr (h : ∀ v, p = .variable v → b.get? v = c.get? v) :
    b.resolve p = c.resolve p := by
  rcases p.exists_variable_or_isConcrete with ⟨v, rfl⟩ | hp
  · rw [resolve, resolve, h v rfl]
  · rw [resolve_of_isConcrete hp, resolve_of_isConcrete hp]

theorem substitute_congr {pattern : Triple} (h : ∀ v ∈ pattern.vars, b.get? v = c.get? v) :
    b.substitute pattern = c.substitute pattern := by
  have hterm : ∀ u ∈ pattern.terms, b.resolve u = c.resolve u := fun u hu =>
    resolve_congr fun v hv => h v (Triple.mem_vars.mpr (hv ▸ hu))
  simp only [Triple.terms, List.forall_mem_cons] at hterm
  obtain ⟨hs, hp, ho, -⟩ := hterm
  simp only [substitute, Triple.map, hs, hp, ho]

theorem HasDomain.eq_of_le (hb : b.HasDomain scope) (hc : c.HasDomain scope) (h : b ≤ c) : b = c :=
  Binding.eq_of_le h (le_refl c) fun v => (hb v).trans (hc v).symm

-- ---------------------------------------------------------------------------
-- Parts
-- ---------------------------------------------------------------------------

def restrict (b : Binding) (scope : List Variable) : Binding :=
  ⟨⟨b.terms.entries.filter fun e => Variable.mk e.1 ∈ scope, b.terms.ascending.filter _⟩⟩

theorem get?_restrict : (b.restrict scope).get? v = if v ∈ scope then b.get? v else none := by
  obtain ⟨name⟩ := v
  simp only [restrict, get?, Dictionary.get?]
  rw [Dictionary.lookup_filter (p := fun name => decide (Variable.mk name ∈ scope))]
  simp

theorem restrict_le : b.restrict scope ≤ b := by
  intro v t hv
  rw [get?_restrict] at hv
  split at hv
  · exact hv
  · cases hv

theorem le_restrict (h : b ≤ c) (hb : ∀ v ∈ b.domain, v ∈ scope) : b ≤ c.restrict scope := by
  intro v t hv
  have hmem : v ∈ b.domain := mem_domain.mpr (by simp [hv])
  rw [get?_restrict, if_pos (hb v hmem), h v t hv]

theorem mem_domain_restrict : v ∈ (b.restrict scope).domain ↔ v ∈ scope ∧ v ∈ b.domain := by
  rw [mem_domain, mem_domain, get?_restrict]
  by_cases hv : v ∈ scope
  · simp [hv]
  · simp [hv]

theorem hasDomain_restrict (h : ∀ v ∈ scope, v ∈ b.domain) : (b.restrict scope).HasDomain scope :=
  fun v => mem_domain_restrict.trans (and_iff_left_of_imp (h v))

theorem restrict_congr {scope' : List Variable} (h : ∀ v, v ∈ scope ↔ v ∈ scope') :
    b.restrict scope = b.restrict scope' :=
  ext_get? fun v => by simp only [get?_restrict, h v]

theorem restrict_of_le (h : b ≤ c) (hb : b.HasDomain scope) : c.restrict scope = b :=
  eq_of_le restrict_le h fun v => by
    rw [mem_domain_restrict, ← hb v, and_iff_left_of_imp (mem_domain_of_le h)]

/-- A binding with some variables given the terms that another has for them. -/
def update (b c : Binding) : List Variable → Binding
  | [] => b
  | v :: rest => match c.get? v with
    | some t => (update b c rest).insert v t
    | none => update b c rest

theorem get?_update : (b.update c scope).get? v =
    if v ∈ scope ∧ (c.get? v).isSome = true then c.get? v else b.get? v := by
  induction scope with
  | nil => simp [update]
  | cons w rest ih =>
    simp only [update]
    by_cases hw : v = w
    · subst hw
      cases hc : c.get? v with
      | some t => simp [get?_insert]
      | none => simpa [hc] using ih
    · simp only [List.mem_cons, hw, false_or]
      split
      · rw [get?_insert, if_neg hw, ih]
      · exact ih

-- ---------------------------------------------------------------------------
-- Matching
-- ---------------------------------------------------------------------------

theorem mem_domain_extend (h : b.extend v t = some c) : w ∈ c.domain ↔ w ∈ b.domain ∨ w = v := by
  rw [mem_domain, mem_domain, get?_extend h]
  by_cases hw : w = v
  · simp [hw]
  · simp [hw]

theorem exists_extend (hle : b ≤ d) (hv : d.get? v = some t) :
    ∃ c, b.extend v t = some c ∧ c ≤ d := by
  simp only [extend]
  cases hb : b.get? v with
  | some bound =>
    obtain rfl := Option.some.inj ((hle v bound hb).symm.trans hv)
    exact ⟨b, if_pos rfl, hle⟩
  | none =>
    refine ⟨_, rfl, fun w u hw => ?_⟩
    rw [get?_insert] at hw
    split at hw
    · next heq => rw [heq, hv, hw]
    · exact hle w u hw

theorem extend_eq_some_iff : b.extend v t = some c ↔
    b ≤ c ∧ (∀ w, w ∈ c.domain ↔ w ∈ b.domain ∨ w = v) ∧ c.get? v = some t := by
  constructor
  · intro h
    exact ⟨le_extend h, fun w => mem_domain_extend h, by rw [get?_extend h, if_pos rfl]⟩
  · rintro ⟨hle, hdomain, hv⟩
    obtain ⟨d, hd, hdc⟩ := exists_extend hle hv
    rw [hd, eq_of_le hdc (le_refl c) fun w => (mem_domain_extend hd).trans (hdomain w).symm]

theorem mem_domain_matchTerm (h : b.matchTerm p t = some c) :
    w ∈ c.domain ↔ w ∈ b.domain ∨ p = .variable w := by
  rcases p.exists_variable_or_isConcrete with ⟨v, rfl⟩ | hp
  · rw [mem_domain_extend h, Term.variable.injEq, eq_comm]
  · rw [matchTerm_of_isConcrete hp, Option.ite_none_right_eq_some, Option.some.injEq] at h
    obtain ⟨-, rfl⟩ := h
    refine (or_iff_left ?_).symm
    rintro rfl
    cases hp

theorem exists_matchTerm (hle : b ≤ d) (ht : t.isConcrete = true) (hp : d.resolve p = t) :
    ∃ c, b.matchTerm p t = some c ∧ c ≤ d := by
  rcases p.exists_variable_or_isConcrete with ⟨v, rfl⟩ | hconcrete
  · refine exists_extend hle ?_
    cases hv : d.get? v with
    | some u => rw [← hp, resolve_of_get? hv]
    | none =>
      rw [resolve, hv, Option.getD_none] at hp
      rw [← hp] at ht
      cases ht
  · rw [resolve_of_isConcrete hconcrete] at hp
    exact ⟨b, by rw [matchTerm_of_isConcrete hconcrete, if_pos hp], hle⟩

variable {pattern candidate : Triple}

theorem mem_domain_matchTriple (h : b.matchTriple pattern candidate = some c) :
    w ∈ c.domain ↔ w ∈ b.domain ∨ w ∈ pattern.vars := by
  simp only [matchTriple, Option.bind_eq_bind, Option.bind_eq_some_iff] at h
  obtain ⟨_, hs, _, hp, ho⟩ := h
  simp only [mem_domain_matchTerm ho, mem_domain_matchTerm hp, mem_domain_matchTerm hs,
    Triple.mem_vars, Triple.terms, List.mem_cons, List.not_mem_nil, or_false, or_assoc, eq_comm]

theorem exists_matchTriple (hle : b ≤ d) (hc : candidate.isConcrete = true)
    (h : d.substitute pattern = candidate) :
    ∃ c, b.matchTriple pattern candidate = some c ∧ c ≤ d := by
  subst h
  have hconcrete := Triple.isConcrete_iff.mp hc
  simp only [substitute, Triple.map, Triple.terms, List.forall_mem_cons] at hconcrete
  obtain ⟨hs, hp, ho, -⟩ := hconcrete
  obtain ⟨c, hsubject, hcd⟩ := exists_matchTerm hle hs rfl
  obtain ⟨c', hpredicate, hcd'⟩ := exists_matchTerm hcd hp rfl
  obtain ⟨c'', hobject, hcd''⟩ := exists_matchTerm hcd' ho rfl
  exact ⟨c'', by simp [matchTriple, substitute, Triple.map, hsubject, hpredicate, hobject], hcd''⟩

/-- A match is the least extension that makes the pattern the given concrete triple. -/
theorem matchTriple_eq_some_iff (hc : candidate.isConcrete = true) :
    b.matchTriple pattern candidate = some c ↔
      b ≤ c ∧ (∀ w, w ∈ c.domain ↔ w ∈ b.domain ∨ w ∈ pattern.vars) ∧
        c.substitute pattern = candidate := by
  constructor
  · intro h
    exact ⟨le_matchTriple h, fun w => mem_domain_matchTriple h, substitute_of_matchTriple h⟩
  · rintro ⟨hle, hdomain, heq⟩
    obtain ⟨d, hd, hdc⟩ := exists_matchTriple hle hc heq
    rw [hd, eq_of_le hdc (le_refl c) fun w => (mem_domain_matchTriple hd).trans (hdomain w).symm]

theorem matchTerm_resolve (hb : b.Forall fun t => t.isConcrete = true) (hle : b ≤ c) :
    c.matchTerm (b.resolve p) t = c.matchTerm p t := by
  rcases p.exists_variable_or_isConcrete with ⟨v, rfl⟩ | hp
  · cases hv : b.get? v with
    | none => rw [resolve, hv, Option.getD_none]
    | some u =>
      rw [resolve_of_get? hv, matchTerm_of_isConcrete (hb v u hv)]
      simp only [matchTerm, extend, hle v u hv]
  · rw [resolve_of_isConcrete hp]

theorem matchTriple_substitute (hb : b.Forall fun t => t.isConcrete = true) :
    b.matchTriple (b.substitute pattern) candidate = b.matchTriple pattern candidate := by
  simp only [matchTriple, substitute, Triple.map, matchTerm_resolve hb (le_refl b)]
  refine Option.bind_congr fun c hc => ?_
  have hle : b ≤ c := le_matchTerm hc
  simp only [matchTerm_resolve hb hle]
  refine Option.bind_congr fun d hd => ?_
  exact matchTerm_resolve hb (le_trans hle (le_matchTerm hd))

end Binding

end TripleRules
