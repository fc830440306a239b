import TripleRules.Proofs.Engine.Domain

/-!
# Answers

`Body.Answers` says of a finished binding what makes it a solution of a body, without
following the body from left to right: it extends the start by the variables that the body
binds, every element holds of it, and no negation has an answer that agrees with it on what
was bound before. The evaluation of a body finds its answers, each of them once
(`Body.solve_answers`).
-/

namespace TripleRules

open Scope (afterElement afterBody)
open BodyElement (boundByBody)

theorem BodyElement.sizeOf_negation_lt {before inner after : List BodyElement} :
    sizeOf inner < sizeOf (before ++ .negation inner :: after) := by
  induction before with
  | nil =>
    simp only [List.nil_append, List.cons.sizeOf_spec, negation.sizeOf_spec]
    omega
  | cons e rest ih =>
    simp only [List.cons_append, List.cons.sizeOf_spec]
    omega

namespace Body

variable {functions : FunctionRegistry} {g : Graph} {sign : Sign}
  {scope scope' last : List Variable} {start b c d : Binding} {e : BodyElement}
  {body rest : List BodyElement}

/-- A binding extends another by the variables that a body binds, and every element of the
body holds of it. -/
def Answers (functions : FunctionRegistry) (g : Graph) (start : Binding)
    (body : List BodyElement) (b : Binding) : Prop :=
  start ≤ b ∧ (∀ v, v ∈ b.domain ↔ v ∈ start.domain ∨ v ∈ boundByBody body) ∧
  (∀ p, .pattern p ∈ body → b.substitute p ∈ g.toList) ∧
  (∀ e, .condition e ∈ body → e.condition functions b = .ok true) ∧
  (∀ v e, .assignment v e ∈ body → ∃ t, e.eval functions b = .ok t ∧ b.get? v = some t) ∧
  ∀ before inner after, (_ : body = before ++ .negation inner :: after) → ∀ c,
    ¬ Answers functions g (b.restrict (start.domain ++ boundByBody before)) inner c
  termination_by sizeOf body
  decreasing_by subst body; exact BodyElement.sizeOf_negation_lt

-- ---------------------------------------------------------------------------
-- Element by element
-- ---------------------------------------------------------------------------

/-- An element holds of a binding, where these variables are bound before it. -/
def Meets (functions : FunctionRegistry) (g : Graph) (scope : List Variable) (b : Binding) :
    BodyElement → Prop
  | .pattern p => b.substitute p ∈ g.toList
  | .condition e => e.condition functions b = .ok true
  | .assignment v e => ∃ t, e.eval functions b = .ok t ∧ b.get? v = some t
  | .negation inner => ∀ c, ¬ Answers functions g (b.restrict scope) inner c

theorem meets_congr (h : ∀ v, v ∈ scope ↔ v ∈ scope') :
    Meets functions g scope b e ↔ Meets functions g scope' b e := by
  cases e with
  | negation inner => rw [Meets, Meets, Binding.restrict_congr h]
  | _ => exact Iff.rfl

theorem answers_iff (hstart : start.HasDomain scope) : Answers functions g start body b ↔
    start ≤ b ∧ b.HasDomain (scope ++ boundByBody body) ∧
    ∀ before e after, body = before ++ e :: after →
      Meets functions g (scope ++ boundByBody before) b e := by
  have hmem : ∀ before v, v ∈ start.domain ++ boundByBody before ↔ v ∈ scope ++ boundByBody before :=
    fun before v => by rw [List.mem_append, List.mem_append, hstart v]
  rw [Answers]
  simp only [Binding.HasDomain, List.mem_append, hstart _]
  refine and_congr_right fun _ => and_congr_right fun _ => ⟨?_, fun h => ⟨?_, ?_, ?_, ?_⟩⟩
  · rintro ⟨hpattern, hcondition, hassignment, hnegation⟩ before e after rfl
    have he : e ∈ before ++ e :: after := List.mem_append_right _ List.mem_cons_self
    cases e with
    | pattern p => exact hpattern p he
    | condition e => exact hcondition e he
    | assignment v e => exact hassignment v e he
    | negation inner => exact (meets_congr (hmem before)).mp (hnegation before inner after rfl)
  · intro p hp
    obtain ⟨before, after, hbody⟩ := List.append_of_mem hp
    exact h before _ after hbody
  · intro e he
    obtain ⟨before, after, hbody⟩ := List.append_of_mem he
    exact h before _ after hbody
  · intro v e he
    obtain ⟨before, after, hbody⟩ := List.append_of_mem he
    exact h before _ after hbody
  · intro before inner after hbody
    exact (meets_congr (hmem before)).mpr (h before _ after hbody)

theorem meets_of_le (hscope : afterElement scope e = .ok scope') (hle : b ≤ c)
    (hb : b.HasDomain scope') : Meets functions g scope c e ↔ Meets functions g scope b e := by
  have hget : ∀ v ∈ scope', c.get? v = b.get? v := fun v hv =>
    Binding.get?_of_le hle ((hb v).mpr hv)
  cases e with
  | pattern p =>
    obtain rfl := Except.ok.inj hscope
    rw [Meets, Meets, Binding.substitute_congr fun v hv => hget v (List.mem_append_right _ hv)]
  | condition e =>
    obtain ⟨hvars, rfl⟩ := Scope.afterElement_condition.mp hscope
    rw [Meets, Meets, Expr.condition_congr fun v hv => hget v (hvars v hv)]
  | assignment v e =>
    obtain ⟨hvars, -, rfl⟩ := Scope.afterElement_assignment.mp hscope
    rw [Meets, Meets, hget v (List.mem_append_right _ List.mem_cons_self),
      Expr.eval_congr e fun v hv => hget v (List.mem_append_left _ (hvars v hv))]
  | negation inner =>
    obtain ⟨-, rfl⟩ := Scope.afterElement_negation.mp hscope
    rw [Meets, Meets, Binding.restrict_of_le hle hb, Binding.restrict_of_le (le_refl b) hb]

theorem answers_nil : Answers functions g start [] b ↔ b = start := by
  rw [answers_iff start.hasDomain_domain, boundByBody, List.flatMap_nil, List.append_nil]
  constructor
  · rintro ⟨hle, hdomain, -⟩
    exact (Binding.eq_of_le hle (le_refl b) fun v => (hdomain v).symm).symm
  · rintro rfl
    exact ⟨le_refl b, b.hasDomain_domain, fun before e after h => by simp at h⟩

theorem forall_positions_cons {P : List BodyElement → BodyElement → Prop} :
    (∀ before x after, e :: rest = before ++ x :: after → P before x) ↔
      P [] e ∧ ∀ before x after, rest = before ++ x :: after → P (e :: before) x := by
  constructor
  · intro h
    refine ⟨h [] e rest rfl, fun before x after hrest => h (e :: before) x after ?_⟩
    rw [hrest, List.cons_append]
  · rintro ⟨hfirst, hothers⟩ before x after h
    rcases before with _ | ⟨y, before⟩
    · obtain ⟨rfl, rfl⟩ := List.cons.inj h
      exact hfirst
    · obtain ⟨rfl, hrest⟩ := List.cons.inj h
      exact hothers before x after hrest

/-- An answer is built up by its parts on the variables that are bound after each element. -/
theorem answers_cons (hstart : start.HasDomain scope) (hscope : afterElement scope e = .ok scope') :
    Answers functions g start (e :: rest) b ↔
      ∃ c, (start ≤ c ∧ c.HasDomain scope' ∧ Meets functions g scope c e) ∧
        Answers functions g c rest b := by
  have hbound : ∀ body, scope ++ boundByBody (e :: body) = scope' ++ boundByBody body := fun body => by
    rw [Scope.eq_of_afterElement hscope, boundByBody, List.flatMap_cons, List.append_assoc,
      boundByBody]
  have hnil : scope ++ boundByBody [] = scope := by
    rw [boundByBody, List.flatMap_nil, List.append_nil]
  rw [answers_iff hstart, forall_positions_cons]
  simp only [hbound, hnil]
  constructor
  · -- the part is what the evaluation has after the element
    rintro ⟨hle, hdomain, he, hrest⟩
    have hsub : ∀ v ∈ scope', v ∈ b.domain := fun v hv =>
      (hdomain v).mpr (List.mem_append_left _ hv)
    have hpart := Binding.hasDomain_restrict hsub
    have hstart' : ∀ v ∈ start.domain, v ∈ scope' := fun v hv => by
      rw [Scope.eq_of_afterElement hscope]
      exact List.mem_append_left _ ((hstart v).mp hv)
    exact ⟨b.restrict scope', ⟨Binding.le_restrict hle hstart', hpart,
      (meets_of_le hscope Binding.restrict_le hpart).mp he⟩,
      (answers_iff hpart).mpr ⟨Binding.restrict_le, hdomain, hrest⟩⟩
  · rintro ⟨c, ⟨hle, hc, he⟩, hanswers⟩
    obtain ⟨hcb, hdomain, hrest⟩ := (answers_iff hc).mp hanswers
    exact ⟨hle.trans hcb, hdomain, (meets_of_le hscope hcb hc).mpr he, hrest⟩

-- ---------------------------------------------------------------------------
-- Answers are solutions
-- ---------------------------------------------------------------------------

mutual

theorem extends_iff (hf : functions.KeepsConcrete) :
    ∀ (e : BodyElement) {sign : Sign} {scope scope' : List Variable} {b c : Binding},
      b.Grounds scope → afterElement scope e = .ok scope' →
      (Extends functions (fun _ => g.facts) sign e b c ↔
        b ≤ c ∧ c.HasDomain scope' ∧ Meets functions g scope c e)
  | .pattern p, sign, scope, scope', b, c, hb, hscope => by
    obtain rfl := Except.ok.inj hscope
    simp only [Extends, Meets, Binding.matchTriple_substitute hb.concrete]
    have hdomain : (∀ w, w ∈ c.domain ↔ w ∈ b.domain ∨ w ∈ p.vars) ↔
        c.HasDomain (scope ++ p.vars) := by
      simp only [Binding.HasDomain, List.mem_append, hb.domain _]
    constructor
    · rintro ⟨u, hu, hmatch⟩
      obtain ⟨hle, hdom, rfl⟩ :=
        (Binding.matchTriple_eq_some_iff (Graph.isConcrete_of_mem hu)).mp hmatch
      exact ⟨hle, hdomain.mp hdom, hu⟩
    · rintro ⟨hle, hdom, hmem⟩
      exact ⟨_, hmem, (Binding.matchTriple_eq_some_iff (Graph.isConcrete_of_mem hmem)).mpr
        ⟨hle, hdomain.mpr hdom, rfl⟩⟩
  | .condition e, sign, scope, scope', b, c, hb, hscope => by
    obtain ⟨-, rfl⟩ := Scope.afterElement_condition.mp hscope
    simp only [Extends, Meets, holds_iff]
    constructor
    · rintro ⟨h, rfl⟩
      exact ⟨le_refl c, hb.domain, h⟩
    · rintro ⟨hle, hc, h⟩
      obtain rfl := hb.domain.eq_of_le hc hle
      exact ⟨h, rfl⟩
  | .assignment v e, sign, scope, scope', b, c, hb, hscope => by
    obtain ⟨hvars, -, rfl⟩ := Scope.afterElement_assignment.mp hscope
    simp only [Extends, Meets, assign_eq_some_iff, Binding.extend_eq_some_iff]
    have hdomain : (∀ w, w ∈ c.domain ↔ w ∈ b.domain ∨ w = v) ↔ c.HasDomain (scope ++ [v]) := by
      simp only [Binding.HasDomain, List.mem_append, List.mem_singleton, hb.domain _]
    have heval : b ≤ c → e.eval functions c = e.eval functions b := fun hle =>
      Expr.eval_congr e fun w hw => Binding.get?_of_le hle ((hb.domain w).mpr (hvars w hw))
    constructor
    · rintro ⟨t, ht, hle, hdom, hv⟩
      exact ⟨hle, hdomain.mp hdom, t, (heval hle).trans ht, hv⟩
    · rintro ⟨hle, hdom, t, ht, hv⟩
      exact ⟨t, (heval hle).symm.trans ht, hle, hdomain.mpr hdom, hv⟩
  | .negation body, sign, scope, scope', b, c, hb, hscope => by
    obtain ⟨⟨inner, hinner⟩, rfl⟩ := Scope.afterElement_negation.mp hscope
    simp only [Extends, Meets, solves_iff_answers hf body hb hinner]
    constructor
    · rintro ⟨h, rfl⟩
      rw [Binding.restrict_of_le (le_refl c) hb.domain]
      exact ⟨le_refl c, hb.domain, h⟩
    · rintro ⟨hle, hc, h⟩
      obtain rfl := hb.domain.eq_of_le hc hle
      rw [Binding.restrict_of_le (le_refl b) hb.domain] at h
      exact ⟨h, rfl⟩

theorem solves_iff_answers (hf : functions.KeepsConcrete) :
    ∀ (body : List BodyElement) {sign : Sign} {scope last : List Variable} {b c : Binding},
      b.Grounds scope → afterBody scope body = .ok last →
      (Solves functions (fun _ => g.facts) sign body b c ↔ Answers functions g b body c)
  | [], _, _, _, _, _, _, _ => answers_nil.symm
  | e :: rest, sign, scope, last, b, c, hb, hscope => by
    obtain ⟨mid, hmid, hrest⟩ := Scope.afterBody_cons.mp hscope
    rw [answers_cons hb.domain hmid, Solves]
    refine exists_congr fun d => ?_
    have hstep : Extends functions (fun _ => g.facts) sign e b d ↔ _ := extends_iff hf e hb hmid
    rw [← hstep]
    refine and_congr_right fun hext => ?_
    have hd := hext.grounds hf (fun u hu => Graph.isConcrete_of_mem hu) hmid hb
    exact solves_iff_answers hf rest hd hrest

end

-- ---------------------------------------------------------------------------
-- Once each
-- ---------------------------------------------------------------------------

theorem nodup_matchPattern (p : Triple) : (matchPattern g b p).Nodup := by
  refine List.Nodup.filterMap (fun t t' c ht ht' => ?_) ?_
  · rw [← Binding.substitute_of_matchTriple ht, ← Binding.substitute_of_matchTriple ht']
  · rw [Graph.find_eq_filter]
    exact g.nodup_toList.filter _

theorem nodup_flatMap {f : Binding → List Binding} {chain : List Binding} (hnodup : chain.Nodup)
    (hchain : ∀ b ∈ chain, b.HasDomain scope) (hf : ∀ b, (f b).Nodup)
    (hle : ∀ b, ∀ c ∈ f b, b ≤ c) : (chain.flatMap f).Nodup := by
  refine List.nodup_flatMap.mpr ⟨fun b _ => hf b, ?_⟩
  refine hnodup.imp_of_mem fun {b b'} hb hb' hne c hc hc' => hne ?_
  exact Binding.eq_of_le (hle b c hc) (hle b' c hc') fun v =>
    (hchain b hb v).trans (hchain b' hb' v).symm

theorem nodup_step (e : BodyElement) {chain : List Binding} (hnodup : chain.Nodup)
    (hchain : ∀ b ∈ chain, b.HasDomain scope) : (step functions g e chain).Nodup := by
  cases e with
  | pattern p =>
    refine nodup_flatMap hnodup hchain (fun b => nodup_matchPattern p) fun b c hc => ?_
    obtain ⟨u, -, hmatch⟩ := mem_matchPattern.mp hc
    exact Binding.le_matchTriple hmatch
  | condition e => exact hnodup.filter _
  | assignment v e =>
    simp only [step, List.filterMap_eq_flatMap_toList]
    refine nodup_flatMap hnodup hchain (fun b => ?_) fun b c hc => ?_
    · cases assign functions v e b with
      | none => exact List.nodup_nil
      | some c => exact List.nodup_singleton c
    · obtain ⟨t, -, hextend⟩ := assign_eq_some_iff.mp (Option.mem_toList.mp hc)
      exact Binding.le_extend hextend
  | negation body => exact hnodup.filter _

theorem nodup_steps (hf : functions.KeepsConcrete) {chain : List Binding}
    (hscope : afterBody scope body = .ok last) (hnodup : chain.Nodup)
    (hchain : ∀ b ∈ chain, b.Grounds scope) : (steps functions g body chain).Nodup := by
  induction body generalizing scope chain with
  | nil => exact hnodup
  | cons e rest ih =>
    obtain ⟨mid, hmid, hrest⟩ := Scope.afterBody_cons.mp hscope
    exact ih hrest (nodup_step e hnodup fun b hb => (hchain b hb).domain)
      (grounds_step hf hmid hchain)

theorem nodup_solve (hf : functions.KeepsConcrete) (hstart : start.Grounds scope)
    (hbody : afterBody scope body = .ok last) : (solve functions g body start).Nodup :=
  nodup_steps hf hbody (List.nodup_singleton start) (List.forall_mem_singleton.mpr hstart)

theorem mem_solve_iff_answers (hf : functions.KeepsConcrete) (hstart : start.Grounds scope)
    (hbody : afterBody scope body = .ok last) :
    b ∈ solve functions g body start ↔ Answers functions g start body b := by
  rw [mem_solve, solves_iff_answers hf body hstart hbody]

/-- Evaluating a body that is accepted finds its answers, and each of them once. -/
theorem solve_answers (hf : functions.KeepsConcrete)
    (hstart : start.Forall fun t => t.isConcrete = true)
    (hbody : afterBody start.domain body = .ok last) :
    (solve functions g body start).Nodup ∧
      ∀ b, b ∈ solve functions g body start ↔ Answers functions g start body b :=
  have hgrounds : start.Grounds start.domain := ⟨start.hasDomain_domain, hstart⟩
  ⟨nodup_solve hf hgrounds hbody, fun _ => mem_solve_iff_answers hf hgrounds hbody⟩

/-- Names that begin with a B, of those who are not said to be away. -/
def presentWithB : List BodyElement := [
  .pattern ⟨.ofVariable "x", .ofIri "name", .ofVariable "n"⟩,
  .assignment ⟨"u"⟩ (.call "ucase" [.var ⟨"n"⟩]),
  .condition (.call "strstarts" [.var ⟨"u"⟩, .constant (.ofText "B")]),
  .negation [.pattern ⟨.ofVariable "x", .ofIri "is", .ofIri "away"⟩]]

theorem solve_answers_presentWithB : ∃ (g : Graph) (b : Binding),
    solve .standard g presentWithB .empty = [b] ∧ b.get? ⟨"u"⟩ = some (.ofText "BOB") ∧
    (solve .standard g presentWithB .empty).Nodup ∧
    ∀ c, c ∈ solve .standard g presentWithB .empty ↔
      Answers .standard g .empty presentWithB c := by
  let g : Graph := .ofStore (Store.empty.addAll [
    ⟨.ofIri "ann", .ofIri "name", .ofText "Ann"⟩, ⟨.ofIri "bob", .ofIri "name", .ofText "bob"⟩,
    ⟨.ofIri "ben", .ofIri "name", .ofText "Ben"⟩, ⟨.ofIri "ben", .ofIri "is", .ofIri "away"⟩]).1
  let b : Binding := ((Binding.empty.insert ⟨"x"⟩ (.ofIri "bob")).insert ⟨"n"⟩
    (.ofText "bob")).insert ⟨"u"⟩ (.ofText "BOB")
  have hbody : afterBody Binding.empty.domain presentWithB = .ok [⟨"x"⟩, ⟨"n"⟩, ⟨"u"⟩] := by
    decide +kernel
  obtain ⟨hnodup, hall⟩ := solve_answers (g := g) FunctionRegistry.standard_keepsConcrete
    (Binding.forall_empty _) hbody
  exact ⟨g, b, by decide +kernel, by decide +kernel, hnodup, hall⟩

end Body

end TripleRules
