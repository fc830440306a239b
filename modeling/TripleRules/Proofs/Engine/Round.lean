import Mathlib.Data.List.Nodup
import Mathlib.Logic.Relation
import TripleRules.Engine.Saturation
import TripleRules.Proofs.Engine.Solution
import TripleRules.Proofs.Graph.Insertion
import TripleRules.Proofs.Outcome
import TripleRules.Proofs.Rule.Identity

/-!
# Rounds

A round finds what the rules of a stratum derive from the graph and what the graph
does not have yet (`derive_ok`). A stratum that settles was taken there by such
rounds (`run_settled`), and in the end its rules derive nothing that is not there.
-/

namespace TripleRules

variable {functions : FunctionRegistry} {s : RuleSet} {g : Graph} {r : Rule} {id : RuleId}
  {t : Triple} {level : List RuleId}

namespace Rule

/-- A template of the rule, under a solution of its body, is that triple. -/
def Derives (functions : FunctionRegistry) (g : Graph) (r : Rule) (t : Triple) : Prop :=
  ∃ b ∈ r.solutions functions g, ∃ template ∈ r.head, b.substitute template = t

theorem instantiate_ok {b : Binding} {ts : List Triple} :
    r.instantiate b = .ok ts ↔
      (∀ template ∈ r.head, (b.substitute template).isConcrete = true) ∧
        ts = r.head.map b.substitute := by
  simp only [instantiate]
  generalize r.head = head
  induction head generalizing ts with
  | nil => exact Except.pure_ok.trans ⟨fun h => ⟨fun _ h => (nomatch h), h.symm⟩, fun h => h.2.symm⟩
  | cons template rest ih =>
    simp only [List.mapM_cons, Except.bind_ok, Except.pure_ok, ih, List.forall_mem_cons,
      List.map_cons]
    split
    · next hconcrete =>
      constructor
      · rintro ⟨_, hok, _, ⟨hrest, rfl⟩, rfl⟩
        obtain rfl := Except.ok.inj hok
        exact ⟨⟨hconcrete, hrest⟩, rfl⟩
      · rintro ⟨⟨-, hrest⟩, rfl⟩
        exact ⟨_, rfl, _, ⟨hrest, rfl⟩, rfl⟩
    · next hopen =>
      constructor
      · rintro ⟨_, h, -⟩
        cases h
      · rintro ⟨⟨h, -⟩, -⟩
        exact absurd h hopen

end Rule

namespace Saturation

variable {fresh : List (Triple × RuleId)} {n : Nat}

-- ---------------------------------------------------------------------------
-- One round
-- ---------------------------------------------------------------------------

theorem collect_cons {u : Triple} {rest : List Triple} : collect g id fresh (u :: rest) =
    collect g id (if g.contains u || fresh.any (·.1 = u) then fresh else fresh ++ [(u, id)]) rest :=
  rfl

theorem mem_collect {derived : List Triple} :
    t ∈ (collect g id fresh derived).map Prod.fst ↔
      t ∈ fresh.map Prod.fst ∨ t ∈ derived ∧ t ∉ g.toList := by
  induction derived generalizing fresh with
  | nil => simp [collect]
  | cons u rest ih =>
    rw [collect_cons, ih]
    by_cases hg : u ∈ g.toList
    · by_cases ht : t = u
      · simp [Graph.mem_toList.mp hg, ht, hg]
      · simp [Graph.mem_toList.mp hg, ht]
    · have hc : g.contains u = false := by simpa [Graph.mem_toList] using hg
      by_cases hf : u ∈ fresh.map Prod.fst
      · have hany : (fresh.any fun e => decide (e.1 = u)) = true := by simpa using hf
        by_cases ht : t = u
        · simp only [hany, Bool.or_true, if_true, ht, hf, true_or]
        · simp [hc, hany, ht]
      · have hany : (fresh.any fun e => decide (e.1 = u)) = false :=
          List.any_eq_false.mpr fun e he => by
            simpa using fun heq => hf (List.mem_map.mpr ⟨e, he, heq⟩)
        by_cases ht : t = u
        · simp [hc, hany, ht, hg]
        · simp [hc, hany, ht]

theorem fire_ok {state next : List (Triple × RuleId) × Nat}
    (h : fire functions s g state id = .ok next) :
    ∃ r, s.get? id = some r ∧ ∀ t, t ∈ next.1.map Prod.fst ↔
      t ∈ state.1.map Prod.fst ∨ r.Derives functions g t ∧ t ∉ g.toList := by
  simp only [fire] at h
  split at h
  · cases h
  · next r hr =>
    simp only [Except.bind_ok, Except.pure_ok] at h
    obtain ⟨fresh, hfold, rfl⟩ := h
    refine ⟨r, hr, fun t => ?_⟩
    refine (Except.foldlM_adds (P := fun fresh t => t ∈ fresh.map Prod.fst)
      (Q := fun b t => t ∈ r.head.map b.substitute ∧ t ∉ g.toList) ?_ hfold t).trans ?_
    · intro fresh b next hnext t
      simp only [Except.bind_ok, Except.mapError_ok, Except.pure_ok] at hnext
      obtain ⟨ts, hts, rfl⟩ := hnext
      rw [mem_collect, (Rule.instantiate_ok.mp hts).2]
    · simp only [Rule.Derives, List.mem_map]
      constructor
      · rintro (h | ⟨b, hb, ht, hg⟩)
        · exact .inl h
        · exact .inr ⟨⟨b, hb, ht⟩, hg⟩
      · rintro (h | ⟨⟨b, hb, ht⟩, hg⟩)
        · exact .inl h
        · exact .inr ⟨b, hb, ht, hg⟩

/-- A round knows all its rules and finds exactly what they derive that is new. -/
theorem derive_ok (h : derive functions s level g = .ok (fresh, n)) :
    ∀ t, t ∈ fresh.map Prod.fst ↔
      t ∉ g.toList ∧ ∃ r ∈ s.rules, r.id ∈ level ∧ r.Derives functions g t := by
  intro t
  refine (Except.foldlM_adds (P := fun state t => t ∈ state.1.map Prod.fst)
    (Q := fun id t => ∃ r, s.get? id = some r ∧ r.Derives functions g t ∧ t ∉ g.toList)
    ?_ h t).trans ?_
  · intro state id next hnext t
    obtain ⟨r, hr, hmem⟩ := fire_ok hnext
    rw [hmem t]
    simp [hr]
  · simp only [List.map_nil, List.not_mem_nil, false_or, RuleSet.get?_eq_some]
    constructor
    · rintro ⟨_, hlevel, r, ⟨hr, rfl⟩, hderives, hg⟩
      exact ⟨hg, r, hr, hlevel, hderives⟩
    · rintro ⟨hg, r, hr, hlevel, hderives⟩
      exact ⟨r.id, hlevel, r, ⟨hr, rfl⟩, hderives, hg⟩

theorem nodup_collect {derived : List Triple} (h : (fresh.map Prod.fst).Nodup) :
    ((collect g id fresh derived).map Prod.fst).Nodup := by
  induction derived generalizing fresh with
  | nil => exact h
  | cons t rest ih =>
    rw [collect_cons]
    refine ih ?_
    split
    · exact h
    · next hnew =>
      simp only [Bool.or_eq_true, not_or, List.any_eq_true, decide_eq_true_eq] at hnew
      rw [List.map_append, List.map_singleton, List.nodup_append]
      refine ⟨h, List.nodup_singleton t, ?_⟩
      rintro u hu v hv rfl
      obtain ⟨e, he, rfl⟩ := List.mem_map.mp hu
      exact hnew.2 ⟨e, he, List.mem_singleton.mp hv⟩

theorem nodup_derive (h : derive functions s level g = .ok (fresh, n)) :
    (fresh.map Prod.fst).Nodup := by
  refine Except.foldlM_keeps (motive := fun state => (state.1.map Prod.fst).Nodup) ?_ h .nil
  intro state id next hfire hstate
  simp only [fire] at hfire
  split at hfire
  · cases hfire
  · simp only [Except.bind_ok, Except.pure_ok] at hfire
    obtain ⟨fresh, hfold, rfl⟩ := hfire
    refine Except.foldlM_keeps (motive := fun fresh => (fresh.map Prod.fst).Nodup) ?_ hfold hstate
    intro fresh b next hnext hfresh
    simp only [Except.bind_ok, Except.pure_ok] at hnext
    obtain ⟨derived, -, rfl⟩ := hnext
    exact nodup_collect hfresh

def FirstDerives (functions : FunctionRegistry) (s : RuleSet) (level : List RuleId) (g : Graph)
    (t : Triple) (id : RuleId) : Prop :=
  ∃ before after, level = before ++ id :: after ∧
    (∃ r, s.get? id = some r ∧ r.Derives functions g t) ∧
    ∀ other ∈ before, ∀ r, s.get? other = some r → ¬ r.Derives functions g t

theorem collect_eq_append (g : Graph) (id : RuleId) (fresh : List (Triple × RuleId))
    (derived : List Triple) : ∃ added,
      collect g id fresh derived = fresh ++ added ∧ ∀ e ∈ added, e.2 = id := by
  induction derived generalizing fresh with
  | nil => exact ⟨[], (List.append_nil fresh).symm, by simp⟩
  | cons t rest ih =>
    rw [collect_cons]
    split
    · exact ih fresh
    · obtain ⟨added, hadded, hid⟩ := ih (fresh ++ [(t, id)])
      exact ⟨(t, id) :: added, by simp [hadded], List.forall_mem_cons.mpr ⟨rfl, hid⟩⟩

theorem fire_eq_append {state next : List (Triple × RuleId) × Nat}
    (h : fire functions s g state id = .ok next) :
    ∃ added, next.1 = state.1 ++ added ∧ ∀ e ∈ added, e.2 = id := by
  simp only [fire] at h
  split at h
  · cases h
  · simp only [Except.bind_ok, Except.pure_ok] at h
    obtain ⟨fresh, hfold, rfl⟩ := h
    refine Except.foldlM_keeps
      (motive := fun fresh => ∃ added, fresh = state.1 ++ added ∧ ∀ e ∈ added, e.2 = id)
      ?_ hfold ⟨[], (List.append_nil _).symm, by simp⟩
    intro earlier b next hnext hearlier
    obtain ⟨added, rfl, hid⟩ := hearlier
    simp only [Except.bind_ok, Except.pure_ok] at hnext
    obtain ⟨derived, -, rfl⟩ := hnext
    obtain ⟨more, hmore, hid'⟩ := collect_eq_append g id (state.1 ++ added) derived
    refine ⟨added ++ more, by rw [hmore, List.append_assoc], fun e he => ?_⟩
    exact (List.mem_append.mp he).elim (hid e) (hid' e)

theorem firstDerives_of_derive (h : derive functions s level g = .ok (fresh, n))
    (ht : (t, id) ∈ fresh) : FirstDerives functions s level g t id := by
  induction level using List.reverseRecOn generalizing fresh n with
  | nil =>
    obtain ⟨rfl, -⟩ := Prod.mk.inj (Except.ok.inj h)
    cases ht
  | append_singleton earlier last ih =>
    have hnodup := nodup_derive h
    have hnew : t ∉ g.toList := ((derive_ok h t).mp (List.mem_map_of_mem ht)).1
    simp only [derive, List.foldlM_append, List.foldlM_cons, List.foldlM_nil, Except.bind_ok,
      Except.pure_ok] at h
    obtain ⟨⟨state, k⟩, hearlier, _, hfire, rfl⟩ := h
    obtain ⟨added, hadded, hid⟩ := fire_eq_append hfire
    obtain rfl : fresh = state ++ added := hadded
    rcases List.mem_append.mp ht with hold | hlast
    · obtain ⟨before, after, rfl, hderives, hfirst⟩ := ih hearlier hold
      exact ⟨before, after ++ [last], by simp, hderives, hfirst⟩
    · obtain rfl : id = last := hid _ hlast
      -- no earlier rule derived it, or it would be there twice
      have hnot : t ∉ state.map Prod.fst := fun hmem =>
        (List.nodup_append.mp (List.map_append ▸ hnodup)).2.2 t hmem t
          (List.mem_map_of_mem hlast) rfl
      obtain ⟨r, hr, hmem⟩ := fire_ok hfire
      have hderives := ((hmem t).mp (List.mem_map_of_mem ht)).resolve_left hnot
      refine ⟨earlier, [], rfl, ⟨r, hr, hderives.1⟩, fun other hother q hq hderived => hnot ?_⟩
      obtain ⟨hrules, rfl⟩ := RuleSet.get?_eq_some.mp hq
      exact (derive_ok hearlier t).mpr ⟨hnew, q, hrules, hother, hderived⟩

theorem fire_isOk {state : List (Triple × RuleId) × Nat} :
    (∃ next, fire functions s g state id = .ok next) ↔
      ∃ r, s.get? id = some r ∧ ∀ t, r.Derives functions g t → t.isConcrete = true := by
  simp only [fire]
  split
  · next hnone => simp [hnone]
  · next r hr =>
    have hfold := Except.foldlM_isOk (l := r.solutions functions g) (s := state.1)
      (f := fun fresh b => do
        return collect g id fresh (← (r.instantiate b).mapError Failure.openHead))
      (Q := fun b => ∀ template ∈ r.head, (b.substitute template).isConcrete = true)
      fun b _ fresh => by
        simp only [Except.bind_ok, Except.mapError_ok, Except.pure_ok, Rule.instantiate_ok]
        constructor
        · rintro ⟨_, _, ⟨h, -⟩, -⟩
          exact h
        · intro h
          exact ⟨_, _, ⟨h, rfl⟩, rfl⟩
    have hderives : (∀ b ∈ r.solutions functions g,
        ∀ template ∈ r.head, (b.substitute template).isConcrete = true) ↔
          ∀ t, r.Derives functions g t → t.isConcrete = true := by
      constructor
      · rintro h t ⟨b, hb, template, htemplate, rfl⟩
        exact h b hb template htemplate
      · intro h b hb template htemplate
        exact h _ ⟨b, hb, template, htemplate, rfl⟩
    simp only [hr, Except.bind_ok, Except.pure_ok, Option.some.injEq, exists_eq_left', ← hderives,
      ← hfold]
    constructor
    · rintro ⟨_, fresh, hfresh, -⟩
      exact ⟨fresh, hfresh⟩
    · rintro ⟨fresh, hfresh⟩
      exact ⟨_, fresh, hfresh, rfl⟩

theorem derive_isOk : (∃ x, derive functions s level g = .ok x) ↔
    ∀ id ∈ level, ∃ r ∈ s.rules, r.id = id ∧ ∀ t, r.Derives functions g t → t.isConcrete = true := by
  have hfold := Except.foldlM_isOk (f := fire functions s g) (l := level) (s := ([], 0))
    fun id _ state => fire_isOk
  simp only [RuleSet.get?_eq_some, and_assoc] at hfold
  exact hfold

theorem derive_error {f : Failure} (hlevel : ∀ id ∈ level, id ∈ s.ids)
    (h : derive functions s level g = .error f) : ∃ e, f = .openHead e := by
  obtain ⟨id, hid, state, hfire⟩ := Except.foldlM_error h
  obtain ⟨r, hr, rfl⟩ := List.mem_map.mp (hlevel id hid)
  simp only [fire, RuleSet.get?_eq_some.mpr ⟨hr, rfl⟩, Except.bind_error, Except.pure_error,
    and_false, exists_false, or_false] at hfire
  obtain ⟨b, -, fresh, hb⟩ := Except.foldlM_error hfire
  simp only [Except.bind_error, Except.mapError_error, Except.pure_error, and_false, exists_false,
    or_false] at hb
  obtain ⟨e, -, rfl⟩ := hb
  exact ⟨e, rfl⟩

theorem isConcrete_of_derive (h : derive functions s level g = .ok (fresh, n)) :
    ∀ t ∈ fresh.map Prod.fst, t.isConcrete = true := by
  intro t ht
  obtain ⟨-, r, hr, hid, hderives⟩ := (derive_ok h t).mp ht
  obtain ⟨q, hq, heq, hconcrete⟩ := derive_isOk.mp ⟨_, h⟩ r.id hid
  obtain rfl := List.inj_on_of_nodup_map s.distinct hq hr heq
  exact hconcrete t hderives

theorem derive_of_closed (hlevel : ∀ id ∈ level, id ∈ s.ids)
    (h : ∀ r ∈ s.rules, r.id ∈ level → ∀ t, r.Derives functions g t → t ∈ g.toList) :
    ∃ n, derive functions s level g = .ok ([], n) := by
  have hok : ∃ x, derive functions s level g = .ok x := derive_isOk.mpr fun id hid => by
    obtain ⟨r, hr, rfl⟩ := List.mem_map.mp (hlevel id hid)
    exact ⟨r, hr, rfl, fun t ht => Graph.isConcrete_of_mem (h r hr hid t ht)⟩
  obtain ⟨⟨fresh, n⟩, hok⟩ := hok
  have hnil : fresh.map Prod.fst = [] := by
    rw [List.eq_nil_iff_forall_not_mem]
    intro t ht
    obtain ⟨hnot, r, hr, hid, hderives⟩ := (derive_ok hok t).mp ht
    exact hnot (h r hr hid t hderives)
  exact ⟨n, List.map_eq_nil_iff.mp hnil ▸ hok⟩

-- ---------------------------------------------------------------------------
-- All rounds
-- ---------------------------------------------------------------------------

variable {o next last : Overlay} {exhausted : Ending} {rounds : Nat}

def Advances (functions : FunctionRegistry) (s : RuleSet) (level : List RuleId)
    (o next : Overlay) : Prop :=
  ∃ fresh n m, derive functions s level o.toGraph = .ok (fresh, n) ∧
    o.extend (fresh.map Prod.fst) = .ok (next, m)

theorem Advances.mem (h : Advances functions s level o next) (t : Triple) :
    t ∈ next.toGraph.toList ↔ t ∈ o.toGraph.toList ∨
      ∃ r ∈ s.rules, r.id ∈ level ∧ r.Derives functions o.toGraph t := by
  obtain ⟨fresh, n, m, hderive, hextend⟩ := h
  rw [(Overlay.mem_extend hextend).2 t, derive_ok hderive t]
  by_cases ht : t ∈ o.toGraph.toList
  · simp [ht]
  · simp [ht]

theorem run_of_derive_error {f : Failure} (h : derive functions s level o.toGraph = .error f) :
    run functions s level exhausted (rounds + 1) o = ⟨[], .failed f⟩ := by
  simp [run, h]

theorem run_of_derive_nil (h : derive functions s level o.toGraph = .ok ([], n)) :
    run functions s level exhausted (rounds + 1) o =
      ⟨[⟨[], n, o.toGraph.size⟩], .settled o⟩ := by
  simp [run, h, Overlay.extend]

theorem run_of_derive {m : Nat} (h : derive functions s level o.toGraph = .ok (fresh, n))
    (hfresh : fresh ≠ []) (hextend : o.extend (fresh.map Prod.fst) = .ok (next, m)) :
    run functions s level exhausted (rounds + 1) o =
      ⟨⟨fresh, n, next.toGraph.size⟩ :: (run functions s level exhausted rounds next).rounds,
        (run functions s level exhausted rounds next).ending⟩ := by
  simp [run, h, hextend, hfresh]

/-- What a round makes of the run that it begins: it fails, it is the last one, or it
finds something new and others follow. -/
theorem run_cases (functions : FunctionRegistry) (s : RuleSet) (level : List RuleId)
    (exhausted : Ending) (rounds : Nat) (o : Overlay) :
    (∃ f, derive functions s level o.toGraph = .error f ∧
      run functions s level exhausted (rounds + 1) o = ⟨[], .failed f⟩) ∨
    (∃ n, derive functions s level o.toGraph = .ok ([], n) ∧
      run functions s level exhausted (rounds + 1) o =
        ⟨[⟨[], n, o.toGraph.size⟩], .settled o⟩) ∨
    ∃ fresh n next m, derive functions s level o.toGraph = .ok (fresh, n) ∧ fresh ≠ [] ∧
      o.extend (fresh.map Prod.fst) = .ok (next, m) ∧
      run functions s level exhausted (rounds + 1) o =
        ⟨⟨fresh, n, next.toGraph.size⟩ :: (run functions s level exhausted rounds next).rounds,
          (run functions s level exhausted rounds next).ending⟩ := by
  cases h : derive functions s level o.toGraph with
  | error f => exact .inl ⟨f, rfl, run_of_derive_error h⟩
  | ok found =>
    obtain ⟨fresh, n⟩ := found
    by_cases hfresh : fresh = []
    · subst hfresh
      exact .inr (.inl ⟨n, rfl, run_of_derive_nil h⟩)
    · obtain ⟨next, m, hextend⟩ := o.exists_extend (isConcrete_of_derive h)
      exact .inr (.inr ⟨fresh, n, next, m, rfl, hfresh, hextend, run_of_derive h hfresh hextend⟩)

theorem run_settled (hexhausted : ∀ o, exhausted ≠ .settled o)
    (h : (run functions s level exhausted rounds o).ending = .settled last) :
    Relation.ReflTransGen (Advances functions s level) o last ∧
      ∃ n, derive functions s level last.toGraph = .ok ([], n) := by
  induction rounds generalizing o with
  | zero => exact absurd h (hexhausted last)
  | succ rounds ih =>
    rcases run_cases functions s level exhausted rounds o with
      ⟨f, -, hrun⟩ | ⟨n, hderive, hrun⟩ | ⟨fresh, n, next, m, hderive, -, hextend, hrun⟩
    · rw [hrun] at h
      cases h
    · rw [hrun] at h
      obtain rfl := Ending.settled.inj h
      exact ⟨.refl, n, hderive⟩
    · rw [hrun] at h
      obtain ⟨hsteps, hlast⟩ := ih h
      exact ⟨.head ⟨fresh, n, m, hderive, hextend⟩ hsteps, hlast⟩

def Ceases (rounds : List Round) : Prop :=
  ∀ n r, rounds[n]? = some r → (r.fresh = [] ↔ n + 1 = rounds.length)

theorem ceases_cons {r : Round} {rest : List Round} (hr : r.fresh ≠ []) (hne : rest ≠ [])
    (h : Ceases rest) : Ceases (r :: rest) := by
  intro n q hq
  cases n with
  | zero =>
    obtain rfl := Option.some.inj hq
    simp [hr, hne]
  | succ n =>
    rw [h n q hq, List.length_cons]
    exact Nat.succ_inj.symm

theorem run_ceases (hexhausted : ∀ o, exhausted ≠ .settled o)
    (h : (run functions s level exhausted rounds o).ending = .settled last) :
    (run functions s level exhausted rounds o).rounds ≠ [] ∧
      Ceases (run functions s level exhausted rounds o).rounds := by
  induction rounds generalizing o with
  | zero => exact absurd h (hexhausted last)
  | succ rounds ih =>
    rcases run_cases functions s level exhausted rounds o with
      ⟨f, -, hrun⟩ | ⟨n, -, hrun⟩ | ⟨fresh, n, next, m, -, hfresh, -, hrun⟩
    · rw [hrun] at h
      cases h
    · rw [hrun]
      refine ⟨List.cons_ne_nil _ _, fun k r hr => ?_⟩
      obtain ⟨hk, rfl⟩ := List.getElem?_eq_some_iff.mp hr
      obtain rfl : k = 0 := Nat.lt_one_iff.mp hk
      simp
    · rw [hrun] at h ⊢
      obtain ⟨hne, hrest⟩ := ih h
      exact ⟨List.cons_ne_nil _ _, ceases_cons hfresh hne hrest⟩

theorem run_ending (hok : ∀ o : Overlay, ∃ x, derive functions s level o.toGraph = .ok x)
    (rounds : Nat) (o : Overlay) :
    (∃ last, (run functions s level exhausted rounds o).ending = .settled last) ∨
      (run functions s level exhausted rounds o).ending = exhausted := by
  induction rounds generalizing o with
  | zero => exact .inr rfl
  | succ rounds ih =>
    rcases run_cases functions s level exhausted rounds o with
      ⟨f, hderive, -⟩ | ⟨n, -, hrun⟩ | ⟨fresh, n, next, m, -, -, -, hrun⟩
    · obtain ⟨x, hx⟩ := hok o
      simp [hderive] at hx
    · exact .inl ⟨o, by rw [hrun]⟩
    · rw [hrun]
      exact ih next

end Saturation

end TripleRules
