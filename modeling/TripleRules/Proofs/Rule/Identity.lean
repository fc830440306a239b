import Mathlib.Data.List.Nodup
import TripleRules.Rule.RuleSet

/-!
# Identities of rules

A new rule takes the next number, a copy keeps the identity of its rule, and a rule set gives the
next numbers to rules whose identity occurs before in it. Whatever the history, all numbers so far
lie below the next one (`Rule.Issued.lt_next`), so the new numbers of a rule set are not those of
rules that come later in it, or of rules anywhere else. Its rules therefore have identities that
lead back to their positions (`RuleSet.ofRules_identifies`).
-/

namespace TripleRules

open RuleSet (renumber repeats firstFree nextFree ofRules)

/-- After some history, `next` is the number for the next identity and `rules` are the rules that
there have been. A running engine, whose counter is 64 bits wide, sees only the histories with
`next < 2 ^ 64`; nothing below depends on that bound. -/
inductive Rule.Issued : (next : Nat) → (rules : List Rule) → Prop
  | start : Issued 0 []
  | new {next : Nat} {rules : List Rule} (name : Option String) (head : List Triple)
      (body : List BodyElement) :
      Issued next rules → Issued (next + 1) (⟨⟨next⟩, name, head, body⟩ :: rules)
  /-- A copy may get another name. -/
  | copy {next : Nat} {rules : List Rule} {r : Rule} (name : Option String) :
      Issued next rules → r ∈ rules → Issued next ({ r with name := name } :: rules)
  | collect {next : Nat} {rules chosen : List Rule} (data : List Triple) :
      Issued next rules → (∀ r ∈ chosen, r ∈ rules) →
        Issued (nextFree next chosen) ((ofRules next chosen data).rules ++ rules)

namespace RuleSet

variable {next i : Nat} {seen : List RuleId} {rules : List Rule} {r : Rule}

-- ---------------------------------------------------------------------------
-- Renumbering
-- ---------------------------------------------------------------------------

/-- If all numbers lie below the next one, numbering goes on from there. In every history they do
(`Rule.Issued.lt_next`), so `ofRules` numbers as a plain counter does. -/
theorem firstFree_eq (h : ∀ r ∈ rules, r.id.number < next) : firstFree next rules = next := by
  induction rules with
  | nil => rfl
  | cons r rest ih =>
    rw [List.forall_mem_cons] at h
    have hmax : max next (r.id.number + 1) = next := Nat.max_eq_left h.1
    rw [firstFree, List.foldl_cons, hmax, ← firstFree, ih h.2]

theorem rules_ofRules (h : ∀ r ∈ rules, r.id.number < next) (data : List Triple) :
    (ofRules next rules data).rules = renumber next [] rules := by
  simp only [ofRules, firstFree_eq h]

theorem map_renumber : (renumber next seen rules).map (fun r => (r.name, r.head, r.body)) =
    rules.map fun r => (r.name, r.head, r.body) := by
  induction rules generalizing next seen with
  | nil => rfl
  | cons r rest ih =>
    rw [renumber]
    split
    · rw [List.map_cons, List.map_cons, ih]
    · rw [List.map_cons, List.map_cons, ih]

theorem getElem?_renumber_of_new (hr : rules[i]? = some r) (hseen : r.id ∉ seen)
    (hnew : r.id ∉ (rules.take i).map Rule.id) : (renumber next seen rules)[i]? = some r := by
  induction rules generalizing next seen i with
  | nil => cases hr
  | cons q rest ih =>
    cases i with
    | zero =>
      obtain rfl := Option.some.inj hr
      rw [renumber, if_neg hseen]
      rfl
    | succ i =>
      rw [List.take_succ_cons, List.map_cons, List.mem_cons, not_or] at hnew
      obtain ⟨hq, hrest⟩ := hnew
      rw [renumber]
      split
      · exact ih hr hseen hrest
      · exact ih hr (List.not_mem_cons_of_ne_of_not_mem hq hseen) hrest

/-- A rule with an identity that occurs before takes a number of its own, as far on as there are
such rules before it. -/
theorem getElem?_renumber_of_repeated (hr : rules[i]? = some r)
    (hrepeated : r.id ∈ seen ∨ r.id ∈ (rules.take i).map Rule.id) :
    (renumber next seen rules)[i]? =
      some { r with id := ⟨next + repeats seen (rules.take i)⟩ } := by
  induction rules generalizing next seen i with
  | nil => cases hr
  | cons q rest ih =>
    cases i with
    | zero =>
      obtain rfl := Option.some.inj hr
      have hseen : q.id ∈ seen := by simpa using hrepeated
      rw [renumber, if_pos hseen]
      rfl
    | succ i =>
      rw [List.take_succ_cons, List.map_cons, List.mem_cons] at hrepeated
      rw [renumber, List.take_succ_cons, repeats]
      split
      · next hq =>
        have hrest : r.id ∈ seen ∨ r.id ∈ (rest.take i).map Rule.id := by
          rcases hrepeated with hseen | heq | hrest
          · exact .inl hseen
          · exact .inl (heq ▸ hq)
          · exact .inr hrest
        rw [List.getElem?_cons_succ, ih hr hrest, Nat.add_right_comm, Nat.add_assoc]
      · have hrest : r.id ∈ q.id :: seen ∨ r.id ∈ (rest.take i).map Rule.id := by
          rcases hrepeated with hseen | heq | hrest
          · exact .inl (List.mem_cons_of_mem _ hseen)
          · exact .inl (heq ▸ List.mem_cons_self)
          · exact .inr hrest
        rw [List.getElem?_cons_succ, ih hr hrest]

theorem lt_of_mem_renumber (h : ∀ r ∈ rules, r.id.number < next)
    (hr : r ∈ renumber next seen rules) : r.id.number < next + repeats seen rules := by
  induction rules generalizing next seen with
  | nil => cases hr
  | cons q rest ih =>
    rw [List.forall_mem_cons] at h
    obtain ⟨hq, hrest⟩ := h
    rw [renumber] at hr
    rw [repeats]
    split at hr
    · next hseen =>
      rw [if_pos hseen]
      rcases List.mem_cons.mp hr with rfl | hr
      · exact Nat.lt_add_of_pos_right (Nat.succ_pos _)
      · have := ih (fun r hr => Nat.lt_succ_of_lt (hrest r hr)) hr
        omega
    · next hseen =>
      rw [if_neg hseen]
      rcases List.mem_cons.mp hr with rfl | hr
      · exact Nat.lt_add_right _ hq
      · exact ih hrest hr

-- ---------------------------------------------------------------------------
-- Looking up
-- ---------------------------------------------------------------------------

variable {s : RuleSet} {id : RuleId}

theorem position?_eq_some : s.position? id = some i ↔ s.ids[i]? = some id := by
  rw [position?, List.findIdx?_eq_some_iff_getElem]
  constructor
  · rintro ⟨hi, hid, -⟩
    rw [List.getElem?_eq_getElem hi, of_decide_eq_true hid]
  · intro h
    obtain ⟨hi, rfl⟩ := List.getElem?_eq_some_iff.mp h
    refine ⟨hi, decide_eq_true rfl, fun j hj heq => ?_⟩
    exact Nat.ne_of_lt hj (s.distinct.getElem_inj_iff.mp (of_decide_eq_true heq))

theorem get?_eq_some : s.get? id = some r ↔ r ∈ s.rules ∧ r.id = id := by
  constructor
  · intro h
    exact ⟨List.mem_of_find?_eq_some h, by simpa using List.find?_some h⟩
  · rintro ⟨hr, rfl⟩
    cases hget : s.get? r.id with
    | none => simpa using List.find?_eq_none.mp hget r hr
    | some q =>
      have hid : q.id = r.id := by simpa using List.find?_some hget
      rw [List.inj_on_of_nodup_map s.distinct (List.mem_of_find?_eq_some hget) hr hid]

theorem lookup_iff :
    (s.position? id = some i ↔ ∃ r, s.rules[i]? = some r ∧ r.id = id) ∧
      (s.get? id = some r ↔ ∃ i : Nat, s.rules[i]? = some r ∧ r.id = id) := by
  rw [position?_eq_some, ids, List.getElem?_map, Option.map_eq_some_iff, get?_eq_some,
    List.mem_iff_getElem?, exists_and_right]
  exact ⟨Iff.rfl, Iff.rfl⟩

end RuleSet

-- ---------------------------------------------------------------------------
-- Histories
-- ---------------------------------------------------------------------------

theorem Rule.Issued.lt_next {next : Nat} {rules : List Rule} (h : Issued next rules) :
    ∀ r ∈ rules, r.id.number < next := by
  induction h with
  | start => simp
  | new name head body _ ih =>
    rw [List.forall_mem_cons]
    exact ⟨Nat.lt_succ_self _, fun r hr => Nat.lt_succ_of_lt (ih r hr)⟩
  | @copy next rules r name _ hr ih =>
    rw [List.forall_mem_cons]
    exact ⟨ih r hr, ih⟩
  | @collect next rules chosen data _ hchosen ih =>
    have hlt : ∀ r ∈ chosen, r.id.number < next := fun r hr => ih r (hchosen r hr)
    rw [List.forall_mem_append, nextFree, RuleSet.firstFree_eq hlt]
    refine ⟨fun r hr => ?_, fun r hr => Nat.lt_add_right _ (ih r hr)⟩
    rw [RuleSet.rules_ofRules hlt data] at hr
    exact RuleSet.lt_of_mem_renumber hlt hr

/-- A rule set of rules that there have been lists them in their order, with their names, heads and
bodies, under identities of their own. The first rule of an identity keeps it, and each later one
takes the next number, which no rule has had. An identity leads to the position and the rule that
have it, and to nothing else. -/
theorem RuleSet.ofRules_identifies {next : Nat} {issued chosen : List Rule}
    (h : Rule.Issued next issued) (hchosen : ∀ r ∈ chosen, r ∈ issued) (data : List Triple) :
    (ofRules next chosen data).size = chosen.length ∧
    (ofRules next chosen data).rules.map (fun r => (r.name, r.head, r.body)) =
      chosen.map (fun r => (r.name, r.head, r.body)) ∧
    (ofRules next chosen data).ids.Nodup ∧
    (∀ i r, chosen[i]? = some r → r.id ∉ (chosen.take i).map Rule.id →
      (ofRules next chosen data).rules[i]? = some r) ∧
    (∀ i r, chosen[i]? = some r → r.id ∈ (chosen.take i).map Rule.id →
      ∃ id : RuleId, id.number = next + repeats [] (chosen.take i) ∧
        (∀ q ∈ issued, id ≠ q.id) ∧
        (ofRules next chosen data).rules[i]? = some { r with id := id }) ∧
    ∀ (id : RuleId) (i : Nat) (r : Rule),
      ((ofRules next chosen data).position? id = some i ↔
        ∃ r, (ofRules next chosen data).rules[i]? = some r ∧ r.id = id) ∧
      ((ofRules next chosen data).get? id = some r ↔
        ∃ i : Nat, (ofRules next chosen data).rules[i]? = some r ∧ r.id = id) := by
  have hlt : ∀ r ∈ chosen, r.id.number < next := fun r hr => h.lt_next r (hchosen r hr)
  have hrules := rules_ofRules hlt data
  have hforms : (ofRules next chosen data).rules.map (fun r => (r.name, r.head, r.body)) =
      chosen.map fun r => (r.name, r.head, r.body) := hrules ▸ map_renumber
  refine ⟨?_, hforms, (ofRules next chosen data).distinct, fun i r hr hnew => ?_,
    fun i r hr hrepeated => ?_, fun _ _ _ => lookup_iff⟩
  · have hlength := congrArg List.length hforms
    rwa [List.length_map, List.length_map] at hlength
  · rw [hrules]
    exact getElem?_renumber_of_new hr List.not_mem_nil hnew
  · refine ⟨⟨next + repeats [] (chosen.take i)⟩, rfl, fun q hq heq => ?_, ?_⟩
    · have hq' := h.lt_next q hq
      rw [← heq] at hq'
      exact Nat.not_lt_of_le (Nat.le_add_right next _) hq'
    · rw [hrules]
      exact getElem?_renumber_of_repeated hr (.inr hrepeated)

/-- Two rules, a set with the first of them twice, and then a set with the copy that this made. -/
theorem RuleSet.ofRules_identifies_copies :
    let a : Rule := ⟨⟨0⟩, some "a", [], [.negation []]⟩
    let b : Rule := ⟨⟨1⟩, none, [], []⟩
    let c : Rule := { a with id := ⟨2⟩ }
    let issued := (ofRules 2 [a, b, a] []).rules ++ [b, a]
    let s := ofRules 3 [c, a, c, b, a] []
    Rule.Issued 3 issued ∧ (∀ r ∈ [c, a, c, b, a], r ∈ issued) ∧
      s.ids = [⟨2⟩, ⟨0⟩, ⟨3⟩, ⟨1⟩, ⟨4⟩] ∧ s.ids.Nodup ∧ s.rules[3]? = some b ∧
      (∃ id : RuleId, id.number = 4 ∧ (∀ q ∈ issued, id ≠ q.id) ∧
        s.rules[4]? = some { a with id := id }) ∧
      (s.position? ⟨3⟩ = some 2 ↔ ∃ r, s.rules[2]? = some r ∧ r.id = ⟨3⟩) := by
  intro a b c issued s
  have hmade : Rule.Issued 2 [b, a] := .new none [] [] (.new (some "a") [] [.negation []] .start)
  have hknown : ∀ r ∈ [a, b, a], r ∈ [b, a] := by simp
  have hissued : Rule.Issued 3 issued := .collect [] hmade hknown
  have hrules : (ofRules 2 [a, b, a] []).rules = [a, b, c] := rfl
  have hchosen : ∀ r ∈ [c, a, c, b, a], r ∈ issued := by simp [issued, hrules]
  obtain ⟨-, -, hnodup, hfirst, hrepeated, hlookup⟩ := ofRules_identifies hissued hchosen []
  exact ⟨hissued, hchosen, rfl, hnodup, hfirst 3 b rfl (by decide), hrepeated 4 a rfl (by decide),
    (hlookup ⟨3⟩ 2 a).1⟩

end TripleRules
