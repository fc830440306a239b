import TripleRules.Rule.Basic

/-!
# Rule sets

A rule set lists rules in the order of their declaration, with triples that hold
from the start. Its rules have distinct identities: a rule that comes with the
identity of an earlier one gets a new number, which no rule had before.
-/

namespace TripleRules

structure RuleSet where
  rules : List Rule
  data : List Triple
  distinct : (rules.map Rule.id).Nodup

namespace RuleSet

/-- Give the next numbers to rules whose identity has been seen; `seen` lists the
identities so far. -/
def renumber (next : Nat) (seen : List RuleId) : List Rule → List Rule
  | [] => []
  | r :: rest =>
    if r.id ∈ seen then { r with id := ⟨next⟩ } :: renumber (next + 1) seen rest
    else r :: renumber next (r.id :: seen) rest

def repeats (seen : List RuleId) : List Rule → Nat
  | [] => 0
  | r :: rest => if r.id ∈ seen then repeats seen rest + 1 else repeats (r.id :: seen) rest

/-- The first number from `next` on that lies above every identity of some rules. -/
def firstFree (next : Nat) (rules : List Rule) : Nat :=
  rules.foldl (fun n r => max n (r.id.number + 1)) next

theorem lt_firstFree {next : Nat} {rules : List Rule} :
    next ≤ firstFree next rules ∧ ∀ r ∈ rules, r.id.number < firstFree next rules := by
  induction rules generalizing next with
  | nil => simp [firstFree]
  | cons r rest ih =>
    obtain ⟨above, all⟩ := @ih (max next (r.id.number + 1))
    have fold : firstFree next (r :: rest) = firstFree (max next (r.id.number + 1)) rest := rfl
    rw [fold]
    refine ⟨by omega, fun s hs => ?_⟩
    rcases List.mem_cons.1 hs with rfl | hs
    · omega
    · exact all s hs

/-- A renumbered rule has a number from `next` on, or it keeps an identity that was not seen. -/
theorem id_of_mem_renumber {next : Nat} {seen : List RuleId} {rules : List Rule} {id : RuleId}
    (h : id ∈ (renumber next seen rules).map Rule.id) :
    next ≤ id.number ∨ (id ∉ seen ∧ id ∈ rules.map Rule.id) := by
  induction rules generalizing next seen with
  | nil => simp [renumber] at h
  | cons r rest ih =>
    simp only [renumber] at h
    split at h
    · rcases List.mem_cons.1 h with rfl | h
      · exact .inl (Nat.le_refl _)
      · rcases ih h with h | ⟨notSeen, mem⟩
        · exact .inl (by omega)
        · exact .inr ⟨notSeen, List.mem_cons_of_mem _ mem⟩
    · next fresh =>
      rcases List.mem_cons.1 h with rfl | h
      · exact .inr ⟨fresh, by simp⟩
      · rcases ih h with h | ⟨notSeen, mem⟩
        · exact .inl h
        · exact .inr ⟨fun hs => notSeen (List.mem_cons_of_mem _ hs), List.mem_cons_of_mem _ mem⟩

theorem nodup_renumber {next : Nat} {seen : List RuleId} {rules : List Rule}
    (free : ∀ r ∈ rules, r.id.number < next) :
    ((renumber next seen rules).map Rule.id).Nodup := by
  induction rules generalizing next seen with
  | nil => simp [renumber]
  | cons r rest ih =>
    have below : ∀ s ∈ rest, s.id.number < next := fun s hs => free s (List.mem_cons_of_mem _ hs)
    simp only [renumber]
    split
    · refine List.nodup_cons.2 ⟨fun h => ?_, ih fun s hs => Nat.lt_succ_of_lt (below s hs)⟩
      rcases id_of_mem_renumber h with h | ⟨_, mem⟩
      · simp only at h
        omega
      · obtain ⟨s, hs, eq⟩ := List.mem_map.1 mem
        have := below s hs
        simp only [eq] at this
        omega
    · refine List.nodup_cons.2 ⟨fun h => ?_, ih below⟩
      rcases id_of_mem_renumber h with h | ⟨notSeen, _⟩
      · have := free r List.mem_cons_self
        omega
      · exact notSeen List.mem_cons_self

/-- The rule set of some rules and data, where `next` is the counter of identities. `firstFree` is a
guard that a running engine does not have and does not need: on every history in which rules get
their numbers from the counter it is the counter itself (`RuleSet.firstFree_eq`). With it no two
rules share an identity whatever rules are given, as `distinct` says. -/
def ofRules (next : Nat) (rules : List Rule) (data : List Triple) : RuleSet where
  rules := renumber (firstFree next rules) [] rules
  data := data
  distinct := nodup_renumber fun r hr => lt_firstFree.2 r hr

def nextFree (next : Nat) (rules : List Rule) : Nat :=
  firstFree next rules + repeats [] rules

def ids (s : RuleSet) : List RuleId := s.rules.map Rule.id

def size (s : RuleSet) : Nat := s.rules.length

def get? (s : RuleSet) (id : RuleId) : Option Rule := s.rules.find? (·.id = id)

def position? (s : RuleSet) (id : RuleId) : Option Nat := s.ids.findIdx? (· = id)

/-- The name or identity of a rule; an identity that is not in the set stands for itself. -/
def label (s : RuleSet) (id : RuleId) : String := ((s.get? id).map Rule.label).getD id.display

end RuleSet

end TripleRules
