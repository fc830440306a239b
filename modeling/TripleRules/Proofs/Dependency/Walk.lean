import TripleRules.Proofs.Dependency.Reach

/-!
# Walks and their weights

A walk follows edges; its weight is the number of negative ones. Where no cycle
passes through a negative edge, every walk can be cut down to one that meets no
rule twice and has the same weight (`Walk.simple`).
-/

namespace TripleRules

def Sign.weight : Sign → Nat
  | .positive => 0
  | .negative => 1

/-- `Walk edges p visited w q`: edges lead from `p` to `q`, by way of the rules in
`visited` before `q`, and `w` of the edges are negative. -/
inductive Walk (edges : List Edge) : RuleId → List RuleId → Nat → RuleId → Prop
  | nil (p : RuleId) : Walk edges p [] 0 p
  | cons {e : Edge} {visited : List RuleId} {w : Nat} {q : RuleId} :
      e ∈ edges → Walk edges e.provider visited w q →
      Walk edges e.rule (e.rule :: visited) (w + e.sign.weight) q

namespace Walk

variable {edges : List Edge} {p q r : RuleId} {visited : List RuleId} {w : Nat} {s : RuleSet}

theorem reaches (h : Walk (DependencyGraph.ofRules s).edges p visited w q) :
    (DependencyGraph.ofRules s).Reaches p q := by
  induction h with
  | nil p => exact .refl p
  | cons he _ ih => exact (DependencyGraph.depends_of_mem_edges he).reaches.trans ih

theorem visited_mem (h : Walk edges p visited w q) : ∀ a ∈ visited, ∃ e ∈ edges, e.rule = a := by
  induction h with
  | nil => simp
  | cons he _ ih =>
    intro a ha
    rcases List.mem_cons.mp ha with rfl | ha
    · exact ⟨_, he, rfl⟩
    · exact ih a ha

theorem split (h : Walk edges p visited w q) (hr : r ∈ visited ++ [q]) :
    ∃ before after v u, Walk edges p before v r ∧ Walk edges r after u q ∧
      visited = before ++ after ∧ w = v + u := by
  induction h with
  | nil p =>
    obtain rfl := List.mem_singleton.mp hr
    exact ⟨[], [], 0, 0, .nil r, .nil r, rfl, rfl⟩
  | @cons e visited w q he hw ih =>
    by_cases heq : r = e.rule
    · subst heq
      exact ⟨[], e.rule :: visited, 0, w + e.sign.weight, .nil _, .cons he hw, rfl, by omega⟩
    · have hr : r ∈ visited ++ [q] := by simpa [heq] using hr
      obtain ⟨before, after, v, u, hb, ha, rfl, rfl⟩ := ih hr
      exact ⟨e.rule :: before, after, v + e.sign.weight, u, .cons he hb, ha, rfl, by omega⟩

theorem exists_negative (h : Walk (DependencyGraph.ofRules s).edges p visited w q) (hw : 0 < w) :
    ∃ e ∈ (DependencyGraph.ofRules s).edges, e.sign = .negative ∧
      (DependencyGraph.ofRules s).Reaches p e.rule ∧
      (DependencyGraph.ofRules s).Reaches e.provider q := by
  induction h with
  | nil => omega
  | @cons e visited w q he hrest ih =>
    cases hsign : e.sign with
    | negative => exact ⟨e, he, hsign, .refl _, hrest.reaches⟩
    | positive =>
      obtain ⟨d, hd, hneg, hto, hfrom⟩ := ih (by simpa [hsign, Sign.weight] using hw)
      exact ⟨d, hd, hneg, (DependencyGraph.depends_of_mem_edges he).reaches.trans hto, hfrom⟩

theorem weight_eq_zero (hcycle : ¬ (DependencyGraph.ofRules s).HasNegativeCycle)
    (h : Walk (DependencyGraph.ofRules s).edges p visited w p) : w = 0 := by
  by_contra hw
  obtain ⟨e, he, hneg, hto, hfrom⟩ := h.exists_negative (Nat.pos_of_ne_zero hw)
  refine hcycle ⟨e.rule, e.provider, ?_, hfrom.trans hto⟩
  rwa [← hneg]

/-- Then every walk can be replaced by one of the same weight that meets no rule twice. -/
theorem simple (hcycle : ¬ (DependencyGraph.ofRules s).HasNegativeCycle)
    (h : Walk (DependencyGraph.ofRules s).edges p visited w q) :
    ∃ short, Walk (DependencyGraph.ofRules s).edges p short w q ∧ (short ++ [q]).Nodup := by
  induction h with
  | nil p => exact ⟨[], .nil p, by simp⟩
  | @cons e visited w q he hrest ih =>
    obtain ⟨short, hshort, hnodup⟩ := ih
    by_cases hmem : e.rule ∈ short ++ [q]
    · -- the walk comes back to its first rule: drop the round, which weighs nothing
      obtain ⟨before, after, v, u, hround, htail, rfl, rfl⟩ := hshort.split hmem
      have hzero := weight_eq_zero hcycle (.cons he hround)
      obtain ⟨rfl, hsign⟩ : v = 0 ∧ e.sign.weight = 0 := by omega
      rw [List.append_assoc] at hnodup
      refine ⟨after, ?_, (List.nodup_append.mp hnodup).2.1⟩
      rwa [hsign, Nat.zero_add, Nat.add_zero]
    · exact ⟨e.rule :: short, .cons he hshort, List.nodup_cons.mpr ⟨hmem, hnodup⟩⟩

end Walk

end TripleRules
