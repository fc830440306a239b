import Mathlib.Data.List.Basic
import Mathlib.Data.List.Perm.Subperm
import TripleRules.Dependency.Component
import TripleRules.Proofs.Dependency.Reach
import TripleRules.Proofs.Dictionary

/-!
# The depth-first pass finds the components

`Traversal.Sound` is what holds between any two steps of the pass while the
rules of `path` are being visited, the innermost one first. A visit keeps it
(`visit_visited`), so a finished pass has sorted all rules it entered into
groups, and two rules share a group exactly when each reaches the other
(`same_iff`).
-/

namespace TripleRules

variable {g : DependencyGraph} {path : List RuleId} {t s : Traversal} {id next a b : RuleId}

namespace Traversal

-- ---------------------------------------------------------------------------
-- Steps and what they leave alone
-- ---------------------------------------------------------------------------

def Keeps (t s : Traversal) : Prop :=
  ∀ a n, t.numbers.lookup a = some n → s.numbers.lookup a = some n

theorem Keeps.trans {u : Traversal} (h : Keeps t s) (k : Keeps s u) : Keeps t u :=
  fun a n ha => k a n (h a n ha)

theorem Keeps.entered (h : Keeps t s) (ha : t.hasEntered a = true) : s.hasEntered a = true := by
  obtain ⟨n, hn⟩ := Option.isSome_iff_exists.mp ha
  simp [hasEntered, h a n hn]

theorem Keeps.number (h : Keeps t s) (ha : t.hasEntered a = true) : s.number a = t.number a := by
  obtain ⟨n, hn⟩ := Option.isSome_iff_exists.mp ha
  simp [Traversal.number, hn, h a n hn]

theorem lookup_enter :
    (t.enter id).numbers.lookup a =
      if a = id then some t.numbers.length else t.numbers.lookup a :=
  lookup_cons_eq_ite

theorem hasEntered_enter :
    (t.enter id).hasEntered a = true ↔ a = id ∨ t.hasEntered a = true := by
  by_cases h : a = id <;> simp [hasEntered, lookup_enter, h]

theorem number_enter_self : (t.enter id).number id = t.numbers.length := by
  simp [number, lookup_enter]

theorem number_enter_of_ne (h : a ≠ id) : (t.enter id).number a = t.number a := by
  simp [number, lookup_enter, h]

theorem low_enter_self : (t.enter id).low id = t.numbers.length := by
  simp [low, enter]

theorem low_enter_of_ne (h : a ≠ id) : (t.enter id).low a = t.low a := by
  simp [low, enter, lookup_cons_eq_ite, h]

theorem low_lower_self {n : Nat} : (t.lower id n).low id = min (t.low id) n := by
  simp [low, lower]

theorem low_lower_of_ne {n : Nat} (h : a ≠ id) : (t.lower id n).low a = t.low a := by
  simp [low, lower, lookup_cons_eq_ite, h]

theorem ne_of_entered (ha : t.hasEntered a = true) (hn : t.hasEntered id ≠ true) : a ≠ id :=
  fun heq => hn (heq ▸ ha)

theorem keeps_enter (hn : t.hasEntered id ≠ true) : Keeps t (t.enter id) := by
  intro a n h
  have : a ≠ id := fun heq => hn (by simp [hasEntered, ← heq, h])
  simpa [lookup_enter, this] using h

-- ---------------------------------------------------------------------------
-- The invariant
-- ---------------------------------------------------------------------------

/-- What holds while the rules of `path` are being visited. -/
structure Sound (g : DependencyGraph) (path : List RuleId) (t : Traversal) : Prop where
  number_lt : ∀ a, t.hasEntered a = true → t.number a < t.numbers.length
  waiting_entered : ∀ a ∈ t.waiting, t.hasEntered a = true
  descending : t.waiting.Pairwise fun a b => t.number b < t.number a
  path_waits : ∀ p ∈ path, p ∈ t.waiting
  /-- A waiting rule leads back to a rule being visited that waits no higher. -/
  leads_back : ∀ a ∈ t.waiting, ∃ p ∈ path, t.number p ≤ t.number a ∧ g.Reaches a p
  /-- A rule being visited leads to everything that waits above it. -/
  leads_on : ∀ p ∈ path, ∀ a ∈ t.waiting, t.number p ≤ t.number a → g.Reaches p a
  followed : ∀ a, t.hasEntered a = true → a ∉ path → ∀ b ∈ g.successors a, t.hasEntered b = true
  grouped : ∀ a, t.hasEntered a = true → a ∈ t.waiting ∨ ∃ c ∈ t.components, a ∈ c
  apart : ∀ c ∈ t.components, ∀ a ∈ c, t.hasEntered a = true ∧ a ∉ t.waiting
  group_iff : ∀ c ∈ t.components, ∀ a ∈ c, ∀ b, b ∈ c ↔ g.Reaches a b ∧ g.Reaches b a
  group_nodup : ∀ c ∈ t.components, c.Nodup
  group_closed : ∀ c ∈ t.components, ∀ a ∈ c, ∀ b ∈ g.successors a, b ∉ t.waiting

theorem sound_start : Sound g [] start := by
  constructor <;> simp [start, hasEntered]

theorem Sound.reaches_grouped (h : Sound g path t) (hr : g.Reaches a b)
    (ha : ∃ c ∈ t.components, a ∈ c) : ∃ c ∈ t.components, b ∈ c := by
  induction hr with
  | refl => exact ha
  | tail _ hd ih =>
    obtain ⟨c, hc, hm⟩ := ih
    obtain ⟨he, hw⟩ := h.apart c hc _ hm
    have hp := fun hp => hw (h.path_waits _ hp)
    exact (h.grouped _ (h.followed _ he hp _ hd)).resolve_left (h.group_closed c hc _ hm _ hd)

theorem Sound.lower {n : Nat} (h : Sound g path t) : Sound g path (t.lower id n) :=
  ⟨h.number_lt, h.waiting_entered, h.descending, h.path_waits, h.leads_back, h.leads_on,
    h.followed, h.grouped, h.apart, h.group_iff, h.group_nodup, h.group_closed⟩

theorem Sound.enter (h : Sound g path t) (hn : t.hasEntered id ≠ true)
    (hr : ∀ p ∈ path, g.Reaches p id) : Sound g (id :: path) (t.enter id) := by
  have hne : ∀ {a}, t.hasEntered a = true → a ≠ id := fun ha => ne_of_entered ha hn
  have hnum : ∀ {a}, t.hasEntered a = true → (t.enter id).number a = t.number a :=
    fun ha => number_enter_of_ne (hne ha)
  have hw : (t.enter id).waiting = id :: t.waiting := rfl
  have hc : (t.enter id).components = t.components := rfl
  constructor
  case number_lt =>
    intro a ha
    show (t.enter id).number a < t.numbers.length + 1
    rcases hasEntered_enter.mp ha with rfl | ha
    · simp [number_enter_self]
    · rw [hnum ha]
      have := h.number_lt a ha
      omega
  case waiting_entered =>
    intro a ha
    rw [hw] at ha
    exact hasEntered_enter.mpr ((List.mem_cons.mp ha).imp_right (h.waiting_entered a))
  case descending =>
    rw [hw, List.pairwise_cons]
    refine ⟨fun a ha => ?_, h.descending.imp_of_mem fun ha hb hlt => ?_⟩
    · rw [number_enter_self, hnum (h.waiting_entered a ha)]
      exact h.number_lt a (h.waiting_entered a ha)
    · rwa [hnum (h.waiting_entered _ ha), hnum (h.waiting_entered _ hb)]
  case path_waits =>
    intro p hp
    rw [hw]
    exact List.mem_cons.mpr ((List.mem_cons.mp hp).imp_right (h.path_waits p))
  case leads_back =>
    intro a ha
    rw [hw] at ha
    rcases List.mem_cons.mp ha with rfl | ha
    · exact ⟨a, List.mem_cons_self, Nat.le_refl _, .refl a⟩
    · obtain ⟨p, hp, hle, hpr⟩ := h.leads_back a ha
      refine ⟨p, List.mem_cons_of_mem _ hp, ?_, hpr⟩
      rwa [hnum (h.waiting_entered a ha), hnum (h.waiting_entered p (h.path_waits p hp))]
  case leads_on =>
    intro p hp a ha hle
    rw [hw] at ha
    rcases List.mem_cons.mp hp with rfl | hpath <;> rcases List.mem_cons.mp ha with rfl | ha
    · exact .refl a
    · rw [number_enter_self, hnum (h.waiting_entered a ha)] at hle
      have := h.number_lt a (h.waiting_entered a ha)
      omega
    · exact hr p hpath
    · rw [hnum (h.waiting_entered a ha),
        hnum (h.waiting_entered p (h.path_waits p hpath))] at hle
      exact h.leads_on p hpath a ha hle
  case followed =>
    intro a ha hp b hb
    obtain ⟨hne, hp⟩ := not_or.mp (mt List.mem_cons.mpr hp)
    exact hasEntered_enter.mpr
      (.inr (h.followed a ((hasEntered_enter.mp ha).resolve_left hne) hp b hb))
  case grouped =>
    intro a ha
    rw [hw, hc]
    rcases hasEntered_enter.mp ha with rfl | ha
    · exact .inl List.mem_cons_self
    · exact (h.grouped a ha).imp_left (List.mem_cons_of_mem _)
  case apart =>
    intro c hcm a ha
    obtain ⟨he, hnw⟩ := h.apart c hcm a ha
    rw [hw]
    exact ⟨hasEntered_enter.mpr (.inr he), List.not_mem_cons_of_ne_of_not_mem (hne he) hnw⟩
  case group_iff => exact h.group_iff
  case group_nodup => exact h.group_nodup
  case group_closed =>
    intro c hcm a ha b hb
    obtain ⟨he, hnw⟩ := h.apart c hcm a ha
    have heb := h.followed a he (fun hp => hnw (h.path_waits a hp)) b hb
    rw [hw]
    exact List.not_mem_cons_of_ne_of_not_mem (hne heb) (h.group_closed c hcm a ha b hb)

-- ---------------------------------------------------------------------------
-- One visit
-- ---------------------------------------------------------------------------

/-- Where the visit of a rule stands once the dependencies in `done` have been followed.
The visit began at `t`. -/
structure Visiting (g : DependencyGraph) (path : List RuleId) (id : RuleId) (done : List RuleId)
    (t s : Traversal) : Prop where
  sound : Sound g (id :: path) s
  keeps : Keeps (t.enter id) s
  low_keeps : ∀ a, t.hasEntered a = true → s.low a = t.low a
  /-- What waits above the rule leads no lower than the rule is known to reach. -/
  waiting : ∃ new, s.waiting = new ++ id :: t.waiting ∧
    ∀ a ∈ new, ∀ b ∈ g.successors a, b ∈ t.waiting → s.low id ≤ s.number b
  followed : ∀ b ∈ done, s.hasEntered b = true ∧ (b ∈ t.waiting → s.low id ≤ s.number b)
  low_le : s.low id ≤ s.number id
  reached : ∃ z ∈ s.waiting, s.number z = s.low id ∧ g.Reaches id z

structure Visited (g : DependencyGraph) (path : List RuleId) (id : RuleId) (t s : Traversal) :
    Prop where
  sound : Sound g path s
  keeps : Keeps (t.enter id) s
  low_keeps : ∀ a, t.hasEntered a = true → s.low a = t.low a
  waiting : ∃ new, s.waiting = new ++ t.waiting ∧
    ∀ a ∈ new, ∀ b ∈ g.successors a, b ∈ t.waiting → s.low id ≤ s.number b
  reached : ∃ z, s.number z = s.low id ∧ g.Reaches id z ∧ (z = id ∨ z ∈ s.waiting)

theorem number_of_keeps_enter (h : Keeps (t.enter id) s) : s.number id = t.numbers.length := by
  rw [h.number (hasEntered_enter.mpr (.inl rfl)), number_enter_self]

theorem visiting_enter (h : Sound g path t) (hn : t.hasEntered id ≠ true)
    (hr : ∀ p ∈ path, g.Reaches p id) : Visiting g path id [] t (t.enter id) where
  sound := h.enter hn hr
  keeps := fun _ _ ha => ha
  low_keeps a ha := low_enter_of_ne (ne_of_entered ha hn)
  waiting := ⟨[], rfl, by simp⟩
  followed := by simp
  low_le := by simp [low_enter_self, number_enter_self]
  reached := ⟨id, List.mem_cons_self, by simp [low_enter_self, number_enter_self], .refl id⟩

section
variable {done new : List RuleId}

theorem Sound.number_waiting (h : Sound g path s) {old : List RuleId}
    (hw : s.waiting = new ++ id :: old) :
    (∀ a ∈ new, s.number id < s.number a) ∧ ∀ a ∈ old, s.number a < s.number id := by
  have hd := h.descending
  rw [hw, List.pairwise_append, List.pairwise_cons] at hd
  exact ⟨fun a ha => hd.2.2 a ha id List.mem_cons_self, hd.2.1.1⟩

theorem Visiting.lower {n : Nat} (h : Visiting g path id done t s) (hn : t.hasEntered id ≠ true)
    (hz : n < s.low id → ∃ z ∈ s.waiting, s.number z = n ∧ g.Reaches id z) :
    Visiting g path id done t (s.lower id n) := by
  have hle : (s.lower id n).low id ≤ s.low id := by
    rw [low_lower_self]
    exact Nat.min_le_left _ _
  obtain ⟨new, hw, hnew⟩ := h.waiting
  constructor
  case sound => exact h.sound.lower
  case keeps => exact h.keeps
  case low_keeps =>
    intro a ha
    rw [low_lower_of_ne (ne_of_entered ha hn)]
    exact h.low_keeps a ha
  case waiting => exact ⟨new, hw, fun a ha b hb hwait => Nat.le_trans hle (hnew a ha b hb hwait)⟩
  case followed =>
    exact fun b hb => ⟨(h.followed b hb).1, fun hwait =>
      Nat.le_trans hle ((h.followed b hb).2 hwait)⟩
  case low_le => exact Nat.le_trans hle h.low_le
  case reached =>
    show ∃ z ∈ s.waiting, s.number z = _ ∧ _
    rw [low_lower_self]
    rcases Nat.lt_or_ge n (s.low id) with hlt | hge
    · rw [Nat.min_eq_right (Nat.le_of_lt hlt)]
      exact hz hlt
    · rw [Nat.min_eq_left hge]
      exact h.reached

theorem Visiting.cons (h : Visiting g path id done t s) (he : s.hasEntered next = true)
    (hle : next ∈ t.waiting → s.low id ≤ s.number next) :
    Visiting g path id (next :: done) t s := by
  refine { h with followed := fun b hb => ?_ }
  rcases List.mem_cons.mp hb with rfl | hb
  · exact ⟨he, hle⟩
  · exact h.followed b hb

/-- A dependency on a rule that was new has been visited, and its result is used. -/
theorem Visiting.absorb {u : Traversal} (h : Visiting g path id done t s)
    (ht : Sound g path t) (hn : t.hasEntered id ≠ true) (hd : next ∈ g.successors id)
    (hnext : s.hasEntered next ≠ true) (hv : Visited g (id :: path) next s u) :
    Visiting g path id (next :: done) t (u.lower id (u.low next)) := by
  have hks : Keeps s u := (keeps_enter hnext).trans hv.keeps
  have hid : s.hasEntered id = true := h.keeps.entered (hasEntered_enter.mpr (.inl rfl))
  have hold : ∀ {b}, b ∈ t.waiting → s.hasEntered b = true := fun hb =>
    h.keeps.entered (hasEntered_enter.mpr (.inr (ht.waiting_entered _ hb)))
  have hlow : u.low id = s.low id := hv.low_keeps id hid
  have hmin : (u.lower id (u.low next)).low id = min (s.low id) (u.low next) := by
    rw [low_lower_self, hlow]
  obtain ⟨new, hw, hnew⟩ := h.waiting
  obtain ⟨newer, hw', hnewer⟩ := hv.waiting
  constructor
  case sound => exact hv.sound.lower
  case keeps => exact h.keeps.trans hks
  case low_keeps =>
    intro a ha
    rw [low_lower_of_ne (ne_of_entered ha hn), hv.low_keeps a, h.low_keeps a ha]
    exact h.keeps.entered (hasEntered_enter.mpr (.inr ha))
  case waiting =>
    refine ⟨newer ++ new, by simp [Traversal.lower, hw', hw], fun a ha b hb hwait => ?_⟩
    show _ ≤ u.number b
    rcases List.mem_append.mp ha with ha | ha
    · have := hnewer a ha b hb (by simp [hw, hwait])
      omega
    · have := hnew a ha b hb hwait
      rw [hks.number (hold hwait)]
      omega
  case followed =>
    intro b hb
    rcases List.mem_cons.mp hb with rfl | hb
    · exact ⟨hv.keeps.entered (hasEntered_enter.mpr (.inl rfl)),
        fun hwait => absurd (hold hwait) hnext⟩
    · refine ⟨hks.entered (h.followed b hb).1, fun hwait => ?_⟩
      have := (h.followed b hb).2 hwait
      show _ ≤ u.number b
      rw [hks.number (hold hwait)]
      omega
  case low_le =>
    have := h.low_le
    show _ ≤ u.number id
    rw [hks.number hid]
    omega
  case reached =>
    show ∃ z ∈ u.waiting, u.number z = _ ∧ _
    rw [hmin]
    rcases Nat.lt_or_ge (u.low next) (s.low id) with hlt | hge
    · obtain ⟨z, hz, hr, hcase⟩ := hv.reached
      rw [Nat.min_eq_right (Nat.le_of_lt hlt)]
      refine ⟨z, hcase.resolve_left ?_, hz, (DependencyGraph.Depends.reaches hd).trans hr⟩
      -- the visited rule itself has a number above all that were there before
      rintro rfl
      have := number_of_keeps_enter hv.keeps
      have := h.sound.number_lt id hid
      have := h.low_le
      omega
    · obtain ⟨z, hz, hnum, hr⟩ := h.reached
      rw [Nat.min_eq_left hge]
      refine ⟨z, by simp [hw', hz], ?_, hr⟩
      rw [hks.number (h.sound.waiting_entered z hz), hnum]

theorem Visiting.follow {visit : RuleId → Traversal → Traversal}
    (h : Visiting g path id done t s) (ht : Sound g path t) (hn : t.hasEntered id ≠ true)
    (hd : next ∈ g.successors id)
    (hvisit : s.hasEntered next ≠ true → Visited g (id :: path) next s (visit next s)) :
    Visiting g path id (next :: done) t (follow visit id s next) := by
  unfold Traversal.follow
  split
  · next he =>
    split
    · next hwait =>
      refine (h.lower hn fun _ => ⟨next, hwait, rfl, DependencyGraph.Depends.reaches hd⟩).cons he
        fun _ => ?_
      rw [low_lower_self]
      exact Nat.min_le_right _ _
    · next hwait =>
      -- everything that waited when the visit began is waiting still
      obtain ⟨new, hw, -⟩ := h.waiting
      exact h.cons he fun hb => absurd (by simp [hw, hb]) hwait
  · next he => exact h.absorb ht hn hd he (hvisit he)

end

-- ---------------------------------------------------------------------------
-- Leaving a rule
-- ---------------------------------------------------------------------------

section
variable {new done : List RuleId}

theorem Sound.mutual_above (h : Sound g (id :: path) s) {old : List RuleId}
    (hw : s.waiting = new ++ id :: old) (hpath : ∀ p ∈ path, p ∈ old) (ha : a ∈ new ++ [id]) :
    g.Reaches id a ∧ g.Reaches a id := by
  obtain ⟨habove, hbelow⟩ := h.number_waiting hw
  have hmem : a ∈ s.waiting ∧ s.number id ≤ s.number a := by
    rw [hw]
    rcases List.mem_append.mp ha with ha | ha
    · exact ⟨List.mem_append_left _ ha, Nat.le_of_lt (habove a ha)⟩
    · obtain rfl := List.mem_singleton.mp ha
      exact ⟨List.mem_append_right _ List.mem_cons_self, Nat.le_refl _⟩
  refine ⟨h.leads_on id List.mem_cons_self a hmem.1 hmem.2, ?_⟩
  obtain ⟨p, hp, -, hr⟩ := h.leads_back a hmem.1
  rcases List.mem_cons.mp hp with rfl | hp
  · exact hr
  · have hlt := hbelow p (hpath p hp)
    exact hr.trans (h.leads_on p (List.mem_cons_of_mem _ hp) id
      (h.path_waits id List.mem_cons_self) (Nat.le_of_lt hlt))

theorem leave_of_eq {old : List RuleId} (hw : s.waiting = new ++ id :: old) (hid : id ∉ new)
    (hlow : s.low id = s.number id) :
    s.leave id = { s with waiting := old, components := s.components ++ [new ++ [id]] } := by
  have hp : ∀ a ∈ new, decide (a ≠ id) = true := fun a ha => by
    simpa using fun heq : a = id => hid (heq ▸ ha)
  unfold leave
  rw [if_pos hlow, hw, List.takeWhile_append_of_pos hp, List.dropWhile_append_of_pos hp]
  simp

section
variable (h : Visiting g path id done t s) (ht : Sound g path t)
  (hdone : ∀ b ∈ g.successors id, b ∈ done) (hw : s.waiting = new ++ id :: t.waiting)
  (hnew : ∀ a ∈ new, ∀ b ∈ g.successors a, b ∈ t.waiting → s.low id ≤ s.number b)
  (hlow : s.low id = s.number id)
include h ht hdone hw hnew hlow

/-- A rule that reaches no lower number than its own leads, with all that waits above it,
only to these rules and to groups. -/
theorem Visiting.leads_within (ha : a ∈ new ++ [id]) (hb : b ∈ g.successors a) :
    b ∈ new ++ [id] ∨ ∃ c ∈ s.components, b ∈ c := by
  obtain ⟨habove, hbelow⟩ := h.sound.number_waiting hw
  have hstep : s.hasEntered b = true ∧ (b ∈ t.waiting → s.low id ≤ s.number b) := by
    rcases List.mem_append.mp ha with hm | ha
    · have hwait : a ∈ s.waiting := by simp [hw, hm]
      have hlt := habove a hm
      have hpath : a ∉ id :: path := by
        intro hp
        rcases List.mem_cons.mp hp with rfl | hp
        · exact Nat.lt_irrefl _ hlt
        · have := hbelow a (ht.path_waits a hp)
          omega
      exact ⟨h.sound.followed a (h.sound.waiting_entered a hwait) hpath b hb, hnew a hm b hb⟩
    · obtain rfl := List.mem_singleton.mp ha
      exact h.followed b (hdone b hb)
  refine (h.sound.grouped b hstep.1).imp_left fun hwait => ?_
  rw [hw] at hwait
  rcases List.mem_append.mp hwait with hm | hm
  · exact List.mem_append_left _ hm
  · rcases List.mem_cons.mp hm with rfl | hm
    · simp
    · have := hstep.2 hm
      have := hbelow b hm
      omega

theorem Visiting.group_iff (ha : a ∈ new ++ [id]) :
    b ∈ new ++ [id] ↔ g.Reaches a b ∧ g.Reaches b a := by
  have hpath := ht.path_waits
  obtain ⟨hia, hai⟩ := h.sound.mutual_above hw hpath ha
  constructor
  · intro hb
    obtain ⟨hib, hbi⟩ := h.sound.mutual_above hw hpath hb
    exact ⟨hai.trans hib, hbi.trans hia⟩
  · rintro ⟨hab, hba⟩
    have hwithin : b ∈ new ++ [id] ∨ ∃ c ∈ s.components, b ∈ c := by
      clear hba
      induction hab with
      | refl => exact .inl ha
      | tail _ hd ih =>
        rcases ih with hm | hc
        · exact h.leads_within ht hdone hw hnew hlow hm hd
        · exact .inr (h.sound.reaches_grouped (DependencyGraph.Depends.reaches hd) hc)
    refine hwithin.resolve_right fun hc => ?_
    -- a group would lead back to a rule that still waits
    obtain ⟨c, hc, hm⟩ := h.sound.reaches_grouped (hba.trans hai) hc
    exact (h.sound.apart c hc id hm).2 (by simp [hw])

theorem Visiting.sound_close :
    Sound g path
      { s with waiting := t.waiting, components := s.components ++ [new ++ [id]] } := by
  obtain ⟨habove, hbelow⟩ := h.sound.number_waiting hw
  have hsub : ∀ a ∈ t.waiting, a ∈ s.waiting := fun a ha => by simp [hw, ha]
  have hnodup := h.sound.descending.imp (S := (· ≠ ·)) fun {a b} hlt heq => by
    subst heq
    exact Nat.lt_irrefl _ hlt
  rw [hw, ← List.singleton_append, ← List.append_assoc] at hnodup
  obtain ⟨hgroup, -, hapart⟩ := List.pairwise_append.mp hnodup
  have hwait : ∀ a ∈ new ++ [id], a ∈ s.waiting := fun a ha => by
    rw [hw, ← List.singleton_append, ← List.append_assoc]
    exact List.mem_append_left _ ha
  constructor
  case number_lt => exact h.sound.number_lt
  case waiting_entered => exact fun a ha => h.sound.waiting_entered a (hsub a ha)
  case descending =>
    have hd := h.sound.descending
    rw [hw, List.pairwise_append, List.pairwise_cons] at hd
    exact hd.2.1.2
  case path_waits => exact ht.path_waits
  case leads_back =>
    intro a ha
    obtain ⟨p, hp, hle, hr⟩ := h.sound.leads_back a (hsub a ha)
    rcases List.mem_cons.mp hp with rfl | hp
    · have := hbelow a ha
      omega
    · exact ⟨p, hp, hle, hr⟩
  case leads_on =>
    exact fun p hp a ha => h.sound.leads_on p (List.mem_cons_of_mem _ hp) a (hsub a ha)
  case followed =>
    intro a ha hp b hb
    by_cases heq : a = id
    · exact (h.followed b (hdone b (heq ▸ hb))).1
    · exact h.sound.followed a ha (List.not_mem_cons_of_ne_of_not_mem heq hp) b hb
  case grouped =>
    intro a ha
    rcases h.sound.grouped a ha with hm | ⟨c, hc, hm⟩
    · rw [hw, ← List.singleton_append, ← List.append_assoc] at hm
      rcases List.mem_append.mp hm with hm | hm
      · exact .inr ⟨new ++ [id], by simp, hm⟩
      · exact .inl hm
    · exact .inr ⟨c, List.mem_append_left _ hc, hm⟩
  case apart =>
    intro c hc a ha
    rcases List.mem_append.mp hc with hc | hc
    · obtain ⟨he, hnw⟩ := h.sound.apart c hc a ha
      exact ⟨he, fun hm => hnw (hsub a hm)⟩
    · obtain rfl := List.mem_singleton.mp hc
      exact ⟨h.sound.waiting_entered a (hwait a ha), fun hm => hapart a ha a hm rfl⟩
  case group_iff =>
    intro c hc a ha b
    rcases List.mem_append.mp hc with hc | hc
    · exact h.sound.group_iff c hc a ha b
    · obtain rfl := List.mem_singleton.mp hc
      exact h.group_iff ht hdone hw hnew hlow ha
  case group_nodup =>
    intro c hc
    rcases List.mem_append.mp hc with hc | hc
    · exact h.sound.group_nodup c hc
    · obtain rfl := List.mem_singleton.mp hc
      exact hgroup
  case group_closed =>
    intro c hc a ha b hb hm
    rcases List.mem_append.mp hc with hc | hc
    · exact h.sound.group_closed c hc a ha b hb (hsub b hm)
    · obtain rfl := List.mem_singleton.mp hc
      rcases h.leads_within ht hdone hw hnew hlow ha hb with hb | ⟨d, hd, hb⟩
      · exact hapart b hb b hm rfl
      · exact (h.sound.apart d hd b hb).2 (hsub b hm)

end

theorem Visiting.sound_stay (h : Visiting g path id done t s)
    (hdone : ∀ b ∈ g.successors id, b ∈ done) (hlow : s.low id < s.number id) :
    Sound g path s := by
  refine { h.sound with
    path_waits := fun p hp => h.sound.path_waits p (List.mem_cons_of_mem _ hp)
    leads_back := fun a ha => ?_
    leads_on := fun p hp => h.sound.leads_on p (List.mem_cons_of_mem _ hp)
    followed := fun a ha hp b hb => ?_ }
  · obtain ⟨p, hp, hle, hr⟩ := h.sound.leads_back a ha
    rcases List.mem_cons.mp hp with rfl | hp
    · -- the rule reaches something lower, which leads back to a rule still being visited
      obtain ⟨z, hz, hnum, hz'⟩ := h.reached
      obtain ⟨q, hq, hqz, hr'⟩ := h.sound.leads_back z hz
      rcases List.mem_cons.mp hq with rfl | hq
      · omega
      · exact ⟨q, hq, by omega, (hr.trans hz').trans hr'⟩
    · exact ⟨p, hp, hle, hr⟩
  · by_cases heq : a = id
    · exact (h.followed b (hdone b (heq ▸ hb))).1
    · exact h.sound.followed a ha (List.not_mem_cons_of_ne_of_not_mem heq hp) b hb

theorem Visiting.leave (h : Visiting g path id done t s) (ht : Sound g path t)
    (hdone : ∀ b ∈ g.successors id, b ∈ done) : Visited g path id t (s.leave id) := by
  obtain ⟨new, hw, hnew⟩ := h.waiting
  by_cases hlow : s.low id = s.number id
  · have hid : id ∉ new := fun hm =>
      Nat.lt_irrefl _ ((h.sound.number_waiting hw).1 id hm)
    rw [leave_of_eq hw hid hlow]
    exact ⟨h.sound_close ht hdone hw hnew hlow, h.keeps, h.low_keeps, ⟨[], rfl, by simp⟩,
      ⟨id, hlow.symm, .refl id, .inl rfl⟩⟩
  · have heq : s.leave id = s := by simp [Traversal.leave, hlow]
    obtain ⟨z, hz, hnum, hr⟩ := h.reached
    rw [heq]
    refine ⟨h.sound_stay hdone (Nat.lt_of_le_of_ne h.low_le hlow), h.keeps, h.low_keeps,
      ⟨new ++ [id], by simp [hw], fun a ha b hb hwait => ?_⟩, ⟨z, hnum, hr, .inr hz⟩⟩
    rcases List.mem_append.mp ha with ha | ha
    · exact hnew a ha b hb hwait
    · obtain rfl := List.mem_singleton.mp ha
      exact (h.followed b (hdone b hb)).2 hwait

end

-- ---------------------------------------------------------------------------
-- The whole pass
-- ---------------------------------------------------------------------------

def pending (g : DependencyGraph) (t : Traversal) : List RuleId :=
  g.nodes.filter fun a => !t.hasEntered a

theorem pending_le (h : ∀ a, t.hasEntered a = true → s.hasEntered a = true) :
    (pending g s).length ≤ (pending g t).length := by
  refine (List.monotone_filter_right g.nodes fun a ha => ?_).length_le
  cases ht : t.hasEntered a
  · rfl
  · simp [h a ht] at ha

theorem pending_enter_lt (hm : id ∈ g.nodes) (hn : t.hasEntered id ≠ true) :
    (pending g (t.enter id)).length < (pending g t).length := by
  have hsub : pending g (t.enter id) = (pending g t).filter fun a => !(t.enter id).hasEntered a := by
    simp only [pending, List.filter_filter]
    refine List.filter_congr fun a _ => ?_
    cases ht : t.hasEntered a
    · simp
    · simp [hasEntered_enter.mpr (.inr ht)]
  rw [hsub, List.length_filter_lt_length_iff_exists]
  exact ⟨id, by simpa [pending, hm] using hn, by simp [hasEntered_enter]⟩

theorem Visiting.foldl {visit : RuleId → Traversal → Traversal} {done rest : List RuleId}
    (h : Visiting g path id done t s) (ht : Sound g path t) (hn : t.hasEntered id ≠ true)
    (hrest : ∀ b ∈ rest, b ∈ g.successors id)
    (hvisit : ∀ b ∈ rest, ∀ u, Keeps (t.enter id) u → Sound g (id :: path) u →
      u.hasEntered b ≠ true → (∀ p ∈ id :: path, g.Reaches p b) →
      Visited g (id :: path) b u (visit b u)) :
    Visiting g path id (rest.reverse ++ done) t (rest.foldl (Traversal.follow visit id) s) := by
  induction rest generalizing done s with
  | nil => exact h
  | cons b rest ih =>
    have hb := hrest b List.mem_cons_self
    have hreach : ∀ p ∈ id :: path, g.Reaches p b := by
      intro p hp
      have hidw := h.sound.path_waits id List.mem_cons_self
      have hpid : g.Reaches p id := by
        rcases List.mem_cons.mp hp with rfl | hm
        · exact .refl p
        · obtain ⟨new, hw, -⟩ := h.waiting
          have hlt := (h.sound.number_waiting hw).2 p (ht.path_waits p hm)
          exact h.sound.leads_on p hp id hidw (Nat.le_of_lt hlt)
      exact hpid.trans (DependencyGraph.Depends.reaches hb)
    have hstep := h.follow ht hn hb fun hnb =>
      hvisit b List.mem_cons_self s h.keeps h.sound hnb hreach
    rw [List.reverse_cons, List.append_assoc]
    exact ih hstep (fun c hc => hrest c (List.mem_cons_of_mem _ hc))
      fun c hc => hvisit c (List.mem_cons_of_mem _ hc)

/-- A visit that may go deep enough enters its rule and keeps the pass sound. -/
theorem visit_visited {depth : Nat} (ht : Sound g path t) (hn : t.hasEntered id ≠ true)
    (hr : ∀ p ∈ path, g.Reaches p id) (hdepth : (pending g t).length < depth) :
    Visited g path id t (g.visit depth id t) := by
  induction depth generalizing path id t with
  | zero => omega
  | succ depth ih =>
    have hnext : ∀ b ∈ g.successors id, ∀ u, Keeps (t.enter id) u → Sound g (id :: path) u →
        u.hasEntered b ≠ true → (∀ p ∈ id :: path, g.Reaches p b) →
        Visited g (id :: path) b u (g.visit depth b u) := by
      intro b hb u hk hu hnb hreach
      refine ih hu hnb hreach ?_
      -- a rule that leads on is in the graph, so entering it has used up some depth
      have hid : id ∈ g.nodes := by
        by_contra hout
        simp [DependencyGraph.successors, DependencyGraph.edgesFrom_eq_nil hout] at hb
      have hlt := pending_enter_lt hid hn
      have hle := pending_le (g := g) fun a ha => hk.entered (a := a) ha
      omega
    have hfold := (visiting_enter ht hn hr).foldl ht hn (fun _ hb => hb) hnext
    rw [List.append_nil] at hfold
    exact hfold.leave ht fun b hb => List.mem_reverse.mpr hb

theorem traverse_sound (g : DependencyGraph) (ids : List RuleId) :
    Sound g [] (g.traverse ids) ∧ ∀ a ∈ ids, (g.traverse ids).hasEntered a = true := by
  suffices h : ∀ (ids : List RuleId) (t : Traversal), Sound g [] t →
      let u := ids.foldl
        (fun t id => if t.hasEntered id then t else g.visit (g.entries.length + 1) id t) t
      Sound g [] u ∧ (∀ a, t.hasEntered a = true → u.hasEntered a = true) ∧
        ∀ a ∈ ids, u.hasEntered a = true by
    obtain ⟨hs, -, he⟩ := h ids .start sound_start
    exact ⟨hs, he⟩
  intro ids
  induction ids with
  | nil => exact fun t ht => ⟨ht, fun _ ha => ha, by simp⟩
  | cons id rest ih =>
    intro t ht
    have hstep : ∃ u, (if t.hasEntered id then t else g.visit (g.entries.length + 1) id t) = u ∧
        Sound g [] u ∧ (∀ a, t.hasEntered a = true → u.hasEntered a = true) ∧
        u.hasEntered id = true := by
      refine ⟨_, rfl, ?_⟩
      split
      · next he => exact ⟨ht, fun _ ha => ha, he⟩
      · next he =>
        have hlen : (pending g t).length < g.entries.length + 1 := by
          have := List.length_filter_le (fun a => !t.hasEntered a) g.nodes
          simp only [DependencyGraph.nodes, List.length_map] at this
          exact Nat.lt_succ_of_le this
        have hv := visit_visited ht he (by simp) hlen
        exact ⟨hv.sound, fun a ha => hv.keeps.entered (hasEntered_enter.mpr (.inr ha)),
          hv.keeps.entered (hasEntered_enter.mpr (.inl rfl))⟩
    obtain ⟨u, hu, hs, hmono, hid⟩ := hstep
    obtain ⟨hs', hmono', hall⟩ := ih u hs
    simp only [List.foldl_cons, hu]
    refine ⟨hs', fun a ha => hmono' a (hmono a ha), fun a ha => ?_⟩
    rcases List.mem_cons.mp ha with rfl | ha
    · exact hmono' a hid
    · exact hall a ha

end Traversal

namespace Components

variable {ids : List RuleId}

open Traversal in
theorem exists_group (ha : a ∈ ids) : ∃ c ∈ (ofGraph g ids).groups, a ∈ c := by
  obtain ⟨hs, he⟩ := traverse_sound g ids
  refine (hs.grouped a (he a ha)).resolve_left fun hw => ?_
  obtain ⟨p, hp, -⟩ := hs.leads_back a hw
  simp at hp

theorem mem_group_iff {c : List RuleId} (hc : c ∈ (ofGraph g ids).groups) (ha : a ∈ c) :
    b ∈ c ↔ g.Reaches a b ∧ g.Reaches b a :=
  (Traversal.traverse_sound g ids).1.group_iff c hc a ha b

/-- Two rules are in one component exactly when each reaches the other. -/
theorem same_iff (ha : a ∈ ids) :
    (ofGraph g ids).same a b = true ↔ g.Reaches a b ∧ g.Reaches b a := by
  simp only [same, List.any_eq_true, Bool.decide_and, Bool.and_eq_true, decide_eq_true_eq]
  constructor
  · rintro ⟨c, hc, hac, hbc⟩
    exact (mem_group_iff hc hac).mp hbc
  · intro h
    obtain ⟨c, hc, hac⟩ := exists_group ha
    exact ⟨c, hc, hac, (mem_group_iff hc hac).mpr h⟩

theorem one_lt_size_iff (ha : a ∈ ids) :
    1 < (ofGraph g ids).size a ↔ ∃ b, b ≠ a ∧ g.Reaches a b ∧ g.Reaches b a := by
  obtain ⟨c, hc, hac⟩ := exists_group (g := g) ha
  obtain ⟨d, hd⟩ : ∃ d, (ofGraph g ids).groups.find? (a ∈ ·) = some d := by
    rw [← Option.isSome_iff_exists, List.find?_isSome]
    exact ⟨c, hc, by simpa using hac⟩
  have hmem := List.mem_of_find?_eq_some hd
  have had : a ∈ d := by simpa using List.find?_some hd
  have hnodup := (Traversal.traverse_sound g ids).1.group_nodup d hmem
  have hsize : (ofGraph g ids).size a = d.length := by simp [size, hd]
  rw [hsize]
  constructor
  · intro hlen
    obtain ⟨b, hb, hne⟩ : ∃ b ∈ d, b ≠ a := by
      by_contra hall
      have hsub : d ⊆ [a] := fun b hb => by
        by_contra hne
        exact hall ⟨b, hb, by simpa using hne⟩
      have := (List.subperm_of_subset hnodup hsub).length_le
      simp at this
      omega
    exact ⟨b, hne, (mem_group_iff hmem had).mp hb⟩
  · rintro ⟨b, hne, h⟩
    have hb := (mem_group_iff hmem had).mpr h
    have : [a, b] ⊆ d := by simp [had, hb]
    have hpair : [a, b].Nodup := by simp [hne.symm]
    exact (List.subperm_of_subset hpair this).length_le

end Components

end TripleRules
