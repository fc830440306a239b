import Mathlib.Data.List.Chain
import Mathlib.Data.List.Nodup
import Mathlib.Data.List.Perm.Subperm
import TripleRules.Dependency.Cycle
import TripleRules.Proofs.Dictionary

/-!
# Breadth-first search

The search keeps a queue of nodes, and of every node which one led to it. It does what a search
does that keeps the paths themselves in its queue (`path?`, `Records`), and the way back from the
goal is the path that this one finds (`traced_run`): nothing is missing on it.

`Frontier` is what holds between any two steps of the search with paths: the lengths of the queued
paths ascend and differ by at most one, and of a node that has been seen either a path is queued or
all successors have been seen. Whatever leads on to the goal from a node that has been seen
therefore meets the end of a queued path (`Frontier.exists_queued`). So the first path that comes to
the goal is a shortest one (`path?_eq_some`), and one comes if there is any (`path?_isSome`).
-/

namespace TripleRules.Search

variable {α : Type} {next : α → List α} {x y z start goal : α} {path rest before : List α}

-- ---------------------------------------------------------------------------
-- Paths
-- ---------------------------------------------------------------------------

/-- Nodes from one to another, each of them a successor of the one before. -/
structure IsPath (next : α → List α) (x y : α) (path : List α) : Prop where
  head : path.head? = some x
  last : path.getLast? = some y
  chain : path.IsChain fun a b => b ∈ next a

theorem isPath_singleton (x : α) : IsPath next x x [x] := ⟨rfl, rfl, .singleton x⟩

theorem isPath_cons_cons :
    IsPath next x y (x :: z :: rest) ↔ z ∈ next x ∧ IsPath next z y (z :: rest) := by
  constructor
  · rintro ⟨-, hlast, hchain⟩
    obtain ⟨hz, hrest⟩ := List.isChain_cons_cons.mp hchain
    exact ⟨hz, rfl, by rwa [List.getLast?_cons_cons] at hlast, hrest⟩
  · rintro ⟨hz, -, hlast, hchain⟩
    exact ⟨rfl, by rwa [List.getLast?_cons_cons], List.isChain_cons_cons.mpr ⟨hz, hchain⟩⟩

theorem isPath_split :
    IsPath next x y (before ++ z :: rest) ↔
      IsPath next x z (before ++ [z]) ∧ IsPath next z y (z :: rest) := by
  have hhead : (before ++ z :: rest).head? = (before ++ [z]).head? := by cases before <;> rfl
  have hlast : (before ++ z :: rest).getLast? = (z :: rest).getLast? :=
    List.getLast?_append_of_ne_nil _ (List.cons_ne_nil z rest)
  constructor
  · rintro ⟨hx, hy, hchain⟩
    obtain ⟨hfirst, hrest⟩ := List.isChain_split.mp hchain
    exact ⟨⟨hhead ▸ hx, List.getLast?_concat, hfirst⟩, ⟨rfl, hlast ▸ hy, hrest⟩⟩
  · rintro ⟨hfirst, hrest⟩
    exact ⟨hhead ▸ hfirst.head, hlast ▸ hrest.last,
      List.isChain_split.mpr ⟨hfirst.chain, hrest.chain⟩⟩

theorem IsPath.concat (h : IsPath next x y path) (hz : z ∈ next y) :
    IsPath next x z (path ++ [z]) := by
  obtain ⟨before, rfl⟩ := List.getLast?_eq_some_iff.mp h.last
  rw [List.append_assoc]
  exact isPath_split.mpr ⟨h, isPath_cons_cons.mpr ⟨hz, isPath_singleton z⟩⟩

theorem isPath_filter_iff {inside : α → Bool}
    (h : ∀ path, IsPath next x y path → ∀ z ∈ path, inside z = true) :
    IsPath (fun x => (next x).filter inside) x y path ↔ IsPath next x y path := by
  constructor
  · rintro ⟨hx, hy, hchain⟩
    exact ⟨hx, hy, hchain.imp fun _ _ hb => List.mem_of_mem_filter hb⟩
  · intro hpath
    refine ⟨hpath.head, hpath.last, hpath.chain.imp_of_mem_imp fun _ b _ hb hnext => ?_⟩
    exact List.mem_filter.mpr ⟨hnext, h path hpath b hb⟩

-- ---------------------------------------------------------------------------
-- Between two steps
-- ---------------------------------------------------------------------------

variable {queue : List (List α)} {seen : List α}

/-- What holds between two steps of a search that has not come to its goal. -/
structure Frontier (next : α → List α) (start goal : α) (queue : List (List α)) (seen : List α) :
    Prop where
  paths : ∀ path ∈ queue, ∃ x before, path = x :: before ∧ IsPath next start x path.reverse
  nodup : ∀ path ∈ queue, path.Nodup
  subset : ∀ path ∈ queue, path ⊆ seen
  levels : queue.Pairwise fun p q => p.length ≤ q.length ∧ q.length ≤ p.length + 1
  /-- A node that no queued path ends in has been expanded. -/
  expanded : ∀ x ∈ seen, (∃ before, x :: before ∈ queue) ∨ x ≠ goal ∧ ∀ y ∈ next x, y ∈ seen

theorem frontier_start (next : α → List α) (start goal : α) :
    Frontier next start goal [[start]] [start] where
  paths := by simpa using isPath_singleton start
  nodup := by simp
  subset := by simp
  levels := List.pairwise_singleton _ _
  expanded := by simp

/-- On every path to the goal from a node that has been seen there is the end of a queued path. -/
theorem Frontier.exists_queued (h : Frontier next start goal queue seen) (hx : x ∈ seen)
    (hpath : IsPath next x goal (x :: rest)) :
    ∃ y before rest', y :: before ∈ queue ∧ IsPath next y goal (y :: rest') ∧
      rest'.length ≤ rest.length := by
  induction rest generalizing x with
  | nil =>
    obtain rfl : x = goal := by simpa using hpath.last
    rcases h.expanded x hx with ⟨before, hmem⟩ | ⟨hne, -⟩
    · exact ⟨x, before, [], hmem, hpath, Nat.le_refl _⟩
    · exact absurd rfl hne
  | cons z rest ih =>
    rcases h.expanded x hx with ⟨before, hmem⟩ | ⟨-, hnext⟩
    · exact ⟨x, before, z :: rest, hmem, hpath, Nat.le_refl _⟩
    · obtain ⟨hz, hrest⟩ := isPath_cons_cons.mp hpath
      obtain ⟨y, before, rest', hmem, hy, hlength⟩ := ih (hnext z hz) hrest
      exact ⟨y, before, rest', hmem, hy, Nat.le_succ_of_le hlength⟩

-- ---------------------------------------------------------------------------
-- Expanding a node
-- ---------------------------------------------------------------------------

variable [DecidableEq α] {l : List α} {fuel : Nat}

theorem nodup_eraseDups : ∀ l : List α, l.eraseDups.Nodup
  | [] => .nil
  | a :: l => by
    rw [List.eraseDups_cons]
    refine List.nodup_cons.mpr ⟨fun ha => ?_, nodup_eraseDups (l.filter fun b => !b == a)⟩
    simp at ha
  termination_by l => l.length
  decreasing_by exact Nat.lt_succ_of_le (List.length_filter_le _ _)

def unseen (seen l : List α) : List α := (l.filter (· ∉ seen)).eraseDups

theorem mem_unseen : y ∈ unseen seen l ↔ y ∈ l ∧ y ∉ seen := by
  simp [unseen]

theorem unseen_cons_of_mem (hx : x ∈ seen) : unseen seen (x :: l) = unseen seen l := by
  simp [unseen, hx]

theorem unseen_cons (hx : x ∉ seen) : unseen seen (x :: l) = x :: unseen (seen ++ [x]) l := by
  simp only [unseen, List.filter_cons, hx, not_false_eq_true, decide_true, if_true,
    List.eraseDups_cons, List.filter_filter]
  congr 2
  refine List.filter_congr fun y _ => Bool.eq_iff_iff.mpr ?_
  simp [and_comm]

/-- A path to `goal`, breadth first. Paths wait in a queue, their last node first; `seen` lists
the nodes that some path has come to. -/
def path? (next : α → List α) (goal : α) : Nat → List (List α) → List α → Option (List α)
  | 0, _, _ => none
  | fuel + 1, queue, seen => match queue with
    | [] => none
    | [] :: queue => path? next goal fuel queue seen
    | (x :: before) :: queue =>
      if x = goal then some (x :: before).reverse
      else path? next goal fuel (queue ++ (unseen seen (next x)).map (· :: x :: before))
        (seen ++ unseen seen (next x))

theorem path?_cons (hx : x ≠ goal) :
    path? next goal (fuel + 1) ((x :: before) :: queue) seen =
      path? next goal fuel (queue ++ (unseen seen (next x)).map (· :: x :: before))
        (seen ++ unseen seen (next x)) := by
  simp [path?, hx]

theorem Frontier.expand (h : Frontier next start goal ((x :: before) :: queue) seen)
    (hx : x ≠ goal) :
    Frontier next start goal (queue ++ (unseen seen (next x)).map (· :: x :: before))
      (seen ++ unseen seen (next x)) where
  paths := by
    refine List.forall_mem_append.mpr ⟨fun path hp => h.paths path (List.mem_cons_of_mem _ hp), ?_⟩
    refine List.forall_mem_map.mpr fun y hy => ⟨y, x :: before, rfl, ?_⟩
    obtain ⟨_, _, heq, hpath⟩ := h.paths _ List.mem_cons_self
    obtain ⟨rfl, -⟩ := List.cons.inj heq
    rw [List.reverse_cons]
    exact hpath.concat (mem_unseen.mp hy).1
  nodup := by
    refine List.forall_mem_append.mpr ⟨fun path hp => h.nodup path (List.mem_cons_of_mem _ hp), ?_⟩
    refine List.forall_mem_map.mpr fun y hy => ?_
    have hnot : y ∉ x :: before := fun hmem =>
      (mem_unseen.mp hy).2 (h.subset _ List.mem_cons_self hmem)
    exact List.nodup_cons.mpr ⟨hnot, h.nodup _ List.mem_cons_self⟩
  subset := by
    refine List.forall_mem_append.mpr ⟨fun path hp => ?_, List.forall_mem_map.mpr fun y hy => ?_⟩
    · exact List.subset_append_of_subset_left _ (h.subset path (List.mem_cons_of_mem _ hp))
    · refine List.cons_subset.mpr ⟨List.mem_append_right _ hy, ?_⟩
      exact List.subset_append_of_subset_left _ (h.subset _ List.mem_cons_self)
  levels := by
    obtain ⟨hfirst, hrest⟩ := List.pairwise_cons.mp h.levels
    refine List.pairwise_append.mpr ⟨hrest, ?_, ?_⟩
    · exact List.pairwise_map.mpr (List.pairwise_of_forall fun _ _ => by simp)
    · intro path hp
      refine List.forall_mem_map.mpr fun y _ => ?_
      have hlength := hfirst path hp
      simp only [List.length_cons] at hlength ⊢
      omega
  expanded := by
    refine List.forall_mem_append.mpr ⟨fun y hy => ?_, fun y hy => ?_⟩
    · rcases h.expanded y hy with ⟨before', hmem⟩ | ⟨hne, hnext⟩
      · rcases List.mem_cons.mp hmem with heq | hmem
        · -- the node that is expanded
          obtain ⟨rfl, -⟩ := List.cons.inj heq
          refine .inr ⟨hx, fun z hz => List.mem_append.mpr ?_⟩
          exact (Classical.em (z ∈ seen)).imp_right fun hnot => mem_unseen.mpr ⟨hz, hnot⟩
        · exact .inl ⟨before', List.mem_append_left _ hmem⟩
      · exact .inr ⟨hne, fun z hz => List.mem_append_left _ (hnext z hz)⟩
    · exact .inl ⟨x :: before, List.mem_append_right _ (List.mem_map_of_mem hy)⟩

-- ---------------------------------------------------------------------------
-- The whole search
-- ---------------------------------------------------------------------------

/-- A path that is found repeats no node, and no queued path is the beginning of a shorter one. -/
theorem path?_eq_some (h : Frontier next start goal queue seen)
    (hfound : path? next goal fuel queue seen = some path) :
    IsPath next start goal path ∧ path.Nodup ∧
      ∀ x before rest, x :: before ∈ queue → IsPath next x goal (x :: rest) →
        path.length ≤ before.length + 1 + rest.length := by
  induction fuel generalizing queue seen with
  | zero => cases hfound
  | succ fuel ih =>
    rcases queue with _ | ⟨first, queue⟩
    · cases hfound
    obtain ⟨x, before, rfl, hfirst⟩ := h.paths first List.mem_cons_self
    obtain ⟨hlevels, -⟩ := List.pairwise_cons.mp h.levels
    by_cases hx : x = goal
    · subst hx
      obtain rfl : (x :: before).reverse = path := by simpa [path?] using hfound
      refine ⟨hfirst, List.nodup_reverse.mpr (h.nodup _ List.mem_cons_self), ?_⟩
      intro y before' rest hy _
      -- the queue is sorted by length
      have hle : (x :: before).length ≤ (y :: before').length := by
        rcases List.mem_cons.mp hy with heq | hy
        · rw [heq]
        · exact (hlevels _ hy).1
      simp only [List.length_reverse, List.length_cons] at hle ⊢
      omega
    · rw [path?_cons hx] at hfound
      have hnext := h.expand hx
      obtain ⟨hpath, hnodup, hshortest⟩ := ih hnext hfound
      refine ⟨hpath, hnodup, fun y before' rest hy hrest => ?_⟩
      rcases List.mem_cons.mp hy with heq | hy
      · obtain ⟨rfl, rfl⟩ := List.cons.inj heq
        rcases rest with _ | ⟨z, rest⟩
        · exact absurd (by simpa using hrest.last) hx
        -- what follows the node meets a queued path, which is at most one longer than the first one
        obtain ⟨hz, hrest⟩ := isPath_cons_cons.mp hrest
        have hseen : z ∈ seen ++ unseen seen (next y) := List.mem_append.mpr
          ((Classical.em (z ∈ seen)).imp_right fun hnot => mem_unseen.mpr ⟨hz, hnot⟩)
        obtain ⟨w, front, rest', hw, hgoal, hlength⟩ := hnext.exists_queued hseen hrest
        have hfront : (w :: front).length ≤ (y :: before').length + 1 := by
          rcases List.mem_append.mp hw with hw | hw
          · exact (hlevels _ hw).2
          · obtain ⟨_, -, heq⟩ := List.mem_map.mp hw
            rw [← heq, List.length_cons]
        have hle := hshortest w front rest' hw hgoal
        simp only [List.length_cons] at hfront ⊢
        omega
      · exact hshortest y before' rest (List.mem_append_left _ hy) hrest

theorem length_unseen_add (seen nodes : List α) (hl : ∀ y ∈ l, y ∈ nodes) :
    (unseen seen l).length + (nodes.filter (· ∉ seen ++ unseen seen l)).length ≤
      (nodes.filter (· ∉ seen)).length := by
  have hnew : (unseen seen l).Subperm
      ((nodes.filter (· ∉ seen)).filter (· ∈ unseen seen l)) := by
    refine List.subperm_of_subset (nodup_eraseDups _) fun y hy => ?_
    obtain ⟨hmem, hnot⟩ := mem_unseen.mp hy
    simpa [hl y hmem, hnot] using hy
  have hold : (nodes.filter (· ∉ seen ++ unseen seen l)) =
      (nodes.filter (· ∉ seen)).filter fun y => !decide (y ∈ unseen seen l) := by
    rw [List.filter_filter]
    refine List.filter_congr fun y _ => Bool.eq_iff_iff.mpr ?_
    simp [and_comm]
  rw [hold, List.length_eq_length_filter_add (l := nodes.filter (· ∉ seen))
    fun y => decide (y ∈ unseen seen l)]
  exact Nat.add_le_add_right hnew.length_le _

/-- Every node is expanded at most once, so fuel for what is queued or unseen is enough. -/
theorem path?_isSome {nodes : List α} (hnext : ∀ x, ∀ y ∈ next x, y ∈ nodes)
    (h : Frontier next start goal queue seen) (hx : x ∈ seen)
    (hpath : IsPath next x goal (x :: rest))
    (hfuel : queue.length + (nodes.filter (· ∉ seen)).length ≤ fuel) :
    (path? next goal fuel queue seen).isSome = true := by
  have hqueue : queue ≠ [] := by
    obtain ⟨_, _, _, hqueued, -⟩ := h.exists_queued hx hpath
    exact List.ne_nil_of_mem hqueued
  induction fuel generalizing queue seen with
  | zero => exact absurd (List.length_eq_zero_iff.mp (by omega)) hqueue
  | succ fuel ih =>
    obtain ⟨first, queue, rfl⟩ := List.exists_cons_of_ne_nil hqueue
    obtain ⟨y, before, rfl, -⟩ := h.paths first List.mem_cons_self
    by_cases hy : y = goal
    · simp [path?, hy]
    · rw [path?_cons hy]
      have hrest := h.expand hy
      have hseen : x ∈ seen ++ unseen seen (next y) := List.mem_append_left _ hx
      obtain ⟨_, _, _, hqueued, -⟩ := hrest.exists_queued hseen hpath
      refine ih hrest hseen ?_ (List.ne_nil_of_mem hqueued)
      have hle := length_unseen_add seen nodes (hnext y)
      simp only [List.length_cons, List.length_append, List.length_map] at hfuel ⊢
      omega

-- ---------------------------------------------------------------------------
-- Where nodes were met from
-- ---------------------------------------------------------------------------

variable {inside : α → Bool} {s : Search α} {paths : List (List α)}

inductive Traced (s : Search α) (start : α) : List α → Prop
  | start : Traced s start [start]
  | cons {x y : α} {before : List α} : x ≠ start → s.cameFrom.lookup x = some y →
    Traced s start (y :: before) → Traced s start (x :: y :: before)

theorem Traced.of_lookup {s' : Search α} (h : s.Traced start path)
    (hlookup : ∀ x y, s.cameFrom.lookup x = some y → s'.cameFrom.lookup x = some y) :
    s'.Traced start path := by
  induction h with
  | start => exact .start
  | cons hne hx _ ih => exact .cons hne (hlookup _ _ hx) ih

theorem Traced.back_eq (h : s.Traced start (x :: before)) (hfuel : before.length ≤ fuel) :
    s.back start fuel x = x :: before := by
  induction fuel generalizing x before with
  | zero =>
    obtain rfl := List.length_eq_zero_iff.mp (Nat.le_zero.mp hfuel)
    rfl
  | succ fuel ih =>
    cases h with
    | start => simp [back]
    | cons hne hx h =>
      simp only [back, if_neg hne, hx, ih h (Nat.le_of_succ_le_succ hfuel)]

theorem Traced.length_le (h : s.Traced start (x :: before)) (hnodup : (x :: before).Nodup) :
    before.length ≤ s.cameFrom.length := by
  have hsubset : ∀ path, s.Traced start path → path.dropLast ⊆ s.cameFrom.map Prod.fst := by
    intro path h
    induction h with
    | start => exact List.nil_subset _
    | @cons x y before hne hx _ ih =>
      obtain ⟨_, _, heq, -⟩ := List.lookup_eq_some_iff.mp hx
      exact List.cons_subset.mpr ⟨by simp [heq], ih⟩
  have hdistinct := hnodup.sublist (List.dropLast_sublist _)
  simpa using (List.subperm_of_subset hdistinct (hsubset _ h)).length_le

/-- The queued nodes end the queued paths, and all that has been seen was met from somewhere. -/
structure Records (s : Search α) (start : α) (paths : List (List α)) (seen : List α) : Prop where
  queue : paths.map List.head? = s.queue.map some
  seen : ∀ x, x ∈ seen ↔ x = start ∨ (s.cameFrom.lookup x).isSome = true
  traced : ∀ path ∈ paths, s.Traced start path

theorem records_begin (start : α) : (begin start).Records start [[start]] [start] where
  queue := rfl
  seen x := by simp [begin]
  traced := by simpa using Traced.start

theorem meet_eq (hseen : ∀ y, y ∈ seen ↔ y = start ∨ (s.cameFrom.lookup y).isSome = true) (y : α) :
    meet inside start x s y =
      if inside y = true ∧ y ∉ seen then ⟨s.queue ++ [y], (y, x) :: s.cameFrom⟩ else s := by
  refine if_congr ?_ rfl rfl
  rw [hseen, not_or, Option.not_isSome_iff_eq_none]
  simp [and_assoc, and_left_comm]

theorem foldl_meet (inside : α → Bool) (x : α) (l : List α)
    (hseen : ∀ y, y ∈ seen ↔ y = start ∨ (s.cameFrom.lookup y).isSome = true) :
    (l.foldl (meet inside start x) s).queue = s.queue ++ unseen seen (l.filter inside) ∧
      ∀ y, (l.foldl (meet inside start x) s).cameFrom.lookup y =
        if y ∈ unseen seen (l.filter inside) then some x else s.cameFrom.lookup y := by
  induction l generalizing s seen with
  | nil => simp [unseen]
  | cons a l ih =>
    rw [List.foldl_cons, meet_eq hseen]
    by_cases hin : inside a = true
    · rw [List.filter_cons_of_pos hin]
      by_cases ha : a ∈ seen
      · rw [if_neg (not_and_not_right.mpr fun _ => ha), unseen_cons_of_mem ha]
        exact ih hseen
      · rw [if_pos ⟨hin, ha⟩, unseen_cons ha]
        have hnext : ∀ y, y ∈ seen ++ [a] ↔
            y = start ∨ (((a, x) :: s.cameFrom).lookup y).isSome = true := fun y => by
          rw [List.mem_append, List.mem_singleton, hseen, lookup_cons_eq_ite]
          by_cases hy : y = a
          · simp [hy]
          · simp [hy]
        obtain ⟨hqueue, hlookup⟩ := ih (s := ⟨s.queue ++ [a], (a, x) :: s.cameFrom⟩) hnext
        refine ⟨by rw [hqueue, List.append_assoc, List.singleton_append], fun y => ?_⟩
        rw [hlookup, lookup_cons_eq_ite]
        by_cases hy : y = a
        · simp [hy]
        · simp [hy]
    · rw [if_neg fun h => hin h.1, List.filter_cons_of_neg hin]
      exact ih hseen

theorem Records.expand {nodes : List α} {cameFrom : List (α × α)}
    (h : Records ⟨x :: nodes, cameFrom⟩ start ((x :: before) :: paths) seen) :
    ((next x).foldl (meet inside start x) ⟨nodes, cameFrom⟩).Records start
      (paths ++ (unseen seen ((next x).filter inside)).map (· :: x :: before))
      (seen ++ unseen seen ((next x).filter inside)) := by
  obtain ⟨hqueue, hlookup⟩ := foldl_meet (s := ⟨nodes, cameFrom⟩) inside x (next x) h.seen
  have hseen : ∀ y, y ∈ seen → y ∉ unseen seen ((next x).filter inside) := fun y hy hnew =>
    (mem_unseen.mp hnew).2 hy
  have hkept : ∀ path, Traced ⟨x :: nodes, cameFrom⟩ start path →
      Traced ((next x).foldl (meet inside start x) ⟨nodes, cameFrom⟩) start path := by
    refine fun path hpath => hpath.of_lookup fun y z hy => ?_
    rw [hlookup, if_neg (hseen y ((h.seen y).mpr (.inr (Option.isSome_of_mem hy))))]
    exact hy
  refine ⟨?_, fun y => ?_, List.forall_mem_append.mpr ⟨fun path hpath => ?_, ?_⟩⟩
  · have htail := (List.cons.inj h.queue).2
    rw [hqueue, List.map_append, List.map_append, htail, List.map_map]
    rfl
  · rw [List.mem_append, hlookup]
    by_cases hy : y ∈ unseen seen ((next x).filter inside)
    · simp [hy]
    · simp only [hy, or_false, if_false]
      exact h.seen y
  · exact hkept path (h.traced path (List.mem_cons_of_mem _ hpath))
  · refine List.forall_mem_map.mpr fun y hy => ?_
    have hne : y ≠ start := fun heq => hseen y ((h.seen y).mpr (.inl heq)) hy
    refine .cons hne ?_ (hkept _ (h.traced _ List.mem_cons_self))
    rw [hlookup, if_pos hy]

theorem traced_run (h : s.Records start paths seen)
    (hfound : path? (fun x => (next x).filter inside) goal fuel paths seen = some path) :
    (run next inside start goal fuel s).Traced start path.reverse := by
  induction fuel generalizing s paths seen with
  | zero => cases hfound
  | succ fuel ih =>
    rcases paths with _ | ⟨first, paths⟩
    · cases hfound
    obtain ⟨nodes, cameFrom⟩ := s
    obtain ⟨x, rest, hqueue, hfirst, -⟩ := List.map_eq_cons_iff.mp h.queue.symm
    obtain rfl : nodes = x :: rest := hqueue
    obtain ⟨before, rfl⟩ := List.head?_eq_some_iff.mp hfirst.symm
    by_cases hx : x = goal
    · obtain rfl : (x :: before).reverse = path := by simpa [path?, hx] using hfound
      simpa [run, hx] using h.traced _ List.mem_cons_self
    · rw [path?_cons hx] at hfound
      simpa [run, hx] using ih h.expand hfound

/-- If there is a path, the way that is found is one, and none is shorter. -/
theorem way_shortest {nodes : List α} (hnext : ∀ x, ∀ y ∈ next x, y ∈ nodes)
    (hexists : IsPath (fun x => (next x).filter inside) start goal (start :: rest)) :
    IsPath (fun x => (next x).filter inside) start goal
        (way next inside start goal (nodes.length + 1)) ∧
      (way next inside start goal (nodes.length + 1)).Nodup ∧
      ∀ path, IsPath (fun x => (next x).filter inside) start goal path →
        (way next inside start goal (nodes.length + 1)).length ≤ path.length := by
  have hfuel : [[start]].length + (nodes.filter (· ∉ [start])).length ≤ nodes.length + 1 := by
    have := List.length_filter_le (· ∉ [start]) nodes
    simp only [List.length_singleton]
    omega
  have hstart := frontier_start (fun x => (next x).filter inside) start goal
  obtain ⟨path, hfound⟩ := Option.isSome_iff_exists.mp
    (path?_isSome (fun x y hy => hnext x y (List.mem_of_mem_filter hy)) hstart
      (List.mem_singleton_self start) hexists hfuel)
  obtain ⟨hpath, hnodup, hshortest⟩ := path?_eq_some hstart hfound
  obtain ⟨before, hbefore⟩ : ∃ before, path.reverse = goal :: before :=
    List.head?_eq_some_iff.mp (by rw [List.head?_reverse, hpath.last])
  have htraced := traced_run (records_begin start) hfound
  have hway : way next inside start goal (nodes.length + 1) = path := by
    rw [hbefore] at htraced
    have hlength := htraced.length_le (hbefore ▸ List.nodup_reverse.mpr hnodup)
    rw [way, htraced.back_eq hlength, ← hbefore, List.reverse_reverse]
  rw [hway]
  refine ⟨hpath, hnodup, fun other hother => ?_⟩
  obtain ⟨rest', rfl⟩ := List.head?_eq_some_iff.mp hother.head
  have hle := hshortest start [] rest' (List.mem_singleton_self _) hother
  simp only [List.length_nil, List.length_cons] at hle ⊢
  omega

end TripleRules.Search
