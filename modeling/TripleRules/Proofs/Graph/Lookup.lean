import Mathlib.Data.List.Basic
import Mathlib.Data.List.Induction
import Mathlib.Data.List.Nodup
import Mathlib.Data.Set.Basic
import TripleRules.Graph.Layered
import TripleRules.Proofs.Dictionary

/-!
# Look-ups

A look-up goes through the shortest list of positions that one of the given
places has in its index. Whichever list that is, the answer is what a scan of all triples
gives, in insertion order (`Store.find_eq_filter`), and the same holds of a
stack of stores (`Graph.find_eq_filter`).
-/

namespace TripleRules

-- ---------------------------------------------------------------------------
-- Indexes
-- ---------------------------------------------------------------------------

namespace Index

variable {i : Index} {t u : Term} {n : Nat}

theorem lookup_insertEntry {entries : List (Term × Array Nat)} :
    (insertEntry t n entries).lookup u =
      if u = t then some (((entries.lookup t).getD #[]).push n) else entries.lookup u := by
  induction entries with
  | nil => by_cases h : u = t <;> simp [insertEntry, h]
  | cons a rest ih =>
    obtain ⟨v, positions⟩ := a
    simp only [insertEntry]
    by_cases hv : v = t
    · subst hv
      by_cases hu : u = v
      · simp [hu]
      · simp [lookup_cons_eq_ite, hu]
    · by_cases hu : u = v
      · subst hu
        simp [hv]
      · simp [lookup_cons_eq_ite, hv, Ne.symm hv, hu, ih]

theorem positions_insert :
    (i.insert t n).positions u = if u = t then (i.positions t).push n else i.positions u := by
  simp only [positions, insert, lookup_insertEntry]
  split <;> rfl

theorem positions_ofTerms (ts : List Term) (t : Term) :
    ((ofTerms ts).positions t).toList = (ts.zipIdx.filter (·.1 = t)).map Prod.snd := by
  induction ts using List.reverseRecOn with
  | nil => rfl
  | append_singleton ts u ih =>
    rw [ofTerms_concat, positions_insert, List.zipIdx_append]
    by_cases h : t = u
    · subst h
      simp [ih]
    · simp [h, Ne.symm h, ih]

theorem filterMap_positions (l : List Triple) (f : Triple → Term) (t : Term) :
    ((ofTerms (l.map f)).positions t).toList.filterMap (l[·]?) = l.filter (f · = t) := by
  have hget : ∀ e ∈ l.zipIdx.filter (f ·.1 = t), l[e.2]? = some e.1 := fun e he =>
    List.mem_zipIdx_iff_getElem?.mp (List.mem_filter.mp he).1
  rw [positions_ofTerms, List.zipIdx_map, List.filter_map, List.map_map, List.filterMap_map]
  calc _ = (l.zipIdx.filter (f ·.1 = t)).filterMap (fun e => some e.1) :=
        List.filterMap_congr hget
    _ = (l.zipIdx.filter ((f · = t) ∘ Prod.fst)).map Prod.fst := by
        rw [List.filterMap_eq_map']
        rfl
    _ = l.filter (f · = t) := by rw [← List.filter_map, List.zipIdx_map_fst]

end Index

-- ---------------------------------------------------------------------------
-- Stores
-- ---------------------------------------------------------------------------

namespace Store

variable {s : Store} {q : Slots} {positions : Array Nat}

theorem shorter_cases (best : Option (Array Nat)) (a : Array Nat) :
    shorter best a = some a ∨ best ≠ none ∧ shorter best a = best := by
  cases best with
  | none => exact .inl rfl
  | some b =>
    simp only [shorter]
    split
    · exact .inl rfl
    · exact .inr ⟨by simp, rfl⟩

theorem foldl_shorter (lists : List (Array Nat)) (best : Option (Array Nat)) :
    (lists.foldl shorter best = best ∧ (best = none → lists = [])) ∨
      ∃ a ∈ lists, lists.foldl shorter best = some a := by
  induction lists generalizing best with
  | nil => simp
  | cons a rest ih =>
    simp only [List.foldl_cons]
    rcases ih (shorter best a) with ⟨heq, -⟩ | ⟨b, hb, heq⟩
    · rw [heq]
      rcases shorter_cases best a with h | ⟨hne, h⟩
      · exact .inr ⟨a, List.mem_cons_self, h⟩
      · exact .inl ⟨h, fun hnone => absurd hnone hne⟩
    · exact .inr ⟨b, List.mem_cons_of_mem _ hb, heq⟩

theorem accepts_iff {slot : Option Term} {t : Term} :
    Slots.accepts slot t = true ↔ ∀ u ∈ slot, t = u := by
  cases slot with
  | none => simp [Slots.accepts]
  | some u =>
    simp only [Slots.accepts, Option.all_some, beq_iff_eq, Option.mem_some, forall_eq']
    exact eq_comm

theorem admits_iff {t : Triple} :
    q.admits t = true ↔ (∀ u ∈ q.subject, t.subject = u) ∧ (∀ u ∈ q.predicate, t.predicate = u) ∧
      ∀ u ∈ q.object, t.object = u := by
  simp only [Slots.admits, Bool.and_eq_true, accepts_iff, and_assoc]

def lookups (s : Store) (q : Slots) : List (Array Nat) :=
  [q.subject.map s.bySubject.positions, q.predicate.map s.byPredicate.positions,
    q.object.map s.byObject.positions].filterMap id

theorem admits_of_lookups_eq_nil (h : s.lookups q = []) (t : Triple) : q.admits t = true := by
  rw [admits_iff]
  obtain ⟨a, b, c⟩ := q
  cases a <;> cases b <;> cases c <;> simp_all [lookups]

theorem exists_of_mem_lookups (h : positions ∈ s.lookups q) :
    ∃ f u, positions = (Index.ofTerms (s.toList.map f)).positions u ∧
      ∀ t, q.admits t = true → f t = u := by
  simp only [lookups, List.mem_filterMap, List.mem_cons, List.not_mem_nil, or_false, id] at h
  obtain ⟨_, hplace, rfl⟩ := h
  rcases hplace with hplace | hplace | hplace
  · obtain ⟨u, hu, heq⟩ := Option.map_eq_some_iff.mp hplace.symm
    refine ⟨Triple.subject, u, ?_, fun t ht => (admits_iff.mp ht).1 u hu⟩
    rw [← heq, s.bySubject_eq]
    rfl
  · obtain ⟨u, hu, heq⟩ := Option.map_eq_some_iff.mp hplace.symm
    refine ⟨Triple.predicate, u, ?_, fun t ht => (admits_iff.mp ht).2.1 u hu⟩
    rw [← heq, s.byPredicate_eq]
    rfl
  · obtain ⟨u, hu, heq⟩ := Option.map_eq_some_iff.mp hplace.symm
    refine ⟨Triple.object, u, ?_, fun t ht => (admits_iff.mp ht).2.2 u hu⟩
    rw [← heq, s.byObject_eq]
    rfl

/-- Whichever index is asked, what it leaves out is not looked for. -/
theorem read_lookups (h : positions ∈ s.lookups q) :
    (positions.toList.filterMap (s.triples[·]?)).filter q.admits = s.toList.filter q.admits := by
  obtain ⟨f, u, rfl, hall⟩ := exists_of_mem_lookups h
  rw [show (fun n => s.triples[n]?) = (s.toList[·]?) from funext fun n => by simp [toList],
    Index.filterMap_positions, List.filter_filter]
  refine List.filter_congr fun t _ => ?_
  cases ht : q.admits t
  · simp
  · simp [hall t ht]

theorem find_eq_filter (s : Store) (q : Slots) : s.find q = s.toList.filter q.admits := by
  have hcandidates : s.candidates q = (s.lookups q).foldl shorter none := rfl
  rcases foldl_shorter (s.lookups q) none with ⟨hnone, hlookups⟩ | ⟨positions, hmem, hsome⟩
  · simp only [find, hcandidates, hnone]
    exact (List.filter_eq_self.mpr fun t _ => admits_of_lookups_eq_nil (hlookups rfl) t).symm
  · simp only [find, hcandidates, hsome]
    exact read_lookups hmem

end Store

-- ---------------------------------------------------------------------------
-- Graphs
-- ---------------------------------------------------------------------------

namespace Graph

def facts (g : Graph) : Set Triple := {t | t ∈ g.toList}

theorem mem_toList {g : Graph} {t : Triple} : t ∈ g.toList ↔ g.contains t = true := by
  simp [toList, Store.toList, contains_iff]

theorem find_eq_filter (g : Graph) (q : Slots) : g.find q = g.toList.filter q.admits := by
  simp only [find, toList, Store.find_eq_filter, List.filter_flatMap]

theorem isConcrete_of_mem {g : Graph} {t : Triple} (h : t ∈ g.toList) : t.isConcrete = true := by
  obtain ⟨s, -, hs⟩ := List.mem_flatMap.mp h
  exact s.concrete t (by simpa [Store.toList] using hs)

theorem nodup_toList (g : Graph) : g.toList.Nodup := by
  rw [toList, List.nodup_flatMap]
  refine ⟨fun s _ => s.nodup, g.disjoint.imp fun hdisjoint t hlow hhigh => ?_⟩
  exact hdisjoint t (by simpa [Store.toList] using hhigh) (by simpa [Store.toList] using hlow)

theorem size_eq_length (g : Graph) : g.size = g.toList.length := by
  rw [size, toList, List.length_flatMap]
  rfl

theorem toList_ofStore (s : Store) : (ofStore s).toList = s.toList := by
  simp [toList, ofStore]

end Graph

end TripleRules
