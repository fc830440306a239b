import TripleRules.Proofs.Graph.Insertion

/-!
# An overlay reads like one store

Copy a graph into a store, and insert into the store whatever is added on top of the
graph. Then both have the same triples in the same order, and both find as many of every
insertion new (`Overlay.ReadsAs.extendEach`). All that can be read of a graph depends
on that order alone, so nobody can tell the overlay from the store.
-/

namespace TripleRules

variable {t : Triple} {ts : List Triple} {lists : List (List Triple)}

/-- Several lists of triples one after the other, with how many triples of each were new. -/
def Store.addEach (s : Store) : List (List Triple) → Store × List (Except NotConcrete Nat)
  | [] => (s, [])
  | ts :: rest =>
    let (next, count) := s.addAll ts
    let (last, counts) := next.addEach rest
    (last, count :: counts)

namespace Overlay

def extendEach (o : Overlay) : List (List Triple) → Except NotConcrete (Overlay × List Nat)
  | [] => .ok (o, [])
  | ts :: rest => do
    let (next, count) ← o.extend ts
    let (last, counts) ← next.extendEach rest
    return (last, count :: counts)

def ReadsAs (o : Overlay) (s : Store) : Prop := o.toGraph.toList = s.toList

theorem readsAs_copy (base : Graph) : (ofGraph base).ReadsAs base.copy :=
  (toList_ofGraph base).trans (Graph.toList_copy base).symm

namespace ReadsAs

variable {o : Overlay} {s : Store} (h : o.ReadsAs s)
include h

-- ---------------------------------------------------------------------------
-- Reading
-- ---------------------------------------------------------------------------

theorem find (q : Slots) : o.toGraph.find q = s.find q := by
  rw [Graph.find_eq_filter, Store.find_eq_filter, h]

theorem matchPattern (p : Triple) : o.toGraph.matchPattern p = (Graph.ofStore s).matchPattern p := by
  rw [Graph.matchPattern, Graph.matchPattern, Graph.find_eq_filter, Graph.find_eq_filter, h,
    Graph.toList_ofStore]

theorem contains (t : Triple) : o.toGraph.contains t = s.contains t := by
  rw [Bool.eq_iff_iff, ← Graph.mem_toList, h]
  simp [Store.contains, Store.toList]

theorem size : o.toGraph.size = s.size := by
  rw [Graph.size_eq_length, h]
  rfl

-- ---------------------------------------------------------------------------
-- Adding
-- ---------------------------------------------------------------------------

theorem add (ht : t.isConcrete = true) : ∃ next next' new,
    o.add t = .ok (next, new) ∧ s.add t = .ok (next', new) ∧ next.ReadsAs next' := by
  obtain ⟨next, new, hadd⟩ := o.exists_add ht
  obtain ⟨next', new', hadd'⟩ := s.exists_add ht
  refine ⟨next, next', new, hadd, ?_⟩
  rcases add_cases hadd with ⟨hm, rfl, rfl⟩ | ⟨hnot, hbase, hadded, rfl⟩
  · rcases Store.add_cases hadd' with ⟨-, rfl, rfl⟩ | ⟨hnot, -, -⟩
    · exact ⟨hadd', h⟩
    · exact absurd (h ▸ hm) hnot
  · rcases Store.add_cases hadd' with ⟨hm, -, -⟩ | ⟨-, hnext, rfl⟩
    · exact absurd (h ▸ hm) hnot
    · refine ⟨hadd', ?_⟩
      rw [ReadsAs, toList_toGraph, hbase, hadded, ← List.append_assoc, ← toList_toGraph, h, hnext]

theorem extend (hts : ∀ t ∈ ts, t.isConcrete = true) : ∃ next n, o.extend ts = .ok (next, n) ∧
    (s.addAll ts).2 = .ok n ∧ next.ReadsAs (s.addAll ts).1 := by
  induction ts generalizing o s with
  | nil => exact ⟨o, 0, rfl, rfl, h⟩
  | cons t rest ih =>
    obtain ⟨mid, mid', new, hadd, hadd', hmid⟩ := h.add (hts t List.mem_cons_self)
    obtain ⟨next, n, hextend, hcount, hnext⟩ := ih hmid fun u hu => hts u (List.mem_cons_of_mem _ hu)
    refine ⟨next, if new then n + 1 else n, ?_, ?_, ?_⟩
    · simp [Overlay.extend, hadd, hextend, bind, Except.bind, pure, Except.pure]
    · simp [Store.addAll, hadd', hcount, Except.map]
    · rwa [Store.addAll_cons hadd']

theorem extendEach (hlists : ∀ ts ∈ lists, ∀ t ∈ ts, t.isConcrete = true) : ∃ next counts,
    o.extendEach lists = .ok (next, counts) ∧ next.base = o.base ∧
      (s.addEach lists).2 = counts.map .ok ∧ next.ReadsAs (s.addEach lists).1 := by
  induction lists generalizing o s with
  | nil => exact ⟨o, [], rfl, rfl, rfl, h⟩
  | cons ts rest ih =>
    obtain ⟨mid, n, hextend, hcount, hmid⟩ := h.extend (hlists ts List.mem_cons_self)
    obtain ⟨next, counts, hrest, hbase, hcounts, hnext⟩ :=
      ih hmid fun us hus => hlists us (List.mem_cons_of_mem _ hus)
    refine ⟨next, n :: counts, ?_, hbase.trans (mem_extend hextend).1, ?_, hnext⟩
    · simp [Overlay.extendEach, hextend, hrest, bind, Except.bind, pure, Except.pure]
    · simp [Store.addEach, hcount, hcounts]

end ReadsAs

/-- Look-ups, matches, membership, size and order of an overlay are those of the store that
holds a copy of the base and got the same triples, and so are the counts of new triples.
What was added is kept apart from the base, which stays as it is. -/
theorem extendEach_reads_flat (base : Graph)
    (hlists : ∀ ts ∈ lists, ∀ t ∈ ts, t.isConcrete = true) :
    ∃ o counts flat, (ofGraph base).extendEach lists = .ok (o, counts) ∧
      base.copy.addEach lists = (flat, counts.map .ok) ∧
      (∀ q, o.toGraph.find q = flat.find q) ∧
      (∀ p, o.toGraph.matchPattern p = (Graph.ofStore flat).matchPattern p) ∧
      (∀ t, o.toGraph.contains t = flat.contains t) ∧
      o.toGraph.size = flat.size ∧ o.toGraph.toList = flat.toList ∧
      o.base = base ∧ ∀ t ∈ o.added.toList, t ∉ base.toList := by
  obtain ⟨o, counts, hextend, hbase, hcounts, hreads⟩ := (readsAs_copy base).extendEach hlists
  refine ⟨o, counts, (base.copy.addEach lists).1, hextend, by rw [← hcounts], hreads.find,
    hreads.matchPattern, hreads.contains, hreads.size, hreads, hbase, fun t ht hmem => ?_⟩
  have hnodup := o.toGraph.nodup_toList
  rw [toList_toGraph, hbase] at hnodup
  exact (List.nodup_append.mp hnodup).2.2 t hmem t ht rfl

/-- A triple of the base, one that is given twice and one that comes later count as they
would in one store. -/
theorem extendEach_reads_flat_knows : ∃ (base : Graph) (a b c : Triple) (o : Overlay) (flat : Store),
    base.toList = [a] ∧ (ofGraph base).extendEach [[a, b, b], [c, b]] = .ok (o, [1, 1]) ∧
    base.copy.addEach [[a, b, b], [c, b]] = (flat, [.ok 1, .ok 1]) ∧
    o.toGraph.toList = [a, b, c] ∧ o.toGraph.toList = flat.toList ∧
    ∀ q, o.toGraph.find q = flat.find q := by
  let knows (x y : String) : Triple := ⟨.ofIri x, .ofIri "knows", .ofIri y⟩
  let ab := knows "ann" "bob"
  let bc := knows "bob" "cleo"
  let cd := knows "cleo" "dan"
  let base : Graph := .ofStore (Store.empty.addAll [ab]).1
  have hlists : ∀ ts ∈ [[ab, bc, bc], [cd, bc]], ∀ t ∈ ts, t.isConcrete = true := by decide
  obtain ⟨o, counts, flat, hextend, hadd, hfind, -, -, -, htoList, -⟩ :=
    extendEach_reads_flat base hlists
  have hcounts : ((ofGraph base).extendEach [[ab, bc, bc], [cd, bc]]).map
      (fun x => (x.1.toGraph.toList, x.2)) = .ok ([ab, bc, cd], [1, 1]) := by decide +kernel
  rw [hextend] at hcounts
  obtain ⟨hread, rfl⟩ := Prod.mk.inj (Except.ok.inj hcounts)
  exact ⟨base, ab, bc, cd, o, flat, by decide +kernel, hextend, hadd, hread, htoList, hfind⟩

end Overlay

end TripleRules
