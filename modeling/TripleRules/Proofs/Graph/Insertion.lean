import TripleRules.Proofs.Graph.Lookup

/-!
# Insertions

What stores and overlays hold after triples have been added. A store is
determined by its list of triples, and an overlay is read as its base
followed by its additions.
-/

namespace TripleRules

variable {t u : Triple} {ts : List Triple}

namespace Store

variable {s next : Store}

/-- A store is determined by its triples: the indexes follow from them. -/
theorem ext_toList {s s' : Store} (h : s.toList = s'.toList) : s = s' := by
  have htriples : s.triples = s'.triples := Array.toList_inj.mp h
  obtain ⟨triples, i, j, k, _, _, rfl, rfl, rfl⟩ := s
  obtain ⟨triples', i', j', k', _, _, rfl, rfl, rfl⟩ := s'
  obtain rfl : triples = triples' := htriples
  rfl

theorem nodup_toList (s : Store) : s.toList.Nodup := s.nodup

theorem isConcrete_of_mem (h : t ∈ s.toList) : t.isConcrete = true :=
  s.concrete t (by simpa [toList] using h)

theorem add_cases {new : Bool} (h : s.add t = .ok (next, new)) :
    (t ∈ s.toList ∧ next = s ∧ new = false) ∨
    (t ∉ s.toList ∧ next.toList = s.toList ++ [t] ∧ new = true) := by
  simp only [add] at h
  split at h
  · split at h
    · next hm =>
      obtain ⟨rfl, rfl⟩ := Prod.mk.inj (Except.ok.inj h)
      exact .inl ⟨by simpa [toList] using hm, rfl, rfl⟩
    · next hm =>
      obtain ⟨rfl, rfl⟩ := Prod.mk.inj (Except.ok.inj h)
      exact .inr ⟨by simpa [toList] using hm, by simp [toList, push], rfl⟩
  · cases h

theorem toList_add {new : Bool} (h : s.add t = .ok (next, new)) :
    next.toList = if t ∈ s.toList then s.toList else s.toList ++ [t] := by
  rcases add_cases h with ⟨hm, rfl, -⟩ | ⟨hnew, hnext, -⟩
  · rw [if_pos hm]
  · rw [if_neg hnew, hnext]

theorem exists_add (s : Store) (h : t.isConcrete = true) : ∃ next new, s.add t = .ok (next, new) := by
  by_cases hm : t ∈ s.triples
  · exact ⟨s, false, by simp [add, h, hm]⟩
  · exact ⟨s.push t h hm, true, by simp [add, h, hm]⟩

theorem addAll_cons {new : Bool} (h : s.add t = .ok (next, new)) :
    (s.addAll (t :: ts)).1 = (next.addAll ts).1 := by
  simp [addAll, h]

theorem mem_addAll (hts : ∀ u ∈ ts, u.isConcrete = true) :
    t ∈ (s.addAll ts).1.toList ↔ t ∈ s.toList ∨ t ∈ ts := by
  induction ts generalizing s with
  | nil => simp [addAll]
  | cons u rest ih =>
    obtain ⟨next, new, hadd⟩ := s.exists_add (hts u List.mem_cons_self)
    rw [addAll_cons hadd, ih fun v hv => hts v (List.mem_cons_of_mem _ hv), toList_add hadd]
    split
    · next hm =>
      constructor
      · rintro (h | h)
        · exact .inl h
        · exact .inr (List.mem_cons_of_mem _ h)
      · rintro (h | h)
        · exact .inl h
        · rcases List.mem_cons.mp h with rfl | h
          · exact .inl hm
          · exact .inr h
    · simp [or_assoc]

theorem toList_addAll (hts : ∀ u ∈ ts, u.isConcrete = true) (hd : (s.toList ++ ts).Nodup) :
    (s.addAll ts).1.toList = s.toList ++ ts := by
  induction ts generalizing s with
  | nil => simp [addAll]
  | cons u rest ih =>
    obtain ⟨next, new, hadd⟩ := s.exists_add (hts u List.mem_cons_self)
    have hnew : u ∉ s.toList := fun hm =>
      (List.nodup_append.mp hd).2.2 u hm u List.mem_cons_self rfl
    have hnext : next.toList = s.toList ++ [u] := by rw [toList_add hadd, if_neg hnew]
    rw [addAll_cons hadd, ih (fun v hv => hts v (List.mem_cons_of_mem _ hv)), hnext]
    · simp
    · simpa [hnext] using hd

end Store

namespace Graph

variable {g : Graph}

theorem toList_copy (g : Graph) : g.copy.toList = g.toList := by
  have hnodup : (Store.empty.toList ++ g.toList).Nodup := by
    simpa [Store.empty, Store.toList] using g.nodup_toList
  rw [copy, Store.toList_addAll (fun u hu => isConcrete_of_mem hu) hnodup]
  rfl

theorem copy_ofStore (s : Store) : (ofStore s).copy = s :=
  Store.ext_toList ((toList_copy _).trans (toList_ofStore s))

end Graph

namespace Overlay

variable {o next : Overlay} {n : Nat} {new : Bool}

theorem toList_toGraph (o : Overlay) : o.toGraph.toList = o.base.toList ++ o.added.toList := by
  simp [toGraph, Graph.toList]

theorem toList_copy_addAll (o : Overlay) :
    (o.base.copy.addAll o.added.toList).1.toList = o.toGraph.toList := by
  have hnodup := o.toGraph.nodup_toList
  rw [toList_toGraph, ← Graph.toList_copy] at hnodup ⊢
  exact Store.toList_addAll (fun u hu => Store.isConcrete_of_mem hu) hnodup

theorem toList_ofGraph (g : Graph) : (ofGraph g).toGraph.toList = g.toList := by
  simp [toList_toGraph, ofGraph, Store.empty, Store.toList]

theorem add_cases (h : o.add t = .ok (next, new)) :
    (t ∈ o.toGraph.toList ∧ next = o ∧ new = false) ∨
    (t ∉ o.toGraph.toList ∧ next.base = o.base ∧ next.added.toList = o.added.toList ++ [t] ∧
      new = true) := by
  simp only [add] at h
  split at h
  · next hbase =>
    obtain ⟨rfl, rfl⟩ := Prod.mk.inj (Except.ok.inj h)
    exact .inl ⟨by simp [toList_toGraph, Graph.mem_toList.mpr hbase], rfl, rfl⟩
  · next hbase =>
    split at h
    · split at h
      · next hm =>
        obtain ⟨rfl, rfl⟩ := Prod.mk.inj (Except.ok.inj h)
        exact .inl ⟨by simp [toList_toGraph, Store.toList, hm], rfl, rfl⟩
      · next hm =>
        obtain ⟨rfl, rfl⟩ := Prod.mk.inj (Except.ok.inj h)
        have hbase : t ∉ o.base.toList := fun hb => hbase (Graph.mem_toList.mp hb)
        refine .inr ⟨?_, rfl, by simp [Store.toList, Store.push], rfl⟩
        simp [toList_toGraph, Store.toList, hm, hbase]
    · cases h

theorem toList_add (h : o.add t = .ok (next, new)) :
    next.base = o.base ∧ next.toGraph.toList =
      if t ∈ o.toGraph.toList then o.toGraph.toList else o.toGraph.toList ++ [t] := by
  rcases add_cases h with ⟨hm, rfl, -⟩ | ⟨hnew, hbase, hadded, -⟩
  · exact ⟨rfl, by rw [if_pos hm]⟩
  · refine ⟨hbase, ?_⟩
    rw [if_neg hnew, toList_toGraph, toList_toGraph, hbase, hadded, List.append_assoc]

theorem add_of_mem (h : t ∈ o.toGraph.toList) : o.add t = .ok (o, false) := by
  simp only [add]
  split
  · rfl
  · next hbase =>
    rw [toList_toGraph, List.mem_append] at h
    have hadded : t ∈ o.added.toList := h.resolve_left fun hb => hbase (Graph.mem_toList.mp hb)
    rw [dif_pos (Store.isConcrete_of_mem hadded), dif_pos (by simpa [Store.toList] using hadded)]

theorem extend_cons (h : o.extend (t :: ts) = .ok (next, n)) :
    ∃ mid new m, o.add t = .ok (mid, new) ∧ mid.extend ts = .ok (next, m) ∧
      n = if new then m + 1 else m := by
  cases hadd : o.add t with
  | error e => simp [extend, hadd, bind, Except.bind] at h
  | ok r =>
    obtain ⟨mid, new⟩ := r
    cases hrest : mid.extend ts with
    | error e => simp [extend, hadd, hrest, bind, Except.bind] at h
    | ok r =>
      obtain ⟨last, m⟩ := r
      simp only [extend, hadd, hrest, bind, Except.bind, pure, Except.pure, Except.ok.injEq,
        Prod.mk.injEq] at h
      obtain ⟨rfl, rfl⟩ := h
      exact ⟨mid, new, m, rfl, hrest, rfl⟩

theorem added_extend (h : o.extend ts = .ok (next, n)) :
    next.added.toList =
        o.added.toList ++ (ts.filter fun t => t ∉ o.toGraph.toList).eraseDups ∧
      n = ((ts.filter fun t => t ∉ o.toGraph.toList).eraseDups).length := by
  induction ts generalizing o n with
  | nil =>
    obtain ⟨rfl, rfl⟩ := Prod.mk.inj (Except.ok.inj h)
    simp
  | cons u rest ih =>
    obtain ⟨mid, new, m, hadd, hrest, rfl⟩ := extend_cons h
    obtain ⟨hadded, hcount⟩ := ih hrest
    rcases add_cases hadd with ⟨hm, rfl, rfl⟩ | ⟨hnew, hbase, hmid, rfl⟩
    · simp [hadded, hcount, hm]
    · -- later occurrences of the triple are found to be there
      have hfilter : (rest.filter fun t => t ∉ mid.toGraph.toList) =
          (rest.filter fun t => t ∉ o.toGraph.toList).filter fun t => !t == u := by
        rw [List.filter_filter]
        refine List.filter_congr fun t _ => Bool.eq_iff_iff.mpr ?_
        simp [toList_toGraph, hbase, hmid, ← or_assoc, and_comm]
      rw [List.filter_cons_of_pos (by simpa using hnew), List.eraseDups_cons, ← hfilter]
      simp [hadded, hcount, hmid]

theorem eraseDups_of_nodup {ts : List Triple} (h : ts.Nodup) : ts.eraseDups = ts := by
  induction ts with
  | nil => rfl
  | cons t rest ih =>
    obtain ⟨hnot, hrest⟩ := List.nodup_cons.mp h
    rw [List.eraseDups_cons, List.filter_eq_self.mpr, ih hrest]
    intro u hu
    simpa using fun heq : u = t => hnot (heq ▸ hu)

theorem mem_extend (h : o.extend ts = .ok (next, n)) :
    next.base = o.base ∧ ∀ t, t ∈ next.toGraph.toList ↔ t ∈ o.toGraph.toList ∨ t ∈ ts := by
  induction ts generalizing o n with
  | nil =>
    obtain ⟨rfl, -⟩ := Prod.mk.inj (Except.ok.inj h)
    simp
  | cons u rest ih =>
    obtain ⟨mid, new, m, hadd, hrest, -⟩ := extend_cons h
    obtain ⟨hbase, hmem⟩ := ih hrest
    obtain ⟨hbase', hlist⟩ := toList_add hadd
    refine ⟨hbase.trans hbase', fun t => ?_⟩
    rw [hmem t, hlist]
    split
    · next hm =>
      by_cases ht : t = u
      · simp [ht, hm]
      · simp [ht]
    · simp [or_assoc]

theorem toList_extend (h : o.extend ts = .ok (next, n)) (hts : ts.Nodup)
    (hnew : ∀ t ∈ ts, t ∉ o.toGraph.toList) : next.toGraph.toList = o.toGraph.toList ++ ts := by
  have hfilter : (ts.filter fun t => t ∉ o.toGraph.toList) = ts :=
    List.filter_eq_self.mpr fun t ht => by simpa using hnew t ht
  have hadded := (added_extend h).1
  rw [hfilter, eraseDups_of_nodup hts] at hadded
  rw [toList_toGraph, (mem_extend h).1, hadded, ← List.append_assoc, ← toList_toGraph]

theorem toList_extend_ofGraph {g : Graph} (h : (ofGraph g).extend ts = .ok (next, n)) :
    next.toGraph.toList = g.toList ++ (ts.filter fun t => t ∉ g.toList).eraseDups ∧
      n = ((ts.filter fun t => t ∉ g.toList).eraseDups).length := by
  obtain ⟨hadded, hcount⟩ := added_extend h
  rw [toList_ofGraph] at hadded hcount
  refine ⟨?_, hcount⟩
  rw [toList_toGraph, (mem_extend h).1, hadded]
  rfl

theorem exists_add (o : Overlay) (h : t.isConcrete = true) :
    ∃ next new, o.add t = .ok (next, new) := by
  simp only [add, h, dite_true]
  split
  · exact ⟨o, false, rfl⟩
  · split
    · exact ⟨o, false, rfl⟩
    · exact ⟨_, true, rfl⟩

theorem exists_extend (o : Overlay) (hts : ∀ u ∈ ts, u.isConcrete = true) :
    ∃ next n, o.extend ts = .ok (next, n) := by
  induction ts generalizing o with
  | nil => exact ⟨o, 0, rfl⟩
  | cons u rest ih =>
    obtain ⟨mid, new, hadd⟩ := o.exists_add (hts u List.mem_cons_self)
    obtain ⟨next, n, hrest⟩ := ih mid fun v hv => hts v (List.mem_cons_of_mem _ hv)
    refine ⟨next, if new then n + 1 else n, ?_⟩
    simp [extend, hadd, hrest, bind, Except.bind, pure, Except.pure]

theorem extend_of_subset (h : ∀ t ∈ ts, t ∈ o.toGraph.toList) : o.extend ts = .ok (o, 0) := by
  induction ts with
  | nil => rfl
  | cons t rest ih =>
    simp [extend, add_of_mem (h t List.mem_cons_self),
      ih fun u hu => h u (List.mem_cons_of_mem _ hu), bind, Except.bind, pure, Except.pure]

end Overlay

end TripleRules
