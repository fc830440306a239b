import TripleRules.Proofs.Graph.Insertion

/-!
# A store after any calls

A store that began empty has exactly the triples that calls have brought to it, each once and in
the order in which they first came; calls may repeat triples, and one that meets a triple with
a variable keeps what it has stored by then. The indexes are in step with the triples after every
call, so any of them, like a scan of all triples, answers a look-up (`Store.run_reads`).
-/

namespace TripleRules.Store

variable {s : Store} {ts before : List Triple}

inductive Call where
  | add (t : Triple)
  | addAll (ts : List Triple)

/-- The triples of a call up to the first that cannot be stored. -/
def Call.stored : Call → List Triple
  | .add t => [t].takeWhile Triple.isConcrete
  | .addAll ts => ts.takeWhile Triple.isConcrete

def perform (s : Store) : Call → Store
  | .add t => match s.add t with
    | .ok (next, _) => next
    | .error _ => s
  | .addAll ts => (s.addAll ts).1

def run (calls : List Call) : Store := calls.foldl perform empty

theorem add_eq (s : Store) (t : Triple) :
    s.add t = if t.isConcrete = true then .ok (s.perform (.add t), decide (t ∉ s.toList))
      else .error ⟨t⟩ := by
  by_cases ht : t.isConcrete = true
  · obtain ⟨next, new, hadd⟩ := s.exists_add ht
    rcases add_cases hadd with ⟨hmem, rfl, rfl⟩ | ⟨hnot, -, rfl⟩
    · simp [perform, hadd, ht, hmem]
    · simp [perform, hadd, ht, hnot]
  · simp [add, ht]

-- ---------------------------------------------------------------------------
-- What a call leaves
-- ---------------------------------------------------------------------------

theorem eraseDups_concat {α : Type} [DecidableEq α] (l : List α) (a : α) :
    (l ++ [a]).eraseDups = if a ∈ l.eraseDups then l.eraseDups else l.eraseDups ++ [a] := by
  simp only [List.eraseDups_append, List.mem_eraseDups]
  by_cases ha : a ∈ l
  · simp [ha, List.removeAll]
  · simp [ha, List.removeAll, List.eraseDups_cons]

theorem toList_addAll_of_eq (h : s.toList = before.eraseDups) :
    (s.addAll ts).1.toList = (before ++ ts.takeWhile Triple.isConcrete).eraseDups := by
  induction ts generalizing s before with
  | nil => simpa [addAll] using h
  | cons t rest ih =>
    by_cases ht : t.isConcrete = true
    · obtain ⟨next, new, hadd⟩ := s.exists_add ht
      have hnext : next.toList = (before ++ [t]).eraseDups := by
        rw [toList_add hadd, h, eraseDups_concat]
      rw [addAll_cons hadd, ih hnext, List.takeWhile_cons_of_pos ht, List.append_assoc,
        List.singleton_append]
    · have hadd : s.add t = .error ⟨t⟩ := by rw [add_eq, if_neg ht]
      simpa [addAll, hadd, ht] using h

theorem perform_eq_addAll (s : Store) (c : Call) :
    ∃ ts, s.perform c = (s.addAll ts).1 ∧ c.stored = ts.takeWhile Triple.isConcrete := by
  cases c with
  | add t =>
    refine ⟨[t], ?_, rfl⟩
    cases hadd : s.add t <;> simp [perform, addAll, hadd]
  | addAll ts => exact ⟨ts, rfl, rfl⟩

theorem toList_run (calls : List Call) :
    (run calls).toList = (calls.flatMap Call.stored).eraseDups := by
  induction calls using List.reverseRecOn with
  | nil => rfl
  | append_singleton calls c ih =>
    obtain ⟨ts, hperform, hstored⟩ := (run calls).perform_eq_addAll c
    have hrun : run (calls ++ [c]) = (run calls).perform c := List.foldl_concat ..
    rw [hrun, hperform, toList_addAll_of_eq ih, ← hstored, List.flatMap_append,
      List.flatMap_singleton]

-- ---------------------------------------------------------------------------
-- What can be read
-- ---------------------------------------------------------------------------

theorem positions_eq (s : Store) (u : Term) :
    (s.bySubject.positions u).toList =
        (s.toList.zipIdx.filter (·.1.subject = u)).map Prod.snd ∧
      (s.byPredicate.positions u).toList =
        (s.toList.zipIdx.filter (·.1.predicate = u)).map Prod.snd ∧
      (s.byObject.positions u).toList =
        (s.toList.zipIdx.filter (·.1.object = u)).map Prod.snd := by
  have h : ∀ f : Triple → Term, ((Index.ofTerms (s.toList.map f)).positions u).toList =
      (s.toList.zipIdx.filter (f ·.1 = u)).map Prod.snd := fun f => by
    rw [Index.positions_ofTerms, List.zipIdx_map, List.filter_map, List.map_map]
    rfl
  rw [s.bySubject_eq, s.byPredicate_eq, s.byObject_eq]
  exact ⟨h _, h _, h _⟩

/-- After any calls the store has the triples that were stored, each where it came first. A
further triple is new exactly if the store does not have it yet. The index of each place lists for
every term the positions at which it stands there, and a look-up finds the triples that have the
given terms in their places, in order, whichever given place it goes through. -/
theorem run_reads (calls : List Call) :
    (run calls).toList = (calls.flatMap Call.stored).eraseDups ∧
    (∀ t, (run calls).add t =
      if t.isConcrete = true then .ok (run (calls ++ [.add t]), decide (t ∉ (run calls).toList))
      else .error ⟨t⟩) ∧
    (∀ u, ((run calls).bySubject.positions u).toList =
        ((run calls).toList.zipIdx.filter (·.1.subject = u)).map Prod.snd ∧
      ((run calls).byPredicate.positions u).toList =
        ((run calls).toList.zipIdx.filter (·.1.predicate = u)).map Prod.snd ∧
      ((run calls).byObject.positions u).toList =
        ((run calls).toList.zipIdx.filter (·.1.object = u)).map Prod.snd) ∧
    ∀ q, ((run calls).find q = (run calls).toList.filter fun t =>
        (∀ u ∈ q.subject, t.subject = u) ∧ (∀ u ∈ q.predicate, t.predicate = u) ∧
          ∀ u ∈ q.object, t.object = u) ∧
      ∀ positions ∈ (run calls).lookups q,
        (positions.toList.filterMap ((run calls).triples[·]?)).filter q.admits =
          (run calls).find q := by
  refine ⟨toList_run calls, fun t => ?_, (run calls).positions_eq, fun q => ⟨?_, ?_⟩⟩
  · rw [add_eq, show run (calls ++ [.add t]) = (run calls).perform (.add t) from
      List.foldl_concat ..]
  · rw [find_eq_filter]
    refine List.filter_congr fun t _ => Bool.eq_iff_iff.mpr ?_
    rw [admits_iff, decide_eq_true_eq]
  · intro positions h
    rw [find_eq_filter, read_lookups h]

end TripleRules.Store
