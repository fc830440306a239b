import TripleRules.Proofs.Toml.Range
import TripleRules.Proofs.Toml.Section

/-!
# The standard format

TOML has the laws of a format (`Format.standard_lawful`). Part by part the sections of a document
make the table that the document stands for, and their text is read as these sections.
-/

namespace TripleRules.Toml

open Entries (Fresh ofScalars ofSections toValues)

variable {d : Document} {name : String}

-- ---------------------------------------------------------------------------
-- The table of a document
-- ---------------------------------------------------------------------------

theorem Draft.add_part (draft : Draft) (p : Part) (hname : Fresh name draft.entries)
    (hp : p.Distinct) : ∃ node current,
      ((p.sections name).flatMap Section.statements).foldlM add draft =
        some ⟨draft.entries ++ [(name, node)], current⟩ ∧ node.toValue = p.toValue := by
  cases p with
  | fields entries =>
    obtain ⟨current, h⟩ := add_all_top draft [(name, entries)] (by simp) (by simpa using hname)
      (List.forall_mem_singleton.mpr hp)
    exact ⟨_, current, h, by simp [Node.toValue, Entries.toValues_ofScalars, Part.toValue]⟩
  | tables entries =>
    obtain ⟨hnodup, hentries⟩ := hp
    cases entries with
    | nil =>
      obtain ⟨current, h⟩ := add_all_top draft [(name, [])] (by simp) (by simpa using hname)
        (by simp)
      exact ⟨_, current, h, by simp [Node.toValue, Entries.toValues_ofScalars, Part.toValue]⟩
    | cons t rest =>
      obtain ⟨current, h⟩ := add_all_implied draft (List.cons_ne_nil t rest) hname hnodup hentries
      exact ⟨_, current, h, by simp [Node.toValue, Entries.toValues_ofSections, Part.toValue]⟩

theorem Draft.add_document (draft : Draft) (hfresh : ∀ p ∈ d, Fresh p.1 draft.entries)
    (hd : d.Distinct) : ∃ entries current,
      (d.sections.flatMap Section.statements).foldlM add draft =
        some ⟨draft.entries ++ entries, current⟩ ∧
      toValues entries = d.map fun p => (p.1, p.2.toValue) := by
  induction d generalizing draft with
  | nil => exact ⟨[], draft.current, by simp [Document.sections], rfl⟩
  | cons p rest ih =>
    obtain ⟨hnodup, hparts⟩ := hd
    rw [List.map_cons, List.nodup_cons] at hnodup
    obtain ⟨hname, hnodup⟩ := hnodup
    obtain ⟨hp, hparts⟩ := List.forall_mem_cons.mp hparts
    obtain ⟨hpfresh, hrest⟩ := List.forall_mem_cons.mp hfresh
    obtain ⟨node, current, hfirst, hnode⟩ := add_part draft p.2 hpfresh hp
    have hnext : ∀ q ∈ rest, Fresh q.1 (draft.entries ++ [(p.1, node)]) := fun q hq =>
      Entries.fresh_concat.mpr ⟨hrest q hq, fun heq => hname (heq ▸ List.mem_map_of_mem hq)⟩
    obtain ⟨entries, last, hlast, hvalues⟩ := ih ⟨_, current⟩ hnext ⟨hnodup, hparts⟩
    refine ⟨(p.1, node) :: entries, last, ?_, by simp [toValues, hnode, hvalues]⟩
    rw [Document.sections] at hlast
    simp [Document.sections, hfirst, hlast]

theorem Value.ofStatements?_sections (hd : d.Distinct) :
    ofStatements? (d.sections.flatMap Section.statements) = some d.toValue := by
  obtain ⟨entries, current, hadd, hvalues⟩ :=
    Draft.add_document {} (fun _ _ => Entries.fresh_nil) hd
  simp [ofStatements?, hadd, hvalues, Document.toValue]

-- ---------------------------------------------------------------------------
-- The text of a document
-- ---------------------------------------------------------------------------

theorem length_path_lt_maxDepth (d : Document) :
    ∀ s ∈ d.sections, s.key.path.length < maxDepth := by
  simp only [Document.sections, List.mem_flatMap]
  rintro s ⟨p, -, hs⟩
  cases hp : p.2 with
  | fields entries => simp_all [Part.sections, maxDepth]
  | tables entries =>
    cases entries with
    | nil => simp_all [Part.sections, maxDepth]
    | cons t rest =>
      rw [hp] at hs
      obtain ⟨u, -, rfl⟩ := List.mem_map.mp hs
      simp [maxDepth]

theorem Scalar.bounded_toValue {s : Scalar} : s.toValue.Bounded ↔ s.write?.isSome :=
  bounded_toValue_iff.trans isSome_write?.symm

theorem Part.isSome_write_iff (p : Part) :
    (∀ s ∈ p.sections name, ∀ e ∈ s.entries, e.2.write?.isSome) ↔ p.toValue.Bounded := by
  cases p with
  | fields entries =>
    simp only [sections, toValue, List.forall_mem_singleton, Value.bounded_table,
      List.forall_mem_map, Scalar.bounded_toValue]
  | tables entries =>
    cases entries with
    | nil => simp [sections, toValue, Value.bounded_table]
    | cons t rest =>
      simp only [sections, toValue, Value.bounded_table, List.forall_mem_map,
        Scalar.bounded_toValue]

theorem Format.standard_lawful : standard.Lawful where
  same_of_write := by
    intro d text hd h
    obtain ⟨cs, hcs, rfl⟩ := Option.map_eq_some_iff.mp h
    refine ⟨d.toValue, ?_, .refl _⟩
    change Value.ofText? (String.ofList cs) = some d.toValue
    rw [Value.ofText?_writeAll (length_path_lt_maxDepth d) hcs, Value.ofStatements?_sections hd]
  bounded_of_read h := Value.bounded_ofText? h
  isSome_write_iff := by
    intro d _
    change ((Section.writeAll? d.sections).map String.ofList).isSome ↔ d.toValue.Bounded
    rw [Option.isSome_map, Section.isSome_writeAll?, Document.sections, Document.toValue,
      Value.bounded_table, List.forall_mem_flatMap, List.forall_mem_map]
    exact forall₂_congr fun p _ => p.2.isSome_write_iff

end TripleRules.Toml
