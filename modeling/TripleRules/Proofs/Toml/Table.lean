import TripleRules.Toml.Section

/-!
# The table that sections make

The header of a section opens a table, and the assignments after it fill this table with the entries
of the section. So sections side by side make one table each (`Draft.add_all`). Where the table
around them stands among all the entries is said by a function that puts it there
(`Entries.Leads`).
-/

namespace TripleRules.Toml

namespace Entries

theorem toValues_eq (entries : Entries) :
    toValues entries = entries.map fun e => (e.1, e.2.toValue) := by
  induction entries with
  | nil => rfl
  | cons e rest ih => simp [toValues, ih]

theorem toTables_eq (tables : List Entries) :
    toTables tables = tables.map fun entries => .table (toValues entries) := by
  induction tables with
  | nil => rfl
  | cons entries rest ih => simp [toTables, ih]

variable {before inner entries : Entries} {name : String} {e : String × Node} {node node' : Node}

-- ---------------------------------------------------------------------------
-- New names
-- ---------------------------------------------------------------------------

def Fresh (name : String) (entries : Entries) : Prop := ∀ e ∈ entries, e.1 ≠ name

theorem fresh_nil : Fresh name [] := List.forall_mem_nil _

theorem fresh_cons : Fresh name (e :: inner) ↔ e.1 ≠ name ∧ Fresh name inner :=
  List.forall_mem_cons

theorem fresh_concat : Fresh name (before ++ [e]) ↔ Fresh name before ∧ e.1 ≠ name := by
  simp only [Fresh, List.forall_mem_append, List.forall_mem_singleton]

theorem lookup_of_fresh (h : Fresh name inner) : inner.lookup name = none :=
  List.lookup_eq_none_iff.mpr fun e he => by simpa using (h e he).symm

theorem lookup_concat (h : Fresh name before) :
    List.lookup name (before ++ [(name, node)]) = some node := by
  simp [List.lookup_append, lookup_of_fresh h]

theorem put_concat (h : Fresh name before) :
    put name node' (before ++ [(name, node)]) = before ++ [(name, node')] := by
  induction before with
  | nil => simp [put]
  | cons e before ih =>
    obtain ⟨he, hbefore⟩ := fresh_cons.mp h
    simp [put, he, ih hbefore]

-- ---------------------------------------------------------------------------
-- Paths
-- ---------------------------------------------------------------------------

theorem descend_append {dotted : Bool} {change : Origin → Entries → Option Entries}
    {origin : Origin} (first last : List String) :
    descend dotted change (first ++ last) origin entries =
      descend dotted (descend dotted change last) first origin entries := by
  induction first generalizing origin entries with
  | nil => rfl
  | cons name first ih => simp only [List.cons_append, descend, ih]

/-- A path leads to a table, which `place` puts among the other entries. -/
def Leads (place : Entries → Entries) (path : List String) (origin : Origin) : Prop :=
  ∀ change inner,
    descend false change path .declared (place inner) = (change origin inner).map place

theorem leads_root : Leads id [] .declared := fun change inner => by
  simp [descend]

variable {place : Entries → Entries} {path : List String} {origin : Origin}

theorem Leads.concat (h : Leads place path origin) (hname : Fresh name before) (o : Origin) :
    Leads (fun inner => place (before ++ [(name, .table o inner)])) (path ++ [name]) o := by
  intro change inner
  rw [descend_append, h]
  simp only [descend, lookup_concat hname, Bool.false_and, Bool.false_eq_true, if_false]
  cases change o inner with
  | none => rfl
  | some changed => simp [put_concat hname]

theorem Leads.declare (h : Leads place path origin) (hname : Fresh name inner) :
    declare ⟨path, name⟩ (place inner) =
      some (place (inner ++ [(name, .table .declared [])])) := by
  rw [Entries.declare, h]
  simp [lookup_of_fresh hname]

/-- A table is implied by the first one that is declared within it. -/
theorem declare_implied {outer : String} (h : Fresh outer entries) :
    declare ⟨[outer], name⟩ entries =
      declare ⟨[outer], name⟩ (entries ++ [(outer, .table .implied [])]) := by
  simp [declare, descend, lookup_of_fresh h, lookup_concat h, put_concat h]

-- ---------------------------------------------------------------------------
-- Entries of sections
-- ---------------------------------------------------------------------------

def ofScalars (entries : List (String × Scalar)) : Entries :=
  entries.map fun e => (e.1, .value e.2.toValue)

def ofSections (sections : List (String × List (String × Scalar))) : Entries :=
  sections.map fun s => (s.1, .table .declared (ofScalars s.2))

theorem toValues_ofScalars (entries : List (String × Scalar)) :
    toValues (ofScalars entries) = entries.map fun e => (e.1, e.2.toValue) := by
  simp [toValues_eq, ofScalars, Function.comp_def, Node.toValue]

theorem toValues_ofSections (sections : List (String × List (String × Scalar))) :
    toValues (ofSections sections) =
      sections.map fun s => (s.1, .table (s.2.map fun e => (e.1, e.2.toValue))) := by
  rw [toValues_eq]
  simp [ofSections, Function.comp_def, Node.toValue, toValues_ofScalars]

end Entries

def Section.under (path : List String) (sections : List (String × List (String × Scalar))) :
    List Section :=
  sections.map fun s => ⟨⟨path, s.1⟩, s.2⟩

open Entries (Fresh Leads ofScalars ofSections)

namespace Draft

variable {place : Entries → Entries} {path current : List String} {origin : Origin}
  {inner : Entries} {name : String} {entries : List (String × Scalar)}
  {sections : List (String × List (String × Scalar))}

theorem add_assignment {v : Value} (h : Leads place path .declared) (hname : Fresh name inner) :
    add ⟨place inner, path⟩ (.assignment ⟨[], name⟩ v) =
      some ⟨place (inner ++ [(name, .value v)]), path⟩ := by
  simp [add, h _ inner, Entries.assign, Entries.descend, Entries.lookup_of_fresh hname]

theorem add_assignments (h : Leads place path .declared) (hnodup : (entries.map Prod.fst).Nodup)
    (hfresh : ∀ e ∈ entries, Fresh e.1 inner) :
    (entries.map fun e => Statement.assignment ⟨[], e.1⟩ e.2.toValue).foldlM add
      ⟨place inner, path⟩ = some ⟨place (inner ++ ofScalars entries), path⟩ := by
  induction entries generalizing inner with
  | nil => simp [ofScalars]
  | cons e entries ih =>
    rw [List.map_cons, List.nodup_cons] at hnodup
    obtain ⟨hname, hnodup⟩ := hnodup
    obtain ⟨he, hentries⟩ := List.forall_mem_cons.mp hfresh
    have hnext : ∀ a ∈ entries, Fresh a.1 (inner ++ [(e.1, .value e.2.toValue)]) := fun a ha =>
      Entries.fresh_concat.mpr ⟨hentries a ha, fun heq => hname (heq ▸ List.mem_map_of_mem ha)⟩
    simp [add_assignment h he, ih hnodup hnext, ofScalars]

/-- A section declares a table and fills it. -/
theorem add_section (h : Leads place path origin) (hname : Fresh name inner)
    (hnodup : (entries.map Prod.fst).Nodup) :
    (Section.statements ⟨⟨path, name⟩, entries⟩).foldlM add ⟨place inner, current⟩ =
      some ⟨place (inner ++ [(name, .table .declared (ofScalars entries))]), path ++ [name]⟩ := by
  have hfill := add_assignments (h.concat hname .declared) hnodup fun _ _ => Entries.fresh_nil
  simpa [Section.statements, add, h.declare hname, Key.parts] using hfill

theorem add_all (current : List String) (h : Leads place path origin)
    (hnodup : (sections.map Prod.fst).Nodup) (hfresh : ∀ s ∈ sections, Fresh s.1 inner)
    (hentries : ∀ s ∈ sections, (s.2.map Prod.fst).Nodup) :
    ∃ last, ((Section.under path sections).flatMap Section.statements).foldlM add
      ⟨place inner, current⟩ = some ⟨place (inner ++ ofSections sections), last⟩ := by
  induction sections generalizing inner current with
  | nil => exact ⟨current, by simp [Section.under, ofSections]⟩
  | cons s sections ih =>
    rw [List.map_cons, List.nodup_cons] at hnodup
    obtain ⟨hname, hnodup⟩ := hnodup
    obtain ⟨hs, hsections⟩ := List.forall_mem_cons.mp hfresh
    obtain ⟨hfirst, hentries⟩ := List.forall_mem_cons.mp hentries
    have hnext : ∀ a ∈ sections, Fresh a.1 (inner ++ [(s.1, .table .declared (ofScalars s.2))]) :=
      fun a ha => Entries.fresh_concat.mpr
        ⟨hsections a ha, fun heq => hname (heq ▸ List.mem_map_of_mem ha)⟩
    obtain ⟨last, hrest⟩ := ih _ hnodup hnext hentries
    refine ⟨last, ?_⟩
    rw [Section.under, List.map_cons, List.flatMap_cons, List.foldlM_append,
      add_section h hs hfirst]
    simpa [Section.under, ofSections] using hrest

theorem add_all_top (d : Draft) (sections : List (String × List (String × Scalar)))
    (hnodup : (sections.map Prod.fst).Nodup)
    (hfresh : ∀ s ∈ sections, Fresh s.1 d.entries)
    (hentries : ∀ s ∈ sections, (s.2.map Prod.fst).Nodup) :
    ∃ last, ((Section.under [] sections).flatMap Section.statements).foldlM add d =
      some ⟨d.entries ++ ofSections sections, last⟩ :=
  add_all d.current Entries.leads_root hnodup hfresh hentries

theorem add_all_implied (d : Draft) {outer : String} (hne : sections ≠ [])
    (houter : Fresh outer d.entries) (hnodup : (sections.map Prod.fst).Nodup)
    (hentries : ∀ s ∈ sections, (s.2.map Prod.fst).Nodup) :
    ∃ last, ((Section.under [outer] sections).flatMap Section.statements).foldlM add d =
      some ⟨d.entries ++ [(outer, .table .implied (ofSections sections))], last⟩ := by
  have hall := add_all d.current (Entries.leads_root.concat houter .implied) hnodup
    (fun _ _ => Entries.fresh_nil) hentries
  obtain ⟨s, sections, rfl⟩ := List.exists_cons_of_ne_nil hne
  simpa [Section.under, Section.statements, add, Entries.declare_implied houter] using hall

end Draft

end TripleRules.Toml
