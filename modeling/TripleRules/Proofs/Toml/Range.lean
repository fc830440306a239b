import TripleRules.Proofs.Outcome
import TripleRules.Proofs.Toml.Format
import TripleRules.Proofs.Toml.Table

/-!
# The range of integers that are read

Every integer in a document that was read is within sixty-four bits (`Value.bounded_ofText?`). The
words bring this about, and what puts values together keeps it: the readers of arrays and tables,
and the tables that a document is built of.
-/

namespace TripleRules.Toml

variable {α : Type} {cs : List Char} {v : Value}

theorem fitsSigned_of_integer? {i : Int} (h : integer? cs = some i) : Number.FitsSigned i := by
  obtain ⟨j, -, hj⟩ := Option.bind_eq_some_iff.mp h
  rw [Number.checked] at hj
  split at hj
  · next hfits => exact Option.some.inj hj ▸ hfits
  · cases hj

theorem Value.bounded_ofWord? (h : ofWord? cs = some v) : v.Bounded := by
  rw [ofWord?.eq_def] at h
  split at h
  · obtain rfl := Option.some.inj h
    exact .boolean _
  · obtain rfl := Option.some.inj h
    exact .boolean _
  · split at h
    · next i hi =>
      obtain rfl := Option.some.inj h
      exact .integer (fitsSigned_of_integer? hi)
    · split at h
      · obtain rfl := Option.some.inj h
        exact .float _
      · split at h
        · obtain rfl := Option.some.inj h
          exact .moment _
        · cases h

-- ---------------------------------------------------------------------------
-- Readers
-- ---------------------------------------------------------------------------

def Yields (P : α → Prop) (read : List Char → Option (α × List Char)) : Prop :=
  ∀ cs a rest, read cs = some (a, rest) → P a

theorem yields_word? : Yields Value.Bounded word? := by
  intro cs v rest h
  simp only [word?, Option.bind_eq_bind, Option.pure_def] at h
  split at h
  · split at h
    · obtain ⟨rfl, -⟩ := Prod.mk.inj (Option.some.inj h)
      exact .moment _
    · obtain ⟨w, hw, h⟩ := Option.bind_eq_some_iff.mp h
      obtain ⟨rfl, -⟩ := Prod.mk.inj (Option.some.inj h)
      exact Value.bounded_ofWord? hw
  · obtain ⟨w, hw, h⟩ := Option.bind_eq_some_iff.mp h
    obtain ⟨rfl, -⟩ := Prod.mk.inj (Option.some.inj h)
    exact Value.bounded_ofWord? hw

theorem yields_scalar? : Yields Value.Bounded scalar? := by
  intro cs v rest h
  simp only [scalar?] at h
  split at h
  · obtain ⟨p, -, hp⟩ := Option.map_eq_some_iff.mp h
    obtain ⟨rfl, -⟩ := Prod.mk.inj hp
    exact .text _
  · exact yields_word? _ _ _ h

section

variable {value : List Char → Option (Value × List Char)} (hvalue : Yields Value.Bounded value)
include hvalue

theorem yields_items? (most : Nat) :
    Yields (fun items => ∀ v ∈ items, v.Bounded) (items? value most) := by
  induction most with
  | zero =>
    intro cs items rest h
    cases h
  | succ most ih =>
    intro cs items rest h
    simp only [items?] at h
    split at h
    · obtain ⟨rfl, -⟩ := Prod.mk.inj (Option.some.inj h)
      simp
    · simp only [Option.bind_eq_bind, Option.bind_eq_some_iff, Option.pure_def] at h
      obtain ⟨⟨v, next⟩, hv, h⟩ := h
      have hbounded := hvalue _ _ _ hv
      dsimp only at h
      split at h
      · obtain ⟨⟨more, last⟩, hmore, h⟩ := Option.bind_eq_some_iff.mp h
        obtain ⟨rfl, -⟩ := Prod.mk.inj (Option.some.inj h)
        exact List.forall_mem_cons.mpr ⟨hbounded, ih _ _ _ hmore⟩
      · obtain ⟨rfl, -⟩ := Prod.mk.inj (Option.some.inj h)
        simpa using hbounded
      · cases h

theorem yields_assignment? : Yields (fun a => a.2.Bounded) (assignment? value) := by
  intro cs a rest h
  simp only [assignment?, Option.bind_eq_bind, Option.bind_eq_some_iff, Option.pure_def,
    Option.some.injEq, Prod.mk.injEq] at h
  obtain ⟨⟨k, next⟩, -, after, -, ⟨v, last⟩, hv, rfl, -⟩ := h
  exact hvalue _ _ _ hv

theorem yields_members? (most : Nat) :
    Yields (fun members => ∀ a ∈ members, a.2.Bounded) (members? value most) := by
  induction most with
  | zero =>
    intro cs items rest h
    cases h
  | succ most ih =>
    intro cs members rest h
    simp only [members?, Option.bind_eq_bind, Option.bind_eq_some_iff, Option.pure_def] at h
    obtain ⟨⟨a, next⟩, ha, h⟩ := h
    have hbounded := yields_assignment? hvalue _ _ _ ha
    dsimp only at h
    split at h
    · obtain ⟨⟨more, last⟩, hmore, h⟩ := Option.bind_eq_some_iff.mp h
      obtain ⟨rfl, -⟩ := Prod.mk.inj (Option.some.inj h)
      exact List.forall_mem_cons.mpr ⟨hbounded, ih _ _ _ hmore⟩
    · obtain ⟨rfl, -⟩ := Prod.mk.inj (Option.some.inj h)
      simpa using hbounded
    · cases h

end

-- ---------------------------------------------------------------------------
-- Tables
-- ---------------------------------------------------------------------------

namespace Entries

def Bounded (entries : Entries) : Prop := ∀ e ∈ entries, e.2.toValue.Bounded

theorem bounded_toValues {entries : Entries} :
    (Value.table (toValues entries)).Bounded ↔ Bounded entries := by
  rw [Value.bounded_table, toValues_eq, List.forall_mem_map]
  rfl

theorem bounded_tables {earlier : List Entries} {last : Entries} :
    (Node.tables earlier last).toValue.Bounded ↔ (∀ e ∈ earlier, Bounded e) ∧ Bounded last := by
  simp only [Node.toValue, toTables_eq, Value.bounded_array, List.forall_mem_append,
    List.forall_mem_map, List.forall_mem_singleton, bounded_toValues]

theorem bounded_nil : Bounded [] := fun _ h => nomatch h

theorem bounded_concat {entries : Entries} {name : String} {node : Node} :
    Bounded (entries ++ [(name, node)]) ↔ Bounded entries ∧ node.toValue.Bounded := by
  simp only [Bounded, List.forall_mem_append, List.forall_mem_singleton]

theorem bounded_put {entries : Entries} {name : String} {node : Node} (h : Bounded entries)
    (hnode : node.toValue.Bounded) : Bounded (entries.put name node) := by
  induction entries with
  | nil => simpa [put, Bounded] using hnode
  | cons e rest ih =>
    obtain ⟨he, hrest⟩ := List.forall_mem_cons.mp h
    rw [put]
    split
    · exact List.forall_mem_cons.mpr ⟨hnode, hrest⟩
    · exact List.forall_mem_cons.mpr ⟨he, ih hrest⟩

theorem bounded_of_lookup {entries : Entries} {name : String} {node : Node} (h : Bounded entries)
    (hnode : entries.lookup name = some node) : node.toValue.Bounded := by
  obtain ⟨before, after, rfl, -⟩ := List.lookup_eq_some_iff.mp hnode
  exact h (name, node) (by simp)

/-- What a change keeps at the end of a path, it keeps for all the entries. -/
theorem bounded_descend {dotted : Bool} {change : Origin → Entries → Option Entries}
    {path : List String} {origin : Origin} {entries changed : Entries}
    (hchange : ∀ o e d, change o e = some d → Bounded e → Bounded d)
    (h : descend dotted change path origin entries = some changed) (hentries : Bounded entries) :
    Bounded changed := by
  induction path generalizing origin entries changed with
  | nil => exact hchange _ _ _ h hentries
  | cons name path ih =>
    simp only [descend] at h
    split at h
    · obtain ⟨inner, hinner, h⟩ := Option.bind_eq_some_iff.mp h
      obtain rfl := Option.some.inj h
      exact bounded_concat.mpr ⟨hentries, bounded_toValues.mpr (ih hinner bounded_nil)⟩
    · cases h
    · next o inner hlookup =>
      split at h
      · cases h
      · obtain ⟨d, hd, h⟩ := Option.bind_eq_some_iff.mp h
        obtain rfl := Option.some.inj h
        have hinner := bounded_toValues.mp (bounded_of_lookup hentries hlookup)
        exact bounded_put hentries (bounded_toValues.mpr (ih hd hinner))
    · next earlier last hlookup =>
      obtain ⟨d, hd, h⟩ := Option.bind_eq_some_iff.mp h
      obtain rfl := Option.some.inj h
      obtain ⟨hearlier, hlast⟩ := bounded_tables.mp (bounded_of_lookup hentries hlookup)
      exact bounded_put hentries (bounded_tables.mpr ⟨hearlier, ih hd hlast⟩)

theorem bounded_assign {k : Key} {origin : Origin} {entries changed : Entries}
    (h : assign k v origin entries = some changed) (hv : v.Bounded) (hentries : Bounded entries) :
    Bounded changed := by
  refine bounded_descend (fun o e d hd he => ?_) h hentries
  split at hd
  · cases hd
  · obtain rfl := Option.some.inj hd
    exact bounded_concat.mpr ⟨he, hv⟩

theorem bounded_declare {k : Key} {entries changed : Entries}
    (h : declare k entries = some changed) (hentries : Bounded entries) : Bounded changed := by
  refine bounded_descend (fun o e d hd he => ?_) h hentries
  split at hd
  · obtain rfl := Option.some.inj hd
    exact bounded_concat.mpr ⟨he, bounded_toValues.mpr bounded_nil⟩
  · next inner hlookup =>
    obtain rfl := Option.some.inj hd
    have hinner := bounded_toValues.mp (bounded_of_lookup he hlookup)
    exact bounded_put he (bounded_toValues.mpr hinner)
  · cases hd

theorem bounded_extend {k : Key} {entries changed : Entries}
    (h : extend k entries = some changed) (hentries : Bounded entries) : Bounded changed := by
  refine bounded_descend (fun o e d hd he => ?_) h hentries
  split at hd
  · obtain rfl := Option.some.inj hd
    exact bounded_concat.mpr ⟨he, bounded_tables.mpr ⟨by simp, bounded_nil⟩⟩
  · next earlier last hlookup =>
    obtain rfl := Option.some.inj hd
    have hall := bounded_tables.mp (bounded_of_lookup he hlookup)
    refine bounded_put he (bounded_tables.mpr ⟨?_, bounded_nil⟩)
    rw [List.forall_mem_append, List.forall_mem_singleton]
    exact hall
  · cases hd

end Entries

theorem Value.bounded_ofAssignments? {assignments : List (Key × Value)}
    (h : ofAssignments? assignments = some v) (hall : ∀ a ∈ assignments, a.2.Bounded) :
    v.Bounded := by
  obtain ⟨entries, hentries, h⟩ := Option.bind_eq_some_iff.mp h
  obtain rfl := Option.some.inj h
  exact Entries.bounded_toValues.mpr (Option.foldlM_keeps
    (fun s a ha s' hs => Entries.bounded_assign hs (hall a ha)) hentries Entries.bounded_nil)

-- ---------------------------------------------------------------------------
-- Documents
-- ---------------------------------------------------------------------------

theorem yields_value? (depth : Nat) : Yields Value.Bounded (value? depth) := by
  induction depth with
  | zero => exact yields_scalar?
  | succ depth ih =>
    intro cs v rest h
    simp only [value?] at h
    split at h
    · obtain ⟨⟨items, next⟩, hitems, h⟩ := Option.map_eq_some_iff.mp h
      obtain ⟨rfl, -⟩ := Prod.mk.inj h
      exact .array (yields_items? ih _ _ _ _ hitems)
    · split at h
      · obtain ⟨rfl, -⟩ := Prod.mk.inj (Option.some.inj h)
        exact .table (by simp)
      · simp only [Option.bind_eq_bind, Option.bind_eq_some_iff, Option.pure_def,
          Option.some.injEq, Prod.mk.injEq] at h
        obtain ⟨⟨assignments, next⟩, hassignments, w, hw, rfl, -⟩ := h
        exact Value.bounded_ofAssignments? hw (yields_members? ih _ _ _ _ hassignments)
    · exact yields_scalar? _ _ _ h

def Statement.Bounded : Statement → Prop
  | .assignment _ v => v.Bounded
  | _ => True

theorem yields_statement? : Yields Statement.Bounded statement? := by
  intro cs s rest h
  rw [statement?.eq_def] at h
  split at h <;> simp only [Option.bind_eq_bind, Option.bind_eq_some_iff, Option.pure_def,
    Option.some.injEq, Prod.mk.injEq] at h
  · obtain ⟨k, -, _, -, _, -, _, -, rfl, -⟩ := h
    trivial
  · obtain ⟨k, -, _, -, _, -, rfl, -⟩ := h
    trivial
  · obtain ⟨a, hread, _, -, rfl, -⟩ := h
    exact yields_assignment? (yields_value? _) _ _ _ hread

theorem bounded_of_statements? {most : Nat} {statements : List Statement}
    (h : statements? most cs = some statements) : ∀ s ∈ statements, s.Bounded := by
  induction most generalizing cs statements with
  | zero => cases h
  | succ most ih =>
    simp only [statements?] at h
    split at h
    · obtain rfl := Option.some.inj h
      simp
    · simp only [Option.bind_eq_bind, Option.bind_eq_some_iff, Option.pure_def,
        Option.some.injEq] at h
      obtain ⟨⟨s, next⟩, hs, rest, hrest, rfl⟩ := h
      exact List.forall_mem_cons.mpr ⟨yields_statement? _ _ _ hs, ih hrest⟩

theorem Draft.bounded_add {d d' : Draft} {s : Statement} (h : d.add s = some d') (hs : s.Bounded)
    (hd : d.entries.Bounded) : d'.entries.Bounded := by
  cases s with
  | header k =>
    obtain ⟨entries, hentries, h⟩ := Option.bind_eq_some_iff.mp h
    obtain rfl := Option.some.inj h
    exact Entries.bounded_declare hentries hd
  | element k =>
    obtain ⟨entries, hentries, h⟩ := Option.bind_eq_some_iff.mp h
    obtain rfl := Option.some.inj h
    exact Entries.bounded_extend hentries hd
  | assignment k v =>
    obtain ⟨entries, hentries, h⟩ := Option.bind_eq_some_iff.mp h
    obtain rfl := Option.some.inj h
    exact Entries.bounded_descend (fun o e d he => Entries.bounded_assign he hs) hentries hd

theorem Value.bounded_ofText? {s : String} (h : ofText? s = some v) : v.Bounded := by
  obtain ⟨statements, hstatements, h⟩ := Option.bind_eq_some_iff.mp h
  obtain ⟨d, hd, h⟩ := Option.bind_eq_some_iff.mp h
  obtain rfl := Option.some.inj h
  have hall := bounded_of_statements? hstatements
  exact Entries.bounded_toValues.mpr (Option.foldlM_keeps (motive := fun d => d.entries.Bounded)
    (fun _ s hs _ hadd hd => Draft.bounded_add hadd (hall s hs) hd) hd Entries.bounded_nil)

end TripleRules.Toml
