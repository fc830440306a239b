import TripleRules.Proofs.Dictionary
import TripleRules.Toml.Format

/-!
# Laws of formats

A format reads back every document that it writes, and its integers are those of sixty-four bits
with a sign (`Format.Lawful`). The order of the entries of a table means nothing, so it may come
back as another one (`Value.Same`).
-/

namespace TripleRules.Toml

namespace Value

variable {v w : Value} {entries entries' : List (String × Value)} {name : String}

inductive Bounded : Value → Prop
  | text (s : String) : Bounded (.text s)
  | integer {i : Int} : Number.FitsSigned i → Bounded (.integer i)
  | float (x : Float) : Bounded (.float x)
  | boolean (b : Bool) : Bounded (.boolean b)
  | moment (written : String) : Bounded (.moment written)
  | array {items : List Value} : (∀ v ∈ items, Bounded v) → Bounded (.array items)
  | table {entries : List (String × Value)} :
    (∀ e ∈ entries, Bounded e.2) → Bounded (.table entries)

theorem bounded_array {items : List Value} : (array items).Bounded ↔ ∀ v ∈ items, v.Bounded := by
  constructor
  · rintro ⟨⟩
    assumption
  · exact .array

theorem bounded_table : (table entries).Bounded ↔ ∀ e ∈ entries, e.2.Bounded := by
  constructor
  · rintro ⟨⟩
    assumption
  · exact .table

/-- Tables are the same if they have the same names in some order, and the same under each name. -/
inductive Same : Value → Value → Prop
  | refl (v : Value) : Same v v
  | table {entries entries' : List (String × Value)} :
    (entries.map Prod.fst).Perm (entries'.map Prod.fst) →
    (∀ name v w, entries.lookup name = some v → entries'.lookup name = some w → Same v w) →
    Same (.table entries) (.table entries')

theorem Same.exists_entries (h : (Value.table entries).Same v) : ∃ entries', v = .table entries' ∧
    (entries.map Prod.fst).Perm (entries'.map Prod.fst) ∧
    ∀ name v w, entries.lookup name = some v → entries'.lookup name = some w → v.Same w := by
  cases h with
  | refl => exact ⟨entries, rfl, .refl _, fun _ v w hv hw =>
      Option.some.inj (hv.symm.trans hw) ▸ .refl v⟩
  | table hnames hsame => exact ⟨_, rfl, hnames, hsame⟩

theorem Same.exists_lookup (h : (Value.table entries).Same (.table entries')) (name : String)
    (hv : entries.lookup name = some v) : ∃ w, entries'.lookup name = some w ∧ v.Same w := by
  obtain ⟨_, ⟨⟩, hnames, hsame⟩ := h.exists_entries
  have hmem := hnames.mem_iff.mp (isSome_lookup_iff.mp (Option.isSome_of_eq_some hv))
  obtain ⟨w, hw⟩ := Option.isSome_iff_exists.mp (isSome_lookup_iff.mpr hmem)
  exact ⟨w, hw, hsame name v w hv hw⟩

theorem Same.lookup_eq_none (h : (Value.table entries).Same (.table entries'))
    (hnone : entries.lookup name = none) : entries'.lookup name = none := by
  obtain ⟨_, ⟨⟩, hnames, -⟩ := h.exists_entries
  rw [← Option.not_isSome_iff_eq_none, isSome_lookup_iff] at hnone ⊢
  rwa [← hnames.mem_iff]

end Value

namespace Scalar

variable {s : Scalar}

theorem eq_of_same {v : Value} (h : s.toValue.Same v) : v = s.toValue := by
  cases s <;> cases h <;> rfl

theorem bounded_toValue_iff : s.toValue.Bounded ↔ ∀ i, s = .integer i → Number.FitsSigned i := by
  cases s with
  | text s => simp [toValue, Value.Bounded.text]
  | integer i =>
    constructor
    · rintro ⟨⟩ j ⟨⟩
      assumption
    · exact fun h => .integer (h i rfl)
  | boolean b => simp [toValue, Value.Bounded.boolean]

end Scalar

namespace Part

variable {v : Value} {entries : List (String × Scalar)}

def Distinct : Part → Prop
  | .fields entries => (entries.map Prod.fst).Nodup
  | .tables entries => (entries.map Prod.fst).Nodup ∧ ∀ t ∈ entries, (t.2.map Prod.fst).Nodup

theorem lookup_toValue (entries : List (String × Scalar)) (name : String) :
    (entries.map fun e => (e.1, e.2.toValue)).lookup name =
      (entries.lookup name).map Scalar.toValue := by
  induction entries with
  | nil => rfl
  | cons e rest ih =>
    obtain ⟨first, s⟩ := e
    rw [List.map_cons, lookup_cons_eq_ite, lookup_cons_eq_ite, ih]
    split <;> rfl

theorem exists_of_same_fields (h : (fields entries).toValue.Same v) :
    ∃ entries', v = .table entries' ∧
      ∀ name, entries'.lookup name = (entries.lookup name).map Scalar.toValue := by
  obtain ⟨entries', rfl, -⟩ := h.exists_entries
  refine ⟨entries', rfl, fun name => ?_⟩
  have hlookup := lookup_toValue entries name
  cases hs : entries.lookup name with
  | none => exact h.lookup_eq_none (by simpa [hs] using hlookup)
  | some s =>
    rw [hs] at hlookup
    obtain ⟨w, hw, hsame⟩ := h.exists_lookup name hlookup
    rw [hw, Scalar.eq_of_same hsame]
    rfl

theorem exists_of_same_tables {entries : List (String × List (String × Scalar))}
    (hnodup : (entries.map Prod.fst).Nodup) (h : (tables entries).toValue.Same v) : ∃ entries',
    v = .table entries' ∧ (entries.map Prod.fst).Perm (entries'.map Prod.fst) ∧
      ∀ e ∈ entries', ∃ t ∈ entries, t.1 = e.1 ∧ (fields t.2).toValue.Same e.2 := by
  let written := entries.map fun t => (t.1, (fields t.2).toValue)
  have hwritten : written.map Prod.fst = entries.map Prod.fst := by
    simp [written, Function.comp_def]
  have hsame : (Value.table written).Same v := h
  obtain ⟨entries', rfl, hnames, hlookup⟩ := hsame.exists_entries
  rw [hwritten] at hnames
  refine ⟨entries', rfl, hnames, fun e he => ?_⟩
  obtain ⟨t, ht, heq⟩ := List.mem_map.mp (hnames.mem_iff.mpr (List.mem_map_of_mem he))
  have hmem : (e.1, (fields t.2).toValue) ∈ written := List.mem_map.mpr ⟨t, ht, by rw [heq]⟩
  exact ⟨t, ht, heq, hlookup e.1 _ _ ((lookup_eq_some_iff_mem (hwritten ▸ hnodup)).mpr hmem)
    ((lookup_eq_some_iff_mem (hnames.nodup hnodup)).mpr he)⟩

end Part

def Document.Distinct (d : Document) : Prop := (d.map Prod.fst).Nodup ∧ ∀ p ∈ d, p.2.Distinct

/-- What is known of a format. -/
structure Format.Lawful (format : Format) : Prop where
  /-- A document that is written is read back, but for the order of entries. -/
  same_of_write {d : Document} {text : String} :
    d.Distinct → format.write? d = some text → ∃ v, format.read? text = some v ∧ d.toValue.Same v
  bounded_of_read {text : String} {v : Value} : format.read? text = some v → v.Bounded
  /-- Just the documents with such integers can be written. -/
  isSome_write_iff {d : Document} : d.Distinct → ((format.write? d).isSome ↔ d.toValue.Bounded)

end TripleRules.Toml
