import Mathlib.Data.List.Nodup
import Mathlib.Data.List.Perm.Subperm
import TripleRules.Dictionary

/-!
# Entries by name

Among entries with distinct keys, what is looked up is what stands there. A dictionary is therefore
determined by its look-ups (`Dictionary.ext_get?`), and by its entries in any order
(`Dictionary.eq_of_perm`).
-/

namespace TripleRules

section

variable {α β : Type} {entries : List (α × β)} {key : α} {value : β}

theorem perm_of_forall_mem {entries' : List (α × β)} (hnodup : (entries.map Prod.fst).Nodup)
    (hkeys : (entries.map Prod.fst).Perm (entries'.map Prod.fst))
    (h : ∀ e ∈ entries', e ∈ entries) : entries'.Perm entries := by
  refine (List.subperm_of_subset ((hkeys.nodup hnodup).of_map _) h).perm_of_length_le ?_
  simpa using Nat.le_of_eq hkeys.length_eq

variable [BEq α] [LawfulBEq α]

theorem lookup_eq_some_iff_mem (h : (entries.map Prod.fst).Nodup) :
    entries.lookup key = some value ↔ (key, value) ∈ entries := by
  induction entries with
  | nil => simp
  | cons e rest ih =>
    obtain ⟨first, v⟩ := e
    rw [List.map_cons, List.nodup_cons] at h
    by_cases hkey : key = first
    · subst hkey
      have hnot : (key, value) ∉ rest := fun hmem => h.1 (List.mem_map.mpr ⟨_, hmem, rfl⟩)
      simp [hnot, eq_comm]
    · simp [List.lookup_cons, beq_false_of_ne hkey, hkey, ih h.2]

theorem isSome_lookup_iff : (entries.lookup key).isSome ↔ key ∈ entries.map Prod.fst := by
  simp [List.lookup_isSome_iff, List.mem_map, Prod.exists, @eq_comm α]

theorem lookup_cons_eq_ite [DecidableEq α] {first : α} :
    ((first, value) :: entries).lookup key =
      if key = first then some value else entries.lookup key := by
  by_cases h : key = first
  · simp [h]
  · simp [List.lookup_cons, beq_false_of_ne h, h]

end

namespace Dictionary

variable {α : Type} {entries : List (String × α)} {d e : Dictionary α} {name other : String}
  {value : α}

-- ---------------------------------------------------------------------------
-- Look-ups
-- ---------------------------------------------------------------------------

theorem lookup_insertEntry : (insertEntry name value entries).lookup other =
    if other = name then some value else entries.lookup other := by
  induction entries with
  | nil => by_cases h : other = name <;> simp [insertEntry, h]
  | cons e rest ih =>
    obtain ⟨key, v⟩ := e
    simp only [insertEntry]
    split
    · exact lookup_cons_eq_ite
    · split
      · next heq =>
        subst heq
        rw [lookup_cons_eq_ite, lookup_cons_eq_ite]
        by_cases h : other = name
        · simp [h]
        · simp [h]
      · next hne =>
        rw [lookup_cons_eq_ite, lookup_cons_eq_ite, ih]
        by_cases h : other = key
        · subst h
          simp [Ne.symm hne]
        · simp [h]

theorem lookup_filter {p : String → Bool} :
    (entries.filter fun a => p a.1).lookup name =
      if p name then entries.lookup name else none := by
  induction entries with
  | nil => simp
  | cons first rest ih =>
    obtain ⟨key, v⟩ := first
    by_cases hkey : name = key
    · subst hkey
      cases hp : p name
      · simpa [hp] using ih
      · simp [hp]
    · cases hp : p key
      · simpa [hp, lookup_cons_eq_ite, hkey] using ih
      · simpa [hp, lookup_cons_eq_ite, hkey] using ih

-- ---------------------------------------------------------------------------
-- Entries in any order
-- ---------------------------------------------------------------------------

theorem nodup_names (d : Dictionary α) : (d.entries.map Prod.fst).Nodup := by
  refine List.pairwise_map.mpr (d.ascending.imp ?_)
  intro a b hlt heq
  exact String.lt_irrefl _ (heq ▸ hlt)

theorem nodup_of_perm (h : entries.Perm d.entries) : (entries.map Prod.fst).Nodup :=
  (h.map Prod.fst).symm.nodup d.nodup_names

theorem eq_of_perm (h : d.entries.Perm e.entries) : d = e := by
  obtain ⟨entries, hd⟩ := d
  obtain ⟨entries', he⟩ := e
  obtain rfl : entries = entries' := h.eq_of_pairwise
    (fun a b _ _ hab hba => absurd (String.lt_trans hab hba) (String.lt_irrefl _)) hd he
  rfl

theorem ext_get? (h : ∀ name, d.get? name = e.get? name) : d = e := by
  refine eq_of_perm ((List.perm_ext_iff_of_nodup d.nodup_names.of_map e.nodup_names.of_map).mpr ?_)
  rintro ⟨name, value⟩
  rw [← lookup_eq_some_iff_mem d.nodup_names, ← lookup_eq_some_iff_mem e.nodup_names]
  exact iff_of_eq (congrArg (· = some value) (h name))

theorem perm_insertEntry (h : name ∉ entries.map Prod.fst) :
    (insertEntry name value entries).Perm ((name, value) :: entries) := by
  induction entries with
  | nil => exact .refl _
  | cons e rest ih =>
    simp only [List.map_cons, List.mem_cons, not_or] at h
    rw [insertEntry]
    split
    · exact .refl _
    · rw [if_neg h.1]
      exact ((ih h.2).cons e).trans (.swap ..)

theorem perm_foldl_insert (h : ((d.entries ++ entries).map Prod.fst).Nodup) :
    (entries.foldl (fun d e => d.insert e.1 e.2) d).entries.Perm (d.entries ++ entries) := by
  induction entries generalizing d with
  | nil => simp
  | cons e rest ih =>
    have hmiddle : (d.entries ++ e :: rest).Perm (e :: (d.entries ++ rest)) := List.perm_middle
    have hname : e.1 ∉ d.entries.map Prod.fst := by
      have hnodup := (hmiddle.map Prod.fst).nodup h
      simp only [List.map_cons, List.map_append, List.nodup_cons, List.mem_append, not_or] at hnodup
      exact hnodup.1.1
    have hinsert : ((d.insert e.1 e.2).entries ++ rest).Perm (d.entries ++ e :: rest) :=
      ((perm_insertEntry hname).append_right rest).trans hmiddle.symm
    exact (ih ((hinsert.map Prod.fst).symm.nodup h)).trans hinsert

theorem ofList_of_perm (h : entries.Perm d.entries) : ofList entries = d :=
  eq_of_perm ((perm_foldl_insert (d := empty) (nodup_of_perm h)).trans h)

theorem mem_foldl_insert {e : String × α}
    (h : e ∈ (entries.foldl (fun d e => d.insert e.1 e.2) d).entries) :
    e ∈ d.entries ∨ e ∈ entries := by
  induction entries generalizing d with
  | nil => exact .inl h
  | cons a rest ih =>
    rcases ih h with hmem | hmem
    · rcases mem_insertEntry hmem with rfl | hmem
      · exact .inr List.mem_cons_self
      · exact .inl hmem
    · exact .inr (List.mem_cons_of_mem a hmem)

theorem mem_of_mem_ofList {e : String × α} (h : e ∈ (ofList entries).entries) : e ∈ entries :=
  (mem_foldl_insert h).resolve_left List.not_mem_nil

end Dictionary

end TripleRules
