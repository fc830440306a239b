import TripleRules.Expr.Numeric
import TripleRules.Proofs.Number.Rank

/-!
# Comparisons

All that a comparison sees of a term is its key: the place of a number in the order of numbers, the
text of a simple string, or the term itself. Keys are ordered among numbers and among texts, and two
terms are equal in a comparison if their keys are (`Term.holds_eq_iff`), so that order and equality
are transitive whatever kinds the terms are of (`Term.compareBy_coherent`). What is not a number is
a kind of its own, without order and not equal to itself.
-/

namespace TripleRules

theorem Numeric.order?_eq_compare (a b : Numeric) :
    a.order? b = a.toFloat.toModel.compare b.toFloat.toModel :=
  (Number.compare_eq_compare_rank? a.toFloat b.toFloat).symm

theorem CompareOp.existsUnique_holds (o : Ordering) :
    ∃! op, op ∈ [CompareOp.lt, .eq, .gt] ∧ op.holds o = true := by
  cases o with
  | lt => exact ⟨.lt, by decide, by rintro (_ | _) <;> simp [holds]⟩
  | eq => exact ⟨.eq, by decide, by rintro (_ | _) <;> simp [holds]⟩
  | gt => exact ⟨.gt, by decide, by rintro (_ | _) <;> simp [holds]⟩

-- ---------------------------------------------------------------------------
-- Simple strings
-- ---------------------------------------------------------------------------

theorem Vocabulary.expand_of_localName? {vocabulary identifier name : String}
    (h : localName? vocabulary identifier = some name) : identifier = expand vocabulary name := by
  obtain ⟨cs, hcs, rfl⟩ := Option.map_eq_some_iff.mp h
  rw [List.isPrefixOf?_eq_some_iff_append_eq] at hcs
  rw [expand, ← String.toList_inj, String.toList_append, String.toList_ofList, hcs]

theorem Literal.eq_of_isString {l : Literal} (h : l.isString = true) :
    l = plain l.value ∨ l = ofSchema l.value "string" := by
  obtain ⟨value, datatype⟩ := l
  cases datatype with
  | plain => exact .inl rfl
  | language tag => cases h
  | typed identifier =>
    have hname : Vocabulary.localName? Vocabulary.xsd identifier = some "string" :=
      of_decide_eq_true h
    rw [Vocabulary.expand_of_localName? hname]
    exact .inr rfl

namespace Term

variable {l r s t : Term} {op : CompareOp} {o : Ordering} {v : Bool}

def IsSimpleString (t : Term) : Prop :=
  ∃ text, t = .literal (.plain text) ∨ t = .literal (.ofSchema text "string")

def simple? (t : Term) : Option String :=
  t.literal?.bind fun l => if l.isString then some l.value else none

theorem simple?_eq_some {text : String} : t.simple? = some text ↔
    t = .literal (.plain text) ∨ t = .literal (.ofSchema text "string") := by
  constructor
  · intro h
    obtain ⟨l, hl, htext⟩ := Option.bind_eq_some_iff.mp h
    obtain ⟨hstring, hvalue⟩ := Option.ite_none_right_eq_some.mp htext
    obtain rfl : l.value = text := Option.some.inj hvalue
    cases t with
    | literal l' =>
      obtain rfl : l' = l := Option.some.inj hl
      exact (Literal.eq_of_isString hstring).imp (congrArg Term.literal) (congrArg Term.literal)
    | _ => cases hl
  · rintro (rfl | rfl) <;> rfl

theorem isSimpleString_iff : t.IsSimpleString ↔ ∃ text, t.simple? = some text :=
  exists_congr fun _ => simple?_eq_some.symm

instance : Decidable t.IsSimpleString :=
  decidable_of_iff t.simple?.isSome (Option.isSome_iff_exists.trans isSimpleString_iff.symm)

theorem stringOrder?_eq (l r : Term) :
    stringOrder? l r = do return compare (← l.simple?) (← r.simple?) := by
  rw [stringOrder?, simple?, simple?]
  cases l.literal? with
  | none => rfl
  | some a =>
    cases r.literal? with
    | none => cases h : a.isString <;> simp [h]
    | some b => cases h : a.isString <;> cases h' : b.isString <;> simp [h, h']

theorem ofTerm?_of_isSimpleString (h : t.IsSimpleString) : Numeric.ofTerm? t = none := by
  obtain ⟨text, rfl | rfl⟩ := h <;> rfl

-- ---------------------------------------------------------------------------
-- Keys
-- ---------------------------------------------------------------------------

def IsNumber (t : Term) : Prop := (Numeric.ofTerm? t).isSome

/-- A term that is read as a number and as none that has a place in the order of numbers. -/
def IsNaN (t : Term) : Prop := (Numeric.ofTerm? t).any (·.toFloat.isNaN)

/-- Two terms that are compared by an order: numbers with numbers, strings with strings. -/
def Comparable (l r : Term) : Prop :=
  l.IsNumber ∧ r.IsNumber ∨ l.IsSimpleString ∧ r.IsSimpleString

def Holds (op : CompareOp) (l r : Term) : Prop := compareBy op l r = .ok true

instance : Decidable t.IsNumber := inferInstanceAs (Decidable (_ = true))

instance : Decidable t.IsNaN := inferInstanceAs (Decidable (_ = true))

instance : Decidable (Comparable l r) := inferInstanceAs (Decidable (_ ∨ _))

instance : Decidable (Holds op l r) := inferInstanceAs (Decidable (_ = _))

inductive Key where
  | number (rank : Int)
  | nan
  | text (s : String)
  | other (t : Term)

def Key.order? : Key → Key → Option Ordering
  | .number i, .number j => some (compare i j)
  | .text a, .text b => some (compare a b)
  | _, _ => none

def key (t : Term) : Key :=
  match Numeric.ofTerm? t with
  | some n => (Number.rank? n.toFloat).elim .nan .number
  | none => t.simple?.elim (.other t) .text

inductive Kind (t : Term) : Key → Prop
  | number {n : Numeric} {i : Int} (hn : Numeric.ofTerm? t = some n)
      (hrank : Number.rank? n.toFloat = some i) : Kind t (.number i)
  | nan {n : Numeric} (hn : Numeric.ofTerm? t = some n) (hrank : Number.rank? n.toFloat = none) :
      Kind t .nan
  | text {text : String} (hn : Numeric.ofTerm? t = none) (htext : t.simple? = some text) :
      Kind t (.text text)
  | other (hn : Numeric.ofTerm? t = none) (htext : t.simple? = none) : Kind t (.other t)

theorem kind_key (t : Term) : Kind t t.key := by
  rw [key]
  split
  case h_1 n hn =>
    cases hrank : Number.rank? n.toFloat with
    | some i => exact .number hn hrank
    | none => exact .nan hn hrank
  case h_2 hn =>
    cases htext : t.simple? with
    | some text => exact .text hn htext
    | none => exact .other hn htext

variable {j k : Key}

theorem Kind.isNumber_iff (h : Kind t k) : t.IsNumber ↔ k = .nan ∨ ∃ i, k = .number i := by
  cases h with
  | number hn | nan hn | text hn | other hn => simp [IsNumber, hn]

theorem Kind.isNaN_iff (h : Kind t k) : t.IsNaN ↔ k = .nan := by
  rw [IsNaN]
  cases h with
  | number hn hrank | nan hn hrank =>
    rw [hn, Option.any_some, ← Number.rank?_eq_none_iff, hrank]
    simp
  | text hn | other hn => simp [hn]

theorem Kind.isSimpleString_iff (h : Kind t k) : t.IsSimpleString ↔ ∃ text, k = .text text := by
  cases h with
  | number hn | nan hn =>
    have hnot : ¬ t.IsSimpleString := fun hs => by simp [ofTerm?_of_isSimpleString hs] at hn
    simp [hnot]
  | text _ htext | other _ htext => simp [Term.isSimpleString_iff, htext]

-- ---------------------------------------------------------------------------
-- Results of comparisons
-- ---------------------------------------------------------------------------

theorem Kind.compareBy_eq (hl : Kind l j) (hr : Kind r k) (h : j.order? k = some o) :
    compareBy op l r = .ok (op.holds o) := by
  cases hl with
  | number hn hrank =>
    cases hr with
    | number hn' hrank' =>
      obtain rfl := Option.some.inj h
      simp [compareBy, hn, hn', Numeric.order?, hrank, hrank']
    | _ => cases h
  | text hn htext =>
    cases hr with
    | text hn' htext' =>
      obtain rfl := Option.some.inj h
      simp [compareBy, hn, stringOrder?_eq, htext, htext']
    | _ => cases h
  | _ => cases h

theorem compareBy_of_order? (h : l.key.order? r.key = some o) :
    compareBy op l r = .ok (op.holds o) :=
  l.kind_key.compareBy_eq r.kind_key h

theorem compareBy_of_compare {a b : Numeric} (hl : Numeric.ofTerm? l = some a)
    (hr : Numeric.ofTerm? r = some b)
    (h : a.toFloat.toModel.compare b.toFloat.toModel = some o) :
    compareBy op l r = .ok (op.holds o) := by
  rw [← Numeric.order?_eq_compare] at h
  simp only [compareBy, hl, hr, h]

theorem compareBy_of_isNaN (hl : l.IsNumber) (hr : r.IsNumber) (hnan : l.IsNaN ∨ r.IsNaN) :
    compareBy op l r = .ok (op = .ne) := by
  obtain ⟨a, ha⟩ := Option.isSome_iff_exists.mp hl
  obtain ⟨b, hb⟩ := Option.isSome_iff_exists.mp hr
  have horder : a.order? b = none := by
    simp only [IsNaN, ha, hb, Option.any_some, ← Number.rank?_eq_none_iff] at hnan
    rcases hnan with hnan | hnan <;> simp [Numeric.order?, hnan]
  simp only [compareBy, ha, hb, horder]

theorem compareBy_of_not_comparable (h : ¬ Comparable l r) :
    compareBy op l r = match op with
      | .eq => .ok (l = r)
      | .ne => .ok (l ≠ r)
      | _ => .error (.unordered l r) := by
  rw [compareBy.eq_def]
  split
  case h_1 a b ha hb =>
    exact absurd (.inl ⟨Option.isSome_of_eq_some ha, Option.isSome_of_eq_some hb⟩) h
  case h_2 =>
    cases horder : stringOrder? l r with
    | none => cases op <;> rfl
    | some o =>
      rw [stringOrder?_eq] at horder
      obtain ⟨a, ha, hrest⟩ := Option.bind_eq_some_iff.mp horder
      obtain ⟨b, hb, -⟩ := Option.bind_eq_some_iff.mp hrest
      exact absurd (.inr ⟨isSimpleString_iff.mpr ⟨a, ha⟩, isSimpleString_iff.mpr ⟨b, hb⟩⟩) h

theorem comparable_of_order? (h : l.key.order? r.key = some o) :
    Comparable l r ∧ ¬ l.IsNaN ∧ ¬ r.IsNaN := by
  have hl := l.kind_key
  have hr := r.kind_key
  rw [Comparable, hl.isNumber_iff, hr.isNumber_iff, hl.isSimpleString_iff, hr.isSimpleString_iff,
    hl.isNaN_iff, hr.isNaN_iff]
  generalize l.key = j at h
  generalize r.key = k at h
  cases j <;> cases k <;> cases h <;> simp

inductive Compared (l r : Term) : Prop
  | ordered {o : Ordering} (h : l.key.order? r.key = some o)
  | undefined (hl : l.IsNumber) (hr : r.IsNumber) (hnan : l.IsNaN ∨ r.IsNaN)
  | incomparable (h : ¬ Comparable l r)

theorem compared (l r : Term) : Compared l r := by
  by_cases h : Comparable l r
  · obtain ⟨hl, hr⟩ | ⟨hl, hr⟩ := h
    · by_cases hnan : l.IsNaN ∨ r.IsNaN
      · exact .undefined hl hr hnan
      · rw [l.kind_key.isNaN_iff, r.kind_key.isNaN_iff, not_or] at hnan
        obtain ⟨i, hi⟩ := (l.kind_key.isNumber_iff.mp hl).resolve_left hnan.1
        obtain ⟨j, hj⟩ := (r.kind_key.isNumber_iff.mp hr).resolve_left hnan.2
        exact .ordered (o := compare i j) (by rw [hi, hj]; rfl)
    · obtain ⟨a, ha⟩ := l.kind_key.isSimpleString_iff.mp hl
      obtain ⟨b, hb⟩ := r.kind_key.isSimpleString_iff.mp hr
      exact .ordered (o := compare a b) (by rw [ha, hb]; rfl)
  · exact .incomparable h

-- ---------------------------------------------------------------------------
-- Equality
-- ---------------------------------------------------------------------------

theorem IsNaN.isNumber (h : t.IsNaN) : t.IsNumber := Option.isSome_of_any h

theorem Key.eq_iff_of_order? (h : j.order? k = some o) : j = k ↔ o = .eq := by
  cases j <;> cases k <;> cases h <;> simp

theorem eq_of_key_eq (h : l.key = r.key) (hlr : ¬ Comparable l r) : l = r := by
  have hl := h ▸ l.kind_key
  have hr := r.kind_key
  rw [Comparable, hl.isNumber_iff, hr.isNumber_iff, hl.isSimpleString_iff, hr.isSimpleString_iff]
    at hlr
  generalize r.key = k at hl hr hlr
  -- all other keys are those of comparable terms
  cases hl with
  | other => cases hr with | other => rfl
  | _ => simp at hlr

/-- Two terms are equal in a comparison if it sees the same of them; only numbers that are out of
the order are not equal to anything. -/
theorem holds_eq_iff : Holds .eq l r ↔ l.key = r.key ∧ ¬ l.IsNaN := by
  rw [Holds]
  cases compared l r with
  | ordered h =>
    rw [compareBy_of_order? h, Key.eq_iff_of_order? h]
    simp [CompareOp.holds, (comparable_of_order? h).2.1]
  | undefined hl hr hnan =>
    -- equal keys would put both out of the order
    have hkey : ¬ (l.key = r.key ∧ ¬ l.IsNaN) := fun ⟨heq, hnot⟩ =>
      hnot (l.kind_key.isNaN_iff.mpr (heq.trans (r.kind_key.isNaN_iff.mp (hnan.resolve_left hnot))))
    rw [compareBy_of_isNaN hl hr hnan]
    simp [hkey]
  | incomparable h =>
    have hkey : l = r ↔ l.key = r.key ∧ ¬ l.IsNaN := by
      refine ⟨?_, fun hkey => eq_of_key_eq hkey.1 h⟩
      rintro rfl
      exact ⟨rfl, fun hnan => h (.inl ⟨hnan.isNumber, hnan.isNumber⟩)⟩
    rw [compareBy_of_not_comparable h, ← hkey]
    simp

theorem Holds.eq_symm (h : Holds .eq l r) : Holds .eq r l := by
  rw [holds_eq_iff, l.kind_key.isNaN_iff] at h
  rw [holds_eq_iff, r.kind_key.isNaN_iff, ← h.1]
  exact ⟨rfl, h.2⟩

theorem Holds.eq_trans (hlr : Holds .eq l r) (hrs : Holds .eq r s) : Holds .eq l s := by
  rw [holds_eq_iff] at hlr hrs ⊢
  exact ⟨hlr.1.trans hrs.1, hlr.2⟩

theorem holds_eq_self_iff : Holds .eq t t ↔ ¬ t.IsNaN := by
  rw [holds_eq_iff]
  exact and_iff_right rfl

-- ---------------------------------------------------------------------------
-- Order
-- ---------------------------------------------------------------------------

theorem Comparable.symm (h : Comparable l r) : Comparable r l := h.imp And.symm And.symm

theorem Key.order?_swap (j k : Key) : k.order? j = (j.order? k).map Ordering.swap := by
  cases j <;> cases k <;> first | rfl | exact congrArg some Std.OrientedCmp.eq_swap

theorem Key.order?_lt_trans {i j k : Key} (hij : i.order? j = some .lt)
    (hjk : j.order? k = some .lt) : i.order? k = some .lt := by
  cases i with
  | number a =>
    cases j with
    | number b =>
      cases k with
      | number c =>
        exact congrArg some (Std.TransCmp.lt_trans (Option.some.inj hij) (Option.some.inj hjk))
      | _ => cases hjk
    | _ => cases hij
  | text a =>
    cases j with
    | text b =>
      cases k with
      | text c =>
        exact congrArg some (Std.TransCmp.lt_trans (Option.some.inj hij) (Option.some.inj hjk))
      | _ => cases hjk
    | _ => cases hij
  | _ => cases hij

theorem holds_lt_iff : Holds .lt l r ↔ l.key.order? r.key = some .lt := by
  rw [Holds]
  cases compared l r with
  | ordered h => simp [compareBy_of_order? h, h, CompareOp.holds]
  | undefined hl hr hnan =>
    rw [compareBy_of_isNaN hl hr hnan]
    refine iff_of_false nofun fun h => ?_
    exact hnan.elim (comparable_of_order? h).2.1 (comparable_of_order? h).2.2
  | incomparable hlr =>
    rw [compareBy_of_not_comparable hlr]
    exact iff_of_false nofun fun h => hlr (comparable_of_order? h).1

theorem Holds.lt_trans (hlr : Holds .lt l r) (hrs : Holds .lt r s) : Holds .lt l s :=
  holds_lt_iff.mpr (Key.order?_lt_trans (holds_lt_iff.mp hlr) (holds_lt_iff.mp hrs))

theorem compareBy_gt_iff : compareBy .gt l r = .ok v ↔ compareBy .lt r l = .ok v := by
  cases compared l r with
  | @ordered o h =>
    have hswap : r.key.order? l.key = some o.swap := by rw [Key.order?_swap l.key, h]; rfl
    rw [compareBy_of_order? h, compareBy_of_order? hswap]
    cases o <;> rfl
  | undefined hl hr hnan =>
    rw [compareBy_of_isNaN hl hr hnan, compareBy_of_isNaN hr hl hnan.symm]
    rfl
  | incomparable hlr =>
    rw [compareBy_of_not_comparable hlr, compareBy_of_not_comparable fun h => hlr h.symm]
    exact iff_of_false nofun nofun

theorem compareBy_eq_ne (l r : Term) :
    ∃ v, compareBy .eq l r = .ok v ∧ compareBy .ne l r = .ok !v := by
  cases compared l r with
  | @ordered o h =>
    refine ⟨_, compareBy_of_order? h, (compareBy_of_order? h).trans ?_⟩
    cases o <;> rfl
  | undefined hl hr hnan =>
    exact ⟨false, compareBy_of_isNaN hl hr hnan, compareBy_of_isNaN hl hr hnan⟩
  | incomparable hlr =>
    refine ⟨_, compareBy_of_not_comparable hlr, (compareBy_of_not_comparable hlr).trans ?_⟩
    simp

theorem Comparable.exists_ok (h : Comparable l r) (op : CompareOp) :
    ∃ v, compareBy op l r = .ok v := by
  cases compared l r with
  | ordered h => exact ⟨_, compareBy_of_order? h⟩
  | undefined hl hr hnan => exact ⟨_, compareBy_of_isNaN hl hr hnan⟩
  | incomparable hlr => exact absurd h hlr

/-- Comparable terms, unless one is out of the order of numbers, are related in just one of three
ways, from which the other comparisons follow. -/
theorem Comparable.trichotomy (h : Comparable l r) (hl : ¬ l.IsNaN) (hr : ¬ r.IsNaN) :
    (∃! op, op ∈ [CompareOp.lt, .eq, .gt] ∧ Holds op l r) ∧
      (Holds .le l r ↔ Holds .lt l r ∨ Holds .eq l r) ∧
      (Holds .ge l r ↔ Holds .gt l r ∨ Holds .eq l r) := by
  cases compared l r with
  | @ordered o h =>
    have hholds (op : CompareOp) : Holds op l r ↔ op.holds o = true := by
      rw [Holds, compareBy_of_order? h, Except.ok.injEq]
    simp only [hholds]
    exact ⟨CompareOp.existsUnique_holds o, by cases o <;> decide, by cases o <;> decide⟩
  | undefined _ _ hnan => exact absurd hnan (not_or.mpr ⟨hl, hr⟩)
  | incomparable hlr => exact absurd h hlr

/-- The comparisons of any terms agree with one another. Equality and difference always succeed and
are opposite; the others succeed for two numbers and for two simple strings. Numbers are in the
order of floating-point values, whatever their types. -/
theorem compareBy_coherent (l r s : Term) :
    (∃ v, compareBy .eq l r = .ok v ∧ compareBy .ne l r = .ok !v) ∧
    (Comparable l r → ∀ op, ∃ v, compareBy op l r = .ok v) ∧
    (¬ Comparable l r → ∀ op ∈ [CompareOp.lt, .le, .gt, .ge],
      compareBy op l r = .error (.unordered l r)) ∧
    (Comparable l r → ¬ l.IsNaN → ¬ r.IsNaN →
      (∃! op, op ∈ [CompareOp.lt, .eq, .gt] ∧ Holds op l r) ∧
      (Holds .le l r ↔ Holds .lt l r ∨ Holds .eq l r) ∧
      (Holds .ge l r ↔ Holds .gt l r ∨ Holds .eq l r)) ∧
    (l.IsNumber → r.IsNumber → l.IsNaN ∨ r.IsNaN → ∀ op, compareBy op l r = .ok (op = .ne)) ∧
    (∀ a b o, Numeric.ofTerm? l = some a → Numeric.ofTerm? r = some b →
      a.toFloat.toModel.compare b.toFloat.toModel = some o →
      ∀ op, compareBy op l r = .ok (op.holds o)) ∧
    (∀ v, compareBy .gt l r = .ok v ↔ compareBy .lt r l = .ok v) ∧
    (Holds .eq l r → Holds .eq r l) ∧
    (Holds .eq l r → Holds .eq r s → Holds .eq l s) ∧
    (Holds .eq l l ↔ ¬ l.IsNaN) ∧
    (Holds .lt l r → Holds .lt r s → Holds .lt l s) := by
  refine ⟨compareBy_eq_ne l r, Comparable.exists_ok, fun hlr op hop => ?_, Comparable.trichotomy,
    fun hl hr hnan op => compareBy_of_isNaN hl hr hnan,
    fun a b o hl hr h op => compareBy_of_compare hl hr h, fun v => compareBy_gt_iff, Holds.eq_symm,
    Holds.eq_trans, holds_eq_self_iff, Holds.lt_trans⟩
  rw [compareBy_of_not_comparable hlr]
  fin_cases hop <;> rfl

/-- An integer, a decimal and an integer of another type that are equal; what is not a number, which
differs from numbers; and a numeral without its datatype, which is compared only with strings. -/
theorem compareBy_coherent_mixed :
    let one : Term := .literal (.ofSchema "1" "integer")
    let decimal : Term := .literal (.ofSchema " 1.0 " "decimal")
    let long : Term := .literal (.ofSchema "+01" "long")
    let undefined : Term := .literal (.ofSchema "NaN" "double")
    let text : Term := .literal (.plain "1")
    let typed : Term := .literal (.ofSchema "10" "string")
    (Holds .eq one decimal ∧ Holds .eq decimal long ∧ Holds .eq one long) ∧
      (undefined.IsNaN ∧ compareBy .ge one undefined = .ok false) ∧
      (¬ Comparable text one ∧ compareBy .ge text one = .error (.unordered text one)) ∧
      (Comparable text typed ∧ ∃! op, op ∈ [CompareOp.lt, .eq, .gt] ∧ Holds op text typed) := by
  intro one decimal long undefined text typed
  obtain ⟨-, -, -, -, -, -, -, -, htrans, -⟩ := compareBy_coherent one decimal long
  obtain ⟨-, -, -, -, hundefined, -⟩ := compareBy_coherent one undefined one
  obtain ⟨-, -, hunordered, -⟩ := compareBy_coherent text one one
  obtain ⟨-, -, -, htrichotomy, -⟩ := compareBy_coherent text typed text
  have hdecimal : Holds .eq one decimal := by decide +kernel
  have hlong : Holds .eq decimal long := by decide +kernel
  have hnan : undefined.IsNaN := by decide +kernel
  have hincomparable : ¬ Comparable text one := by decide +kernel
  have hstrings : Comparable text typed := by decide +kernel
  exact ⟨⟨hdecimal, hlong, htrans hdecimal hlong⟩,
    ⟨hnan, hundefined (by decide +kernel) hnan.isNumber (.inr hnan) .ge⟩,
    ⟨hincomparable, hunordered hincomparable .ge (by decide)⟩,
    ⟨hstrings, (htrichotomy hstrings (by decide +kernel) (by decide +kernel)).1⟩⟩

end Term

end TripleRules
