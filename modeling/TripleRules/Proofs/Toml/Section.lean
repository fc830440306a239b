import TripleRules.Proofs.Number.Numeral
import TripleRules.Proofs.Toml.Text
import TripleRules.Toml.Reader
import TripleRules.Toml.Section

/-!
# Sections, written and read

A row of sections that can be written is read back, statement by statement, so that its text is the
table that these statements make (`Value.ofText?_writeAll`). Each part of the text is read with
whatever follows it; what that may be is said by `NotNext` and `Stops`.
-/

namespace TripleRules

theorem Number.head?_toDigits {n : Nat} (h : 0 < n) : (Nat.toDigits 10 n).head? ≠ some '0' := by
  induction n using Nat.strongRecOn with
  | _ n ih =>
    rw [Nat.toDigits_eq_if (by decide)]
    split
    · next hlt =>
      have hall : ∀ n : Fin 10, 0 < n.val → Nat.digitChar n ≠ '0' := by decide
      simpa using hall ⟨n, hlt⟩ h
    · obtain ⟨c, cs, hcs⟩ :=
        List.exists_cons_of_ne_nil (Nat.toDigits_ne_nil (b := 10) (n := n / 10))
      simpa [hcs] using ih (n / 10) (by omega) (by omega)

namespace Toml

variable {c : Char} {cs word rest : List Char}

-- ---------------------------------------------------------------------------
-- Numbers and truth values
-- ---------------------------------------------------------------------------

theorem ungroup?_of_forall {lead : Bool} (h : ∀ c ∈ cs, c.isDigit = true)
    (hlead : cs = [] → lead = true) : ungroup? Char.isDigit lead cs = some cs := by
  induction cs generalizing lead with
  | nil => simp [ungroup?, hlead rfl]
  | cons c cs ih =>
    rw [List.forall_mem_cons] at h
    have hc : c ≠ '_' := ne_of_class (by decide) h.1
    simp [ungroup?, hc, h.1, ih h.2]

theorem isDigit_of_mem_toDigits {n : Nat} (h : c ∈ Nat.toDigits 10 n) : c.isDigit = true :=
  Nat.isDigit_of_mem_toDigits (by decide) (by decide) h

theorem wholeDigits?_toDigits (n : Nat) :
    wholeDigits? (Nat.toDigits 10 n) = some (Nat.toDigits 10 n) := by
  have hzero : ¬ (1 < (Nat.toDigits 10 n).length ∧ (Nat.toDigits 10 n).head? = some '0') := by
    rintro ⟨hlength, hhead⟩
    cases n with
    | zero => exact absurd hlength (by decide)
    | succ n => exact Number.head?_toDigits (Nat.succ_pos n) hhead
  rw [wholeDigits?, ungroup?_of_forall (fun c => isDigit_of_mem_toDigits)
    fun h => absurd h Nat.toDigits_ne_nil]
  simp [hzero]

theorem unsigned_of_forall (h : ∀ c ∈ cs, c.isDigit = true) : unsigned cs = (false, cs) := by
  rw [unsigned.eq_def]
  split
  · cases h '-' List.mem_cons_self
  · cases h '+' List.mem_cons_self
  · rfl

theorem whole?_toDigits (n : Nat) : whole? (Nat.toDigits 10 n) = some (n : Int) := by
  have hdigits := wholeDigits?_toDigits n
  have hvalue := Nat.ofDigitChars_ten_toDigits (n := n)
  have hall : ∀ c ∈ Nat.toDigits 10 n, c.isDigit = true := fun c => isDigit_of_mem_toDigits
  generalize Nat.toDigits 10 n = cs at *
  rw [whole?.eq_def]
  split
  · cases hall 'x' (by simp)
  · cases hall 'o' (by simp)
  · cases hall 'b' (by simp)
  · simp [unsigned_of_forall hall, hdigits, hvalue]

theorem whole?_toString (i : Int) : whole? (toString i).toList = some i := by
  cases i with
  | ofNat n => exact (Number.toList_toString_ofNat n).symm ▸ whole?_toDigits n
  | negSucc n =>
    rw [Number.toList_toString_negSucc]
    simp [whole?, unsigned, wholeDigits?_toDigits, Int.negSucc_eq]

theorem isDigit_of_mem_toString {i : Int} (h : c ∈ (toString i).toList) :
    c.isDigit = true ∨ c = '-' := by
  cases i with
  | ofNat n =>
    rw [Int.ofNat_eq_natCast, Number.toList_toString_ofNat] at h
    exact .inl (isDigit_of_mem_toDigits h)
  | negSucc n =>
    rw [Number.toList_toString_negSucc, List.mem_cons] at h
    exact h.symm.imp_left isDigit_of_mem_toDigits

theorem ofWord?_of_integer? {i : Int} (h : integer? word = some i) (htrue : 't' ∉ word)
    (hfalse : 'f' ∉ word) : Value.ofWord? word = some (.integer i) := by
  have hlist {s : String} (hs : String.ofList word = s) : word = s.toList := by simp [← hs]
  rw [Value.ofWord?.eq_def]
  split
  · next hs => exact absurd (hlist hs ▸ by decide) htrue
  · next hs => exact absurd (hlist hs ▸ by decide) hfalse
  · simp [h]

theorem ofWord?_toString {i : Int} (h : Number.FitsSigned i) :
    Value.ofWord? (toString i).toList = some (.integer i) := by
  refine ofWord?_of_integer? ?_ (fun ht => ?_) fun hf => ?_
  · rw [integer?, whole?_toString]
    exact if_pos h
  · exact absurd (isDigit_of_mem_toString ht) (by decide)
  · exact absurd (isDigit_of_mem_toString hf) (by decide)

theorem word?_append (hword : ∀ c ∈ word, isWordChar c = true) (hrest : Stops isWordChar rest)
    (hblank : NotNext ' ' rest) : word? (word ++ rest) = (Value.ofWord? word).map (·, rest) := by
  obtain ⟨htake, hdrop⟩ := hrest.span hword
  rw [word?, htake, hdrop]
  split
  · exact absurd rfl hblank
  · cases Value.ofWord? word <;> rfl

-- ---------------------------------------------------------------------------
-- Values
-- ---------------------------------------------------------------------------

theorem isWordChar_of_mem_toString {i : Int} (h : c ∈ (toString i).toList) :
    isWordChar c = true := by
  rcases isDigit_of_mem_toString h with hc | rfl
  · simp [isWordChar, Char.isAlphanum, hc]
  · decide

theorem exists_cons_writeText (s : String) :
    ∃ c cs, writeText s = c :: cs ∧ (c = '"' ∨ c = '\'') := by
  rw [writeText]
  cases TextStyle.ofText s.toList with
  | basic => exact ⟨'"', _, rfl, .inl rfl⟩
  | literal => exact ⟨'\'', _, rfl, .inr rfl⟩
  | multiBasic => exact ⟨'"', _, rfl, .inl rfl⟩
  | multiLiteral => exact ⟨'\'', _, rfl, .inr rfl⟩

namespace Scalar

variable {v : Scalar}

theorem write?_cases (h : v.write? = some cs) :
    (∃ s, v = .text s ∧ cs = writeText s) ∨
    cs ≠ [] ∧ (∀ c ∈ cs, isWordChar c = true) ∧ Value.ofWord? cs = some v.toValue := by
  cases v with
  | text s => exact .inl ⟨s, rfl, (Option.some.inj h).symm⟩
  | integer i =>
    simp only [write?, Number.checked] at h
    split at h
    · next hfits =>
      obtain rfl := Option.some.inj h
      refine .inr ⟨fun hnil => ?_, fun c => isWordChar_of_mem_toString, ofWord?_toString hfits⟩
      cases (congrArg whole? hnil).symm.trans (whole?_toString i)
    · cases h
  | boolean b =>
    obtain rfl := Option.some.inj h
    cases b with
    | false => exact .inr ⟨by decide, List.all_eq_true.mp (by decide), rfl⟩
    | true => exact .inr ⟨by decide, List.all_eq_true.mp (by decide), rfl⟩

/-- Only an integer beyond sixty-four bits cannot be written. -/
theorem isSome_write? : v.write?.isSome ↔ ∀ i, v = .integer i → Number.FitsSigned i := by
  cases v with
  | text s => simp [write?]
  | integer i => simp [write?, Number.checked]
  | boolean b => simp [write?]

theorem exists_cons_write (h : v.write? = some cs) :
    ∃ c rest, cs = c :: rest ∧ (isWordChar c = true ∨ c = '"' ∨ c = '\'') := by
  rcases write?_cases h with ⟨s, -, rfl⟩ | ⟨hne, hword, -⟩
  · obtain ⟨c, rest, hcs, hc⟩ := exists_cons_writeText s
    exact ⟨c, rest, hcs, .inr hc⟩
  · obtain ⟨c, rest, rfl⟩ := List.exists_cons_of_ne_nil hne
    exact ⟨c, rest, rfl, .inl (hword c List.mem_cons_self)⟩

theorem notNext_write (h : v.write? = some cs) (hword : isWordChar c = false) (hbasic : c ≠ '"')
    (hliteral : c ≠ '\'') : NotNext c (cs ++ rest) := by
  obtain ⟨d, rest, rfl, hd⟩ := exists_cons_write h
  have hne : d ≠ c := by
    rintro rfl
    simp [hword, hbasic, hliteral] at hd
  simpa using hne

theorem scalar?_write (h : v.write? = some cs) :
    scalar? (cs ++ '\n' :: rest) = some (v.toValue, '\n' :: rest) := by
  rcases write?_cases h with ⟨s, rfl, rfl⟩ | ⟨hne, hword, hvalue⟩
  · obtain ⟨c, rest', hcs, hc⟩ := exists_cons_writeText s
    have hread : text? (writeText s ++ '\n' :: rest) = some (s.toList, '\n' :: rest) :=
      text?_writeText s (by simp) (by simp)
    rw [scalar?, hread]
    simp [hcs, hc, toValue]
  · obtain ⟨c, rest', rfl⟩ := List.exists_cons_of_ne_nil hne
    have hc := hword c List.mem_cons_self
    have hstop : Stops isWordChar ('\n' :: rest) := by simp [Stops]; decide
    rw [scalar?, word?_append hword hstop (by simp), hvalue]
    have hbasic : c ≠ '"' := ne_of_class (by decide) hc
    have hliteral : c ≠ '\'' := ne_of_class (by decide) hc
    simp [hbasic, hliteral]

end Scalar

theorem value?_eq_scalar? (depth : Nat) (harray : NotNext '[' cs) (htable : NotNext '\x7b' cs) :
    value? depth cs = scalar? cs := by
  cases depth with
  | zero => rfl
  | succ depth =>
    simp only [value?]
    split
    · exact absurd rfl harray
    · exact absurd rfl htable
    · rfl

-- ---------------------------------------------------------------------------
-- Keys
-- ---------------------------------------------------------------------------

theorem skipBlanks_of_notNext (hspace : NotNext ' ' cs) (htab : NotNext '\t' cs) :
    skipBlanks cs = cs := by
  cases cs with
  | nil => rfl
  | cons c cs => simp_all [skipBlanks, isBlank]

theorem skipBlanks_writeKeyPart (key : String) :
    skipBlanks (writeKeyPart key ++ rest) = writeKeyPart key ++ rest :=
  skipBlanks_of_notNext (notNext_writeKeyPart key (by decide) (by decide) (by decide))
    (notNext_writeKeyPart key (by decide) (by decide) (by decide))

theorem key?_last (name : String) (parts : Nat) (hstop : Stops isBare rest)
    (hdot : NotNext '.' (skipBlanks rest)) :
    key? (parts + 1) (writeKeyPart name ++ rest) = some (⟨[], name⟩, skipBlanks rest) := by
  simp only [key?, skipBlanks_writeKeyPart, keyPart?_writeKeyPart name hstop, Option.bind_eq_bind,
    Option.bind_some, String.ofList_toList]
  split
  · next heq => simp [heq] at hdot
  · rfl

theorem key?_part (part : String) (parts : Nat) :
    key? (parts + 1) (writeKeyPart part ++ '.' :: rest) =
      (key? parts rest).map fun p => (⟨part :: p.1.path, p.1.name⟩, p.2) := by
  have hpoint : Stops isBare ('.' :: rest) := by simp [Stops]; decide
  have hskip : skipBlanks ('.' :: rest) = '.' :: rest := rfl
  simp only [key?, skipBlanks_writeKeyPart, keyPart?_writeKeyPart part hpoint, hskip,
    Option.bind_eq_bind, Option.bind_some, String.ofList_toList]
  cases key? parts rest <;> rfl

namespace Key

def write (k : Key) : List Char :=
  k.path.flatMap (fun part => writeKeyPart part ++ ['.']) ++ writeKeyPart k.name

theorem write_cons (part : String) (path : List String) (name : String) :
    write ⟨part :: path, name⟩ = writeKeyPart part ++ '.' :: write ⟨path, name⟩ := by
  simp [write]

theorem notNext_write (k : Key) (rest : List Char) : NotNext '[' (k.write ++ rest) := by
  obtain ⟨path, name⟩ := k
  cases path with
  | nil => exact notNext_writeKeyPart name (by decide) (by decide) (by decide)
  | cons part path =>
    rw [write_cons, List.append_assoc]
    exact notNext_writeKeyPart part (by decide) (by decide) (by decide)

end Key

theorem key?_write {k : Key} {parts : Nat} (hparts : k.path.length < parts)
    (hstop : Stops isBare rest) (hdot : NotNext '.' (skipBlanks rest)) :
    key? parts (k.write ++ rest) = some (k, skipBlanks rest) := by
  obtain ⟨path, name⟩ := k
  induction path generalizing parts with
  | nil =>
    cases parts with
    | zero => cases hparts
    | succ parts => exact key?_last name parts hstop hdot
  | cons part path ih =>
    cases parts with
    | zero => cases hparts
    | succ parts =>
      rw [Key.write_cons, List.append_assoc, List.cons_append, key?_part,
        ih (Nat.lt_of_succ_lt_succ hparts)]
      rfl

-- ---------------------------------------------------------------------------
-- Lines
-- ---------------------------------------------------------------------------

theorem assignment?_write {name : String} {v : Scalar} (h : v.write? = some cs) :
    assignment? (value? maxDepth) (writeKeyPart name ++ ' ' :: '=' :: ' ' :: (cs ++ '\n' :: rest)) =
      some ((⟨[], name⟩, v.toValue), '\n' :: rest) := by
  have hkey : key? maxDepth (writeKeyPart name ++ ' ' :: '=' :: ' ' :: (cs ++ '\n' :: rest)) =
      some (⟨[], name⟩, '=' :: ' ' :: (cs ++ '\n' :: rest)) :=
    key?_last name _ (by simp [Stops]; decide) (by simp [skipBlanks, isBlank])
  have hblank : skipBlanks (' ' :: (cs ++ '\n' :: rest)) = cs ++ '\n' :: rest :=
    skipBlanks_of_notNext (Scalar.notNext_write h (by decide) (by decide) (by decide))
      (Scalar.notNext_write h (by decide) (by decide) (by decide))
  have hvalue : value? maxDepth (cs ++ '\n' :: rest) = some (v.toValue, '\n' :: rest) := by
    rw [value?_eq_scalar? _ (Scalar.notNext_write h (by decide) (by decide) (by decide))
      (Scalar.notNext_write h (by decide) (by decide) (by decide)), Scalar.scalar?_write h]
  simp [assignment?, hkey, mark?, hblank, hvalue]
  rfl

theorem lineEnd?_newline : lineEnd? ('\n' :: rest) = some ('\n' :: rest) := rfl

theorem statement?_assignment {name : String} {v : Scalar} (h : v.write? = some cs) :
    statement? (writeKeyPart name ++ ' ' :: '=' :: ' ' :: (cs ++ '\n' :: rest)) =
      some (.assignment ⟨[], name⟩ v.toValue, '\n' :: rest) := by
  have hbracket : NotNext '[' (writeKeyPart name ++ ' ' :: '=' :: ' ' :: (cs ++ '\n' :: rest)) :=
    notNext_writeKeyPart name (by decide) (by decide) (by decide)
  rw [statement?.eq_def]
  split
  · next heq => simp [heq] at hbracket
  · next heq => simp [heq] at hbracket
  · simp [assignment?_write h, lineEnd?_newline]

theorem Section.writeHeader_eq (k : Key) : writeHeader k = '[' :: (k.write ++ [']', '\n']) := by
  simp [writeHeader, Key.write]

theorem statement?_header {k : Key} (h : k.path.length < maxDepth) :
    statement? (Section.writeHeader k ++ rest) = some (.header k, '\n' :: rest) := by
  have hkey : key? maxDepth (k.write ++ ']' :: '\n' :: rest) = some (k, ']' :: '\n' :: rest) :=
    key?_write h (by simp [Stops]; decide) (by simp [skipBlanks, isBlank])
  have hbracket := k.notNext_write (']' :: '\n' :: rest)
  simp only [Section.writeHeader_eq, List.cons_append, List.append_assoc, List.nil_append]
  rw [statement?.eq_def]
  split
  · next heq => simp [(List.cons.inj heq).2] at hbracket
  · next heq =>
    obtain rfl := (List.cons.inj heq).2
    simp [hkey, mark?, lineEnd?_newline]
  · next hne => exact absurd rfl (hne _)

-- ---------------------------------------------------------------------------
-- Documents
-- ---------------------------------------------------------------------------

theorem statements?_newline (most : Nat) :
    statements? most ('\n' :: rest) = statements? most rest := by
  cases most with
  | zero => rfl
  | succ most => simp [statements?, skipLines]

theorem skipLines_of_notNext (hline : NotNext '\n' cs) (hreturn : NotNext '\r' cs)
    (hspace : NotNext ' ' cs) (htab : NotNext '\t' cs) (hcomment : NotNext '#' cs) :
    skipLines false cs = cs := by
  cases cs with
  | nil => rfl
  | cons c cs => simp_all [skipLines, isBlank]

theorem statements?_of_statement? {s : Statement} (most : Nat) (hskip : skipLines false cs = cs)
    (h : statement? cs = some (s, '\n' :: rest)) :
    statements? (most + 1) cs = (statements? most rest).map (s :: ·) := by
  rw [statements?, hskip]
  split
  · cases h
  · simp only [h, Option.bind_eq_bind, Option.bind_some, statements?_newline]
    cases statements? most rest <;> rfl

namespace Section

theorem writeEntries?_cons {name : String} {v : Scalar} {entries : List (String × Scalar)}
    (h : writeEntries? ((name, v) :: entries) = some cs) :
    ∃ word lines, v.write? = some word ∧ writeEntries? entries = some lines ∧
      cs = writeKeyPart name ++ ' ' :: '=' :: ' ' :: (word ++ '\n' :: lines) := by
  simp only [writeEntries?, Option.bind_eq_bind, Option.bind_eq_some_iff, Option.pure_def,
    Option.some.injEq] at h
  obtain ⟨word, hword, lines, hlines, rfl⟩ := h
  exact ⟨word, lines, hword, hlines, by simp⟩

theorem write?_eq_some {s : Section} (h : s.write? = some cs) :
    ∃ lines, writeEntries? s.entries = some lines ∧ cs = writeHeader s.key ++ lines := by
  cases hlines : writeEntries? s.entries with
  | none => simp [write?, hlines] at h
  | some lines =>
    simp [write?, hlines] at h
    exact ⟨lines, rfl, h.symm⟩

theorem writeAll?_cons {s : Section} {sections : List Section}
    (h : writeAll? (s :: sections) = some cs) :
    s.write? = some cs ∧ sections = [] ∨
    ∃ before after, s.write? = some before ∧ writeAll? sections = some after ∧
      cs = before ++ '\n' :: after := by
  cases sections with
  | nil => exact .inl ⟨h, rfl⟩
  | cons t sections =>
    simp only [writeAll?, Option.bind_eq_bind, Option.bind_eq_some_iff, Option.pure_def,
      Option.some.injEq] at h
    obtain ⟨before, hbefore, after, hafter, rfl⟩ := h
    exact .inr ⟨before, after, hbefore, hafter, rfl⟩

theorem statements?_header {k : Key} {most : Nat} (h : k.path.length < maxDepth) :
    statements? (most + 1) (writeHeader k ++ rest) =
      (statements? most rest).map (.header k :: ·) :=
  statements?_of_statement? most rfl (statement?_header h)

theorem statements?_entries {entries : List (String × Scalar)} {most : Nat}
    (h : writeEntries? entries = some cs) :
    statements? (most + entries.length) (cs ++ rest) =
      (statements? most rest).map
        (entries.map (fun e => Statement.assignment ⟨[], e.1⟩ e.2.toValue) ++ ·) := by
  induction entries generalizing cs with
  | nil =>
    obtain rfl := Option.some.inj h
    simp
  | cons e entries ih =>
    obtain ⟨name, v⟩ := e
    obtain ⟨word, lines, hword, hlines, rfl⟩ := writeEntries?_cons h
    have hskip : skipLines false
        (writeKeyPart name ++ ' ' :: '=' :: ' ' :: (word ++ '\n' :: (lines ++ rest))) =
        writeKeyPart name ++ ' ' :: '=' :: ' ' :: (word ++ '\n' :: (lines ++ rest)) := by
      apply skipLines_of_notNext
      all_goals exact notNext_writeKeyPart name (by decide) (by decide) (by decide)
    have hline := statements?_of_statement? (most + entries.length) hskip
      (statement?_assignment hword)
    simp only [List.append_assoc, List.cons_append, List.length_cons, List.map_cons,
      ← Nat.add_assoc]
    rw [hline, ih hlines, Option.map_map]
    rfl

theorem statements?_write {s : Section} {most : Nat} (hdepth : s.key.path.length < maxDepth)
    (h : s.write? = some cs) :
    statements? (most + s.statements.length) (cs ++ rest) =
      (statements? most rest).map (s.statements ++ ·) := by
  obtain ⟨lines, hlines, rfl⟩ := write?_eq_some h
  have hlength : most + s.statements.length = most + s.entries.length + 1 := by
    simp [statements, Nat.add_assoc]
  rw [hlength, List.append_assoc, statements?_header hdepth, statements?_entries hlines,
    Option.map_map]
  rfl

theorem statements?_writeAll {sections : List Section} {most : Nat}
    (hdepth : ∀ s ∈ sections, s.key.path.length < maxDepth) (h : writeAll? sections = some cs) :
    statements? (most + (sections.flatMap statements).length) (cs ++ rest) =
      (statements? most rest).map (sections.flatMap statements ++ ·) := by
  induction sections generalizing cs with
  | nil =>
    obtain rfl := Option.some.inj h
    simp
  | cons s sections ih =>
    rw [List.forall_mem_cons] at hdepth
    rcases writeAll?_cons h with ⟨hwrite, rfl⟩ | ⟨before, after, hbefore, hafter, rfl⟩
    · simpa using statements?_write hdepth.1 hwrite
    · have hfuel : most + ((s :: sections).flatMap statements).length =
          most + (sections.flatMap statements).length + s.statements.length := by
        simp only [List.flatMap_cons, List.length_append]
        omega
      rw [hfuel, List.append_assoc, List.cons_append, statements?_write hdepth.1 hbefore,
        statements?_newline, ih hdepth.2 hafter, Option.map_map]
      simp [Function.comp_def]

theorem length_le_writeEntries {entries : List (String × Scalar)}
    (h : writeEntries? entries = some cs) : entries.length ≤ cs.length := by
  induction entries generalizing cs with
  | nil => exact Nat.zero_le _
  | cons e entries ih =>
    obtain ⟨name, v⟩ := e
    obtain ⟨word, lines, -, hlines, rfl⟩ := writeEntries?_cons h
    have hlength := ih hlines
    simp only [List.length_append, List.length_cons]
    omega

theorem length_le_write {s : Section} (h : s.write? = some cs) :
    s.statements.length ≤ cs.length := by
  obtain ⟨lines, hlines, rfl⟩ := write?_eq_some h
  have hlength := length_le_writeEntries hlines
  simp only [statements, writeHeader, List.length_append, List.length_cons, List.length_map]
  omega

theorem length_le_writeAll {sections : List Section} (h : writeAll? sections = some cs) :
    (sections.flatMap statements).length ≤ cs.length := by
  induction sections generalizing cs with
  | nil => exact Nat.zero_le _
  | cons s sections ih =>
    rw [List.flatMap_cons, List.length_append]
    rcases writeAll?_cons h with ⟨hwrite, rfl⟩ | ⟨before, after, hbefore, hafter, rfl⟩
    · simpa using length_le_write hwrite
    · have hlength := ih hafter
      have hfirst := length_le_write hbefore
      simp only [List.length_append, List.length_cons]
      omega

theorem exists_cons_write {s : Section} (h : s.write? = some cs) : ∃ rest, cs = '[' :: rest := by
  obtain ⟨lines, -, rfl⟩ := write?_eq_some h
  exact ⟨_, rfl⟩

theorem notNext_writeAll {sections : List Section} (h : writeAll? sections = some cs)
    (hc : c ≠ '[') : NotNext c cs := by
  cases sections with
  | nil =>
    obtain rfl := Option.some.inj h
    simp
  | cons s sections =>
    rcases writeAll?_cons h with ⟨hwrite, -⟩ | ⟨before, after, hbefore, -, rfl⟩
    · obtain ⟨rest, rfl⟩ := exists_cons_write hwrite
      simpa using hc.symm
    · obtain ⟨rest, rfl⟩ := exists_cons_write hbefore
      simpa using hc.symm

theorem isSome_writeAll? {sections : List Section} :
    (writeAll? sections).isSome ↔ ∀ s ∈ sections, ∀ e ∈ s.entries, e.2.write?.isSome := by
  have hentries (entries : List (String × Scalar)) :
      (writeEntries? entries).isSome ↔ ∀ e ∈ entries, e.2.write?.isSome := by
    induction entries with
    | nil => simp [writeEntries?]
    | cons e entries ih =>
      obtain ⟨name, v⟩ := e
      rw [List.forall_mem_cons, ← ih]
      cases hv : v.write? <;> cases hrest : writeEntries? entries <;>
        simp [writeEntries?, hv, hrest]
  have hsection (s : Section) : s.write?.isSome ↔ ∀ e ∈ s.entries, e.2.write?.isSome := by
    rw [← hentries]
    cases h : writeEntries? s.entries <;> simp [write?, h]
  induction sections with
  | nil => simp [writeAll?]
  | cons s sections ih =>
    have hall : (∀ t ∈ s :: sections, ∀ e ∈ t.entries, e.2.write?.isSome) ↔
        s.write?.isSome ∧ (writeAll? sections).isSome :=
      List.forall_mem_cons.trans (and_congr (hsection s).symm ih.symm)
    rw [hall]
    cases sections with
    | nil => simp [writeAll?]
    | cons t sections =>
      cases hs : s.write? <;> cases hrest : writeAll? (t :: sections) <;>
        simp [writeAll?, hs, hrest]

end Section

/-- The text of sections is the table that their statements make. -/
theorem Value.ofText?_writeAll {sections : List Section}
    (hdepth : ∀ s ∈ sections, s.key.path.length < maxDepth)
    (h : Section.writeAll? sections = some cs) :
    Value.ofText? (String.ofList cs) =
      Value.ofStatements? (sections.flatMap Section.statements) := by
  have hmark : NotNext '\uFEFF' cs := Section.notNext_writeAll h (by decide)
  have hread : statements? (cs.length + 1) cs = some (sections.flatMap Section.statements) := by
    have hlength := Section.length_le_writeAll h
    have hfuel : cs.length + 1 = cs.length - (sections.flatMap Section.statements).length + 1 +
        (sections.flatMap Section.statements).length := by omega
    rw [hfuel, ← List.append_nil cs, Section.statements?_writeAll hdepth h]
    simp [statements?, skipLines]
  rw [Value.ofText?, String.toList_ofList]
  split
  · simp at hmark
  · simp [hread]

end Toml

end TripleRules
