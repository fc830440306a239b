import TripleRules.Toml.Text

/-!
# Texts of TOML, written and read

A text that was written in any of the styles is read back (`text?_writeText`), and so is a part of
a key (`keyPart?_writeKeyPart`). The delicate case are the quotes of a text of several lines: three
of them end it, up to two more belong to it, and the reader finds that out at the first of them.
-/

namespace TripleRules.Toml

variable {c quote : Char} {s rest : List Char} {multi : Bool}

@[simp]
theorem push_some (c : Char) (p : List Char × List Char) : push c (some p) = some (c :: p.1, p.2) :=
  rfl

theorem ne_of_class {p : Char → Bool} {d : Char} (hd : p d = false) (hc : p c = true) : c ≠ d := by
  rintro rfl
  exact Bool.false_ne_true (hd.symm.trans hc)

-- ---------------------------------------------------------------------------
-- Quotes in a row
-- ---------------------------------------------------------------------------

abbrev NotNext (quote : Char) (rest : List Char) : Prop := rest.head? ≠ some quote

theorem NotNext.ne_cons (h : NotNext quote rest) (after : List Char) : rest ≠ quote :: after := by
  rintro rfl
  exact h rfl

/-- Of the quotes at the end of a text only the last three end it. -/
theorem ending_append (quotes : List Char) (hquotes : ∀ c ∈ quotes, c = quote)
    (hcount : quotes.length ≤ 2) (h : NotNext quote rest) :
    ending quote (quotes ++ rest) = (quotes, rest) := by
  match quotes with
  | [] => cases rest <;> simp_all [ending]
  | [a] => cases rest <;> simp_all [ending]
  | [a, b] => simp_all [ending]
  | _ :: _ :: _ :: _ => simp at hcount

-- ---------------------------------------------------------------------------
-- Texts without escapes
-- ---------------------------------------------------------------------------

theorem literal_of_isPlain (hplain : isPlain c = true) (hquote : c ≠ '\'') :
    literal multi (c :: rest) = push c (literal multi rest) := by
  have hline : c ≠ '\n' := ne_of_class (by decide) hplain
  have hreturn : c ≠ '\r' := ne_of_class (by decide) hplain
  simp [literal, hquote, hline, hreturn, hplain]

theorem literal_false_append (hplain : ∀ c ∈ s, isPlain c = true) (hquote : '\'' ∉ s) :
    literal false (s ++ '\'' :: rest) = some (s, rest) := by
  induction s with
  | nil => simp [literal]
  | cons c s ih =>
    rw [List.forall_mem_cons] at hplain
    rw [List.mem_cons, not_or] at hquote
    rw [List.cons_append, literal_of_isPlain hplain.1 (Ne.symm hquote.1), ih hplain.2 hquote.2,
      push_some]

theorem literal_true_of_ne (h : ∀ after, rest ≠ '\'' :: '\'' :: after) :
    literal true ('\'' :: rest) = push '\'' (literal true rest) := by
  simp only [literal]
  split
  · simp_all
  · rfl

theorem literal_true_append (hplain : ∀ c ∈ s, isPlain c = true ∨ c = '\n')
    (hrun : ¬ ['\'', '\'', '\''] <:+: s) (hrest : NotNext '\'' rest) :
    literal true (s ++ '\'' :: '\'' :: '\'' :: rest) = some (s, rest) := by
  induction s with
  | nil => simpa [literal] using ending_append [] (by simp) (by simp) hrest
  | cons c s ih =>
    rw [List.forall_mem_cons] at hplain
    have hread := ih hplain.2 fun h => hrun (h.trans (List.suffix_cons c s).isInfix)
    rcases hplain.1 with hc | rfl
    · by_cases hquote : c = '\''
      · subst hquote
        -- the reader stops here if this quote and the next ones are the last of the text
        match s with
        | [] => simpa [literal] using ending_append ['\''] (by simp) (by simp) hrest
        | [d] =>
          by_cases hd : d = '\''
          · subst hd
            simpa [literal] using ending_append ['\'', '\''] (by simp) (by simp) hrest
          · rw [List.cons_append, literal_true_of_ne (by simp [hd]), hread, push_some]
        | d :: e :: s =>
          have hde : ¬ (d = '\'' ∧ e = '\'') := by
            rintro ⟨rfl, rfl⟩
            exact hrun ⟨[], s, rfl⟩
          rw [List.cons_append, literal_true_of_ne (by simpa using hde), hread, push_some]
      · rw [List.cons_append, literal_of_isPlain hc hquote, hread, push_some]
    · simp [literal, hread]

-- ---------------------------------------------------------------------------
-- The longest row of quotes
-- ---------------------------------------------------------------------------

/-- The row that a character belongs to or ends, and the longest one so far. -/
def countRun (quote : Char) (p : Nat × Nat) (c : Char) : Nat × Nat :=
  if c = quote then (p.1 + 1, max p.2 (p.1 + 1)) else (0, p.2)

theorem longestRun_eq : longestRun quote s = (s.foldl (countRun quote) (0, 0)).2 := rfl

theorem le_foldl_countRun (p : Nat × Nat) : p.2 ≤ (s.foldl (countRun quote) p).2 := by
  induction s generalizing p with
  | nil => exact Nat.le_refl _
  | cons c s ih =>
    refine Nat.le_trans ?_ (ih _)
    simp only [countRun]
    split
    · exact Nat.le_max_left ..
    · exact Nat.le_refl _

theorem three_le_longestRun (h : [quote, quote, quote] <:+: s) : 3 ≤ longestRun quote s := by
  obtain ⟨before, after, rfl⟩ := h
  rw [longestRun_eq, List.foldl_append, List.foldl_append]
  refine Nat.le_trans ?_ (le_foldl_countRun _)
  simp only [List.foldl_cons, List.foldl_nil, countRun, if_true]
  omega

-- ---------------------------------------------------------------------------
-- Texts with escapes
-- ---------------------------------------------------------------------------

theorem basic_of_isPlain (hplain : isPlain c = true) (hquote : c ≠ '"') (hslash : c ≠ '\\') :
    basic multi .plain (c :: rest) = push c (basic multi .plain rest) := by
  have hline : c ≠ '\n' := ne_of_class (by decide) hplain
  have hreturn : c ≠ '\r' := ne_of_class (by decide) hplain
  simp [basic, hquote, hslash, hline, hreturn, hplain]

theorem hexDigit?_digitChar {n : Nat} (h : n < 16) :
    Text.hexDigit? (Nat.digitChar n).toUpper = some n := by
  have hall : ∀ n : Fin 16, Text.hexDigit? (Nat.digitChar n).toUpper = some n.val := by decide
  exact hall ⟨n, h⟩

theorem basic_code (h : c.toNat < 256) :
    basic multi .plain ('\\' :: 'u' :: '0' :: '0' :: (Nat.digitChar (c.toNat / 16)).toUpper ::
      (Nat.digitChar (c.toNat % 16)).toUpper :: rest) = push c (basic multi .plain rest) := by
  have hhigh : Text.hexDigit? (Nat.digitChar (c.toNat / 16)).toUpper = some (c.toNat / 16) :=
    hexDigit?_digitChar (by omega)
  have hlow : Text.hexDigit? (Nat.digitChar (c.toNat % 16)).toUpper = some (c.toNat % 16) :=
    hexDigit?_digitChar (by omega)
  have hzero : Text.hexDigit? '0' = some 0 := by decide
  have hvalue : c.toNat / 16 * 16 + c.toNat % 16 = c.toNat := by omega
  have hchar : Text.char? c.toNat = some c :=
    (if_pos c.valid).trans (congrArg some (Char.ofNat_toNat c))
  simp [basic, hhigh, hlow, hzero, hvalue, hchar]

theorem toNat_of_not_isPlain (h : isPlain c = false) : c.toNat < 128 := by
  simp [isPlain] at h
  omega

theorem basic_escapeChar (hquote : c ≠ '"') :
    basic multi .plain (escapeChar multi c ++ rest) = push c (basic multi .plain rest) := by
  simp only [escapeChar]
  split
  · simp [basic, isBlank, atLineEnd, escaped?]
  · simp [basic, isBlank, atLineEnd, escaped?]
  · cases multi
    · simp [basic, isBlank, atLineEnd, escaped?]
    · simp [basic]
  · simp [basic, isBlank, atLineEnd, escaped?]
  · simp [basic, isBlank, atLineEnd, escaped?]
  · simp [basic, isBlank, atLineEnd, escaped?]
  · next hslash =>
    split
    · next hplain => exact basic_of_isPlain hplain hquote hslash
    · next hplain =>
      have hcode := toNat_of_not_isPlain (Bool.eq_false_iff.mpr hplain)
      exact basic_code (by omega)

theorem notNext_escapeChar (hquote : c ≠ '"') : NotNext '"' (escapeChar multi c ++ rest) := by
  simp only [escapeChar]
  split
  case h_3 => cases multi <;> simp
  case h_7 => split <;> simp [hquote]
  all_goals simp

theorem notNext_escapeAll {run : Nat} (h : c = '"' → multi = true → 2 ≤ run) :
    NotNext '"' (escapeAll multi run (c :: s) ++ rest) := by
  by_cases hquote : c = '"'
  · have hescape : ¬ (multi && decide (run < 2)) = true := by
      rw [Bool.and_eq_true, decide_eq_true_eq]
      exact fun hrun => Nat.not_lt.mpr (h hquote hrun.1) hrun.2
    rw [escapeAll, if_pos hquote, if_neg hescape]
    simp
  · simp only [escapeAll, if_neg hquote, List.append_assoc]
    exact notNext_escapeChar hquote

theorem basic_false_append (s : List Char) (run : Nat) :
    basic false .plain (escapeAll false run s ++ '"' :: rest) = some (s, rest) := by
  induction s generalizing run with
  | nil => simp [escapeAll, basic]
  | cons c s ih =>
    by_cases hquote : c = '"'
    · simp [escapeAll, hquote, basic, isBlank, escaped?, ih]
    · simp [escapeAll, hquote, basic_escapeChar, ih]

theorem basic_true_of_ne (h : ∀ after, rest ≠ '"' :: '"' :: after) :
    basic true .plain ('"' :: rest) = push '"' (basic true .plain rest) := by
  simp [basic]

theorem escapeAll_quote {run : Nat} (h : run < 2) :
    escapeAll true run ('"' :: s) = '"' :: escapeAll true (run + 1) s := by
  simp [escapeAll, h]

/-- After a quote there are two more only if the text ends with them. -/
theorem escapeAll_append_ne {run : Nat} (h : ¬ (s = [] ∨ s = ['"'] ∧ run = 0)) (after : List Char) :
    escapeAll true (run + 1) s ++ rest ≠ '"' :: '"' :: after := by
  cases s with
  | nil => exact absurd (.inl rfl) h
  | cons c s =>
    by_cases hquote : c = '"' ∧ run + 1 < 2
    · obtain ⟨rfl, hrun⟩ := hquote
      cases s with
      | nil => exact absurd (.inr ⟨rfl, by omega⟩) h
      | cons d s =>
        have hnext : NotNext '"' (escapeAll true (run + 1 + 1) (d :: s) ++ rest) :=
          notNext_escapeAll fun _ _ => by omega
        rw [escapeAll_quote hrun, List.cons_append, Ne, List.cons_inj_right]
        exact NotNext.ne_cons hnext after
    · have hnext : NotNext '"' (escapeAll true (run + 1) (c :: s) ++ rest) :=
        notNext_escapeAll fun hc _ => Nat.not_lt.mp fun hrun => hquote ⟨hc, hrun⟩
      exact NotNext.ne_cons hnext _

theorem basic_true_append (s : List Char) (run : Nat) (hrest : NotNext '"' rest) :
    basic true .plain (escapeAll true run s ++ '"' :: '"' :: '"' :: rest) = some (s, rest) := by
  induction s generalizing run with
  | nil => simpa [escapeAll, basic] using ending_append [] (by simp) (by simp) hrest
  | cons c s ih =>
    by_cases hquote : c = '"'
    · subst hquote
      by_cases hrun : run < 2
      · by_cases hend : s = [] ∨ s = ['"'] ∧ run = 0
        · rcases hend with rfl | ⟨rfl, rfl⟩
          · simpa [escapeAll, basic, hrun] using ending_append ['"'] (by simp) (by simp) hrest
          · simpa [escapeAll, basic] using ending_append ['"', '"'] (by simp) (by simp) hrest
        · rw [escapeAll_quote hrun, List.cons_append,
            basic_true_of_ne (escapeAll_append_ne hend), ih, push_some]
      · simp [escapeAll, hrun, basic, isBlank, escaped?, ih, atLineEnd]
    · simp [escapeAll, hquote, basic_escapeChar, ih]

-- ---------------------------------------------------------------------------
-- Texts in their styles
-- ---------------------------------------------------------------------------

/-- What a style requires of a text. -/
def TextStyle.Fits (s : List Char) : TextStyle → Prop
  | .basic => True
  | .literal => (∀ c ∈ s, isPlain c = true) ∧ '\'' ∉ s
  | .multiBasic => True
  | .multiLiteral => (∀ c ∈ s, isPlain c = true ∨ c = '\n') ∧ longestRun '\'' s ≤ 2

theorem isPlain_of_not_needsEscape (h : needsEscape c = false) : isPlain c = true ∨ c = '\n' := by
  simpa [needsEscape, Decidable.or_iff_not_imp_left] using h

theorem TextStyle.fits_ofText (s : List Char) : (TextStyle.ofText s).Fits s := by
  have hplain (h : s.any needsEscape = false) : ∀ c ∈ s, isPlain c = true ∨ c = '\n' :=
    fun c hc => isPlain_of_not_needsEscape (Bool.eq_false_iff.mpr (List.any_eq_false.mp h c hc))
  simp only [ofText, Bool.and_eq_true, Bool.not_eq_true', decide_eq_true_eq, List.contains_eq_mem,
    decide_eq_false_iff_not]
  split
  · trivial
  · split
    · next h =>
      obtain ⟨⟨hescape, hquote⟩, hline⟩ := h
      refine ⟨fun c hc => (hplain hescape c hc).resolve_right ?_, hquote⟩
      rintro rfl
      exact hline hc
    · split
      · trivial
      · split
        · next h => exact ⟨hplain h.1, h.2⟩
        · split
          · trivial
          · trivial

theorem text?_basic (h : ∀ after, rest ≠ '"' :: '"' :: after) :
    text? ('"' :: rest) = basic false .plain rest := by
  rw [text?.eq_def]
  split <;> simp_all

theorem text?_literal (h : ∀ after, rest ≠ '\'' :: '\'' :: after) :
    text? ('\'' :: rest) = literal false rest := by
  rw [text?.eq_def]
  split <;> simp_all

theorem text?_write {style : TextStyle} (hfits : style.Fits s) (hbasic : NotNext '"' rest)
    (hliteral : NotNext '\'' rest) : text? (style.write s ++ rest) = some (s, rest) := by
  cases style with
  | basic =>
    have hne : ∀ after, escapeAll false 0 s ++ '"' :: rest ≠ '"' :: '"' :: after := by
      cases s with
      | nil => simpa [escapeAll] using hbasic.ne_cons
      | cons c s => exact fun after => (notNext_escapeAll (by simp)).ne_cons _
    simpa [TextStyle.write, text?_basic hne] using basic_false_append s 0
  | literal =>
    have hne : ∀ after, s ++ '\'' :: rest ≠ '\'' :: '\'' :: after := by
      cases s with
      | nil => simpa using hliteral.ne_cons
      | cons c s =>
        have hc : c ≠ '\'' := fun h => hfits.2 (h ▸ List.mem_cons_self)
        simp [hc]
    simpa [TextStyle.write, text?_literal hne] using literal_false_append hfits.1 hfits.2
  | multiBasic => simpa [TextStyle.write, text?, dropLineEnd] using basic_true_append s 0 hbasic
  | multiLiteral =>
    have hrun : ¬ ['\'', '\'', '\''] <:+: s := fun h =>
      absurd (Nat.le_trans (three_le_longestRun h) hfits.2) (by decide)
    simpa [TextStyle.write, text?, dropLineEnd] using literal_true_append hfits.1 hrun hliteral

/-- A text is read back as it was written, unless there is a quote right after it. -/
theorem text?_writeText (s : String) (hbasic : NotNext '"' rest) (hliteral : NotNext '\'' rest) :
    text? (writeText s ++ rest) = some (s.toList, rest) :=
  text?_write (TextStyle.fits_ofText _) hbasic hliteral

-- ---------------------------------------------------------------------------
-- Keys
-- ---------------------------------------------------------------------------

/-- What comes next is not of that class, so that a word of the class ends here. -/
def Stops (p : Char → Bool) (rest : List Char) : Prop := ∀ c ∈ rest.head?, p c = false

theorem Stops.span {p : Char → Bool} (h : Stops p rest) (hs : ∀ c ∈ s, p c = true) :
    (s ++ rest).takeWhile p = s ∧ (s ++ rest).dropWhile p = rest := by
  rw [List.takeWhile_append_of_pos hs, List.dropWhile_append_of_pos hs]
  cases rest with
  | nil => simp
  | cons c rest => simp [h c rfl]

theorem keyPart?_of_isBare (hs : ∀ c ∈ s, isBare c = true) (hne : s ≠ []) (h : Stops isBare rest) :
    keyPart? (s ++ rest) = some (s, rest) := by
  obtain ⟨htake, hdrop⟩ := h.span hs
  obtain ⟨c, s, rfl⟩ := List.exists_cons_of_ne_nil hne
  have hc := hs c List.mem_cons_self
  rw [keyPart?.eq_def]
  split
  · next heq => exact absurd (List.cons.inj heq).1 (ne_of_class (by decide) hc)
  · next heq => exact absurd (List.cons.inj heq).1 (ne_of_class (by decide) hc)
  · simp only [htake, hdrop, List.isEmpty_cons, Bool.false_eq_true, if_false]

theorem writeKeyPart_cases (key : String) :
    (writeKeyPart key = key.toList ∧ key.toList ≠ [] ∧ ∀ c ∈ key.toList, isBare c = true) ∨
    writeKeyPart key = TextStyle.basic.write key.toList ∨
    writeKeyPart key = TextStyle.literal.write key.toList ∧ TextStyle.literal.Fits key.toList := by
  simp only [writeKeyPart, Bool.and_eq_true, Bool.not_eq_true', Bool.not_eq_false',
    List.all_eq_true, List.contains_eq_mem, decide_eq_false_iff_not]
  split
  · next h => exact .inl ⟨rfl, by simpa using h.1, h.2⟩
  · split
    · exact .inr (.inl rfl)
    · split
      · next h => exact .inr (.inr ⟨rfl, h⟩)
      · exact .inr (.inl rfl)

theorem keyPart?_writeKeyPart (key : String) (h : Stops isBare rest) :
    keyPart? (writeKeyPart key ++ rest) = some (key.toList, rest) := by
  rcases writeKeyPart_cases key with ⟨hwrite, hne, hbare⟩ | hwrite | ⟨hwrite, hfits⟩
  · rw [hwrite]
    exact keyPart?_of_isBare hbare hne h
  · simpa [hwrite, TextStyle.write, keyPart?] using basic_false_append key.toList 0
  · simpa [hwrite, TextStyle.write, keyPart?] using literal_false_append hfits.1 hfits.2

theorem notNext_writeKeyPart (key : String) (hbare : isBare c = false) (hbasic : c ≠ '"')
    (hliteral : c ≠ '\'') : NotNext c (writeKeyPart key ++ rest) := by
  rcases writeKeyPart_cases key with ⟨hwrite, hne, hall⟩ | hwrite | ⟨hwrite, -⟩
  · obtain ⟨d, s, hs⟩ := List.exists_cons_of_ne_nil hne
    rw [hs] at hwrite hall
    simpa [hwrite] using ne_of_class hbare (hall d List.mem_cons_self)
  · simpa [hwrite, TextStyle.write] using hbasic.symm
  · simpa [hwrite, TextStyle.write] using hliteral.symm

end TripleRules.Toml
