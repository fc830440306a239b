import Mathlib.Data.List.Forall2
import TripleRules.Term

/-!
# Outcomes

Success and failure of computations that may fail, and of loops made of them.
-/

namespace TripleRules.Except

variable {ε ε' α β σ : Type} {x : Except ε α} {a : α} {b : β}

theorem bind_ok {f : α → Except ε β} : x >>= f = .ok b ↔ ∃ a, x = .ok a ∧ f a = .ok b := by
  cases x <;> simp [bind, Except.bind]

theorem bind_error {f : α → Except ε β} {d : ε} :
    x >>= f = .error d ↔ x = .error d ∨ ∃ a, x = .ok a ∧ f a = .error d := by
  cases x <;> simp [bind, Except.bind]

theorem pure_ok {c : α} : (pure a : Except ε α) = .ok c ↔ a = c := by
  simp [pure, Except.pure]

theorem pure_error {c : α} {d : ε} : (pure c : Except ε α) = .error d ↔ False := by
  simp [pure, Except.pure]

theorem isOk_iff : x.isOk = true ↔ ∃ a, x = .ok a := by
  cases x <;> simp [Except.isOk, Except.toBool]

theorem map_ok {f : α → β} : x.map f = .ok b ↔ ∃ a, x = .ok a ∧ f a = b := by
  cases x <;> simp [Except.map]

theorem map_error {f : α → β} {d : ε} : x.map f = .error d ↔ x = .error d := by
  cases x <;> simp [Except.map]

theorem mapError_ok {f : ε → ε'} : x.mapError f = .ok a ↔ x = .ok a := by
  cases x with
  | ok _ => exact ⟨fun h => congrArg _ (Except.ok.inj h), fun h => congrArg _ (Except.ok.inj h)⟩
  | error _ => exact ⟨fun h => (nomatch h), fun h => (nomatch h)⟩

theorem mapError_error {f : ε → ε'} {d : ε'} :
    x.mapError f = .error d ↔ ∃ c, x = .error c ∧ f c = d := by
  cases x with
  | ok _ => exact ⟨fun h => (nomatch h), fun ⟨_, h, _⟩ => (nomatch h)⟩
  | error c =>
    constructor
    · intro h
      exact ⟨c, rfl, Except.error.inj h⟩
    · rintro ⟨_, h, rfl⟩
      obtain rfl := Except.error.inj h
      rfl

-- ---------------------------------------------------------------------------
-- Two computations
-- ---------------------------------------------------------------------------

/-- Both succeed, and with related results, or both fail. -/
inductive Related (R : α → β → Prop) : Except ε α → Except ε' β → Prop
  | ok {a : α} {b : β} : R a b → Related R (.ok a) (.ok b)
  | error (d : ε) (d' : ε') : Related R (.error d) (.error d')

namespace Related

variable {α' β' : Type} {R : α → β → Prop} {P : α' → β' → Prop} {x : Except ε α} {y : Except ε' β}

theorem bind {f : α → Except ε α'} {g : β → Except ε' β'} (h : Related R x y)
    (hfg : ∀ a b, R a b → Related P (f a) (g b)) : Related P (x >>= f) (y >>= g) := by
  cases h with
  | ok hab => exact hfg _ _ hab
  | error d d' => exact .error d d'

theorem refl (x : Except ε α) : Related Eq x x := by
  cases x with
  | ok a => exact .ok rfl
  | error d => exact .error d d

theorem ok_iff {y : Except ε' α} (h : Related Eq x y) : x = .ok a ↔ y = .ok a := by
  cases h with
  | ok hab => rw [hab, Except.ok.injEq, Except.ok.injEq]
  | error d d' => simp

theorem of_ok_iff {x : Except ε Unit} {y : Except ε' Unit} (h : x = .ok () ↔ y = .ok ()) :
    Related Eq x y := by
  cases x with
  | ok _ => rw [h.mp rfl]; exact .ok rfl
  | error d =>
    cases y with
    | ok _ => cases h.mpr rfl
    | error d' => exact .error d d'

end Related

-- ---------------------------------------------------------------------------
-- Loops
-- ---------------------------------------------------------------------------

variable {f : σ → α → Except ε σ} {l : List α} {s last : σ}

/-- If every step adds the facts of its member to those of the state, a loop adds
the facts of all members. -/
theorem foldlM_adds {γ : Type} {P : σ → γ → Prop} {Q : α → γ → Prop}
    (hstep : ∀ s a s', f s a = .ok s' → ∀ t, P s' t ↔ P s t ∨ Q a t)
    (h : l.foldlM f s = .ok last) (t : γ) :
    P last t ↔ P s t ∨ ∃ a ∈ l, Q a t := by
  induction l generalizing s with
  | nil =>
    obtain rfl := pure_ok.mp h
    simp
  | cons a rest ih =>
    rw [List.foldlM_cons, bind_ok] at h
    obtain ⟨next, ha, hrest⟩ := h
    rw [ih hrest, hstep s a next ha t]
    simp [or_assoc]

theorem foldlM_isOk {Q : α → Prop} (hstep : ∀ a ∈ l, ∀ s, (∃ s', f s a = .ok s') ↔ Q a) :
    (∃ last, l.foldlM f s = .ok last) ↔ ∀ a ∈ l, Q a := by
  induction l generalizing s with
  | nil => exact ⟨fun _ a ha => (nomatch ha), fun _ => ⟨s, rfl⟩⟩
  | cons a rest ih =>
    have hrest : ∀ s, (∃ last, rest.foldlM f s = .ok last) ↔ ∀ a ∈ rest, Q a := fun s =>
      ih fun b hb => hstep b (List.mem_cons_of_mem _ hb)
    simp only [List.foldlM_cons, bind_ok, List.forall_mem_cons]
    constructor
    · rintro ⟨last, next, ha, hlast⟩
      exact ⟨(hstep a List.mem_cons_self s).mp ⟨next, ha⟩, (hrest next).mp ⟨last, hlast⟩⟩
    · rintro ⟨ha, hq⟩
      obtain ⟨next, ha⟩ := (hstep a List.mem_cons_self s).mpr ha
      obtain ⟨last, hlast⟩ := (hrest next).mpr hq
      exact ⟨last, next, ha, hlast⟩

theorem foldlM_keeps {motive : σ → Prop} (hstep : ∀ s a s', f s a = .ok s' → motive s → motive s')
    (h : l.foldlM f s = .ok last) (hs : motive s) : motive last := by
  induction l generalizing s with
  | nil =>
    obtain rfl := pure_ok.mp h
    exact hs
  | cons a rest ih =>
    rw [List.foldlM_cons, bind_ok] at h
    obtain ⟨next, ha, hrest⟩ := h
    exact ih hrest (hstep s a next ha hs)

theorem foldlM_error {d : ε} (h : l.foldlM f s = .error d) : ∃ a ∈ l, ∃ s, f s a = .error d := by
  induction l generalizing s with
  | nil => cases h
  | cons a rest ih =>
    rw [List.foldlM_cons, bind_error] at h
    rcases h with ha | ⟨next, -, hrest⟩
    · exact ⟨a, List.mem_cons_self, s, ha⟩
    · obtain ⟨b, hb, hd⟩ := ih hrest
      exact ⟨b, List.mem_cons_of_mem _ hb, hd⟩

theorem foldlM_forall₂ {σ' : Type} {R : α → β → Prop} {T : σ → σ'} {f' : σ' → β → Except ε' σ'}
    {l' : List β} (hl : List.Forall₂ R l l')
    (hstep : ∀ s a b s', R a b → f s a = .ok s' → f' (T s) b = .ok (T s'))
    (h : l.foldlM f s = .ok last) : l'.foldlM f' (T s) = .ok (T last) := by
  induction hl generalizing s with
  | nil =>
    obtain rfl := pure_ok.mp h
    rfl
  | cons hab _ ih =>
    rw [List.foldlM_cons, bind_ok] at h ⊢
    obtain ⟨next, ha, hrest⟩ := h
    exact ⟨T next, hstep _ _ _ _ hab ha, ih hrest⟩

end TripleRules.Except

namespace TripleRules.Option

variable {α β σ : Type} {l : List α}

theorem foldlM_keeps {f : σ → α → Option σ} {s last : σ} {motive : σ → Prop}
    (hstep : ∀ s, ∀ a ∈ l, ∀ s', f s a = some s' → motive s → motive s')
    (h : l.foldlM f s = some last) (hs : motive s) : motive last := by
  induction l generalizing s with
  | nil => exact Option.some.inj h ▸ hs
  | cons a rest ih =>
    rw [List.foldlM_cons] at h
    obtain ⟨next, hnext, hrest⟩ := Option.bind_eq_some_iff.mp h
    exact ih (fun s b hb => hstep s b (List.mem_cons_of_mem _ hb)) hrest
      (hstep s a List.mem_cons_self next hnext hs)

theorem mem_of_mapM {f : α → Option β} {results : List β} (h : l.mapM f = some results) :
    ∀ b ∈ results, ∃ a ∈ l, f a = some b := by
  induction l generalizing results with
  | nil =>
    obtain rfl := Option.some.inj h
    simp
  | cons a rest ih =>
    rw [List.mapM_cons] at h
    simp only [Option.bind_eq_bind, Option.bind_eq_some_iff, Option.pure_def,
      Option.some.injEq] at h
    obtain ⟨b, hb, more, hmore, rfl⟩ := h
    have hall := fun c hc => (ih hmore c hc).imp fun x hx => hx.imp_left (List.mem_cons_of_mem a)
    exact List.forall_mem_cons.mpr ⟨⟨a, List.mem_cons_self, hb⟩, hall⟩

theorem mapM_eq_map {f : α → Option β} {g : α → β} (h : ∀ a ∈ l, f a = some (g a)) :
    l.mapM f = some (l.map g) := by
  induction l with
  | nil => rfl
  | cons a rest ih =>
    rw [List.forall_mem_cons] at h
    rw [List.mapM_cons, h.1, ih h.2]
    rfl

end TripleRules.Option
