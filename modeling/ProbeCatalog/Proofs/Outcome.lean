import Mathlib.Data.List.Forall2

/-!
# Results in sequence

When a sequence of steps that may fail has a result, each of its steps has one; if it has none, the
first step that fails decides why.
-/
namespace ProbeCatalog

lemma bind_eq_ok {ε α β : Type} {x : Except ε α} {f : α → Except ε β} {b : β} :
    (x >>= f) = .ok b ↔ ∃ a, x = .ok a ∧ f a = .ok b := by
  cases x with
  | error e =>
    constructor
    · intro h; cases h
    · rintro ⟨_, h, _⟩; cases h
  | ok a =>
    constructor
    · exact fun h => ⟨a, rfl, h⟩
    · rintro ⟨_, h, hf⟩; cases h; exact hf

lemma ok_bind {ε α β : Type} (a : α) (f : α → Except ε β) : (.ok a >>= f) = f a := rfl

lemma map_eq_ok {ε α β : Type} {x : Except ε α} {f : α → β} {b : β} :
    x.map f = .ok b ↔ ∃ a, x = .ok a ∧ f a = b := by
  cases x with
  | error e => exact iff_of_false nofun (by rintro ⟨_, h, _⟩; cases h)
  | ok a => simp [Except.map]

lemma mapError_eq_ok {ε ε' α : Type} {x : Except ε α} {f : ε → ε'} {a : α} :
    x.mapError f = .ok a ↔ x = .ok a := by
  cases x with
  | error e =>
    constructor
    · intro h; cases h
    · intro h; cases h
  | ok b => rw [Except.mapError, Except.ok.injEq, Except.ok.injEq]

lemma mapError_eq_error {ε ε' α : Type} {x : Except ε α} {f : ε → ε'} {e : ε'} :
    x.mapError f = .error e ↔ ∃ cause, x = .error cause ∧ f cause = e := by
  cases x with
  | error cause => simp [Except.mapError]
  | ok a => simp [Except.mapError]

lemma mapM_eq_ok {ε α β : Type} {f : α → Except ε β} {as : List α} {bs : List β} :
    as.mapM f = .ok bs ↔ List.Forall₂ (fun a b => f a = .ok b) as bs := by
  induction as generalizing bs with
  | nil =>
    rw [List.mapM_nil, List.forall₂_nil_left_iff]
    exact ⟨fun h => (Except.ok.inj h).symm, fun h => by rw [h]; rfl⟩
  | cons a as ih =>
    rw [List.mapM_cons, List.forall₂_cons_left_iff]
    simp only [bind_eq_ok, ih]
    constructor
    · rintro ⟨b, hb, bs', hbs, h⟩
      exact ⟨b, bs', hb, hbs, (Except.ok.inj h).symm⟩
    · rintro ⟨b, bs', hb, hbs, rfl⟩
      exact ⟨b, hb, bs', hbs, rfl⟩

lemma mapM_append_eq_ok {ε α β : Type} {f : α → Except ε β} {as as' : List α} {bs : List β} :
    (as ++ as').mapM f = .ok bs ↔
      ∃ l r, as.mapM f = .ok l ∧ as'.mapM f = .ok r ∧ l ++ r = bs := by
  rw [List.mapM_append, bind_eq_ok]
  simp only [bind_eq_ok]
  constructor
  · rintro ⟨l, hl, r, hr, h⟩
    exact ⟨l, r, hl, hr, Except.ok.inj h⟩
  · rintro ⟨l, r, hl, hr, rfl⟩
    exact ⟨l, hl, r, hr, rfl⟩

/-- Each of the results is that of one of the steps. -/
lemma exists_of_forall₂ {α β : Type} {r : α → β → Prop} {as : List α} {bs : List β}
    (h : List.Forall₂ r as bs) : ∀ b ∈ bs, ∃ a ∈ as, r a b := by
  induction h with
  | nil => exact nofun
  | cons hab _ ih =>
    rw [List.forall_mem_cons]
    refine ⟨⟨_, List.mem_cons_self, hab⟩, fun b hb => ?_⟩
    obtain ⟨a, ha, hr⟩ := ih b hb
    exact ⟨a, List.mem_cons_of_mem _ ha, hr⟩

/-- The first result is that of one of the attempts. -/
lemma exists_of_firstM {α β : Type} {f : α → Option β} {as : List α} {b : β}
    (h : as.firstM f = some b) : ∃ a ∈ as, f a = some b := by
  induction as with
  | nil => cases h
  | cons a as ih =>
    rw [List.firstM] at h
    cases ha : f a with
    | none =>
      rw [ha] at h
      obtain ⟨a', ha', hf⟩ := ih h
      exact ⟨a', List.mem_cons_of_mem a ha', hf⟩
    | some b' =>
      rw [ha] at h
      exact ⟨a, List.mem_cons_self, ha.trans h⟩

/-- There is a result. -/
def Succeeds {ε α : Type} (x : Except ε α) : Prop := ∃ a, x = .ok a

section

variable {ε α β : Type}

lemma succeeds_bind {x : Except ε α} {f : α → Except ε β} :
    Succeeds (x >>= f) ↔ ∃ a, x = .ok a ∧ Succeeds (f a) := by
  simp only [Succeeds, bind_eq_ok]
  constructor
  · rintro ⟨b, a, ha, hb⟩
    exact ⟨a, ha, b, hb⟩
  · rintro ⟨a, ha, b, hb⟩
    exact ⟨b, a, ha, hb⟩

/-- A sequence of two steps succeeds with both, if the second one does or does not whatever the
first one gives. -/
lemma succeeds_then {x : Except ε α} {f : α → Except ε β} {p : Prop}
    (h : ∀ a, Succeeds (f a) ↔ p) : Succeeds (x >>= f) ↔ Succeeds x ∧ p := by
  rw [succeeds_bind]
  constructor
  · rintro ⟨a, ha, hf⟩
    exact ⟨⟨a, ha⟩, (h a).mp hf⟩
  · rintro ⟨⟨a, ha⟩, hp⟩
    exact ⟨a, ha, (h a).mpr hp⟩

lemma succeeds_pure (a : α) : Succeeds (pure a : Except ε α) := ⟨a, rfl⟩

/-- A last step that only puts a result together cannot fail. -/
lemma succeeds_bind_pure {x : Except ε α} {f : α → β} :
    Succeeds (x >>= fun a => pure (f a)) ↔ Succeeds x := by
  rw [succeeds_then fun a => iff_true_intro (succeeds_pure (f a)), and_true]

lemma succeeds_two {γ : Type} {x : Except ε α} {y : Except ε β} {f : α → β → γ} :
    Succeeds (x >>= fun a => y >>= fun b => pure (f a b)) ↔ Succeeds x ∧ Succeeds y :=
  succeeds_then fun _ => succeeds_bind_pure

lemma succeeds_three {γ δ : Type} {x : Except ε α} {y : Except ε β} {z : Except ε γ}
    {f : α → β → γ → δ} :
    Succeeds (x >>= fun a => y >>= fun b => z >>= fun c => pure (f a b c)) ↔
      Succeeds x ∧ Succeeds y ∧ Succeeds z :=
  succeeds_then fun _ => succeeds_two

lemma succeeds_map {x : Except ε α} {f : α → β} : Succeeds (x.map f) ↔ Succeeds x := by
  cases x with
  | error e =>
    constructor
    · rintro ⟨_, h⟩; cases h
    · rintro ⟨_, h⟩; cases h
  | ok a => exact ⟨fun _ => ⟨a, rfl⟩, fun _ => ⟨f a, rfl⟩⟩

lemma not_succeeds {x : Except ε α} : ¬ Succeeds x ↔ ∃ e, x = .error e := by
  cases x with
  | error e =>
    constructor
    · exact fun _ => ⟨e, rfl⟩
    · rintro - ⟨_, h⟩; cases h
  | ok a =>
    constructor
    · exact fun h => absurd ⟨a, rfl⟩ h
    · rintro ⟨_, h⟩; cases h

/-- A result that was computed shows what a step gives. -/
lemma toOption_map_eq_some {x : Except ε α} {f : α → β} {b : β} :
    x.toOption.map f = some b ↔ ∃ a, x = .ok a ∧ f a = b := by
  cases x with
  | error e => exact iff_of_false nofun (by rintro ⟨_, h, _⟩; cases h)
  | ok a => simp [Except.toOption]

lemma succeeds_of_isSome {x : Except ε α} (h : x.toOption.isSome = true) : Succeeds x := by
  cases x with
  | error e => cases h
  | ok a => exact ⟨a, rfl⟩

lemma isSome_of_succeeds {x : Except ε α} (h : Succeeds x) : x.toOption.isSome = true := by
  obtain ⟨a, rfl⟩ := h
  rfl

lemma succeeds_mapM {f : α → Except ε β} {as : List α} :
    Succeeds (as.mapM f) ↔ ∀ a ∈ as, Succeeds (f a) := by
  induction as with
  | nil => simpa using (succeeds_pure ([] : List β) : Succeeds (pure [] : Except ε _))
  | cons a as ih =>
    rw [List.mapM_cons, List.forall_mem_cons, ← ih]
    exact succeeds_then fun b => succeeds_bind_pure

lemma bind_eq_error {x : Except ε α} {f : α → Except ε β} {e : ε} :
    (x >>= f) = .error e ↔ x = .error e ∨ ∃ a, x = .ok a ∧ f a = .error e := by
  cases x with
  | error e' =>
    constructor
    · intro h
      cases h
      exact Or.inl rfl
    · rintro (h | ⟨a, ha, -⟩)
      · cases h
        rfl
      · cases ha
  | ok a =>
    constructor
    · exact fun h => Or.inr ⟨a, rfl, h⟩
    · rintro (h | ⟨a', ha, hf⟩)
      · cases h
      · cases ha
        exact hf

/-- A last step that only puts a result together does not fail. -/
lemma bind_pure_eq_error {x : Except ε α} {f : α → β} {e : ε} :
    (x >>= fun a => pure (f a)) = .error e ↔ x = .error e := by
  rw [bind_eq_error]
  constructor
  · rintro (h | ⟨a, -, h⟩)
    · exact h
    · cases h
  · exact Or.inl

/-- The first step that fails decides how a sequence fails. -/
lemma mapM_eq_error {f : α → Except ε β} {as : List α} {e : ε} :
    as.mapM f = .error e ↔ ∃ before a after, as = before ++ a :: after ∧
      (∀ b ∈ before, Succeeds (f b)) ∧ f a = .error e := by
  induction as with
  | nil => exact iff_of_false nofun (by rintro ⟨before, a, after, h, -⟩; simp at h)
  | cons a as ih =>
    rw [List.mapM_cons, bind_eq_error]
    constructor
    · rintro (he | ⟨b, hb, h⟩)
      · exact ⟨[], a, as, rfl, nofun, he⟩
      · obtain ⟨before, a', after, rfl, hbefore, he⟩ := ih.mp (bind_pure_eq_error.mp h)
        exact ⟨a :: before, a', after, rfl, List.forall_mem_cons.mpr ⟨⟨b, hb⟩, hbefore⟩, he⟩
    · rintro ⟨before, a', after, h, hbefore, he⟩
      cases before with
      | nil =>
        obtain ⟨rfl, -⟩ := List.cons_eq_cons.mp h
        exact Or.inl he
      | cons b' before =>
        obtain ⟨rfl, rfl⟩ := List.cons_eq_cons.mp h
        obtain ⟨⟨b, hb⟩, hbefore⟩ := List.forall_mem_cons.mp hbefore
        have hrest := ih.mpr ⟨before, a', after, rfl, hbefore, he⟩
        exact Or.inr ⟨b, hb, bind_pure_eq_error.mpr hrest⟩

lemma succeeds_unit {x : Except ε Unit} : Succeeds x ↔ x = .ok () := by
  constructor
  · rintro ⟨⟨⟩, h⟩
    exact h
  · intro h
    exact ⟨(), h⟩

/-- Steps that give nothing, told by those that give a list. -/
lemma forM_eq_mapM {f : α → Except ε Unit} {as : List α} :
    as.forM f = as.mapM f >>= fun _ => pure () := by
  induction as with
  | nil => rfl
  | cons a as ih =>
    simp only [List.mapM_cons, bind_assoc, pure_bind]
    rw [List.forM, ih]

lemma forM_eq_ok {f : α → Except ε Unit} {as : List α} :
    as.forM f = .ok () ↔ ∀ a ∈ as, f a = .ok () := by
  rw [← succeeds_unit, forM_eq_mapM, succeeds_bind_pure, succeeds_mapM]
  simp only [succeeds_unit]

lemma forM_eq_error {f : α → Except ε Unit} {as : List α} {e : ε} :
    as.forM f = .error e ↔ ∃ before a after, as = before ++ a :: after ∧
      (∀ b ∈ before, f b = .ok ()) ∧ f a = .error e := by
  rw [forM_eq_mapM, bind_pure_eq_error, mapM_eq_error]
  simp only [succeeds_unit]

end

end ProbeCatalog
