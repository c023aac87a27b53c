import Mathlib.Data.List.Forall2

/-!
# Results that may be errors

What a computation in steps gives, in terms of its steps, and what comes of a list whose entries
are computed one after the other.
-/

namespace PagePrelude

section
variable {x : Except ε α} {f : α → Except ε β}

theorem ok_bind (a : α) (f : α → Except ε β) : (Except.ok a >>= f) = f a := rfl

theorem bind_ok : x >>= f = .ok b ↔ ∃ a, x = .ok a ∧ f a = .ok b := by
  cases x with
  | ok a => simp [ok_bind]
  | error e =>
    constructor
    · intro h
      cases h
    · rintro ⟨_, ⟨⟩, -⟩

theorem bind_error : x >>= f = .error e ↔ x = .error e ∨ ∃ a, x = .ok a ∧ f a = .error e := by
  cases x with
  | ok a => simp [ok_bind]
  | error own =>
    show Except.error own = .error e ↔ _
    simp

theorem pure_ok : (pure a : Except ε α) = .ok b ↔ a = b :=
  ⟨Except.ok.inj, congrArg _⟩

@[simp] theorem pure_error : (pure a : Except ε α) = .error e ↔ False :=
  ⟨nofun, False.elim⟩

end

-- ---------------------------------------------------------------------------
-- Lists entry by entry
-- ---------------------------------------------------------------------------

section
variable {R : α → β → Prop} {list : List α} {others : List β}

theorem exists_forall₂ :
    (∃ others, List.Forall₂ R list others) ↔ ∀ a ∈ list, ∃ b, R a b := by
  induction list with
  | nil => simp
  | cons a list ih =>
    simp only [List.forall₂_cons_left_iff, List.forall_mem_cons, ← ih]
    constructor
    · rintro ⟨_, b, others, hb, hothers, rfl⟩
      exact ⟨⟨b, hb⟩, others, hothers⟩
    · rintro ⟨⟨b, hb⟩, others, hothers⟩
      exact ⟨_, b, others, hb, hothers, rfl⟩

theorem mem_of_forall₂ (h : List.Forall₂ R list others) : ∀ b ∈ others, ∃ a ∈ list, R a b := by
  induction h with
  | nil => simp
  | cons hfirst _ ih =>
    refine List.forall_mem_cons.mpr ⟨⟨_, List.mem_cons_self, hfirst⟩, fun b hb => ?_⟩
    obtain ⟨a, ha, hr⟩ := ih b hb
    exact ⟨a, List.mem_cons_of_mem _ ha, hr⟩

end

section
variable {f : α → Except ε β} {list : List α} {results : List β}

theorem mapM_iff :
    list.mapM f = .ok results ↔ List.Forall₂ (fun a b => f a = .ok b) list results := by
  induction list generalizing results with
  | nil => rw [List.mapM_nil, pure_ok, List.forall₂_nil_left_iff, eq_comm]
  | cons a list ih =>
    simp only [List.mapM_cons, bind_ok, pure_ok, ih, List.forall₂_cons_left_iff, exists_and_left,
      @eq_comm _ results]

theorem mapM_ok (h : list.mapM f = .ok results) : ∀ b ∈ results, ∃ a ∈ list, f a = .ok b :=
  mem_of_forall₂ (mapM_iff.mp h)

theorem mapM_total (h : list.mapM f = .ok results) : ∀ a ∈ list, ∃ b, f a = .ok b :=
  exists_forall₂.mp ⟨results, mapM_iff.mp h⟩

theorem eq_map_of_mapM {g : α → β} (h : list.mapM f = .ok results)
    (hf : ∀ a b, f a = .ok b → b = g a) : results = list.map g := by
  have hall := (mapM_iff.mp h).imp hf
  clear h
  induction hall with
  | nil => rfl
  | cons hfirst _ ih => rw [hfirst, ih, List.map_cons]

theorem mapM_eq {g : α → β} (h : ∀ a ∈ list, f a = .ok (g a)) : list.mapM f = .ok (list.map g) := by
  rw [mapM_iff, List.forall₂_map_right_iff, List.forall₂_same]
  exact h

end

end PagePrelude
