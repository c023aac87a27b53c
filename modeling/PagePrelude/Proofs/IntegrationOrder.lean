import Mathlib.Logic.Relation
import PagePrelude.Integration

/-!
# What counts for the order of integrations

The order is judged by the first place of each of two names. Of these, the name that comes first of
all decides, together with whether the other one comes at all. What stands around them does not
count, however it is changed (`ofOrder_relative`).
-/

namespace PagePrelude.MdxSupport

open Relation (ReflTransGen)

variable {name first second : String} {names changed : List String}

/-- Whether an integration counts for the order. -/
def counts (name : String) : Bool :=
  name == mdxIntegration || name == ownIntegration

theorem mdx_ne_own : mdxIntegration ≠ ownIntegration := by decide

theorem ne_of_not_counts (h : counts name = false) :
    name ≠ mdxIntegration ∧ name ≠ ownIntegration := by
  simpa [counts] using h

/-- Induction up to the first name that counts: whatever comes behind it is left as it is. -/
@[elab_as_elim]
theorem order_induction {motive : List String → Prop} (nil : motive [])
    (mdx : ∀ names, motive (mdxIntegration :: names))
    (own : ∀ names, motive (ownIntegration :: names))
    (other : ∀ name names, counts name = false → motive names → motive (name :: names))
    (names : List String) : motive names := by
  induction names with
  | nil => exact nil
  | cons name names ih =>
    by_cases hmdx : name = mdxIntegration
    · exact hmdx ▸ mdx names
    · by_cases hown : name = ownIntegration
      · exact hown ▸ own names
      · exact other name names (by simp [counts, hmdx, hown]) ih

-- ---------------------------------------------------------------------------
-- The first name that counts
-- ---------------------------------------------------------------------------

theorem place_self (name : String) (names : List String) :
    (name :: names).findIdx? (· == name) = some 0 := by
  simp [List.findIdx?_cons]

theorem place_other {other : String} (h : other ≠ name) (names : List String) :
    (other :: names).findIdx? (· == name) = (names.findIdx? (· == name)).map (· + 1) := by
  simp [List.findIdx?_cons, h]

theorem mem_of_place {place : Nat} (h : names.findIdx? (· == name) = some place) :
    name ∈ names := by
  have hfound := congrArg Option.isSome h
  simpa [List.findIdx?_isSome] using hfound

theorem notMem_of_no_place (h : names.findIdx? (· == name) = none) : name ∉ names := by
  intro hmem
  have hdiffers := List.findIdx?_eq_none_iff.mp h name hmem
  simp at hdiffers

theorem ofOrder_mdx (names : List String) : ofOrder (mdxIntegration :: names) =
    if ownIntegration ∈ names then .misordered else .enabled := by
  rw [ofOrder, place_self, place_other mdx_ne_own]
  cases hplace : names.findIdx? (· == ownIntegration) with
  | none => simp [notMem_of_no_place hplace]
  | some place => simp [mem_of_place hplace]

theorem ofOrder_own (names : List String) : ofOrder (ownIntegration :: names) =
    if mdxIntegration ∈ names then .enabled else .missing := by
  rw [ofOrder, place_self, place_other mdx_ne_own.symm]
  cases hplace : names.findIdx? (· == mdxIntegration) with
  | none => simp [notMem_of_no_place hplace]
  | some place => simp [mem_of_place hplace]

theorem ofOrder_other (h : counts name = false) (names : List String) :
    ofOrder (name :: names) = ofOrder names := by
  obtain ⟨hmdx, hown⟩ := ne_of_not_counts h
  rw [ofOrder, ofOrder, place_other hmdx, place_other hown]
  cases names.findIdx? (· == mdxIntegration) with
  | none => rfl
  | some mdx =>
    cases names.findIdx? (· == ownIntegration) with
    | none => rfl
    | some own => simp

theorem ofOrder_filter (names : List String) : ofOrder (names.filter counts) = ofOrder names := by
  induction names using order_induction with
  | nil => rfl
  | mdx names =>
    rw [List.filter_cons_of_pos (by decide), ofOrder_mdx, ofOrder_mdx]
    simp [List.mem_filter, counts]
  | own names =>
    rw [List.filter_cons_of_pos (by decide), ofOrder_own, ofOrder_own]
    simp [List.mem_filter, counts]
  | other name names hname ih =>
    rw [List.filter_cons_of_neg (by simp [hname]), ih, ofOrder_other hname]

-- ---------------------------------------------------------------------------
-- Which name leads
-- ---------------------------------------------------------------------------

/-- Some place of the first name comes before every place of the second. -/
def Leads (first second : String) (names : List String) : Prop :=
  ∃ place : Nat, names[place]? = some first ∧
    ∀ other : Nat, names[other]? = some second → place < other

theorem Leads.mem (h : Leads first second names) : first ∈ names := by
  obtain ⟨place, hplace, -⟩ := h
  exact List.mem_of_getElem? hplace

theorem leads_self (h : first ≠ second) (names : List String) :
    Leads first second (first :: names) := by
  refine ⟨0, rfl, fun other hother => ?_⟩
  cases other with
  | zero => exact absurd (Option.some.inj hother) h
  | succ other => exact Nat.succ_pos other

theorem not_leads_behind (names : List String) : ¬Leads first second (second :: names) := by
  rintro ⟨place, -, hbefore⟩
  exact Nat.not_lt_zero place (hbefore 0 rfl)

theorem leads_other (hfirst : name ≠ first) (hsecond : name ≠ second) (names : List String) :
    Leads first second (name :: names) ↔ Leads first second names := by
  constructor
  · rintro ⟨place, hplace, hbefore⟩
    cases place with
    | zero => exact absurd (Option.some.inj hplace) hfirst
    | succ place =>
      exact ⟨place, hplace, fun other hother => Nat.lt_of_succ_lt_succ (hbefore (other + 1) hother)⟩
  · rintro ⟨place, hplace, hbefore⟩
    refine ⟨place + 1, hplace, fun other hother => ?_⟩
    cases other with
    | zero => exact absurd (Option.some.inj hother) hsecond
    | succ other => exact Nat.succ_lt_succ (hbefore other hother)

theorem missing_iff : ofOrder names = .missing ↔ mdxIntegration ∉ names := by
  induction names using order_induction with
  | nil => simp [ofOrder]
  | mdx names =>
    rw [ofOrder_mdx]
    split <;> simp
  | own names =>
    rw [ofOrder_own]
    by_cases hmdx : mdxIntegration ∈ names <;> simp [hmdx, mdx_ne_own]
  | other name names hname ih =>
    obtain ⟨hmdx, -⟩ := ne_of_not_counts hname
    rw [ofOrder_other hname, ih]
    simp [hmdx.symm]

theorem misordered_iff : ofOrder names = .misordered ↔
    ownIntegration ∈ names ∧ Leads mdxIntegration ownIntegration names := by
  induction names using order_induction with
  | nil => simp [ofOrder]
  | mdx names =>
    rw [ofOrder_mdx]
    by_cases hown : ownIntegration ∈ names <;>
      simp [hown, mdx_ne_own.symm, leads_self mdx_ne_own names]
  | own names =>
    rw [ofOrder_own]
    have hbehind : ¬Leads mdxIntegration ownIntegration (ownIntegration :: names) :=
      not_leads_behind names
    split <;> simp [hbehind]
  | other name names hname ih =>
    obtain ⟨hmdx, hown⟩ := ne_of_not_counts hname
    rw [ofOrder_other hname, ih, leads_other hmdx hown]
    simp [hown.symm]

theorem enabled_iff : ofOrder names = .enabled ↔ mdxIntegration ∈ names ∧
    (ownIntegration ∈ names → Leads ownIntegration mdxIntegration names) := by
  induction names using order_induction with
  | nil => simp [ofOrder]
  | mdx names =>
    rw [ofOrder_mdx]
    have hbehind : ¬Leads ownIntegration mdxIntegration (mdxIntegration :: names) :=
      not_leads_behind names
    by_cases hown : ownIntegration ∈ names <;> simp [hown, mdx_ne_own.symm, hbehind]
  | own names =>
    rw [ofOrder_own]
    have hleads := leads_self mdx_ne_own.symm names
    by_cases hmdx : mdxIntegration ∈ names <;> simp [hmdx, mdx_ne_own, hleads]
  | other name names hname ih =>
    obtain ⟨hmdx, hown⟩ := ne_of_not_counts hname
    rw [ofOrder_other hname, ih, leads_other hown hmdx]
    simp [hmdx.symm, hown.symm]

-- ---------------------------------------------------------------------------
-- Changes of other integrations
-- ---------------------------------------------------------------------------

/-- A change of the integrations that do not count. -/
inductive Change : List String → List String → Prop
  | insert {name : String} (before after : List String) :
      counts name = false → Change (before ++ after) (before ++ name :: after)
  | delete {name : String} (before after : List String) :
      counts name = false → Change (before ++ name :: after) (before ++ after)
  /-- Two of them change places, whatever stands between. -/
  | exchange {name other : String} (before between after : List String) :
      counts name = false → counts other = false →
      Change (before ++ name :: (between ++ other :: after))
        (before ++ other :: (between ++ name :: after))

theorem Change.filter_eq (h : Change names changed) :
    changed.filter counts = names.filter counts := by
  cases h with
  | insert before after h => simp [h]
  | delete before after h => simp [h]
  | exchange before between after h h' => simp [h, h']

theorem Change.cons (name : String) (h : Change names changed) :
    Change (name :: names) (name :: changed) := by
  cases h with
  | insert before after h => exact .insert (name :: before) after h
  | delete before after h => exact .delete (name :: before) after h
  | exchange before between after h h' => exact .exchange (name :: before) between after h h'

theorem filter_eq_of_changes (h : ReflTransGen Change names changed) :
    changed.filter counts = names.filter counts := by
  induction h with
  | refl => rfl
  | tail _ hstep ih => exact hstep.filter_eq.trans ih

theorem changes_cons (name : String) (h : ReflTransGen Change names changed) :
    ReflTransGen Change (name :: names) (name :: changed) :=
  h.lift (name :: ·) fun _ _ => Change.cons name

/-- Everything that does not count can be deleted, and inserted again. -/
theorem changes_filter (names : List String) :
    ReflTransGen Change names (names.filter counts) ∧
      ReflTransGen Change (names.filter counts) names := by
  induction names with
  | nil => exact ⟨.refl, .refl⟩
  | cons name names ih =>
    obtain ⟨hdown, hup⟩ := ih
    cases hname : counts name with
    | true =>
      rw [List.filter_cons_of_pos hname]
      exact ⟨changes_cons name hdown, changes_cons name hup⟩
    | false =>
      rw [List.filter_cons_of_neg (by simp [hname])]
      exact ⟨.head (.delete [] names hname) hdown, .tail hup (.insert [] names hname)⟩

/-- Changes lead from a list to just those with the same names that count, in the same order. -/
theorem changes_iff :
    ReflTransGen Change names changed ↔ changed.filter counts = names.filter counts := by
  constructor
  · exact filter_eq_of_changes
  · intro hsame
    obtain ⟨hdown, -⟩ := changes_filter names
    obtain ⟨-, hup⟩ := changes_filter changed
    exact hdown.trans (hsame ▸ hup)

-- ---------------------------------------------------------------------------
-- The order
-- ---------------------------------------------------------------------------

theorem warning_iff {support : MdxSupport} {notice : Notice} :
    notice ∈ support.notices ∧ notice.severity = .warning ↔
      notice = .misordered ∧ support = .misordered := by
  cases support with
  | enabled => simp [notices]
  | misordered =>
    simp only [notices, List.mem_singleton, and_true]
    exact and_iff_left_of_imp fun h => h ▸ rfl
  | missing =>
    simp only [notices, List.mem_singleton, reduceCtorEq, and_false, iff_false, not_and]
    rintro rfl
    decide

/-- The names that count give the same support by themselves, and no change of the others shows.
Support is missing if the compiler is not registered. It is misordered if both are and some place of
the compiler comes before every place of this integration, and enabled if a place of this
integration comes first instead, or there is none. The one warning is given exactly where it is
misordered, and setup passes it on. -/
theorem ofOrder_relative (names : List String) :
    ofOrder (names.filter counts) = ofOrder names ∧
    (∀ changed, ReflTransGen Change names changed → ofOrder changed = ofOrder names) ∧
    (ofOrder names = .missing ↔ mdxIntegration ∉ names) ∧
    (ofOrder names = .misordered ↔ mdxIntegration ∈ names ∧ ownIntegration ∈ names ∧
      Leads mdxIntegration ownIntegration names) ∧
    (ofOrder names = .enabled ↔ mdxIntegration ∈ names ∧
      (ownIntegration ∈ names → Leads ownIntegration mdxIntegration names)) ∧
    (∀ notice, notice ∈ (ofOrder names).notices ∧ notice.severity = .warning ↔
      notice = .misordered ∧ ofOrder names = .misordered) ∧
    ∀ integration : Integration, (integration.setup names).support = ofOrder names ∧
      (integration.setup names).notices = (ofOrder names).notices := by
  refine ⟨ofOrder_filter names, ?_, missing_iff, ?_, enabled_iff, fun _ => warning_iff,
    fun _ => ⟨rfl, rfl⟩⟩
  · intro changed hchanges
    rw [← ofOrder_filter changed, changes_iff.mp hchanges, ofOrder_filter]
  · rw [misordered_iff]
    exact (and_iff_right_of_imp fun h => h.2.mem).symm

/-- Later copies of the compiler do not help. -/
theorem ofOrder_relative_twice :
    let names := [mdxIntegration, "sitemap", ownIntegration, mdxIntegration, ownIntegration]
    let changed := ["a", mdxIntegration, ownIntegration, mdxIntegration, "sitemap", "b",
      ownIntegration]
    ReflTransGen Change names changed ∧ ofOrder changed = ofOrder names ∧
      ofOrder names = .misordered ∧ .misordered ∈ (ofOrder changed).notices := by
  intro names changed
  have hchanges : ReflTransGen Change names changed := changes_iff.mpr (by decide)
  have hmisordered : ofOrder names = .misordered := by decide
  obtain ⟨-, hsame, -⟩ := ofOrder_relative names
  obtain ⟨-, -, -, -, -, hwarning, -⟩ := ofOrder_relative changed
  have hchanged := hsame changed hchanges
  exact ⟨hchanges, hchanged, hmisordered,
    ((hwarning .misordered).mpr ⟨rfl, hchanged.trans hmisordered⟩).1⟩

end PagePrelude.MdxSupport
