import PagePrelude.Proofs.ConfigGrammar
import PagePrelude.Proofs.Module.ImportText

/-!
# Accepted configurations

What validation promises. An entry of an accepted configuration binds identifiers
(`ofOptions_accepted`), and whatever validation refuses is a mistake of the
configuration (`ofOptions_error`).
-/

namespace PagePrelude

open Identifier (isIdentifier derived)

-- ---------------------------------------------------------------------------
-- Entries
-- ---------------------------------------------------------------------------

/-- Whether an entry can be written as an import statement that binds identifiers. -/
def ImportEntry.Accepted : ImportEntry → Prop
  | default path => isIdentifier (derived path) = true
  | named _ bindings => bindings ≠ [] ∧ ∀ b ∈ bindings, isIdentifier b.bound = true
  | whole _ name => isIdentifier name = true

namespace Config

theorem derive_ok (h : Identifier.derive path = .ok name) :
    name = derived path ∧ isIdentifier (derived path) = true := by
  unfold Identifier.derive at h
  simp only at h
  split at h
  · rename_i hi
    injection h with hname
    exact ⟨hname.symm, hi⟩
  · cases h

theorem accepted_of_specifies (h : ConfigGrammar.Specifies path value entry) : entry.Accepted := by
  cases h with
  | whole hi => exact hi
  | named hne hitems =>
    refine ⟨?_, fun b hb => ?_⟩
    · rintro rfl
      exact hne (List.forall₂_nil_right_iff.mp hitems)
    · obtain ⟨_, -, hbinds⟩ := mem_of_forall₂ hitems b hb
      cases hbinds with
      | name hi => exact hi
      | pair _ hi => exact hi

theorem accepted_of_declares (h : ConfigGrammar.Declares value entries) :
    ∀ entry ∈ entries, entry.Accepted := by
  cases h with
  | path hi => exact List.forall_mem_singleton.mpr hi
  | paths hfields =>
    intro entry hentry
    obtain ⟨_, -, hspecifies⟩ := mem_of_forall₂ hfields entry hentry
    exact accepted_of_specifies hspecifies

/-- Every entry of an accepted configuration binds identifiers. -/
theorem ofOptions_accepted {root : String} (h : ofOptions options root = .ok config) :
    ∀ entry ∈ config.imports, entry.Accepted := by
  have hfollows := ConfigGrammar.ofOptions_follows options root
  obtain ⟨-, ⟨imports, himports, heq⟩, -⟩ := (hfollows.ok config).mp h
  intro entry hentry
  rw [heq] at hentry
  obtain ⟨entries, hentries, hmem⟩ := List.mem_flatten.mp hentry
  obtain ⟨_, -, hdeclares⟩ := mem_of_forall₂ himports entries hentries
  exact accepted_of_declares hdeclares entry hmem

theorem isConfigError_of_firstFault (h : ConfigGrammar.FirstFault sites e) :
    e.isConfigError = true := by
  induction h with
  | here hsite => cases hsite <;> rfl
  | later _ _ ih => exact ih

/-- Whatever validation refuses is a mistake of the configuration. -/
theorem ofOptions_error {root : String} (h : ofOptions options root = .error e) :
    e.isConfigError = true :=
  isConfigError_of_firstFault (((ConfigGrammar.ofOptions_follows options root).error e).mp h)

end Config

end PagePrelude
