import PagePrelude.Fragment
import PagePrelude.Proofs.Text.Characters

/-!
# Names that the library chooses

A default import is bound to a name derived from its path, an override to a name with
its index. Both are made of plain characters, so module code reads them as words,
whatever the path or the element is.
-/

namespace PagePrelude

namespace Identifier

theorem isRest_of_isPlain (h : isPlain c = true) : isRest c = true := by
  simp only [isPlain, Char.isAlphanum, Bool.or_eq_true, beq_iff_eq] at h
  simp only [isRest, Text.isAlphabetic, Text.isNumeric, Bool.or_eq_true, beq_iff_eq]
  rcases h with (h | h) | h
  · exact .inl (.inl (.inl (.inl h)))
  · exact .inl (.inl (.inr (.inl h)))
  · exact .inl (.inr h)

theorem ascii_of_isPlain (h : isPlain c = true) : c.toNat < 128 := by
  have bounded {top : UInt32} (hc : c.val ≤ top) (ht : top.toNat < 128) : c.toNat < 128 :=
    Nat.lt_of_le_of_lt (UInt32.le_iff_toNat_le.mp hc) ht
  simp only [isPlain, Char.isAlphanum, Bool.or_eq_true, beq_iff_eq] at h
  rcases h with (halpha | hdigit) | rfl
  · rcases (Bool.or_eq_true _ _).mp halpha with hupper | hlower
    · exact bounded (of_decide_eq_true hupper).2 (by decide)
    · exact bounded (of_decide_eq_true ((Bool.and_eq_true _ _).mp hlower).2) (by decide)
  · exact bounded (of_decide_eq_true ((Bool.and_eq_true _ _).mp hdigit).2) (by decide)
  · decide

theorem isPlain_of_mem_sanitize (h : c ∈ (sanitize text).toList) : isPlain c = true := by
  simp only [sanitize, String.toList_ofList] at h
  exact (List.mem_filter.mp h).2

/-- A derived name that is an identifier is a word. -/
theorem derived_isWord (h : isIdentifier (derived path) = true) :
    Module.isWord (derived path) = true := by
  refine Module.isWord_of_isIdentifier ?_ h
  simp only [Module.isAscii, List.all_eq_true, decide_eq_true_eq]
  exact fun c hc => ascii_of_isPlain (isPlain_of_mem_sanitize hc)

end Identifier

namespace Override

open Identifier (isIdentifier isPlain isShaped reservedWords)

variable (index : Nat) (override : Override)

theorem bound_eq : override.bound index =
    "__AutoImportComponent" ++ toString index ++ "_" ++ Identifier.sanitize override.element := rfl

theorem toList_bound : (override.bound index).toList = "__AutoImportComponent".toList ++
    (Nat.toDigits 10 index ++ ('_' :: (Identifier.sanitize override.element).toList)) := by
  rw [bound_eq, Nat.toString_eq_repr, String.toList_append, String.toList_append,
    String.toList_append, Nat.toList_repr, List.append_assoc, List.append_assoc]
  rfl

theorem bound_plain (h : c ∈ (override.bound index).toList) : isPlain c = true := by
  have hname : "__AutoImportComponent".toList.all isPlain = true := by decide +kernel
  rw [toList_bound] at h
  rcases List.mem_append.mp h with h | h
  · exact List.all_eq_true.mp hname c h
  rcases List.mem_append.mp h with h | h
  · have hdigit := Nat.isDigit_of_mem_toDigits (by decide) (by decide) h
    simp [isPlain, Char.isAlphanum, hdigit]
  rcases List.mem_cons.mp h with rfl | h
  · decide
  · exact Identifier.isPlain_of_mem_sanitize h

theorem bound_cons : ∃ rest, (override.bound index).toList = '_' :: rest :=
  ⟨_, override.toList_bound index⟩

theorem bound_isIdentifier : isIdentifier (override.bound index) = true := by
  obtain ⟨rest, hbound⟩ := override.bound_cons index
  have hplain : ∀ c ∈ rest, isPlain c = true :=
    fun c hc => override.bound_plain index (hbound ▸ List.mem_cons_of_mem _ hc)
  have hshaped : isShaped (override.bound index) = true := by
    simp only [isShaped, hbound, Bool.and_eq_true, List.all_eq_true]
    exact ⟨by decide, fun c hc => Identifier.isRest_of_isPlain (hplain c hc)⟩
  have hfree : override.bound index ∉ reservedWords := by
    intro hmem
    have hall : ∀ word ∈ reservedWords, word.toList.head? ≠ some '_' := by decide +kernel
    exact hall _ hmem (by simp [hbound])
  simp [isIdentifier, hshaped, hfree]

theorem bound_isWord : Module.isWord (override.bound index) = true := by
  refine Module.isWord_of_isIdentifier ?_ (override.bound_isIdentifier index)
  simp only [Module.isAscii, List.all_eq_true, decide_eq_true_eq]
  exact fun c hc => Identifier.ascii_of_isPlain (override.bound_plain index hc)

end Override

end PagePrelude
