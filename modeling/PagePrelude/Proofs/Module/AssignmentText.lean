import PagePrelude.Exposure
import PagePrelude.Proofs.Module.Operands
import PagePrelude.Proofs.Module.Statements

/-!
# The generated assignments read back

A statement that copies a name onto an object is read as one assignment to a property, whatever
the name says elsewhere in the language (`assignment_reads`).
-/

namespace PagePrelude

open Identifier (isIdentifier)

/-- The assignment of a name as an item of module code. -/
def Exposure.item (scope name : String) : Module.Item :=
  .statement (.node .expressionStatement [.node (.assignment "=")
    [.node (.access false) [.name scope, .word name], .name name]])

namespace Module

section
variable {name : String} {s : State} {exported : List String} {rest : List Char}

theorem assignment_append (name : String) (rest : List Char) :
    (Exposure.assignment "globalThis" name).toList ++ rest = "globalThis".toList ++
      '.' :: (name.toList ++ ' ' :: '=' :: ' ' :: (name.toList ++ ';' :: rest)) := by
  simp [Exposure.assignment]

theorem opens_assignment (name : String) (rest : List Char) :
    Opens ((Exposure.assignment "globalThis" name).toList ++ rest) (.word "globalThis" false)
      ('.' :: (name.toList ++ ' ' :: '=' :: ' ' :: (name.toList ++ ';' :: rest))) := by
  rw [assignment_append]
  exact opens_word (by decide) (endsWord_cons.mpr (by decide))

/-- The tokens of an assignment up to its value. -/
theorem before_value (hw : isWord name = true)
    (hs : s.Before exported ((Exposure.assignment "globalThis" name).toList ++ rest)) :
    s.token.lexeme = .word "globalThis" false ∧ s.next.token.lexeme = .mark "." ∧
      s.next.next.token.lexeme = .word name false ∧
      s.next.next.next.token.lexeme = .mark "=" ∧ s.next.next.next.covers = [] ∧
      s.next.next.next.next.Before exported (name.toList ++ ';' :: rest) := by
  have hscope := opens_assignment name rest
  have hdot := opens_dot hw (' ' :: '=' :: ' ' :: (name.toList ++ ';' :: rest))
  have hword := opens_word hw (endsWord_blank ('=' :: ' ' :: (name.toList ++ ';' :: rest)))
  have hequals : Opens ('=' :: ' ' :: (name.toList ++ ';' :: rest)) (.mark "=") _ :=
    opens_mark_blank (by decide)
  have h₁ := hs.next hscope
  have h₂ := h₁.next hdot
  have h₃ := (h₂.next hword).blank
  exact ⟨hs.lexeme hscope, h₁.lexeme hdot, h₂.lexeme hword, h₃.lexeme hequals,
    (h₃.opens hequals).2.2.covers, (h₃.next hequals).blank⟩

/-- A name is copied onto the object, whatever it says where no mark follows it. -/
theorem assignment_reads (hi : isIdentifier name = true) (hw : isWord name = true) (depth : Nat) :
    ReadsStatement (.level (depth + 2)) (Exposure.assignment "globalThis" name).toList
      (Exposure.item "globalThis" name) := by
  constructor
  · intro rest
    refine ⟨.word "globalThis" false,
      '.' :: (name.toList ++ ' ' :: '=' :: ' ' :: (name.toList ++ [';'])), ?_, nofun⟩
    simpa using opens_assignment name rest
  · intro rest s exported hs
    obtain ⟨hscope, hdot, hword, hequals, hcovers, hvalue⟩ := before_value hw hs
    have hends : EndsWord (';' :: rest) := endsWord_cons.mpr (by decide)
    have hsemicolon : Opens (';' :: rest) (.mark ";") rest := opens_mark (by decide)
    have hname := hvalue.lexeme (opens_word hw hends)
    have hend := hvalue.next (opens_word hw hends)
    have hclose := hend.lexeme hsemicolon
    have hread : (Grammar.level (depth + 1)).assignment Scope.top s.next.next.next.next = _ :=
      assignment_of_name (g := .level depth) hi hname hclose (by decide)
    have hassignment : (Grammar.level (depth + 2)).assignment Scope.top s = _ :=
      assignment_of_access (g := .level (depth + 1))
        (.name (by decide) hscope hdot (by decide))
        (chain_access (by decide) hscope hdot hword hequals) hequals hcovers
    rw [map_apply, hread] at hassignment
    refine ⟨_, ?_, hend.next hsemicolon⟩
    simp [Parser.statement, hscope, Parser.wordStatement, Parser.expressionStatement,
      Parser.expression, hassignment, hclose, Parser.endStatement, Exposure.item]

end

end Module

end PagePrelude
