import PagePrelude.Proofs.Longer.Parts

/-!
# Names and patterns in a longer text

The rules of the grammar for names and patterns do the same in a longer text, if what they call for
does.
-/

namespace PagePrelude.Module

/-- Two grammars that do the same, the one in a text and the other in a longer one. -/
structure Grammar.Follows (tail : Tail) (g g' : Grammar) : Prop where
  assignment : ∀ scope, Takes tail false Eq (g.assignment scope) (g'.assignment scope)
  target : ∀ scope, Takes tail false Eq (g.target scope) (g'.target scope)
  statement : ∀ scope inList,
    Takes tail false Eq (g.statement scope inList) (g'.statement scope inList)
  construct : ∀ scope, Takes tail false Eq (g.construct scope) (g'.construct scope)
  heritage : ∀ scope, Takes tail false Eq (g.heritage scope) (g'.heritage scope)
  /-- Behind an element among the content of another, the other goes on. -/
  markup : ∀ scope child, Takes tail child Eq (g.markup scope child) (g'.markup scope child)

namespace Parser

section
variable {tail : Tail} {inside : Bool} {g g' : Grammar}

-- ---------------------------------------------------------------------------
-- Names
-- ---------------------------------------------------------------------------

theorem checkName_still (scope : Scope) (name : String) :
    Still tail Eq (checkName scope name) (checkName scope name) :=
  Still.token.chain (fun _ => ⟨rfl, rfl⟩) fun _ _ _ =>
    .ite (.note ..) (.ite (.note ..) (.pure rfl))

theorem boundName_takes (scope : Scope) :
    Takes tail inside Eq (boundName scope) (boundName scope) := by
  refine .lexeme (fun lexeme => ?_) .unexpected .unexpected fun _ => .unexpected
  split
  · exact .check (.failToken _) (.failToken _) fun _ =>
      (checkName_still scope _).bind fun _ => .next (.pure rfl)
  · exact Through.unexpected.toUpto

theorem anyName_needs : Needs anyName :=
  .lexeme .unexpected .unexpected fun _ => .unexpected

theorem anyName_takes : Takes tail inside Eq anyName anyName := by
  refine ⟨.lexeme fun lexeme => ?_, anyName_needs⟩
  split
  · exact .next (.pure rfl)
  · exact Through.unexpected.toUpto

theorem source_takes : Takes tail inside Eq source source := by
  refine .lexeme (fun lexeme => ?_) .unexpected .unexpected fun _ => .unexpected
  split
  · exact .next (.pure rfl)
  · exact Through.unexpected.toUpto

theorem exportName_takes : Takes tail inside Eq exportName exportName := by
  refine ⟨.token fun {t t'} hlexeme _ => ?_, .token fun {t} hopen => ?_⟩
  · rw [hlexeme]
    split
    · exact .next (.optional (.note ..) fun _ => .pure rfl)
    · exact anyName_takes.toUpto.bind fun _ => .pure rfl
  · split
    · rename_i hlexeme
      rw [hlexeme] at hopen
      cases hopen
    · exact anyName_needs.bind

theorem propertyName_takes (hg : g.Follows tail g') (scope : Scope) :
    Takes tail inside Eq (propertyName g scope) (propertyName g' scope) := by
  refine .lexeme (fun lexeme => ?_) anyName_needs.bind anyName_needs.bind
    fun _ => anyName_needs.bind
  split
  · exact .next (.pure rfl)
  · exact .next (.pure rfl)
  · exact .next (.closedBy "]" (hg.assignment _).through.bracketed fun _ => .pure rfl)
  · exact anyName_takes.toUpto.bind fun _ => .pure rfl

-- ---------------------------------------------------------------------------
-- Patterns
-- ---------------------------------------------------------------------------

theorem element_takes (hg : g.Follows tail g') (scope : Scope) :
    Takes tail inside Eq (element g scope) (element g' scope) := by
  refine ⟨(hg.target scope).toUpto.weaken.bind fun target => ?_, (hg.target scope).needs.bind⟩
  exact (Through.eat "=").bind fun _ =>
    .ite (fun _ => (hg.assignment _).through.weaken.bind fun _ => .pure rfl) fun _ => .pure rfl

theorem patternProperty_takes (hg : g.Follows tail g') (scope : Scope) :
    Takes tail inside Eq (patternProperty g scope) (patternProperty g' scope) := by
  have hname : Takes tail inside Eq _ _ := propertyName_takes hg scope
  refine ⟨.token fun {t t'} hlexeme _ => hname.toUpto.bind fun ⟨key, computed⟩ => ?_,
    .token fun _ => hname.needs.bind⟩
  refine (Through.eat ":").bind fun _ =>
    .ite (fun _ => (element_takes hg scope).through.bind fun _ => .pure rfl) fun _ => ?_
  rw [hlexeme]
  split
  · refine .check (.failExpected _) (.failExpected _) fun _ =>
      .optional (.note ..) fun _ => .optional (.note ..) fun _ => (Through.eat "=").bind fun _ =>
      .ite (fun _ => (hg.assignment _).through.weaken.bind fun _ => .pure rfl) fun _ => .pure rfl
  · exact (Fails.failExpected ":").through (.failExpected ":")

theorem patternPlace_takes (hg : g.Follows tail g') (scope : Scope) :
    Takes tail inside Eq (patternPlace g scope) (patternPlace g' scope) := by
  have helement : Takes tail inside Eq _ _ := element_takes hg scope
  exact ⟨.atMark fun _ => .ite (fun _ => (Through.pure rfl).toUpto) fun _ => helement.toUpto,
    .atMark helement.needs⟩

/-- The same, and with or without a place. -/
def PlaceRel {α : Type} : α × Option (Nat × Nat) → α × Option (Nat × Nat) → Prop
  | (a, place), (a', place') => a = a' ∧ OptionRel (fun _ _ => True) place place'

theorem placeRel_refl {α : Type} (found : α × Option (Nat × Nat)) : PlaceRel found found := by
  refine ⟨rfl, ?_⟩
  cases found.2 <;> trivial

section
variable {part part' : Parser Pattern} {rest rest' : Option (Nat × Nat)}

theorem patternPart_through (hg : g.Follows tail g') (scope : Scope) (kind : PartKind)
    (hpart : Through tail true Eq part part') (hrest : OptionRel (fun _ _ => True) rest rest') :
    Through tail true PlaceRel (patternPart g scope kind part rest)
      (patternPart g' scope kind part' rest') := by
  unfold patternPart
  rcases rest with _ | place <;> rcases rest' with _ | place' <;> try exact hrest.elim
  case' some.some => refine (Through.note ..).bind fun _ => ?_
  all_goals
    refine .start fun _ _ => (Through.eat "...").bind fun _ => .ite (fun _ =>
      (element_takes hg scope).through.bind fun target => .previous fun _ _ => ?_)
      fun _ => hpart.bind fun _ => .pure ⟨rfl, hrest⟩
    split
    · exact (Through.note ..).bind fun _ => .pure ⟨rfl, trivial⟩
    · exact .pure ⟨rfl, trivial⟩

theorem patternStep_through (hg : g.Follows tail g') (scope : Scope) (kind : PartKind)
    (close : String) (hpart : Through tail true Eq part part')
    {state state' : List Pattern × Option (Nat × Nat)} (hstate : PlaceRel state state') :
    Through tail true (Sum.LiftRel PlaceRel Eq) (patternStep g scope kind close part state)
      (patternStep g' scope kind close part' state') := by
  obtain ⟨parts, rest⟩ := state
  obtain ⟨parts', rest'⟩ := state'
  obtain ⟨rfl, hrest⟩ := hstate
  refine (Through.mark close).bind fun _ => Through.uncertainEnd.bind fun _ =>
    .ite (fun _ => .pure (.inr rfl)) fun _ => (Through.eat ",").bind fun _ =>
    .check (.failExpectedOr _ _) (.failExpectedOr _ _) fun _ => (Through.mark close).bind fun _ =>
    .ite (fun _ => ?comma) fun _ => ?_
  case comma =>
    rcases rest with _ | place <;> rcases rest' with _ | place' <;> try exact hrest.elim
    · exact .pure (.inr rfl)
    · exact .previous fun _ _ => .previous fun _ _ => (Through.note ..).bind fun _ =>
        .pure (.inr rfl)
  refine (patternPart_through hg scope kind hpart hrest).bindRel placeRel_refl ?_
  rintro ⟨next, rest⟩ ⟨next', rest'⟩ ⟨rfl, hrest⟩
  exact .pure (.inl ⟨rfl, hrest⟩)

theorem patternParts_through (hg : g.Follows tail g') (scope : Scope) (kind : PartKind)
    (close : String) (hpart : Through tail true Eq part part') :
    Through tail true Eq (patternParts g scope kind close part)
      (patternParts g' scope kind close part') := by
  refine (Through.mark close).bind fun _ => Through.uncertainEnd.bind fun _ =>
    .ite (fun _ => .pure rfl) fun _ => ?_
  have hnone : OptionRel (fun _ _ => True) (none : Option (Nat × Nat)) none := trivial
  refine (patternPart_through hg scope kind hpart hnone).bindRel placeRel_refl ?_
  rintro ⟨first, rest⟩ ⟨first', rest'⟩ ⟨rfl, hrest⟩
  exact .repeatStepRel placeRel_refl (fun _ => rfl)
    (fun _ _ hstate => patternStep_through hg scope kind close hpart hstate) ⟨rfl, hrest⟩

end

theorem objectParts_through (hg : g.Follows tail g') (scope : Scope) :
    Through tail true Eq (objectParts g scope) (objectParts g' scope) :=
  .start fun _ _ => (patternParts_through hg scope _ _
    (patternProperty_takes hg scope).through).bind fun _ => .ite (fun _ => .previous fun _ _ =>
      (Through.note ..).bind fun _ => .pure rfl) fun _ => .pure rfl

theorem target_takes (hg : g.Follows tail g') (scope : Scope) :
    Takes tail inside Eq (target g scope) (target g' scope) := by
  have hname : Takes tail inside Eq _ _ := boundName_takes scope
  refine ⟨?_, .eat (.eat hname.needs.bind)⟩
  refine (Through.eat "\x7b").toUpto.bind fun _ => .ite (fun _ => ?_) fun _ =>
    (Through.eat "[").bind fun _ => .ite (fun _ => ?_) fun _ =>
    hname.through.bind fun _ => .pure rfl
  · exact .closedBy _ (objectParts_through hg scope) fun _ => .pure rfl
  · exact .closedBy _ (patternParts_through hg scope _ _ (patternPlace_takes hg scope).through)
      fun _ => .pure rfl

theorem parameters_takes (hg : g.Follows tail g') (scope : Scope) :
    Takes tail inside Eq (parameters g scope) (parameters g' scope) :=
  ⟨(Through.expect "(").toUpto.bind fun _ => .closedBy _
    (patternParts_through hg _ _ _ (element_takes hg _).through) fun _ => .pure rfl,
    (Needs.expect "(").bind⟩

end

end Parser

end PagePrelude.Module
