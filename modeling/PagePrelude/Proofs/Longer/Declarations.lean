import PagePrelude.Module.Statement
import PagePrelude.Proofs.Longer.Chains

/-!
# Declarations, imports and exports in a longer text

The rules of the grammar for what an item declares, imports or exports do the same in a longer text.
-/

namespace PagePrelude.Module.Parser

section
variable {tail : Tail} {inside : Bool} {g g' : Grammar}

theorem noteExport_quiet (name : String) (start stop : Nat) :
    Quiet fun state => { state with exported := state.exported ++ [(name, start, stop)] } :=
  ⟨fun _ => rfl, fun _ => rfl, fun _ => rfl, fun _ => rfl, fun _ => rfl⟩

theorem noteExport_through (name : String) (start start' stop stop' : Nat) :
    Through tail inside Eq (noteExport name start stop) (noteExport name start' stop') :=
  (noteExport_quiet ..).through (noteExport_quiet ..)

theorem noteNames_through (names : List String) (start start' stop stop' : Nat) :
    Through tail inside Eq (noteNames names start stop) (noteNames names start' stop') := by
  induction names with
  | nil => exact .pure rfl
  | cons name names ih => exact (noteExport_through ..).bind fun _ => ih

-- ---------------------------------------------------------------------------
-- Declarations
-- ---------------------------------------------------------------------------

theorem checkResource_through (pattern : Pattern) (hasValue inLoop : Bool)
    (start start' stop stop' : Nat) :
    Through tail inside Eq (checkResource pattern hasValue inLoop start stop)
      (checkResource pattern hasValue inLoop start' stop') :=
  .optional (.note ..) fun _ => .ite (fun _ => .note ..) fun _ => .pure rfl

theorem declarator_takes (hg : g.Follows tail g') (scope : Scope) (keyword : String)
    (inLoop : Bool) : Takes tail inside Eq (declarator g scope keyword inLoop)
      (declarator g' scope keyword inLoop) := by
  refine .start fun _ _ => (hg.target scope).weaken.bind fun pattern => .previous fun _ _ =>
    (Through.eat "=").bind fun _ => .ite (fun _ => ?_) fun _ => ?_
  · exact (hg.assignment _).through.weaken.bind fun _ =>
      .optional (checkResource_through ..) fun _ => .pure rfl
  · refine (Through.word (by decide)).bind fun _ => (Through.word (by decide)).bind fun _ =>
      .ite (fun _ => .ite (fun _ => (Through.note ..).bind fun _ => ?_) fun _ =>
        .ite (fun _ => (Through.note ..).bind fun _ => ?_) fun _ => ?_) fun _ => ?_
    all_goals exact .optional (checkResource_through ..) fun _ => .pure rfl

theorem declarators_takes (hg : g.Follows tail g') (scope : Scope) (keyword : String)
    (inLoop : Bool) : Takes tail inside Eq (declarators g scope keyword inLoop)
      (declarators g' scope keyword inLoop) := by
  refine (declarator_takes hg ..).bind fun first => .repeatStep (fun list => ?_) _
  exact (Through.eat ",").bind fun _ =>
    .ite (fun _ => (declarator_takes hg ..).through.bind fun _ => .pure rfl) fun _ => .pure rfl

theorem bindings_takes (hg : g.Follows tail g') (scope : Scope) (keyword : String) :
    Takes tail inside Eq (bindings g scope keyword) (bindings g' scope keyword) := by
  have hlist : Takes tail inside Eq _ _ := declarators_takes hg scope keyword false
  exact ⟨.next (hlist.through.bind fun _ => Through.endStatement.bind fun _ => .pure rfl),
    .after advance_stays fun _ => hlist.needs.bind⟩

theorem functionName_through (scope : Scope) (nameless : Bool) :
    Through tail inside Eq (functionName scope nameless) (functionName scope nameless) := by
  refine .lexeme (fun lexeme => .ite (fun _ => ?_) fun _ => ?_) fun {lexeme lexeme'} h => ?_
  · exact (boundName_takes _).toUpto.bind fun _ => .pure rfl
  · refine .noteHere _ ?_
    exact (Through.pure rfl).toUpto
  · have hnames : isName lexeme = false ∧ isName lexeme' = false := by
      cases h <;> exact ⟨rfl, rfl⟩
    rw [hnames.1, hnames.2, if_neg Bool.false_ne_true]
    refine .noteHere _ ?_
    exact .pure rfl

theorem functionDeclaration_takes (hg : g.Follows tail g') (scope : Scope)
    (isAsync nameless : Bool) :
    Takes tail inside Eq (functionDeclaration g scope isAsync nameless)
      (functionDeclaration g' scope isAsync nameless) :=
  .after (.eat "*") fun _ => .after (functionName_through ..) fun _ =>
    (functionRest_takes hg ..).bind fun _ => .pure rfl

theorem classDeclaration_takes (hg : g.Follows tail g') (scope : Scope) (nameless : Bool)
    (marks : List Code) : Takes tail inside Eq (classDeclaration g scope nameless marks)
      (classDeclaration g' scope nameless marks) := by
  refine .after (className_through _) fun name => .noteHere _ ?_
  exact (classRest_takes hg ..).bind fun _ => .pure rfl

/-- An asynchronous function in front of a parser, and none. -/
theorem atAsyncFunction_through {α : Type} {rel : α → α → Prop} {f f' : Bool → Parser α}
    (hyes : Upto tail inside rel (f true) (f' true))
    (hno : Through tail inside rel (f false) (f' false)) :
    Through tail inside rel (atAsyncFunction >>= f) (atAsyncFunction >>= f') := by
  unfold atAsyncFunction
  rw [bind_assoc, bind_assoc]
  refine .atWord (by decide) ?_ ?_
  · refine (beginsAsyncFunction_still "async").bind fun begins => ?_
    cases begins
    · exact hno.toUpto
    · exact hyes
  · simpa using hno

-- ---------------------------------------------------------------------------
-- Imports
-- ---------------------------------------------------------------------------

theorem importValue_takes (key : Code) : Takes tail inside Eq
    (expect ":" >>= fun _ => lexeme >>= fun
      | .string value spelling _ => advance >>= fun _ =>
        pure (Code.node (.property .value false) [key, .string value spelling])
      | _ => unexpected)
    (expect ":" >>= fun _ => lexeme >>= fun
      | .string value spelling _ => advance >>= fun _ =>
        pure (Code.node (.property .value false) [key, .string value spelling])
      | _ => unexpected) := by
  refine ⟨(Through.expect ":").toUpto.bind fun _ => Takes.through <|
    .lexeme (fun lexeme => ?_) .unexpected .unexpected fun _ => .unexpected,
    (Needs.expect ":").bind⟩
  split
  · exact .next (.pure rfl)
  · exact Through.unexpected.toUpto

theorem importAttribute_takes : Takes tail inside Eq importAttribute importAttribute := by
  have hvalue (key : Code) : Takes tail inside Eq _ _ := importValue_takes key
  refine .lexeme (fun lexeme => ?_) anyName_needs.bind anyName_needs.bind
    fun _ => anyName_needs.bind
  split
  · exact .next (hvalue _).through
  · exact anyName_takes.toUpto.bind fun _ => (hvalue _).through

theorem importAttributes_through :
    Through tail inside Eq importAttributes importAttributes := by
  refine .token (fun {t t'} hlexeme hbreak => ?_) fun {t t'} h => ?_
  · rw [hlexeme, hbreak]
    refine .ite (fun _ => (Through.pure rfl).toUpto) fun _ => .next ?_
    exact (Through.listOf "\x7b" "\x7d" importAttribute_takes.through).bind fun _ =>
      .previous fun _ _ => ((noteAll_quiet ..).through (noteAll_quiet ..)).bind fun _ => .pure rfl
  · rcases t
    rcases t'
    cases h <;> exact .pure rfl

theorem importSpecifier_takes (scope : Scope) :
    Takes tail inside Eq (importSpecifier scope) (importSpecifier scope) := by
  have hname : Takes tail inside Eq _ _ := exportName_takes
  refine ⟨.token fun {t t'} _ _ => hname.toUpto.bind fun exported =>
    (Through.eatWord (by decide)).bind fun _ => .ite (fun _ => ?_) fun _ => ?_,
    .token fun _ => hname.needs.bind⟩
  · exact (boundName_takes _).through.bind fun _ => .pure rfl
  · split
    · exact .check (.fail _ _ _) (.fail _ _ _) fun _ => .optional (.note ..) fun _ => .pure rfl
    · exact (Fails.fail _ _ _).through (.fail _ _ _)

theorem importWhole_upto (scope : Scope) :
    Upto tail inside Eq (importWhole scope) (importWhole scope) :=
  .next ((Through.expectWord (by decide)).bind fun _ => (boundName_takes _).through.bind
    fun _ => .pure rfl)

theorem importList_through (scope : Scope) :
    Through tail inside Eq (importList scope) (importList scope) :=
  .listOf "\x7b" "\x7d" (importSpecifier_takes _).through

theorem importSpecifiers_through (scope : Scope) (bound : Option String) :
    Through tail inside Eq (importSpecifiers scope bound) (importSpecifiers scope bound) := by
  have hend (list : List ImportSpecifier) : Through tail inside Eq
      (expectWord "from" >>= fun _ => pure list) (expectWord "from" >>= fun _ => pure list) :=
    (Through.expectWord (by decide)).bind fun _ => .pure rfl
  unfold importSpecifiers
  split
  · refine (Through.eat ",").bind fun _ => .ite (fun _ => .atMark ?_ ?_) fun _ => hend _
    · exact (importWhole_upto _).bind fun _ => hend _
    · exact (Through.mark "\x7b").bind fun _ => .ite
        (fun _ => (importList_through _).bind fun _ => hend _)
        fun _ => Fails.unexpected.bind.through Fails.unexpected.bind
  · refine .atMark ?_ ?_
    · exact (importWhole_upto _).bind fun _ => hend _
    · exact (Through.mark "\x7b").bind fun _ => .ite
        (fun _ => (importList_through _).bind fun _ => hend _) fun _ => hend _

theorem importDefault_through (scope : Scope) :
    Through tail inside Eq (importDefault scope) (importDefault scope) := by
  refine .lexeme (fun lexeme => .ite (fun _ => (Through.pure rfl).toUpto) fun _ => ?_)
    fun {lexeme lexeme'} h => ?_
  · refine (boundName_takes _).toUpto.bind fun name => (Through.mark "*").bind fun _ =>
      .ite (fun _ => .pure rfl) fun _ => .lexeme (fun lexeme => ?_) fun h => ?_
    · split
      · refine .ite (fun _ => .peek fun {t t'} hlexeme _ => ?_) fun _ => (Through.pure rfl).toUpto
        rw [hlexeme]
        exact .ite (fun _ => (boundName_takes _).toUpto.bind fun _ => .pure rfl)
          fun _ => (Through.pure rfl).toUpto
      · exact (Through.pure rfl).toUpto
    · have hnames : isName (.word "export" false) = false ∧ isName (.word "import" false) = false :=
        ⟨rfl, rfl⟩
      cases h <;> simp only [hnames, Bool.and_false, Bool.false_eq_true, if_false] <;>
        exact .pure rfl
  · cases h <;> exact .pure rfl

theorem importItem_upto (scope : Scope) :
    Upto tail inside Eq (importItem scope) (importItem scope) := by
  have hrest (list : Option (List ImportSpecifier)) : Takes tail inside Eq
      (source >>= fun source => importAttributes >>= fun attributes => endStatement >>= fun _ =>
        pure (Item.imports list source attributes))
      (source >>= fun source => importAttributes >>= fun attributes => endStatement >>= fun _ =>
        pure (Item.imports list source attributes)) :=
    source_takes.bind fun _ => importAttributes_through.bind fun _ =>
      Through.endStatement.bind fun _ => .pure rfl
  have hlist : Through tail inside Eq
      (followed (importDefault scope >>= importSpecifiers scope))
      (followed (importDefault scope >>= importSpecifiers scope)) :=
    .followed ((importDefault_through _).bind fun _ => importSpecifiers_through ..)
  refine .next (.lexeme (fun lexeme => ?_) fun h => ?_)
  · split
    · exact (hrest _).toUpto
    · exact (hlist.bind fun _ => (hrest _).through).toUpto
  · cases h <;> exact hlist.bind fun _ => (hrest _).through

-- ---------------------------------------------------------------------------
-- Exports
-- ---------------------------------------------------------------------------

/-- The same specifier, wherever it stands. -/
def SpecifierRel (found found' : ExportSpecifier × Nat × Nat) : Prop :=
  found.1 = found'.1

theorem exportSpecifier_takes :
    Takes tail inside SpecifierRel exportSpecifier exportSpecifier := by
  have hname : Takes tail inside Eq _ _ := exportName_takes
  refine ⟨.token fun {t t'} _ _ => hname.toUpto.bind fun own =>
    (Through.eatWord (by decide)).bind fun _ => .ite (fun _ => .place fun _ _ => ?_) fun _ => ?_,
    .token fun _ => hname.needs.bind⟩
  · exact exportName_takes.through.bind fun _ => (noteExport_through ..).bind fun _ => .pure rfl
  · exact (noteExport_through ..).bind fun _ => .pure rfl

theorem checkOwnNames_through {list list' : List (ExportSpecifier × Nat × Nat)}
    (h : List.Forall₂ SpecifierRel list list') :
    Through tail inside Eq (checkOwnNames list) (checkOwnNames list') := by
  induction h with
  | nil => exact .pure rfl
  | @cons found found' list list' hfound _ ih =>
    obtain ⟨specifier, start, stop⟩ := found
    obtain ⟨specifier', start', stop'⟩ := found'
    obtain rfl : specifier = specifier' := hfound
    unfold checkOwnNames
    dsimp only
    split
    · exact (Through.note ..).bind fun _ => ih
    · exact .optional (.note ..) fun _ => ih

theorem exportNames_takes : Takes tail inside Eq exportNames exportNames := by
  have hlist : Through tail inside (List.Forall₂ SpecifierRel) _ _ :=
    .listBetween "\x7b" "\x7d" (fun _ => rfl) exportSpecifier_takes.through
  refine ⟨hlist.toUpto.bindRel (fun list => List.forall₂_same.mpr fun _ _ => rfl)
    fun list list' h => ?_, (Needs.listBetween "\x7b" "\x7d").bind⟩
  have hnames : list.map (·.1) = list'.map (·.1) := by
    rw [← List.forall₂_eq_eq_eq, List.forall₂_map_left_iff, List.forall₂_map_right_iff]
    exact h
  rw [hnames]
  refine (Through.eatWord (by decide)).bind fun _ => .ite (fun _ => ?_) fun _ => ?_
  · exact source_takes.through.bind fun _ => importAttributes_through.bind fun _ =>
      Through.endStatement.bind fun _ => .pure rfl
  · exact (checkOwnNames_through h).bind fun _ => Through.endStatement.bind fun _ => .pure rfl

theorem exportAll_upto : Upto tail inside Eq exportAll exportAll := by
  refine .next (.bind (.followed ((Through.eatWord (by decide)).bind fun _ =>
    .ite (fun _ => .place fun _ _ => exportName_takes.through.bind fun _ => ?_) fun _ => ?_))
    fun exported => ?_)
  · exact (noteExport_through ..).bind fun _ =>
      (Through.expectWord (by decide)).bind fun _ => .pure rfl
  · exact (Through.expectWord (by decide)).bind fun _ => .pure rfl
  · exact source_takes.through.bind fun _ => importAttributes_through.bind fun _ =>
      Through.endStatement.bind fun _ => .pure rfl

theorem checkMarks_still (marks : List Code) :
    Still tail Eq (checkMarks marks) (checkMarks marks) :=
  Still.start.chain (fun _ => trivial) fun _ _ _ => (noteAll_quiet ..).still (noteAll_quiet ..)

theorem checkMarks_through (marks : List Code) :
    Through tail inside Eq (checkMarks marks) (checkMarks marks) :=
  .start fun _ _ => (noteAll_quiet ..).through (noteAll_quiet ..)

theorem exportDefault_upto (hg : g.Follows tail g') (scope : Scope) (marks : List Code) :
    Upto tail inside Eq (exportDefault g scope marks) (exportDefault g' scope marks) := by
  refine .token fun {t t'} _ _ => .next ((noteExport_through ..).bind fun _ =>
    (decorators_through hg _).bind fun _ => (Through.eatWord (by decide)).bind fun _ =>
    .ite (fun _ => ?classes) fun _ => (checkMarks_through _).bind fun _ =>
    (Through.eatWord (by decide)).bind fun _ => .ite (fun _ => ?functions)
      fun _ => atAsyncFunction_through ?async ?value)
  case classes => exact (classDeclaration_takes hg ..).through.bind fun _ => .pure rfl
  case functions => exact (functionDeclaration_takes hg ..).through.bind fun _ => .pure rfl
  case async => exact .nextTwo ((functionDeclaration_takes hg ..).bind fun _ => .pure rfl)
  case value =>
    exact (hg.assignment _).through.weaken.bind fun _ =>
      Through.endStatement.bind fun _ => .pure rfl

theorem exportVariable_takes (hg : g.Follows tail g') (scope : Scope) (keyword : String) :
    Takes tail inside Eq (exportVariable g scope keyword) (exportVariable g' scope keyword) := by
  refine .start fun _ _ => (declarator_takes hg ..).bind fun ⟨pattern, value⟩ => ?_
  dsimp only
  split
  · exact (noteExport_through ..).bind fun _ => .pure rfl
  · exact (noteNames_through ..).bind fun _ => .pure rfl

theorem exportVariables_upto (hg : g.Follows tail g') (scope : Scope) (keyword : String) :
    Upto tail inside Eq (exportVariables g scope keyword) (exportVariables g' scope keyword) := by
  refine .next ((exportVariable_takes hg ..).through.bind fun first =>
    (Through.repeatStep (fun list => ?_) _).bind fun _ =>
    Through.endStatement.bind fun _ => .pure rfl)
  exact (Through.eat ",").bind fun _ =>
    .ite (fun _ => (exportVariable_takes hg ..).through.bind fun _ => .pure rfl) fun _ => .pure rfl

theorem noteDeclared_through (declaration : Declaration) (start start' stop stop' : Nat) :
    Through tail inside Eq (noteDeclared declaration start stop)
      (noteDeclared declaration start' stop') := by
  unfold noteDeclared
  split
  · exact .ite (fun _ => noteExport_through ..) fun _ => .pure rfl
  · exact .ite (fun _ => noteExport_through ..) fun _ => .pure rfl
  · exact .pure rfl

theorem exportNamed_takes {part part' : Parser Declaration} (h : Takes tail inside Eq part part') :
    Takes tail inside Eq (exportNamed part) (exportNamed part') :=
  ⟨.token fun {_ _} _ _ => h.toUpto.bind fun _ => (noteDeclared_through ..).bind
    fun _ => .pure rfl, .token fun _ => h.needs.bind⟩

theorem exportDeclaration_takes (hg : g.Follows tail g') (scope : Scope) (marks : List Code) :
    Takes tail inside Eq (exportDeclaration g scope marks) (exportDeclaration g' scope marks) := by
  refine .lexeme (fun lexeme => ?_) .unexpected .unexpected fun _ => .unexpected
  split
  · exact .next (exportNamed_takes (classDeclaration_takes hg ..)).through
  · exact (checkMarks_still _).bind fun _ =>
      .next (exportNamed_takes (functionDeclaration_takes hg ..)).through
  · refine (atAsyncFunction_through ?_ ?_).toUpto
    · exact (checkMarks_still _).bind fun _ =>
        .nextTwo (exportNamed_takes (functionDeclaration_takes hg ..))
    · exact Fails.unexpected.bind.through Fails.unexpected.bind
  · exact .ite (fun _ => (checkMarks_still _).bind fun _ => exportVariables_upto hg ..)
      fun _ => Through.unexpected.toUpto
  · exact Through.unexpected.toUpto

theorem exportItem_upto (hg : g.Follows tail g') (scope : Scope) (marks : List Code) :
    Upto tail inside Eq (exportItem g scope marks) (exportItem g' scope marks) := by
  have hdeclaration (marks : List Code) : Takes tail inside Eq
      (exportDeclaration g scope marks >>= fun declared =>
        pure (Item.exportDeclaration declared))
      (exportDeclaration g' scope marks >>= fun declared =>
        pure (Item.exportDeclaration declared)) :=
    (exportDeclaration_takes hg ..).bind fun _ => .pure rfl
  refine .next ((decorators_through hg _).bind fun more => .lexeme (fun lexeme => ?_) fun h => ?_)
  · split
    · exact exportDefault_upto hg ..
    · exact (checkMarks_still _).bind fun _ => exportAll_upto
    · exact (checkMarks_still _).bind fun _ => exportNames_takes.toUpto
    · exact (hdeclaration _).toUpto
  · cases h <;> exact (hdeclaration _).through

end

end PagePrelude.Module.Parser
