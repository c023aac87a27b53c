import PagePrelude.Proofs.Longer.Markup
import PagePrelude.Proofs.Longer.Statements
import PagePrelude.Proofs.Module.Statements

/-!
# Programs in a longer text

A text is read in a longer one as it is by itself, if what comes behind it begins with an import or
an export, and if nothing that was only tried came to its end (`settled`). So texts that are joined
by blank lines hold the items of each, in order (`read_joined`).
-/

namespace PagePrelude.Module

-- ---------------------------------------------------------------------------
-- Grammars
-- ---------------------------------------------------------------------------

section
variable {tail : Tail} {inside : Bool} {rel : α → α → Prop} {p : Parser α}

theorem Takes.exhausted : Takes tail inside rel Parser.exhausted p :=
  ⟨(Through.exhausted p).toUpto, .exhausted⟩

/-- What is read at some depth is read alike in a longer text where more may be nested. -/
theorem level_follows {depth depth' : Nat} (h : depth ≤ depth') :
    (Grammar.level depth).Follows tail (Grammar.level depth') := by
  induction depth generalizing depth' with
  | zero => exact ⟨fun _ => .exhausted, fun _ => .exhausted, fun _ _ => .exhausted,
      fun _ => .exhausted, fun _ => .exhausted, fun _ _ => .exhausted⟩
  | succ depth ih =>
    obtain ⟨depth', rfl⟩ := Nat.exists_eq_add_one_of_ne_zero (Nat.ne_zero_of_lt h)
    have hg := ih (Nat.le_of_succ_le_succ h)
    exact ⟨fun _ => Parser.assignment_takes hg _, fun _ => Parser.target_takes hg _,
      fun _ _ => Parser.statement_takes hg _ _, fun _ => Parser.construct_takes hg _,
      fun _ => Parser.chain_takes hg _, fun _ _ => Parser.markup_takes hg _ _⟩

theorem ofLength_follows {length length' : Nat} (h : length ≤ length') :
    (Grammar.ofLength length).Follows tail (Grammar.ofLength length') :=
  level_follows (Nat.add_le_add_right (Nat.mul_le_mul_left 3 h) 8)

end

-- ---------------------------------------------------------------------------
-- Items
-- ---------------------------------------------------------------------------

/-- A reading came to the end of its text, with every token read, and whatever it only tried on the
way came to an end before. -/
structure State.Clean (s : State) : Prop where
  overran : s.overran = false
  lexical : s.lexical = []

section
variable {tail : Tail} {g g' : Grammar} {s s' t t' : State} {step : α → Parser (α ⊕ β)}

theorem State.Clean.not_excused (h : s.Clean) : ¬s.Excused false := by
  rintro (hover | ⟨-, hinside | hlexical⟩)
  · rw [h.overran] at hover
    cases hover
  · cases hinside
  · exact hlexical h.lexical

theorem excused_ok {p : Parser α} (hkeeps : Keeps p) (hstays : Stays p) (hs : s.Excused false)
    (h : p s = .ok a t) : t.Excused false := by
  rcases hs with hover | ⟨hended, hwhy⟩
  · exact .inl (last_ok h ▸ hkeeps s hover)
  · have hlast := hstays s hended
    rw [h] at hlast
    exact .inr ⟨hlast.1, hwhy.imp_right hlast.2⟩

theorem Keeps.repeatFor (h : ∀ a, Keeps (step a)) (fuel : Nat) (a : α) :
    Keeps (Parser.repeatFor step fuel a) := by
  induction fuel generalizing a with
  | zero =>
    have hfails : Through .nothing false Eq Parser.exhausted (Parser.repeatFor step 0 a) :=
      .exhausted _
    exact hfails.keeps
  | succ fuel ih =>
    refine (h a).bind fun found => ?_
    cases found with
    | inl next => exact ih next
    | inr result => exact fun _ hs => hs

theorem Stays.repeatFor (h : ∀ a, Stays (step a)) (fuel : Nat) (a : α) :
    Stays (Parser.repeatFor step fuel a) := by
  induction fuel generalizing a with
  | zero => exact Needs.exhausted.stays
  | succ fuel ih =>
    refine (h a).bind fun found => ?_
    cases found with
    | inl next => exact ih next
    | inr result => exact .pure _

variable {items items' found found' : List PlacedItem} {earlier : List Item} {fuel fuel' : Nat}

theorem itemStep_keeps (hg : g.Follows tail g') (items : List PlacedItem) :
    Keeps (itemStep g items) := by
  have hstatement : Takes tail false Eq _ _ := Parser.statement_takes hg Scope.top true
  have hupto : Upto tail false (fun _ _ => True) (itemStep g items) (itemStep g' items) :=
    .lexeme fun lexeme => .ite (fun _ => (Through.pure trivial).toUpto) fun _ =>
      .start fun _ _ => hstatement.toUpto.bind fun _ => .previous fun _ _ => .pure trivial
  exact hupto.keeps

theorem itemStep_stays (hg : g.Follows tail g') (items : List PlacedItem) :
    Stays (itemStep g items) := fun s hs => by
  have hstatement : Takes tail false Eq _ _ := Parser.statement_takes hg Scope.top true
  by_cases hend : s.token.lexeme = .endOfText
  · rw [itemStep_end hend]
    exact ⟨hs, id⟩
  · obtain ⟨d, t, hp, ht⟩ := hstatement.needs s hs
    rw [itemStep_fails hend hp]
    exact ht

/-- Nothing that is read after a step that nothing is said about is clean. -/
theorem run_clean (hg : g.Follows tail g') (ht : t.Clean)
    (hread : Parser.repeatFor (itemStep g) fuel items s = .ok found t) : ¬s.Excused false :=
  fun hs => ht.not_excused (excused_ok (.repeatFor (itemStep_keeps hg) fuel items)
    (.repeatFor (itemStep_stays hg) fuel items) hs hread)

/-- A step of a reading that goes well, before the end of the text. -/
theorem run_step (hend : s.token.lexeme ≠ .endOfText)
    (hread : Parser.repeatFor (itemStep g) fuel items s = .ok found t) :
    ∃ fuel₂ item u, fuel = fuel₂ + 1 ∧ Parser.statement g Scope.top true s = .ok item u ∧
      Parser.repeatFor (itemStep g) fuel₂ (⟨item, s.token.start, u.previous⟩ :: items) u =
        .ok found t := by
  cases fuel with
  | zero =>
    obtain ⟨d, u, hfails⟩ := fails_without_fuel (g := g) (s := s) items
    cases hread.symm.trans hfails
  | succ fuel =>
    cases hitem : Parser.statement g Scope.top true s with
    | ok item u =>
      rw [repeatFor_inl (itemStep_item hend hitem items)] at hread
      exact ⟨fuel, item, u, rfl, rfl, hread⟩
    | error d u =>
      rw [Parser.repeatFor, bind_apply, itemStep_fails hend hitem] at hread
      cases hread

/-- Items that are read up to the end of a text are read in a longer text, behind those that were
read before, and up to what comes next. -/
theorem items_run (hg : g.Follows tail g') (ht : t.Clean) (hs : s.Near tail s')
    (hitems : items'.map PlacedItem.item = items.map PlacedItem.item ++ earlier)
    (hread : Parser.repeatFor (itemStep g) fuel items s = .ok found t)
    (hlong : Parser.repeatFor (itemStep g') fuel' items' s' = .ok found' t') :
    ∃ fuel₂ items₂ s₂, t.Between tail s₂ ∧
      items₂.map PlacedItem.item = (found.map PlacedItem.item).reverse ++ earlier ∧
      Parser.repeatFor (itemStep g') fuel₂ items₂ s₂ = .ok found' t' := by
  induction fuel generalizing fuel' items items' s s' with
  | zero =>
    obtain ⟨d, u, hfails⟩ := fails_without_fuel (g := g) (s := s) items
    cases hread.symm.trans hfails
  | succ fuel ih =>
    by_cases hend : s.token.lexeme = .endOfText
    · rw [repeatFor_inr (itemStep_end hend items)] at hread
      cases hread
      have hbetween := hs.resolve_left fun hwithin => hwithin.told hend ht.lexical
      refine ⟨fuel', items', s', hbetween, ?_, hlong⟩
      rw [List.map_reverse, List.reverse_reverse, hitems]
    · have hwithin := hs.resolve_right fun hbetween => hend hbetween.lexeme
      have hend' : s'.token.lexeme ≠ .endOfText := hwithin.lexeme ▸ hend
      obtain ⟨fuel, item, u, ⟨⟩, hitem, hread⟩ := run_step hend hread
      obtain ⟨fuel', item', u', rfl, hitem', hlong⟩ := run_step hend' hlong
      have hfollows : Follows tail false Eq _ _ :=
        (Parser.statement_takes hg Scope.top true).within hwithin
      rw [hitem, hitem'] at hfollows
      obtain ⟨_, _, ⟨⟩, rfl, hnext⟩ := hfollows.resolve_left (run_clean hg ht hread)
      refine ih hnext ?_ hread hlong
      rw [List.map_cons, List.map_cons, hitems, List.cons_append]

end

-- ---------------------------------------------------------------------------
-- Declarations
-- ---------------------------------------------------------------------------

/-- Whether an import or export declaration begins with the current token. -/
def State.atDeclaration (s : State) : Bool :=
  match s.token.lexeme with
  | .word "export" false => true
  | .word "import" false =>
    match s.next.token.lexeme with
    | .mark "(" | .mark "." => false
    | _ => true
  | _ => false

/-- The same state, after a line break. -/
def State.broken (s : State) : State :=
  { s with token := { s.token with afterBreak := true } }

section
variable {tail later : Tail} {g : Grammar} {s s' t : State}

theorem atDeclaration_cases (h : s.atDeclaration = true) :
    s.token.lexeme = .word "export" false ∨ s.token.lexeme = .word "import" false ∧
      s.next.token.lexeme ≠ .mark "(" ∧ s.next.token.lexeme ≠ .mark "." := by
  unfold State.atDeclaration at h
  split at h
  · exact .inl ‹_›
  · split at h
    · cases h
    · cases h
    · exact .inr ⟨‹_›, ‹_›, ‹_›⟩
  · cases h

theorem next_broken (s : State) : s.broken.next = s.next := rfl

/-- A declaration is read alike whether or not a line break stands before it. -/
theorem statement_broken (h : s.atDeclaration = true) (scope : Scope) (inList : Bool) :
    Parser.statement g scope inList s.broken = Parser.statement g scope inList s := by
  rcases atDeclaration_cases h with hexport | ⟨himport, hcall, hmember⟩
  · have hbroken : s.broken.token.lexeme = .word "export" false := hexport
    simp only [Parser.statement, Parser.wordStatement, bind_apply, lexeme_apply, hexport, hbroken,
      Parser.exportItem, advance_apply, next_broken]
  · have hbroken : s.broken.token.lexeme = .word "import" false := himport
    have htried : State.next (s.broken.tried s.next) = State.next (s.tried s.next) := rfl
    simp only [Parser.statement, Parser.wordStatement, bind_apply, lexeme_apply, himport, hbroken,
      peek_apply, next_broken, Parser.importItem, advance_apply, htried]

theorem itemStep_broken (h : s.atDeclaration = true) (items : List PlacedItem) :
    itemStep g items s.broken = itemStep g items s := by
  have hbroken := statement_broken (g := g) h Scope.top true
  have hend : s.token.lexeme ≠ .endOfText := by
    rcases atDeclaration_cases h with h | ⟨h, -⟩ <;> rw [h] <;> nofun
  have hend' : s.broken.token.lexeme ≠ .endOfText := hend
  cases hread : Parser.statement g Scope.top true s with
  | ok item t =>
    rw [itemStep_item hend hread]
    exact itemStep_item hend' (hbroken.trans hread) items
  | error d t =>
    rw [itemStep_fails hend hread]
    exact itemStep_fails hend' (hbroken.trans hread) items

theorem atDeclaration_isOpen (h : s.atDeclaration = true) : s.token.lexeme.isOpen = false := by
  rcases atDeclaration_cases h with h | ⟨h, -⟩ <;> rw [h] <;> rfl

theorem repeatFor_broken (h : s.atDeclaration = true) (fuel : Nat) (items : List PlacedItem) :
    Parser.repeatFor (itemStep g) (fuel + 1) items s.broken =
      Parser.repeatFor (itemStep g) (fuel + 1) items s := by
  rw [Parser.repeatFor, bind_apply, bind_apply, itemStep_broken h]

end

-- ---------------------------------------------------------------------------
-- Texts that begin with a declaration
-- ---------------------------------------------------------------------------

/-- Whether a text begins with an import or export declaration. -/
def beginsWithDeclaration (text : String) : Bool :=
  (State.next (.before 0 text.toList)).atDeclaration

section
variable {later : Tail} {text : String} {chars : List Char} {s s' : State}

theorem afterShebang_plain (h : ∀ rest, chars ≠ '#' :: '!' :: rest) :
    afterShebang chars = chars := by
  unfold afterShebang
  split
  · exact absurd rfl (h _)
  · rfl

theorem ofText_declaration (h : beginsWithDeclaration text = true) :
    State.ofText text = State.next (.before 0 text.toList) := by
  have hplain : afterShebang text.toList = text.toList := by
    refine afterShebang_plain fun rest heq => ?_
    rw [beginsWithDeclaration, heq] at h
    cases h
  simp [State.ofText, hplain]

theorem afterShebang_tail (tail : Tail) (chars : List Char) :
    afterShebang (chars ++ tail.chars) = afterShebang chars ++ tail.chars := by
  by_cases h : ∃ rest, chars = '#' :: '!' :: rest
  · obtain ⟨rest, rfl⟩ := h
    exact tail.dropWhile (by decide) rest
  rw [afterShebang_plain fun rest heq => h ⟨rest, heq⟩, afterShebang_plain fun rest heq => ?_]
  rcases chars with _ | ⟨a, _ | ⟨b, chars⟩⟩ <;>
    rcases tail.apart with htail | ⟨more, htail⟩ <;> simp_all

/-- The blanks in front of a declaration, and its first token. -/
theorem first_declaration (h : beginsWithDeclaration text = true) :
    (gap 0 text.toList).openComment = none ∧ (gap 0 text.toList).rest ≠ [] ∧
      (piece (gap 0 text.toList).stop (gap 0 text.toList).rest).lexeme.isOpen = false ∧
      ∃ earlier : State, State.ofText text = earlier.take (gap 0 text.toList).stop
        (gap 0 text.toList).afterBreak (gap 0 text.toList).rest
        (piece (gap 0 text.toList).stop (gap 0 text.toList).rest) := by
  have hsolid := atDeclaration_isOpen h
  rw [ofText_declaration h]
  cases hcomment : (gap 0 text.toList).openComment with
  | some start =>
    have hgap : (gap (State.before 0 text.toList).token.stop
        (State.before 0 text.toList).rest).openComment = some start := hcomment
    unfold State.next at hsolid
    dsimp only at hsolid
    rw [hgap] at hsolid
    cases hsolid
  | none =>
    obtain ⟨earlier, hnext⟩ := next_closed (s := .before 0 text.toList) hcomment
    rw [hnext] at hsolid
    refine ⟨rfl, fun hrest => ?_, hsolid, earlier, hnext⟩
    have hopen : (piece (gap 0 text.toList).stop (gap 0 text.toList).rest).lexeme.isOpen =
        true := by
      rw [hrest]
      rfl
    exact Bool.false_ne_true (hsolid.symm.trans hopen)

/-- What stands between a blank line in front of a declaration and its first token. -/
theorem gap_joined (h : beginsWithDeclaration text = true) (later : Tail) :
    (gap 0 ('\n' :: '\n' :: (text.toList ++ later.chars))).openComment = none ∧
      (gap 0 ('\n' :: '\n' :: (text.toList ++ later.chars))).rest =
        (gap 0 text.toList).rest ++ later.chars := by
  obtain ⟨hclosed, hne, -, -⟩ := first_declaration h
  have halike : BlankState.Alike .outside .outside := trivial
  obtain ⟨hrest, hopen⟩ :=
    gapFrom_alike halike 2 0 true false none none (text.toList ++ later.chars)
  have hgap : gap 0 ('\n' :: '\n' :: (text.toList ++ later.chars)) =
      gapFrom .outside 2 true none (text.toList ++ later.chars) := rfl
  rw [hgap, hrest]
  rcases gapFrom_grows later halike 0 0 false none none text.toList with
    ⟨-, hlong, -, -, hclosed'⟩ | ⟨hnil, -⟩ | ⟨hnil, -⟩
  · exact ⟨by simpa [hclosed'] using hopen, hlong⟩
  · exact absurd hnil hne
  · exact absurd hnil hne

theorem piece_joined (h : beginsWithDeclaration text = true) (later : Tail) (start : Nat) :
    Piece.Grows later (piece (gap 0 text.toList).stop (gap 0 text.toList).rest)
      (piece start ((gap 0 text.toList).rest ++ later.chars)) := by
  obtain ⟨-, hne, hsolid, -⟩ := first_declaration h
  refine (piece_mayGrow later _ start hne).resolve_left fun ⟨hopen, _⟩ => ?_
  rw [hsolid] at hopen
  cases hopen

/-- What comes behind a text that a declaration is joined to. -/
def Tail.joined (text : String) (h : beginsWithDeclaration text = true) (later : Tail) : Tail where
  chars := '\n' :: '\n' :: (text.toList ++ later.chars)
  apart := .inr ⟨_, rfl⟩
  closed := (gap_joined h later).1
  begins := by
    obtain ⟨-, -, -, earlier, hfirst⟩ := first_declaration h
    rw [(gap_joined h later).2, Lexeme.BeginsItem, (piece_joined h later 0).lexeme]
    have hcases := atDeclaration_cases h
    rw [← ofText_declaration h, hfirst] at hcases
    exact .inr (hcases.imp_right And.left)

/-- Where a text ends, the reading of what is joined to it begins. -/
theorem joined_within (h : beginsWithDeclaration text = true)
    (hs : s.Between (.joined text h later) s') : (State.ofText text).broken.Within later s' := by
  obtain ⟨-, hne, hsolid, earlier, hfirst⟩ := first_declaration h
  have hrest := (gap_joined h later).2
  have hpiece := piece_joined h later 0
  have hbehind : (Tail.joined text h later).first =
      piece 0 ((gap 0 text.toList).rest ++ later.chars) := congrArg (piece 0) hrest
  have hlexeme : s'.token.lexeme = (State.ofText text).token.lexeme := by
    rw [hs.lexeme', hbehind, hpiece.lexeme, hfirst]
    rfl
  have hopen : (State.ofText text).token.lexeme.isOpen = false := by rwa [hfirst]
  have hend : s'.token.lexeme ≠ .endOfText := fun hend => by
    rw [← hlexeme, hend] at hopen
    cases hopen
  refine ⟨hlexeme, hs.apart.resolve_left hend, ?_, ?_, ?_, ?_, fun hnone => ?_⟩
  · change s'.here = (State.ofText text).here ++ later.chars
    rw [hs.here', hfirst]
    exact hrest
  · change s'.rest = (State.ofText text).rest ++ later.chars
    rw [hs.rest', hbehind, hpiece.rest, hfirst]
    rfl
  · change (State.ofText text).here ≠ []
    rw [hfirst]
    exact hne
  · rw [Bool.eq_false_iff, Ne, ended_iff]
    exact fun ⟨_, hends⟩ => Bool.false_ne_true (hopen.symm.trans hends)
  · exact absurd (hlexeme.trans hnone) hend

-- ---------------------------------------------------------------------------
-- Joined texts
-- ---------------------------------------------------------------------------

/-- Whether nothing that is only tried in a text comes to its end. -/
def settled (text : String) : Bool :=
  match Parser.items (Grammar.ofLength text.length) (State.ofText text) with
  | .ok _ state => !state.overran
  | .error .. => false

/-- Texts behind others, each behind a blank line. -/
def Tail.ofTexts : (texts : List String) →
    (∀ text ∈ texts, beginsWithDeclaration text = true) → Tail
  | [], _ => .nothing
  | text :: texts, h => .joined text (h text List.mem_cons_self)
      (.ofTexts texts fun later hlater => h later (List.mem_cons_of_mem text hlater))

theorem Tail.ofTexts_chars {texts : List String}
    (h : ∀ text ∈ texts, beginsWithDeclaration text = true) :
    (Tail.ofTexts texts h).chars = others ['\n', '\n'] (texts.map String.toList) := by
  induction texts with
  | nil => rfl
  | cons text texts ih =>
    have hlater := ih fun later hmem => h later (List.mem_cons_of_mem text hmem)
    rw [List.map_cons, others_cons, ← hlater]
    rfl

/-- What a text that can be read, and in which nothing tried comes to the end, is read as. -/
theorem run_of_read {text : String} {own : List Item} (hread : read text = .ok own)
    (hsettled : settled text = true) :
    ∃ found t, t.Clean ∧ found.map PlacedItem.item = own ∧
      Parser.repeatFor (itemStep (.ofLength text.length)) ((State.ofText text).rest.length + 2) []
        (State.ofText text) = .ok found t := by
  obtain ⟨found, t, hrun, hproblems, hown⟩ := items_of_read hread
  rw [settled, hrun] at hsettled
  have hlexical : t.lexical = [] := by
    simp only [State.allProblems, List.append_eq_nil_iff] at hproblems
    exact hproblems.1.1.1
  refine ⟨found, t, ⟨by simpa using hsettled, hlexical⟩, hown, ?_⟩
  rw [← repeatStep_apply, ← items_eq]
  exact hrun

/-- The rest of texts that are joined, from the end of the text before them on. -/
theorem joined_run {texts : List String} {owns : List (List Item)} {length fuel : Nat}
    {items found : List PlacedItem} (h : ∀ text ∈ texts, beginsWithDeclaration text = true)
    (hlength : ∀ text ∈ texts, text.length ≤ length)
    (hsettled : ∀ text ∈ texts, settled text = true)
    (howns : List.Forall₂ (fun text own => read text = .ok own) texts owns)
    (hs : s.Between (.ofTexts texts h) s')
    (hlong : Parser.repeatFor (itemStep (.ofLength length)) fuel items s' = .ok found t) :
    found.map PlacedItem.item = (items.map PlacedItem.item).reverse ++ owns.flatten := by
  induction howns generalizing s s' fuel items with
  | nil =>
    have hend : s'.token.lexeme = .endOfText := hs.lexeme'
    cases fuel with
    | zero =>
      obtain ⟨d, u, hfails⟩ := fails_without_fuel (g := .ofLength length) (s := s') items
      cases hlong.symm.trans hfails
    | succ fuel =>
      rw [repeatFor_inr (itemStep_end hend items)] at hlong
      cases hlong
      simp
  | @cons text own texts owns hread howns ih =>
    have hbegins := h text List.mem_cons_self
    obtain ⟨first, t₁, hclean, hown, hrun⟩ := run_of_read hread (hsettled text List.mem_cons_self)
    have hbegun : (State.ofText text).atDeclaration = true := by
      rwa [ofText_declaration hbegins]
    rw [← repeatFor_broken hbegun] at hrun
    obtain ⟨fuel₂, items₂, s₂, hs₂, hitems, hrest⟩ :=
      items_run (ofLength_follows (hlength text List.mem_cons_self)) hclean
        (.inl (joined_within hbegins hs)) rfl hrun hlong
    have hfound := ih _ (fun later hlater => hlength later (List.mem_cons_of_mem _ hlater))
      (fun later hlater => hsettled later (List.mem_cons_of_mem _ hlater)) hs₂ hrest
    rw [hfound, hitems, hown]
    simp

/-- Texts that are joined by blank lines, as one text. -/
theorem toList_joined (text : String) (texts : List String) :
    ("\n\n".intercalate (text :: texts)).toList =
      text.toList ++ others ['\n', '\n'] (texts.map String.toList) := by
  rw [String.toList_intercalate, List.map_cons, intercalate_eq]
  rfl

theorem length_le_joined (texts : List String) :
    ∀ text ∈ texts, text.length ≤ ("\n\n".intercalate texts).length := by
  have hothers : ∀ texts : List String, ∀ text ∈ texts,
      text.length ≤ (others ['\n', '\n'] (texts.map String.toList)).length := by
    intro texts
    induction texts with
    | nil => nofun
    | cons first texts ih =>
      refine List.forall_mem_cons.mpr ⟨?_, fun text htext => (ih text htext).trans ?_⟩ <;>
        simp only [List.map_cons, others_cons, List.length_append, String.length_toList] <;> omega
  cases texts with
  | nil => nofun
  | cons first texts =>
    rw [← String.length_toList, toList_joined, List.length_append, String.length_toList]
    exact List.forall_mem_cons.mpr
      ⟨Nat.le_add_right .., fun text htext => (hothers texts text htext).trans (Nat.le_add_left ..)⟩

/-- Texts that can be read one by one, all but the first of which begin with an import or export
declaration, hold their items in order if they can be read together: a declaration ends what stands
before it. What is only tried in a text must not come to its end, where the next text would be tried
with it. -/
theorem read_joined {texts : List String} {owns : List (List Item)} {items : List Item}
    (hbegins : ∀ text ∈ texts.tail, beginsWithDeclaration text = true)
    (hsettled : ∀ text ∈ texts, settled text = true)
    (howns : List.Forall₂ (fun text own => read text = .ok own) texts owns)
    (h : read ("\n\n".intercalate texts) = .ok items) : items = owns.flatten := by
  cases howns with
  | nil => exact (Except.ok.inj h).symm
  | @cons text own texts owns hread howns =>
    rw [List.tail_cons] at hbegins
    have hchars := toList_joined text texts
    rw [← Tail.ofTexts_chars hbegins] at hchars
    obtain ⟨first, t, hclean, hown, hrun⟩ := run_of_read hread (hsettled text List.mem_cons_self)
    obtain ⟨found, u, hlong, -, hfound⟩ := items_of_read h
    rw [items_eq, repeatStep_apply] at hlong
    obtain ⟨hlength, hlater⟩ := List.forall_mem_cons.mp (length_le_joined (text :: texts))
    have hg : (Grammar.ofLength text.length).Follows (.ofTexts texts hbegins) _ :=
      ofLength_follows hlength
    have hs : (State.ofText text).Near (.ofTexts texts hbegins)
        (State.ofText ("\n\n".intercalate (text :: texts))) := by
      refine (next_near ?_).resolve_left (run_clean hg hclean hrun)
      rw [hchars]
      exact afterShebang_tail _ _
    obtain ⟨fuel₂, items₂, s₂, hs₂, hitems, hrest⟩ := items_run hg hclean hs rfl hrun hlong
    have hall := joined_run hbegins hlater
      (fun later hlater => hsettled later (List.mem_cons_of_mem _ hlater)) howns hs₂ hrest
    rw [← hfound, hall, hitems, hown]
    simp

end

end PagePrelude.Module
