import PagePrelude.Proofs.Module.Reading

/-!
# Reading lists

Items in braces, separated by a comma and a blank. Where every item is read, so is the
list (`listBetween_reads`); where the parser cannot get past one of them, it cannot get
past the list (`listBetween_stops`).
-/

namespace PagePrelude.Module

/-- A list of which not every entry has a property has a first entry without it. -/
theorem exists_first {p : α → Prop} (h : ¬∀ a ∈ list, p a) :
    ∃ before bad after, list = before ++ bad :: after ∧ ¬p bad ∧ ∀ a ∈ before, p a := by
  induction list with
  | nil => exact absurd (by simp) h
  | cons a list ih =>
    by_cases ha : p a
    · obtain ⟨before, bad, after, rfl, hbad, hbefore⟩ := ih (by simpa [ha] using h)
      exact ⟨a :: before, bad, after, rfl, hbad, by simpa [ha] using hbefore⟩
    · exact ⟨[], a, list, rfl, ha, by simp⟩

/-- Whether a token begins an item, and neither ends a list nor is unknown. -/
def Lexeme.beginsItem : Lexeme → Bool
  | .word .. | .string .. => true
  | _ => false

/-- What comes after an item: one more, or the end of the list. -/
inductive EndsItem : List Char → Prop
  | more : EndsItem (',' :: ' ' :: rest)
  | last : EndsItem (' ' :: '}' :: rest)

theorem EndsItem.endsWord (h : EndsItem rest) : EndsWord rest := by
  cases h <;> simp <;> decide

/-- After an item comes a comma or a closing brace. -/
theorem EndsItem.opens (h : EndsItem rest) :
    ∃ mark more, (mark = "," ∨ mark = "\x7d") ∧ Opens rest (.mark mark) more := by
  cases h with
  | more => exact ⟨",", _, .inl rfl, opens_mark (by decide)⟩
  | last => exact ⟨"\x7d", _, .inr rfl, (opens_mark (by decide)).blank⟩

/-- The parser reads `text` as `value` wherever it is an item of a list. -/
structure ReadsItem (item : Parser α) (text : List Char) (value : α) : Prop where
  opens : ∀ {rest}, EndsItem rest →
    ∃ found more, Opens (text ++ rest) found more ∧ found.beginsItem = true
  reads : ∀ {rest}, EndsItem rest → Reads item (text ++ rest) value rest

/-- The parser cannot get past `text` where it is an item of a list. -/
structure BalksAtItem (item : Parser α) (text : List Char) : Prop where
  opens : ∀ rest, Jams (text ++ rest) ∨
    ∃ found more, Opens (text ++ rest) found more ∧ found.beginsItem = true
  balks : ∀ rest, Balks item (text ++ rest)

/-- The texts after the first one of a row, each after a separator. -/
def others (separator : List Char) (texts : List (List Char)) : List Char :=
  texts.flatMap fun text => separator ++ text

theorem others_cons (separator text : List Char) (texts : List (List Char)) :
    others separator (text :: texts) = separator ++ (text ++ others separator texts) := by
  simp [others]

theorem others_append (separator : List Char) (texts more : List (List Char)) :
    others separator (texts ++ more) = others separator texts ++ others separator more := by
  simp [others]

theorem intercalate_eq (separator text : List Char) (texts : List (List Char)) :
    separator.intercalate (text :: texts) = text ++ others separator texts := by
  induction texts generalizing text with
  | nil => simp [others]
  | cons next texts ih =>
    rw [List.intercalate_cons_cons, ih, others_cons, List.append_assoc]

theorem length_le_others (hs : separator ≠ []) (texts : List (List Char)) :
    texts.length ≤ (others separator texts).length := by
  have hpos := List.length_pos_iff.mpr hs
  induction texts with
  | nil => simp
  | cons text texts ih =>
    simp only [others_cons, List.length_append, List.length_cons]
    omega

theorem endsItem_others (texts : List (List Char)) (rest : List Char) :
    EndsItem (others [',', ' '] texts ++ ' ' :: '}' :: rest) := by
  cases texts with
  | nil => exact .last
  | cons text texts => exact .more

section
variable {item : Parser α} {textOf : ε → List Char} {valueOf : ε → α} {s s' : State}
  {exported : List String}

theorem listStep_end (h : s.token.lexeme = .mark "\x7d") (items : List α) :
    Parser.listStep "\x7d" item items s = .ok (.inr (items.reverse, none)) s := by
  simp [Parser.listStep, h]

theorem listStep_unknown (h : s.token.lexeme = .unknown) (items : List α) :
    Parser.listStep "\x7d" item items s = .ok (.inr (items.reverse, none)) s := by
  simp [Parser.listStep, h]

theorem listStep_comma (h : s.token.lexeme = .mark ",") (hn : s.next.token.lexeme ≠ .mark "\x7d")
    (hr : item s.next = .ok value s') (items : List α) :
    Parser.listStep "\x7d" item items s = .ok (.inl (value :: items)) s' := by
  simp [Parser.listStep, h, hn, hr]

theorem listStep_comma_fails (h : s.token.lexeme = .mark ",")
    (hn : s.next.token.lexeme ≠ .mark "\x7d") (hr : item s.next = .error d s') (items : List α) :
    Parser.listStep "\x7d" item items s = .error d s' := by
  simp [Parser.listStep, h, hn, hr]

theorem mark_ne_of_beginsItem {found : Lexeme} (h : found.beginsItem = true) (mark : String) :
    found ≠ .mark mark := by
  rintro rfl
  cases h

/-- After a comma, what comes next is no closing brace if an item can begin with it. -/
theorem not_close_of_comma (hs : s.Before exported (',' :: ' ' :: chars))
    (ho : Jams chars ∨ ∃ found more, Opens chars found more ∧ found.beginsItem = true) :
    s.next.token.lexeme ≠ .mark "\x7d" := by
  have hnext := (hs.next (opens_mark (by decide))).blank
  rcases ho with hj | ⟨found, more, hopens, hbegins⟩
  · simp [hnext.jams hj]
  · rw [hnext.lexeme hopens]
    exact mark_ne_of_beginsItem hbegins "\x7d"

/-- The items after those that were read, up to the end of the list. -/
theorem listStep_reads {entries : List ε}
    (hi : ∀ e ∈ entries, ReadsItem item (textOf e) (valueOf e)) (hf : entries.length < fuel)
    (items : List α)
    (hs : s.Before exported (others [',', ' '] (entries.map textOf) ++ ' ' :: '}' :: rest)) :
    ∃ s', Parser.repeatFor (Parser.listStep "\x7d" item) fuel items s =
      .ok (items.reverse ++ entries.map valueOf, none) s' ∧ s'.Before exported ('}' :: rest) := by
  induction entries generalizing fuel items s with
  | nil =>
    obtain ⟨fuel, rfl⟩ := Nat.exists_eq_add_one.mpr (Nat.zero_lt_of_lt hf)
    have hs := State.Before.blank hs
    have hmark := hs.lexeme (opens_mark (by decide))
    exact ⟨s, by simp [repeatFor_inr (listStep_end hmark items)], hs⟩
  | cons e entries ih =>
    obtain ⟨fuel, rfl⟩ := Nat.exists_eq_add_one.mpr (Nat.zero_lt_of_lt hf)
    have hrest := endsItem_others (entries.map textOf) rest
    have hitem := hi e (by simp)
    simp only [List.map_cons, others_cons, List.append_assoc, List.cons_append,
      List.nil_append] at hs
    have hcomma := hs.lexeme (opens_mark (by decide))
    have hne := not_close_of_comma hs (.inr (hitem.opens hrest))
    have hnext := (hs.next (opens_mark (by decide))).blank
    obtain ⟨s', hread, hs'⟩ := hitem.reads hrest hnext
    obtain ⟨s'', hrun, hs''⟩ :=
      ih (fun e he => hi e (by simp [he])) (by simpa using hf) (valueOf e :: items) hs'
    refine ⟨s'', ?_, hs''⟩
    rw [repeatFor_inl (listStep_comma hcomma hne hread items), hrun]
    simp

/-- Items after those that were read, up to one that the parser cannot get past. -/
theorem listStep_balks {entries : List ε}
    (hi : ∀ e ∈ entries, ReadsItem item (textOf e) (valueOf e)) (hb : BalksAtItem item bad)
    (items : List α)
    (hs : s.Before exported (others [',', ' '] (entries.map textOf) ++ ',' :: ' ' :: (bad ++ rest)))
    (fuel : Nat) : BalksAt (Parser.repeatFor (Parser.listStep "\x7d" item) fuel items) s := by
  induction entries generalizing fuel items s with
  | nil =>
    have hs : s.Before exported (',' :: ' ' :: (bad ++ rest)) := hs
    have hcomma := hs.lexeme (opens_mark (by decide))
    have hne := not_close_of_comma hs (hb.opens rest)
    have hnext := (hs.next (opens_mark (by decide))).blank
    rcases hb.balks rest hnext with ⟨d, s', hd⟩ | ⟨a, s', ha, hu⟩
    · exact balksAt_of_error (listStep_comma_fails hcomma hne hd items) fuel
    · exact balksAt_of_inl (listStep_comma hcomma hne ha items)
        (balksAt_of_inr (listStep_unknown hu (a :: items)) hu) fuel
  | cons e entries ih =>
    have hrest : EndsItem
        (others [',', ' '] (entries.map textOf) ++ ',' :: ' ' :: (bad ++ rest)) := by
      cases entries <;> exact .more
    have hitem := hi e (by simp)
    simp only [List.map_cons, others_cons, List.append_assoc, List.cons_append,
      List.nil_append] at hs
    have hcomma := hs.lexeme (opens_mark (by decide))
    have hne := not_close_of_comma hs (.inr (hitem.opens hrest))
    have hnext := (hs.next (opens_mark (by decide))).blank
    obtain ⟨s', hread, hs'⟩ := hitem.reads hrest hnext
    exact balksAt_of_inl (listStep_comma hcomma hne hread items)
      (ih (fun e he => hi e (by simp [he])) (valueOf e :: items) hs') fuel

/-- A list whose first token begins an item has an item first, and goes on with steps. -/
theorem listUpTo_first (h : s.token.lexeme.beginsItem = true) : Parser.listUpTo "\x7d" item s =
    (item >>= fun value => Parser.repeatStep (Parser.listStep "\x7d" item) [value]) s := by
  have hm : s.token.lexeme ≠ .mark "\x7d" := mark_ne_of_beginsItem h "\x7d"
  have hu : s.token.lexeme ≠ .endOfText ∧ s.token.lexeme ≠ .unknown := by
    constructor <;> intro hl <;> simp [hl, Lexeme.beginsItem] at h
  simp [Parser.listUpTo, hm, hu.1, hu.2]

theorem listUpTo_apply (h : s.token.lexeme.beginsItem = true) (hr : item s = .ok value s') :
    Parser.listUpTo "\x7d" item s =
      Parser.repeatFor (Parser.listStep "\x7d" item) (s'.rest.length + 2) [value] s' := by
  simp [listUpTo_first h, hr, repeatStep_apply]

theorem listUpTo_fails (h : s.token.lexeme.beginsItem = true) (hr : item s = .error d s') :
    Parser.listUpTo "\x7d" item s = .error d s' := by
  simp [listUpTo_first h, hr]

theorem listBetween_apply (ho : s.token.lexeme = .mark "\x7b")
    (hr : Parser.listUpTo "\x7d" item s.next = .ok (items, comma) s')
    (hc : s'.token.lexeme = .mark "\x7d") :
    Parser.listBetween "\x7b" "\x7d" item s = .ok items s'.next := by
  simp [Parser.listBetween, expect_apply ho, hr, expect_apply hc]

/-- Where the items of a list lead to characters that form no token, the list is not closed. -/
theorem listBetween_fails (ho : s.token.lexeme = .mark "\x7b")
    (hr : BalksAt (Parser.listUpTo "\x7d" item) s.next) :
    ∃ d s', Parser.listBetween "\x7b" "\x7d" item s = .error d s' := by
  rcases hr with ⟨d, s', hd⟩ | ⟨result, s', hr, hu⟩
  · exact ⟨d, s'.atEnd, by simp [Parser.listBetween, expect_apply ho, hd]⟩
  · obtain ⟨d, hd⟩ := expect_fails (s := s') "\x7d" (by simp [hu])
    exact ⟨d, s'.atEnd, by simp [Parser.listBetween, expect_apply ho, hr, hd]⟩

/-- A list is read where each of its items is. -/
theorem listBetween_reads {entries : List ε}
    (hi : ∀ e ∈ entries, ReadsItem item (textOf e) (valueOf e)) (hne : entries ≠ [])
    (rest : List Char) : Reads (Parser.listBetween "\x7b" "\x7d" item)
      ('{' :: ' ' :: ([',', ' '].intercalate (entries.map textOf) ++ ' ' :: '}' :: rest))
      (entries.map valueOf) rest := by
  intro s exported hs
  obtain ⟨e, entries, rfl⟩ := List.exists_cons_of_ne_nil hne
  have hopen := hs.lexeme (opens_mark (by decide))
  have hfirst := (hs.next (opens_mark (by decide))).blank
  rw [List.map_cons, intercalate_eq, List.append_assoc] at hfirst
  have hrest := endsItem_others (entries.map textOf) rest
  have hitem := hi e (by simp)
  obtain ⟨found, more, hopens, hbegins⟩ := hitem.opens hrest
  obtain ⟨s', hread, hs'⟩ := hitem.reads hrest hfirst
  -- The fuel is counted in characters, and every further item takes at least its separator.
  have hfuel : entries.length < s'.rest.length + 2 := by
    cases entries with
    | nil => simp
    | cons next entries =>
      simp only [List.map_cons, others_cons, List.append_assoc, List.cons_append,
        List.nil_append] at hs'
      have hle := length_le_others (List.cons_ne_nil ',' [' ']) (entries.map textOf)
      rw [(hs'.opens (opens_mark (by decide))).2.1]
      simp only [List.length_cons, List.length_append, List.length_map] at hle ⊢
      omega
  obtain ⟨s'', hrun, hs''⟩ :=
    listStep_reads (fun e he => hi e (by simp [he])) hfuel [valueOf e] hs'
  rw [← listUpTo_apply (hfirst.lexeme hopens ▸ hbegins) hread] at hrun
  have hclose : Opens ('}' :: rest) (.mark "\x7d") rest := opens_mark (by decide)
  exact ⟨s''.next, listBetween_apply hopen hrun (hs''.lexeme hclose), hs''.next hclose⟩

/-- A list is not read where the parser cannot get past one of its items. -/
theorem listBetween_stops {entries : List ε}
    (hi : ∀ e ∈ entries, ReadsItem item (textOf e) (valueOf e)) (hb : BalksAtItem item bad)
    (more : List (List Char)) (rest : List Char) : Stops (Parser.listBetween "\x7b" "\x7d" item)
      ('{' :: ' ' :: ([',', ' '].intercalate (entries.map textOf ++ bad :: more) ++ rest)) := by
  intro s exported hs
  have hopen := hs.lexeme (opens_mark (by decide))
  have hfirst := (hs.next (opens_mark (by decide))).blank
  refine listBetween_fails hopen ?_
  cases entries with
  | nil =>
    rw [List.map_nil, List.nil_append, intercalate_eq, List.append_assoc] at hfirst
    rcases hb.opens (others [',', ' '] more ++ rest) with hj | ⟨found, left, hopens, hbegins⟩
    · refine .inr ⟨([], none), s.next, ?_, hfirst.jams hj⟩
      simp [Parser.listUpTo, hfirst.jams hj]
    · have hbegins := hfirst.lexeme hopens ▸ hbegins
      rcases hb.balks _ hfirst with ⟨d, s', hd⟩ | ⟨a, s', ha, hu⟩
      · exact .inl ⟨d, s', listUpTo_fails hbegins hd⟩
      · unfold BalksAt
        rw [listUpTo_apply hbegins ha]
        exact balksAt_of_inr (listStep_unknown hu [a]) hu _
  | cons e entries =>
    rw [List.map_cons, List.cons_append, intercalate_eq, others_append, others_cons] at hfirst
    simp only [List.append_assoc, List.cons_append] at hfirst
    have hrest : EndsItem (others [',', ' '] (entries.map textOf) ++
        ',' :: ' ' :: (bad ++ (others [',', ' '] more ++ rest))) := by
      cases entries <;> exact .more
    have hitem := hi e (by simp)
    obtain ⟨found, left, hopens, hbegins⟩ := hitem.opens hrest
    obtain ⟨s', hread, hs'⟩ := hitem.reads hrest hfirst
    unfold BalksAt
    rw [listUpTo_apply (hfirst.lexeme hopens ▸ hbegins) hread]
    exact listStep_balks (fun e he => hi e (by simp [he])) hb [valueOf e] hs' _

end

end PagePrelude.Module
