import PagePrelude.Proofs.CodeLines
import PagePrelude.Proofs.Injectors

/-!
# Generated statements as lines

Every statement that validated options make stands on one line: names hold no gaps, and quoting
leaves no line ending in a text. So generated code has no blank line, and can be put in
front of other lines (`insertable_of_made`).
-/

namespace PagePrelude

open Identifier (isIdentifier)
open Markdown (Cell Line Insertable)
open Markdown.Line (Plain)

-- ---------------------------------------------------------------------------
-- Plain texts
-- ---------------------------------------------------------------------------

theorem plain_append {text more : List Char} : Plain (text ++ more) ↔ Plain text ∧ Plain more :=
  List.forall_mem_append

theorem plain_intercalate {separator : List Char} (hs : Plain separator)
    {texts : List (List Char)} (h : ∀ text ∈ texts, Plain text) :
    Plain (separator.intercalate texts) := by
  cases texts with
  | nil => simp [Plain]
  | cons text texts =>
    obtain ⟨htext, htexts⟩ := List.forall_mem_cons.mp h
    rw [Module.intercalate_eq, plain_append]
    refine ⟨htext, fun c hc => ?_⟩
    obtain ⟨other, hother, hmem⟩ := List.mem_flatMap.mp hc
    exact plain_append.mpr ⟨hs, htexts other hother⟩ c hmem

theorem plain_identifier {name : String} (h : isIdentifier name = true) : Plain name.toList := by
  have hrest : ∀ c ∈ name.toList, Identifier.isRest c = true := by
    have hshaped := Module.isShaped_of_isIdentifier h
    unfold Identifier.isShaped at hshaped
    split at hshaped
    · cases hshaped
    · rename_i c cs hname
      obtain ⟨hfirst, hcs⟩ := (Bool.and_eq_true _ _).mp hshaped
      rw [hname]
      exact List.forall_mem_cons.mpr
        ⟨Module.isRest_of_isFirst hfirst, List.all_eq_true.mp hcs⟩
  intro c hc
  obtain ⟨hblank, hbreak⟩ := Module.not_gap_of_isRest (hrest c hc)
  refine ⟨?_, ?_, ?_⟩ <;> rintro rfl
  · cases hbreak
  · cases hbreak
  · cases hblank

theorem plain_escape (c : Char) : Plain (Json.escape c) := by
  have hdigits : ∀ n < 16, Json.hexDigit n ≠ '\n' ∧ Json.hexDigit n ≠ '\r' ∧
      Json.hexDigit n ≠ '\t' := by decide
  have hdigit (n : Nat) (hn : n < 16) : Plain [Json.hexDigit n] :=
    List.forall_mem_singleton.mpr (hdigits n hn)
  have hcontrol (hsmall : c.toNat < 32) : Plain ['\\', 'u', '0', '0',
      Json.hexDigit (c.toNat / 16), Json.hexDigit (c.toNat % 16)] := by
    have htop : c.toNat / 16 < 16 := by omega
    have hlow : c.toNat % 16 < 16 := by omega
    have hmarks : Plain ['\\', 'u', '0', '0'] := by simp [Plain]
    exact plain_append.mpr ⟨hmarks, plain_append.mpr ⟨hdigit _ htop, hdigit _ hlow⟩⟩
  unfold Json.escape
  repeat' split
  all_goals first | exact hcontrol ‹_› | simp [Plain, *]

/-- Quoting leaves no line ending in a text. -/
theorem plain_quote (text : String) : Plain (Json.quote text).toList := by
  have hbody : Plain (text.toList.flatMap Json.escape) := by
    intro c hc
    obtain ⟨d, -, hmem⟩ := List.mem_flatMap.mp hc
    exact plain_escape d c hmem
  rw [Json.quote, String.toList_ofList]
  exact List.forall_mem_cons.mpr
    ⟨by decide, plain_append.mpr ⟨hbody, by simp [Plain]⟩⟩

theorem plain_exportedName (name : String) : Plain (exportedName name).toList := by
  unfold exportedName
  split
  · rename_i hbare
    rcases (Bool.or_eq_true _ _).mp hbare with hdefault | hname
    · rw [of_decide_eq_true hdefault]
      simp [Plain]
    · exact plain_identifier hname
  · exact plain_quote name

theorem plain_propertyName (name : String) : Plain (propertyName name).toList := by
  unfold propertyName
  split
  · exact plain_identifier ‹_›
  · exact plain_quote name

theorem plain_renamed {binding : Binding} (h : isIdentifier binding.bound = true) :
    Plain (ImportClause.renamedText binding).toList := by
  simp only [ImportClause.renamedText, String.toList_append, plain_append]
  exact ⟨⟨plain_exportedName _, by simp [Plain]⟩, plain_identifier h⟩

theorem plain_binding {binding : Binding} (h : isIdentifier binding.bound = true) :
    Plain (ImportClause.bindingText binding).toList := by
  unfold ImportClause.bindingText
  split
  · exact plain_identifier h
  · exact plain_renamed h

theorem plain_clause {clause : ImportClause} (h : clause.Proper) : Plain clause.text.toList := by
  have hnames := h.1
  cases clause with
  | default name => exact plain_identifier (hnames name (by simp [ImportClause.names]))
  | named bindings =>
    have hbindings : ∀ text ∈ (bindings.map ImportClause.bindingText).map String.toList,
        Plain text := by
      intro text htext
      rw [List.map_map] at htext
      obtain ⟨binding, hbinding, rfl⟩ := List.mem_map.mp htext
      exact plain_binding (hnames _ (List.mem_map_of_mem hbinding))
    simp only [ImportClause.text, String.toList_append, String.toList_intercalate, plain_append]
    exact ⟨⟨by simp [Plain], plain_intercalate (by simp [Plain]) hbindings⟩, by simp [Plain]⟩
  | renamed binding =>
    have hbinding := plain_renamed (hnames binding.bound (by simp [ImportClause.names]))
    simp only [ImportClause.text, String.toList_append, plain_append]
    exact ⟨⟨by simp [Plain], hbinding⟩, by simp [Plain]⟩
  | whole name =>
    have hname := plain_identifier (hnames name (by simp [ImportClause.names]))
    simp only [ImportClause.text, String.toList_append, plain_append]
    exact ⟨by simp [Plain], hname⟩

theorem plain_statement {statement : ImportStatement} (h : statement.clause.Proper) :
    Plain statement.text.toList := by
  simp only [ImportStatement.text, String.toList_append, plain_append]
  exact ⟨⟨⟨⟨by simp [Plain], plain_clause h⟩, by simp [Plain]⟩, plain_quote _⟩, by simp [Plain]⟩

theorem plain_property (index : Nat) (override : Override) :
    Plain (override.property index).toList := by
  simp only [Override.property, String.toList_append, plain_append]
  exact ⟨⟨plain_propertyName _, by simp [Plain]⟩,
    plain_identifier (override.bound_isIdentifier index)⟩

theorem plain_export (overrides : List Override) :
    Plain (Module.exportText overrides).toList := by
  have hproperties : ∀ text ∈ (overrides.mapIdx Override.property).map String.toList,
      Plain text := by
    intro text htext
    obtain ⟨property, hproperty, rfl⟩ := List.mem_map.mp htext
    obtain ⟨index, hindex, rfl⟩ := List.mem_mapIdx.mp hproperty
    exact plain_property index _
  simp only [Module.exportText, String.toList_append, String.toList_intercalate, plain_append]
  exact ⟨⟨⟨⟨by simp [Plain], by simp [Plain, componentsExport]⟩, by simp [Plain]⟩,
    plain_intercalate (by simp [Plain]) hproperties⟩, by simp [Plain]⟩

-- ---------------------------------------------------------------------------
-- Lines of statements
-- ---------------------------------------------------------------------------

/-- A plain text that starts with no space is the visible start of its line. -/
theorem line_visible {cells : List Cell} {text : List Char}
    (hcells : cells.map Cell.char = text) (hplain : Plain text)
    (hvisible : ∃ c rest, text = c :: rest ∧ c ≠ ' ') : cells.all Cell.isBlank = false := by
  obtain ⟨c, rest, rfl, hc⟩ := hvisible
  obtain ⟨cell, others, rfl, rfl, -⟩ := List.map_eq_cons_iff.mp hcells
  have htab : cell.char ≠ '\t' := (hplain cell.char List.mem_cons_self).2.2
  simp [Cell.isBlank, hc, htab]

/-- Plain texts that start with no space make no blank line. -/
theorem lines_joined {texts : List (List Char)} (hplain : ∀ text ∈ texts, Plain text)
    (hvisible : ∀ text ∈ texts, ∃ c rest, text = c :: rest ∧ c ≠ ' ') (point : Point) :
    ∀ line ∈ Line.ofChars point [] (['\n'].intercalate texts), line.isBlank = false := by
  induction texts generalizing point with
  | nil => simp [Line.ofChars]
  | cons text texts ih =>
    obtain ⟨htext, htexts⟩ := List.forall_mem_cons.mp hplain
    obtain ⟨hfirst, hothers⟩ := List.forall_mem_cons.mp hvisible
    have hline (chars : List Char) : ∃ (after : Point) (cells : List Cell),
        cells.all Cell.isBlank = false ∧
        Line.ofChars point [] (text ++ chars) = Line.ofChars after cells.reverse chars := by
      obtain ⟨after, cells, hlines, hchars, -⟩ := Line.ofChars_plain htext point [] chars
      exact ⟨after, cells, line_visible hchars htext hfirst, by rw [hlines, List.append_nil]⟩
    cases texts with
    | nil =>
      obtain ⟨after, cells, hcells, hlines⟩ := hline []
      rw [List.append_nil] at hlines
      rw [List.intercalate_singleton, hlines, Line.ofChars, List.reverse_reverse]
      split
      · simp
      · exact List.forall_mem_singleton.mpr hcells
    | cons next texts =>
      obtain ⟨after, cells, hcells, hlines⟩ := hline ('\n' :: ['\n'].intercalate (next :: texts))
      have hmore := ih htexts hothers (Markdown.pointAfter "\n" after)
      rw [List.intercalate_cons_cons, List.append_assoc, List.singleton_append, hlines,
        Line.ofChars, List.reverse_reverse]
      exact List.forall_mem_cons.mpr ⟨hcells, hmore⟩

-- ---------------------------------------------------------------------------
-- Generated code in front of lines
-- ---------------------------------------------------------------------------

variable {config : Config} {injector : Injector} {code : GeneratedCode}

theorem getLast?_intercalate {separator : List Char} {texts : List (List Char)} {c : Char}
    (hne : texts ≠ []) (h : ∀ text ∈ texts, text.getLast? = some c) :
    (separator.intercalate texts).getLast? = some c := by
  induction texts with
  | nil => exact absurd rfl hne
  | cons text texts ih =>
    obtain ⟨htext, htexts⟩ := List.forall_mem_cons.mp h
    cases texts with
    | nil => simpa using htext
    | cons next texts =>
      rw [List.intercalate_cons_cons, List.getLast?_append, ih (by simp) htexts]
      rfl

/-- Generated code ends with a statement. -/
theorem getLast?_code (hi : Injector.ofConfig config = .ok injector)
    (hcode : code ∈ injector.importCode.toList ++ injector.exportCode.toList) :
    code.text.toList.getLast? = some ';' := by
  rcases (code_cases hi hcode).1 with ⟨hne, htext⟩ | htext
  · rw [htext, Config.importsText, String.toList_intercalate, List.map_map]
    refine getLast?_intercalate (by simpa using hne) fun text hmem => ?_
    obtain ⟨statement, -, rfl⟩ := List.mem_map.mp hmem
    rw [Function.comp_apply, ImportStatement.text, String.toList_append, List.getLast?_append]
    rfl
  · rw [htext, Module.exportText, String.toList_append, List.getLast?_append]
    rfl

/-- Code of validated options has no blank line. -/
theorem solid_of_accepted (ha : config.Accepted) (hi : Injector.ofConfig config = .ok injector)
    (hcode : code ∈ injector.importCode.toList ++ injector.exportCode.toList) :
    ∀ line ∈ Line.ofText code.text, line.isBlank = false := by
  obtain ⟨keyword, hkeyword, chars, hbegins⟩ := code_begins hi hcode
  have hmark : code.text.toList.head? ≠ some '\uFEFF' :=
    hbegins ▸ Markdown.keyword_unmarked hkeyword chars
  rw [Line.ofText_unmarked hmark]
  rcases (code_cases hi hcode).1 with ⟨hne, htext⟩ | htext
  · rw [htext, Config.importsText, String.toList_intercalate, List.map_map]
    refine lines_joined (fun text hmem => ?_) (fun text hmem => ?_) _
    · obtain ⟨statement, hstatement, rfl⟩ := List.mem_map.mp hmem
      exact plain_statement (Config.statements_proper ha statement hstatement)
    · obtain ⟨statement, -, rfl⟩ := List.mem_map.mp hmem
      have hstatement := Module.text_append statement []
      rw [List.append_nil] at hstatement
      exact ⟨'i', _, hstatement, by decide⟩
  · have hexport : ['\n'].intercalate [code.text.toList] = code.text.toList :=
      List.intercalate_singleton ..
    rw [← hexport]
    obtain ⟨rest, hrest⟩ := exportText_begins config.overrides
    have hfirst : ∃ c rest, code.text.toList = c :: rest ∧ c ≠ ' ' :=
      ⟨'e', "xport ".toList ++ rest, by rw [htext, ← hrest]; rfl, by decide⟩
    exact lines_joined (List.forall_mem_singleton.mpr (htext ▸ plain_export config.overrides))
      (List.forall_mem_singleton.mpr hfirst) _

/-- Generated code without blank lines can be put in front of other lines. -/
theorem insertable_of_made (hi : Injector.ofConfig config = .ok injector)
    (hcode : code ∈ injector.importCode.toList ++ injector.exportCode.toList)
    (hsolid : ∀ line ∈ Line.ofText code.text, line.isBlank = false) : Insertable code.text := by
  obtain ⟨items, hread⟩ := (code_cases hi hcode).2
  refine ⟨code_begins hi hcode, getLast?_code hi hcode, hsolid, ?_⟩
  rw [Markdown.Verdict.ofModule, hread]

/-- Code of validated options, or without blank lines, can be put in front of other lines. -/
theorem insertable_all (hi : Injector.ofConfig config = .ok injector)
    (hsolid : config.Accepted ∨
      ∀ code ∈ injector.importCode.toList ++ injector.exportCode.toList,
        ∀ line ∈ Line.ofText code.text, line.isBlank = false)
    {codes : List GeneratedCode}
    (hcodes : ∀ code ∈ codes, code ∈ injector.importCode.toList ++ injector.exportCode.toList) :
    ∀ code ∈ codes, Insertable code.text := fun code hcode =>
  insertable_of_made hi (hcodes code hcode) <|
    hsolid.elim (fun ha => solid_of_accepted ha hi (hcodes code hcode))
      fun hlines => hlines code (hcodes code hcode)

end PagePrelude
