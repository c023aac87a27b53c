import PagePrelude.Config.Basic
import PagePrelude.Proofs.Results

/-!
# The grammar of options

Which values the options may hold, what each of them stands for, and which error a value outside
the grammar is refused with. The rules are read off the values and never run a check, so
`ofOptions_grammar` says of validation itself that it follows them: it accepts the values of the
grammar and no others, it keeps their order, and it reports the first mistake of the document.
-/

namespace PagePrelude

open Identifier (isIdentifier derived)

namespace ConfigGrammar

-- ---------------------------------------------------------------------------
-- Values of the grammar
-- ---------------------------------------------------------------------------

/-- An item is a name, or a pair of an exported name and the name it is bound to. -/
inductive Binds : Json.Value → Binding → Prop
  | name (hi : isIdentifier name = true) : Binds (.string name) ⟨name, name⟩
  | pair (hne : exported ≠ "") (hi : isIdentifier bound = true) :
      Binds (.array [.string exported, .string bound]) ⟨exported, bound⟩

/-- A path is mapped to one name for all exports, or to some items. -/
inductive Specifies (path : String) : Json.Value → ImportEntry → Prop
  | whole (hi : isIdentifier name = true) : Specifies path (.string name) (.whole path name)
  | named (hne : items ≠ []) (hitems : List.Forall₂ Binds items bindings) :
      Specifies path (.array items) (.named path bindings)

/-- An import is a path that a name can be derived from, or a mapping of paths. -/
inductive Declares : Json.Value → List ImportEntry → Prop
  | path (hi : isIdentifier (derived path) = true) : Declares (.string path) [.default path]
  | paths (hfields : List.Forall₂ (fun field => Specifies field.1 field.2) fields entries) :
      Declares (.object fields) entries

/-- A component is a path, or an object with a name and a path. -/
inductive Refers : Json.Value → ComponentRef → Prop
  | path : Refers (.string path) (.default path)
  | named (hname : Json.field? fields "name" = some (.string name)) (hne : name ≠ "")
      (hpath : Json.field? fields "from" = some (.string path)) :
      Refers (.object fields) (.named name path)

/-- An element has a name. -/
inductive Replaces : String × Json.Value → Override → Prop
  | element (hne : element ≠ "") (hvalue : Refers value component) :
      Replaces (element, value) ⟨element, component⟩

/-- The configuration that options stand for. -/
structure Configures (options : Options) (root : String) (config : Config) : Prop where
  sameRoot : config.root = root
  /-- What the imports stand for, one after the other. -/
  imports : ∃ entries, List.Forall₂ Declares options.imports entries ∧
    config.imports = entries.flatten
  overrides : List.Forall₂ Replaces options.components config.overrides

-- ---------------------------------------------------------------------------
-- Mistakes
-- ---------------------------------------------------------------------------

/-- The parts of options that can be mistaken on their own. -/
inductive Site where
  /-- An import that maps no paths. -/
  | entry (value : Json.Value)
  /-- The value of a path, if it holds no items. -/
  | specifiers (path : String) (value : Json.Value)
  /-- One item of the value of a path. -/
  | item (path : String) (value : Json.Value)
  /-- The value of an element. -/
  | component (element : String) (value : Json.Value)

/-- The error that a part is refused with. -/
inductive Site.Faulty : Site → Error → Prop
  | derivedName (hi : isIdentifier (derived path) = false) :
      Faulty (.entry (.string path)) (.invalidIdentifier path (derived path))
  | notEntry (hpath : ∀ path, value ≠ .string path) (hfields : ∀ fields, value ≠ .object fields) :
      Faulty (.entry value) (.invalidEntry value.text .notEntry)
  | wholeName (hi : isIdentifier name = false) :
      Faulty (.specifiers path (.string name)) (.invalidIdentifier path name)
  | noItems : Faulty (.specifiers path (.array [])) (.emptyNamedImports path)
  | notSpecifiers (hname : ∀ name, value ≠ .string name) (hitems : ∀ items, value ≠ .array items) :
      Faulty (.specifiers path value) (.invalidEntry path (.notSpecifiers value))
  | emptyName : Faulty (.item path (.string "")) (.invalidEntry path .emptyName)
  | boundName (hne : name ≠ "") (hi : isIdentifier name = false) :
      Faulty (.item path (.string name)) (.invalidIdentifier path name)
  | emptyExported :
      Faulty (.item path (.array [.string "", .string bound])) (.invalidEntry path .emptyName)
  | boundSecond (hne : exported ≠ "") (hi : isIdentifier bound = false) :
      Faulty (.item path (.array [.string exported, .string bound])) (.invalidIdentifier path bound)
  | pairNotStrings (hpair : ∀ exported bound, first = .string exported → second ≠ .string bound) :
      Faulty (.item path (.array [first, second]))
        (.invalidEntry path (.pairNotStrings [first, second]))
  | pairLength (hlength : items.length ≠ 2) :
      Faulty (.item path (.array items)) (.invalidEntry path (.pairLength items.length))
  | notBinding (hname : ∀ name, value ≠ .string name) (hitems : ∀ items, value ≠ .array items) :
      Faulty (.item path value) (.invalidEntry path (.notBinding value))
  | emptyElement : Faulty (.component "" value) (.invalidOverride "" .emptyElement)
  | notReference (hne : element ≠ "") (hfields : ∀ component, ¬Refers (.object fields) component) :
      Faulty (.component element (.object fields)) (.invalidOverride element .notReference)
  | notComponent (hne : element ≠ "") (hpath : ∀ path, value ≠ .string path)
      (hfields : ∀ fields, value ≠ .object fields) :
      Faulty (.component element value) (.invalidOverride element (.notComponent value))

/-- The error of the first mistaken part. -/
inductive FirstFault : List Site → Error → Prop
  | here (h : site.Faulty e) : FirstFault (site :: sites) e
  | later (hsite : ∀ own, ¬site.Faulty own) (h : FirstFault sites e) : FirstFault (site :: sites) e

/-- The parts of the value of a path. -/
def specifierSites (path : String) : Json.Value → List Site
  | .array (item :: items) => (item :: items).map (.item path)
  | other => [.specifiers path other]

/-- The parts of an import. -/
def importSites : Json.Value → List Site
  | .object fields => fields.flatMap fun field => specifierSites field.1 field.2
  | other => [.entry other]

/-- The parts of options in the order of the document, imports before components. -/
def optionSites (options : Options) : List Site :=
  options.imports.flatMap importSites ++
    options.components.map fun field => .component field.1 field.2

-- ---------------------------------------------------------------------------
-- The first mistake
-- ---------------------------------------------------------------------------

theorem Site.Faulty.unique (h : Site.Faulty site e) (hown : site.Faulty own) : own = e := by
  cases h <;> cases hown <;> simp_all

theorem firstFault_singleton : FirstFault [site] e ↔ site.Faulty e := by
  constructor
  · rintro (h | ⟨-, ⟨⟩⟩)
    exact h
  · exact .here

/-- Parts without a mistake have no first mistake, and all others have one. -/
theorem sound_iff : (∀ site ∈ sites, ∀ e, ¬Site.Faulty site e) ↔ ∀ e, ¬FirstFault sites e := by
  constructor
  · intro h e hfault
    induction hfault with
    | here hsite => exact h _ (by simp) _ hsite
    | later _ _ ih => exact ih fun site hsite => h site (by simp [hsite])
  · intro h
    induction sites with
    | nil => simp
    | cons first sites ih =>
      have hfirst (e : Error) : ¬first.Faulty e := fun hfault => h e (.here hfault)
      have hsites := ih fun e hfault => h e (.later hfirst hfault)
      simpa using ⟨hfirst, hsites⟩

theorem firstFault_append : FirstFault (left ++ right) e ↔
    FirstFault left e ∨ (∀ own, ¬FirstFault left own) ∧ FirstFault right e := by
  constructor
  · intro h
    induction left with
    | nil => exact .inr ⟨nofun, h⟩
    | cons first left ih =>
      cases h with
      | here hsite => exact .inl (.here hsite)
      | later hsite h =>
        rcases ih h with h | ⟨hleft, h⟩
        · exact .inl (.later hsite h)
        · refine .inr ⟨fun own hown => ?_, h⟩
          cases hown with
          | here hfault => exact hsite _ hfault
          | later _ hown => exact hleft own hown
  · -- From here on the induction is on what comes before the mistake.
    rintro (h | ⟨hleft, h⟩)
    · induction h with
      | here hsite => exact .here hsite
      | later hsite _ ih => exact .later hsite ih
    · have hsound := sound_iff.mpr hleft
      clear hleft
      induction left with
      | nil => exact h
      | cons first left ih =>
        exact .later (hsound first (by simp)) (ih fun site hsite => hsound site (by simp [hsite]))

-- ---------------------------------------------------------------------------
-- Checks that follow the grammar
-- ---------------------------------------------------------------------------

/-- A check gives what its value stands for, and refuses it with the error of its first mistake. -/
structure Follows (result : Except Error α) (meaning : α → Prop) (parts : List Site) : Prop where
  ok : ∀ a, result = .ok a ↔ meaning a
  error : ∀ e, result = .error e ↔ FirstFault parts e

section
variable {result : Except Error α} {meaning : α → Prop} {parts : List Site}

theorem Follows.accepts (h : Follows result meaning parts) :
    (∃ a, meaning a) ↔ ∀ e, ¬FirstFault parts e := by
  simp only [← h.ok, ← h.error]
  cases result with
  | ok a => simp
  | error e => simp

/-- What a check of one part says of it. -/
inductive Judged (meaning : α → Prop) (site : Site) : Except Error α → Prop
  | ok (h : meaning a) : Judged meaning site (.ok a)
  | error (h : site.Faulty e) : Judged meaning site (.error e)

/-- A check of one part follows the grammar if what it says is right and the grammar leaves no
other choice. -/
theorem Judged.follows (h : Judged meaning site result)
    (hone : ∀ a b, meaning a → meaning b → a = b) (hsound : ∀ a e, meaning a → ¬site.Faulty e) :
    Follows result meaning [site] := by
  cases h with
  | @ok own h =>
    constructor
    · intro a
      exact ⟨fun heq => Except.ok.inj heq ▸ h, fun ha => congrArg _ (hone _ _ h ha)⟩
    · intro e
      exact ⟨nofun, fun hfault => absurd (firstFault_singleton.mp hfault) (hsound own e h)⟩
  | @error own h =>
    constructor
    · intro a
      exact ⟨nofun, fun ha => absurd h (hsound a own ha)⟩
    · intro e
      rw [firstFault_singleton]
      exact ⟨fun heq => Except.error.inj heq ▸ h, fun hfault => congrArg _ (hfault.unique h)⟩

theorem Follows.pure (a : α) : Follows (pure a) (a = ·) [] :=
  ⟨fun _ => pure_ok, fun _ => ⟨nofun, nofun⟩⟩

theorem Follows.bind {next : α → Except Error β} {after : α → β → Prop} {more : List Site}
    (h : Follows result meaning parts) (hnext : ∀ a, Follows (next a) (after a) more) :
    Follows (result >>= next) (fun b => ∃ a, meaning a ∧ after a b) (parts ++ more) := by
  constructor
  · intro b
    simp only [bind_ok, h.ok, (hnext _).ok]
  · intro e
    simp only [bind_error, h.ok, h.error, (hnext _).error, exists_and_right, h.accepts,
      firstFault_append]

theorem Follows.mapM {check : α → Except Error β} {meaning : α → β → Prop} {parts : α → List Site}
    (h : ∀ a, Follows (check a) (meaning a) (parts a)) (list : List α) :
    Follows (list.mapM check) (List.Forall₂ meaning list) (list.flatMap parts) := by
  induction list with
  | nil =>
    refine ⟨fun bs => ?_, fun e => ⟨nofun, nofun⟩⟩
    rw [List.mapM_nil, pure_ok, List.forall₂_nil_left_iff, eq_comm]
  | cons a list ih =>
    -- The rest is checked only if the first entry is without a mistake.
    have hcons := (h a).bind fun b => ih.bind fun bs => Follows.pure (b :: bs)
    simp only [List.mapM_cons, List.flatMap_cons, List.append_nil] at hcons ⊢
    refine ⟨fun bs => ?_, hcons.error⟩
    simp only [hcons.ok, List.forall₂_cons_left_iff, exists_and_left, eq_comm]

end

-- ---------------------------------------------------------------------------
-- Imports
-- ---------------------------------------------------------------------------

theorem checkBinding_eq : Config.checkBinding path binding =
    if binding.exported = "" then .error (.invalidEntry path .emptyName)
    else if isIdentifier binding.bound then .ok binding
    else .error (.invalidIdentifier path binding.bound) := by
  unfold Config.checkBinding Identifier.check
  split
  · rfl
  · split <;> rfl

theorem bindingOf_judged (path : String) (value : Json.Value) :
    Judged (Binds value) (.item path value) (Config.bindingOf path value) := by
  unfold Config.bindingOf
  split
  case h_1 name =>
    rw [checkBinding_eq]
    split_ifs with hempty hi
    · obtain rfl : name = "" := hempty
      exact .error .emptyName
    · exact .ok (.name hi)
    · exact .error (.boundName hempty (by simpa using hi))
  case h_2 exported bound =>
    rw [checkBinding_eq]
    split_ifs with hempty hi
    · obtain rfl : exported = "" := hempty
      exact .error .emptyExported
    · exact .ok (.pair hempty hi)
    · exact .error (.boundSecond hempty (by simpa using hi))
  case h_3 first second hpair => exact .error (.pairNotStrings hpair)
  case h_4 items _ hlength =>
    refine .error (.pairLength fun h => ?_)
    obtain ⟨first, second, rfl⟩ := List.length_eq_two.mp h
    exact hlength first second rfl
  case h_5 hname _ _ hitems => exact .error (.notBinding hname hitems)

theorem bindingOf_follows (path : String) (value : Json.Value) :
    Follows (Config.bindingOf path value) (Binds value) [.item path value] := by
  refine (bindingOf_judged path value).follows ?_ ?_
  · rintro _ _ ⟨⟩ ⟨⟩ <;> rfl
  · rintro _ _ (hi | ⟨hne, hi⟩) hfault
    · cases hfault with
      | emptyName => exact absurd hi (by decide)
      | boundName _ hno => cases hi.symm.trans hno
      | notBinding hname => exact hname _ rfl
    · cases hfault with
      | emptyExported => exact hne rfl
      | boundSecond _ hno => cases hi.symm.trans hno
      | pairNotStrings hpair => exact hpair _ _ rfl rfl
      | pairLength hlength => exact hlength rfl
      | notBinding _ hitems => exact hitems _ rfl

theorem entryOf_follows (path : String) (value : Json.Value) :
    Follows (Config.entryOf path value) (Specifies path value) (specifierSites path value) := by
  cases value with
  | string name =>
    refine Judged.follows ?_ ?_ ?_
    · rw [Config.entryOf, Identifier.check]
      split_ifs with hi
      · exact .ok (.whole hi)
      · exact .error (.wholeName (by simpa using hi))
    · rintro _ _ ⟨⟩ ⟨⟩
      rfl
    · rintro _ _ ⟨hi⟩ hfault
      cases hfault with
      | wholeName hno => cases hi.symm.trans hno
      | notSpecifiers hname => exact hname _ rfl
  | array items =>
    cases items with
    | nil =>
      refine Judged.follows (.error .noItems) ?_ ?_
      · rintro _ _ (_ | ⟨hne, -⟩)
        exact absurd rfl hne
      · rintro _ _ (_ | ⟨hne, -⟩)
        exact absurd rfl hne
    | cons first more =>
      have hitems := (Follows.mapM (bindingOf_follows path) (first :: more)).bind
        fun bindings => Follows.pure (ImportEntry.named path bindings)
      -- Items are checked one by one once there is one, and nothing is checked after them.
      have hsites : specifierSites path (.array (first :: more)) =
          ((first :: more).flatMap fun item => [.item path item]) ++ [] := by
        rw [List.append_nil]
        exact List.map_eq_flatMap
      rw [hsites]
      refine ⟨fun entry => (hitems.ok entry).trans ⟨?_, ?_⟩, hitems.error⟩
      · rintro ⟨bindings, hbindings, rfl⟩
        exact .named nofun hbindings
      · rintro (_ | ⟨-, hbindings⟩)
        exact ⟨_, hbindings, rfl⟩
  | _ => exact Judged.follows (.error (.notSpecifiers nofun nofun)) nofun nofun

theorem entriesOf_follows (value : Json.Value) :
    Follows (Config.entriesOf value) (Declares value) (importSites value) := by
  cases value with
  | string path =>
    refine Judged.follows ?_ ?_ ?_
    · rw [Config.entriesOf, Identifier.derive]
      split_ifs with hi
      · exact .ok (.path hi)
      · exact .error (.derivedName (by simpa using hi))
    · rintro _ _ ⟨⟩ ⟨⟩
      rfl
    · rintro _ _ ⟨hi⟩ hfault
      cases hfault with
      | derivedName hno => cases hi.symm.trans hno
      | notEntry hpath => exact hpath _ rfl
  | object fields =>
    have hfields := Follows.mapM (fun field => entryOf_follows field.1 field.2) fields
    refine ⟨fun entries => (hfields.ok entries).trans ⟨.paths, ?_⟩, hfields.error⟩
    rintro (_ | hentries)
    exact hentries
  | _ => exact Judged.follows (.error (.notEntry nofun nofun)) nofun nofun

-- ---------------------------------------------------------------------------
-- Components and options
-- ---------------------------------------------------------------------------

theorem overrideOf_judged (element : String) (value : Json.Value) :
    Judged (Replaces (element, value)) (.component element value)
      (Config.overrideOf element value) := by
  unfold Config.overrideOf
  split_ifs with hempty
  · subst hempty
    exact .error .emptyElement
  · cases value with
    | string path => exact .ok (.element hempty .path)
    | object fields =>
      rw [Config.componentOf]
      split
      case h_1 name path hname hpath =>
        split_ifs with hne
        · refine .error (.notReference hempty ?_)
          rintro _ (_ | ⟨hname', hne', -⟩)
          rw [hname] at hname'
          cases hname'
          exact hne' hne
        · exact .ok (.element hempty (.named hname hne hpath))
      case h_2 hfields =>
        refine .error (.notReference hempty ?_)
        rintro _ (_ | ⟨hname, -, hpath⟩)
        exact hfields _ _ hname hpath
    | _ => exact .error (.notComponent hempty nofun nofun)

theorem overrideOf_follows (element : String) (value : Json.Value) :
    Follows (Config.overrideOf element value) (Replaces (element, value))
      [.component element value] := by
  refine (overrideOf_judged element value).follows ?_ ?_
  · rintro _ _ ⟨-, hfirst⟩ ⟨-, hsecond⟩
    cases hfirst with
    | path =>
      cases hsecond
      rfl
    | named hname _ hpath =>
      cases hsecond with
      | named hname' _ hpath' =>
        cases hname.symm.trans hname'
        cases hpath.symm.trans hpath'
        rfl
  · rintro _ _ ⟨hne, hvalue⟩ hfault
    cases hfault with
    | emptyElement => exact hne rfl
    | notReference _ hfields => exact hfields _ hvalue
    | notComponent _ hpath hfields =>
      cases hvalue with
      | path => exact hpath _ rfl
      | named => exact hfields _ rfl

theorem ofOptions_follows (options : Options) (root : String) :
    Follows (Config.ofOptions options root) (Configures options root) (optionSites options) := by
  have hoverrides := Follows.mapM (fun field => overrideOf_follows field.1 field.2)
    options.components
  have hall := (Follows.mapM entriesOf_follows options.imports).bind fun entries =>
    hoverrides.bind fun overrides =>
      Follows.pure ({ imports := entries.flatten, overrides, root } : Config)
  rw [optionSites, List.map_eq_flatMap, ← List.append_nil (List.flatMap _ options.components)]
  refine ⟨fun config => (hall.ok config).trans ⟨?_, ?_⟩, hall.error⟩
  · rintro ⟨entries, hentries, overrides, hoverrides, rfl⟩
    exact ⟨rfl, ⟨entries, hentries, rfl⟩, hoverrides⟩
  · obtain ⟨imports, overrides, own⟩ := config
    rintro ⟨rfl, ⟨entries, hentries, rfl⟩, hoverrides⟩
    exact ⟨entries, hentries, overrides, hoverrides, rfl⟩

theorem configures_iff (options : Options) (root : String) :
    (∃ config, Configures options root config) ↔
      (∀ value ∈ options.imports, ∃ entries, Declares value entries) ∧
      ∀ field ∈ options.components, ∃ override, Replaces field override := by
  rw [← exists_forall₂, ← exists_forall₂]
  constructor
  · rintro ⟨config, -, ⟨entries, hentries, -⟩, hoverrides⟩
    exact ⟨⟨entries, hentries⟩, config.overrides, hoverrides⟩
  · rintro ⟨⟨entries, hentries⟩, overrides, hoverrides⟩
    exact ⟨⟨entries.flatten, overrides, root⟩, rfl, ⟨entries, hentries, rfl⟩, hoverrides⟩

/-- Validation follows the grammar. It accepts options exactly if every import and every component
stands for something, it then puts what the imports stand for one after the other and keeps the
order of the components, and otherwise it reports the first mistake of the document. -/
theorem ofOptions_grammar (options : Options) (root : String) :
    (∀ config, Config.ofOptions options root = .ok config ↔ Configures options root config) ∧
    ((∃ config, Config.ofOptions options root = .ok config) ↔
      (∀ value ∈ options.imports, ∃ entries, Declares value entries) ∧
      ∀ field ∈ options.components, ∃ override, Replaces field override) ∧
    ∀ e, Config.ofOptions options root = .error e ↔ FirstFault (optionSites options) e := by
  have hfollows := ofOptions_follows options root
  refine ⟨hfollows.ok, ?_, hfollows.error⟩
  simp only [hfollows.ok, configures_iff]

/-- Of five mistakes the first one is reported. -/
example : Config.ofOptions {
    imports := [.string "./A.js", .object [("a", .array [.string "x", .array [.null]]),
      ("b", .array [])], .null]
    components := [("", .null), ("p", .object [])] } "/site" =
      .error (.invalidEntry "a" (.pairLength 1)) := rfl

end ConfigGrammar

end PagePrelude
