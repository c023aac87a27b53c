import PagePrelude.Proofs.Config
import PagePrelude.Proofs.Resolution

/-!
# How the text of a local path begins

A slash or a dot in front tells a file from a package. Behind a rooted directory a relative module
path always gets a slash. Behind another one the dot is lost unless a step up is left over or the
first name happens to begin with a dot (`resolve_marked_iff`), and the directory of a configuration
file is as rooted as the path of the file.
-/

namespace PagePrelude

-- ---------------------------------------------------------------------------
-- The directory of a file
-- ---------------------------------------------------------------------------

namespace Path

theorem getLast?_trimBack (back : List Char) : (trimBack back).getLast? = back.getLast? := by
  fun_induction trimBack back with
  | case1 => rfl
  | case2 rest hrest ih =>
    rw [ih, List.getLast?_cons_of_ne_nil (by rintro rfl; exact hrest rfl)]
  | case3 rest ih =>
    rw [ih, List.getLast?_cons_of_ne_nil (List.cons_ne_nil '/' rest)]
  | case4 => rfl

theorem getLast?_dropWhile (back : List Char) :
    (back.dropWhile (· != '/')).getLast? = some '/' ↔ back.getLast? = some '/' := by
  induction back with
  | nil => rfl
  | cons c back ih =>
    by_cases hc : c = '/'
    · simp [hc]
    · rw [List.dropWhile_cons_of_pos (by simpa using hc), ih]
      cases back with
      | nil => simp [hc]
      | cons d back => rw [List.getLast?_cons_cons]

/-- The directory of a file is rooted where the path of the file is. -/
theorem rooted_parent (file : String) : (ofText (parent file)).rooted = (ofText file).rooted := by
  have hslash : (parent file).toList.head? = some '/' ↔ file.toList.head? = some '/' := by
    rw [parent, String.toList_ofList, List.head?_reverse, getLast?_trimBack, getLast?_dropWhile,
      getLast?_trimBack, List.getLast?_reverse]
  rw [Bool.eq_iff_iff]
  simpa [ofText] using hslash

end Path

namespace Config

variable {file root : String} {config : Config}

theorem root_ofOptions {options : Options} (h : ofOptions options root = .ok config) :
    config.root = root := by
  simp only [ofOptions, bind_ok, pure_ok] at h
  obtain ⟨_, -, _, -, rfl⟩ := h
  rfl

/-- A configuration that is read from a file has the directory of the file as its root. -/
theorem root_ofFile {contents : Except FileFault String} (h : ofFile file contents = .ok config) :
    config.root = Path.parent file := by
  simp only [ofFile, bind_ok] at h
  obtain ⟨text, -, h⟩ := h
  split at h
  · simp only [ofJson, bind_ok] at h
    obtain ⟨options, -, h⟩ := h
    exact root_ofOptions h
  all_goals
    first
      | cases h
      | simp only [ofYaml, bind_ok] at h
        obtain ⟨options, -, h⟩ := h
        exact root_ofOptions h

end Config

-- ---------------------------------------------------------------------------
-- The first character of a resolved path
-- ---------------------------------------------------------------------------

namespace Specifier

open PagePrelude.Path

variable {path root : String}

/-- Whether a text is told from the name of a package by its first character. -/
def Marked (text : String) : Prop :=
  text.toList.head? = some '/' ∨ text.toList.head? = some '.'

instance (text : String) : Decidable (Marked text) :=
  inferInstanceAs (Decidable (_ ∨ _))

theorem toList_ne_nil {segments : List String} {segment : String} (h : Proper segments)
    (hmem : segment ∈ segments) : segment.toList ≠ [] := by
  intro hnil
  have hstep := (h segment hmem).1
  rw [String.toList_eq_nil_iff.mp hnil] at hstep
  exact absurd hstep (by decide)

theorem head?_rooted (segments : List String) :
    (toText ⟨true, segments⟩).toList.head? = some '/' := by
  simp [toText]

/-- The text of a path that is not rooted begins as its first segment does. -/
theorem head?_unrooted {segments : List String} (h : Proper segments) :
    (toText ⟨false, segments⟩).toList.head? = segments.head?.bind (·.toList.head?) := by
  cases segments with
  | nil => simp [toText]
  | cons first more =>
    obtain ⟨c, rest, hcons⟩ := List.exists_cons_of_ne_nil (toList_ne_nil h List.mem_cons_self)
    simp [toText, Module.intercalate_eq, hcons]

theorem toText_eq_empty {segments : List String} (h : Proper segments) :
    toText ⟨false, segments⟩ = "" ↔ segments = [] := by
  constructor
  · intro hempty
    have hhead := head?_unrooted h
    cases segments with
    | nil => rfl
    | cons first more =>
      rw [hempty] at hhead
      exact absurd (List.head?_eq_none_iff.mp hhead.symm) (toList_ne_nil h List.mem_cons_self)
  · rintro rfl
    rfl

/-- Of a route that leads up at most once, the text has a mark if it leads up, or if the first name
has one. -/
theorem marked_route {route : Route} (hups : route.ups < 2) (h : Proper route.toSegments) :
    Marked (toText ⟨false, route.toSegments⟩) ↔
      route.ups = 1 ∨ ∃ name ∈ route.names.head?, name.toList.head? = some '.' := by
  have hslash : (toText ⟨false, route.toSegments⟩).toList.head? ≠ some '/' := by
    simpa [toText] using head?_intercalate h
  rw [Marked, or_iff_right hslash, head?_unrooted h]
  obtain ⟨ups, names⟩ := route
  obtain rfl | rfl : ups = 0 ∨ ups = 1 := by
    have hlt : ups < 2 := hups
    omega
  · simp [Route.toSegments, Option.bind_eq_some_iff]
  · simp [Route.toSegments]

theorem text_resolve (hpath : isRelative path = true) : resolve path root =
    toText ⟨(ofText root).rooted, (Route.ofText (join root path)).paired.toSegments⟩ := by
  rw [resolve_relative hpath, normalize_eq, rooted_of_relative hpath]
  rfl

theorem proper_route (text : String) : Proper (Route.ofText text).paired.toSegments := by
  have hnormal : Proper (ofText text).normalize.segments := (steps_proper text).normalize
  rwa [segments_normalize] at hnormal

theorem marked_resolve (hpath : isRelative path = true) :
    Marked (resolve path root) ↔ (ofText root).rooted = true ∨
      (Route.ofText (join root path)).ups % 2 = 1 ∨
      ∃ name ∈ (Route.ofText (join root path)).names.head?, name.toList.head? = some '.' := by
  rw [text_resolve hpath]
  cases (ofText root).rooted with
  | true => simp [Marked, head?_rooted]
  | false =>
    rw [marked_route (Nat.mod_lt _ (by omega)) (proper_route _)]
    simp [Route.paired]

theorem resolve_eq_empty (hpath : isRelative path = true) :
    resolve path root = "" ↔ (ofText root).rooted = false ∧
      (Route.ofText (join root path)).ups % 2 = 0 ∧
      (Route.ofText (join root path)).names = [] := by
  rw [text_resolve hpath]
  cases (ofText root).rooted with
  | true =>
    have hne : toText ⟨true, (Route.ofText (join root path)).paired.toSegments⟩ ≠ "" := by
      intro hempty
      have hhead := head?_rooted (Route.ofText (join root path)).paired.toSegments
      simp [hempty] at hhead
    simp [hne]
  | false =>
    rw [toText_eq_empty (proper_route _)]
    simp [Route.paired, Route.toSegments]

theorem classify_unmarked {text : String} (h : ¬Marked text) (base : String) :
    classify text base = .package text := by
  have hdot : isRelative text = false := by
    rw [isRelative, beq_eq_false_iff_ne]
    exact fun hdot => h (.inr hdot)
  rw [classify, hdot]
  rfl

/-- The text of a relative module path has a mark behind a rooted directory. Behind another one it
has a mark if an odd number of directories up is left over, or if the first name begins with a dot.
Otherwise it reads as a package, or is empty where nothing is left of the path. The directory of a
configuration file is rooted where the path of the file is. -/
theorem resolve_marked_iff (hpath : isRelative path = true) :
    (Marked (resolve path root) ↔ (ofText root).rooted = true ∨
      (Route.ofText (join root path)).ups % 2 = 1 ∨
      ∃ name ∈ (Route.ofText (join root path)).names.head?, name.toList.head? = some '.') ∧
    (resolve path root = "" ↔ (ofText root).rooted = false ∧
      (Route.ofText (join root path)).ups % 2 = 0 ∧ (Route.ofText (join root path)).names = []) ∧
    (¬Marked (resolve path root) →
      ∀ base, classify (resolve path root) base = .package (resolve path root)) ∧
    ∀ file contents config, Config.ofFile file contents = .ok config → config.root = root →
      (ofText root).rooted = (ofText file).rooted := by
  refine ⟨marked_resolve hpath, resolve_eq_empty hpath, classify_unmarked, ?_⟩
  rintro file contents config hconfig rfl
  rw [Config.root_ofFile hconfig, rooted_parent]

/-- A dot that stays may belong to the name of a directory. -/
theorem resolve_marked_hidden :
    isRelative "./../.lib/A.js" = true ∧ (ofText "site").rooted = false ∧
      resolve "./../.lib/A.js" "site" = ".lib/A.js" ∧ Marked (resolve "./../.lib/A.js" "site") := by
  have hpath : isRelative "./../.lib/A.js" = true := by decide
  obtain ⟨hmarked, -⟩ := @resolve_marked_iff "./../.lib/A.js" "site" hpath
  refine ⟨hpath, by decide, by decide, hmarked.mpr (.inr (.inr ⟨".lib", ?_⟩))⟩
  decide

/-- Beside a configuration file that is named without its directory, a file becomes a package, and
the directory itself the empty text. -/
theorem resolve_unmarked :
    (∃ config, Config.ofFile "auto-import.json" (.ok "{}") = .ok config ∧ config.root = "") ∧
      isRelative "./A.js" = true ∧ resolve "./A.js" "" = "A.js" ∧ ¬Marked "A.js" ∧
      isRelative "." = true ∧ resolve "." "" = "" ∧ ¬Marked "" := by
  refine ⟨⟨{}, ?_, rfl⟩, ?_⟩
  · rfl
  · decide

end Specifier

end PagePrelude
