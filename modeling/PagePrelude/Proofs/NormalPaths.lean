import PagePrelude.Integration
import PagePrelude.Proofs.Resolution

/-!
# Paths in normal form

A normalised path is read back as what was kept of it, so that normalisation goes on from it as it
would have gone on from the path it came from. How a directory is spelled therefore does not show:
two roots give the same specifiers exactly if they have one normal form (`normalize_settles`).
-/

namespace PagePrelude

namespace Path

variable {text root other more : String}

/-- A text in normal form: read as a path, normalised, and written again. -/
def tidy (text : String) : String :=
  (ofText text).normalize.toText

/-- A path of names, with a step up in front of them or none. -/
def Normal (path : Path) : Prop :=
  ∀ place, path.segments[place]? = some ".." → place = 0

-- ---------------------------------------------------------------------------
-- Paths
-- ---------------------------------------------------------------------------

theorem normalize_normalize (path : Path) : path.normalize.normalize = path.normalize := by
  rw [normalize_eq path.normalize, ofSegments_normalize, Route.paired_paired]
  exact (normalize_eq path).symm

theorem normal_normalize (path : Path) : path.normalize.Normal := by
  intro place hup
  rw [segments_normalize] at hup
  have hnames : ∀ name ∈ (Route.ofSegments path.segments).paired.names, name ≠ ".." :=
    fun name hname => (Route.names_ofSegments hname).2
  exact Specifier.top_of_route (Nat.le_of_lt_succ (Route.ups_paired _)) hnames hup

/-- The segments of a path in normal form are those of a route that leads up at most once. -/
theorem Normal.route {path : Path} (h : path.Normal) :
    ∃ route : Route, route.ups < 2 ∧ (∀ name ∈ route.names, name ≠ "..") ∧
      route.toSegments = path.segments := by
  obtain ⟨rooted, segments⟩ := path
  cases segments with
  | nil => exact ⟨⟨0, []⟩, Nat.two_pos, by simp, rfl⟩
  | cons first names =>
    -- a step up behind the first segment would have a place other than 0
    have hnames : ∀ name ∈ names, name ≠ ".." := by
      rintro name hname rfl
      obtain ⟨place, hplace⟩ := List.mem_iff_getElem?.mp hname
      exact absurd (h (place + 1) hplace) (Nat.succ_ne_zero place)
    by_cases hup : first = ".."
    · subst hup
      exact ⟨⟨1, names⟩, Nat.one_lt_two, hnames, rfl⟩
    · exact ⟨⟨0, first :: names⟩, Nat.two_pos, List.forall_mem_cons.mpr ⟨hup, hnames⟩, rfl⟩

theorem normalize_eq_self_iff (path : Path) : path.normalize = path ↔ path.Normal := by
  constructor
  · intro hself
    rw [← hself]
    exact normal_normalize path
  · intro hnormal
    obtain ⟨route, hups, hnames, hsegments⟩ := hnormal.route
    rw [normalize_eq, ← hsegments, Route.ofSegments_toSegments hnames,
      Route.paired_eq_self hups, hsegments]

/-- What is kept of a path, walked again, is kept as it is. -/
theorem foldl_walk_normalize (path : Path) :
    path.normalize.segments.foldl walk [] = path.segments.foldl walk [] :=
  List.reverse_inj.mp (congrArg segments (normalize_normalize path))

theorem normalize_append (path : Path) (steps : List String) :
    (path.normalize.append steps).normalize = (path.append steps).normalize := by
  -- the walk comes to the appended steps with the same segments kept
  have hkept : (path.normalize.segments ++ steps).foldl walk [] =
      (path.segments ++ steps).foldl walk [] := by
    rw [List.foldl_append, List.foldl_append, foldl_walk_normalize]
  exact congrArg (fun kept => Path.mk path.rooted kept.reverse) hkept

-- ---------------------------------------------------------------------------
-- Texts
-- ---------------------------------------------------------------------------

theorem ofText_tidy (text : String) : ofText (tidy text) = (ofText text).normalize :=
  ofText_toText (steps_proper text).normalize

theorem tidy_tidy (text : String) : tidy (tidy text) = tidy text := by
  rw [tidy, ofText_tidy, normalize_normalize]
  rfl

theorem tidy_eq_iff :
    tidy root = tidy other ↔ (ofText root).normalize = (ofText other).normalize := by
  constructor
  · intro h
    rw [← ofText_tidy, ← ofText_tidy, h]
  · exact congrArg toText

/-- Two texts have one normal form if both are rooted or neither is, and they lead to the same names
from as many directories up, but for pairs of them. -/
theorem tidy_eq_iff_route : tidy root = tidy other ↔
    (ofText root).rooted = (ofText other).rooted ∧
      (Route.ofText root).paired = (Route.ofText other).paired := by
  rw [tidy_eq_iff]
  constructor
  · intro h
    have hrooted : (ofText root).normalize.rooted = (ofText other).normalize.rooted :=
      congrArg rooted h
    have hroutes : Route.ofSegments (ofText root).normalize.segments =
        Route.ofSegments (ofText other).normalize.segments := by
      rw [h]
    rw [ofSegments_normalize, ofSegments_normalize] at hroutes
    exact ⟨hrooted, hroutes⟩
  · rintro ⟨hrooted, hroutes⟩
    rw [normalize_eq, normalize_eq, hrooted]
    exact congrArg (fun route => Path.mk _ route.toSegments) hroutes

/-- Normalisation keeps a text that spells a path in normal form, and spells it with single slashes
and without `.`. -/
theorem tidy_eq_self_iff :
    tidy text = text ↔ (ofText text).Normal ∧ (ofText text).toText = text := by
  constructor
  · intro hself
    have hnormal : (ofText text).normalize = ofText text := by
      rw [← ofText_tidy, hself]
    refine ⟨(normalize_eq_self_iff _).mp hnormal, ?_⟩
    rw [← hnormal]
    exact hself
  · rintro ⟨hnormal, htext⟩
    rw [tidy, (normalize_eq_self_iff _).mpr hnormal, htext]

theorem tidy_join (hmore : more.toList.head? ≠ some '/') :
    tidy (join (tidy root) more) = tidy (join root more) := by
  rw [tidy_eq_iff, ofText_join hmore, ofText_join hmore, ofText_tidy, normalize_append]

theorem tidy_join_dot (root : String) : tidy (join root ".") = tidy root := by
  have hsteps : steps "." = [] := by decide
  rw [tidy, ofText_join (by decide), hsteps, append, List.append_nil]
  rfl

end Path

-- ---------------------------------------------------------------------------
-- Roots
-- ---------------------------------------------------------------------------

/-- Of the root of a configuration nothing is used but what it resolves module paths to. -/
theorem Integration.ofConfig_congr {root other : String}
    (h : ∀ path, Specifier.resolve path root = Specifier.resolve path other) (config : Config) :
    Integration.ofConfig { config with root := root } =
      Integration.ofConfig { config with root := other } := by
  have hentry : ImportStatement.ofEntry root = ImportStatement.ofEntry other := by
    funext entry
    rw [ImportStatement.ofEntry, ImportStatement.ofEntry, h]
  have hoverride : Override.statement root = Override.statement other := by
    funext index override
    rw [Override.statement, Override.statement, h]
  have himports : ImportFragment.ofConfig { config with root := root } =
      ImportFragment.ofConfig { config with root := other } := by
    rw [ImportFragment.ofConfig, ImportFragment.ofConfig, hentry]
  have hoverrides : OverrideFragments.ofConfig { config with root := root } =
      OverrideFragments.ofConfig { config with root := other } := by
    rw [OverrideFragments.ofConfig, OverrideFragments.ofConfig, hoverride]
  rw [Integration.ofConfig, Integration.ofConfig, Injector.ofConfig, Injector.ofConfig, himports,
    hoverrides]

namespace Specifier

open PagePrelude.Path

variable {path root other : String}

theorem classify_congr (h : tidy root = tidy other) (path : String) :
    classify path root = classify path other := by
  by_cases hpath : isRelative path = true
  · have htidy : tidy (join root path) = tidy (join other path) := by
      rw [← tidy_join (head?_relative hpath), h, tidy_join (head?_relative hpath)]
    rw [classify_relative hpath, classify_relative hpath, tidy_eq_iff.mp htidy]
  · rw [classify, classify, if_neg hpath, if_neg hpath]

/-- A root shows in the specifier of the directory itself. -/
theorem resolve_dot (root : String) : resolve "." root = tidy root := by
  rw [resolve_relative (by decide)]
  exact tidy_join_dot root

theorem resolve_congr_iff :
    (∀ path, resolve path root = resolve path other) ↔ tidy root = tidy other := by
  constructor
  · intro h
    rw [← resolve_dot, ← resolve_dot, h]
  · intro h path
    rw [resolve, resolve, classify_congr h]

/-- Normalisation changes nothing the second time, and leaves just those paths as they are that have
no step up behind another segment. A root can be normalised before a module path is resolved behind
it. So two roots with one normal form, and no others, give every module path the same specifier,
and a configuration in either of them is prepared with the same result. -/
theorem normalize_settles :
    (∀ path : Path, path.normalize.normalize = path.normalize ∧
      (path.normalize = path ↔ path.Normal)) ∧
    (∀ text, tidy (tidy text) = tidy text ∧
      (tidy text = text ↔ (ofText text).Normal ∧ (ofText text).toText = text)) ∧
    (∀ root path, isRelative path = true →
      tidy (join root path) = tidy (join (tidy root) path)) ∧
    ∀ root other,
      (tidy root = tidy other ↔ (ofText root).rooted = (ofText other).rooted ∧
        (Route.ofText root).paired = (Route.ofText other).paired) ∧
      (tidy root = tidy other ↔ ∀ path, resolve path root = resolve path other) ∧
      (tidy root = tidy other → ∀ config : Config,
        Integration.ofConfig { config with root := root } =
          Integration.ofConfig { config with root := other }) := by
  refine ⟨fun path => ⟨normalize_normalize path, normalize_eq_self_iff path⟩,
    fun text => ⟨tidy_tidy text, tidy_eq_self_iff⟩, ?_, ?_⟩
  · intro root path hpath
    exact (tidy_join (head?_relative hpath)).symm
  · intro root other
    refine ⟨tidy_eq_iff_route, resolve_congr_iff.symm, fun htidy config => ?_⟩
    exact Integration.ofConfig_congr (resolve_congr_iff.mpr htidy) config

/-- The step up that is kept behind a slash is taken back from either spelling. -/
theorem normalize_settles_above :
    tidy "/../site//./.." = "/.." ∧ tidy "/.." = "/.." ∧ isRelative "../A.js" = true ∧
      tidy (join "/../site//./.." "../A.js") = tidy (join "/.." "../A.js") ∧
      resolve "../A.js" "/../site//./.." = "/A.js" ∧ resolve "../A.js" "/.." = "/A.js" ∧
      Integration.ofConfig { imports := [.default "../A.js"], root := "/../site//./.." } =
        Integration.ofConfig { imports := [.default "../A.js"], root := "/.." } := by
  obtain ⟨-, -, hjoin, hroots⟩ := normalize_settles
  obtain ⟨-, hresolve, hconfig⟩ := hroots "/../site//./.." "/.."
  have hspelled : tidy "/../site//./.." = "/.." := by decide
  have hshort : tidy "/.." = "/.." := by decide
  have hsame : tidy "/../site//./.." = tidy "/.." := hspelled.trans hshort.symm
  have hpath : isRelative "../A.js" = true := by decide
  have hresolved : resolve "../A.js" "/.." = "/A.js" := by decide
  refine ⟨hspelled, hshort, hpath, ?_, ?_, hresolved, ?_⟩
  · rw [hjoin _ _ hpath, hspelled]
  · rw [hresolve.mp hsame, hresolved]
  · exact hconfig hsame { imports := [.default "../A.js"] }

end Specifier

end PagePrelude
