import PagePrelude.Proofs.Paths

/-!
# Resolved module paths

The text that a relative module path is imported under leads where the path does behind its root.
From a rooted one this always holds (`resolve_rooted`). From another one it holds as long as at
most one directory up is left over: two of them take each other back (`resolve_unrooted`).
-/

namespace PagePrelude.Specifier

open PagePrelude.Path

variable {path root : String}

-- ---------------------------------------------------------------------------
-- Relative paths
-- ---------------------------------------------------------------------------

theorem head?_relative (hpath : isRelative path = true) : path.toList.head? ≠ some '/' := by
  intro hslash
  simp [isRelative, hslash] at hpath

theorem classify_relative (hpath : isRelative path = true) :
    classify path root = .file (ofText (join root path)).normalize := by
  rw [classify, if_pos hpath, ofText_join (head?_relative hpath)]

theorem rooted_of_relative (hpath : isRelative path = true) :
    (ofText (join root path)).rooted = (ofText root).rooted :=
  rooted_join (head?_relative hpath)

theorem resolve_relative (hpath : isRelative path = true) :
    resolve path root = (ofText (join root path)).normalize.toText := by
  rw [resolve, classify_relative hpath]
  rfl

theorem ofText_resolve (hpath : isRelative path = true) :
    ofText (resolve path root) = (ofText (join root path)).normalize := by
  rw [resolve_relative hpath]
  exact ofText_toText (steps_proper _).normalize

theorem route_resolve (hpath : isRelative path = true) :
    Route.ofText (resolve path root) = (Route.ofText (join root path)).paired := by
  have hsteps : steps (resolve path root) = (ofText (join root path)).normalize.segments :=
    congrArg Path.segments (ofText_resolve hpath)
  rw [Route.ofText, hsteps, ofSegments_normalize]
  rfl

/-- A relative path leads behind a relative root to the names that it should, from no directory up
or from one: of the directories that are left over every two are lost, and it leads from as many
as it should only where there is at most one. -/
theorem resolve_unrooted (hroot : (ofText root).rooted = false) (hpath : isRelative path = true) :
    ofText (resolve path root) =
      ⟨false, List.replicate ((Route.ofText (join root path)).ups % 2) ".." ++
        (Route.ofText (join root path)).names⟩ ∧
    Route.ofText (resolve path root) =
      ⟨(Route.ofText (join root path)).ups % 2, (Route.ofText (join root path)).names⟩ ∧
    (Route.ofText (resolve path root) = Route.ofText (join root path) ↔
      (Route.ofText (join root path)).ups ≤ 1) := by
  have hroute : Route.ofText (resolve path root) = (Route.ofText (join root path)).paired :=
    route_resolve hpath
  refine ⟨?_, hroute, ?_⟩
  · rw [ofText_resolve hpath, normalize_eq, (rooted_of_relative hpath).trans hroot]
    rfl
  · rw [hroute]
    constructor
    · intro hsame
      have hups : (Route.ofText (join root path)).ups % 2 = (Route.ofText (join root path)).ups :=
        congrArg Route.ups hsame
      omega
    · intro hfew
      rw [Route.paired, Nat.mod_eq_of_lt (by omega)]

/-- One directory up is kept. -/
theorem resolve_unrooted_once :
    (ofText "site").rooted = false ∧ isRelative "../../A.js" = true ∧
      Route.ofText (resolve "../../A.js" "site") = ⟨1, ["A.js"]⟩ ∧
      (Route.ofText (resolve "../../A.js" "site") = Route.ofText (join "site" "../../A.js")) := by
  have hroot : (ofText "site").rooted = false := by decide
  have hpath : isRelative "../../A.js" = true := by decide
  obtain ⟨-, hroute, hsame⟩ := resolve_unrooted hroot hpath
  have hmeant : Route.ofText (join "site" "../../A.js") = ⟨1, ["A.js"]⟩ := by decide
  rw [hmeant] at hroute hsame
  refine ⟨hroot, hpath, hroute, ?_⟩
  rw [hmeant]
  exact hsame.mpr (Nat.le_refl 1)

/-- Two directories up are lost: the text names a package. -/
theorem resolve_unrooted_twice :
    (ofText "").rooted = false ∧ isRelative "../../A.js" = true ∧
      resolve "../../A.js" "" = "A.js" ∧
      Route.ofText (join "" "../../A.js") = ⟨2, ["A.js"]⟩ ∧
      Route.ofText (resolve "../../A.js" "") ≠ Route.ofText (join "" "../../A.js") := by
  decide

-- ---------------------------------------------------------------------------
-- Rooted texts
-- ---------------------------------------------------------------------------

/-- A text that denotes a rooted path in the shortest way, but for a `..` that it may start with. -/
structure Canonical (text : String) : Prop where
  rooted : text.toList.head? = some '/'
  single : ∀ front back, text ≠ front ++ "//" ++ back
  closed : text ≠ "/" → text.toList.getLast? ≠ some '/'
  plain : "." ∉ parts text
  /-- A step up comes once, directly behind the first slash. -/
  top : ∀ place, (parts text)[place]? = some ".." → place = 1

theorem canonical_slash : Canonical "/" where
  rooted := rfl
  single front back htext := by
    have hlength := congrArg String.length htext
    simp only [String.length_append, show "/".length = 1 from rfl, show "//".length = 2 from rfl]
      at hlength
    omega
  closed htext := absurd rfl htext
  plain := by decide
  top place hup := by
    have hparts : parts "/" = ["", ""] := by decide
    rw [hparts] at hup
    exact absurd (List.mem_of_getElem? hup) (by decide)

/-- A slash with nothing before the next one, or behind it, makes an empty part that is not the
first one. -/
theorem empty_mem_of_parts {front : String} {segments more : List String}
    (h : "" :: segments = parts front ++ "" :: more) : "" ∈ segments := by
  obtain ⟨first, rest, hfront⟩ := List.exists_cons_of_ne_nil (parts_ne_nil front)
  rw [hfront, List.cons_append] at h
  rw [(List.cons.inj h).2]
  exact List.mem_append_right _ List.mem_cons_self

/-- A text with proper parts behind its first slash, of which only the first may lead up. -/
theorem canonical_of_parts {text : String} {segments : List String} (hproper : Proper segments)
    (hrooted : text.toList.head? = some '/') (hparts : parts text = "" :: segments)
    (htop : ∀ place, segments[place]? = some ".." → place = 0) : Canonical text where
  rooted := hrooted
  single front back htext := by
    have hdouble : text = front ++ "/" ++ ("" ++ "/" ++ back) := by
      rw [htext, ← String.toList_inj]
      simp
    rw [hdouble, parts_append, parts_append] at hparts
    exact absurd (hproper "" (empty_mem_of_parts hparts.symm)).1 (by decide)
  closed _ hlast := by
    obtain ⟨front, hfront⟩ := List.getLast?_eq_some_iff.mp hlast
    have htext : text = String.ofList front ++ "/" ++ "" := by
      rw [← String.toList_inj]
      simp [hfront]
    rw [htext, parts_append] at hparts
    exact absurd (hproper "" (empty_mem_of_parts hparts.symm)).1 (by decide)
  plain hdot := by
    rw [hparts] at hdot
    rcases List.mem_cons.mp hdot with hempty | hdot
    · exact absurd hempty (by decide)
    · exact absurd (hproper "." hdot).1 (by decide)
  top place hup := by
    rw [hparts] at hup
    cases place with
    | zero => exact absurd (Option.some.inj hup) (by decide)
    | succ place => rw [htop place hup]

/-- Of the segments of a route that leads up at most once only the first may be a step up. -/
theorem top_of_route {route : Route} (hups : route.ups ≤ 1)
    (hnames : ∀ name ∈ route.names, name ≠ "..") {place : Nat}
    (hup : route.toSegments[place]? = some "..") : place = 0 := by
  rw [Route.toSegments] at hup
  by_cases hplace : place < route.ups
  · omega
  · rw [List.getElem?_append_right (by simpa using hplace)] at hup
    exact absurd rfl (hnames ".." (List.mem_of_getElem? hup))

theorem canonical_toText {route : Route} (hups : route.ups ≤ 1)
    (hnames : ∀ name ∈ route.names, name ≠ "..") (hproper : Proper route.toSegments) :
    Canonical (toText ⟨true, route.toSegments⟩) := by
  by_cases hnil : route.toSegments = []
  · rw [hnil]
    exact canonical_slash
  · have hparts : parts (toText ⟨true, route.toSegments⟩) = "" :: route.toSegments := by
      refine (parts_append "" ("/".intercalate route.toSegments)).trans ?_
      rw [parts_intercalate hnil fun segment hsegment => (hproper segment hsegment).2]
      rfl
    exact canonical_of_parts hproper (by simp [toText]) hparts
      fun place hup => top_of_route hups hnames hup

/-- A relative path leads behind a rooted one to the names that it should, and its text is
canonical. -/
theorem resolve_rooted (hroot : (ofText root).rooted = true) (hpath : isRelative path = true) :
    Canonical (resolve path root) ∧
      namesFromRoot (resolve path root) = namesFromRoot (join root path) := by
  constructor
  · have hproper : Proper (ofText (join root path)).normalize.segments := (steps_proper _).normalize
    rw [segments_normalize] at hproper
    rw [resolve_relative hpath, normalize_eq, (rooted_of_relative hpath).trans hroot]
    have hups : (Route.ofText (join root path)).ups % 2 < 2 := Nat.mod_lt _ (by omega)
    exact canonical_toText (Nat.le_of_lt_succ hups)
      (fun name hname => (Route.names_ofSegments hname).2) hproper
  · rw [Route.namesFromRoot_eq, Route.namesFromRoot_eq, route_resolve hpath]
    rfl

/-- A step up from the root stays in the text and leads nowhere. -/
theorem resolve_rooted_above :
    (ofText "//a/./").rooted = true ∧ isRelative "../../.b//...//" = true ∧
      Canonical (resolve "../../.b//...//" "//a/./") ∧
      resolve "../../.b//...//" "//a/./" = "/../.b/..." ∧
      namesFromRoot "/../.b/..." = [".b", "..."] := by
  have hroot : (ofText "//a/./").rooted = true := by decide
  have hpath : isRelative "../../.b//...//" = true := by decide
  obtain ⟨hcanonical, hnames⟩ := resolve_rooted hroot hpath
  have htext : resolve "../../.b//...//" "//a/./" = "/../.b/..." := by decide
  refine ⟨hroot, hpath, hcanonical, htext, ?_⟩
  rw [← htext, hnames]
  decide

end PagePrelude.Specifier
