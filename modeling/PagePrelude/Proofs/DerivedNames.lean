import Mathlib.Data.List.TakeWhile
import PagePrelude.Proofs.GeneratedNames
import PagePrelude.Proofs.Paths

/-!
# Names derived from paths

A default import is named after the last segment of its path that is neither empty nor `.`
(`derive_exact`). Whatever comes before that segment, and slashes and `.` after it, change nothing.
-/

namespace PagePrelude

namespace Path

/-- The last of the parts between the slashes of a path that is neither empty nor `.`. -/
def LastSegment (path segment : String) : Prop :=
  ∃ front back, parts path = front ++ segment :: back ∧ segment ≠ "" ∧ segment ≠ "." ∧
    ∀ part ∈ back, part = "" ∨ part = "."

/-- Text that leads nowhere behind a path: slashes, and `.` behind slashes. -/
inductive Padding : String → Prop
  | none : Padding ""
  | slash : Padding text → Padding (text ++ "/")
  | dot : Padding text → Padding (text ++ "/.")

/-- A file name, and what is left of it without its extension: the part from the last dot on, unless
that dot comes first. -/
inductive Stem : String → String → Prop
  | dotted : front ≠ "" → '.' ∉ ending.toList → Stem (front ++ "." ++ ending) front
  | hidden : '.' ∉ rest.toList → Stem ("." ++ rest) ("." ++ rest)
  | plain : '.' ∉ name.toList → Stem name name

section
variable {path segment name front folder : String}

-- ---------------------------------------------------------------------------
-- The last segment
-- ---------------------------------------------------------------------------

theorem isStep_iff : isStep segment = true ↔ segment ≠ "" ∧ segment ≠ "." := by
  simp [isStep]

theorem lastSegment_iff : LastSegment path segment ↔ (steps path).getLast? = some segment := by
  rw [steps_eq]
  constructor
  · rintro ⟨front, back, hparts, hempty, hdot, hback⟩
    have hnone : back.filter isStep = [] := by
      refine List.filter_eq_nil_iff.mpr fun part hpart hstep => ?_
      obtain ⟨hne, hnd⟩ := isStep_iff.mp hstep
      exact (hback part hpart).elim hne hnd
    rw [hparts, List.filter_append, List.filter_cons_of_pos (isStep_iff.mpr ⟨hempty, hdot⟩), hnone,
      List.getLast?_concat]
  · intro hlast
    obtain ⟨before, hbefore⟩ := List.getLast?_eq_some_iff.mp hlast
    obtain ⟨front, rest, hparts, -, hrest⟩ := List.filter_eq_append_iff.mp hbefore
    obtain ⟨skipped, back, rfl, -, hstep, hback⟩ := List.filter_eq_cons_iff.mp hrest
    obtain ⟨hempty, hdot⟩ := isStep_iff.mp hstep
    refine ⟨front ++ skipped, back, by simpa using hparts, hempty, hdot, fun part hpart => ?_⟩
    by_cases hne : part = ""
    · exact .inl hne
    · refine .inr (Classical.byContradiction fun hnd => ?_)
      exact List.filter_eq_nil_iff.mp hback part hpart (isStep_iff.mpr ⟨hne, hnd⟩)

theorem fileName_iff :
    fileName path = some segment ↔ LastSegment path segment ∧ segment ≠ ".." := by
  rw [lastSegment_iff, fileName]
  cases (steps path).getLast? with
  | none => simp
  | some last =>
    by_cases hup : last = ".."
    · simp only [hup, if_true, Option.some.injEq]
      constructor
      · intro h
        cases h
      · rintro ⟨hsegment, hne⟩
        exact absurd hsegment.symm hne
    · simp only [hup, if_false, Option.some.injEq]
      constructor
      · rintro rfl
        exact ⟨rfl, hup⟩
      · exact And.left

theorem fileName_congr {other : String} (h : (steps path).getLast? = (steps other).getLast?) :
    fileName path = fileName other := by
  rw [fileName, fileName, h]

theorem steps_padded {padding : String} (h : Padding padding) (path : String) :
    steps (path ++ padding) = steps path := by
  induction h with
  | none => rw [String.append_empty]
  | @slash text _ ih =>
    have hslash := steps_append (path ++ text) ""
    rw [String.append_empty, steps_empty, List.append_nil, ih] at hslash
    rw [← String.append_assoc, hslash]
  | @dot text _ ih =>
    have hdot := steps_append (path ++ text) "."
    rw [show steps "." = [] from rfl, List.append_nil, ih] at hdot
    rw [← hdot, show "/." = "/" ++ "." from rfl, ← String.append_assoc, ← String.append_assoc]

/-- A path that has a last segment has the same one behind a folder. -/
theorem getLast?_steps_behind (hfolder : folder.toList.getLast? = some '/')
    (hpath : LastSegment path segment) :
    (steps (folder ++ path)).getLast? = (steps path).getLast? := by
  obtain ⟨front, hfront⟩ := List.getLast?_eq_some_iff.mp hfolder
  have hbehind : folder ++ path = String.ofList front ++ "/" ++ path := by
    rw [← String.toList_inj]
    simp [hfront]
  rw [hbehind, steps_append, List.getLast?_append, lastSegment_iff.mp hpath]
  rfl

-- ---------------------------------------------------------------------------
-- Extensions
-- ---------------------------------------------------------------------------

theorem not_dot {chars : List Char} (h : '.' ∉ chars) : ∀ c ∈ chars.reverse, (c != '.') = true :=
  fun _ hc => bne_iff_ne.mpr fun hdot => h (hdot ▸ List.mem_reverse.mp hc)

theorem splitExtension_plain (h : '.' ∉ name.toList) : splitExtension name = (name, none) := by
  have hdrop : name.toList.reverse.dropWhile (· != '.') = [] :=
    List.dropWhile_eq_nil_iff.mpr (not_dot h)
  simp [splitExtension, hdrop]

/-- The last dot splits a name. -/
theorem splitExtension_dot (front : String) {ending : String} (h : '.' ∉ ending.toList) :
    splitExtension (front ++ "." ++ ending) =
      if front = "" then ("." ++ ending, none) else (front, some ending) := by
  have hback : (front ++ "." ++ ending).toList.reverse =
      ending.toList.reverse ++ '.' :: front.toList.reverse := by
    simp
  have htake : (front ++ "." ++ ending).toList.reverse.takeWhile (· != '.') =
      ending.toList.reverse := by
    rw [hback, List.takeWhile_append_of_pos (not_dot h)]
    simp
  have hdrop : (front ++ "." ++ ending).toList.reverse.dropWhile (· != '.') =
      '.' :: front.toList.reverse := by
    rw [hback, List.dropWhile_append_of_pos (not_dot h)]
    simp
  simp only [splitExtension, htake, hdrop, List.drop_one, List.tail_cons, List.isEmpty_reverse,
    List.reverse_reverse, String.ofList_toList, List.isEmpty_iff, String.toList_eq_nil_iff]
  split
  · rename_i hempty
    rw [hempty, String.empty_append]
  · rfl

theorem stem_splitExtension (name : String) : Stem name (splitExtension name).1 := by
  by_cases hdot : '.' ∈ name.toList
  · -- The dot to split at is the last one, so the name is taken apart from behind.
    obtain ⟨back, before, hname, hback⟩ :=
      List.eq_append_cons_of_mem (List.mem_reverse.mpr hdot)
    have hext : '.' ∉ (String.ofList back.reverse).toList := by simpa using hback
    have hsplit : name = String.ofList before.reverse ++ "." ++ String.ofList back.reverse := by
      rw [← String.toList_inj, ← List.reverse_reverse name.toList, hname]
      simp
    rw [hsplit, splitExtension_dot _ hext]
    split
    · rename_i hempty
      rw [hempty, String.empty_append]
      exact .hidden hext
    · rename_i hne
      exact .dotted hne hext
  · rw [splitExtension_plain hdot]
    exact .plain hdot

theorem stem_iff : Stem name front ↔ (splitExtension name).1 = front := by
  constructor
  · intro h
    cases h with
    | dotted hne hext => rw [splitExtension_dot _ hext, if_neg hne]
    | @hidden rest hrest =>
      have hsplit := splitExtension_dot "" hrest
      rw [String.empty_append, if_pos rfl] at hsplit
      rw [hsplit]
    | plain hname => rw [splitExtension_plain hname]
  · rintro rfl
    exact stem_splitExtension name

end

end Path

namespace Identifier

open PagePrelude.Path

/-- What is left of the last segment of a path once its extension and all characters but ASCII
letters, ASCII digits and `_` are dropped. A path that leads up, or nowhere, leaves nothing. -/
inductive Leaves (path : String) : String → Prop
  | segment {last front : String} : LastSegment path last → last ≠ ".." → Stem last front →
      Leaves path (sanitize front)
  | nothing : (∀ segment, LastSegment path segment → segment = "..") → Leaves path ""

/-- A text of plain characters that can be bound. -/
structure Bindable (name : String) : Prop where
  nonempty : name ≠ ""
  first : ∀ c ∈ name.toList.head?, c.isDigit = false
  free : name ∉ reservedWords

section
variable {path segment name folder padding text : String} {c : Char}

-- ---------------------------------------------------------------------------
-- Plain names
-- ---------------------------------------------------------------------------

theorem isPlain_iff : isPlain c = true ↔
    ('A' ≤ c ∧ c ≤ 'Z') ∨ ('a' ≤ c ∧ c ≤ 'z') ∨ ('0' ≤ c ∧ c ≤ '9') ∨ c = '_' := by
  delta isPlain Char.isAlphanum Char.isAlpha Char.isUpper Char.isLower Char.isDigit
  simp only [Bool.or_eq_true, Bool.and_eq_true, decide_eq_true_eq, beq_iff_eq, or_assoc]
  rfl

/-- Of the plain characters all but the digits may come first. -/
theorem isFirst_plain (h : isPlain c = true) : isFirst c = !c.isDigit := by
  have hc := ascii_of_isPlain h
  cases hdigit : c.isDigit with
  | true =>
    have hnot : (!isFirst c) = true :=
      Module.of_ascii (q := fun c => !isFirst c) (by decide +kernel) hc hdigit
    simpa using hnot
  | false =>
    have hfirst : (isPlain c && !c.isDigit) = true := by simp [h, hdigit]
    exact Module.of_ascii (p := fun c => isPlain c && !c.isDigit) (by decide +kernel) hc hfirst

theorem isShaped_plain (h : ∀ c ∈ name.toList, isPlain c = true) :
    isShaped name = true ↔ ∃ c ∈ name.toList.head?, c.isDigit = false := by
  unfold isShaped
  cases hname : name.toList with
  | nil => simp
  | cons c cs =>
    rw [hname] at h
    have hrest : cs.all isRest = true :=
      List.all_eq_true.mpr fun d hd => isRest_of_isPlain (h d (List.mem_cons_of_mem c hd))
    simp [hrest, isFirst_plain (h c List.mem_cons_self)]

-- ---------------------------------------------------------------------------
-- Derived names
-- ---------------------------------------------------------------------------

theorem leaves_iff : Leaves path text ↔ derived path = text := by
  rw [derived, Path.stem]
  cases hname : fileName path with
  | some segment =>
    obtain ⟨hlast, hup⟩ := fileName_iff.mp hname
    have hone {other : String} (h : LastSegment path other) : other = segment := by
      rw [lastSegment_iff] at h hlast
      exact Option.some.inj (h.symm.trans hlast)
    constructor
    · intro h
      cases h with
      | segment hother _ hstem =>
        obtain rfl := hone hother
        exact congrArg sanitize (stem_iff.mp hstem)
      | nothing hnone => exact absurd (hnone segment hlast) hup
    · rintro rfl
      exact .segment hlast hup (stem_splitExtension segment)
  | none =>
    have hnone (other : String) (h : LastSegment path other) : other = ".." := by
      refine Classical.byContradiction fun hup => ?_
      rw [fileName_iff.mpr ⟨h, hup⟩] at hname
      cases hname
    constructor
    · intro h
      cases h with
      | segment hother hup => exact absurd (hnone _ hother) hup
      | nothing => rfl
    · rintro rfl
      exact .nothing hnone

theorem derived_plain (path : String) : ∀ c ∈ (derived path).toList, isPlain c = true :=
  fun _ hc => isPlain_of_mem_sanitize hc

theorem isIdentifier_derived : isIdentifier (derived path) = true ↔ Bindable (derived path) := by
  rw [isIdentifier, Bool.and_eq_true, isShaped_plain (derived_plain path)]
  simp only [Bool.not_eq_true', List.contains_eq_mem, decide_eq_false_iff_not]
  constructor
  · rintro ⟨⟨c, hc, hdigit⟩, hfree⟩
    refine ⟨fun hempty => ?_, fun d hd => ?_, hfree⟩
    · rw [hempty] at hc
      cases hc
    · obtain rfl := Option.mem_unique hc hd
      exact hdigit
  · rintro ⟨hne, hfirst, hfree⟩
    obtain ⟨c, cs, hname⟩ := List.exists_cons_of_ne_nil (mt String.toList_eq_nil_iff.mp hne)
    have hc : c ∈ (derived path).toList.head? := by simp [hname]
    exact ⟨⟨c, hc, hfirst c hc⟩, hfree⟩

theorem derive_eq (path : String) : derive path =
    if isIdentifier (derived path) then .ok (derived path)
    else .error (.invalidIdentifier path (derived path)) := rfl

theorem derive_ok_iff : derive path = .ok name ↔ Leaves path name ∧ Bindable name := by
  rw [derive_eq, leaves_iff]
  split
  · rename_i hvalid
    rw [Except.ok.injEq]
    constructor
    · rintro rfl
      exact ⟨rfl, isIdentifier_derived.mp hvalid⟩
    · exact And.left
  · rename_i hinvalid
    constructor
    · intro h
      cases h
    · rintro ⟨rfl, hbindable⟩
      exact absurd (isIdentifier_derived.mpr hbindable) hinvalid

theorem derive_error_iff {error : Error} : derive path = .error error ↔
    ∃ text, error = .invalidIdentifier path text ∧ Leaves path text ∧ ¬Bindable text := by
  simp only [leaves_iff]
  rw [derive_eq]
  split
  · rename_i hvalid
    constructor
    · intro h
      cases h
    · rintro ⟨_, -, rfl, hnot⟩
      exact absurd (isIdentifier_derived.mp hvalid) hnot
  · rename_i hinvalid
    rw [Except.error.injEq]
    constructor
    · rintro rfl
      exact ⟨_, rfl, rfl, mt isIdentifier_derived.mpr hinvalid⟩
    · rintro ⟨_, rfl, rfl, -⟩
      rfl

theorem derived_congr {other : String} (h : (steps path).getLast? = (steps other).getLast?) :
    derived path = derived other := by
  rw [derived, derived, Path.stem, Path.stem, fileName_congr h]

theorem derived_padded (h : Padding padding) : derived (path ++ padding) = derived path :=
  derived_congr (by rw [steps_padded h])

theorem derived_behind (hfolder : folder.toList.getLast? = some '/')
    (hpath : LastSegment path segment) : derived (folder ++ path) = derived path :=
  derived_congr (getLast?_steps_behind hfolder hpath)

theorem derive_ok_congr {other : String} (h : derived path = derived other) :
    derive path = .ok name ↔ derive other = .ok name := by
  rw [derive_ok_iff, derive_ok_iff, leaves_iff, leaves_iff, h]

/-- A name is derived from a path exactly if the last segment leaves one that can be bound.
Otherwise the error holds the path and what is left of it. Of a path with a last segment neither a
folder in front nor slashes and `.` behind change the name, or that there is one. -/
theorem derive_exact (path : String) :
    (∀ name, derive path = .ok name ↔ ∃ segment front, LastSegment path segment ∧ segment ≠ ".." ∧
      Stem segment front ∧ name = sanitize front ∧ name ≠ "" ∧
      (∀ c ∈ name.toList.head?, c.isDigit = false) ∧ name ∉ reservedWords) ∧
    (∀ error, derive path = .error error ↔
      ∃ text, error = .invalidIdentifier path text ∧ Leaves path text ∧ ¬Bindable text) ∧
    (∀ text, (sanitize text).toList = text.toList.filter fun c =>
      ('A' ≤ c ∧ c ≤ 'Z') ∨ ('a' ≤ c ∧ c ≤ 'z') ∨ ('0' ≤ c ∧ c ≤ '9') ∨ c = '_') ∧
    ∀ segment, LastSegment path segment → ∀ folder padding,
      (folder = "" ∨ folder.toList.getLast? = some '/') → Padding padding →
        derived (folder ++ path ++ padding) = derived path ∧
          ∀ name, derive (folder ++ path ++ padding) = .ok name ↔ derive path = .ok name := by
  refine ⟨fun name => ?_, fun error => derive_error_iff, fun text => ?_, ?_⟩
  · rw [derive_ok_iff]
    constructor
    · rintro ⟨hleaves, hne, hfirst, hfree⟩
      cases hleaves with
      | segment hlast hup hstem => exact ⟨_, _, hlast, hup, hstem, rfl, hne, hfirst, hfree⟩
      | nothing => exact absurd rfl hne
    · rintro ⟨segment, front, hlast, hup, hstem, rfl, hne, hfirst, hfree⟩
      exact ⟨.segment hlast hup hstem, hne, hfirst, hfree⟩
  · rw [sanitize, String.toList_ofList]
    exact List.filter_congr fun c _ => Bool.eq_iff_iff.mpr (by rw [isPlain_iff, decide_eq_true_iff])
  · intro segment hlast folder padding hfolder hpadding
    have hsame : derived (folder ++ path ++ padding) = derived path := by
      rw [derived_padded hpadding]
      rcases hfolder with rfl | hfolder
      · rw [String.empty_append]
      · exact derived_behind hfolder hlast
    exact ⟨hsame, fun name => derive_ok_congr hsame⟩

/-- A dot in front starts no extension, and the last one does, in a folder as anywhere. -/
theorem derive_exact_folder :
    LastSegment "a/.pkg.v2.js" ".pkg.v2.js" ∧ "../x.y/".toList.getLast? = some '/' ∧
      Padding "/./" ∧ derive ("../x.y/" ++ "a/.pkg.v2.js" ++ "/./") = .ok "pkgv2" := by
  obtain ⟨hname, -, -, hfolder⟩ := derive_exact "a/.pkg.v2.js"
  have hlast : LastSegment "a/.pkg.v2.js" ".pkg.v2.js" :=
    ⟨["a"], [], by decide, by decide, by decide, by simp⟩
  have hpadding : Padding "/./" := .slash (.dot .none)
  obtain ⟨-, hsame⟩ := hfolder _ hlast "../x.y/" "/./" (.inr rfl) hpadding
  have hstem : Stem (".pkg.v2" ++ "." ++ "js") ".pkg.v2" := .dotted (by decide) (by decide)
  have hderived : derive "a/.pkg.v2.js" = .ok "pkgv2" := (hname "pkgv2").mpr
    ⟨_, _, hlast, by decide, hstem, by decide, by decide, by simp, by decide⟩
  exact ⟨hlast, rfl, hpadding, (hsame "pkgv2").mpr hderived⟩

end

end Identifier

end PagePrelude
