import PagePrelude.Specifier

/-!
# Where paths lead

Read lexically, a path leads some directories up and from there along a list of names (`Route`).
Normalisation keeps the names. Of the `..` segments that nothing takes back it keeps at most one,
since each of them takes back the one before it (`segments_normalize`).
-/

namespace PagePrelude.Path

variable {segments : List String}

-- ---------------------------------------------------------------------------
-- Parts of a text
-- ---------------------------------------------------------------------------

/-- What stands between the slashes of a text. -/
def parts (text : String) : List String :=
  (splitSlashes text.toList).map String.ofList

theorem steps_eq (text : String) : steps text = (parts text).filter isStep := rfl

@[simp] theorem steps_empty : steps "" = [] := rfl

theorem splitSlashes_eq (chars : List Char) : splitSlashes chars = chars.splitOn '/' := by
  induction chars with
  | nil => rfl
  | cons c chars ih =>
    obtain ⟨part, more, hparts⟩ := List.exists_cons_of_ne_nil (List.splitOn_ne_nil '/' chars)
    rw [splitSlashes, ih, hparts]
    rw [List.splitOn] at hparts ⊢
    rw [List.splitOnP_cons_eq_if_modifyHead, hparts]
    simp

theorem parts_ne_nil (text : String) : parts text ≠ [] := by
  simp [parts, splitSlashes_eq, List.splitOn_ne_nil]

@[simp] theorem parts_empty : parts "" = [""] := rfl

theorem slash_notMem_of_split {chars part : List Char} (h : part ∈ splitSlashes chars) :
    '/' ∉ part := by
  induction chars generalizing part with
  | nil =>
    obtain rfl := List.mem_singleton.mp h
    exact List.not_mem_nil
  | cons c chars ih =>
    rw [splitSlashes] at h
    split at h
    · rename_i hnil
      exact absurd hnil (splitSlashes_eq chars ▸ List.splitOn_ne_nil '/' chars)
    · rename_i first more hsplit
      rw [hsplit] at ih
      have hfirst := ih List.mem_cons_self
      have hmore {part} (hpart : part ∈ more) := ih (List.mem_cons_of_mem first hpart)
      split at h
      · rcases List.mem_cons.mp h with rfl | h
        · exact List.not_mem_nil
        · exact ih h
      · rename_i hc
        rcases List.mem_cons.mp h with rfl | h
        · simp [Ne.symm hc, hfirst]
        · exact hmore h

theorem slash_notMem_of_part {text part : String} (h : part ∈ parts text) :
    '/' ∉ part.toList := by
  obtain ⟨chars, hchars, rfl⟩ := List.mem_map.mp h
  rw [String.toList_ofList]
  exact slash_notMem_of_split hchars

theorem parts_append (front back : String) :
    parts (front ++ "/" ++ back) = parts front ++ parts back := by
  have hsplit := List.splitOnP_append_cons (p := (· == '/')) front.toList back.toList
    (beq_self_eq_true '/')
  simp only [parts, splitSlashes_eq, List.splitOn, ← List.map_append, ← hsplit]
  simp

theorem steps_append (front back : String) :
    steps (front ++ "/" ++ back) = steps front ++ steps back := by
  rw [steps_eq, parts_append, List.filter_append]
  rfl

theorem parts_intercalate (hne : segments ≠ []) (h : ∀ segment ∈ segments, '/' ∉ segment.toList) :
    parts ("/".intercalate segments) = segments := by
  have hsplit : (['/'].intercalate (segments.map String.toList)).splitOn '/' =
      segments.map String.toList :=
    List.splitOn_intercalate '/' (by simpa using h) (by simpa using hne)
  have hlist : ("/".intercalate segments).toList = ['/'].intercalate (segments.map String.toList) :=
    String.toList_intercalate
  rw [parts, splitSlashes_eq, hlist, hsplit]
  simp

-- ---------------------------------------------------------------------------
-- Segments and texts
-- ---------------------------------------------------------------------------

/-- Segments that stand for themselves between slashes. -/
def Proper (segments : List String) : Prop :=
  ∀ segment ∈ segments, isStep segment = true ∧ '/' ∉ segment.toList

theorem steps_proper (text : String) : Proper (steps text) := fun _ h =>
  ⟨(List.mem_filter.mp h).2, slash_notMem_of_part (List.mem_filter.mp h).1⟩

theorem steps_intercalate (h : Proper segments) : steps ("/".intercalate segments) = segments := by
  by_cases hnil : segments = []
  · subst hnil
    rfl
  · rw [steps_eq, parts_intercalate hnil fun segment hsegment => (h segment hsegment).2]
    exact List.filter_eq_self.mpr fun segment hsegment => (h segment hsegment).1

theorem head?_intercalate (h : Proper segments) :
    ("/".intercalate segments).toList.head? ≠ some '/' := by
  cases segments with
  | nil => simp
  | cons first more =>
    obtain ⟨hstep, hslash⟩ := h first List.mem_cons_self
    have hfirst : first.toList ≠ [] := by
      intro hnil
      rw [String.toList_eq_nil_iff.mp hnil] at hstep
      exact absurd hstep (by decide)
    obtain ⟨c, rest, hcons⟩ := List.exists_cons_of_ne_nil hfirst
    rw [String.toList_intercalate]
    intro hhead
    have hc : c = '/' := by
      cases more <;> simpa [hcons, List.intercalate] using hhead
    simp [hcons, hc] at hslash

/-- A path of proper segments is read back from its text. -/
theorem ofText_toText {path : Path} (h : Proper path.segments) : ofText path.toText = path := by
  obtain ⟨rooted, segments⟩ := path
  have hsteps : steps ("/".intercalate segments) = segments := steps_intercalate h
  cases rooted with
  | false =>
    have hhead : (("/".intercalate segments).toList.head? == some '/') = false := by
      simpa using head?_intercalate h
    simp only [ofText, toText, Bool.false_eq_true, if_false, String.empty_append, hsteps, hhead]
  | true =>
    have hroot : steps ("/" ++ "/".intercalate segments) = segments := by
      have hslash := steps_append "" ("/".intercalate segments)
      rw [String.empty_append, hsteps] at hslash
      exact hslash
    simp [ofText, toText, hroot]

-- ---------------------------------------------------------------------------
-- Paths behind paths
-- ---------------------------------------------------------------------------

/-- A path that is not rooted, behind another one. A slash comes between the two unless one stands
there, or nothing does. -/
def join (root more : String) : String :=
  if root = "" ∨ root.toList.getLast? = some '/' then root ++ more else root ++ "/" ++ more

theorem steps_join (root more : String) : steps (join root more) = steps root ++ steps more := by
  unfold join
  split
  · rename_i hend
    rcases hend with rfl | hlast
    · simp
    · obtain ⟨front, hfront⟩ := List.getLast?_eq_some_iff.mp hlast
      have hroot : root = String.ofList front ++ "/" ++ "" := by
        rw [← String.toList_inj]
        simp [hfront]
      rw [hroot, steps_append, String.append_empty, steps_append, steps_empty, List.append_nil]
  · exact steps_append root more

theorem rooted_join {root more : String} (hmore : more.toList.head? ≠ some '/') :
    (ofText (join root more)).rooted = (ofText root).rooted := by
  unfold join ofText
  by_cases hroot : root = ""
  · simp [hroot, hmore]
  · obtain ⟨c, rest, hcons⟩ := List.exists_cons_of_ne_nil (mt String.toList_eq_nil_iff.mp hroot)
    split <;> simp [hcons]

theorem ofText_join {root more : String} (hmore : more.toList.head? ≠ some '/') :
    ofText (join root more) = (ofText root).append (steps more) := by
  have hrooted : (ofText (join root more)).rooted = (ofText root).rooted := rooted_join hmore
  have hsteps := steps_join root more
  simp only [ofText, append] at hrooted ⊢
  rw [hrooted, hsteps]

-- ---------------------------------------------------------------------------
-- Routes
-- ---------------------------------------------------------------------------

/-- The names that a text leads to from the root of a file system, above which there is nothing:
a step up from there leads nowhere. -/
def namesFromRoot (text : String) : List String :=
  (steps text).foldl
    (fun names segment => if segment = ".." then names.dropLast else names ++ [segment]) []

/-- Where segments lead: how many directories up, and the names to follow from there. -/
structure Route where
  ups : Nat
  names : List String
  deriving DecidableEq, Repr

namespace Route

/-- One segment further: `..` takes back the last name, and leads up where there is none. -/
def follow (route : Route) (segment : String) : Route :=
  if segment = ".." then
    if route.names = [] then { route with ups := route.ups + 1 }
    else { route with names := route.names.dropLast }
  else { route with names := route.names ++ [segment] }

/-- Where segments lead from where one stands. -/
def ofSegments (segments : List String) : Route :=
  segments.foldl follow ⟨0, []⟩

/-- Where a text leads as a path. -/
def ofText (text : String) : Route :=
  ofSegments (steps text)

/-- The segments that lead somewhere without a detour. -/
def toSegments (route : Route) : List String :=
  List.replicate route.ups ".." ++ route.names

/-- A route with at most one step up: two of them take each other back. -/
def paired (route : Route) : Route :=
  { route with ups := route.ups % 2 }

variable {route : Route}

theorem follow_up (h : route.names = []) :
    route.follow ".." = { route with ups := route.ups + 1 } := by
  simp [follow, h]

theorem follow_back (h : route.names ≠ []) :
    route.follow ".." = { route with names := route.names.dropLast } := by
  simp [follow, h]

theorem follow_name {segment : String} (h : segment ≠ "..") :
    route.follow segment = { route with names := route.names ++ [segment] } := by
  simp [follow, h]

theorem mem_names_follow {segment name : String} (h : name ∈ (route.follow segment).names) :
    name ∈ route.names ∨ name = segment ∧ name ≠ ".." := by
  by_cases hup : segment = ".."
  · subst hup
    by_cases hnil : route.names = []
    · rw [follow_up hnil] at h
      exact .inl h
    · rw [follow_back hnil] at h
      exact .inl ((List.dropLast_sublist _).subset h)
  · rw [follow_name hup] at h
    rcases List.mem_append.mp h with hold | hnew
    · exact .inl hold
    · obtain rfl := List.mem_singleton.mp hnew
      exact .inr ⟨rfl, hup⟩

theorem mem_names_foldl {segments : List String} {name : String}
    (h : name ∈ (segments.foldl follow route).names) :
    name ∈ route.names ∨ name ∈ segments ∧ name ≠ ".." := by
  induction segments generalizing route with
  | nil => exact .inl h
  | cons segment segments ih =>
    rcases ih h with hfirst | ⟨hmore, hname⟩
    · rcases mem_names_follow hfirst with hold | ⟨rfl, hname⟩
      · exact .inl hold
      · exact .inr ⟨List.mem_cons_self, hname⟩
    · exact .inr ⟨List.mem_cons_of_mem segment hmore, hname⟩

/-- The names that segments lead to are among them, and no step up is. -/
theorem names_ofSegments {segments : List String} {name : String}
    (h : name ∈ (ofSegments segments).names) : name ∈ segments ∧ name ≠ ".." := by
  simpa using mem_names_foldl h

theorem foldl_names {names : List String} (h : ∀ name ∈ names, name ≠ "..") :
    names.foldl follow route = { route with names := route.names ++ names } := by
  induction names generalizing route with
  | nil => simp
  | cons name names ih =>
    rw [List.foldl_cons, follow_name (h name List.mem_cons_self),
      ih fun other hother => h other (List.mem_cons_of_mem name hother)]
    simp

theorem foldl_ups (ups more : Nat) :
    (List.replicate more "..").foldl follow ⟨ups, []⟩ = ⟨ups + more, []⟩ := by
  induction more generalizing ups with
  | zero => rfl
  | succ more ih =>
    rw [List.replicate_succ, List.foldl_cons, follow_up rfl, ih]
    simp only [Route.mk.injEq, and_true]
    omega

theorem ofSegments_toSegments (h : ∀ name ∈ route.names, name ≠ "..") :
    ofSegments route.toSegments = route := by
  rw [ofSegments, toSegments, List.foldl_append, foldl_ups, foldl_names h]
  simp

theorem ups_paired (route : Route) : route.paired.ups < 2 :=
  Nat.mod_lt route.ups (by omega)

theorem paired_eq_self (h : route.ups < 2) : route.paired = route := by
  rw [paired, Nat.mod_eq_of_lt h]

@[simp] theorem paired_paired (route : Route) : route.paired.paired = route.paired :=
  paired_eq_self route.ups_paired

/-- From the root, a step leads where it does for the names. -/
theorem names_follow (route : Route) (segment : String) : (route.follow segment).names =
    if segment = ".." then route.names.dropLast else route.names ++ [segment] := by
  by_cases hup : segment = ".."
  · subst hup
    by_cases hnil : route.names = []
    · simp [follow_up hnil, hnil]
    · simp [follow_back hnil]
  · simp [follow_name hup, hup]

theorem namesFromRoot_eq (text : String) : namesFromRoot text = (ofText text).names := by
  unfold namesFromRoot ofText ofSegments
  change (steps text).foldl _ (names ⟨0, []⟩) = names ((steps text).foldl follow ⟨0, []⟩)
  exact List.foldl_hom names fun route segment => (names_follow route segment).symm

-- ---------------------------------------------------------------------------
-- Normalisation
-- ---------------------------------------------------------------------------

theorem toSegments_name (route : Route) (name : String) :
    (paired { route with names := route.names ++ [name] }).toSegments.reverse =
      name :: route.paired.toSegments.reverse := by
  simp [toSegments, paired]

/-- A step of normalisation on what is kept in reverse: a step up takes back whatever was kept last,
also another step up. -/
theorem walk_paired (route : Route) (segment : String) :
    walk route.paired.toSegments.reverse segment =
      (route.follow segment).paired.toSegments.reverse := by
  by_cases hup : segment = ".."
  · subst hup
    obtain ⟨ups, names⟩ := route
    rcases List.eq_nil_or_concat names with rfl | ⟨front, last, rfl⟩
    · rw [follow_up rfl]
      -- a first step up is kept, a second one takes it back
      rcases Nat.mod_two_eq_zero_or_one ups with heven | hodd
      · have hnext : (ups + 1) % 2 = 1 := by omega
        simp [paired, toSegments, heven, hnext, walk]
      · have hnext : (ups + 1) % 2 = 0 := by omega
        simp [paired, toSegments, hodd, hnext, walk]
    · rw [follow_back (by simp), List.concat_eq_append, List.dropLast_concat]
      exact congrArg (walk · "..") (toSegments_name ⟨ups, front⟩ last)
  · rw [follow_name hup, toSegments_name]
    simp [walk, hup]

theorem foldl_walk (route : Route) (segments : List String) :
    segments.foldl walk route.paired.toSegments.reverse =
      (segments.foldl follow route).paired.toSegments.reverse := by
  induction segments generalizing route with
  | nil => rfl
  | cons segment segments ih => rw [List.foldl_cons, walk_paired, ih, List.foldl_cons]

end Route

theorem segments_normalize (path : Path) :
    path.normalize.segments = (Route.ofSegments path.segments).paired.toSegments := by
  have hwalk : path.segments.foldl walk [] =
      (Route.ofSegments path.segments).paired.toSegments.reverse :=
    Route.foldl_walk ⟨0, []⟩ path.segments
  rw [normalize, hwalk, List.reverse_reverse]

theorem normalize_eq (path : Path) : path.normalize =
    ⟨path.rooted, (Route.ofSegments path.segments).paired.toSegments⟩ :=
  congrArg (Path.mk path.rooted) (segments_normalize path)

theorem Proper.normalize {path : Path} (h : Proper path.segments) :
    Proper path.normalize.segments := by
  intro segment hsegment
  rw [segments_normalize] at hsegment
  rcases List.mem_append.mp hsegment with hup | hname
  · obtain rfl := List.eq_of_mem_replicate hup
    decide
  · exact h segment (Route.names_ofSegments hname).1

/-- Of the steps up that a path starts with, normalisation keeps none or one. -/
theorem ofSegments_normalize (path : Path) : Route.ofSegments path.normalize.segments =
    (Route.ofSegments path.segments).paired := by
  rw [segments_normalize]
  exact Route.ofSegments_toSegments fun name hname => (Route.names_ofSegments hname).2

end PagePrelude.Path
