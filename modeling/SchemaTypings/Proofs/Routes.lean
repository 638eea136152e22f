import SchemaTypings.SchemaPath

/-! Where a route leads. It climbs once for each directory of the file that it starts from, so
it comes to the top whatever these are called, never higher, and goes down to the dependency
from there. -/
namespace SchemaTypings.SchemaPath

def segments (path : String) : List String := (path.toList.splitOn '/').map String.ofList

theorem segments_ne_nil (path : String) : segments path ≠ [] := by
  unfold segments
  simp [List.splitOn_ne_nil]

def directory (path : String) : List String := (segments path).dropLast

def lastSegment (path : String) : String := (segments path).getLast (segments_ne_nil path)

/-- The directory that a segment leads to. There is none above the top. -/
def enter (directory : List String) (segment : String) : Option (List String) :=
  if segment = ".." then if directory = [] then none else some directory.dropLast
  else if segment = "." then some directory
  else some (directory ++ [segment])

def follow (directory : List String) (path : String) : Option (List String) :=
  (segments path).foldlM enter directory

theorem toList_below (above below : String) :
    (above ++ "/" ++ below).toList = above.toList ++ '/' :: below.toList := by
  have slash : "/".toList = ['/'] := by decide
  rw [String.toList_append, String.toList_append, slash, List.append_assoc, List.singleton_append]

theorem last_slash (path : String) : '/' ∉ path.toList ∨
    ∃ above last : String, path = above ++ "/" ++ last ∧ '/' ∉ last.toList := by
  rcases Text.exists_last '/' path.toList with single | ⟨above, last, split, single⟩
  · exact .inl single
  · refine .inr ⟨.ofList above, .ofList last, String.toList_inj.mp ?_, by simpa using single⟩
    rw [toList_below, String.toList_ofList, String.toList_ofList, split]

theorem segments_append (above below : String) :
    segments (above ++ "/" ++ below) = segments above ++ segments below := by
  unfold segments
  rw [toList_below, List.splitOn_append_cons_self, List.map_append]

theorem segments_of_not_mem {name : String} (single : '/' ∉ name.toList) :
    segments name = [name] := by
  rw [segments, List.splitOn_eq_singleton single, List.map_singleton, String.ofList_toList]

theorem length_directory (path : String) : (directory path).length = path.toList.count '/' := by
  unfold directory segments
  rw [List.length_dropLast, List.length_map]
  generalize path.toList = text
  have length : (text.splitOn '/').length = text.count '/' + 1 := by
    induction text with
    | nil => rfl
    | cons c text ih =>
      rw [List.splitOn_cons_eq_if_modifyHead, List.count_cons]
      split
      next => rw [List.length_cons, ih]
      next => rw [List.length_modifyHead, ih]
  rw [length, Nat.add_sub_cancel]

theorem stem_append (above : String) {name : String} :
    stem (above ++ "/" ++ name) = above ++ "/" ++ stem name := by
  have none : '/' ∉ ".proto".toList := by decide
  apply String.toList_injective
  unfold stem
  rw [toList_below, toList_below, Text.withoutEnding_behind above.toList none]
  simp only [String.toList_ofList]

theorem slash_not_mem_stem {name : String} (single : '/' ∉ name.toList) :
    '/' ∉ (stem name ++ "_pb").toList := by
  have ending : '/' ∉ "_pb".toList := by decide
  rw [String.toList_append, List.mem_append, stem, String.toList_ofList]
  rintro (inside | last)
  · exact single ((Text.withoutEnding_sublist _ _).subset inside)
  · exact ending last

/-- The module of a file is in the directory of the file. -/
theorem segments_module (path : String) :
    segments (stem path ++ "_pb") = directory path ++ [stem (lastSegment path) ++ "_pb"] := by
  unfold directory lastSegment
  rcases last_slash path with single | ⟨above, last, rfl, single⟩
  · simp only [segments_of_not_mem single, segments_of_not_mem (slash_not_mem_stem single)]
    rfl
  · have parts : segments (above ++ "/" ++ last) = segments above ++ [last] := by
      rw [segments_append, segments_of_not_mem single]
    simp only [parts, List.dropLast_concat, List.getLast_concat]
    rw [stem_append, String.append_assoc, segments_append,
      segments_of_not_mem (slash_not_mem_stem single)]

theorem foldlM_climbs {directory : List String} {depth : Nat} (top : directory.length = depth) :
    (List.replicate depth "..").foldlM enter directory = some [] := by
  induction depth generalizing directory with
  | zero => rw [List.length_eq_zero_iff.mp top]; rfl
  | succ depth ih =>
    have filled : directory ≠ [] := by
      rintro rfl
      cases top
    have above : directory.dropLast.length = depth := by
      rw [List.length_dropLast, top, Nat.add_sub_cancel]
    rw [List.replicate_succ, List.foldlM_cons, enter, if_pos rfl, if_neg filled]
    exact ih above

theorem foldlM_descends (directory : List String) {below : List String}
    (plain : ∀ segment ∈ below, segment ≠ "." ∧ segment ≠ "..") :
    below.foldlM enter directory = some (directory ++ below) := by
  induction below generalizing directory with
  | nil => rw [List.append_nil]; rfl
  | cons segment below ih =>
    obtain ⟨first, others⟩ := List.forall_mem_cons.mp plain
    rw [List.foldlM_cons, enter, if_neg first.2, if_neg first.1]
    exact (ih _ others).trans (by rw [List.append_assoc, List.singleton_append])

theorem segments_climbs (depth : Nat) (below : String) :
    segments (.join (.replicate depth "../") ++ below) =
      List.replicate depth ".." ++ segments below := by
  induction depth with
  | zero => simp
  | succ depth ih =>
    have up : "../" = ".." ++ "/" := by decide
    have climb : segments ".." = [".."] := segments_of_not_mem (by decide)
    rw [List.replicate_succ, String.join_cons, String.append_assoc, up, segments_append, climb,
      ← up, ih]
    rfl

/-- The way up of a route ends at the top. -/
theorem follow_ascent (current below : String) :
    follow (directory current) (ascent current ++ below) = (segments below).foldlM enter [] := by
  have top := length_directory current
  unfold follow ascent
  split
  next none =>
    have start : directory current = [] := List.length_eq_zero_iff.mp (top.trans none)
    have stay : segments "." = ["."] := segments_of_not_mem (by decide)
    have here : "./" = "." ++ "/" := by decide
    rw [start, here, segments_append, stay]
    rfl
  next depth =>
    rw [segments_climbs, List.foldlM_append, foldlM_climbs top]
    rfl

theorem stem_cases (name : String) :
    name = stem name ++ ".proto" ∨ name = stem name ∧ ¬ ".proto".toList <:+ (stem name).toList := by
  by_cases ends : ".proto".toList <:+ name.toList
  · obtain ⟨front, whole⟩ := ends
    have cut : name = .ofList front ++ ".proto" :=
      String.toList_inj.mp (by rw [String.toList_append, String.toList_ofList, whole])
    refine .inl ?_
    rw [stem, ← whole, Text.withoutEnding_append, ← cut]
  · have same : stem name = name := by
      rw [stem, Text.withoutEnding, if_neg (mt List.isSuffixOf_iff_suffix.mp ends),
        String.ofList_toList]
    rw [same]
    exact .inr ⟨rfl, ends⟩

theorem module_plain (name : String) : name ++ "_pb" ≠ "." ∧ name ++ "_pb" ≠ ".." := by
  have last : (name ++ "_pb").toList.getLast? = some 'b' := by
    rw [String.toList_append, List.getLast?_append]
    rfl
  constructor
  · intro stays
    rw [stays] at last
    exact absurd last (by decide)
  · intro climbs
    rw [climbs] at last
    exact absurd last (by decide)

/-- A route can be followed from the directory of the file that it starts from, and leads to
the module of the dependency, which is where the dependency is. -/
theorem follow_route (current : String) {dependency : String}
    (plain : ∀ segment ∈ segments dependency, segment ≠ "." ∧ segment ≠ "..") :
    ∃ name, (lastSegment dependency = name ++ ".proto" ∨
        lastSegment dependency = name ∧ ¬ ".proto".toList <:+ name.toList) ∧
      follow (directory current) (route current dependency) =
        some (directory dependency ++ [name ++ "_pb"]) := by
  refine ⟨stem (lastSegment dependency), stem_cases _, ?_⟩
  rw [route, String.append_assoc, follow_ascent, segments_module, foldlM_descends]
  · rfl
  · intro segment member
    rcases List.mem_append.mp member with above | last
    · exact plain segment (List.dropLast_subset _ above)
    · rw [List.mem_singleton.mp last]
      exact module_plain _

/-- Two steps up and two down, into a directory with a dot in its name. -/
theorem follow_to_types :
    (∀ segment ∈ segments "b/v1.types/dep.proto", segment ≠ "." ∧ segment ≠ "..") ∧
      follow ["a", "b"] (route "a/b/main.proto" "b/v1.types/dep.proto") =
        some ["b", "v1.types", "dep_pb"] := by
  have plain : ∀ segment ∈ segments "b/v1.types/dep.proto",
      segment ≠ "." ∧ segment ≠ ".." := by decide +kernel
  have start : directory "a/b/main.proto" = ["a", "b"] := by decide +kernel
  have above : directory "b/v1.types/dep.proto" = ["b", "v1.types"] := by decide +kernel
  have last : lastSegment "b/v1.types/dep.proto" = "dep" ++ ".proto" := by decide +kernel
  obtain ⟨name, named, leads⟩ := follow_route "a/b/main.proto" plain
  rw [start, above] at leads
  rw [last] at named
  rcases named with cut | ⟨rfl, uncut⟩
  · rw [← (String.append_left_inj _).mp cut] at leads
    exact ⟨plain, leads⟩
  · exact absurd (by decide) uncut

end SchemaTypings.SchemaPath
