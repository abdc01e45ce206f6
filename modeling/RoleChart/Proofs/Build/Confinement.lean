import RoleChart.Proofs.Build.Places
import RoleChart.Proofs.Collisions

/-!
# Output that stays in its directory

The paths of a build have names of the manifest in them, and these may hold slashes, go up, or start at the
root. A file lies inside of every output directory exactly if its name does not start at the root and never
goes up from the output directory.

## Main statements

* `inside_iff_confined` — the file of a name lies inside of every output directory exactly if the name is
  confined
* `outputFiles_inside_iff` — a build stays in every output directory exactly if its names are confined
-/

namespace RoleChart

/-! ## Names that go up -/

/-- Whether names never go up from a place that many names below their start. -/
def staysBelow : Nat → List String → Bool
  | _, [] => true
  | depth, name :: names =>
    if name = ".." then depth != 0 && staysBelow (depth - 1) names else staysBelow (depth + 1) names

namespace Place

/-- Names that never go up from a place lead on from it. -/
theorem through_append_of_staysBelow (base : Place) {above names : List String}
    (h : staysBelow above.length names = true) :
    through (base ++ above) names = base ++ through above names := by
  induction names generalizing above with
  | nil => rfl
  | cons name names ih =>
    rw [staysBelow] at h
    rw [through, through]
    split at h
    · next hup =>
      obtain ⟨hdeep, h⟩ := Bool.and_eq_true_iff.1 h
      have hne : above ≠ [] := by
        rintro rfl
        cases hdeep
      rw [if_pos hup, if_pos hup, List.dropLast_append_of_ne_nil hne]
      exact ih (by rwa [List.length_dropLast])
    · next hdown =>
      rw [if_neg hdown, if_neg hdown, List.append_assoc]
      exact ih (by rwa [List.length_append])

/-- Names that go up from a place below a fresh name lose that name. -/
theorem not_mem_through_of_not_staysBelow {fresh : String} {above names : List String} (hfresh : fresh ∉ names)
    (h : staysBelow above.length names = false) : fresh ∉ through (fresh :: above) names := by
  induction names generalizing above with
  | nil => cases h
  | cons name names ih =>
    rw [List.mem_cons, not_or] at hfresh
    rw [staysBelow] at h
    rw [through]
    split at h
    · next hup =>
      rw [if_pos hup]
      cases above with
      | nil =>
        intro hmem
        rcases mem_or_of_mem_through hmem with hmem | hmem
        · cases hmem
        · exact hfresh.2 hmem
      | cons first rest =>
        refine ih hfresh.2 ?_
        simpa [List.length_dropLast] using h
    · next hdown =>
      rw [if_neg hdown]
      have hdeeper : staysBelow (above ++ [name]).length names = false := by rwa [List.length_append]
      exact ih hfresh.2 hdeeper

end Place

theorem exists_fresh (names : List String) : ∃ fresh, fresh ∉ names ∧ IsPlainName fresh := by
  have hbound : ∃ bound, ∀ name ∈ names, name.toList.length < bound := by
    induction names with
    | nil => exact ⟨0, by simp⟩
    | cons name names ih =>
      obtain ⟨bound, hbound⟩ := ih
      refine ⟨max bound (name.toList.length + 1), List.forall_mem_cons.2 ⟨by omega, fun other hother => ?_⟩⟩
      have := hbound other hother
      omega
  obtain ⟨bound, hbound⟩ := hbound
  refine ⟨String.ofList (List.replicate (bound + 3) 'a'), fun hmem => ?_, by simp, ?_⟩
  · have hshort := hbound _ hmem
    rw [String.toList_ofList, List.length_replicate] at hshort
    omega
  · simp [← String.toList_inj, List.replicate_succ]

/-! ## Names of files -/

/-- The name of a file goes one down. -/
theorem fileName_not_mem (name : String) : name ++ ".yaml" ∉ ["", ".", ".."] := by
  intro hmem
  have hlength : 5 ≤ (name ++ ".yaml").toList.length := by simp
  have hshort : ∀ other ∈ ["", ".", ".."], other.toList.length < 5 := by decide
  exact absurd (hshort _ hmem) (Nat.not_lt_of_le hlength)

/-- The names of a file's path end with the name of a file. -/
theorem pathNames_fileName (name : String) :
    ∃ front last, pathNames (name ++ ".yaml") = front ++ [last ++ ".yaml"] := by
  have hsplit (text : List Char) : ∃ front last, Text.splitOn '/' (text ++ ".yaml".toList)
      = front ++ [last ++ ".yaml".toList] := by
    induction text with
    | nil => exact ⟨[], [], rfl⟩
    | cons c text ih =>
      obtain ⟨front, last, ih⟩ := ih
      rw [List.cons_append, Text.splitOn, ih]
      split
      · exact ⟨[] :: front, last, rfl⟩
      · cases front with
        | nil => exact ⟨[], c :: last, rfl⟩
        | cons first front => exact ⟨(c :: first) :: front, last, rfl⟩
  obtain ⟨front, last, hsplit⟩ := hsplit name.toList
  have hlast : String.ofList (last ++ ".yaml".toList) = String.ofList last ++ ".yaml" := by
    rw [String.ofList_append]
    rfl
  have hname := fileName_not_mem (String.ofList last)
  simp only [List.mem_cons, List.not_mem_nil, or_false, not_or] at hname
  refine ⟨(front.map String.ofList).filter fun name => name != "" && name != ".", String.ofList last, ?_⟩
  simp only [pathNames, String.toList_append, hsplit, List.map_append, List.filter_append, List.map_singleton,
    hlast]
  simp [hname.1, hname.2.1]

/-- Whether the path of a file does not start at the root and never goes up from a directory that many names
above it. -/
def Confined (depth : Nat) (name : String) : Prop :=
  isAbsolute (name ++ ".yaml") = false ∧ staysBelow depth (pathNames (name ++ ".yaml")) = true

instance (depth : Nat) (name : String) : Decidable (Confined depth name) :=
  inferInstanceAs (Decidable (_ ∧ _))

/-- Whether a path below an output directory leads to a place inside of it. -/
def Inside (working : Place) (directory path : String) : Prop :=
  ∃ rest, rest ≠ [] ∧ Place.ofPath working (joinPath directory path) = Place.ofPath working directory ++ rest

/-- The path of a file lies inside of every output directory exactly if its name is confined below the
directories that it goes through. -/
theorem inside_iff_confined {path name : String} {above : List String}
    (hpath : ∀ place, Place.ofPath place path = Place.ofPath (place ++ above) (name ++ ".yaml")) :
    (∀ working directory, Inside working directory path) ↔ Confined above.length name := by
  constructor
  · intro hinside
    by_contra hnot
    -- a directory of a name that the path does not have is only kept by paths that stay below
    obtain ⟨fresh, hfresh, hplain⟩ := exists_fresh (pathNames (name ++ ".yaml"))
    obtain ⟨rest, -, hrest⟩ := hinside [] fresh
    have hmem : fresh ∈ Place.ofPath ([fresh] ++ above) (name ++ ".yaml") := by
      rw [← hpath, ← List.nil_append [fresh], ← Place.ofPath_of_isPlainName [] hplain,
        ← Place.ofPath_joinPath, hrest, Place.ofPath_of_isPlainName [] hplain]
      simp
    unfold Place.ofPath at hmem
    cases habsolute : isAbsolute (name ++ ".yaml") with
    | true =>
      rw [habsolute, if_pos rfl] at hmem
      rcases Place.mem_or_of_mem_through hmem with hmem | hmem
      · cases hmem
      · exact hfresh hmem
    | false =>
      rw [habsolute, if_neg Bool.false_ne_true] at hmem
      refine Place.not_mem_through_of_not_staysBelow hfresh (Bool.eq_false_iff.2 fun hstays => ?_) hmem
      exact hnot ⟨habsolute, hstays⟩
  · rintro ⟨habsolute, hstays⟩ working directory
    refine ⟨Place.through above (pathNames (name ++ ".yaml")), ?_, ?_⟩
    · obtain ⟨front, last, hnames⟩ := pathNames_fileName name
      have hlast : last ++ ".yaml" ≠ ".." := fun h => fileName_not_mem last (by simp [h])
      rw [hnames, Place.through_append, Place.through, if_neg hlast]
      simp [Place.through]
    · rw [Place.ofPath_joinPath, hpath, Place.ofPath, habsolute, if_neg Bool.false_ne_true]
      exact Place.through_append_of_staysBelow _ hstays

/-! ## Builds -/

variable {m : Manifest} {s : Settings}

/-- The directories between the output directory and a file of resources. -/
def Settings.above (s : Settings) (directory : String) : List String :=
  (if s.chart then ["templates"] else []) ++ [directory]

/-- How many directories these are. -/
def Settings.depth (s : Settings) : Nat := if s.chart then 2 else 1

theorem Workload.isPlainName_directory (workload : Workload) : IsPlainName workload.directory := by
  cases workload <;> decide

theorem isPlainName_of_mem_resourceNames {name : String × String} (h : name ∈ resourceNames m s) :
    IsPlainName name.1 := by
  simp only [resourceNames, List.mem_append, List.mem_filterMap, List.mem_cons, List.mem_map,
    List.not_mem_nil, or_false] at h
  rcases h with (⟨g, -, hg⟩ | rfl | rfl) | ⟨file, -, rfl⟩
  · obtain ⟨workload, -, rfl⟩ := Option.map_eq_some_iff.1 hg
    exact workload.isPlainName_directory
  · decide
  · decide
  · exact (by decide : IsPlainName "auth")

/-- A file of resources goes through the directories above it. -/
theorem ofPath_resource {directory : String} (hdirectory : IsPlainName directory) (place : Place)
    (file : String) :
    Place.ofPath place (joinPath s.root (joinPath directory file))
      = Place.ofPath (place ++ s.above directory) file := by
  have hroot : Place.ofPath place s.root = place ++ if s.chart then ["templates"] else [] := by
    unfold Settings.root
    split
    · exact Place.ofPath_of_isPlainName place (by decide)
    · simp [Place.ofPath, Place.through, isAbsolute]
  rw [Place.ofPath_joinPath, Place.ofPath_joinPath, hroot, Place.ofPath_of_isPlainName _ hdirectory,
    List.append_assoc]
  rfl

theorem inside_values (working : Place) (directory : String) : Inside working directory "values.yaml" := by
  have hplain : IsPlainName "values.yaml" := by decide
  exact ⟨["values.yaml"], by simp, by
    rw [Place.ofPath_joinPath, Place.ofPath_of_isPlainName _ hplain]⟩

theorem Settings.length_above (s : Settings) (directory : String) : (s.above directory).length = s.depth := by
  unfold above depth
  split <;> rfl

/-- The file of a name lies inside of every output directory exactly if the name is confined. -/
theorem inside_resource_iff {name : String × String} (hname : name ∈ resourceNames m s) :
    (∀ working directory, Inside working directory
      (joinPath s.root (joinPath name.1 (name.2 ++ ".yaml")))) ↔ Confined s.depth name.2 := by
  rw [← s.length_above name.1]
  exact inside_iff_confined fun place => ofPath_resource (isPlainName_of_mem_resourceNames hname) place _

/-- A build stays in every output directory exactly if the names of all of its files are confined. -/
theorem inside_outputPaths_iff : (∀ working directory, ∀ path ∈ outputPaths m s, Inside working directory path) ↔
    ∀ name ∈ resourceNames m s, Confined s.depth name.2 := by
  constructor
  · intro hinside name hname
    refine (inside_resource_iff hname).1 fun working directory => hinside working directory _ ?_
    exact List.mem_append_left _ (List.mem_map_of_mem hname)
  · intro hconfined working directory
    refine List.forall_mem_append.2 ⟨List.forall_mem_map.2 fun name hname => ?_, ?_⟩
    · exact (inside_resource_iff hname).2 (hconfined name hname) working directory
    · split
      · simpa using inside_values working directory
      · simp

/-- Of the names of files, those of groups with a workload and of authorization objects are free. -/
theorem confined_resourceNames_iff : (∀ name ∈ resourceNames m s, Confined s.depth name.2) ↔
    (∀ g ∈ m.groups, g.workload? ≠ none → Confined s.depth g.name) ∧
      ∀ file ∈ Access.authFiles s m.authorization, Confined s.depth file.name := by
  have hfixed : Confined s.depth "secret" ∧ Confined s.depth registryCredentialsName := by
    unfold Settings.depth
    split <;> decide
  simp only [resourceNames, List.forall_mem_append, List.forall_mem_map, List.forall_mem_cons]
  constructor
  · rintro ⟨⟨hgroups, -⟩, hauth⟩
    refine ⟨fun g hg hw => ?_, hauth⟩
    obtain ⟨workload, hworkload⟩ := Option.ne_none_iff_exists'.1 hw
    have hname : g.fileName? = some (workload.directory, g.name) := by
      rw [Group.fileName?, hworkload]
      rfl
    exact hgroups (workload.directory, g.name) (List.mem_filterMap.2 ⟨g, hg, hname⟩)
  · rintro ⟨hgroups, hauth⟩
    refine ⟨⟨fun name hname => ?_, hfixed.1, hfixed.2, by simp⟩, hauth⟩
    obtain ⟨g, hg, hfile⟩ := List.mem_filterMap.1 hname
    obtain ⟨workload, hworkload, rfl⟩ := Option.map_eq_some_iff.1 hfile
    exact hgroups g hg (by simp [hworkload])

/-- A build stays in every output directory exactly if the names of its groups and of its authorization objects
neither start at the root nor go up from the output directory. -/
theorem outputFiles_inside_iff {out : List OutputFile} (h : outputFiles m s = .ok out) :
    (∀ working directory, ∀ file ∈ out, Inside working directory file.path) ↔
      (∀ g ∈ m.groups, g.workload? ≠ none → Confined s.depth g.name) ∧
        ∀ file ∈ Access.authFiles s m.authorization, Confined s.depth file.name := by
  have hpaths (working : Place) (directory : String) : (∀ file ∈ out, Inside working directory file.path) ↔
      ∀ path ∈ outputPaths m s, Inside working directory path := by
    rw [← paths_outputFiles h, List.forall_mem_map]
  calc (∀ working directory, ∀ file ∈ out, Inside working directory file.path)
      ↔ ∀ working directory, ∀ path ∈ outputPaths m s, Inside working directory path := by simp only [hpaths]
    _ ↔ ∀ name ∈ resourceNames m s, Confined s.depth name.2 := inside_outputPaths_iff
    _ ↔ _ := confined_resourceNames_iff

/-- A service whose file goes up from where it belongs, past the output directory. -/
def escapedManifest : Manifest := { groups := [{ name := "../../escaped" }] }

theorem outputFiles_inside_escaped :
    ∃ out, outputFiles escapedManifest {} = .ok out ∧
      ¬ ∀ working directory, ∀ file ∈ out, Inside working directory file.path := by
  have hbare : ∀ g ∈ escapedManifest.groups, g.Bare := by
    rw [escapedManifest, List.forall_mem_singleton]
    exact Group.bare_named _
  obtain ⟨out, hout⟩ := exists_outputFiles_of_bare (s := {}) hbare ⟨_, rfl⟩ ⟨by decide, nofun⟩
  refine ⟨out, hout, fun hinside => ?_⟩
  have hconfined := ((outputFiles_inside_iff hout).1 hinside).1 _ List.mem_cons_self (by decide)
  exact absurd hconfined (by decide)

end RoleChart
