import RoleChart.Files
import RoleChart.Proofs.Building

/-!
# Which files a build makes

The paths of all files of a build follow from the names in the manifest and from the settings. What the
files hold has no part in them.

## Main statements

* `names_resourceFiles` — the directory and name of every file of resources
* `paths_outputFiles` — the path of every file of a build
-/

namespace RoleChart

open RoleChart.Built

variable {m : Manifest} {s : Settings} {g : Group}

/-- The directory and name of the file of a group, unless it has no workload of its own. -/
def Group.fileName? (g : Group) : Option (String × String) :=
  g.workload?.map fun workload => (workload.directory, g.name)

/-- The directory and name of each file of resources, in the order of the files. -/
def resourceNames (m : Manifest) (s : Settings) : List (String × String) :=
  m.groups.filterMap Group.fileName?
    ++ [("secrets", "secret"), ("secrets", registryCredentialsName)]
    ++ (Access.authFiles s m.authorization).map fun file => ("auth", file.name)

/-- The directory of the resources in the output directory: a chart keeps them apart from its values. -/
def Settings.root (s : Settings) : String := if s.chart then "templates" else ""

/-- The paths of all files of a build, in the order of the files. -/
def outputPaths (m : Manifest) (s : Settings) : List String :=
  (resourceNames m s).map (fun name => joinPath s.root (joinPath name.1 (name.2 ++ ".yaml")))
    ++ if s.chart then ["values.yaml"] else []

/-- A group has resources for its workload. -/
theorem Group.workload_resources {found : Option GroupResources} (h : g.resources m s = .ok found) :
    found.map GroupResources.workload = g.workload? := by
  unfold resources at h
  split at h
  · next hw =>
    obtain rfl := Except.ok.inj h
    exact hw.symm
  · next hw =>
    obtain ⟨r, hr, rfl⟩ := map_eq_ok_iff.1 h
    obtain ⟨template, -, hr⟩ := bind_eq_ok_iff.1 hr
    obtain ⟨services, -, hr⟩ := bind_eq_ok_iff.1 hr
    obtain rfl := pure_eq_ok_iff.1 hr
    exact hw.symm
  · next hw =>
    obtain ⟨r, hr, rfl⟩ := map_eq_ok_iff.1 h
    obtain ⟨template, -, hr⟩ := bind_eq_ok_iff.1 hr
    obtain ⟨services, -, hr⟩ := bind_eq_ok_iff.1 hr
    obtain rfl := pure_eq_ok_iff.1 hr
    exact hw.symm
  · next hw =>
    obtain ⟨r, hr, rfl⟩ := map_eq_ok_iff.1 h
    obtain ⟨policy, -, hr⟩ := bind_eq_ok_iff.1 hr
    obtain ⟨template, -, hr⟩ := bind_eq_ok_iff.1 hr
    obtain ⟨restarting, -, hr⟩ := bind_eq_ok_iff.1 hr
    obtain rfl := pure_eq_ok_iff.1 hr
    exact hw.symm

theorem names_groupFiles {files : List ResourceFile} (h : groupFiles m s = .ok files) :
    files.map (fun file => (file.directory, file.name)) = m.groups.filterMap Group.fileName? := by
  obtain ⟨found, hfound, h⟩ := bind_eq_ok_iff.1 h
  obtain rfl := pure_eq_ok_iff.1 h
  have hnames : found.map (Option.map fun file => (file.directory, file.name))
      = m.groups.map Group.fileName? := by
    refine map_eq_of_mapM hfound fun g file hg => ?_
    obtain ⟨resources, hresources, hg⟩ := bind_eq_ok_iff.1 hg
    obtain rfl := pure_eq_ok_iff.1 hg
    rw [Group.fileName?, ← Group.workload_resources hresources]
    cases resources <;> rfl
  have hfilter := congrArg (List.filterMap id) hnames
  rw [List.filterMap_map, List.filterMap_map] at hfilter
  rw [List.map_filterMap]
  exact hfilter

/-- Every file of resources is named by the manifest and the settings. -/
theorem names_resourceFiles {files : List ResourceFile} (h : resourceFiles m s = .ok files) :
    files.map (fun file => (file.directory, file.name)) = resourceNames m s := by
  obtain ⟨groups, hgroups, h⟩ := bind_eq_ok_iff.1 h
  obtain ⟨object, -, h⟩ := bind_eq_ok_iff.1 h
  obtain rfl := pure_eq_ok_iff.1 h
  simp [names_groupFiles hgroups, resourceNames]

/-- Every path of a build is known from the manifest and the settings. -/
theorem paths_outputFiles {out : List OutputFile} (h : outputFiles m s = .ok out) :
    out.map (·.path) = outputPaths m s := by
  obtain ⟨files, hfiles, h⟩ := bind_eq_ok_iff.1 h
  have hpaths : files.map (fun file => joinPath s.root file.path)
      = (resourceNames m s).map fun name => joinPath s.root (joinPath name.1 (name.2 ++ ".yaml")) := by
    rw [← names_resourceFiles hfiles, List.map_map]
    rfl
  simp only [Settings.root] at hpaths
  cases hs : s.chart with
  | true =>
    simp only [hs, Bool.not_true, Bool.false_eq_true, if_false, if_true] at h hpaths
    obtain ⟨v, -, h⟩ := bind_eq_ok_iff.1 h
    obtain rfl := pure_eq_ok_iff.1 h
    simp [outputPaths, Settings.root, hs, ← hpaths]
  | false =>
    simp only [hs, Bool.not_false, Bool.false_eq_true, if_false, if_true] at h hpaths
    obtain rfl := pure_eq_ok_iff.1 h
    simp [outputPaths, Settings.root, hs, ← hpaths]

end RoleChart
