import Mathlib.Data.List.Nodup
import RoleChart.Proofs.Build.Confinement
import RoleChart.Proofs.Build.Outcome
import RoleChart.Proofs.Files
import RoleChart.Proofs.Manifest.Order

/-!
# What a build leaves of its files

A build looks for files that are there before it writes, and not again. So two of its own files that go to one
place are both written, and the later one is left.

## Main statements

* `Plan.wrote_of_writeFiles` — behind a run, each place of a file holds the last file that goes there
* `Request.keeps_iff` — a build leaves all of its files exactly if no two of them with different contents go to
  one place
-/

namespace RoleChart

/-! ## Stores that grow -/

namespace Store

variable {s t u : Store} {path content : String}

/-- Whether a store holds all that another one holds. -/
structure Extends (s t : Store) : Prop where
  working : t.working = s.working
  held : ∀ place entry, s.find? place = some entry → t.find? place = some entry

theorem Extends.refl (s : Store) : Extends s s := ⟨rfl, fun _ _ h => h⟩

theorem Extends.trans (h : Extends s t) (h' : Extends t u) : Extends s u :=
  ⟨h'.working.trans h.working, fun place entry hs => h'.held place entry (h.held place entry hs)⟩

theorem extends_makeDirectory (h : s.makeDirectory path = .ok t) : Extends s t := by
  obtain ⟨place, -, hempty, hworking, hfind⟩ := find?_makeDirectory h
  refine ⟨hworking, fun other entry hother => ?_⟩
  rw [hfind, if_neg, hother]
  rintro rfl
  exact nomatch hempty.symm.trans hother

theorem extends_makeMissing (s : Store) (paths : List String) : Extends s (s.makeMissing paths).1 := by
  induction paths with
  | nil => exact .refl s
  | cons path shorter ih =>
    rw [makeMissing]
    split
    · next made hmade => exact extends_makeDirectory hmade
    · split
      · next made e hshorter =>
        rw [hshorter] at ih
        exact ih
      · next made hshorter =>
        rw [hshorter] at ih
        split
        · next again hagain => exact ih.trans (extends_makeDirectory hagain)
        · exact ih
    · exact .refl s

/-! ## Reading and writing -/

theorem read_eq_ok {place : Place} (hlocate : s.locate path = .ok place)
    (hfind : s.find? place = some (.text content)) (hfile : isDirectoryPath path = false) :
    s.read path = .ok content := by
  have hlook : s.look path = .ok (.text content) := by
    unfold look
    simp only [bind, Except.bind, hlocate, hfind, hfile]
    rfl
  unfold read
  simp only [bind, Except.bind, hlook]
  rfl

/-- What a write does: the path leads to a file with the content, and what stands elsewhere stays. -/
structure Writes (s t : Store) (path content : String) : Prop where
  working : t.working = s.working
  located : t.locate path = .ok (Place.ofPath s.working path)
  isFile : isDirectoryPath path = false
  written : t.find? (Place.ofPath s.working path) = some (.text content)
  fresh : s.find? (Place.ofPath s.working path) ≠ some .directory
  held : ∀ place entry, place ≠ Place.ofPath s.working path → s.find? place = some entry →
    t.find? place = some entry

theorem Writes.directories (h : Writes s t path content) (place : Place)
    (hplace : s.find? place = some .directory) : t.find? place = some .directory := by
  refine h.held place _ ?_ hplace
  rintro rfl
  exact h.fresh hplace

theorem isDirectoryPath_of_writeEntry {entry : Entry} (h : s.writeEntry path entry = .ok t) :
    isDirectoryPath path = false := by
  obtain ⟨place, -, h⟩ := Built.bind_eq_ok_iff.1 h
  split at h
  · cases h
  · next hfree => exact Bool.eq_false_iff.2 fun hpath => hfree (.inr hpath)

theorem writes_write (h : s.write path content = .ok t) : Writes s t path content := by
  obtain ⟨place, hlocate, hfree, hworking, hfind⟩ := find?_writeEntry h
  obtain rfl := locate_eq_ok hlocate
  have hheld (other : Place) (entry : Entry) (hother : other ≠ Place.ofPath s.working path)
      (hs : s.find? other = some entry) : t.find? other = some entry := by
    rw [hfind, if_neg hother, hs]
  have hdirectories (other : Place) (hs : s.find? other = some .directory) :
      t.find? other = some .directory := by
    refine hheld other _ ?_ hs
    rintro rfl
    exact hfree hs
  exact ⟨hworking, locate_mono hworking hdirectories hlocate, isDirectoryPath_of_writeEntry h,
    by rw [hfind, if_pos rfl], hfree, hheld⟩

/-- What is there before a write may have grown first. -/
theorem Extends.writes (h : Extends s t) (hwrites : Writes t u path content) : Writes s u path content where
  working := hwrites.working.trans h.working
  located := by rw [← h.working]; exact hwrites.located
  isFile := hwrites.isFile
  written := by rw [← h.working]; exact hwrites.written
  fresh hplace := hwrites.fresh (by rw [h.working]; exact h.held _ _ hplace)
  held place entry hplace hs := hwrites.held place entry (by rwa [h.working]) (h.held place entry hs)

end Store

/-! ## Runs of writes -/

namespace Plan

variable {p : Plan} {s t : Store} {files : List OutputFile} {file : OutputFile}

/-- The place that a file goes to. -/
def place (p : Plan) (s : Store) (file : OutputFile) : Place := Place.ofPath s.working (p.target file)

/-- A file is written into its directory, which is made if it is missing. -/
theorem writes_writeFile (h : p.writeFile s file = (t, .ok ())) :
    Store.Writes s t (p.target file) file.content := by
  have hmade := Store.extends_makeMissing s (ancestors (directoryPart (p.target file)))
  unfold writeFile Store.makeDirectories at h
  split at h
  · cases h
  · next made hdirectory =>
    rw [hdirectory] at hmade
    split at h
    · next written hwritten =>
      cases h
      exact hmade.writes (Store.writes_write hwritten)
    · cases h

/-- Whether a file is the last of some files that goes to the place of another. -/
def LastAt (p : Plan) (s : Store) (files : List OutputFile) (file last : OutputFile) : Prop :=
  ∃ before after, files = before ++ last :: after ∧ p.place s last = p.place s file ∧
    ∀ later ∈ after, p.place s later ≠ p.place s file

/-- What a run of writes does: every file's path leads to its place, which holds the last of the files that go
there, and what stands at other places stays. -/
structure Wrote (p : Plan) (s t : Store) (files : List OutputFile) : Prop where
  working : t.working = s.working
  held : ∀ place entry, (∀ file ∈ files, place ≠ p.place s file) → s.find? place = some entry →
    t.find? place = some entry
  directories : ∀ place, s.find? place = some .directory → t.find? place = some .directory
  written : ∀ file ∈ files, t.locate (p.target file) = .ok (p.place s file) ∧
    isDirectoryPath (p.target file) = false ∧
    ∃ last, p.LastAt s files file last ∧ t.find? (p.place s file) = some (.text last.content)

theorem place_of_working {u : Store} (h : u.working = s.working) : p.place u = p.place s := by
  funext file
  rw [place, place, h]

theorem writeFiles_nil (p : Plan) (s : Store) : p.writeFiles s [] = (s, .ok ()) := rfl

theorem writeFiles_cons (p : Plan) (s : Store) (file : OutputFile) (files : List OutputFile) :
    p.writeFiles s (file :: files) = match p.writeFile s file with
      | (written, .ok ()) => p.writeFiles written files
      | (written, .error e) => (written, .error e) := by
  -- unfolding by equations would evaluate the write of the first file
  delta writeFiles writeFiles._f
  generalize p.writeFile = write
  rfl

theorem LastAt.cons {last : OutputFile} (h : p.LastAt s files file last) (first : OutputFile) :
    p.LastAt s (first :: files) file last := by
  obtain ⟨before, after, hsplit, hlast, hafter⟩ := h
  exact ⟨first :: before, after, by rw [hsplit]; rfl, hlast, hafter⟩

theorem LastAt.of_place_eq {last other : OutputFile} (h : p.LastAt s files file last)
    (hsame : p.place s file = p.place s other) : p.LastAt s files other last := by
  obtain ⟨before, after, hsplit, hlast, hafter⟩ := h
  exact ⟨before, after, hsplit, hlast.trans hsame, hsame ▸ hafter⟩

theorem LastAt.of_working {u : Store} {last : OutputFile} (h : p.LastAt u files file last)
    (hworking : u.working = s.working) : p.LastAt s files file last := by
  rwa [LastAt, place_of_working hworking] at h

theorem wrote_nil (p : Plan) (s : Store) : p.Wrote s s [] :=
  ⟨rfl, fun _ _ _ hs => hs, fun _ hs => hs, fun _ hfile => absurd hfile List.not_mem_nil⟩

/-- A write and a run behind it are a run. -/
theorem Wrote.cons {u : Store} (hwrites : Store.Writes s u (p.target file) file.content)
    (hrest : p.Wrote u t files) : p.Wrote s t (file :: files) := by
  have hplace : p.place u = p.place s := place_of_working hwrites.working
  refine ⟨hrest.working.trans hwrites.working, fun place entry hother hs => ?_,
    fun place hs => hrest.directories place (hwrites.directories place hs),
    List.forall_mem_cons.2 ⟨⟨?_, hwrites.isFile, ?_⟩, fun other hmem => ?_⟩⟩
  · obtain ⟨hfile, hfiles⟩ := List.forall_mem_cons.1 hother
    exact hrest.held place entry (by rwa [hplace]) (hwrites.held place entry hfile hs)
  · exact Store.locate_mono hrest.working hrest.directories hwrites.located
  · -- the first file stays unless a later one goes to its place
    by_cases hagain : ∃ later ∈ files, p.place s later = p.place s file
    · obtain ⟨later, hlater, hsame⟩ := hagain
      obtain ⟨-, -, last, hlast, hfound⟩ := hrest.written later hlater
      rw [hplace, hsame] at hfound
      exact ⟨last, ((hlast.of_working hwrites.working).of_place_eq hsame).cons file, hfound⟩
    · have hnever : ∀ later ∈ files, p.place s later ≠ p.place s file :=
        fun later hlater hsame => hagain ⟨later, hlater, hsame⟩
      refine ⟨file, ⟨[], files, rfl, rfl, hnever⟩, ?_⟩
      exact hrest.held _ _ (by rw [hplace]; exact fun later hlater => (hnever later hlater).symm)
        hwrites.written
  · obtain ⟨hlocate, hfile, last, hlast, hfound⟩ := hrest.written other hmem
    rw [hplace] at hlocate hfound
    exact ⟨hlocate, hfile, last, (hlast.of_working hwrites.working).cons file, hfound⟩

/-- A run that ends without a fault has written all of its files. -/
theorem wrote_of_writeFiles (h : p.writeFiles s files = (t, .ok ())) : p.Wrote s t files := by
  induction files generalizing s with
  | nil =>
    rw [writeFiles_nil] at h
    obtain ⟨rfl, -⟩ := Prod.mk.inj h
    exact p.wrote_nil s
  | cons file files ih =>
    rw [writeFiles_cons] at h
    split at h
    · next first hfirst => exact (ih h).cons (writes_writeFile hfirst)
    · cases h

/-- Whether a store holds every file of a plan as the plan has it. -/
def Kept (p : Plan) (t : Store) : Prop := ∀ file ∈ p.files, t.read (p.target file) = .ok file.content

/-- Whether files of a plan that go to one place have one content. -/
def Agrees (p : Plan) (s : Store) : Prop :=
  p.files.Pairwise fun a b => p.place s a = p.place s b → a.content = b.content

instance (p : Plan) (s : Store) : Decidable (p.Agrees s) := inferInstanceAs (Decidable (List.Pairwise _ _))

theorem read_of_wrote (h : p.Wrote s t p.files) (hfile : file ∈ p.files) :
    ∃ last, p.LastAt s p.files file last ∧ t.read (p.target file) = .ok last.content := by
  obtain ⟨hlocate, hpath, last, hlast, hfound⟩ := h.written file hfile
  exact ⟨last, hlast, Store.read_eq_ok hlocate hfound hpath⟩

/-- Every file is kept exactly if files that go to one place agree. -/
theorem kept_iff_agrees (h : p.Wrote s t p.files) : p.Kept t ↔ p.Agrees s := by
  constructor
  · intro hkept
    refine List.pairwise_of_forall_mem_list fun a ha b hb hsame => ?_
    obtain ⟨hlocate, hpath, last, -, hfound⟩ := h.written a ha
    obtain ⟨hlocate', hpath', -⟩ := h.written b hb
    rw [← hsame] at hlocate'
    have hread := (Store.read_eq_ok hlocate hfound hpath).symm.trans (hkept a ha)
    have hread' := (Store.read_eq_ok hlocate' hfound hpath').symm.trans (hkept b hb)
    exact (Except.ok.inj hread).symm.trans (Except.ok.inj hread')
  · intro hagrees file hfile
    obtain ⟨last, ⟨before, after, hsplit, hlast, hafter⟩, hread⟩ := read_of_wrote h hfile
    rw [Agrees, hsplit, List.pairwise_append] at hagrees
    have hsame : file.content = last.content := by
      rw [hsplit, List.mem_append, List.mem_cons] at hfile
      rcases hfile with hfile | rfl | hfile
      · exact hagrees.2.2 file hfile last List.mem_cons_self hlast.symm
      · rfl
      · exact absurd rfl (hafter file hfile)
    rw [hread, hsame]

end Plan

/-! ## Names without slashes -/

variable {m : Manifest} {s : Settings}

/-- Whether no group and no authorization object has a slash in the name of its file. -/
def Manifest.SlashFree (m : Manifest) (s : Settings) : Prop :=
  (∀ g ∈ m.groups, '/' ∉ g.name.toList) ∧
    ∀ file ∈ Access.authFiles s m.authorization, '/' ∉ file.name.toList

/-- The name of an authorization file begins with the kind of its object. -/
theorem names_authFiles (s : Settings) (a : Authorization) : ((Access.authFiles s a).map (·.name)).Sublist
    (a.roles.map ("role-" ++ ·.1) ++ (a.clusterRoles.map ("cluster-role-" ++ ·.1)
      ++ (a.podSecurityPolicies.map ("psp-" ++ ·.1) ++ a.accounts.map ("account-" ++ ·.1)))) := by
  unfold Access.authFiles
  split
  · exact List.nil_sublist _
  · have haccounts := (List.filter_sublist (p := fun file : Access.AuthFile => !file.documents.isEmpty)
      (l := a.accounts.map fun account =>
        Access.AuthFile.mk ("account-" ++ account.1) (Access.accountDocuments s account.1 account.2))).map
          Access.AuthFile.name
    simp only [List.map_append, List.map_map, Function.comp_def, List.append_assoc] at haccounts ⊢
    exact (List.Sublist.refl _).append ((List.Sublist.refl _).append ((List.Sublist.refl _).append haccounts))

/-- Whether names differ and each begins with one of some letters. -/
structure Headed (letters : List Char) (names : List String) : Prop where
  nodup : names.Nodup
  head : ∀ name ∈ names, ∃ c ∈ letters, name.toList.head? = some c

theorem headed_section {α : Type} {front : String} {c : Char} (hc : front.toList.head? = some c)
    {entries : List (String × α)} (h : InOrder entries) : Headed [c] (entries.map (front ++ ·.1)) where
  nodup := by
    have hnames := List.Nodup.map (f := (front ++ ·)) (fun _ _ => (String.append_right_inj front).1) h.nodup
    rwa [List.map_map] at hnames
  head := List.forall_mem_map.2 fun entry _ =>
    ⟨c, List.mem_singleton_self c, by rw [String.toList_append, List.head?_append, hc, Option.some_or]⟩

/-- Names that begin with a letter of their own differ from the others. -/
theorem Headed.append {c : Char} {letters : List Char} {names more : List String} (h : Headed [c] names)
    (h' : Headed letters more) (hnew : c ∉ letters) : Headed (c :: letters) (names ++ more) where
  nodup := by
    refine List.nodup_append.2 ⟨h.nodup, h'.nodup, ?_⟩
    rintro name hname _ hmore rfl
    obtain ⟨_, hc, hhead⟩ := h.head name hname
    obtain ⟨other, hother, hhead'⟩ := h'.head name hmore
    obtain rfl := List.mem_singleton.1 hc
    obtain rfl := Option.some.inj (hhead.symm.trans hhead')
    exact hnew hother
  head := by
    refine List.forall_mem_append.2 ⟨fun name hname => ?_, fun name hmore => ?_⟩
    · obtain ⟨_, hc, hhead⟩ := h.head name hname
      exact ⟨c, List.mem_cons_self, List.mem_singleton.1 hc ▸ hhead⟩
    · obtain ⟨other, hother, hhead⟩ := h'.head name hmore
      exact ⟨other, List.mem_cons_of_mem c hother, hhead⟩

theorem nodup_authFiles {a : Authorization} (h : a.Sorted) (s : Settings) :
    ((Access.authFiles s a).map (·.name)).Nodup := by
  have hroles : Headed ['r'] (a.roles.map ("role-" ++ ·.1)) := headed_section rfl h.roles
  have hclusterRoles : Headed ['c'] (a.clusterRoles.map ("cluster-role-" ++ ·.1)) :=
    headed_section rfl h.clusterRoles
  have hpolicies : Headed ['p'] (a.podSecurityPolicies.map ("psp-" ++ ·.1)) :=
    headed_section rfl h.podSecurityPolicies
  have haccounts : Headed ['a'] (a.accounts.map ("account-" ++ ·.1)) := headed_section rfl h.accounts
  have hnames := hroles.append (hclusterRoles.append (hpolicies.append haccounts (by decide)) (by decide))
    (by decide)
  exact hnames.nodup.sublist (names_authFiles s a)

theorem nodup_resourceNames (hsorted : m.authorization.Sorted)
    (hgroups : (m.groups.filterMap Group.fileName?).Nodup) : (resourceNames m s).Nodup := by
  have hauth : ((Access.authFiles s m.authorization).map fun file => ("auth", file.name)).Nodup := by
    rw [show (Access.authFiles s m.authorization).map (fun file => ("auth", file.name))
      = ((Access.authFiles s m.authorization).map (·.name)).map (Prod.mk "auth") by simp]
    exact List.Nodup.map (fun _ _ h => (Prod.mk.inj h).2) (nodup_authFiles hsorted s)
  have hdirectory : ∀ name ∈ m.groups.filterMap Group.fileName?,
      name.1 ∈ ["deployments", "statefulsets", "jobs"] := by
    intro name hname
    obtain ⟨g, -, hg⟩ := List.mem_filterMap.1 hname
    obtain ⟨workload, -, rfl⟩ := Option.map_eq_some_iff.1 hg
    cases workload <;> simp [Workload.directory]
  have hfixed : [("secrets", "secret"), ("secrets", registryCredentialsName)].Nodup := by decide
  refine List.nodup_append.2 ⟨List.nodup_append.2 ⟨hgroups, hfixed, ?_⟩, hauth, ?_⟩
  · rintro name hname _ hsecret rfl
    have hsecrets : ∀ name ∈ [("secrets", "secret"), ("secrets", registryCredentialsName)],
        name.1 = "secrets" := by decide
    exact absurd (hdirectory name hname) (by rw [hsecrets name hsecret]; decide)
  · rintro name hname _ hauth rfl
    obtain ⟨file, -, rfl⟩ := List.mem_map.1 hauth
    rcases List.mem_append.1 hname with hname | hname
    · exact absurd (hdirectory _ hname) (by simp)
    · simp at hname

/-- The values of a chart tell its groups apart. -/
theorem nodup_groups_of_values {v : Document.Node} (h : Chart.values m s = .ok v) :
    (m.groups.filterMap Group.fileName?).Nodup := by
  obtain ⟨_, _, _, sizes, _, _, _, hsizes, -⟩ := Chart.values_ok h
  obtain ⟨unsorted, hfold, -⟩ := Built.map_eq_ok_iff.1 hsizes
  have hadds := Chart.adds_sizing hfold
  have hnames : (m.groups.map fun g => varName g.name).Nodup := hadds.names_eq ▸ hadds.nodup
  have hsome (groups : List Group) : ((groups.filterMap Group.fileName?).map fun name => varName name.2).Sublist
      (groups.map fun g => varName g.name) := by
    induction groups with
    | nil => exact List.Sublist.slnil
    | cons g groups ih =>
      rw [List.filterMap_cons, List.map_cons, Group.fileName?]
      cases g.workload? with
      | none => exact ih.cons _
      | some workload => exact ih.cons_cons _
  exact (hnames.sublist (hsome m.groups)).of_map

theorem isPlainName_fileName {name : String} (h : '/' ∉ name.toList) : IsPlainName (name ++ ".yaml") := by
  refine ⟨?_, fileName_not_mem name⟩
  have hsuffix : '/' ∉ ".yaml".toList := by decide
  rw [String.toList_append, List.mem_append, not_or]
  exact ⟨h, hsuffix⟩

theorem Manifest.SlashFree.resourceNames (h : m.SlashFree s) :
    ∀ name ∈ resourceNames m s, '/' ∉ name.2.toList := by
  have hfixed : ∀ name ∈ [("secrets", "secret"), ("secrets", registryCredentialsName)],
      '/' ∉ name.2.toList := by decide
  refine List.forall_mem_append.2 ⟨List.forall_mem_append.2 ⟨fun name hname => ?_, hfixed⟩,
    List.forall_mem_map.2 h.2⟩
  obtain ⟨g, hg, hfile⟩ := List.mem_filterMap.1 hname
  obtain ⟨workload, -, rfl⟩ := Option.map_eq_some_iff.1 hfile
  exact h.1 g hg

/-- The places of files without slashes in their names. -/
theorem places_outputFiles {out : List OutputFile} (h : outputFiles m s = .ok out) (hslash : m.SlashFree s)
    (working : Place) (directory : String) :
    out.map (fun file => Place.ofPath working (joinPath directory file.path))
      = (resourceNames m s).map
          (fun name => Place.ofPath working directory ++ s.above name.1 ++ [name.2 ++ ".yaml"])
        ++ if s.chart then [Place.ofPath working directory ++ ["values.yaml"]] else [] := by
  have hresource : ∀ name ∈ resourceNames m s,
      Place.ofPath working (joinPath directory (joinPath s.root (joinPath name.1 (name.2 ++ ".yaml"))))
        = Place.ofPath working directory ++ s.above name.1 ++ [name.2 ++ ".yaml"] := by
    intro name hname
    rw [Place.ofPath_joinPath, ofPath_resource (isPlainName_of_mem_resourceNames hname),
      Place.ofPath_of_isPlainName _ (isPlainName_fileName (hslash.resourceNames name hname))]
  have hvalues : Place.ofPath working (joinPath directory "values.yaml")
      = Place.ofPath working directory ++ ["values.yaml"] := by
    rw [Place.ofPath_joinPath, Place.ofPath_of_isPlainName _ (by decide)]
  have hpaths := congrArg (List.map fun path => Place.ofPath working (joinPath directory path))
    (paths_outputFiles h)
  rw [outputPaths, List.map_append, List.map_map, List.map_map, apply_ite (List.map _), List.map_singleton,
    hvalues, List.map_nil] at hpaths
  simp only [Function.comp_def] at hpaths
  rwa [List.map_congr_left hresource] at hpaths

/-- Files without slashes in their names go to different places. -/
theorem nodup_places {out : List OutputFile} (h : outputFiles m s = .ok out) (hslash : m.SlashFree s)
    (hnames : (resourceNames m s).Nodup) (working : Place) (directory : String) :
    (out.map fun file => Place.ofPath working (joinPath directory file.path)).Nodup := by
  rw [places_outputFiles h hslash]
  refine List.nodup_append.2 ⟨hnames.map_on fun a _ b _ hab => ?_, by split <;> simp, ?_⟩
  · obtain ⟨habove, hfile⟩ := List.append_inj' hab rfl
    have hname : a.2 = b.2 := (String.append_left_inj ".yaml").1 (List.singleton_inj.1 hfile)
    have hdirectory : [a.1] = [b.1] := List.append_cancel_left (List.append_cancel_left habove)
    exact Prod.ext (List.singleton_inj.1 hdirectory) hname
  · -- the values stand right below the output directory
    rintro place hplace other hother rfl
    obtain ⟨name, -, rfl⟩ := List.mem_map.1 hplace
    split at hother
    · have hlength := congrArg List.length (List.mem_singleton.1 hother)
      simp [Settings.above] at hlength
    · cases hother

namespace Request

/-- The files of a plan are made of a manifest that is read and of settings. -/
theorem files_of_plan {r : Request} {read : String → Except FileError String} {home : Option String} {p : Plan}
    (h : r.plan read home = .ok p) :
    ∃ text m settings, read r.manifest = .ok text ∧ Manifest.ofText text = .ok m ∧ settings.chart = r.chart ∧
      outputFiles m settings = .ok p.files := by
  obtain ⟨config, -, h⟩ := Built.bind_eq_ok_iff.1 h
  obtain ⟨text, htext, h⟩ := Built.bind_eq_ok_iff.1 h
  obtain ⟨m, hm, h⟩ := Built.bind_eq_ok_iff.1 h
  obtain ⟨mode, -, h⟩ := Built.bind_eq_ok_iff.1 h
  obtain ⟨defaults, -, h⟩ := Built.bind_eq_ok_iff.1 h
  obtain ⟨files, hfiles, h⟩ := Built.bind_eq_ok_iff.1 h
  cases h
  exact ⟨text, m, _, Built.mapError_eq_ok_iff.1 htext, Built.mapError_eq_ok_iff.1 hm, rfl,
    Built.mapError_eq_ok_iff.1 hfiles⟩

variable {r : Request} {home : Option String} {t : Store} {p : Plan}

theorem wrote_of_build {s : Store} (h : r.build home s = (t, .ok p)) (hdry : r.dryRun = false) :
    r.plan s.read home = .ok p ∧ p.Wrote s t p.files := by
  have houtcome := r.outcome home s
  rw [h] at houtcome
  cases houtcome with
  | shown _ hshown => exact nomatch hdry.symm.trans hshown
  | written hplan _ _ hwrite => exact ⟨hplan, Plan.wrote_of_writeFiles hwrite⟩

/-- Behind a build, every file that was listed can be read, and its place holds the last of the files that go
there. So all of the files are there as they were listed exactly if those that go to one place agree. This is so
where no name has a slash and no two groups of one workload share a name; a chart never has two such groups. -/
theorem keeps_iff {s : Store} (h : r.build home s = (t, .ok p)) (hdry : r.dryRun = false) :
    (∀ file ∈ p.files, ∃ last, p.LastAt s p.files file last ∧ t.read (p.target file) = .ok last.content) ∧
      (p.Kept t ↔ p.Agrees s) ∧
      ∃ text m settings, s.read r.manifest = .ok text ∧ Manifest.ofText text = .ok m ∧
        settings.chart = r.chart ∧ outputFiles m settings = .ok p.files ∧
        (m.SlashFree settings → (r.chart = true ∨ (m.groups.filterMap Group.fileName?).Nodup) → p.Kept t) := by
  obtain ⟨hplan, hwrote⟩ := wrote_of_build h hdry
  obtain ⟨text, m, settings, htext, hm, hchart, hfiles⟩ := files_of_plan hplan
  refine ⟨fun file hfile => Plan.read_of_wrote hwrote hfile, Plan.kept_iff_agrees hwrote, text, m, settings,
    htext, hm, hchart, hfiles, fun hslash hgroups => (Plan.kept_iff_agrees hwrote).2 ?_⟩
  have hdifferent : (m.groups.filterMap Group.fileName?).Nodup := by
    rcases hgroups with hgroups | hgroups
    · obtain ⟨_, v, _, hv⟩ := Chart.outputFiles_ok (hchart.trans hgroups) hfiles
      exact nodup_groups_of_values hv
    · exact hgroups
  have hplaces := nodup_places hfiles hslash (nodup_resourceNames (Manifest.sorted_ofText hm) hdifferent)
    s.working p.directory
  exact (List.pairwise_map.1 hplaces).imp fun hne hsame => absurd hsame hne

/-- A manifest with two roles whose files go to one place. -/
def namedTwice : Store where
  entries := [(["manifest.yaml"],
    .text "configuration:\n  auth:\n    roles:\n      a: []\n      b/../role-a: []\n")]

/-- The file of one of the roles is lost. -/
theorem keeps_namedTwice : ∃ t p, build { manifest := "manifest.yaml" } none namedTwice = (t, .ok p) ∧
    ¬ p.Kept t := by
  have hagrees : (build { manifest := "manifest.yaml" } none namedTwice).2.toOption.map
      (fun p => decide (p.Agrees namedTwice)) = some false := by
    decide +kernel
  cases hbuild : build { manifest := "manifest.yaml" } none namedTwice with
  | mk t result =>
    rw [hbuild] at hagrees
    cases result with
    | error e => cases hagrees
    | ok p =>
      have hdisagrees := of_decide_eq_false (Option.some.inj hagrees)
      exact ⟨t, p, rfl, fun hkept => hdisagrees ((keeps_iff hbuild rfl).2.1.1 hkept)⟩

end Request

end RoleChart
