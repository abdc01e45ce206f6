import RoleChart.Files
import RoleChart.Proofs.Access
import RoleChart.Proofs.Workload.Coverage

/-!
# Charts and their values

The documents of a chart are templates, and the chart comes with a document of values. What a template looks
up has to be there, or the release fails or takes an empty text for it.

## Main statements

* `outputFiles_covered` — the values of a chart have every path that its documents look up and that the
  values must have
-/

namespace RoleChart.Chart

open RoleChart.Document RoleChart.Built
open Template (valuePaths Free)

variable {m : Manifest} {s : Settings} {v : Node}

/-- What the files of a chart are made of. -/
theorem outputFiles_ok (hs : s.chart = true) {out : List OutputFile} (h : outputFiles m s = .ok out) :
    ∃ files v, resourceFiles m s = .ok files ∧ values m s = .ok v := by
  obtain ⟨files, hfiles, h⟩ := bind_eq_ok_iff.1 h
  simp only [hs, Bool.not_true, Bool.false_eq_true, if_false] at h
  obtain ⟨v, hv, -⟩ := bind_eq_ok_iff.1 h
  exact ⟨files, v, hfiles, hv⟩

theorem covered_groupFiles (hs : s.chart = true) (hrepository : Free s.repository.toList) (hm : m.Regular)
    (hv : values m s = .ok v) {files : List ResourceFile} (h : groupFiles m s = .ok files) :
    ∀ file ∈ files, ∀ document ∈ file.documents, Covered v document := by
  obtain ⟨found, hfound, h⟩ := bind_eq_ok_iff.1 h
  obtain rfl := pure_eq_ok_iff.1 h
  intro file hfile
  obtain ⟨_, hmem, rfl⟩ := List.mem_filterMap.1 hfile
  obtain ⟨g, hg, hmade⟩ := exists_of_mem_mapM hfound hmem
  obtain ⟨resources, hresources, hmade⟩ := bind_eq_ok_iff.1 hmade
  obtain ⟨r, rfl, rfl⟩ := Option.map_eq_some_iff.1 (pure_eq_ok_iff.1 hmade)
  exact covered_resources hs hrepository hm hv hg hresources

theorem covered_resourceFiles (hs : s.chart = true) (hrepository : Free s.repository.toList)
    (hm : m.Regular) (hv : values m s = .ok v) {files : List ResourceFile}
    (h : resourceFiles m s = .ok files) :
    ∀ file ∈ files, ∀ document ∈ file.documents, Covered v document := by
  obtain ⟨groups, hgroups, h⟩ := bind_eq_ok_iff.1 h
  obtain ⟨object, hobject, h⟩ := bind_eq_ok_iff.1 h
  obtain rfl := pure_eq_ok_iff.1 h
  intro file hfile document hdocument
  simp only [List.mem_append, List.mem_cons, List.mem_map, List.not_mem_nil, or_false] at hfile
  rcases hfile with (hfile | rfl | rfl) | ⟨access, haccess, rfl⟩
  · exact covered_groupFiles hs hrepository hm hv hgroups file hfile document hdocument
  · rw [List.mem_singleton.1 hdocument]
    exact covered_secret hs hm hv hobject
  · rw [List.mem_singleton.1 hdocument]
    exact covered_registryCredentials hs hv
  · exact covered_authFiles hs hm hv access haccess document hdocument

/-- Whenever the files of a chart are made for a regular manifest, and the repository of the images does not
mention the values either, the document with the values has an entry at every path that it must have and that
stands in a block or scalar of a document. -/
theorem outputFiles_covered (hs : s.chart = true) (hrepository : Free s.repository.toList) (hm : m.Regular)
    {out : List OutputFile} (h : outputFiles m s = .ok out) :
    ∃ files v, resourceFiles m s = .ok files ∧ values m s = .ok v ∧
      ∀ file ∈ files, ∀ document ∈ file.documents,
        ∀ path ∈ lookups document, Promised path = true → Has v path := by
  obtain ⟨files, v, hfiles, hv⟩ := outputFiles_ok hs h
  exact ⟨files, v, hfiles, hv, covered_resourceFiles hs hrepository hm hv hfiles⟩

/-! ## Texts that mention the values -/

/-- A service with a claim, a port that can be counted, and an address that its readiness asks. -/
def storeGroup (url : String) : Group where
  name := "store"
  run := {
    ports := [{ name := "client", internal := .text "4000", countIsConfigurable := true }]
    volumes := [{ kind := .persistent, tag := "data", path := "/data", size := 5 }]
    healthCheck := some { readiness := some { url := some url } } }

/-- A manifest with it. -/
def storeManifest (url : String) : Manifest := { groups := [storeGroup url] }

/-- The settings of a chart whose images are in a repository. -/
def imagesIn (repository : String) : Settings := { chart := true, repository := repository }

/-- Whether the files of a chart are made, and a document looks up a path that the values must have and
lack. -/
def Lacks (m : Manifest) (s : Settings) : Prop :=
  ∃ out files v, outputFiles m s = .ok out ∧ resourceFiles m s = .ok files ∧ values m s = .ok v ∧
    ∃ file ∈ files, ∃ document ∈ file.documents,
      ∃ path ∈ lookups document, Promised path = true ∧ ¬ Has v path

/-- An address that mentions no values. -/
def plainUrl : String := "http://[::]/health"

/-- An address that mentions the values as soon as the tab in it is dropped. -/
def tabbedUrl : String := "http://[::]/.Val\tues.kube.nope"

theorem ofText_plainUrl :
    Url.Locator.ofText plainUrl = .ok (.web false { host := "[::]", path := "/health" }) := rfl

theorem ofText_tabbedUrl :
    Url.Locator.ofText tabbedUrl = .ok (.web false { host := "[::]", path := "/.Values.kube.nope" }) := rfl

theorem regular_store : (storeManifest plainUrl).Regular := by
  have htexts : (storeGroup plainUrl).texts = ["/data", "[::]", "/health"] := rfl
  have hfree : ∀ text ∈ ["/data", "[::]", "/health"], Free text.toList := by decide
  refine ⟨?_, by simp [storeManifest], by simp [storeManifest], by simp [storeManifest, Authorization.texts]⟩
  intro g hg
  obtain rfl := List.mem_singleton.1 hg
  exact ⟨by decide, by decide, by decide, htexts ▸ hfree⟩

variable {url repository : String} {secure : Bool} {address : Url.WebAddress}

theorem probeEntry_store (hurl : Url.Locator.ofText url = .ok (.web secure address)) :
    Pod.probeEntry (storeGroup url) .readiness
      = .ok [("readinessProbe", .entries [("httpGet", .entries (Pod.httpGet secure address []))])] := by
  have haction : Pod.declaredAction? (storeGroup url) .readiness { url := some url }
      = .ok (some ("httpGet", .entries (Pod.httpGet secure address []))) := by
    simp [Pod.declaredAction?, hurl]
  have hdeclared : Pod.declaredProbe (storeGroup url) .readiness = { url := some url } := rfl
  unfold Pod.probeEntry Pod.probe?
  simp only [hdeclared, haction]
  rfl

theorem resources_store (hurl : Url.Locator.ofText url = .ok (.web secure address)) (repository : String) :
    ∃ c r, Pod.container (storeManifest url) (imagesIn repository) (storeGroup url) = .ok c ∧
      (storeGroup url).resources (storeManifest url) (imagesIn repository) = .ok (some r) ∧
      r.containers = [c] := by
  have hc : ∃ c, Pod.container (storeManifest url) (imagesIn repository) (storeGroup url) = .ok c := by
    unfold Pod.container
    rw [Pod.environment_of_no_jobs _ _ rfl, probeEntry_store hurl]
    exact ⟨_, rfl⟩
  obtain ⟨c, hc⟩ := hc
  -- the image is a hash, which nothing here computes: the container stays unknown
  have hcontainers : [storeGroup url].mapM (Pod.container (storeManifest url) (imagesIn repository))
      = .ok [c] := by
    simp only [mapM_cons_eq_ok_iff, mapM_nil_eq_ok_iff]
    exact ⟨c, [], hc, rfl, rfl⟩
  have hcolocated : Pod.colocatedGroups (storeManifest url) (storeGroup url) = .ok [] := rfl
  have hr : ∃ r, (storeGroup url).resources (storeManifest url) (imagesIn repository) = .ok (some r) := by
    have hw : (storeGroup url).workload? = some .statefulSet := rfl
    unfold Group.resources Group.statefulSet Pod.podTemplate Pod.podSpec
    rw [hw, hcolocated]
    simp only [bind, Except.bind, hcontainers]
    exact ⟨_, rfl⟩
  obtain ⟨r, hr⟩ := hr
  obtain ⟨others, containers, hothers, hfound, hsame, -, -⟩ := Group.resources_ok hr
  obtain rfl : [] = others := by simpa [hcolocated] using hothers
  obtain rfl : [c] = containers := by simpa [hcontainers] using hfound
  exact ⟨c, r, hc, hr, hsame⟩

/-- The files of the group, whatever its resources are. -/
theorem resourceFiles_store {r : GroupResources}
    (hr : (storeGroup url).resources (storeManifest url) (imagesIn repository) = .ok (some r)) :
    ∃ files, resourceFiles (storeManifest url) (imagesIn repository) = .ok files ∧
      ∃ file ∈ files, file.documents = r.documents := by
  have hgroups : groupFiles (storeManifest url) (imagesIn repository)
      = .ok [⟨r.workload.directory, "store", r.documents⟩] := by
    refine bind_eq_ok_iff.2 ⟨[some ⟨r.workload.directory, "store", r.documents⟩], ?_, rfl⟩
    refine mapM_cons_eq_ok_iff.2 ⟨_, [], ?_, rfl, rfl⟩
    rw [hr]
    rfl
  have hsecret : ∃ node, secret (storeManifest url).sortedVariables (imagesIn repository) = .ok node := by
    have hvariables : (storeManifest url).sortedVariables = [] := by
      simp [Manifest.sortedVariables, storeManifest]
    rw [hvariables]
    exact ⟨_, rfl⟩
  obtain ⟨node, hsecret⟩ := hsecret
  have hfiles : ∃ more, resourceFiles (storeManifest url) (imagesIn repository)
      = .ok (⟨r.workload.directory, "store", r.documents⟩ :: more) := by
    unfold resourceFiles
    rw [hgroups, hsecret]
    exact ⟨_, rfl⟩
  obtain ⟨more, hfiles⟩ := hfiles
  exact ⟨_, hfiles, _, List.mem_cons_self, rfl⟩

theorem values_store (url repository : String) :
    ∃ v, values (storeManifest url) (imagesIn repository) = .ok v := by
  have hvariables : (storeManifest url).sortedVariables = [] := by
    simp [Manifest.sortedVariables, storeManifest]
  unfold values environmentValues secretValues
  rw [hvariables]
  exact ⟨_, rfl⟩

theorem outputFiles_store (hurl : Url.Locator.ofText url = .ok (.web secure address)) (repository : String) :
    ∃ out, outputFiles (storeManifest url) (imagesIn repository) = .ok out := by
  obtain ⟨c, r, -, hr, -⟩ := resources_store hurl repository
  obtain ⟨files, hfiles, -⟩ := resourceFiles_store hr
  obtain ⟨v, hv⟩ := values_store url repository
  unfold outputFiles
  rw [hfiles, hv]
  exact ⟨_, rfl⟩

theorem outputFiles_covered_store :
    ∃ out, outputFiles (storeManifest plainUrl) (imagesIn "chartsmith") = .ok out ∧
      ∃ files v, resourceFiles (storeManifest plainUrl) (imagesIn "chartsmith") = .ok files ∧
        values (storeManifest plainUrl) (imagesIn "chartsmith") = .ok v ∧
        ∀ file ∈ files, ∀ document ∈ file.documents,
          ∀ path ∈ lookups document, Promised path = true → Has v path := by
  obtain ⟨out, hout⟩ := outputFiles_store ofText_plainUrl "chartsmith"
  have hrepository : Free "chartsmith".toList := by decide
  exact ⟨out, hout, outputFiles_covered rfl hrepository regular_store hout⟩

theorem isCountEntry_of_lookup? {entries : Mapping} {name : String} {node : Node}
    (h : Mapping.lookup? entries name = some node) (hname : name ≠ "name") (hvalue : name ≠ "value") :
    isCountEntry entries = false := by
  unfold isCountEntry
  split
  · simp [Ne.symm hname, Ne.symm hvalue] at h
  · rfl

/-- What a node inside of a document looks up, the document looks up. -/
theorem mem_lookups_of_get? {names : List String}
    (hnames : ∀ name ∈ names, name ≠ "name" ∧ name ≠ "value" ∧ isMovedGuard name = false)
    {document n : Node} (h : document.get? names = some n) {path : List String} (hpath : path ∈ lookups n) :
    path ∈ lookups document := by
  induction names generalizing document with
  | nil =>
    rw [Node.get?_nil] at h
    rwa [Option.some.inj h]
  | cons name names ih =>
    obtain ⟨hname, hvalue, hmoved⟩ := hnames name List.mem_cons_self
    cases document with
    | scalar notes text => cases h
    | list notes nodes => cases h
    | mapping notes entries =>
      rw [Node.get?_cons] at h
      obtain ⟨child, hchild, h⟩ := Option.bind_eq_some_iff.1 h
      have hinside := ih (fun other hother => hnames other (List.mem_cons_of_mem name hother)) h
      rw [lookups, List.mem_append, mem_aside, isCountEntry_of_lookup? hchild hname hvalue]
      exact .inr ⟨mem_entryLookups.2 ⟨_, Mapping.mem_of_lookup? hchild, hinside, by simp [hmoved]⟩, by simp⟩

/-- What an item looks up, a document with the item in a list looks up. -/
theorem mem_lookups_of_listAt {names : List String}
    (hnames : ∀ name ∈ names, name ≠ "name" ∧ name ≠ "value" ∧ isMovedGuard name = false)
    {document n : Node} (h : n ∈ document.listAt names) {path : List String} (hpath : path ∈ lookups n) :
    path ∈ lookups document := by
  unfold Node.listAt at h
  cases hget : document.get? names with
  | none => simp [hget] at h
  | some found =>
    refine mem_lookups_of_get? hnames hget ?_
    rw [hget] at h
    cases found with
    | scalar notes text => simp [Node.list?] at h
    | list notes nodes => exact List.mem_append_right _ (mem_itemLookups.2 ⟨n, h, hpath⟩)
    | mapping notes entries => simp [Node.list?] at h

/-- The values describe the cluster under neither of these names. -/
theorem not_has_kube {v : Node} {name : String}
    (hv : values (storeManifest url) (imagesIn repository) = .ok v)
    (hname : name = "nope" ∨ name = "nope-store") : ¬ Has v ["kube", name] := by
  obtain ⟨environment, cluster, secrets, sizes, -, hcluster, -, -, rfl⟩ := values_ok hv
  obtain ⟨policies, -, rfl⟩ := clusterValues_ok hcluster
  rcases hname with rfl | rfl <;> simp [Has]

/-- What a container of the store looks up is looked up by a document of its chart. -/
theorem lacks_store (hurl : Url.Locator.ofText url = .ok (.web secure address)) {name : String}
    (hname : name = "nope" ∨ name = "nope-store")
    (h : ∀ c, Pod.container (storeManifest url) (imagesIn repository) (storeGroup url) = .ok c →
      ["kube", name] ∈ lookups c) :
    Lacks (storeManifest url) (imagesIn repository) := by
  obtain ⟨out, hout⟩ := outputFiles_store hurl repository
  obtain ⟨c, r, hc, hr, hcontainers⟩ := resources_store hurl repository
  obtain ⟨files, hfiles, file, hfile, hdocuments⟩ := resourceFiles_store hr
  obtain ⟨v, hv⟩ := values_store url repository
  have hlookups : ["kube", name] ∈ lookups r.controller :=
    mem_lookups_of_listAt (by decide) (hcontainers ▸ List.mem_singleton_self _) (h c hc)
  have hdocument : r.controller ∈ file.documents := by
    rw [hdocuments]
    exact List.mem_cons_self
  exact ⟨out, files, v, hout, hfiles, hv, file, hfile, _, hdocument, _, hlookups, rfl, not_has_kube hv hname⟩

theorem valuePaths_image {image : String}
    (h : Pod.imageReference (storeGroup url) (imagesIn ".Values.kube.nope") = .ok image) :
    ["kube", "nope-store"] ∈ valuePaths image.toList := by
  obtain ⟨tag, -, h⟩ := bind_eq_ok_iff.1 h
  obtain rfl := pure_eq_ok_iff.1 h
  have hname : valuePaths ".Values.kube.nope-store".toList = [["kube", "nope-store"]] := by decide
  have htext : ∀ registry : String,
      (registry ++ "/" ++ ".Values.kube.nope" ++ "-" ++ "store" ++ ":" ++ tag).toList
        = registry.toList ++ '/' :: (".Values.kube.nope-store".toList ++ ':' :: tag.toList) := by
    intro registry
    simp only [String.toList_append, List.append_assoc]
    rfl
  rw [show (imagesIn ".Values.kube.nope").repository = ".Values.kube.nope" from rfl,
    show (storeGroup url).name = "store" from rfl, htext, Template.valuePaths_append_cons _ _ (by decide),
    Template.valuePaths_append_cons _ _ (by decide), hname]
  simp

theorem lacks_of_repository : Lacks (storeManifest plainUrl) (imagesIn ".Values.kube.nope") := by
  refine lacks_store ofText_plainUrl (.inr rfl) fun c hc => ?_
  obtain ⟨image, ports, env, liveness, readiness, himage, -, -, -, -, rfl⟩ := Pod.container_ok hc
  have hpath : ∀ name ∈ ["image"], name ≠ "name" ∧ name ≠ "value" ∧ isMovedGuard name = false := by decide
  refine mem_lookups_of_get? hpath (n := .verbatim image) (by simp) ?_
  rw [lookups_verbatim]
  exact valuePaths_image himage

theorem lacks_of_tabbedUrl : Lacks (storeManifest tabbedUrl) (imagesIn "chartsmith") := by
  refine lacks_store ofText_tabbedUrl (.inl rfl) fun c hc => ?_
  obtain ⟨image, ports, env, liveness, readiness, -, -, -, hl, hready, rfl⟩ := Pod.container_ok hc
  rw [probeEntry_store ofText_tabbedUrl] at hready
  obtain rfl := Except.ok.inj hready
  have hpath : ∀ name ∈ ["readinessProbe", "httpGet", "path"],
      name ≠ "name" ∧ name ≠ "value" ∧ isMovedGuard name = false := by decide
  have htext : ["kube", "nope"] ∈ lookups (.string "/.Values.kube.nope") := by decide
  have hl' : Mapping.lookup? liveness "readinessProbe" = none := Pod.lookup?_probeEntry hl (by decide)
  refine mem_lookups_of_get? hpath ?_ htext
  simp [hl']
  rfl

/-- The name of an image takes the repository as it is, and a tab in the address of a probe is dropped: either
makes a path that the values lack, though the texts of the manifest do not mention them. -/
theorem not_outputFiles_covered :
    ((storeManifest plainUrl).Regular ∧ Lacks (storeManifest plainUrl) (imagesIn ".Values.kube.nope")) ∧
      Free tabbedUrl.toList ∧ Lacks (storeManifest tabbedUrl) (imagesIn "chartsmith") :=
  ⟨⟨regular_store, lacks_of_repository⟩, by decide, lacks_of_tabbedUrl⟩

end RoleChart.Chart
