import RoleChart.Pod.Image
import RoleChart.Proofs.Bytes

/-!
# Tags of images

The tag of an image hashes texts with zero bytes between them, and nothing says how many there are. There is no need
to: texts without a zero are told apart by the zeros between them, the last three and the first one have their places,
and the jobs between them come in threes. So the tags of two images differ if anything differs that goes into them,
unless the hash takes two inputs to one tag.

## Main statements

* `imageBytes_inj` — the hashed bytes tell the texts
* `imageParts_eq_iff` — the texts tell the group, its jobs, the opinions and the settings
* `imageTag_same_or_collides` — what equal tags say
-/

namespace RoleChart.Pod

variable {g g' : Group} {s s' : Settings} {opinions opinions' : String}

/-- What goes into an image of a job. A missing fingerprint counts as an empty one. -/
def imageJob (job : PackagedJob) : String × String × String := (job.name, job.release, job.fingerprint.getD "")

/-! ## From bytes to texts -/

/-- The hashed bytes are the texts with zeros between them. -/
theorem imageBytes_eq_intercalate (g : Group) (s : Settings) (opinions : String) :
    imageBytes g s opinions = [0].intercalate ((imageParts g s opinions).map bytes) := by
  have hjoin (part : String) (parts : List String) :
      bytes part ++ parts.flatMap (fun p => 0 :: bytes p) = [0].intercalate ((part :: parts).map bytes) := by
    induction parts generalizing part with
    | nil => simp [List.intercalate]
    | cons next parts ih =>
      rw [List.flatMap_cons, List.cons_append, ih next]
      simp [List.intercalate]
  exact hjoin _ _

/-- Texts without a zero are told by their bytes with zeros between them. -/
theorem imageBytes_inj (h : ∀ part ∈ imageParts g s opinions, '\x00' ∉ part.toList)
    (h' : ∀ part ∈ imageParts g' s' opinions', '\x00' ∉ part.toList)
    (hbytes : imageBytes g s opinions = imageBytes g' s' opinions') :
    imageParts g s opinions = imageParts g' s' opinions' := by
  have hsplit {parts : List String} (hne : parts ≠ []) (hzero : ∀ part ∈ parts, '\x00' ∉ part.toList) :
      ([0].intercalate (parts.map bytes)).splitOn 0 = parts.map bytes := by
    refine List.splitOn_intercalate 0 (fun l hl => ?_) (by simpa using hne)
    obtain ⟨part, hpart, rfl⟩ := List.mem_map.1 hl
    rw [zero_mem_bytes_iff]
    exact hzero part hpart
  rw [imageBytes_eq_intercalate, imageBytes_eq_intercalate] at hbytes
  have hparts := congrArg (List.splitOn 0) hbytes
  rw [hsplit (by simp [imageParts]) h, hsplit (by simp [imageParts]) h'] at hparts
  exact (List.map_inj_right fun _ _ => bytes_inj).1 hparts

/-! ## From texts to what they are -/

/-- Jobs are told by their texts, three for each. -/
theorem map_imageJob_eq_iff {jobs jobs' : List PackagedJob} :
    (jobs.flatMap fun job => [job.name, job.release, job.fingerprint.getD ""])
        = (jobs'.flatMap fun job => [job.name, job.release, job.fingerprint.getD ""])
      ↔ jobs.map imageJob = jobs'.map imageJob := by
  induction jobs generalizing jobs' with
  | nil => cases jobs' <;> simp
  | cons job jobs ih =>
    cases jobs' with
    | nil => simp
    | cons job' jobs' => simp [imageJob, ih, and_assoc]

/-- The first text is the name of the group, the last three are the opinions and those of the settings, and what is
between them are the jobs. -/
theorem imageParts_eq_iff : imageParts g s opinions = imageParts g' s' opinions' ↔
    g.name = g'.name ∧ g.jobs.map imageJob = g'.jobs.map imageJob ∧ opinions = opinions' ∧
      s.tagExtra = s'.tagExtra ∧ s.version = s'.version := by
  unfold imageParts
  rw [List.cons_append, List.cons_append, List.cons.injEq, ← map_imageJob_eq_iff]
  constructor
  · rintro ⟨hname, hrest⟩
    -- the end has three texts in both
    obtain ⟨hjobs, hend⟩ := List.append_inj' hrest rfl
    simp only [List.cons.injEq, and_true] at hend
    exact ⟨hname, hjobs, hend⟩
  · rintro ⟨hname, hjobs, rfl, hextra, hversion⟩
    rw [hjobs, hextra, hversion]
    exact ⟨hname, rfl⟩

/-! ## Tags -/

/-- For texts without a zero, the bytes that are hashed are the same only if the group has the same name and the
same jobs and the settings have the same opinions and versions. So if two images have one tag, all of these are the
same, or the shortened hash takes two different inputs to that tag. -/
theorem imageTag_same_or_collides (ho : s.opinions.text = .ok opinions) (ho' : s'.opinions.text = .ok opinions')
    (h : ∀ part ∈ imageParts g s opinions, '\x00' ∉ part.toList)
    (h' : ∀ part ∈ imageParts g' s' opinions', '\x00' ∉ part.toList) :
    (imageBytes g s opinions = imageBytes g' s' opinions' ↔
      g.name = g'.name ∧ g.jobs.map imageJob = g'.jobs.map imageJob ∧ opinions = opinions' ∧
        s.tagExtra = s'.tagExtra ∧ s.version = s'.version) ∧
    (imageTag g s = imageTag g' s' →
      (g.name = g'.name ∧ g.jobs.map imageJob = g'.jobs.map imageJob ∧ opinions = opinions' ∧
        s.tagExtra = s'.tagExtra ∧ s.version = s'.version) ∨
      (imageBytes g s opinions ≠ imageBytes g' s' opinions' ∧
        tagOf (imageBytes g s opinions) = tagOf (imageBytes g' s' opinions'))) := by
  have hiff : imageBytes g s opinions = imageBytes g' s' opinions' ↔
      imageParts g s opinions = imageParts g' s' opinions' := by
    refine ⟨imageBytes_inj h h', fun hparts => ?_⟩
    rw [imageBytes_eq_intercalate, hparts, ← imageBytes_eq_intercalate]
  rw [← imageParts_eq_iff, ← hiff]
  refine ⟨Iff.rfl, fun htag => ?_⟩
  have hsame : tagOf (imageBytes g s opinions) = tagOf (imageBytes g' s' opinions') := by
    rw [imageTag, imageTag, ho, ho'] at htag
    exact Except.ok.inj htag
  by_cases hbytes : imageBytes g s opinions = imageBytes g' s' opinions'
  · exact .inl hbytes
  · exact .inr ⟨hbytes, hsame⟩

/-- A release and a fingerprint do not stand in for each other. -/
theorem imageTag_same_or_collides_release :
    let released : Group := { name := "api", jobs := [{ name := "web", release := "v1" }, { name := "log" }] }
    let printed : Group :=
      { name := "api", jobs := [{ name := "web", fingerprint := some "v1" }, { name := "log" }] }
    let null : Settings := {}
    null.opinions.text = .ok "null\n" ∧
      (∀ part ∈ imageParts released null "null\n", '\x00' ∉ part.toList) ∧
      (∀ part ∈ imageParts printed null "null\n", '\x00' ∉ part.toList) ∧
      imageBytes released null "null\n" ≠ imageBytes printed null "null\n" ∧
      (imageTag released null = imageTag printed null →
        tagOf (imageBytes released null "null\n") = tagOf (imageBytes printed null "null\n")) := by
  intro released printed null
  have ho : null.opinions.text = .ok "null\n" := rfl
  have h : ∀ part ∈ imageParts released null "null\n", '\x00' ∉ part.toList := by decide
  have h' : ∀ part ∈ imageParts printed null "null\n", '\x00' ∉ part.toList := by decide
  have hjobs : released.jobs.map imageJob ≠ printed.jobs.map imageJob := by decide
  obtain ⟨hbytes, htag⟩ := imageTag_same_or_collides ho ho h h'
  refine ⟨ho, h, h', fun heq => hjobs (hbytes.1 heq).2.1, fun heq => ?_⟩
  rcases htag heq with hsame | ⟨-, hcollision⟩
  · exact absurd hsame.2.1 hjobs
  · exact hcollision

end RoleChart.Pod
