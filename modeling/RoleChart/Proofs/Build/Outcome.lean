import Mathlib.Control.Monad.Basic
import RoleChart.Build.Run
import RoleChart.Proofs.Building

/-!
# How a build can end

A build reads and makes all of its files first, then looks for files that are there already, and writes only
after that. So there are five ways for it to end, and the store is another one in two of them alone: where
everything is written and where a file of the output makes trouble.

## Main statements

* `Request.outcome` — a build ends in one of these ways
* `Request.store_of_build` — a build that fails before it writes, and a dry run, leave the store alone, and
  the first file that is there already is refused
-/

namespace RoleChart

/-! ## Faults of plans -/

/-- Whether a fault is found before a build looks at its output. -/
def BuildError.isEarly : BuildError → Bool
  | writing _ | outputExists _ => false
  | _ => true

/-- Whether every fault of a step is found before a build looks at its output. -/
def FailsEarly {α : Type} (x : Except BuildError α) : Prop := ∀ e, x = .error e → e.isEarly = true

namespace FailsEarly

variable {α β ε : Type}

theorem ok (a : α) : FailsEarly (.ok a) := fun _ h => nomatch h

theorem error {e : BuildError} (h : e.isEarly = true) : FailsEarly (.error e : Except BuildError α) := by
  rintro _ ⟨⟩
  exact h

theorem bind {x : Except BuildError α} {f : α → Except BuildError β} (hx : FailsEarly x)
    (hf : ∀ a, FailsEarly (f a)) : FailsEarly (x >>= f) := by
  cases x with
  | error e => exact error (hx e rfl)
  | ok a => exact hf a

theorem mapError {x : Except ε α} {f : ε → BuildError} (h : ∀ e, (f e).isEarly = true) :
    FailsEarly (x.mapError f) := by
  cases x with
  | error e => exact error (h e)
  | ok a => exact ok a

end FailsEarly

theorem failsEarly_readConfig (read : String → Except FileError String) (home : Option String) (r : Request) :
    FailsEarly (readConfig read home r) := by
  unfold readConfig
  split
  · refine (FailsEarly.mapError fun _ => rfl).bind fun text => ?_
    split
    · exact .ok _
    · exact .error rfl
  · exact .ok _

theorem failsEarly_readDefaults (read : String → Except FileError String) (path : String) :
    FailsEarly (readDefaults read path) := by
  refine (FailsEarly.mapError fun _ => rfl).bind fun text => ?_
  refine (FailsEarly.mapError fun _ => rfl).bind fun value => ?_
  split
  · exact .ok _
  · exact .error rfl

namespace Request

theorem failsEarly_authModeOver (r : Request) (fallback : AuthMode) :
    FailsEarly (r.authModeOver fallback) := by
  unfold authModeOver
  split
  · exact .ok _
  · split
    · exact .ok _
    · exact .error rfl

/-- Whatever is wrong with a request is found before a build looks at its output. -/
theorem failsEarly_plan (r : Request) (read : String → Except FileError String) (home : Option String) :
    FailsEarly (r.plan read home) := by
  refine (failsEarly_readConfig read home r).bind fun config => ?_
  refine (FailsEarly.mapError fun _ => rfl).bind fun text => ?_
  refine (FailsEarly.mapError fun _ => rfl).bind fun manifest => ?_
  refine (failsEarly_authModeOver r _).bind fun mode => ?_
  have hdefaults : FailsEarly (r.defaults.elim (.ok []) (readDefaults read)) := by
    cases r.defaults with
    | none => exact .ok _
    | some path => exact failsEarly_readDefaults read path
  refine hdefaults.bind fun defaults => (FailsEarly.mapError fun _ => rfl).bind fun files => ?_
  exact .ok _

/-- A plan takes from the request whether it is carried out, and from the request and the configuration
whether files are replaced. -/
theorem plan_eq_ok {r : Request} {read : String → Except FileError String} {home : Option String} {p : Plan}
    (h : r.plan read home = .ok p) :
    ∃ config, readConfig read home r = .ok config ∧ p.dryRun = r.dryRun ∧
      p.overwrite = (r.force || config.overwrite) := by
  obtain ⟨config, hconfig, h⟩ := Built.bind_eq_ok_iff.1 h
  obtain ⟨text, -, h⟩ := Built.bind_eq_ok_iff.1 h
  obtain ⟨manifest, -, h⟩ := Built.bind_eq_ok_iff.1 h
  obtain ⟨mode, -, h⟩ := Built.bind_eq_ok_iff.1 h
  obtain ⟨defaults, -, h⟩ := Built.bind_eq_ok_iff.1 h
  obtain ⟨files, -, h⟩ := Built.bind_eq_ok_iff.1 h
  cases h
  exact ⟨config, hconfig, rfl, rfl⟩

end Request

/-! ## Files that are there already -/

/-- Whether a path is the first one of a plan, in the order of its files, that is there already. -/
def Plan.FirstHeld (p : Plan) (s : Store) (path : String) : Prop :=
  ∃ earlier file later, p.files = earlier ++ file :: later ∧ path = p.target file ∧ s.holds path = true ∧
    ∀ other ∈ earlier, s.holds (p.target other) = false

theorem Plan.firstHeld_of_existing? {p : Plan} {s : Store} {path : String} (h : p.existing? s = some path) :
    p.FirstHeld s path := by
  obtain ⟨hheld, before, after, hsplit, hclear⟩ := List.find?_eq_some_iff_append.1 h
  obtain ⟨earlier, rest, hfiles, rfl, hrest⟩ := List.map_eq_append_iff.1 hsplit
  obtain ⟨file, later, rfl, rfl, rfl⟩ := List.map_eq_cons_iff.1 hrest
  refine ⟨earlier, file, later, hfiles, rfl, hheld, fun other hother => ?_⟩
  simpa using hclear _ (List.mem_map_of_mem hother)

theorem Plan.existing?_eq_none_iff {p : Plan} {s : Store} :
    p.existing? s = none ↔ ∀ file ∈ p.files, s.holds (p.target file) = false := by
  simp [existing?]

/-! ## The five ways -/

/-- How a build ends: the store that it leaves, and the plan that was carried out or the fault. -/
inductive Outcome (r : Request) (home : Option String) (s : Store) : Store × Except BuildError Plan → Prop
  /-- There is no plan. -/
  | unplanned {e : BuildError} (hplan : r.plan s.read home = .error e) (hearly : e.isEarly = true) :
    Outcome r home s (s, .error e)
  /-- The files are only shown. -/
  | shown {p : Plan} (hplan : r.plan s.read home = .ok p) (hdry : r.dryRun = true) :
    Outcome r home s (s, .ok p)
  /-- A file is there already. -/
  | refused {p : Plan} {path : String} (hplan : r.plan s.read home = .ok p) (hdry : r.dryRun = false)
    (hkeep : p.overwrite = false) (hfirst : p.FirstHeld s path) :
    Outcome r home s (s, .error (.outputExists path))
  /-- A file or directory of the output makes trouble. -/
  | stopped {p : Plan} {t : Store} {e : FileError} (hplan : r.plan s.read home = .ok p)
    (hdry : r.dryRun = false)
    (hclear : p.overwrite = true ∨ ∀ file ∈ p.files, s.holds (p.target file) = false)
    (hwrite : p.writeFiles s p.files = (t, .error e)) : Outcome r home s (t, .error (.writing e))
  /-- Everything is written. -/
  | written {p : Plan} {t : Store} (hplan : r.plan s.read home = .ok p) (hdry : r.dryRun = false)
    (hclear : p.overwrite = true ∨ ∀ file ∈ p.files, s.holds (p.target file) = false)
    (hwrite : p.writeFiles s p.files = (t, .ok ())) : Outcome r home s (t, .ok p)

namespace Outcome

variable {r : Request} {home : Option String} {s : Store} {result : Store × Except BuildError Plan}

theorem store_of_error (h : Outcome r home s result) {e : BuildError} (he : result.2 = .error e)
    (htrouble : ∀ trouble, e ≠ .writing trouble) : result.1 = s := by
  cases h with
  | stopped _ _ _ _ => exact absurd (Except.error.inj he).symm (htrouble _)
  | written _ _ _ _ => cases he
  | _ => rfl

/-- Trouble with the output comes up while the files of the plan are written. -/
theorem writes_of_trouble (h : Outcome r home s result) {trouble : FileError}
    (he : result.2 = .error (.writing trouble)) :
    r.dryRun = false ∧
      ∃ p, r.plan s.read home = .ok p ∧ p.writeFiles s p.files = (result.1, .error trouble) := by
  cases h with
  | unplanned _ hearly =>
    obtain rfl := Except.error.inj he
    cases hearly
  | stopped hplan hdry _ hwrite =>
    obtain rfl := BuildError.writing.inj (Except.error.inj he)
    exact ⟨hdry, _, hplan, hwrite⟩
  | refused _ _ _ _ => exact nomatch Except.error.inj he
  | _ => cases he

theorem store_of_dryRun (h : Outcome r home s result) (hdry : r.dryRun = true) : result.1 = s := by
  cases h with
  | unplanned _ _ => rfl
  | shown _ _ => rfl
  | refused _ hwet _ _ => exact nomatch hdry.symm.trans hwet
  | stopped _ hwet _ _ => exact nomatch hdry.symm.trans hwet
  | written _ hwet _ _ => exact nomatch hdry.symm.trans hwet

/-- A plan that may not replace the file that is there is refused. -/
theorem refused_of_held (h : Outcome r home s result) {p : Plan} (hplan : r.plan s.read home = .ok p)
    (hdry : r.dryRun = false) (hkeep : p.overwrite = false)
    (hheld : ∃ file ∈ p.files, s.holds (p.target file) = true) :
    ∃ path, p.FirstHeld s path ∧ result = (s, .error (.outputExists path)) := by
  have hfound : ¬ (p.overwrite = true ∨ ∀ file ∈ p.files, s.holds (p.target file) = false) := by
    obtain ⟨file, hfile, hheld⟩ := hheld
    rintro (hover | hclear)
    · exact nomatch hkeep.symm.trans hover
    · exact nomatch (hclear file hfile).symm.trans hheld
  cases h with
  | unplanned hplan' _ => exact nomatch hplan.symm.trans hplan'
  | shown _ hshown => exact nomatch hdry.symm.trans hshown
  | refused hplan' _ _ hfirst =>
    obtain rfl := Except.ok.inj (hplan.symm.trans hplan')
    exact ⟨_, hfirst, rfl⟩
  | stopped hplan' _ hclear _ =>
    obtain rfl := Except.ok.inj (hplan.symm.trans hplan')
    exact absurd hclear hfound
  | written hplan' _ hclear _ =>
    obtain rfl := Except.ok.inj (hplan.symm.trans hplan')
    exact absurd hclear hfound

end Outcome

namespace Request

/-- A build ends in one of the five ways. -/
theorem outcome (r : Request) (home : Option String) (s : Store) : Outcome r home s (r.build home s) := by
  cases hplan : r.plan s.read home with
  | error e =>
    rw [build_of_plan_error r home s hplan]
    exact .unplanned hplan (failsEarly_plan r _ home e hplan)
  | ok p =>
    obtain ⟨config, -, hdryRun, -⟩ := plan_eq_ok hplan
    cases hdry : r.dryRun with
    | true =>
      simp only [build, hplan, p.perform_of_dryRun s (hdryRun.trans hdry)]
      exact .shown hplan hdry
    | false =>
      have hdryPlan : p.dryRun = false := hdryRun.trans hdry
      cases hfound : if p.overwrite then none else p.existing? s with
      | some path =>
        have hfirst : p.overwrite = false ∧ p.existing? s = some path := by simpa using hfound
        simp only [build, hplan, Plan.perform, hdryPlan, hfound]
        exact .refused hplan hdry hfirst.1 (Plan.firstHeld_of_existing? hfirst.2)
      | none =>
        have hclear : p.overwrite = true ∨ ∀ file ∈ p.files, s.holds (p.target file) = false := by
          cases hover : p.overwrite with
          | true => exact .inl rfl
          | false => exact .inr (Plan.existing?_eq_none_iff.1 (by simpa [hover] using hfound))
        simp only [build, hplan, Plan.perform, hdryPlan, hfound]
        cases hwrite : p.writeFiles s p.files with
        | mk t result =>
          cases result with
          | error e => exact .stopped hplan hdry hclear hwrite
          | ok _ => exact .written hplan hdry hclear hwrite

/-- A build that fails, but not at a file or directory of its output, leaves the store as it was, and so does
a dry run. At a file or directory of its output it can fail only once all of its files are made and it is
writing them. If a file of the output is there already and nothing is to be replaced, the first such file is
named and nothing is written. -/
theorem store_of_build (r : Request) (home : Option String) (s : Store) :
    (∀ e, (r.build home s).2 = .error e → (∀ trouble, e ≠ .writing trouble) → (r.build home s).1 = s) ∧
      (∀ trouble, (r.build home s).2 = .error (.writing trouble) → r.dryRun = false ∧
        ∃ p, r.plan s.read home = .ok p ∧ p.writeFiles s p.files = ((r.build home s).1, .error trouble)) ∧
      (r.dryRun = true → (r.build home s).1 = s) ∧
      ∀ config p, readConfig s.read home r = .ok config → r.plan s.read home = .ok p → r.dryRun = false →
        r.force = false → config.overwrite = false → (∃ file ∈ p.files, s.holds (p.target file) = true) →
        ∃ path, p.FirstHeld s path ∧ r.build home s = (s, .error (.outputExists path)) := by
  have houtcome := r.outcome home s
  refine ⟨fun e => houtcome.store_of_error, fun trouble => houtcome.writes_of_trouble,
    houtcome.store_of_dryRun, fun config p hconfig hplan hdry hforce hkeep hheld => ?_⟩
  obtain ⟨config', hconfig', -, hoverwrite⟩ := plan_eq_ok hplan
  obtain rfl : config = config' := Except.ok.inj (hconfig.symm.trans hconfig')
  have hnot : p.overwrite = false := by rw [hoverwrite, hforce, hkeep]; rfl
  exact houtcome.refused_of_held hplan hdry hnot hheld

/-- A manifest without groups, and one file of its output. -/
def partlyBuilt : Store where
  entries := [(["manifest.yaml"], .text "instance_groups: []\n"), (["output"], .directory),
    (["output", "secrets"], .directory), (["output", "secrets", "registry-credentials.yaml"], .text "")]

/-- A manifest without groups, and a file where its output should go. -/
def blocked : Store where
  entries := [(["manifest.yaml"], .text "instance_groups: []\n"), (["output"], .text "")]

theorem store_of_build_partlyBuilt :
    (build { manifest := "missing.yaml" } none partlyBuilt).1 = partlyBuilt ∧
      (∃ p, plan { manifest := "manifest.yaml" } blocked.read none = .ok p ∧ p.writeFiles blocked p.files =
        ((build { manifest := "manifest.yaml" } none blocked).1, .error .notDirectory)) ∧
      (build { manifest := "manifest.yaml", dryRun := true } none partlyBuilt).1 = partlyBuilt ∧
      ∃ p path, plan { manifest := "manifest.yaml" } partlyBuilt.read none = .ok p ∧
        p.FirstHeld partlyBuilt path ∧
        build { manifest := "manifest.yaml" } none partlyBuilt
          = (partlyBuilt, .error (.outputExists path)) := by
  have hmissing : (build { manifest := "missing.yaml" } none partlyBuilt).2
      = .error (.reading .notFound) := rfl
  have hheld : ((plan { manifest := "manifest.yaml" } partlyBuilt.read none).toOption.map fun p =>
      p.files.any fun file => partlyBuilt.holds (p.target file)) = some true := by
    decide +kernel
  have hblocked : (build { manifest := "manifest.yaml" } none blocked).2
      = .error (.writing .notDirectory) := by
    decide +kernel
  refine ⟨(store_of_build _ none partlyBuilt).1 _ hmissing nofun,
    ((store_of_build _ none blocked).2.1 _ hblocked).2, (store_of_build _ none partlyBuilt).2.2.1 rfl, ?_⟩
  cases hplan : plan { manifest := "manifest.yaml" } partlyBuilt.read none with
  | error e =>
    rw [hplan] at hheld
    cases hheld
  | ok p =>
    rw [hplan] at hheld
    have hfile := List.any_eq_true.1 (Option.some.inj hheld)
    obtain ⟨path, hfirst, hbuild⟩ := (store_of_build { manifest := "manifest.yaml" } none partlyBuilt).2.2.2
      {} p rfl hplan rfl rfl rfl hfile
    exact ⟨p, path, rfl, hfirst, hbuild⟩

end Request

end RoleChart
