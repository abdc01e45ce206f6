import RoleChart.Proofs.Template.Meaning
import RoleChart.Proofs.Workload.Controllers

/-!
# Numbers of replicas

A chart does not trust the number of replicas that a release sets: the controller holds guards that make
the release fail, and a service that may be scaled to nothing is left out as a whole. Here the
conditions that stand in the documents are read and evaluated, for every number and both positions of
the switch for high availability.

## Main statements

* `Group.refuses_iff` — which numbers the guards of a controller refuse
* `Group.replicaNumber?_bounded` — the number that is deployed, and the bounds that it keeps
-/

namespace RoleChart

open RoleChart.Document RoleChart.Built
open Template (Term Value Values Legible ifBlock holds? stands? Absent)

/-! ## What a release finds -/

/-- The names of the guards on the number of replicas. -/
def replicaGuardNames : List String :=
  ["_minReplicas", "_minHAReplicas", "_maxReplicas", "_oddReplicas"]

/-- Whether a node makes the release fail where it is reached. -/
def isFailure (node : Node) : Bool :=
  node.scalar?.any fun text => "\x7b\x7b fail ".toList.isPrefixOf text.toList

/-- Whether a release fails at a node. There is no answer if it has to evaluate a condition that has no
value. -/
def fails? (values : Values) (node : Node) : Option Bool := do
  if ← stands? values node.blocks then some (isFailure node) else some false

namespace GroupResources

/-- The guards on the number of replicas in the controller. -/
def replicaChecks (r : GroupResources) : List Node :=
  ((r.controller.mapping?.getD []).filter fun entry => replicaGuardNames.contains entry.1).map Prod.snd

/-- Whether a release reaches a failure in one of these guards. -/
def refuses? (r : GroupResources) (values : Values) : Option Bool := do
  if ← stands? values r.controller.blocks then r.replicaChecks.anyM (fails? values) else some false

/-- The number of replicas that a release asks for. -/
def replicaNumber? (r : GroupResources) (values : Values) : Option Int := do
  let node ← r.controller.get? ["spec", "replicas"]
  Template.numberOf? values (← node.scalar?)

end GroupResources

/-- The values that decide on the number of replicas of a group. -/
def Group.sizedValues (g : Group) (count : Int) (ha : Bool) : Values :=
  [(countPath g.varName, .number count), (".Values.config.HA", .flag ha)]

/-! ## Bounds -/

namespace Scaling

variable {bounds : Scaling} {count : Int} {ha : Bool}

/-- Whether the bounds exclude a number: it is below the minimum, above the maximum, even where it must
be odd, or with high availability below what that asks for. -/
def Refuses (bounds : Scaling) (count : Int) (ha : Bool) : Prop :=
  (0 < bounds.min ∧ count < bounds.min) ∨ (bounds.max : Int) < count
    ∨ (bounds.mustBeOdd = true ∧ count % 2 = 0)
    ∨ (ha = true ∧ bounds.haMin ≠ bounds.min ∧ count ≠ bounds.min ∧ count < bounds.haMin)

/-- The number of replicas that is asked for when a release sets a number. -/
def deployed (bounds : Scaling) (count : Int) (ha : Bool) : Int :=
  if ha = true ∧ count = bounds.min then bounds.haMin else count

/-- Whether a number keeps the declared bounds. -/
structure Keeps (bounds : Scaling) (n : Int) : Prop where
  least : (bounds.min : Int) ≤ n
  most : n ≤ bounds.max
  odd : bounds.mustBeOdd = true → n % 2 = 1

/-- Whether a number is raised with high availability. -/
def Raised (bounds : Scaling) (count : Int) (ha : Bool) : Prop :=
  ha = true ∧ bounds.haMin ≠ bounds.min ∧ count = bounds.min

theorem deployed_of_raised (h : Raised bounds count ha) :
    deployed bounds count ha = bounds.haMin := if_pos ⟨h.1, h.2.2⟩

/-- A number that high availability does not raise is asked for as it is. -/
theorem deployed_of_not_raised (h : ¬ Raised bounds count ha) :
    deployed bounds count ha = count := by
  by_cases hat : ha = true ∧ count = bounds.min
  · -- at the minimum the number stays only where high availability asks for no more
    have heq : bounds.haMin = bounds.min :=
      Decidable.not_not.1 fun hne => h ⟨hat.1, hne, hat.2⟩
    rw [deployed, if_pos hat, heq, hat.2]
  · rw [deployed, if_neg hat]

/-- A number that is not refused keeps the bounds. Without a minimum the guards do not look below one, so it
must be known to be positive. -/
theorem keeps_of_not_refuses (hthere : bounds.min = 0 → 0 < count)
    (h : ¬ Refuses bounds count ha) : Keeps bounds count := by
  simp only [Refuses, not_or, not_and] at h
  obtain ⟨hleast, hmost, hodd, -⟩ := h
  refine ⟨?_, by omega, fun h => ?_⟩
  · by_cases hmin : bounds.min = 0
    · have := hthere hmin
      omega
    · have := hleast (Nat.pos_of_ne_zero hmin)
      omega
  · have := hodd h
    omega

/-- With high availability at least as many replicas run as it asks for: the number is raised, or was no
smaller. -/
theorem haMin_le_deployed (hthere : bounds.min = 0 → 0 < count)
    (h : ¬ Refuses bounds count ha) (hha : ha = true) : (bounds.haMin : Int) ≤ deployed bounds count ha := by
  have hleast := (keeps_of_not_refuses hthere h).least
  by_cases hraised : Raised bounds count ha
  · exact Int.le_of_eq (deployed_of_raised hraised).symm
  · rw [deployed_of_not_raised hraised]
    by_cases hne : bounds.haMin = bounds.min
    · omega
    · simp only [Refuses, not_or, not_and] at h
      have hother : count ≠ bounds.min := fun hat => hraised ⟨hha, hne, hat⟩
      have := h.2.2.2 hha hne hother
      omega

end Scaling

/-! ## Guards as nodes -/

namespace Guard

/-- Blocks that are put around a node one after another stand in the order of their conditions. -/
theorem blocks_foldl (conditions : List Term) (node : Node) :
    (conditions.foldl (fun node c => node.withBlock (ifBlock c)) node).blocks
      = node.blocks ++ conditions.map ifBlock := by
  induction conditions generalizing node with
  | nil => simp
  | cons c conditions ih =>
    rw [List.foldl_cons, ih]
    simp [Node.withBlock, Node.blocks]

/-- A guard stands in one block for each of its conditions. -/
@[simp] theorem blocks_entry (guard : Guard) : guard.entry.2.blocks = guard.conditions.map ifBlock := by
  rw [entry, blocks_foldl]
  rfl

@[simp] theorem scalar?_withBlock (block : String) (node : Node) :
    (node.withBlock block).scalar? = node.scalar? := by
  cases node <;> rfl

/-- What a guard holds makes a release fail, whatever its message is. -/
theorem isFailure_entry (guard : Guard) : isFailure guard.entry.2 = true := by
  have hscalar : ∀ (conditions : List Term) (node : Node),
      (conditions.foldl (fun node c => node.withBlock (ifBlock c)) node).scalar? = node.scalar? := by
    intro conditions
    induction conditions with
    | nil => exact fun _ => rfl
    | cons c conditions ih => exact fun node => by rw [List.foldl_cons, ih, scalar?_withBlock]
  rw [isFailure, entry, hscalar]
  simp [failure, Node.verbatim, Node.scalar?, Template.action, List.isPrefixOf]

end Guard

/-! ## The conditions of a group -/

namespace Group

variable {m : Manifest} {s : Settings} {g : Group} {r : GroupResources} {count : Int} {ha : Bool}

/-- The path of the number of replicas, taken apart for the questions on its characters. -/
theorem toList_countPath (group : String) : (countPath group).toList
    = ".Values.sizing.".toList ++ (group.toList ++ (".".toList ++ "count".toList)) := by
  unfold countPath sizingPath
  simp only [String.toList_append, List.append_assoc]

/-- A reader can tell the two paths from each other, from numbers and from functions. -/
theorem legible_sizedValues (g : Group) (count : Int) (ha : Bool) :
    Legible ((g.sizedValues count ha).map Prod.fst) where
  dot := by simp [sizedValues, toList_countPath]
  apart := by
    intro p hp q hq rest h hs
    simp only [sizedValues, List.map_cons, List.map_nil, List.mem_cons, List.not_mem_nil,
      or_false] at hp hq
    -- the two paths differ in their second step
    rcases hp with rfl | rfl <;> rcases hq with rfl | rfl
    · rfl
    · simp [toList_countPath] at h
    · simp [toList_countPath] at h
    · rfl

theorem lookup_count (g : Group) (count : Int) (ha : Bool) :
    (g.sizedValues count ha).lookup (countPath g.varName) = some (.number count) := by
  simp [sizedValues]

theorem lookup_haSwitch (g : Group) (count : Int) (ha : Bool) :
    (g.sizedValues count ha).lookup ".Values.config.HA" = some (.flag ha) := by
  have hne : (".Values.config.HA" == countPath g.varName) = false := by
    rw [beq_eq_false_iff_ne]
    intro h
    have h := congrArg String.toList h
    simp [toList_countPath] at h
  simp [sizedValues, List.lookup_cons, hne]

/-- A condition on the number of replicas and the switch: it can be read, and is true just when the
statement holds. -/
def Means (g : Group) (count : Int) (ha : Bool) (t : Term) (holds : Prop) : Prop :=
  t.Readable ((g.sizedValues count ha).map Prod.fst) ∧
    ∃ v, t.eval? (g.sizedValues count ha) = some v ∧ (v.truth = true ↔ holds)

/-- What a reader of templates decides on the block of a condition is whether the statement holds. -/
theorem Means.holds? {t : Term} {p : Prop} [Decidable p] (h : g.Means count ha t p) :
    holds? (g.sizedValues count ha) (ifBlock t) = some (decide p) := by
  obtain ⟨hr, v, hv, hp⟩ := h
  rw [Template.holds?_ifBlock (g.legible_sizedValues count ha) hr, hv, Option.map_some]
  congr 1
  rw [Bool.eq_iff_iff, hp, decide_eq_true_iff]

theorem readable_replicaCount : g.replicaCount.Readable ((g.sizedValues count ha).map Prod.fst) := by
  simp [replicaCount, Term.Readable, sizedValues]

theorem readable_haSwitch : haSwitch.Readable ((g.sizedValues count ha).map Prod.fst) := by
  simp [haSwitch, Term.Readable, sizedValues]

theorem eval?_replicaCount : g.replicaCount.eval? (g.sizedValues count ha) = some (.number count) := by
  simp [replicaCount, lookup_count]

theorem eval?_haSwitch : haSwitch.eval? (g.sizedValues count ha) = some (.flag ha) := by
  simp [haSwitch, lookup_haSwitch]

theorem means_lt (n : Nat) : g.Means count ha (.lt g.replicaCount (.number n)) (count < n) := by
  refine ⟨⟨readable_replicaCount, trivial⟩, .flag (decide (count < n)), ?_, by simp⟩
  simp [eval?_replicaCount]

theorem means_gt (n : Nat) : g.Means count ha (.gt g.replicaCount (.number n)) ((n : Int) < count) := by
  refine ⟨⟨readable_replicaCount, trivial⟩, .flag (decide ((n : Int) < count)), ?_, by simp⟩
  simp [eval?_replicaCount]

theorem means_eq (n : Nat) : g.Means count ha (.eq g.replicaCount (.number n)) (count = n) := by
  refine ⟨⟨readable_replicaCount, trivial⟩, .flag (count == n), ?_, by simp⟩
  simp [eval?_replicaCount]

theorem means_ne (n : Nat) : g.Means count ha (.ne g.replicaCount (.number n)) (count ≠ n) := by
  refine ⟨⟨readable_replicaCount, trivial⟩, .flag (count != n), ?_, by simp⟩
  simp [eval?_replicaCount, bne]

theorem means_even :
    g.Means count ha (.eq (.mod g.replicaCount (.number 2)) (.number 0)) (count % 2 = 0) := by
  refine ⟨⟨⟨readable_replicaCount, trivial⟩, trivial⟩, .flag (count.tmod 2 == 0), ?_, ?_⟩
  · simp [eval?_replicaCount, Value.remainder_number]
  · rw [Value.truth_flag, beq_iff_eq, ← Int.dvd_iff_tmod_eq_zero, Int.dvd_iff_emod_eq_zero]

/-- The switch stands alone as a condition, so it is true as it is set. -/
theorem means_haSwitch : g.Means count ha haSwitch (ha = true) :=
  ⟨readable_haSwitch, .flag ha, eval?_haSwitch, by rw [Value.truth_flag]⟩

/-- A template's conjunction gives one of its two values and no truth value; its truth is still that of both. -/
theorem Means.and {t u : Term} {p q : Prop} (ht : g.Means count ha t p) (hu : g.Means count ha u q) :
    g.Means count ha (.and t u) (p ∧ q) := by
  obtain ⟨hrt, v, hv, hp⟩ := ht
  obtain ⟨hru, w, hw, hq⟩ := hu
  refine ⟨⟨hrt, hru⟩, if v.truth then w else v, ?_, ?_⟩
  · simp [hv, hw]
  · by_cases h : v.truth = true
    · simp [h, ← hp, ← hq]
    · simp [h, ← hp]

/-! ## The guards of a group -/

/-- A release fails at a guard with one condition just when the condition's statement holds. -/
theorem fails?_entry {guard : Guard} {t : Term} {p : Prop} [Decidable p]
    (hguard : guard.conditions = [t]) (h : g.Means count ha t p) :
    fails? (g.sizedValues count ha) guard.entry.2 = some (decide p) := by
  rw [fails?, Guard.blocks_entry, hguard, List.map_singleton, Template.stands?_singleton, h.holds?,
    Guard.isFailure_entry]
  cases decide p <;> rfl

/-- A search for a failure goes on behind a list only if none was found in it. -/
theorem anyM_append {values : Values} (before after : List Node) :
    (before ++ after).anyM (fails? values) = (do
      if ← before.anyM (fails? values) then some true else after.anyM (fails? values)) := by
  induction before with
  | nil => rfl
  | cons node before ih =>
    rw [List.cons_append, List.anyM, List.anyM, ih]
    cases fails? values node with
    | none => rfl
    | some b => cases b <;> rfl

/-- Guards one of which makes a release fail just when a statement holds. -/
def FailJust (values : Values) (guards : List Guard) (p : Prop) : Prop :=
  ∃ b, (guards.map (·.entry.2)).anyM (fails? values) = some b ∧ (b = true ↔ p)

/-- Two lists of guards together fail just when one of the two statements holds. -/
theorem FailJust.append {values : Values} {before after : List Guard} {p q : Prop}
    (hb : FailJust values before p) (ha : FailJust values after q) :
    FailJust values (before ++ after) (p ∨ q) := by
  obtain ⟨b, hb, hp⟩ := hb
  obtain ⟨a, ha, hq⟩ := ha
  refine ⟨b || a, ?_, by rw [Bool.or_eq_true, hp, hq]⟩
  rw [List.map_append, anyM_append, hb, ha]
  cases b <;> rfl

theorem failJust_nil (values : Values) : FailJust values [] False := ⟨false, rfl, by simp⟩

/-- One guard alone fails just when the statement of its condition holds. -/
theorem failJust_singleton {guard : Guard} {t : Term} {p : Prop} (hguard : guard.conditions = [t])
    (h : g.Means count ha t p) : FailJust (g.sizedValues count ha) [guard] p := by
  classical
  refine ⟨decide p, ?_, decide_eq_true_iff⟩
  rw [List.map_singleton, List.anyM, fails?_entry hguard h]
  cases decide p <;> rfl

/-- Guards that are only there under some condition fail just when the statement of that case holds. -/
theorem FailJust.ite {values : Values} {yes no : List Guard} {c p q : Prop} [Decidable c]
    (hyes : FailJust values yes p) (hno : FailJust values no q) :
    FailJust values (if c then yes else no) (if c then p else q) := by
  by_cases h : c
  · rwa [if_pos h, if_pos h]
  · rwa [if_neg h, if_neg h]

/-- The guards of a group together refuse what they should. -/
theorem failJust_replicaGuards (g : Group) (count : Int) (ha : Bool) :
    FailJust (g.sizedValues count ha) g.replicaGuards (g.run.scaling.Refuses count ha) := by
  have h : FailJust (g.sizedValues count ha) g.replicaGuards
      ((((if g.run.scaling.min = 0 then False else count < g.run.scaling.min)
        ∨ (if g.run.scaling.haMin = g.run.scaling.min then False
          else ha = true ∧ count ≠ g.run.scaling.min ∧ count < g.run.scaling.haMin))
        ∨ (g.run.scaling.max : Int) < count)
        ∨ (if g.run.scaling.mustBeOdd = true then count % 2 = 0 else False)) := by
    refine .append (.append (.append (.ite (failJust_nil _) ?_) (.ite (failJust_nil _) ?_)) ?_)
      (.ite ?_ (failJust_nil _))
    · exact failJust_singleton rfl (means_lt _)
    · exact failJust_singleton rfl (means_haSwitch.and ((means_ne _).and (means_lt _)))
    · exact failJust_singleton rfl (means_gt _)
    · exact failJust_singleton rfl means_even
  obtain ⟨b, hb, hiff⟩ := h
  refine ⟨b, hb, hiff.trans ?_⟩
  simp only [Scaling.Refuses, if_false_left, if_false_right, Nat.pos_iff_ne_zero, ne_eq]
  grind

/-! ## Documents of a group -/

/-- A controller that holds the guards and the number of replicas of a group, and its services. -/
def Scales (s : Settings) (g : Group) (r : GroupResources) : Prop :=
  ∃ apiVersion kind spec audiences,
    r.controller = g.gate s (.entries (g.controllerHead s apiVersion kind g.name true
      ++ [("spec", .entries spec)])) ∧
    Mapping.lookup? spec "replicas" = some (g.replicas s) ∧ g.services s audiences = .ok r.services

/-- A deployment asks for the replicas of its group and holds all guards on them. -/
theorem scales_deployment (h : g.deployment m s = .ok r) : Scales s g r := by
  obtain ⟨template, -, h⟩ := bind_eq_ok_iff.1 h
  obtain ⟨services, hservices, h⟩ := bind_eq_ok_iff.1 h
  obtain rfl := pure_eq_ok_iff.1 h
  exact ⟨_, _, _, _, rfl, by simp, hservices⟩

/-- So does a stateful set, whatever its claims are. -/
theorem scales_statefulSet (h : g.statefulSet m s = .ok r) : Scales s g r := by
  obtain ⟨template, -, h⟩ := bind_eq_ok_iff.1 h
  obtain ⟨services, hservices, h⟩ := bind_eq_ok_iff.1 h
  obtain rfl := pure_eq_ok_iff.1 h
  exact ⟨_, _, _, _, rfl, by simp, hservices⟩

theorem workload_job (h : g.job m s = .ok r) : r.workload = .job := by
  obtain ⟨policy, -, h⟩ := bind_eq_ok_iff.1 h
  obtain ⟨template, -, h⟩ := bind_eq_ok_iff.1 h
  obtain ⟨restarting, -, h⟩ := bind_eq_ok_iff.1 h
  obtain rfl := pure_eq_ok_iff.1 h
  rfl

/-- Every workload but a job is scaled. -/
theorem scales_resources (h : g.resources m s = .ok (some r)) (hw : r.workload ≠ .job) :
    Scales s g r := by
  unfold resources at h
  split at h
  · cases h
  · obtain ⟨r', hr, h⟩ := map_eq_ok_iff.1 h
    obtain rfl := Option.some.inj h
    exact scales_deployment hr
  · obtain ⟨r', hr, h⟩ := map_eq_ok_iff.1 h
    obtain rfl := Option.some.inj h
    exact scales_statefulSet hr
  · obtain ⟨r', hr, h⟩ := map_eq_ok_iff.1 h
    obtain rfl := Option.some.inj h
    exact absurd (workload_job hr) hw

@[simp] theorem mapping?_wrapBlock (block : String) (node : Node) :
    (node.wrapBlock block).mapping? = node.mapping? := by
  cases node <;> rfl

@[simp] theorem mapping?_gate (node : Node) : (g.gate s node).mapping? = node.mapping? := by
  unfold gate
  split
  · exact mapping?_wrapBlock _ _
  · rfl

/-- The block around a gated document does not change what stands at its paths. -/
theorem get?_gate (node : Node) (name : String) (rest : List String) :
    (g.gate s node).get? (name :: rest) = node.get? (name :: rest) := by
  unfold gate
  split
  · exact Node.get?_wrapBlock _ _ _ _
  · rfl

/-- Every guard that a group declares on its replicas has one of the four names. -/
theorem name_mem_replicaGuardNames {guard : Guard} (h : guard ∈ g.replicaGuards) :
    replicaGuardNames.contains guard.name = true := by
  simp only [replicaGuards, List.mem_append, List.mem_singleton] at h
  rcases h with ((h | h) | rfl) | h
  · split at h
    · exact absurd h List.not_mem_nil
    · obtain rfl := List.mem_singleton.1 h
      rfl
  · split at h
    · exact absurd h List.not_mem_nil
    · obtain rfl := List.mem_singleton.1 h
      rfl
  · rfl
  · split at h
    · obtain rfl := List.mem_singleton.1 h
      rfl
    · exact absurd h List.not_mem_nil

/-- Of all entries of a controller, just the guards have names other than those of an object. -/
theorem filter_controllerHead (hs : s.chart = true) (apiVersion kind name : String) (withReplicas : Bool)
    (spec : Mapping) {names : List String}
    (hnames : ∀ name ∈ ["apiVersion", "kind", "metadata", "spec"], name ∉ names) :
    ((g.controllerHead s apiVersion kind name withReplicas ++ [("spec", Node.entries spec)]).filter
      fun entry : String × Node => names.contains entry.1).map Prod.snd
        = ((g.guards withReplicas).filter fun guard => names.contains guard.name).map (·.entry.2) := by
  have hobject : (newObject apiVersion kind (objectMetadata s name (some g.name))
      ++ [("spec", Node.entries spec)]).filter (fun entry => names.contains entry.1) = [] := by
    refine List.filter_eq_nil_iff.2 fun entry hentry => ?_
    have hname : entry.1 ∈ ["apiVersion", "kind", "metadata", "spec"] :=
      List.mem_map_of_mem (f := Prod.fst) hentry
    rw [List.contains_iff_mem]
    exact hnames _ hname
  rw [controllerHead, hs, if_pos rfl, List.append_assoc, List.filter_append, hobject, List.append_nil,
    List.filter_map, List.map_map]
  rfl

/-- The guard on host paths has a name of its own. -/
theorem filter_hostPathGuards {names : List String} (h : "_hostpathAvailable" ∉ names) :
    g.hostPathGuards.filter (fun guard => names.contains guard.name) = [] := by
  refine List.filter_eq_nil_iff.2 fun guard hguard => ?_
  unfold hostPathGuards at hguard
  split at hguard
  · cases hguard
  · obtain rfl := List.mem_singleton.1 hguard
    rwa [List.contains_iff_mem]

/-- Of the guards of a controller, just those on the number of replicas have their names. -/
theorem filter_guards (g : Group) (withReplicas : Bool) :
    (g.guards withReplicas).filter (fun guard => replicaGuardNames.contains guard.name)
      = if withReplicas then g.replicaGuards else [] := by
  have hreplicas : (if withReplicas then g.replicaGuards else []).filter
      (fun guard => replicaGuardNames.contains guard.name)
        = if withReplicas then g.replicaGuards else [] := by
    refine List.filter_eq_self.2 fun guard hguard => ?_
    split at hguard
    · exact name_mem_replicaGuardNames hguard
    · cases hguard
  have hmoved : movedGuards.filter (fun guard => replicaGuardNames.contains guard.name) = [] := rfl
  rw [guards, List.filter_append, List.filter_append, hreplicas, hmoved, filter_hostPathGuards (by decide),
    List.append_nil, List.append_nil]

/-- In a chart the guards of the controller are those of the group, in their order. -/
theorem replicaChecks_eq (hs : s.chart = true) (hr : Scales s g r) :
    r.replicaChecks = g.replicaGuards.map (·.entry.2) := by
  obtain ⟨apiVersion, kind, spec, audiences, hcontroller, -, -⟩ := hr
  have hnames : ∀ name ∈ ["apiVersion", "kind", "metadata", "spec"], name ∉ replicaGuardNames := by decide
  rw [GroupResources.replicaChecks, hcontroller, mapping?_gate]
  refine (filter_controllerHead hs apiVersion kind g.name true spec hnames).trans ?_
  rw [filter_guards, if_pos rfl]

/-! ## Presence -/

/-- The block around gated documents is there just when at least one replica is asked for. -/
theorem holds?_presence : holds? (g.sizedValues count ha) (ifBlock (.gt g.replicaCount (.number 0)))
    = some (decide (0 < count)) := by
  have hmeans : g.Means count ha (.gt g.replicaCount (.number 0)) ((0 : Nat) < count) := means_gt 0
  simpa using hmeans.holds?

/-- A group that may be scaled to nothing is left out when it is. -/
theorem absent_gate (hs : s.chart = true) (hmin : g.run.scaling.min = 0) (hcount : count ≤ 0) (node : Node) :
    Absent (g.sizedValues count ha) (g.gate s node) := by
  refine ⟨ifBlock (.gt g.replicaCount (.number 0)), ?_, ?_⟩
  · rw [gate, presence?, hs, hmin]
    simp [Node.wrapBlock, Node.block?, Node.blocks]
  · rw [holds?_presence, decide_eq_false (by omega)]

/-- Without a minimum a number that is not positive leaves no document of the group in the release. -/
theorem absent_documents (hs : s.chart = true) (hmin : g.run.scaling.min = 0) (hcount : count ≤ 0)
    (hr : Scales s g r) : ∀ node ∈ r.documents, Absent (g.sizedValues count ha) node := by
  obtain ⟨apiVersion, kind, spec, audiences, hcontroller, -, hservices⟩ := hr
  intro node hnode
  rcases List.mem_cons.1 hnode with rfl | hnode
  · rw [hcontroller]
    exact absent_gate hs hmin hcount _
  · obtain ⟨found, -, h⟩ := bind_eq_ok_iff.1 hservices
    rw [← pure_eq_ok_iff.1 h] at hnode
    obtain ⟨service, -, rfl⟩ := List.mem_map.1 hnode
    exact absent_gate hs hmin hcount _

/-- When the controller is there. -/
theorem stands?_controller (hs : s.chart = true) (hr : Scales s g r) :
    stands? (g.sizedValues count ha) r.controller.blocks
      = some (decide (g.run.scaling.min = 0 → 0 < count)) := by
  obtain ⟨apiVersion, kind, spec, audiences, hcontroller, -, -⟩ := hr
  rw [hcontroller]
  by_cases hmin : g.run.scaling.min = 0
  · have hblocks : ∀ m : Mapping, (g.gate s (.entries m)).blocks
        = [ifBlock (.gt g.replicaCount (.number 0))] := by
      intro m
      rw [gate, presence?, hs, hmin]
      rfl
    rw [hblocks, Template.stands?_singleton, holds?_presence]
    simp [hmin]
  · have hgate : ∀ node, g.gate s node = node := by
      intro node
      simp [gate, presence?, hmin]
    rw [hgate]
    simp [hmin, Node.entries, Node.blocks, Node.notes, stands?]

/-! ## What is refused and what is deployed -/

/-- What the guards of a controller that is there refuse. -/
theorem refuses?_eq (hs : s.chart = true) (hr : Scales s g r) (ha : Bool)
    (hthere : g.run.scaling.min = 0 → 0 < count) :
    ∃ b, r.refuses? (g.sizedValues count ha) = some b ∧
      (b = true ↔ g.run.scaling.Refuses count ha) := by
  obtain ⟨b, hb, hiff⟩ := failJust_replicaGuards g count ha
  refine ⟨b, ?_, hiff⟩
  rw [GroupResources.refuses?, stands?_controller hs hr, decide_eq_true hthere, replicaChecks_eq hs hr]
  exact hb

/-- Which numbers of replicas a release may not set. A number that leaves out a group leaves out its
controller and its services as a whole, and nothing fails. Every other number makes the release fail in
one of the guards if and only if it is below the minimum, above the maximum, even where it must be odd,
or with high availability neither at the minimum nor as high as that asks for. -/
theorem refuses_iff (h : g.resources m s = .ok (some r)) (hs : s.chart = true) (hw : r.workload ≠ .job)
    (count : Int) (ha : Bool) :
    (g.run.scaling.min = 0 ∧ count ≤ 0 →
      (∀ node ∈ r.documents, Absent (g.sizedValues count ha) node) ∧
        r.refuses? (g.sizedValues count ha) = some false) ∧
    (¬ (g.run.scaling.min = 0 ∧ count ≤ 0) →
      ∃ b, r.refuses? (g.sizedValues count ha) = some b ∧
        (b = true ↔ g.run.scaling.Refuses count ha)) := by
  have hr := scales_resources h hw
  constructor
  · rintro ⟨hmin, hcount⟩
    refine ⟨absent_documents hs hmin hcount hr, ?_⟩
    rw [GroupResources.refuses?, stands?_controller hs hr, decide_eq_false (by omega)]
    rfl
  · intro hthere
    exact refuses?_eq hs hr ha (by omega)

/-- A service that runs once or three times, and twice with high availability. -/
def oddGroup : Group where
  name := "api"
  run := { scaling := { min := 1, max := 3, ha := 2, mustBeOdd := true } }

/-- The documents of this service are built, and it is no job. -/
theorem resources_odd : ∃ r, oddGroup.resources {} { chart := true } = .ok (some r) ∧
    r.workload ≠ .job := by
  have hc : ∃ c, Pod.container {} { chart := true } oddGroup = .ok c := by
    unfold Pod.container
    rw [Pod.environment_of_no_jobs _ _ rfl]
    exact ⟨_, rfl⟩
  obtain ⟨c, hc⟩ := hc
  -- the image is a hash, which nothing here computes: the container stays unknown
  have hcontainers : [oddGroup].mapM (Pod.container {} { chart := true }) = .ok [c] := by
    simp only [mapM_cons_eq_ok_iff, mapM_nil_eq_ok_iff]
    exact ⟨c, [], hc, rfl, rfl⟩
  have hcolocated : Pod.colocatedGroups {} oddGroup = .ok [] := rfl
  have hw : oddGroup.workload? = some .deployment := by decide
  unfold resources deployment Pod.podTemplate Pod.podSpec
  rw [hw, hcolocated]
  simp only [bind, Except.bind, hcontainers]
  exact ⟨_, rfl, nofun⟩

/-- Its bounds admit one replica and three, with high availability or without it. -/
theorem not_refuses_odd {count : Int} (h : count = 1 ∨ count = 3) (ha : Bool) :
    ¬ oddGroup.run.scaling.Refuses count ha := by
  rcases h with rfl | rfl
  all_goals simp [Scaling.Refuses, oddGroup, Scaling.haMin]

theorem refuses_iff_odd : ∃ r, oddGroup.resources {} { chart := true } = .ok (some r) ∧
    r.workload ≠ .job ∧ r.refuses? (oddGroup.sizedValues 2 false) = some true ∧
    r.refuses? (oddGroup.sizedValues 3 true) = some false := by
  obtain ⟨r, hr, hw⟩ := resources_odd
  obtain ⟨b, hb, hiff⟩ := (refuses_iff hr rfl hw 2 false).2 (by decide)
  obtain ⟨c, hc, hiff'⟩ := (refuses_iff hr rfl hw 3 true).2 (by decide)
  have hrefused : oddGroup.run.scaling.Refuses 2 false := .inr (.inr (.inl ⟨rfl, by decide⟩))
  obtain rfl := hiff.2 hrefused
  have hc' : c = false := Bool.eq_false_iff.2 fun h => not_refuses_odd (.inr rfl) true (hiff'.1 h)
  exact ⟨r, hr, hw, hb, hc' ▸ hc⟩

/-! ## What is deployed -/

theorem eval?_chartReplicas :
    g.chartReplicas.eval? (g.sizedValues count ha) = some (g.run.scaling.deployed count ha) := by
  have hcondition : g.Means count ha (.and haSwitch (.eq g.replicaCount (.number g.run.scaling.min)))
      (ha = true ∧ count = g.run.scaling.min) := means_haSwitch.and (means_eq _)
  obtain ⟨-, v, hv, hiff⟩ := hcondition
  by_cases hraised : g.run.scaling.haMin = g.run.scaling.min
  · rw [chartReplicas, if_pos hraised]
    simp only [Template.Quantity.eval?, lookup_count, Value.number?, Scaling.deployed, hraised]
    split <;> simp_all
  · rw [chartReplicas, if_neg hraised]
    simp only [Template.Quantity.eval?, lookup_count, hv]
    by_cases h : v.truth = true <;> simp_all [Scaling.deployed, Value.number?]

theorem readable_chartReplicas :
    g.chartReplicas.Readable ((g.sizedValues count ha).map Prod.fst) := by
  have hpath : countPath g.varName ∈ (g.sizedValues count ha).map Prod.fst := by simp [sizedValues]
  by_cases hraised : g.run.scaling.haMin = g.run.scaling.min
  · rw [chartReplicas, if_pos hraised]
    exact hpath
  · rw [chartReplicas, if_neg hraised]
    exact ⟨⟨readable_haSwitch, readable_replicaCount, trivial⟩, hpath⟩

/-- What a release reads at the number of replicas is the number the bounds make of the one it was given. -/
theorem replicaNumber?_eq (hs : s.chart = true) (hr : Scales s g r) :
    r.replicaNumber? (g.sizedValues count ha) = some (g.run.scaling.deployed count ha) := by
  obtain ⟨apiVersion, kind, spec, audiences, hcontroller, hreplicas, -⟩ := hr
  have hnode : r.controller.get? ["spec", "replicas"] = some (g.replicas s) := by
    rw [hcontroller, get?_gate]
    simp [hreplicas]
  have htext : (g.replicas s).scalar? = some g.chartReplicas.render := by
    simp [replicas, hs, Node.verbatim, Node.scalar?]
  rw [GroupResources.replicaNumber?, hnode]
  simp only [Option.bind_eq_bind, Option.bind_some, htext]
  rw [Template.numberOf?_render (g.legible_sizedValues count ha) readable_chartReplicas,
    eval?_chartReplicas]

/-- The number of replicas that a release gets once no guard fails. It keeps the declared bounds, and
with high availability it is as high as that asks for. But a number at the minimum that is raised then
is not held to the bounds. -/
theorem replicaNumber?_bounded (h : g.resources m s = .ok (some r)) (hs : s.chart = true)
    (hw : r.workload ≠ .job)
    (hthere : stands? (g.sizedValues count ha) r.controller.blocks = some true)
    (hpasses : r.refuses? (g.sizedValues count ha) = some false) :
    ∃ n, r.replicaNumber? (g.sizedValues count ha) = some n ∧
      (ha = true → (g.run.scaling.haMin : Int) ≤ n) ∧
      (g.run.scaling.Raised count ha → n = g.run.scaling.haMin) ∧
      (¬ g.run.scaling.Raised count ha → n = count ∧ g.run.scaling.Keeps n) := by
  have hr := scales_resources h hw
  have hthere : g.run.scaling.min = 0 → 0 < count := by
    rw [stands?_controller hs hr, Option.some.injEq, decide_eq_true_iff] at hthere
    exact hthere
  have hkept : ¬ g.run.scaling.Refuses count ha := by
    obtain ⟨b, hb, hiff⟩ := refuses?_eq hs hr ha hthere
    obtain rfl : false = b := Option.some.inj (hpasses.symm.trans hb)
    simpa using hiff
  refine ⟨_, replicaNumber?_eq hs hr, Scaling.haMin_le_deployed hthere hkept, Scaling.deployed_of_raised, ?_⟩
  intro hraised
  rw [Scaling.deployed_of_not_raised hraised]
  exact ⟨rfl, Scaling.keeps_of_not_refuses hthere hkept⟩

/-- What a release gets that sets three replicas with high availability. -/
theorem replicaNumber?_bounded_odd : ∃ r, oddGroup.resources {} { chart := true } = .ok (some r) ∧
    r.workload ≠ .job ∧
    stands? (oddGroup.sizedValues 3 true) r.controller.blocks = some true ∧
    r.refuses? (oddGroup.sizedValues 3 true) = some false ∧
    r.replicaNumber? (oddGroup.sizedValues 3 true) = some 3 := by
  obtain ⟨r, hr, hw⟩ := resources_odd
  have hscales := scales_resources hr hw
  have hthere : stands? (oddGroup.sizedValues 3 true) r.controller.blocks = some true := by
    rw [stands?_controller rfl hscales]
    rfl
  obtain ⟨b, hb, hiff⟩ : ∃ b, r.refuses? (oddGroup.sizedValues 3 true) = some b ∧ _ :=
    refuses?_eq rfl hscales true (by decide)
  have hpasses : b = false := Bool.eq_false_iff.2 fun h => not_refuses_odd (.inr rfl) true (hiff.1 h)
  subst hpasses
  obtain ⟨n, hn, -, -, hset⟩ := replicaNumber?_bounded hr rfl hw hthere hb
  obtain ⟨rfl, -⟩ := hset (by simp [Scaling.Raised, oddGroup])
  exact ⟨r, hr, hw, hthere, hb, hn⟩

/-- One replica is raised to two, which is not odd, and no guard fails. -/
theorem not_keeps_raised : ∃ r, oddGroup.resources {} { chart := true } = .ok (some r) ∧
    r.workload ≠ .job ∧ oddGroup.run.scaling.mustBeOdd = true ∧
    stands? (oddGroup.sizedValues 1 true) r.controller.blocks = some true ∧
    r.refuses? (oddGroup.sizedValues 1 true) = some false ∧
    r.replicaNumber? (oddGroup.sizedValues 1 true) = some 2 ∧ ¬ (2 : Int) % 2 = 1 := by
  obtain ⟨r, hr, hw⟩ := resources_odd
  have hscales := scales_resources hr hw
  obtain ⟨b, hb, hiff⟩ : ∃ b, r.refuses? (oddGroup.sizedValues 1 true) = some b ∧ _ :=
    refuses?_eq rfl hscales true (by decide)
  have hpasses : b = false := Bool.eq_false_iff.2 fun h => not_refuses_odd (.inl rfl) true (hiff.1 h)
  subst hpasses
  refine ⟨r, hr, hw, rfl, ?_, hb, ?_, by decide⟩
  · rw [stands?_controller rfl hscales]
    rfl
  · rw [replicaNumber?_eq rfl hscales]
    rfl

end Group

end RoleChart
