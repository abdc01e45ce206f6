import RoleChart.Chart.Values
import RoleChart.Document.OfValue
import RoleChart.Proofs.Manifest.Texts

/-!
# Documents and the values that they look up

The document with the values has an entry for the switches of a release, for what describes the cluster,
for secrets, for services, and for the sizing values of a group, node affinity aside. Here it is said what
it means that the values have everything that a document looks up, and which documents inherit it from
their parts.

Two places look up sizing values that need not be there: the numbers of replicas in environments, and the
guards on keys that moved.

## Main statements

* `covers_append` — texts that meet at the end of a word are covered if both are
* `covers_render` — a condition is covered if its paths are
* `AllCovered.append`, `covered_entries` — a mapping is covered if its entries are
-/

namespace RoleChart.Chart

open RoleChart.Document
open Template (valuePaths Free action Term)

/-! ## Paths -/

/-- Whether the values must have an entry at a path. -/
def Promised : List String → Bool
  | "config" :: _ | "kube" :: _ | "secrets" :: _ | "services" :: _ => true
  | "sizing" :: _ :: key => !key.isEmpty && key != ["affinity", "nodeAffinity"]
  | _ => false

/-- Whether the values have an entry at a path. -/
def Has (values : Node) (path : List String) : Prop := (values.get? path).isSome = true

/-- Whether the values have all that a text looks up and that they must have. -/
def Covers (values : Node) (text : String) : Prop :=
  ∀ path ∈ valuePaths text.toList, Promised path = true → Has values path

/-! ## Documents -/

/-- Whether an entry is a guard on a key that moved. -/
def isMovedGuard (name : String) : Bool := "_moved_sizing_".toList.isPrefixOf name.toList

/-- Whether a mapping is the entry of an environment for a number of replicas. The name may stand
between quotes. -/
def isCountEntry : Mapping → Bool
  | [("name", .scalar _ name), ("value", _)] =>
    "KUBE_SIZING_".toList.isPrefixOf (name.toList.dropWhile (· == '"'))
  | _ => false

/-- Whether a path is one of sizing values. -/
def isSizing : List String → Bool
  | "sizing" :: _ => true
  | _ => false

/-- Leaves sizing values aside in a place that may look up those that are not there. -/
def aside (lenient : Bool) (paths : List (List String)) : List (List String) :=
  if lenient then paths.filter (!isSizing ·) else paths

/-- What texts look up. -/
def textLookups (texts : List String) : List (List String) :=
  texts.flatMap fun text => valuePaths text.toList

mutual

/-- What the blocks and scalars of a document look up, those sizing values aside that need not be there. -/
def lookups : Node → List (List String)
  | .scalar notes text => textLookups notes.blocks ++ valuePaths text.toList
  | .list notes nodes => textLookups notes.blocks ++ itemLookups nodes
  | .mapping notes m => textLookups notes.blocks ++ aside (isCountEntry m) (entryLookups m)

/-- What the items of a list look up. -/
def itemLookups : List Node → List (List String)
  | [] => []
  | n :: nodes => lookups n ++ itemLookups nodes

/-- What the entries of a mapping look up. -/
def entryLookups : List (String × Node) → List (List String)
  | [] => []
  | (name, n) :: m => aside (isMovedGuard name) (lookups n) ++ entryLookups m

end

/-- Whether the values have all that a document looks up and that they must have. -/
def Covered (values n : Node) : Prop := ∀ path ∈ lookups n, Promised path = true → Has values path

/-- Whether the values have all of it but sizing values. -/
def CoveredAside (values n : Node) : Prop :=
  ∀ path ∈ lookups n, isSizing path = false → Promised path = true → Has values path

/-- Whether the values have what the entries of a mapping look up. A guard on a key that moved may look up
any sizing values. -/
def AllCovered (values : Node) (m : Mapping) : Prop :=
  ∀ entry ∈ m, CoveredAside values entry.2 ∧ (isMovedGuard entry.1 = false → Covered values entry.2)

variable {v n : Node} {m : Mapping} {a b text : String}

/-! ## Texts -/

/-- A text that only looks up what the values may leave out asks nothing of them. -/
theorem covers_of_unpromised (h : ∀ path ∈ valuePaths text.toList, Promised path = false) :
    Covers v text := by
  intro path hpath hpromised
  rw [h path hpath] at hpromised
  cases hpromised

/-- Nor does a text without template expressions. -/
theorem covers_of_free (h : Free text.toList) : Covers v text := by
  refine covers_of_unpromised fun path hpath => ?_
  rw [Template.valuePaths_of_free h] at hpath
  exact absurd hpath List.not_mem_nil

/-- Texts that meet at the end of a word are covered if both are. -/
theorem covers_append (ha : Covers v a) (hb : Covers v b)
    (h : Template.endsWord a.toList = true ∨ Template.beginsWord b.toList = true) : Covers v (a ++ b) := by
  intro path hpath
  rw [String.toList_append, Template.valuePaths_append h] at hpath
  exact (List.mem_append.1 hpath).elim (ha path) (hb path)

/-- How a text ends is decided by its last part. -/
theorem endsWord_append (h : Template.endsWord b.toList = true) :
    Template.endsWord (a ++ b).toList = true := by
  obtain ⟨c, hc, hp⟩ := (Option.any_eq_true _ _).1 h
  rw [String.toList_append, Template.endsWord, List.getLast?_append, hc]
  exact hp

/-- How a text begins is decided by its first part. -/
theorem beginsWord_append (h : Template.beginsWord a.toList = true) :
    Template.beginsWord (a ++ b).toList = true := by
  obtain ⟨c, hc, hp⟩ := (Option.any_eq_true _ _).1 h
  rw [String.toList_append, Template.beginsWord, List.head?_append, hc]
  exact hp

/-- An action ends in braces, so no path runs on behind it. -/
theorem endsWord_action (body : String) : Template.endsWord (action body).toList = true :=
  endsWord_append rfl

/-- An action begins with braces, so no path runs on into it. -/
theorem beginsWord_action (body : String) : Template.beginsWord (action body).toList = true :=
  beginsWord_append (beginsWord_append rfl)

/-- Two texts are covered around a third one that ends words on both sides. -/
theorem covers_around (between : String) (ha : Covers v a) (hb : Covers v b) (h : Covers v between)
    (hbegins : Template.beginsWord between.toList = true) (hends : Template.endsWord between.toList = true) :
    Covers v (a ++ between ++ b) :=
  covers_append (covers_append ha h (.inr hbegins)) hb (.inl (endsWord_append hends))

/-- The braces around the body of an action look nothing up. -/
theorem covers_action (h : Covers v text) : Covers v (action text) := by
  intro path hpath
  rw [Template.valuePaths_action] at hpath
  exact h path hpath

theorem covers_quoted (h : Free text.toList) : Covers v (Template.quoted text) :=
  covers_of_free (Template.free_quoted h)

theorem covers_digits (k : Nat) : Covers v (Template.digits k) :=
  covers_of_free (Template.free_of_not_mem (c := '.') (by decide) (Template.dot_not_mem_digits k))

/-! ## Template expressions -/

/-- Whether the values have all that a condition looks up and that they must have. -/
def Known (v : Node) : Term → Prop
  | .path p => Covers v p
  | .number _ => True
  | .text s => Free s.toList
  | .int t | .not t => Known v t
  | .mod a b | .eq a b | .ne a b | .lt a b | .gt a b | .and a b => Known v a ∧ Known v b
  | .lists word p => Free word.toList ∧ Covers v p

/-- Parentheses around an argument look nothing up. -/
theorem covers_group (atom : Bool) (h : Covers v text) : Covers v (Term.group atom text) := by
  unfold Term.group
  split
  · exact h
  · have hopen : Covers v "(" := covers_of_unpromised (by decide)
    have hclose : Covers v ")" := covers_of_unpromised (by decide)
    have hinner : Covers v ("(" ++ text) := covers_append hopen h (.inl rfl)
    exact covers_append hinner hclose (.inr rfl)

/-- A function of two arguments. -/
theorem covers_binary {f : String} (hends : Template.endsWord f.toList = true) (hf : Covers v f)
    (hatom hatom' : Bool) (ha : Covers v a) (hb : Covers v b) :
    Covers v (f ++ Term.group hatom a ++ " " ++ Term.group hatom' b) := by
  have hblank : Covers v " " := covers_of_unpromised (by decide)
  have hfirst := covers_append hf (covers_group hatom ha) (.inl hends)
  exact covers_around " " hfirst (covers_group hatom' hb) hblank rfl rfl

/-- A condition is covered if its paths are. -/
theorem covers_render (t : Term) (h : Known v t) : Covers v t.render := by
  induction t with
  | path p => exact h
  | number k => exact covers_digits k
  | text s => exact covers_quoted h
  | int t ih =>
    -- the name of a function looks nothing up and ends in a blank
    have hint : Covers v "int " := covers_of_unpromised (by decide)
    rw [Term.render]
    exact covers_append hint (covers_group _ (ih h)) (.inl rfl)
  | not t ih =>
    have hnot : Covers v "not " := covers_of_unpromised (by decide)
    rw [Term.render]
    exact covers_append hnot (covers_group _ (ih h)) (.inl rfl)
  | mod a b iha ihb =>
    have hmod : Covers v "mod " := covers_of_unpromised (by decide)
    rw [Term.render]
    exact covers_binary rfl hmod _ _ (iha h.1) (ihb h.2)
  | eq a b iha ihb =>
    have heq : Covers v "eq " := covers_of_unpromised (by decide)
    rw [Term.render]
    exact covers_binary rfl heq _ _ (iha h.1) (ihb h.2)
  | ne a b iha ihb =>
    have hne : Covers v "ne " := covers_of_unpromised (by decide)
    rw [Term.render]
    exact covers_binary rfl hne _ _ (iha h.1) (ihb h.2)
  | lt a b iha ihb =>
    have hlt : Covers v "lt " := covers_of_unpromised (by decide)
    rw [Term.render]
    exact covers_binary rfl hlt _ _ (iha h.1) (ihb h.2)
  | gt a b iha ihb =>
    have hgt : Covers v "gt " := covers_of_unpromised (by decide)
    rw [Term.render]
    exact covers_binary rfl hgt _ _ (iha h.1) (ihb h.2)
  | and a b iha ihb =>
    have hand : Covers v "and " := covers_of_unpromised (by decide)
    rw [Term.render]
    exact covers_binary rfl hand _ _ (iha h.1) (ihb h.2)
  | lists word p =>
    have hhas : Covers v "has " := covers_of_unpromised (by decide)
    have hlist : Covers v " (splitList \",\" (join \",\" (default (list) " := covers_of_unpromised (by decide)
    have hupper : Covers v ") | upper))" := covers_of_unpromised (by decide)
    rw [Term.render]
    have hword := covers_append hhas (covers_quoted h.1) (.inl rfl)
    exact covers_append (covers_around _ hword h.2 hlist rfl rfl) hupper (.inr rfl)

/-- A block looks up what its condition does. -/
theorem covers_ifBlock {t : Term} (h : Known v t) : Covers v (Template.ifBlock t) := by
  have hif : Covers v "if " := covers_of_unpromised (by decide)
  unfold Template.ifBlock
  exact covers_append hif (covers_render t h) (.inl rfl)

theorem covers_rangeBlock (h : Covers v text) : Covers v (Template.rangeBlock text) := by
  have hrange : Covers v "range " := covers_of_unpromised (by decide)
  unfold Template.rangeBlock
  exact covers_append hrange h (.inl rfl)

theorem covers_countBlock (h : Covers v text) : Covers v (Template.countBlock text) := by
  have hrange : Covers v "range $i := until (int " := covers_of_unpromised (by decide)
  have hclose : Covers v ")" := covers_of_unpromised (by decide)
  unfold Template.countBlock
  exact covers_append (covers_append hrange h (.inl rfl)) hclose (.inr rfl)

/-- A value that is required with a message is looked up as it would be without one. -/
theorem covers_requiredValue {name : String} (hname : Free name.toList) (h : Covers v text) :
    Covers v (Template.requiredValue name text) := by
  have hmessage : Free (name ++ " configuration missing").toList :=
    Template.free_append hname (by decide) (.inr rfl)
  have hrequired : Covers v "required " := covers_of_unpromised (by decide)
  have hblank : Covers v " " := covers_of_unpromised (by decide)
  unfold Template.requiredValue
  have hfirst := covers_append hrequired (covers_quoted hmessage) (.inl rfl)
  exact covers_around " " hfirst h hblank rfl rfl

/-- One text or another under a condition. -/
theorem covers_choose {t : Term} (ht : Known v t) (ha : Covers v a) (hb : Covers v b) :
    Covers v (Template.choose t a b) := by
  have helse : Covers v (action "else") := covers_of_unpromised (by decide)
  have hend : Covers v (action "end") := covers_of_unpromised (by decide)
  unfold Template.choose
  have hyes := covers_append (covers_action (covers_ifBlock ht)) ha (.inl (endsWord_action _))
  have hboth := covers_around _ hyes hb helse (beginsWord_action _) (endsWord_action _)
  exact covers_append hboth hend (.inr (beginsWord_action _))

/-- A number of a chart. -/
theorem covers_constantIf {t : Term} (k : Nat) (ht : Known v t) (h : Covers v text) :
    Covers v (Template.Quantity.constantIf t k text).render := by
  have hopen : Covers v "\x7b\x7b " := covers_of_unpromised (by decide)
  have hclose : Covers v " -\x7d\x7d " := covers_of_unpromised (by decide)
  have helse : Covers v " \x7b\x7b- else -\x7d\x7d " := covers_of_unpromised (by decide)
  have hend : Covers v " \x7b\x7b- end \x7d\x7d" := covers_of_unpromised (by decide)
  rw [Template.Quantity.render]
  have hif := covers_append hopen (covers_ifBlock ht) (.inl rfl)
  have hconstant := covers_around _ hif (covers_digits k) hclose rfl rfl
  have hvalue := covers_around _ hconstant (covers_action h) helse rfl rfl
  exact covers_append hvalue hend (.inr rfl)

/-! ## Documents put together -/

theorem mem_aside {lenient : Bool} {path : List String} {paths : List (List String)} :
    path ∈ aside lenient paths ↔ path ∈ paths ∧ (lenient = true → isSizing path = false) := by
  cases lenient <;> simp [aside]

/-- What a list looks up is what one of its items does. -/
theorem mem_itemLookups {path : List String} {nodes : List Node} :
    path ∈ itemLookups nodes ↔ ∃ n ∈ nodes, path ∈ lookups n := by
  induction nodes with
  | nil => simp [itemLookups]
  | cons n nodes ih => simp [itemLookups, ih]

/-- What a mapping looks up is what one of its entries does; of a guard on a key that moved only paths outside
of the sizing values count. -/
theorem mem_entryLookups {path : List String} : path ∈ entryLookups m ↔
    ∃ entry ∈ m, path ∈ lookups entry.2 ∧ (isMovedGuard entry.1 = true → isSizing path = false) := by
  induction m with
  | nil => simp [entryLookups]
  | cons entry m ih => simp [entryLookups, mem_aside, ih]

theorem Covered.aside (h : Covered v n) : CoveredAside v n := fun path hpath _ => h path hpath

/-- A document that looks up nothing but sizing values is covered with these left aside. -/
theorem coveredAside_of_sizing (h : ∀ path ∈ lookups n, isSizing path = true) : CoveredAside v n := by
  intro path hpath hsizing
  rw [h path hpath] at hsizing
  cases hsizing

theorem lookups_verbatim (text : String) : lookups (.verbatim text) = valuePaths text.toList := by
  rw [Node.verbatim, lookups]
  rfl

theorem covered_verbatim (h : Covers v text) : Covered v (.verbatim text) := by
  rwa [Covered, lookups_verbatim]

/-- A text of the manifest without template expressions is covered by any values. -/
theorem covered_string (h : Free text.toList) : Covered v (.string text) :=
  covered_verbatim (covers_of_free (by rw [String.toList_ofList]; exact Template.free_quote h))

/-- So is a text that is written as data. -/
theorem covered_literal (h : Free text.toList) : Covered v (.literal text) :=
  covered_verbatim (covers_of_free (by rw [String.toList_ofList]; exact Template.free_quoteLiteral h))

theorem covered_null : Covered v .null := covered_verbatim (covers_of_free (by decide))

theorem covered_number (k : Nat) : Covered v (.number k) := covered_verbatim (covers_digits k)

theorem covered_integer (z : Int) : Covered v (.integer z) := by
  refine covered_verbatim (covers_of_free ?_)
  rw [String.toList_ofList]
  exact Template.free_of_not_mem (c := '.') (by decide) (Template.dot_not_mem_decimalInt z)

theorem covered_flag (on : Bool) : Covered v (.flag on) := by
  cases on
  · exact covered_verbatim (covers_of_free (by decide))
  · exact covered_verbatim (covers_of_free (by decide))

/-- A list is covered if all of its items are. -/
theorem covered_items {nodes : List Node} (h : ∀ n ∈ nodes, Covered v n) : Covered v (.items nodes) := by
  intro path hpath
  rw [Node.items, lookups] at hpath
  obtain ⟨n, hn, hpath⟩ := mem_itemLookups.1 hpath
  exact h n hn path hpath

theorem covered_singleton (h : Covered v n) : Covered v (.items [n]) :=
  covered_items fun other hother => by rwa [List.mem_singleton.1 hother]

/-- A mapping is covered if its entries are. -/
theorem covered_entries (h : AllCovered v m) : Covered v (.entries m) := by
  intro path hpath
  rw [Node.entries, lookups] at hpath
  obtain ⟨entry, hentry, hpath, hmoved⟩ := mem_entryLookups.1 (mem_aside.1 hpath).1
  obtain ⟨haside, hcovered⟩ := h entry hentry
  cases hname : isMovedGuard entry.1 with
  | true => exact haside path hpath (hmoved hname)
  | false => exact hcovered hname path hpath

/-- A number of replicas may look up any sizing values. -/
theorem covered_countEntry (hm : isCountEntry m = true) (h : ∀ entry ∈ m, CoveredAside v entry.2) :
    Covered v (.entries m) := by
  intro path hpath
  rw [Node.entries, lookups] at hpath
  obtain ⟨hpath, hsizing⟩ := mem_aside.1 hpath
  obtain ⟨entry, hentry, hpath, -⟩ := mem_entryLookups.1 hpath
  exact h entry hentry path hpath (hsizing hm)

/-- The blocks of a node are looked up beside what it has inside. -/
theorem mem_lookups_iff {path : List String} :
    path ∈ lookups n ↔ path ∈ textLookups n.blocks ∨ path ∈ lookups (n.withNotes {}) := by
  cases n <;> simp [lookups, Node.withNotes, Node.blocks, Node.notes, textLookups]

/-- A block around a node adds what its condition looks up. -/
theorem mem_lookups_withBlock {path : List String} {block : String} :
    path ∈ lookups (n.withBlock block) ↔ path ∈ lookups n ∨ path ∈ valuePaths block.toList := by
  rw [mem_lookups_iff, mem_lookups_iff (n := n), Node.withBlock, Node.withNotes_withNotes, Node.blocks,
    Node.notes_withNotes, textLookups, List.flatMap_append, List.mem_append, ← textLookups]
  simp only [List.flatMap_singleton]
  exact or_right_comm

theorem mem_lookups_wrapBlock {path : List String} {block : String} :
    path ∈ lookups (n.wrapBlock block) ↔ path ∈ valuePaths block.toList ∨ path ∈ lookups n := by
  rw [mem_lookups_iff, mem_lookups_iff (n := n), Node.wrapBlock, Node.withNotes_withNotes, Node.blocks,
    Node.notes_withNotes, textLookups, List.flatMap_cons, List.mem_append, ← textLookups, or_assoc]

/-- A comment is no part of what is looked up. -/
theorem lookups_withComment (n : Node) (comment : String) : lookups (n.withComment comment) = lookups n := by
  cases n <;> rfl

namespace Covered

variable {block : String}

theorem withBlock (h : Covered v n) (hblock : Covers v block) : Covered v (n.withBlock block) :=
  fun path hpath => (mem_lookups_withBlock.1 hpath).elim (h path) (hblock path)

theorem wrapBlock (h : Covered v n) (hblock : Covers v block) : Covered v (n.wrapBlock block) :=
  fun path hpath => (mem_lookups_wrapBlock.1 hpath).elim (hblock path) (h path)

theorem withComment (h : Covered v n) (comment : String) : Covered v (n.withComment comment) := by
  rwa [Covered, lookups_withComment]

end Covered

namespace AllCovered

variable {name : String} {m' : Mapping}

/-- Covered entries need no exception for guards on keys that moved. -/
theorem of_forall (h : ∀ entry ∈ m, Covered v entry.2) : AllCovered v m :=
  fun entry hentry => ⟨(h entry hentry).aside, fun _ => h entry hentry⟩

theorem nil : AllCovered v [] := fun _ h => absurd h List.not_mem_nil

theorem single (hn : Covered v n) : AllCovered v [(name, n)] :=
  .of_forall fun entry hentry => by rwa [List.mem_singleton.1 hentry]

theorem append (h : AllCovered v m) (h' : AllCovered v m') : AllCovered v (m ++ m') := by
  intro entry hentry
  exact (List.mem_append.1 hentry).elim (h entry) (h' entry)

theorem cons (hn : Covered v n) (h : AllCovered v m) : AllCovered v ((name, n) :: m) := (single hn).append h

/-- Entries that are there under a condition. -/
theorem ite {p : Prop} [Decidable p] (h : p → AllCovered v m) (h' : ¬ p → AllCovered v m') :
    AllCovered v (if p then m else m') := by
  split
  · next hp => exact h hp
  · next hp => exact h' hp

/-- A covered entry in the place of another, or behind all of them, keeps the mapping covered. -/
theorem replace (h : AllCovered v m) (hn : Covered v n) : AllCovered v (Mapping.replace m name n).2 := by
  unfold Mapping.replace
  split
  · intro entry hentry
    rcases List.mem_or_eq_of_mem_set hentry with hentry | rfl
    · exact h entry hentry
    · exact ⟨hn.aside, fun _ => hn⟩
  · exact h.append (single hn)

end AllCovered

/-! ## Data -/

mutual

/-- A value becomes a document that looks up nothing. -/
theorem covered_ofValue : ∀ value : Yaml.Value, (∀ text ∈ value.texts, Free text.toList) →
    Covered v (.ofValue value)
  | .null, _ => by rw [Node.ofValue]; exact covered_null
  | .bool b, _ => by rw [Node.ofValue]; exact covered_flag b
  | .int z, _ => by rw [Node.ofValue]; exact covered_integer z
  | .float x, _ => by
    rw [Node.ofValue]
    exact covered_verbatim (covers_of_free (Template.free_floatText x))
  | .string s, h => by
    rw [Node.ofValue]
    exact covered_literal (h s (by simp [Yaml.Value.texts]))
  | .sequence values, h => by
    rw [Node.ofValue]
    exact covered_items (covered_itemsOfValues values (by rwa [Yaml.Value.texts] at h))
  | .mapping found, h => by
    rw [Node.ofValue]
    exact covered_entries (allCovered_entriesOfValues found [] .nil (by rwa [Yaml.Value.texts] at h))
  | .tagged _ value, h => by
    rw [Node.ofValue]
    exact covered_ofValue value (by rwa [Yaml.Value.texts] at h)

/-- The items of a value of the manifest are covered if none of its texts has a template expression. -/
theorem covered_itemsOfValues : ∀ values : List Yaml.Value,
    (∀ text ∈ Yaml.Value.itemTexts values, Free text.toList) → ∀ n ∈ itemsOfValues values, Covered v n
  | [], _, n, hn => by
    rw [itemsOfValues] at hn
    exact absurd hn List.not_mem_nil
  | value :: values, h, n, hn => by
    rw [Yaml.Value.itemTexts] at h
    rw [itemsOfValues] at hn
    rcases List.mem_cons.1 hn with rfl | hn
    · exact covered_ofValue value fun text htext => h text (List.mem_append_left _ htext)
    · exact covered_itemsOfValues values (fun text htext => h text (List.mem_append_right _ htext)) n hn

theorem allCovered_entriesOfValues : ∀ (found : List (Yaml.Value × Yaml.Value)) (done : Mapping),
    AllCovered v done → (∀ text ∈ Yaml.Value.entryTexts found, Free text.toList) →
      AllCovered v (entriesOfValues done found)
  | [], done, hdone, _ => by rwa [entriesOfValues]
  | (key, value) :: found, done, hdone, h => by
    rw [Yaml.Value.entryTexts] at h
    rw [entriesOfValues]
    have hvalue := covered_ofValue value fun text htext => h text (List.mem_append_left _ htext)
    exact allCovered_entriesOfValues found _ (hdone.replace hvalue)
      fun text htext => h text (List.mem_append_right _ htext)

end

/-! ## Heads of objects -/

/-- The labels of a release look up what belongs to the release and no values. -/
theorem allCovered_releaseLabels : AllCovered v releaseLabels := by
  have hinstance : Covers v ".Release.Name | quote" := covers_of_unpromised (by decide)
  have hmanager : Covers v ".Release.Service | quote" := covers_of_unpromised (by decide)
  have hname : Covers v "default .Chart.Name .Values.nameOverride | trunc 63 | quote" :=
    covers_of_unpromised (by decide)
  have hversion : Covers v "default .Chart.Version .Chart.AppVersion | quote" :=
    covers_of_unpromised (by decide)
  have hchart : Covers v
      "printf \"%s-%s\" .Chart.Name (.Chart.Version | replace \"+\" \"_\") | quote" :=
    covers_of_unpromised (by decide)
  exact .cons (covered_verbatim (covers_action hinstance)) <|
    .cons (covered_verbatim (covers_action hmanager)) <|
    .cons (covered_verbatim (covers_action hname)) <|
    .cons (covered_verbatim (covers_action hversion)) <|
    .single (covered_verbatim (covers_action hchart))

/-- The labels of a document add the name of its group and nothing that is looked up. -/
theorem allCovered_labels (s : Settings) {group : Option String}
    (hgroup : ∀ name ∈ group, Free name.toList) : AllCovered v (labels s group) := by
  unfold labels
  refine .append ?_ (.ite (fun _ => allCovered_releaseLabels) fun _ => .nil)
  cases group with
  | none => exact .nil
  | some name => exact .single (covered_string (hgroup name rfl))

theorem allCovered_objectMetadata (s : Settings) {name : String} (hname : Free name.toList)
    {group : Option String} (hgroup : ∀ name ∈ group, Free name.toList) :
    AllCovered v (objectMetadata s name group) := by
  unfold objectMetadata
  exact .cons (covered_string hname)
    (.ite (fun _ => .nil) fun _ => .single (covered_entries (allCovered_labels s hgroup)))

theorem allCovered_newObject {apiVersion kind : String} (hversion : Free apiVersion.toList)
    (hkind : Free kind.toList) (hm : AllCovered v m) : AllCovered v (newObject apiVersion kind m) :=
  .cons (covered_string hversion) (.cons (covered_string hkind) (.single (covered_entries hm)))

end RoleChart.Chart
