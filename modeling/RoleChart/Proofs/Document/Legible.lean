import RoleChart.Proofs.Document.Distinct
import RoleChart.Proofs.Document.Lookup
import RoleChart.Proofs.Document.RoundTrip

/-!
# Legible documents

A document without comments and blocks is legible if a reader takes each of its scalars for a value and each of
its names for that name. Such a document is read part by part, unless some of its lines look like one quoted
template expression and are joined. What is read is found where it stands in the document.

## Main statements

* `Node.Legible.written` — the lines of a legible document are the text of its outline
* `Node.Legible.decodes` — its outline is decoded as its content
* `ofText_render_of_legible` — so the document is read as its content
* `Node.listAt_content` — a list is read at the path where it stands
-/

namespace RoleChart.Yaml.Value

/-! ## Paths into values -/

/-- What stands under a name. -/
def lookup? (entries : List (Value × Value)) (name : String) : Option Value :=
  (entries.find? fun entry => entry.1.same (.string name)).map Prod.snd

/-- The value at a path of names. -/
def get? (v : Value) : List String → Option Value
  | [] => some v
  | name :: rest =>
    match v with
    | mapping entries => (lookup? entries name).bind fun child => child.get? rest
    | _ => none

/-- The items of the sequence at a path. There are none where no sequence is. -/
def listAt (v : Value) (path : List String) : List Value :=
  match v.get? path with
  | some (sequence items) => items
  | _ => []

theorem lookup?_cons (key : String) (v : Value) (entries : List (Value × Value)) (name : String) :
    lookup? ((string key, v) :: entries) name = if key = name then some v else lookup? entries name := by
  by_cases h : key = name
  · simp [lookup?, same, h]
  · simp [lookup?, same, h]

end RoleChart.Yaml.Value

namespace RoleChart.Document

open RoleChart.Text
open RoleChart.Yaml (Outline Spelling Value Decodes maxDepth marksDocument)
open RoleChart.Yaml.Outline (tailText itemsText entriesText hang itemsTrees entriesTrees ReadableItems
  ReadableEntries)

/-! ## Spellings -/

/-- The spelling of a text that is data. -/
def literalSpelling (s : List Char) : Spelling := if isTemplated s then .quoted s else spelling s

/-- The spelling of a name. -/
def keySpelling (s : List Char) : Spelling := if isTemplated s then .plain s else spelling s

/-- What is written for a text that is data is a spelling of it. -/
theorem chars_literalSpelling (s : List Char) : (literalSpelling s).chars = quoteLiteral s := by
  unfold literalSpelling quoteLiteral spelling
  cases isTemplated s <;> cases needsQuotes s <;> rfl

/-- So is what is written for a name. -/
theorem chars_keySpelling (s : List Char) : (keySpelling s).chars = quoteKey s := by
  unfold keySpelling quoteKey
  split
  · rfl
  · next h => exact chars_spelling (by simpa using h)

theorem feed_spelling (s : List Char) : '\n' ∉ (spelling s).chars := by
  unfold spelling
  split
  · exact fun hm => absurd (doubleQuoted_not_control _ _ hm) (by decide)
  · next hq =>
    obtain ⟨c, rest, -, -, -, -, -, -, hctl, -⟩ := Yaml.of_needsQuotes (by simpa using hq)
    exact fun hm => absurd (hctl _ hm) (by decide)

/-- Data stays on one line: a text with a line feed is put between quotes, where it is escaped. -/
theorem feed_literalSpelling (s : List Char) : '\n' ∉ (literalSpelling s).chars := by
  unfold literalSpelling
  split
  · exact fun hm => absurd (doubleQuoted_not_control _ _ hm) (by decide)
  · exact feed_spelling s

/-- A printable name stays on one line, also where its braces keep it from being quoted. -/
theorem feed_keySpelling {s : List Char} (h : s.all isPrintable = true) : '\n' ∉ (keySpelling s).chars := by
  unfold keySpelling
  split
  · exact fun hm => absurd (List.all_eq_true.1 h _ hm) (by decide)
  · exact feed_spelling s

theorem isAscii_of_isPrintable {c : Char} (h : isPrintable c = true) : isAscii c = true := by
  simp only [isPrintable, Bool.and_eq_true, decide_eq_true_eq] at h
  simp only [isAscii, decide_eq_true_eq]
  omega

theorem isQuotable_of_printable {s : List Char} (h : s.all isPrintable = true) :
    ∀ c ∈ s, Yaml.isQuotable c = true := fun c hc =>
  isQuotable_of_isAscii (isAscii_of_isPrintable (List.all_eq_true.1 h c hc))

/-- A printable text that is data is read as one scalar, whatever it looks like. -/
theorem readable_literalSpelling {s : List Char} (h : s.all isPrintable = true) :
    (literalSpelling s).Readable := by
  unfold literalSpelling
  split
  · exact isQuotable_of_printable h
  · exact readable_spelling fun c hc => isAscii_of_isPrintable (List.all_eq_true.1 h c hc)

/-- And its value is the text. -/
theorem value_literalSpelling (s : List Char) : (literalSpelling s).value = .ok (.string (String.ofList s)) := by
  unfold literalSpelling
  split
  · rfl
  · exact value_spelling s

/-- Whether a text that is written as it is, is read back. -/
structure StandsPlain (s : List Char) : Prop where
  readable : (Spelling.plain s).Readable
  value : (Spelling.plain s).value = .ok (.string (String.ofList s))

/-- A printable text that needs no quotes is read back without them. -/
theorem standsPlain_of_needsQuotes {s : List Char} (h : s.all isPrintable = true)
    (hn : needsQuotes s = false) : StandsPlain s :=
  ⟨Yaml.readable_plain (isQuotable_of_printable h) hn, Yaml.plainValue_of_needsQuotes hn⟩

/-- Whether a reader takes what is written for a text that may hold template expressions for this text. A text
with such an expression is written as it is. -/
structure TextLegible (t : String) : Prop where
  printable : t.toList.all isPrintable = true
  plain : isTemplated t.toList = true → StandsPlain t.toList

/-- Without template expressions a printable text gets the quotes it needs. -/
theorem textLegible_of_not_templated {t : String} (h : t.toList.all isPrintable = true)
    (ht : isTemplated t.toList = false) : TextLegible t := ⟨h, fun h => absurd h (by simp [ht])⟩

theorem TextLegible.readable {t : String} (h : TextLegible t) : (keySpelling t.toList).Readable := by
  unfold keySpelling
  split
  · next ht => exact (h.plain ht).readable
  · exact readable_spelling fun c hc => isAscii_of_isPrintable (List.all_eq_true.1 h.printable c hc)

/-- What is read for a legible text is the text. -/
theorem TextLegible.value {t : String} (h : TextLegible t) :
    (keySpelling t.toList).value = .ok (.string t) := by
  have hvalue : (keySpelling t.toList).value = .ok (.string (String.ofList t.toList)) := by
    unfold keySpelling
    split
    · next ht => exact (h.plain ht).value
    · exact value_spelling t.toList
  rwa [String.ofList_toList] at hvalue

/-- Whether a reader takes what is written for a name for this name. A name with a template expression is
written as it is, so it must need no quotes. -/
structure KeyFits (s : List Char) : Prop where
  plain : isTemplated s = true → needsQuotes s = false
  short : (quoteKey s).length ≤ Yaml.maxKeyLength

instance (s : List Char) : Decidable (KeyFits s) :=
  decidable_of_iff ((isTemplated s = true → needsQuotes s = false) ∧ (quoteKey s).length ≤ Yaml.maxKeyLength)
    ⟨fun h => ⟨h.1, h.2⟩, fun h => ⟨h.plain, h.short⟩⟩

/-- Whether a name is printable and a reader takes it for itself. -/
structure NameLegible (name : String) : Prop where
  printable : name.toList.all isPrintable = true
  fits : KeyFits name.toList

instance (name : String) : Decidable (NameLegible name) :=
  decidable_of_iff (name.toList.all isPrintable = true ∧ KeyFits name.toList)
    ⟨fun h => ⟨h.1, h.2⟩, fun h => ⟨h.printable, h.fits⟩⟩

theorem NameLegible.text {name : String} (h : NameLegible name) : TextLegible name :=
  ⟨h.printable, fun ht => standsPlain_of_needsQuotes h.printable (h.fits.plain ht)⟩

/-- A legible name is found as the key of an entry: it is read, and short enough for the reader to look back to.
-/
theorem NameLegible.readableKey {name : String} (h : NameLegible name) :
    (keySpelling name.toList).ReadableKey :=
  ⟨h.text.readable, by rw [chars_keySpelling]; exact h.fits.short⟩

/-- What is read as one scalar stands on one line. -/
theorem feed_of_readable {s : Spelling} (h : s.Readable) : '\n' ∉ s.chars := by
  cases s with
  | plain text =>
    intro hm
    obtain ⟨front, rest, rfl⟩ := List.append_of_mem hm
    exact absurd (Yaml.runsOn_not_gap (Yaml.runsOn_drop h.2.1) (by decide)) (by decide)
  | quoted text => exact fun hm => absurd (doubleQuoted_not_control _ _ hm) (by decide)

/-- The spelling that a reader sees in what is written for a scalar: quotes if it begins with one. -/
def spelled (text : List Char) : Spelling :=
  if text.head? = some '"' then
    .quoted (((Yaml.quotedScalar '"' { rest := text }).toOption.map Prod.fst).getD [])
  else .plain text

/-- A reader sees the spelling that was written. -/
theorem spelled_chars {s : Spelling} (h : s.Readable) : spelled s.chars = s := by
  cases s with
  | plain text =>
    have hhead : text.head? ≠ some '"' := by
      cases text with
      | nil => exact nofun
      | cons c rest =>
        rintro ⟨⟩
        obtain ⟨-, hfirst | ⟨hdash, -⟩⟩ := Yaml.startsPlain_head h.1
        · exact hfirst (by decide)
        · exact absurd hdash (by decide)
    rw [Spelling.chars, spelled, if_neg hhead]
  | quoted text =>
    have hread := Yaml.quotedScalar_doubleQuoted (t := text) (c := { rest := doubleQuoted text }) [] h
      (List.append_nil _).symm
    have hhead : (doubleQuoted text).head? = some '"' := rfl
    rw [Spelling.chars, spelled, if_pos hhead, hread]
    rfl

/-! ## Lines -/

/-- Lines of which none breaks, and the text they make. -/
structure Laid (lines : List Line) (text : List Char) : Prop where
  feed : ∀ l ∈ lines, '\n' ∉ l.row
  chars : lines.flatMap Line.chars = text

theorem laid_nil : Laid [] [] := ⟨nofun, rfl⟩

/-- Lines that are laid one after another make the texts one after another. -/
theorem Laid.append {lines lines' : List Line} {text text' : List Char} (h : Laid lines text)
    (h' : Laid lines' text') : Laid (lines ++ lines') (text ++ text') where
  feed := List.forall_mem_append.2 ⟨h.feed, h'.feed⟩
  chars := by rw [List.flatMap_append, h.chars, h'.chars]

theorem feed_row {l : Line} (h : '\n' ∉ l.text) : '\n' ∉ l.row := by
  rw [Line.row, List.mem_append, not_or]
  exact ⟨not_mem_spaces (by decide) _, h⟩

theorem laid_line {l : Line} (h : '\n' ∉ l.text) : Laid [l] l.chars where
  feed := List.forall_mem_singleton.2 (feed_row h)
  chars := List.append_nil _

theorem Laid.cons {l : Line} {lines : List Line} {text : List Char} (hl : '\n' ∉ l.text)
    (h : Laid lines text) : Laid (l :: lines) (l.chars ++ text) := (laid_line hl).append h

/-- A mapping whose first entry has no notes begins on the line of its dash. -/
theorem Laid.dashed {name : String} {first : Node} {m : Mapping} {step n : Nat} {text : List Char}
    (hnotes : first.notes.isEmpty = true)
    (h : Laid (mappingLines step (n + 2) ((name, first) :: m)) text) :
    Laid (dashed n ((name, first) :: m) (mappingLines step (n + 2) ((name, first) :: m)))
      (List.replicate n ' ' ++ '-' :: hang true (n + 2) text) := by
  obtain ⟨tail, rest, hl⟩ := Draft.entryLines_head hnotes step (n + 2) name
  rw [mappingLines, hl, List.cons_append] at h ⊢
  obtain ⟨hfeed, rfl⟩ := h
  obtain ⟨hfirst, hrest⟩ := List.forall_mem_cons.1 hfeed
  have htext : '\n' ∉ keyText name ++ tail := fun hm => hfirst (List.mem_append_right _ hm)
  rw [Document.dashed, if_pos hnotes]
  refine ⟨List.forall_mem_cons.2 ⟨feed_row (by simpa using htext), hrest⟩, ?_⟩
  rw [List.flatMap_cons, List.flatMap_cons, Line.chars, Line.chars, List.append_assoc, List.append_assoc,
    List.append_assoc, List.append_assoc, List.append_assoc, Draft.hang_true (by simp)]
  simp

/-! ## Content -/

namespace Node

mutual

/-- The value that a document stands for. -/
def content : Node → Value
  | scalar _ text => (spelled text.toList).value.toOption.getD .null
  | list _ nodes => .sequence (itemContents nodes)
  | mapping _ m => .mapping (entryContents m)

/-- The values of the items of a list. -/
def itemContents : List Node → List Value
  | [] => []
  | n :: nodes => n.content :: itemContents nodes

/-- The values of the entries of a mapping. -/
def entryContents : List (String × Node) → List (Value × Value)
  | [] => []
  | (name, n) :: m => (.string name, n.content) :: entryContents m

end

mutual

/-- The outline of a document. -/
def outline : Node → Outline
  | scalar _ text => .scalar (spelled text.toList)
  | list _ [] => .noItems
  | list _ (n :: nodes) => .sequence (itemOutlines (n :: nodes))
  | mapping _ [] => .noEntries
  | mapping _ (entry :: m) => .mapping true (entryOutlines (entry :: m))

/-- The outlines of the items of a list. -/
def itemOutlines : List Node → List (List (List Char) × Outline)
  | [] => []
  | n :: nodes => ([], n.outline) :: itemOutlines nodes

/-- The outlines of the entries of a mapping. -/
def entryOutlines : List (String × Node) → List (List (List Char) × Spelling × Outline)
  | [] => []
  | (name, n) :: m => ([], keySpelling name.toList, n.outline) :: entryOutlines m

end

/-- A list built without notes stands for the values of its items. -/
@[simp] theorem content_items (nodes : List Node) : (items nodes).content = .sequence (nodes.map content) := by
  have hitems : itemContents nodes = nodes.map content := by
    induction nodes with
    | nil => rfl
    | cons n nodes ih => rw [itemContents, ih, List.map_cons]
  rw [items, content, hitems]

/-- A mapping built without notes stands for the values of its entries, in their order. -/
@[simp] theorem content_entries (m : Mapping) :
    (entries m).content = .mapping (m.map fun entry => (.string entry.1, entry.2.content)) := by
  have hentries : entryContents m = m.map fun entry => (.string entry.1, entry.2.content) := by
    induction m with
    | nil => rfl
    | cons entry m ih => rw [entryContents, ih, List.map_cons]
  rw [entries, content, hentries]

end Node

/-! ## Legible documents -/

/-- Whether a reader takes every scalar of a document for a value and every name for itself, as deep as
collections may nest. -/
inductive Node.Legible : Nat → Node → Prop
  | scalar {depth : Nat} {s : Spelling} {v : Value} (hs : s.Readable) (hv : s.value = .ok v) :
    Legible depth (.scalar {} (String.ofList s.chars))
  | list {depth : Nat} {nodes : List Node} (h : ∀ n ∈ nodes, Legible depth n) :
    Legible (depth + 1) (.list {} nodes)
  | mapping {depth : Nat} {m : Mapping} (hnames : ∀ entry ∈ m, NameLegible entry.1)
    (h : ∀ entry ∈ m, Legible depth entry.2) : Legible (depth + 1) (.mapping {} m)

/-- Whether every entry of a mapping is legible. -/
def Mapping.AllLegible (depth : Nat) (m : Mapping) : Prop :=
  ∀ entry ∈ m, NameLegible entry.1 ∧ entry.2.Legible depth

namespace Mapping.AllLegible

variable {depth : Nat} {m m' : Mapping} {name : String} {n : Node}

theorem of_forall (h : ∀ entry ∈ m, NameLegible entry.1 ∧ entry.2.Legible depth) : AllLegible depth m := h

theorem nil : AllLegible depth [] := nofun

theorem cons (hname : NameLegible name) (hn : n.Legible depth) (h : AllLegible depth m) :
    AllLegible depth ((name, n) :: m) := List.forall_mem_cons.2 ⟨⟨hname, hn⟩, h⟩

theorem single (hname : NameLegible name) (hn : n.Legible depth) : AllLegible depth [(name, n)] :=
  cons hname hn nil

theorem append (h : AllLegible depth m) (h' : AllLegible depth m') : AllLegible depth (m ++ m') :=
  List.forall_mem_append.2 ⟨h, h'⟩

/-- Entries that are there under a condition. -/
theorem ite {p : Prop} [Decidable p] (h : p → AllLegible depth m) (h' : ¬ p → AllLegible depth m') :
    AllLegible depth (if p then m else m') := by
  split
  · next hp => exact h hp
  · next hp => exact h' hp

end Mapping.AllLegible

namespace Node.Legible

variable {depth : Nat}

theorem entries {m : Mapping} (h : m.AllLegible depth) : (Node.entries m).Legible (depth + 1) :=
  .mapping (fun entry hentry => (h entry hentry).1) fun entry hentry => (h entry hentry).2

theorem items {nodes : List Node} (h : ∀ n ∈ nodes, n.Legible depth) : (Node.items nodes).Legible (depth + 1) :=
  .list h

end Node.Legible

/-! ## Legible scalars -/

namespace Node

section Scalar

variable {depth : Nat} {s : Spelling} {v : Value}

/-- The value of a legible scalar is that of its spelling. -/
theorem content_scalar (hs : s.Readable) (hv : s.value = .ok v) :
    (scalar {} (String.ofList s.chars)).content = v := by
  rw [content, String.toList_ofList, spelled_chars hs, hv]
  rfl

/-- A printable text is written on one line in the spelling of a name: where it holds a template expression it
stays bare, and otherwise has the quotes it needs. -/
theorem string_eq {t : String} (h : t.toList.all isPrintable = true) :
    string t = scalar {} (String.ofList (keySpelling t.toList).chars) := by
  have hfeed : t.toList.contains '\n' = false := by
    rw [List.contains_eq_mem, decide_eq_false_iff_not]
    exact fun hm => absurd (List.all_eq_true.1 h _ hm) (by decide)
  have hquote : quote t.toList = quoteKey t.toList := by
    unfold quoteKey
    split
    · next ht =>
      rw [quote, ht, hfeed]
      rfl
    · rfl
  rw [string, hquote, chars_keySpelling]

/-- A text that is data is written on one line in its spelling. -/
theorem literal_eq (t : String) : literal t = scalar {} (String.ofList (literalSpelling t.toList).chars) := by
  rw [literal, chars_literalSpelling]

/-- A text that may hold template expressions is legible if it is read back. -/
theorem legible_string {t : String} (h : TextLegible t) : (string t).Legible depth := by
  rw [string_eq h.printable]
  exact .scalar h.readable h.value

/-- A legible text stands for itself. -/
theorem content_string {t : String} (h : TextLegible t) : (string t).content = .string t := by
  rw [string_eq h.printable]
  exact content_scalar h.readable h.value

/-- A printable text that is data is legible, whatever it looks like. -/
theorem legible_literal {t : String} (h : t.toList.all isPrintable = true) : (literal t).Legible depth := by
  rw [literal_eq]
  exact .scalar (readable_literalSpelling h) (value_literalSpelling _)

/-- So does a printable text that is data. -/
theorem content_literal {t : String} (h : t.toList.all isPrintable = true) :
    (literal t).content = .string t := by
  rw [literal_eq, content_scalar (readable_literalSpelling h) (value_literalSpelling _), String.ofList_toList]

/-- A text that stands as it is. -/
theorem legible_verbatim {t : String} (h : StandsPlain t.toList) : (verbatim t).Legible depth := by
  have hlegible : (scalar {} (String.ofList (Spelling.plain t.toList).chars)).Legible depth :=
    .scalar h.readable h.value
  rwa [Spelling.chars, String.ofList_toList] at hlegible

/-- A datum that fits a scalar is legible. -/
theorem legible_datum {datum : Datum} (h : datum.fits = true) : datum.node.Legible depth := by
  have hnode := node_datum h datum.node.notes
  rw [withNotes_self] at hnode
  have hnotes : datum.node.notes = {} := by cases datum <;> rfl
  rw [hnode, hnotes]
  exact .scalar (readable_datum h) (value_datum h)

theorem content_datum {datum : Datum} (h : datum.fits = true) : datum.node.content = datum.value := by
  have hnode := node_datum h datum.node.notes
  rw [withNotes_self] at hnode
  have hnotes : datum.node.notes = {} := by cases datum <;> rfl
  rw [hnode, hnotes]
  exact content_scalar (readable_datum h) (value_datum h)

/-- A number of 64 bits. -/
theorem legible_number {k : Nat} (h : k < Nat.pow 2 64) : (number k).Legible depth := by
  have hfits : (Datum.integer k).fits = true := by
    simp only [Datum.fits, Bool.and_eq_true, decide_eq_true_eq]
    omega
  exact legible_datum hfits

theorem legible_flag (b : Bool) : (flag b).Legible depth := legible_datum (show (Datum.flag b).fits = true from rfl)

theorem content_flag (b : Bool) : (flag b).content = .bool b := content_datum (show (Datum.flag b).fits = true from rfl)

end Scalar

end Node

/-! ## Lines of legible documents -/

namespace Node

/-- Whether a document is laid out as the text of its outline, wherever it stands. -/
structure Written (n : Node) : Prop where
  notes : n.notes.isEmpty = true
  item (step indent : Nat) : Laid (itemLines step indent n)
    (List.replicate indent ' ' ++ '-' :: tailText step true indent n.outline)
  entry (step indent : Nat) {name : String} (hname : '\n' ∉ keyText name) :
    Laid (entryLines step indent name n)
      (List.replicate indent ' ' ++ (keyText name ++ tailText step false indent n.outline))
  root (step : Nat) : Laid (rootLines step n) (n.outline.text step)

/-- A scalar that can be read is written as its outline says: behind a dash, behind a name, and alone. -/
theorem written_scalar {s : Spelling} (hs : s.Readable) : (scalar {} (String.ofList s.chars)).Written where
  notes := rfl
  item step indent := by
    have hfeed := feed_of_readable hs
    have hline : '\n' ∉ ['-', ' '] ++ s.chars := by simpa using hfeed
    rw [itemLines, around_nil, String.toList_ofList, scalarLines_single hfeed, outline, String.toList_ofList,
      spelled_chars hs, tailText]
    simpa [Line.chars] using laid_line (l := ⟨indent, ['-', ' '] ++ s.chars⟩) hline
  entry step indent name hname := by
    have hfeed := feed_of_readable hs
    have hline : '\n' ∉ keyText name ++ [' '] ++ s.chars := by simpa [hname] using hfeed
    rw [entryLines, around_nil, String.toList_ofList, scalarLines_single hfeed, outline, String.toList_ofList,
      spelled_chars hs, tailText]
    simpa [Line.chars] using laid_line (l := ⟨indent, keyText name ++ [' '] ++ s.chars⟩) hline
  root step := by
    have hfeed := feed_of_readable hs
    rw [rootLines, around_nil, String.toList_ofList, scalarLines_single hfeed, List.nil_append, outline,
      String.toList_ofList, spelled_chars hs, Outline.text]
    simpa [Line.chars] using laid_line (l := ⟨0, s.chars⟩) hfeed

/-- The lines of a list are the text of its outline, item by item. -/
theorem laid_items (step indent : Nat) {nodes : List Node} (h : ∀ n ∈ nodes, n.Written) :
    Laid (listLines step indent nodes) (itemsText step indent (itemOutlines nodes)) := by
  induction nodes with
  | nil => exact laid_nil
  | cons n nodes ih =>
    obtain ⟨hn, hnodes⟩ := List.forall_mem_cons.1 h
    exact (hn.item step indent).append (ih hnodes)

/-- A list is written as its outline says if its items are. -/
theorem written_list {nodes : List Node} (h : ∀ n ∈ nodes, n.Written) : (list {} nodes).Written := by
  cases nodes with
  | nil =>
    refine ⟨rfl, fun step indent => ?_, fun step indent name hname => ?_, fun step => ?_⟩
    · have hline : '\n' ∉ "- []".toList := by decide
      simpa [itemLines, outline, tailText, Line.chars] using laid_line (l := ⟨indent, "- []".toList⟩) hline
    · have hline : '\n' ∉ keyText name ++ " []".toList := by simpa using hname
      simpa [entryLines, outline, tailText, Line.chars] using
        laid_line (l := ⟨indent, keyText name ++ " []".toList⟩) hline
    · have hline : '\n' ∉ "[]".toList := by decide
      simpa [rootLines, outline, Outline.text, Line.chars] using laid_line (l := ⟨0, "[]".toList⟩) hline
  | cons n nodes =>
    refine ⟨rfl, fun step indent => ?_, fun step indent name hname => ?_, fun step => ?_⟩
    · have hitems := laid_items step (indent + step) h
      have hdash : '\n' ∉ ['-'] := by decide
      simpa [itemLines, outline, tailText, Line.chars] using hitems.cons (l := ⟨indent, ['-']⟩) hdash
    · have hitems := laid_items step (indent + step) h
      simpa [entryLines, outline, tailText, Line.chars] using
        hitems.cons (l := ⟨indent, keyText name⟩) hname
    · simpa [rootLines, outline, Outline.text] using laid_items step 0 h

theorem feed_keyText {name : String} (h : name.toList.all isPrintable = true) : '\n' ∉ keyText name := by
  rw [keyText, ← chars_keySpelling]
  simpa using feed_keySpelling h

/-- The lines of a mapping are the text of its outline, entry by entry. -/
theorem laid_entries (step indent : Nat) {m : Mapping} (hnames : ∀ entry ∈ m, NameLegible entry.1)
    (h : ∀ entry ∈ m, entry.2.Written) :
    Laid (mappingLines step indent m) (entriesText step indent (entryOutlines m)) := by
  induction m with
  | nil => exact laid_nil
  | cons entry m ih =>
    obtain ⟨name, n⟩ := entry
    obtain ⟨hname, hnames⟩ := List.forall_mem_cons.1 hnames
    obtain ⟨hn, hm⟩ := List.forall_mem_cons.1 h
    have hall := (hn.entry step indent (feed_keyText hname.printable)).append (ih hnames hm)
    have hkey : keyText name = (keySpelling name.toList).chars ++ [':'] := by rw [keyText, chars_keySpelling]
    rw [mappingLines, entryOutlines, entriesText]
    simpa [hkey, Outline.remarksText] using hall

/-- A mapping is written as its outline says if its names are legible and its parts are written so. -/
theorem written_mapping {m : Mapping} (hnames : ∀ entry ∈ m, NameLegible entry.1)
    (h : ∀ entry ∈ m, entry.2.Written) : (mapping {} m).Written := by
  cases m with
  | nil =>
    refine ⟨rfl, fun step indent => ?_, fun step indent name hname => ?_, fun step => ?_⟩
    · have hline : '\n' ∉ "- \x7b\x7d".toList := by decide
      simpa [itemLines, outline, tailText, Line.chars] using
        laid_line (l := ⟨indent, "- \x7b\x7d".toList⟩) hline
    · have hline : '\n' ∉ keyText name ++ " \x7b\x7d".toList := by simpa using hname
      simpa [entryLines, outline, tailText, Line.chars] using
        laid_line (l := ⟨indent, keyText name ++ " \x7b\x7d".toList⟩) hline
    · have hline : '\n' ∉ "\x7b\x7d".toList := by decide
      simpa [rootLines, outline, Outline.text, Line.chars] using laid_line (l := ⟨0, "\x7b\x7d".toList⟩) hline
  | cons entry m =>
    refine ⟨rfl, fun step indent => ?_, fun step indent name hname => ?_, fun step => ?_⟩
    · have hentries := laid_entries step (indent + 2) hnames h
      have hfirst := (List.forall_mem_cons.1 h).1.notes
      rw [itemLines, around_nil, outline, tailText, if_pos rfl]
      exact hentries.dashed hfirst
    · have hentries := laid_entries step (indent + step) hnames h
      simpa [entryLines, outline, tailText, Line.chars] using
        hentries.cons (l := ⟨indent, keyText name⟩) hname
    · simpa [rootLines, outline, Outline.text] using laid_entries step 0 hnames h

/-- The lines of a legible document are the text of its outline. -/
theorem Legible.written {depth : Nat} {n : Node} (h : n.Legible depth) : n.Written := by
  induction h with
  | scalar hs _ => exact written_scalar hs
  | list _ ih => exact written_list ih
  | mapping hnames _ ih => exact written_mapping hnames ih

/-! ## Reading legible documents -/

theorem readable_itemOutlines {nodes : List Node} (h : ∀ n ∈ nodes, n.outline.Readable) :
    ReadableItems (itemOutlines nodes) := by
  induction nodes with
  | nil => trivial
  | cons n nodes ih =>
    obtain ⟨hn, hnodes⟩ := List.forall_mem_cons.1 h
    exact ⟨nofun, hn, ih hnodes⟩

theorem readable_entryOutlines {m : Mapping} (hnames : ∀ entry ∈ m, NameLegible entry.1)
    (h : ∀ entry ∈ m, entry.2.outline.Readable) : ReadableEntries (entryOutlines m) := by
  induction m with
  | nil => trivial
  | cons entry m ih =>
    obtain ⟨hname, hnames⟩ := List.forall_mem_cons.1 hnames
    obtain ⟨hn, hm⟩ := List.forall_mem_cons.1 h
    exact ⟨nofun, hname.readableKey, hn, ih hnames hm⟩

/-- A reader takes the text of the outline of a legible document for what it outlines. -/
theorem Legible.readable {depth : Nat} {n : Node} (h : n.Legible depth) : n.outline.Readable := by
  induction h with
  | scalar hs _ =>
    rw [outline, String.toList_ofList, spelled_chars hs]
    exact hs
  | @list _ nodes _ ih =>
    cases nodes with
    | nil => trivial
    | cons n nodes => exact readable_itemOutlines ih
  | @mapping _ m hnames _ ih =>
    cases m with
    | nil => trivial
    | cons entry m => exact readable_entryOutlines hnames ih

/-- The items of a list are decoded one after another to what they stand for. -/
theorem decodes_itemContents {depth : Nat} {nodes : List Node}
    (h : ∀ n ∈ nodes, Decodes (Yaml.Decode.valueWithin depth n.outline.tree) n.content) :
    Decodes ((itemsTrees (itemOutlines nodes)).mapM fun item => Yaml.Decode.valueWithin depth item)
      (itemContents nodes) := by
  induction nodes with
  | nil => exact Yaml.decodes_pure _
  | cons n nodes ih =>
    obtain ⟨hn, hnodes⟩ := List.forall_mem_cons.1 h
    exact Yaml.decodes_items_cons hn (ih hnodes)

theorem decodes_entryContents {depth : Nat} {m : Mapping} (hnames : ∀ entry ∈ m, NameLegible entry.1)
    (hnodup : (Mapping.names m).Nodup)
    (h : ∀ entry ∈ m, Decodes (Yaml.Decode.valueWithin depth entry.2.outline.tree) entry.2.content)
    {done : List (Value × Value)} (hdone : Yaml.Fresh done (Mapping.names m)) :
    Decodes (Yaml.Decode.distinctEntries (fun part => Yaml.Decode.valueWithin depth part) done
      (entriesTrees (entryOutlines m))) (done.reverse ++ entryContents m) := by
  induction m generalizing done with
  | nil =>
    rw [entryContents, List.append_nil]
    exact Yaml.decodes_pure _
  | cons entry m ih =>
    obtain ⟨name, n⟩ := entry
    obtain ⟨hname, hnames⟩ := List.forall_mem_cons.1 hnames
    obtain ⟨hnew, hnodup⟩ := List.nodup_cons.1 hnodup
    obtain ⟨hn, hm⟩ := List.forall_mem_cons.1 h
    have hkey : Decodes (Yaml.Decode.valueWithin depth (keySpelling name.toList).tree) (.string name) :=
      Yaml.decodes_scalar hname.text.value depth
    have hrest := ih hnames hnodup hm (hdone.cons n.content hnew)
    rw [List.reverse_cons, List.append_assoc] at hrest
    exact Yaml.decodes_entries_cons hkey hdone hn hrest

/-- The outline of a legible document without double names is decoded as its content. -/
theorem Legible.decodes {depth : Nat} {n : Node} (h : n.Legible depth) (hdistinct : n.Distinct) :
    Decodes (Yaml.Decode.valueWithin depth n.outline.tree) n.content := by
  induction h with
  | scalar hs hv =>
    rw [outline, content, String.toList_ofList, spelled_chars hs, hv]
    exact Yaml.decodes_scalar hv _
  | @list _ nodes _ ih =>
    cases hdistinct with
    | list hdistinct =>
      have hitems := decodes_itemContents fun n hn => ih n hn (hdistinct n hn)
      cases nodes <;> exact Yaml.decodes_sequence hitems
  | @mapping _ m hnames _ ih =>
    cases hdistinct with
    | mapping hnodup hdistinct =>
      have hentries := decodes_entryContents hnames hnodup
        (fun entry hentry => ih entry hentry (hdistinct entry hentry)) (Yaml.fresh_nil _)
      cases m <;> exact Yaml.decodes_mapping hentries

end Node

/-! ## Paths -/

/-- No scalar stands for a collection. -/
theorem not_collection_of_value {s : Spelling} {v : Value} (h : s.value = .ok v) :
    (∀ items, v ≠ .sequence items) ∧ ∀ entries, v ≠ .mapping entries := by
  cases s with
  | quoted text =>
    obtain rfl := Except.ok.inj h
    exact ⟨nofun, nofun⟩
  | plain text =>
    rw [Spelling.value, Yaml.plainValue] at h
    split at h
    · obtain rfl := Except.ok.inj h
      exact ⟨nofun, nofun⟩
    split at h
    · obtain rfl := Except.ok.inj h
      exact ⟨nofun, nofun⟩
    split at h
    · obtain rfl := Except.ok.inj h
      exact ⟨nofun, nofun⟩
    · exact absurd h nofun
    split at h
    · obtain rfl := Except.ok.inj h
      exact ⟨nofun, nofun⟩
    split at h
    · obtain rfl := Except.ok.inj h
      exact ⟨nofun, nofun⟩
    · obtain rfl := Except.ok.inj h
      exact ⟨nofun, nofun⟩

namespace Node

/-- A scalar never stands for a collection, so no path leads through it. -/
theorem not_collection_scalar (notes : Notes) (text : String) :
    (∀ items, (scalar notes text).content ≠ .sequence items)
      ∧ ∀ entries, (scalar notes text).content ≠ .mapping entries := by
  rw [content]
  cases h : (spelled text.toList).value with
  | error problem => exact ⟨nofun, nofun⟩
  | ok v => exact not_collection_of_value h

/-- What is read under a name is the content of what stands there. -/
theorem lookup?_content (m : Mapping) (name : String) :
    Value.lookup? (m.map fun entry => (.string entry.1, entry.2.content)) name
      = (Mapping.lookup? m name).map content := by
  induction m with
  | nil => rfl
  | cons entry m ih =>
    rw [Mapping.lookup?_cons, List.map_cons, Value.lookup?_cons, ih]
    split <;> rfl

/-- What is read at a path is the content of what stands there. -/
theorem get?_content (n : Node) (path : List String) : n.content.get? path = (n.get? path).map content := by
  induction path generalizing n with
  | nil => rfl
  | cons name rest ih =>
    cases n with
    | scalar notes text =>
      obtain ⟨-, hentries⟩ := not_collection_scalar notes text
      rw [Value.get?]
      · rfl
      · exact hentries
    | list notes nodes => rfl
    | mapping notes m =>
      have hm : (mapping notes m).content = (entries m).content := rfl
      rw [hm, content_entries, Value.get?, get?_cons, lookup?_content]
      cases Mapping.lookup? m name with
      | none => rfl
      | some child => exact ih child

/-- A list is read at the path where it stands, item by item. -/
theorem listAt_content (n : Node) (path : List String) :
    n.content.listAt path = (n.listAt path).map content := by
  rw [Value.listAt, get?_content, listAt]
  cases n.get? path with
  | none => rfl
  | some found =>
    cases found with
    | scalar notes text =>
      obtain ⟨hitems, -⟩ := not_collection_scalar notes text
      rw [Option.map_some]
      split
      · next e => exact absurd (Option.some.inj e) (hitems _)
      · rfl
    | list notes nodes =>
      have hlist : (list notes nodes).content = (items nodes).content := rfl
      rw [Option.map_some, hlist, content_items]
      rfl
    | mapping notes m => rfl

end Node

/-! ## Marks of documents -/

/-- Three dashes or three points alone are written between quotes. -/
theorem quoteKey_ne_mark (s : List Char) {mark : Char} (h : mark = '-' ∨ mark = '.') :
    quoteKey s ≠ [mark, mark, mark] := by
  intro e
  unfold quoteKey quote at e
  rcases h with rfl | rfl
  all_goals
    split at e
    · next ht =>
      subst e
      exact absurd ht (by decide)
    · next ht =>
      rw [Bool.eq_false_iff.2 ht, Bool.false_and, if_neg (by simp)] at e
      split at e
      · simp [doubleQuoted] at e
      · next hq =>
        subst e
        exact absurd hq (by decide)

/-- A name at the beginning of a line that is no mark is no mark. -/
theorem marksDocument_quoteKey {s rest : List Char} (h : marksDocument (quoteKey s ++ rest) = false) :
    marksDocument (quoteKey s) = false := by
  rw [Bool.eq_false_iff, ne_eq, Yaml.marksDocument_iff] at h ⊢
  rintro ⟨mark, after, hmark, e, hgap⟩
  cases after with
  | nil => exact quoteKey_ne_mark s hmark e
  | cons c after => exact h ⟨mark, c :: after ++ rest, hmark, by rw [e]; rfl, hgap⟩

/-- Every name of a mapping begins a line at the margin. -/
theorem exists_line_of_key (step : Nat) {m : Mapping} (h : ∀ entry ∈ m, entry.2.notes.isEmpty = true)
    {key : Spelling} (hkey : key ∈ (Node.entryOutlines m).map fun entry => entry.2.1) :
    ∃ name text, key = keySpelling name ∧ ⟨0, quoteKey name ++ text⟩ ∈ mappingLines step 0 m := by
  induction m with
  | nil => exact absurd hkey List.not_mem_nil
  | cons entry m ih =>
    obtain ⟨name, n⟩ := entry
    obtain ⟨hn, hm⟩ := List.forall_mem_cons.1 h
    obtain ⟨text, rest, hl⟩ := Draft.entryLines_head hn step 0 name
    rw [mappingLines, hl]
    rcases List.mem_cons.1 hkey with rfl | hkey
    · refine ⟨name.toList, ':' :: text, rfl, ?_⟩
      simp [keyText]
    · obtain ⟨other, text, e, hline⟩ := ih hm hkey
      exact ⟨other, text, e, List.mem_append_right _ hline⟩

/-- At the margin of a mapping stand its names. -/
theorem Node.mem_margin_entries {m : Mapping} {s : Spelling} (h : s ∈ (Node.entries m).outline.margin) :
    ∃ name ∈ Mapping.names m, s = keySpelling name.toList := by
  have hkeys (m : Mapping) : (Node.entryOutlines m).map (fun entry => entry.2.1)
      = (Mapping.names m).map fun name => keySpelling name.toList := by
    induction m with
    | nil => rfl
    | cons entry m ih =>
      rw [Node.entryOutlines, List.map_cons, ih]
      rfl
  cases m with
  | nil => exact absurd h List.not_mem_nil
  | cons entry m =>
    rw [Node.entries, Node.outline, Outline.margin, hkeys] at h
    obtain ⟨name, hname, rfl⟩ := List.mem_map.1 h
    exact ⟨name, hname, rfl⟩

/-- Where no line is a mark, no scalar at the margin is. -/
theorem Node.Legible.marksDocument_margin {depth : Nat} {n : Node} (h : n.Legible depth) {step : Nat}
    (hmarks : ∀ l ∈ rootLines step n, marksDocument l.row = false) :
    ∀ s ∈ n.outline.margin, marksDocument s.chars = false := by
  cases h with
  | @scalar _ s _ hs _ =>
    rw [rootLines, around_nil, String.toList_ofList, scalarLines_single (feed_of_readable hs)] at hmarks
    rw [Node.outline, String.toList_ofList, spelled_chars hs]
    exact List.forall_mem_singleton.2 (hmarks _ List.mem_cons_self)
  | @list _ nodes _ => cases nodes <;> exact List.forall_mem_nil _
  | @mapping _ m _ h =>
    cases m with
    | nil => exact List.forall_mem_nil _
    | cons entry m =>
      rw [rootLines, around_nil] at hmarks
      · intro key hkey
        obtain ⟨name, text, rfl, hline⟩ :=
          exists_line_of_key step (fun entry hentry => (h entry hentry).written.notes) hkey
        rw [chars_keySpelling]
        exact marksDocument_quoteKey (hmarks _ hline)
      · rintro ⟨⟩

/-! ## Documents -/

/-- A legible document is read as its content, unless a scalar at its margin is a mark of a document or lines
of it are joined. -/
theorem ofText_render_of_legible {n : Node} (h : n.Legible maxDepth) (hdistinct : n.Distinct)
    (hmargin : ∀ s ∈ n.outline.margin, marksDocument s.chars = false)
    (hjoins : closesOnLines ((rootLines defaultStep n).map Line.row) = true) :
    Value.ofText (render n) = .ok n.content := by
  have hlaid := h.written.root defaultStep
  have hjoin : joinTemplates ("---\n".toList ++ n.outline.text defaultStep)
      = "---\n".toList ++ n.outline.text defaultStep := by
    have hfeed : ∀ row ∈ "---".toList :: (rootLines defaultStep n).map Line.row, '\n' ∉ row :=
      List.forall_mem_cons.2 ⟨by decide, List.forall_mem_map.2 hlaid.feed⟩
    have hcloses : closesOnLines ("---".toList :: (rootLines defaultStep n).map Line.row) = true := by
      rw [closesOnLines, leavesOpen_of_not_opened (by decide), if_neg (by simp)]
      exact hjoins
    have hunlines : unlines ("---".toList :: (rootLines defaultStep n).map Line.row)
        = "---\n".toList ++ n.outline.text defaultStep := by
      rw [← hlaid.chars, ← unlines_rows]
      rfl
    rw [← hunlines]
    exact (joinTemplates_unlines_iff hfeed).2 hcloses
  have hrender : render n = String.ofList ("---\n".toList ++ n.outline.text defaultStep) := by
    rw [← hjoin, ← hlaid.chars]
    rfl
  rw [hrender]
  exact Draft.ofText_outline n.outline [] ⟨h.readable, hmargin⟩ (List.forall_mem_nil _) (h.decodes hdistinct)
    (by decide)

end RoleChart.Document
