import RoleChart.Document.Node
import RoleChart.Yaml.Token.Stream
import RoleChart.Yaml.Value

/-!
# Drafts

A draft is a document before its scalars are written: texts, integers, truth values and nulls, in
lists and mappings, each part with a comment and with blocks. Every block comes with the outcome of
its condition, so that a draft says both what is written and what is left once the template is
expanded.

## Main statements

* `Draft.value_eq_content` — without blocks everything in a draft is left
* `Draft.all_mono` — weaker tests hold of every part if stronger ones do
-/

namespace RoleChart.Document

open RoleChart.Text
open RoleChart.Yaml (Value)

/-- A scalar that is not written yet. -/
inductive Datum where
  | text (s : String)
  | integer (z : Int)
  | flag (b : Bool)
  | null
deriving DecidableEq, Repr

namespace Datum

/-- The scalar in its written form. -/
def node : Datum → Node
  | text s => .string s
  | integer z => .integer z
  | flag b => .flag b
  | null => .null

/-- What a reader should make of it. -/
def value : Datum → Value
  | text s => .string s
  | integer z => .int z
  | flag b => .bool b
  | null => .null

end Datum

/-- What stands around a part of a draft: a comment, and blocks with the outcomes of their
conditions, the outermost first. -/
structure Wrapping where
  comment : Option String := none
  blocks : List (String × Bool) := []
deriving DecidableEq, Repr, Inhabited

namespace Wrapping

/-- The notes of the node. -/
def notes (w : Wrapping) : Notes := ⟨w.comment, w.blocks.map Prod.fst⟩

/-- The outcomes of the conditions. -/
def choices (w : Wrapping) : List Bool := w.blocks.map Prod.snd

/-- Whether the part is left when the template is expanded. -/
def kept (w : Wrapping) : Bool := w.choices.all id

/-- The lines of the comment. -/
def remarks (w : Wrapping) : List (List Char) := w.comment.elim [] fun text => lines text.toList

end Wrapping

/-- A document with the outcomes of its conditions. -/
inductive Draft where
  | scalar (around : Wrapping) (datum : Datum)
  | list (around : Wrapping) (items : List Draft)
  | mapping (around : Wrapping) (entries : List (String × Draft))
deriving Inhabited

namespace Draft

/-- What stands around the root. -/
def around : Draft → Wrapping
  | scalar w _ | list w _ | mapping w _ => w

/-! ## The document and its template -/

mutual

/-- The document as a node. -/
def node : Draft → Node
  | scalar w datum => datum.node.withNotes w.notes
  | list w items => .list w.notes (itemNodes items)
  | mapping w entries => .mapping w.notes (entryNodes entries)

/-- The items of a list as nodes. -/
def itemNodes : List Draft → List Node
  | [] => []
  | d :: items => d.node :: itemNodes items

/-- The entries of a mapping as nodes. -/
def entryNodes : List (String × Draft) → List (String × Node)
  | [] => []
  | (name, d) :: entries => (name, d.node) :: entryNodes entries

end

mutual

/-- The outcomes of all conditions, in the order in which the blocks open. -/
def choices : Draft → List Bool
  | scalar w _ => w.choices
  | list w items => w.choices ++ itemChoices items
  | mapping w entries => w.choices ++ entryChoices entries

/-- The outcomes of the conditions in a list. -/
def itemChoices : List Draft → List Bool
  | [] => []
  | d :: items => d.choices ++ itemChoices items

/-- The outcomes of the conditions in a mapping. -/
def entryChoices : List (String × Draft) → List Bool
  | [] => []
  | (_, d) :: entries => d.choices ++ entryChoices entries

end

/-! ## The value -/

/-- The value of a list that had items: null once it lost all of them. -/
def someItems (items : List Value) : Value := if items.isEmpty then .null else .sequence items

/-- The value of a mapping that had entries: null once it lost all of them. -/
def someEntries (entries : List (Value × Value)) : Value :=
  if entries.isEmpty then .null else .mapping entries

mutual

/-- The value of a part that is left, without the parts of it that are not. -/
def value : Draft → Value
  | scalar _ datum => datum.value
  | list _ [] => .sequence []
  | list _ (d :: items) => someItems (itemValues (d :: items))
  | mapping _ [] => .mapping []
  | mapping _ (entry :: entries) => someEntries (entryValues (entry :: entries))

/-- The values of the items that are left. -/
def itemValues : List Draft → List Value
  | [] => []
  | d :: items => if d.around.kept then d.value :: itemValues items else itemValues items

/-- The values of the entries that are left. -/
def entryValues : List (String × Draft) → List (Value × Value)
  | [] => []
  | (name, d) :: entries =>
    if d.around.kept then (.string name, d.value) :: entryValues entries else entryValues entries

end

/-- The value of the whole document: null if the root is not left. -/
def rootValue (d : Draft) : Value := if d.around.kept then d.value else .null

mutual

/-- The value of a part with all that is in it. -/
def content : Draft → Value
  | scalar _ datum => datum.value
  | list _ items => .sequence (itemContents items)
  | mapping _ entries => .mapping (entryContents entries)

/-- The values of all items. -/
def itemContents : List Draft → List Value
  | [] => []
  | d :: items => d.content :: itemContents items

/-- The values of all entries. -/
def entryContents : List (String × Draft) → List (Value × Value)
  | [] => []
  | (name, d) :: entries => (.string name, d.content) :: entryContents entries

end

theorem kept_of_no_choices {d : Draft} (h : d.choices = []) : d.around.kept = true := by
  cases d <;> simp_all [choices, around, Wrapping.kept]

mutual

/-- Without blocks everything is left. -/
theorem value_eq_content : ∀ d : Draft, d.choices = [] → d.value = d.content
  | scalar _ _, _ => rfl
  | list w [], _ => rfl
  | list w (d :: items), h => by
    rw [choices, List.append_eq_nil_iff] at h
    rw [value, content, itemValues_eq_contents (d :: items) h.2, someItems, itemContents]
    rfl
  | mapping w [], _ => rfl
  | mapping w ((name, d) :: entries), h => by
    rw [choices, List.append_eq_nil_iff] at h
    rw [value, content, entryValues_eq_contents ((name, d) :: entries) h.2, someEntries, entryContents]
    rfl

theorem itemValues_eq_contents : ∀ items : List Draft, itemChoices items = [] →
    itemValues items = itemContents items
  | [], _ => rfl
  | d :: items, h => by
    rw [itemChoices, List.append_eq_nil_iff] at h
    rw [itemValues, kept_of_no_choices h.1, if_pos rfl, value_eq_content d h.1,
      itemValues_eq_contents items h.2, itemContents]

theorem entryValues_eq_contents : ∀ entries : List (String × Draft), entryChoices entries = [] →
    entryValues entries = entryContents entries
  | [], _ => rfl
  | (name, d) :: entries, h => by
    rw [entryChoices, List.append_eq_nil_iff] at h
    rw [entryValues, kept_of_no_choices h.1, if_pos rfl, value_eq_content d h.1,
      entryValues_eq_contents entries h.2, entryContents]

end

/-! ## Measures and tests -/

/-- Whether the root is a list or a mapping. -/
def isCollection : Draft → Bool
  | scalar _ _ => false
  | list _ _ | mapping _ _ => true

mutual

/-- How deep collections nest. -/
def depth : Draft → Nat
  | scalar _ _ => 0
  | list _ items => itemsDepth items + 1
  | mapping _ entries => entriesDepth entries + 1

/-- How deep the items of a list nest. -/
def itemsDepth : List Draft → Nat
  | [] => 0
  | d :: items => max d.depth (itemsDepth items)

/-- How deep the entries of a mapping nest. -/
def entriesDepth : List (String × Draft) → Nat
  | [] => 0
  | (_, d) :: entries => max d.depth (entriesDepth entries)

end

section Tests

variable (wrapping : Wrapping → Bool) (datum : Datum → Bool) (name : String → Bool)

mutual

/-- Whether every part passes a test of its kind, and no two names of a mapping are equal. -/
def all : Draft → Bool
  | scalar w d => wrapping w && datum d
  | list w items => wrapping w && allItems items
  | mapping w entries => wrapping w && allEntries entries

/-- Whether all parts of the items pass. -/
def allItems : List Draft → Bool
  | [] => true
  | d :: items => d.all && allItems items

/-- Whether all parts of the entries pass. -/
def allEntries : List (String × Draft) → Bool
  | [] => true
  | (key, d) :: entries =>
    name key && d.all && !(entries.map Prod.fst).contains key && allEntries entries

end

variable {wrapping wrapping' : Wrapping → Bool} {datum datum' : Datum → Bool} {name name' : String → Bool}

mutual

/-- Weaker tests hold of every part if stronger ones do. -/
theorem all_mono (hw : ∀ w, wrapping w = true → wrapping' w = true)
    (hd : ∀ x, datum x = true → datum' x = true) (hn : ∀ s, name s = true → name' s = true) :
    ∀ d : Draft, d.all wrapping datum name = true → d.all wrapping' datum' name' = true
  | scalar w x => by
    simp only [all, Bool.and_eq_true]
    exact fun h => ⟨hw w h.1, hd x h.2⟩
  | list w items => by
    simp only [all, Bool.and_eq_true]
    exact fun h => ⟨hw w h.1, allItems_mono hw hd hn items h.2⟩
  | mapping w entries => by
    simp only [all, Bool.and_eq_true]
    exact fun h => ⟨hw w h.1, allEntries_mono hw hd hn entries h.2⟩

theorem allItems_mono (hw : ∀ w, wrapping w = true → wrapping' w = true)
    (hd : ∀ x, datum x = true → datum' x = true) (hn : ∀ s, name s = true → name' s = true) :
    ∀ items : List Draft, allItems wrapping datum name items = true →
      allItems wrapping' datum' name' items = true
  | [] => fun _ => rfl
  | d :: items => by
    simp only [allItems, Bool.and_eq_true]
    exact fun h => ⟨all_mono hw hd hn d h.1, allItems_mono hw hd hn items h.2⟩

theorem allEntries_mono (hw : ∀ w, wrapping w = true → wrapping' w = true)
    (hd : ∀ x, datum x = true → datum' x = true) (hn : ∀ s, name s = true → name' s = true) :
    ∀ entries : List (String × Draft), allEntries wrapping datum name entries = true →
      allEntries wrapping' datum' name' entries = true
  | [] => fun _ => rfl
  | (key, d) :: entries => by
    simp only [allEntries, Bool.and_eq_true]
    exact fun h => ⟨⟨⟨hn key h.1.1.1, all_mono hw hd hn d h.1.1.2⟩, h.1.2⟩,
      allEntries_mono hw hd hn entries h.2⟩

end

end Tests

end Draft

/-! ## What is written and read -/

/-- The characters of ASCII. -/
def isAscii (c : Char) : Bool := c.toNat < 0x80

/-- The graphic characters of ASCII and the space. -/
def isPrintable (c : Char) : Bool := 0x20 ≤ c.toNat && c.toNat ≤ 0x7E

/-- The letters of ASCII. -/
def isLetter (c : Char) : Bool := isAlphanumeric c && !isDigit c

/-- The characters of names: letters, digits and four marks. -/
def isNameChar (c : Char) : Bool := isAlphanumeric c || c == '_' || c == '-' || c == '.' || c == '/'

/-- Whether a scalar is text of ASCII without a template expression, or no text. An integer has 64
bits. -/
def Datum.fits : Datum → Bool
  | .text s => s.toList.all isAscii && !isTemplated s.toList
  | .integer z => decide (-(Nat.pow 2 63 : Int) ≤ z) && decide (z < (Nat.pow 2 64 : Int))
  | .flag _ | .null => true

/-- Whether a text is made of name characters and begins with a letter. -/
def isName (name : String) : Bool := name.toList.head?.any isLetter && name.toList.all isNameChar

/-- Whether a name has at most so many characters. -/
def isShort (limit : Nat) (name : String) : Bool := decide (name.toList.length ≤ limit)

/-- Whether a name is written as a key that is short enough for a reader. -/
def nameFits (name : String) : Bool :=
  isName name && decide ((quoteKey name.toList).length ≤ Yaml.maxKeyLength)

/-- Whether a text is a word: letters and digits that begin with a letter and that no reader takes for
anything but a text. -/
def isWord (s : String) : Bool :=
  s.toList.head?.any isLetter && s.toList.all isAlphanumeric && !isReserved s.toList
    && !looksNumeric s.toList

/-- Whether a scalar is a word. -/
def Datum.isWord : Datum → Bool
  | .text s => Document.isWord s
  | .integer _ | .flag _ | .null => false

/-- Whether a block is a condition on one line, without braces. -/
def blockFits (block : String) : Bool :=
  "if ".toList.isPrefixOf block.toList
    && block.toList.all fun c => c != '\n' && c != '\x7b' && c != '\x7d'

/-- Whether the lines of a comment are printable and hold no template expression, and every block is a
condition. -/
def Wrapping.fits (w : Wrapping) : Bool :=
  w.remarks.all (fun r => r.all isPrintable && !isTemplated r) && w.blocks.all fun b => blockFits b.1

/-- Whether a draft is written in a form that a reader takes back. -/
def Draft.fits (d : Draft) : Bool := d.all Wrapping.fits Datum.fits nameFits

/-- Whether no line of a comment holds a template expression, and every block is a condition. -/
def Wrapping.writable (w : Wrapping) : Bool :=
  w.remarks.all (fun r => !isTemplated r) && w.blocks.all fun b => blockFits b.1

/-- Whether a draft is laid out line by line, whatever its comments say. -/
def Draft.writable (d : Draft) : Bool := d.all Wrapping.writable Datum.fits nameFits

/-- Whether a reader takes the characters of a comment and ends none of its lines early. -/
def Wrapping.legible (w : Wrapping) : Bool :=
  w.remarks.all fun r => r.all fun c => Yaml.isAllowed c && !Yaml.isBreak c

/-- Whether a reader takes each part of a draft for what it is. -/
def Draft.legible (d : Draft) : Bool := d.all Wrapping.legible Datum.fits nameFits

end RoleChart.Document
