import RoleChart.Document.Node

/-!
# Lines of a document

A document is laid out as lines, each with its indentation. A comment stands in lines above its
node, and each block in a line above and a line below both. A mapping inside a list begins on the
line of its dash, unless its first entry needs lines of its own above it.

## Main statements

* `around_nil` — a node without notes has only its own lines
-/

namespace RoleChart.Document

open RoleChart.Text

/-- A line: its indentation and its text. -/
structure Line where
  indent : Nat
  text : List Char
deriving DecidableEq, Repr

namespace Line

/-- The characters of a line. -/
def chars (l : Line) : List Char := List.replicate l.indent ' ' ++ l.text ++ ['\n']

/-- The line that opens a block. -/
def opening (indent : Nat) (block : String) : Line :=
  ⟨indent, "\x7b\x7b- ".toList ++ block.toList ++ " \x7d\x7d".toList⟩

/-- The line that closes a block. -/
def closing (indent : Nat) : Line := ⟨indent, "\x7b\x7b- end \x7d\x7d".toList⟩

/-- A line of a comment. -/
def remark (indent : Nat) (text : List Char) : Line :=
  ⟨indent, if text.isEmpty then ['#'] else '#' :: ' ' :: text⟩

end Line

/-- The lines of a node between the lines of its notes. -/
def Notes.around (notes : Notes) (indent : Nat) (inner : List Line) : List Line :=
  notes.blocks.map (Line.opening indent)
    ++ (notes.comment.elim [] fun text => (lines text.toList).map (Line.remark indent))
    ++ inner ++ notes.blocks.map fun _ => Line.closing indent

@[simp] theorem around_nil (indent : Nat) (inner : List Line) :
    Notes.around {} indent inner = inner := by
  simp [Notes.around]

/-- Whether a node has lines above its own. -/
def Notes.isEmpty (notes : Notes) : Bool := notes.comment.isNone && notes.blocks.isEmpty

/-- The parts of a scalar that stand on lines of their own. A template expression over several lines
is put between single quotes; other text with line feeds is quoted into one line. -/
def scalarParts (text : List Char) : List (List Char) :=
  if !text.contains '\n' then [text]
  else if isTemplated text then
    splitOn '\n' ('\'' :: text.flatMap (fun c => if c = '\'' then ['\'', '\''] else [c]) ++ ['\''])
  else [doubleQuoted text]

/-- The lines of a scalar behind a lead. -/
def scalarLines (indent continuation : Nat) (lead text : List Char) : List Line :=
  match scalarParts text with
  | [] => [⟨indent, lead⟩]
  | part :: parts => ⟨indent, lead ++ part⟩ :: parts.map (Line.mk continuation)

/-- Puts a dash before the lines of a mapping: on its first line if the first entry has no notes,
otherwise on a line above. -/
def dashed (indent : Nat) (m : Mapping) (inner : List Line) : List Line :=
  match m, inner with
  | (_, first) :: _, line :: rest =>
    if first.notes.isEmpty then ⟨indent, '-' :: ' ' :: line.text⟩ :: rest
    else ⟨indent, ['-']⟩ :: line :: rest
  | _, lines => ⟨indent, ['-']⟩ :: lines

/-- A name with its colon. -/
def keyText (name : String) : List Char := quoteKey name.toList ++ [':']

mutual

/-- The lines of an item of a list. -/
def itemLines (step indent : Nat) : Node → List Line
  | .scalar notes text =>
    notes.around indent (scalarLines indent (indent + 2) ['-', ' '] text.toList)
  | .list notes [] => notes.around indent [⟨indent, "- []".toList⟩]
  | .mapping notes [] => notes.around indent [⟨indent, "- \x7b\x7d".toList⟩]
  | .list notes (item :: items) =>
    notes.around indent (⟨indent, ['-']⟩ :: listLines step (indent + step) (item :: items))
  | .mapping notes (entry :: entries) =>
    notes.around indent
      (dashed indent (entry :: entries) (mappingLines step (indent + 2) (entry :: entries)))

/-- The lines of the items of a list. -/
def listLines (step indent : Nat) : List Node → List Line
  | [] => []
  | item :: items => itemLines step indent item ++ listLines step indent items

/-- The lines of an entry of a mapping. -/
def entryLines (step indent : Nat) (name : String) : Node → List Line
  | .scalar notes text =>
    notes.around indent (scalarLines indent (indent + step) (keyText name ++ [' ']) text.toList)
  | .list notes [] => notes.around indent [⟨indent, keyText name ++ " []".toList⟩]
  | .mapping notes [] => notes.around indent [⟨indent, keyText name ++ " \x7b\x7d".toList⟩]
  | .list notes (item :: items) =>
    notes.around indent (⟨indent, keyText name⟩ :: listLines step (indent + step) (item :: items))
  | .mapping notes (entry :: entries) =>
    notes.around indent
      (⟨indent, keyText name⟩ :: mappingLines step (indent + step) (entry :: entries))

/-- The lines of the entries of a mapping. -/
def mappingLines (step indent : Nat) : List (String × Node) → List Line
  | [] => []
  | (name, node) :: entries => entryLines step indent name node ++ mappingLines step indent entries

end

/-- The lines of a whole document, below its opening mark. -/
def rootLines (step : Nat) : Node → List Line
  | .scalar notes text => notes.around 0 (scalarLines 0 0 [] text.toList)
  | .list notes [] => notes.around 0 [⟨0, "[]".toList⟩]
  | .mapping notes [] => notes.around 0 [⟨0, "\x7b\x7d".toList⟩]
  | .list notes items => notes.around 0 (listLines step 0 items)
  | .mapping notes entries => notes.around 0 (mappingLines step 0 entries)

end RoleChart.Document
