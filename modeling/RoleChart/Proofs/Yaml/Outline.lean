import RoleChart.Document.Layout
import RoleChart.Proofs.Yaml.Spelling
import RoleChart.Yaml.Tree

/-!
# Outlines

An outline is what a written document looks like to a reader: its scalars with their spelling, its
collections, and the comment lines above their parts. Its text, its tokens and its tree are given
side by side, so that reading can be followed from the one to the next.

A collection without parts is written in brackets (`noItems`, `noEntries`). A `sequence` or `mapping`
without parts is one that has no line at all; it reads as an empty node.
-/

namespace RoleChart.Yaml

open RoleChart.Document (Line)

/-- The scalar that a spelling stands for in a document. -/
def Spelling.tree : Spelling → Tree
  | plain text => .scalar none .plain (String.ofList text)
  | quoted text => .scalar none .quoted (String.ofList text)

/-- The shape of a written document. A mapping that is an item of a list may begin on the line of its
dash. -/
inductive Outline where
  | scalar (s : Spelling)
  | noItems
  | noEntries
  | sequence (items : List (List (List Char) × Outline))
  | mapping (inline : Bool) (entries : List (List (List Char) × Spelling × Outline))
deriving Inhabited

namespace Outline

/-! ## Text -/

/-- Comment lines at a column. -/
def remarksText (n : Nat) (remarks : List (List Char)) : List Char :=
  remarks.flatMap fun r => (Line.remark n r).chars

/-- Puts lines that are indented to a column behind a dash, or below it. -/
def hang (inline : Bool) (n : Nat) (text : List Char) : List Char :=
  if inline && !text.isEmpty then ' ' :: text.drop n else '\n' :: text

mutual

/-- What is written behind the dash of an item, or behind the colon of an entry, that stands at a
column. -/
def tailText (step : Nat) (dash : Bool) (n : Nat) : Outline → List Char
  | scalar s => ' ' :: s.chars ++ ['\n']
  | noItems => [' ', '[', ']', '\n']
  | noEntries => [' ', '\x7b', '\x7d', '\n']
  | sequence items => '\n' :: itemsText step (n + step) items
  | mapping inline entries =>
    if dash then hang inline (n + 2) (entriesText step (n + 2) entries)
    else '\n' :: entriesText step (n + step) entries

/-- The items of a list at a column. -/
def itemsText (step n : Nat) : List (List (List Char) × Outline) → List Char
  | [] => []
  | (remarks, o) :: items =>
    remarksText n remarks ++ (List.replicate n ' ' ++ '-' :: tailText step true n o)
      ++ itemsText step n items

/-- The entries of a mapping at a column. -/
def entriesText (step n : Nat) : List (List (List Char) × Spelling × Outline) → List Char
  | [] => []
  | (remarks, key, o) :: entries =>
    remarksText n remarks ++ (List.replicate n ' ' ++ (key.chars ++ ':' :: tailText step false n o))
      ++ entriesText step n entries

end

/-- The text of a whole document below its opening mark. -/
def text (step : Nat) : Outline → List Char
  | scalar s => s.chars ++ ['\n']
  | noItems => ['[', ']', '\n']
  | noEntries => ['\x7b', '\x7d', '\n']
  | sequence items => itemsText step 0 items
  | mapping _ entries => entriesText step 0 entries

/-! ## Tokens -/

mutual

/-- The tokens of a node. -/
def tokens : Outline → List Token
  | scalar s => [s.token]
  | noItems => [.flowSequenceStart, .flowSequenceEnd]
  | noEntries => [.flowMappingStart, .flowMappingEnd]
  | sequence [] => []
  | sequence (item :: items) => .blockSequenceStart :: itemsTokens (item :: items) ++ [.blockEnd]
  | mapping _ [] => []
  | mapping _ (entry :: entries) =>
    .blockMappingStart :: entriesTokens (entry :: entries) ++ [.blockEnd]

/-- The tokens of the items of a list. -/
def itemsTokens : List (List (List Char) × Outline) → List Token
  | [] => []
  | (_, o) :: items => .blockEntry :: tokens o ++ itemsTokens items

/-- The tokens of the entries of a mapping. -/
def entriesTokens : List (List (List Char) × Spelling × Outline) → List Token
  | [] => []
  | (_, key, o) :: entries => .key :: key.token :: .value :: tokens o ++ entriesTokens entries

end

/-! ## Trees -/

mutual

/-- The tree of a node. -/
def tree : Outline → Tree
  | scalar s => s.tree
  | noItems => .sequence none []
  | noEntries => .mapping none []
  | sequence [] => .empty
  | sequence (item :: items) => .sequence none (itemsTrees (item :: items))
  | mapping _ [] => .empty
  | mapping _ (entry :: entries) => .mapping none (entriesTrees (entry :: entries))

/-- The trees of the items of a list. -/
def itemsTrees : List (List (List Char) × Outline) → List Tree
  | [] => []
  | (_, o) :: items => tree o :: itemsTrees items

/-- The trees of the entries of a mapping. -/
def entriesTrees : List (List (List Char) × Spelling × Outline) → List (Tree × Tree)
  | [] => []
  | (_, key, o) :: entries => (key.tree, tree o) :: entriesTrees entries

end

/-! ## What can be read -/

/-- Whether a comment stays on its line. -/
def ReadableRemarks (remarks : List (List Char)) : Prop :=
  ∀ r ∈ remarks, ∀ c ∈ r, isAllowed c = true ∧ isBreak c = false

mutual

/-- Whether a reader takes the text of an outline for what it outlines. -/
def Readable : Outline → Prop
  | scalar s => s.Readable
  | noItems => True
  | noEntries => True
  | sequence items => ReadableItems items
  | mapping _ entries => ReadableEntries entries

/-- Whether the items of a list can be read. -/
def ReadableItems : List (List (List Char) × Outline) → Prop
  | [] => True
  | (remarks, o) :: items => ReadableRemarks remarks ∧ Readable o ∧ ReadableItems items

/-- Whether the entries of a mapping can be read. -/
def ReadableEntries : List (List (List Char) × Spelling × Outline) → Prop
  | [] => True
  | (remarks, key, o) :: entries =>
    ReadableRemarks remarks ∧ key.ReadableKey ∧ Readable o ∧ ReadableEntries entries

end

end Outline

end RoleChart.Yaml
