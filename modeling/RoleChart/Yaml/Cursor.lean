import RoleChart.Text.Basic

/-!
# Reading positions

A position in a YAML text: what is left to read, and the line and column reached. Five characters
break lines; a carriage return with a line feed is one break.
-/

namespace RoleChart.Yaml

open Text

/-- Why a text is not YAML. -/
inductive Problem where
  | character
  | directive
  | tag
  | anchor
  | escape
  | indicator
  | indentation
  | unclosed
  | missingValue
  | structural
  | unknownAnchor
  | furtherDocument
  | duplicateKey
  | tooDeep
  | tooManyAliases
  | wrongType
deriving DecidableEq, Repr

/-! ## Characters -/

/-- The characters that a text may hold. -/
def isAllowed (c : Char) : Bool :=
  let n := c.toNat
  n == 0x09 || n == 0x0A || n == 0x0D || (0x20 ≤ n && n ≤ 0x7E) || n == 0x85
    || (0xA0 ≤ n && n ≤ 0xD7FF) || (0xE000 ≤ n && n ≤ 0xFFFD) || 0x10000 ≤ n

/-- The characters that break a line. -/
def isBreak (c : Char) : Bool :=
  let n := c.toNat
  n == 0x0A || n == 0x0D || n == 0x85 || n == 0x2028 || n == 0x2029

/-- Space and tab. -/
def isGap (c : Char) : Bool := c == ' ' || c == '\t'

/-- Gaps and breaks. -/
def isGapOrBreak (c : Char) : Bool := isGap c || isBreak c

/-- The characters of anchors and tag handles. -/
def isWordChar (c : Char) : Bool := isAlphanumeric c || c == '_' || c == '-'

/-- Whether nothing is left, or a break follows. -/
def atBreak (s : List Char) : Bool := s.head?.all isBreak

/-- Whether nothing is left, or a gap or a break follows. -/
def atGap (s : List Char) : Bool := s.head?.all isGapOrBreak

/-! ## Positions -/

/-- A position in a text. -/
structure Cursor where
  rest : List Char
  index : Nat := 0
  line : Nat := 0
  column : Nat := 0
deriving Repr

namespace Cursor

/-- Moves past a number of characters on the same line. -/
def skip (c : Cursor) (n : Nat) : Cursor :=
  { c with rest := c.rest.drop n, index := c.index + n, column := c.column + n }

/-- Moves past the characters that are read from the front of what is left. -/
def skipTo (c : Cursor) (rest : List Char) : Cursor :=
  let n := c.rest.length - rest.length
  { c with rest := rest, index := c.index + n, column := c.column + n }

/-- Moves past a class of characters. -/
def skipWhile (c : Cursor) (p : Char → Bool) : Cursor := c.skipTo (c.rest.dropWhile p)

/-- Moves past a line break. -/
def skipLine (c : Cursor) : Cursor :=
  match c.rest with
  | '\r' :: '\n' :: rest => ⟨rest, c.index + 2, c.line + 1, 0⟩
  | b :: rest => if isBreak b then ⟨rest, c.index + 1, c.line + 1, 0⟩ else c
  | [] => c

/-- What a line break stands for in a scalar: the separators for lines and paragraphs for
themselves, every other break for a line feed. -/
def breakText (c : Cursor) : List Char :=
  match c.rest with
  | b :: _ =>
    if b.toNat = 0x2028 ∨ b.toNat = 0x2029 then [b] else if isBreak b then ['\n'] else []
  | [] => []

/-- Whether a document mark stands here: three dashes or three points at the beginning of a line,
and a gap behind them. -/
def atDocumentMark (c : Cursor) : Bool :=
  c.column == 0
    && match c.rest with
      | '-' :: '-' :: '-' :: rest | '.' :: '.' :: '.' :: rest => atGap rest
      | _ => false

/-! ## Line folding -/

/-- Gaps and breaks inside a scalar: the gaps on the first line, the first break and the breaks
after it. -/
structure Fold where
  spaces : List Char := []
  first : List Char := []
  further : List Char := []
  broken : Bool := false

/-- What is put for the gaps and breaks. A single line feed becomes a space, and the first of
several is dropped. -/
def Fold.text (f : Fold) : List Char :=
  if !f.broken then f.spaces
  else if f.first = ['\n'] then (if f.further.isEmpty then [' '] else f.further)
  else f.first ++ f.further

/-- Reads gaps and breaks. Behind a break a tab must not stand left of the given column. -/
def foldOnto (column : Nat) (f : Fold) (c : Cursor) : Nat → Except Problem (Fold × Cursor)
  | 0 => .ok (f, c)
  | fuel + 1 =>
    match c.rest with
    | [] => .ok (f, c)
    | b :: _ =>
      if isGap b then
        if f.broken && b == '\t' && c.column < column then .error .indentation
        else
          foldOnto column (if f.broken then f else { f with spaces := f.spaces ++ [b] }) (c.skip 1) fuel
      else if isBreak b then
        foldOnto column
          (if f.broken then { f with further := f.further ++ c.breakText }
            else { f with spaces := [], first := c.breakText, broken := true })
          c.skipLine fuel
      else .ok (f, c)

/-- Reads all gaps and breaks that follow. -/
def fold (c : Cursor) (column : Nat) (f : Fold) : Except Problem (Fold × Cursor) :=
  foldOnto column f c c.rest.length

end Cursor

end RoleChart.Yaml
