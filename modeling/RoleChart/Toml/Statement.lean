import RoleChart.Toml.Scalar
import RoleChart.Toml.Table

/-!
# TOML documents

Reading the lines of a document: keys, values with their arrays and tables, headers and comments.
-/

namespace RoleChart.Toml

open Text

/-! ## Gaps -/

/-- The rest behind the end of a line, where a comment may stand. -/
def lineEnd? (s : List Char) : Option (List Char) :=
  let s := s.dropWhile isSpace
  let comment := if s.head? == some '#' then s.takeWhile isText else []
  let rest := s.drop comment.length
  if rest.isEmpty then some [] else newline? rest

/-- A text without the gaps, comments and line breaks at its beginning. -/
def skipLines (s : List Char) : List Char :=
  let behind := s.dropWhile isSpace
  match behind with
  | '#' :: _ | '\n' :: _ | '\r' :: _ =>
    match lineEnd? behind with
    | some rest => if _h : rest.length < s.length then skipLines rest else behind
    | none => behind
  | _ => behind
termination_by s.length

/-! ## Keys -/

/-- Whether a character belongs to a key without quotes. -/
def isKeyCharacter (c : Char) : Bool := isAlphanumeric c || c == '_' || c == '-'

/-- A part of a key. -/
def keyPart? (s : List Char) : Option (List Char × List Char) :=
  match s with
  | '"' :: rest => basicBody s.length rest
  | '\'' :: rest => literalBody rest
  | _ =>
    let part := s.takeWhile isKeyCharacter
    if part.isEmpty then none else some (part, s.drop part.length)

/-- A key of parts with dots between them. Gaps around it are dropped. -/
def key? (s : List Char) : Option (List String × List Char) :=
  match keyPart? (s.dropWhile isSpace) with
  | none => none
  | some (part, rest) =>
    match rest.dropWhile isSpace with
    | '.' :: more =>
      if _h : more.length < s.length then
        (key? more).map fun (parts, rest) => (String.ofList part :: parts, rest)
      else none
    | rest => some ([String.ofList part], rest)
termination_by s.length

/-! ## Values -/

/-- Items with commas between them up to a closing character. A comma may stand behind the last. -/
def separated {α : Type} (item : List Char → Option (α × List Char)) (close : Char)
    (s : List Char) : Option (List α × List Char) :=
  match skipLines s with
  | [] => none
  | c :: rest =>
    if c = close then some ([], rest)
    else
      match item (c :: rest) with
      | none => none
      | some (x, behind) =>
        match skipLines behind with
        | [] => none
        | ',' :: more =>
          if _h : more.length < s.length then
            (separated item close more).map fun (xs, rest) => (x :: xs, rest)
          else none
        | d :: rest => if d = close then some ([x], rest) else none
termination_by s.length

/-- A key, an equals sign and a value. -/
def pair? (value : List Char → Option (Value × List Char)) (s : List Char) :
    Option ((List String × Value) × List Char) := do
  let (key, s) ← key? s
  let s ← cut? '=' s
  let (v, s) ← value (s.dropWhile isSpace)
  some ((key, v), s)

/-- The greatest depth of arrays and tables in a value. -/
def maxDepth : Nat := 80

/-- A value that may be nested so deep. -/
def value? (depth : Nat) (s : List Char) : Option (Value × List Char) :=
  match s, depth with
  | [], _ => none
  | '[' :: _, 0 | '\x7b' :: _, 0 => none
  | '[' :: rest, n + 1 => (separated (value? n) ']' rest).map fun (items, rest) =>
    (.array false items, rest)
  | '\x7b' :: rest, n + 1 => do
    let (pairs, rest) ← separated (pair? (value? n)) '\x7d' rest
    let entries ← pairs.foldlM (fun es (key, v) => assign key v .inline es) []
    some (.table .inline entries, rest)
  | c :: cs, _ =>
    if c = '"' ∨ c = '\'' then
      (string? (c :: cs)).map fun (text, rest) => (.string (String.ofList text), rest)
    else
      let (chars, rest) := word (c :: cs)
      (wordValue? chars).map fun v => (v, rest)
termination_by structural depth

/-! ## Lines -/

/-- A header or an assignment. -/
def statement? (s : List Char) : Option (Statement × List Char) :=
  match s with
  | '[' :: '[' :: rest => do
    let (path, rest) ← key? rest
    some (.arrayTable path, ← cut? ']' (← cut? ']' rest))
  | '[' :: rest => do
    let (path, rest) ← key? rest
    some (.table path, ← cut? ']' rest)
  | s => do
    let ((key, v), rest) ← pair? (value? maxDepth) s
    some (.assignment key v, rest)

/-- The statements of a text. -/
def statements? (s : List Char) : Option (List Statement) :=
  match skipLines s with
  | [] => some []
  | rest =>
    match statement? rest with
    | none => none
    | some (statement, behind) =>
      match lineEnd? behind with
      | none => none
      | some more =>
        if _h : more.length < s.length then (statements? more).map (statement :: ·) else none
termination_by s.length

/-- The entries of a document. A mark of the byte order at its beginning is dropped. -/
def Entries.ofText? (s : String) : Option Entries := do
  let chars := s.toList
  let chars := if chars.head? == some (Char.ofNat 0xFEFF) then chars.drop 1 else chars
  Entries.ofStatements? (← statements? chars)

end RoleChart.Toml
