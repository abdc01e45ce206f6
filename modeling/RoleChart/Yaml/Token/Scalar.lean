import RoleChart.Yaml.Token

/-!
# Texts of scalars

Plain scalars, scalars between quotes, and block scalars. Each reader starts at the beginning of a
scalar and gives its text and the position behind it.
-/

namespace RoleChart.Yaml

open Text

/-! ## Plain scalars -/

/-- The marks that end a plain scalar inside brackets. -/
def isFlowMark (c : Char) : Bool := c == ',' || c == '[' || c == ']' || c == '\x7b' || c == '\x7d'

/-- A run of a plain scalar without gaps. A colon in front of a gap ends it, and inside brackets so
does a bracket or a comma; there a colon must not stand in front of one of these. -/
def plainRun (flow : Bool) : List Char → Except Problem (List Char × List Char)
  | [] => .ok ([], [])
  | c :: rest =>
    if isGapOrBreak c then .ok ([], c :: rest)
    else if flow && c == ':' && rest.head?.any fun d => isFlowMark d || d == '?' then .error .indicator
    else if (c == ':' && atGap rest) || (flow && isFlowMark c) then .ok ([], c :: rest)
    else
      match plainRun flow rest with
      | .error e => .error e
      | .ok (run, rest) => .ok (c :: run, rest)

/-- Reads on a plain scalar: the text so far, and the gap behind it. -/
def plainOnto (flow : Bool) (column : Nat) (text : List Char) (f : Cursor.Fold) (c : Cursor) :
    Nat → Except Problem (List Char × Bool × Cursor)
  | 0 => .ok (text, f.broken, c)
  | fuel + 1 =>
    if c.atDocumentMark || c.rest.head? == some '#' then .ok (text, f.broken, c)
    else
      match plainRun flow c.rest with
      | .error e => .error e
      | .ok (run, rest) =>
        let text := if run.isEmpty then text else text ++ f.text ++ run
        let broken := run.isEmpty && f.broken
        let c := c.skipTo rest
        if !rest.head?.any isGapOrBreak then .ok (text, broken, c)
        else
          match c.fold column {} with
          | .error e => .error e
          | .ok (f, c) =>
            if !flow && c.column < column then .ok (text, f.broken, c)
            else plainOnto flow column text f c fuel

/-- Reads a plain scalar. Outside of brackets its further lines begin at the given column or right
of it. The flag says whether it ends behind a line break. -/
def plainScalar (flow : Bool) (column : Nat) (c : Cursor) :
    Except Problem (List Char × Bool × Cursor) :=
  plainOnto flow column [] {} c (c.rest.length + 1)

/-! ## Quoted scalars -/

/-- A run between single quotes, to a gap, a break or the closing quote. A quote is written twice. -/
def singleRun : List Char → List Char × List Char
  | '\'' :: '\'' :: rest => let (run, rest) := singleRun rest; ('\'' :: run, rest)
  | [] => ([], [])
  | c :: rest =>
    if isGapOrBreak c || c == '\'' then ([], c :: rest)
    else let (run, rest) := singleRun rest; (c :: run, rest)

/-- The character that an escape of one letter stands for. -/
def escapeChar? (c : Char) : Option Char :=
  match c with
  | '0' => some '\x00'
  | 'a' => some '\x07'
  | 'b' => some '\x08'
  | 't' | '\t' => some '\t'
  | 'n' => some '\n'
  | 'v' => some '\x0b'
  | 'f' => some '\x0c'
  | 'r' => some '\r'
  | 'e' => some '\x1b'
  | ' ' => some ' '
  | '"' => some '"'
  | '/' => some '/'
  | '\\' => some '\\'
  | 'N' => some (Char.ofNat 0x85)
  | '_' => some (Char.ofNat 0xA0)
  | 'L' => some (Char.ofNat 0x2028)
  | 'P' => some (Char.ofNat 0x2029)
  | _ => none

/-- The number of digits behind an escape that gives a code point. -/
def escapeWidth? (c : Char) : Option Nat :=
  if c = 'x' then some 2 else if c = 'u' then some 4 else if c = 'U' then some 8 else none

/-- The character of a code point in hexadecimal. -/
def codePoint? (digits : List Char) : Option Char := do
  let n ← ofDigits? 16 digits
  if n < 0xD800 ∨ (0xDFFF < n ∧ n ≤ 0x10FFFF) then some (Char.ofNat n) else none

/-- A run between double quotes, to a gap, a break, an escaped break or the closing quote. The flag
says whether an escaped break follows. -/
def doubleRun (s : List Char) : Except Problem (List Char × Bool × List Char) :=
  match s with
  | [] => .ok ([], false, [])
  | c :: rest =>
    if isGapOrBreak c || c == '"' then .ok ([], false, c :: rest)
    else if c == '\\' then
      match rest with
      | [] => .error .escape
      | e :: rest =>
        if isBreak e then .ok ([], true, e :: rest)
        else
          match escapeChar? e, escapeWidth? e with
          | some d, _ =>
            match doubleRun rest with
            | .error p => .error p
            | .ok (run, escaped, rest) => .ok (d :: run, escaped, rest)
          | none, some width =>
            if rest.length < width then .error .escape
            else
              match codePoint? (rest.take width) with
              | none => .error .escape
              | some d =>
                match doubleRun (rest.drop width) with
                | .error p => .error p
                | .ok (run, escaped, rest) => .ok (d :: run, escaped, rest)
          | none, none => .error .escape
    else
      match doubleRun rest with
      | .error p => .error p
      | .ok (run, escaped, rest) => .ok (c :: run, escaped, rest)
termination_by s.length
decreasing_by all_goals simp only [List.length_cons, List.length_drop]; omega

/-- Reads on a quoted scalar behind the text so far. -/
def quotedOnto (quote : Char) (text : List Char) (c : Cursor) :
    Nat → Except Problem (List Char × Cursor)
  | 0 => .error .unclosed
  | fuel + 1 =>
    if c.atDocumentMark || c.rest.isEmpty then .error .unclosed
    else
      let run : Except Problem (List Char × Bool × List Char) :=
        if quote = '\'' then let (run, rest) := singleRun c.rest; .ok (run, false, rest)
        else doubleRun c.rest
      match run with
      | .error p => .error p
      | .ok (run, escaped, rest) =>
        let c := c.skipTo rest
        let c := if escaped then c.skipLine else c
        if c.rest.head? == some quote then .ok (text ++ run, c.skip 1)
        else
          match c.fold 0 { broken := escaped } with
          | .error p => .error p
          | .ok (f, c) => quotedOnto quote (text ++ run ++ f.text) c fuel

/-- Reads a scalar between quotes, from its opening quote. -/
def quotedScalar (quote : Char) (c : Cursor) : Except Problem (List Char × Cursor) :=
  quotedOnto quote [] (c.skip 1) (c.rest.length + 1)

/-! ## Block scalars -/

/-- What happens to the breaks at the end of a block scalar. -/
inductive Chomp where
  | strip
  | clip
  | keep
deriving DecidableEq, Repr

/-- The chomping that a sign asks for. -/
def chompSign? (c : Char) : Option Chomp :=
  if c = '+' then some .keep else if c = '-' then some .strip else none

/-- Reads the sign and the digit behind the mark of a block scalar, in either order. The digit is
not zero. -/
def blockHeader (s : List Char) : Except Problem (Chomp × Nat × List Char) :=
  let digit (s : List Char) : Except Problem (Nat × List Char) :=
    match s with
    | c :: rest =>
      if c == '0' then .error .indentation
      else if isDigit c then .ok ((hexValue? c).getD 0, rest)
      else .ok (0, c :: rest)
    | [] => .ok (0, [])
  match s with
  | [] => .ok (.clip, 0, [])
  | c :: rest =>
    match chompSign? c with
    | some chomp => do
      let (increment, rest) ← digit rest
      return (chomp, increment, rest)
    | none => do
      let (increment, rest) ← digit (c :: rest)
      match rest with
      | d :: rest' =>
        match (if increment = 0 then none else chompSign? d) with
        | some chomp => return (chomp, increment, rest')
        | none => return (.clip, increment, rest)
      | [] => return (.clip, increment, [])

/-- Reads empty lines and the indentation of the line after them. An indentation of zero is not
known yet. Gives the breaks and the widest indentation seen. -/
def blockBreaks (indent : Nat) (breaks : List Char) (widest : Nat) (c : Cursor) :
    Nat → Except Problem (List Char × Nat × Cursor)
  | 0 => .ok (breaks, widest, c)
  | fuel + 1 =>
    let spaces := (c.rest.takeWhile (· == ' ')).length
    let c := c.skip (if indent = 0 then spaces else min spaces (indent - c.column))
    let widest := max widest c.column
    if (indent == 0 || c.column < indent) && c.rest.head? == some '\t' then .error .indentation
    else if c.rest.head?.any isBreak then
      blockBreaks indent (breaks ++ c.breakText) widest c.skipLine fuel
    else .ok (breaks, widest, c)

/-- Reads the lines of a block scalar. `break` and `breaks` are the line breaks behind the text so
far, the first one apart. A folded scalar puts a space for a single break between lines that do not
begin with a gap. -/
def blockLines (folded : Bool) (indent : Nat) (text first breaks : List Char) (gap : Bool)
    (c : Cursor) : Nat → Except Problem (List Char × List Char × List Char × Cursor)
  | 0 => .ok (text, first, breaks, c)
  | fuel + 1 =>
    if c.column ≠ indent ∨ c.rest = [] then .ok (text, first, breaks, c)
    else
      let gapHere := c.rest.head?.any isGap
      let joint :=
        if folded && first == ['\n'] && !gap && !gapHere then
          (if breaks.isEmpty then [' '] else []) ++ breaks
        else first ++ breaks
      let line := c.rest.takeWhile fun d => !isBreak d
      let c := c.skipWhile fun d => !isBreak d
      let first := c.breakText
      match blockBreaks indent [] 0 c.skipLine (c.rest.length + 1) with
      | .error p => .error p
      | .ok (breaks, _, c) => blockLines folded indent (text ++ joint ++ line) first breaks gapHere c fuel

/-- Moves past gaps and a comment. There must be nothing else on the line. -/
def endOfLine (c : Cursor) : Except Problem Cursor :=
  let c := c.skipWhile isGap
  let c := if c.rest.head? == some '#' then c.skipWhile fun d => !isBreak d else c
  if atBreak c.rest then .ok c.skipLine else .error .indicator

/-- Reads a block scalar, from its mark, inside the given indentation. -/
def blockScalar (folded : Bool) (parent : Int) (c : Cursor) : Except Problem (List Char × Cursor) := do
  let (chomp, increment, rest) ← blockHeader (c.skip 1).rest
  let c ← endOfLine ((c.skip 1).skipTo rest)
  let known := if increment = 0 then 0 else (max parent 0).toNat + increment
  let (breaks, widest, c) ← blockBreaks known [] 0 c (c.rest.length + 1)
  let indent := if known = 0 then max (max widest (parent + 1).toNat) 1 else known
  let (text, first, breaks, c) ← blockLines folded indent [] [] breaks false c (c.rest.length + 1)
  let text := if chomp = .strip then text else text ++ first
  return (if chomp = .keep then text ++ breaks else text, c)

end RoleChart.Yaml
