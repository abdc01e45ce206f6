import RoleChart.Names
import RoleChart.Yaml.Resolve

/-!
# Values as text

The text of a value in block style. A scalar is plain where it can be, between single quotes where a
plain one would mean something else, a literal block where it has line feeds, and between double
quotes where nothing else holds it. A sequence under a name is not indented; collections under a
dash begin on its line.

## Main statements

* `scalarStyle_reserved` — a text that reads as something else is not plain
-/

namespace RoleChart.Yaml

open Text

/-- Why a value has no text: a tag directly inside a tag, or a mapping of one entry whose key has a
tag or is itself a mapping of one entry, as the whole value or inside of one. -/
inductive Unwritable where
  | nestedTag
  | keyAtRoot
  | keyInside
deriving DecidableEq, Repr

/-- The text of the reason. -/
def Unwritable.message : Unwritable → String
  | nestedTag => "serializing nested enums in YAML is not supported yet"
  | keyAtRoot => "expected DOCUMENT-START or STREAM-END"
  | keyInside => "expected SCALAR, SEQUENCE-START, MAPPING-START, or ALIAS"

/-! ## Scalars -/

/-- Whether a plain scalar of this spelling would not be the text, or could be mistaken for a
number. -/
def readsOtherwise (s : String) : Bool :=
  match plainValue s with
  | .ok (.string _) => hasNeedlessZero s.toList
  | _ => true

/-- The characters that stand for themselves. -/
def isPlainPrintable (c : Char) : Bool :=
  let n := c.toNat
  n == 0x0A || (0x20 ≤ n && n ≤ 0x7E) || (0xA0 ≤ n && n ≤ 0xD7FF)
    || (0xE000 ≤ n && n ≤ 0xFFFD && n != 0xFEFF) || 0x10000 ≤ n

/-- What is found in a text: line breaks, marks that a plain scalar cannot hold, characters that
need escapes, and gaps beside breaks or at the ends. -/
structure Analysis where
  breaks : Bool
  indicators : Bool
  special : Bool
  outerSpace : Bool
  trailingSpace : Bool
  spaceBreak : Bool
  breakSpace : Bool
deriving Repr

/-- Whether a pair of neighbours is among the characters of a text. -/
def hasPair (p q : Char → Bool) : List Char → Bool
  | a :: b :: rest => (p a && q b) || hasPair p q (b :: rest)
  | _ => false

/-- Whether a mark stands in a text behind its first character: a colon before a gap, or a hash sign
behind one. -/
def hasInnerMark : List Char → Bool
  | a :: b :: rest =>
    (b == ':' && atGap rest) || (b == '#' && isGapOrBreak a) || hasInnerMark (b :: rest)
  | _ => false

/-- Whether a text begins with a mark. -/
def beginsWithMark : List Char → Bool
  | [] => false
  | c :: rest =>
    "#,[]\x7b\x7d&*!|>'\"%@\x60".toList.contains c
      || ((c == '?' || c == ':' || c == '-') && atGap rest)
      || ['-', '-', '-'].isPrefixOf (c :: rest) || ['.', '.', '.'].isPrefixOf (c :: rest)

/-- Looks through a text. -/
def Analysis.ofText (s : List Char) : Analysis where
  breaks := s.any isBreak
  indicators := beginsWithMark s || hasInnerMark s
  special := s.any fun c => !isPlainPrintable c
  outerSpace := s.head?.any (fun c => c == ' ' || isBreak c) || s.getLast?.any fun c => c == ' ' || isBreak c
  trailingSpace := endsWith ' ' s
  spaceBreak := hasPair (· == ' ') isBreak s
  breakSpace := hasPair isBreak (· == ' ') s

/-- How a scalar is written. -/
inductive WrittenStyle where
  | plain
  | single
  | double
  | literal
deriving DecidableEq, Repr

/-- The style of a text. A key on one line cannot be a literal block. -/
def scalarStyle (simpleKey : Bool) (s : String) : WrittenStyle :=
  let a := Analysis.ofText s.toList
  let quotedStyle : WrittenStyle := if a.breakSpace || a.spaceBreak || a.special then .double else .single
  if s.toList.contains '\n' then
    if a.trailingSpace || a.spaceBreak || a.special || simpleKey then .double else .literal
  else if readsOtherwise s then quotedStyle
  else if a.outerSpace || a.breakSpace || a.spaceBreak || a.special || a.breaks || a.indicators then
    if a.breaks && simpleKey then .double else quotedStyle
  else .plain

theorem scalarStyle_reserved (key : Bool) (s : String) (h : readsOtherwise s = true) :
    scalarStyle key s ≠ .plain := by
  unfold scalarStyle
  simp only [h, if_true]
  repeat' split
  all_goals simp

/-- A character between double quotes. -/
def doubleEscaped (c : Char) : List Char :=
  let hex (width : Nat) : List Char := (hexadecimal width c.toNat).map upperAscii
  if c.toNat = 0 then ['\\', '0']
  else if c.toNat = 7 then ['\\', 'a']
  else if c.toNat = 8 then ['\\', 'b']
  else if c = '\t' then ['\\', 't']
  else if c = '\n' then ['\\', 'n']
  else if c.toNat = 0x0B then ['\\', 'v']
  else if c.toNat = 0x0C then ['\\', 'f']
  else if c = '\r' then ['\\', 'r']
  else if c.toNat = 0x1B then ['\\', 'e']
  else if c = '"' then ['\\', '"']
  else if c = '\\' then ['\\', '\\']
  else if c.toNat = 0x85 then ['\\', 'N']
  else if c.toNat = 0x2028 then ['\\', 'L']
  else if c.toNat = 0x2029 then ['\\', 'P']
  else if isPlainPrintable c then [c]
  else if c.toNat ≤ 0xFF then '\\' :: 'x' :: hex 2
  else if c.toNat ≤ 0xFFFF then '\\' :: 'u' :: hex 4
  else '\\' :: 'U' :: hex 8

/-- A text with its lines indented. Line breaks other than the line feed stay in their line, and what
follows them is indented too. -/
def indented (pad : List Char) (broken : Bool) : List Char → List Char
  | [] => []
  | c :: rest =>
    if isBreak c then c :: indented pad true rest
    else (if broken then pad else []) ++ c :: indented pad false rest

/-- The marks behind the bar of a literal block: its indentation where the text begins with a gap or
a break, and a sign unless it ends with exactly one break. -/
def literalHints (s : List Char) : List Char :=
  (if s.head?.any fun c => c == ' ' || isBreak c then ['2'] else [])
    ++ match s.reverse with
      | last :: before =>
        if !isBreak last then ['-']
        else if before.isEmpty || before.head?.any isBreak then ['+']
        else []
      | [] => ['-']

/-- The text on the current line, and the lines below it. -/
structure Placed where
  head : List Char
  rest : List (List Char) := []

/-- A scalar inside a given indentation. -/
def placeString (indent : Int) (simpleKey : Bool) (s : String) : Placed :=
  let chars := s.toList
  let pad := List.replicate (if indent < 0 then 2 else indent.toNat + 2) ' '
  match scalarStyle simpleKey s with
  | .plain => ⟨chars, []⟩
  | .single =>
    let quoted := chars.flatMap fun c => if c = '\'' then ['\'', '\''] else [c]
    let padded := indented pad false quoted
    ⟨'\'' :: padded ++ (if quoted.getLast?.any isBreak then pad else []) ++ ['\''], []⟩
  | .double => ⟨'"' :: chars.flatMap doubleEscaped ++ ['"'], []⟩
  | .literal =>
    let lines := splitOn '\n' (indented pad true chars)
    ⟨'|' :: literalHints chars, if endsWith '\n' chars then lines.dropLast else lines⟩

/-- A tag. Characters that a tag cannot hold are escaped. -/
def tagText (tag : String) : List Char :=
  '!' :: (tag.toList.drop 1).flatMap fun c =>
    if isWordChar c || ";/?:@&=+$,.~*'()[]".toList.contains c then [c]
    else (bytes (String.singleton c)).flatMap fun b =>
      '%' :: (hexadecimal 2 b.toNat).map upperAscii

/-! ## Collections -/

/-- Whether a key is one that a mapping of a single entry cannot have. -/
def isLostKey : Value → Bool
  | .tagged .. => true
  | .mapping [_] => true
  | _ => false

/-- The longest key that stands on one line with its value, in bytes. -/
def maxSimpleKeySize : Nat := 128

/-- Whether a key stands on one line with its value. -/
def isSimpleKey (v : Value) : Bool :=
  let fits (tagSize : Nat) (v : Value) : Bool :=
    match v with
    | .string s => !s.toList.any isBreak && tagSize + utf8Size s.toList ≤ maxSimpleKeySize
    | .sequence items => items.isEmpty && tagSize ≤ maxSimpleKeySize
    | .mapping entries => entries.isEmpty && tagSize ≤ maxSimpleKeySize
    | .tagged .. => false
    | _ => true
  match v with
  | .tagged tag inner => fits (utf8Size tag.toList) inner
  | v => fits 0 v

/-- Puts a text in front of a placed one, with a space between them. -/
def Placed.after (p : Placed) (lead : List Char) : Placed :=
  ⟨if p.head.isEmpty then lead else lead ++ ' ' :: p.head, p.rest⟩

/-- The lines of a collection at an indentation: on the current line where a collection may begin
there, otherwise below it. -/
def placeLines (indent : Nat) (compact : Bool) (parts : List Placed) : Placed :=
  let pad := List.replicate indent ' '
  let line (p : Placed) : List (List Char) := (pad ++ p.head) :: p.rest
  match parts with
  | [] => ⟨[], []⟩
  | p :: ps =>
    if compact then ⟨p.head, p.rest ++ ps.flatMap line⟩ else ⟨[], (p :: ps).flatMap line⟩

/-- The indentation inside a collection. -/
def innerIndent (indent : Int) (unindented : Bool) : Nat :=
  if indent < 0 then 0 else if unindented then indent.toNat else indent.toNat + 2

mutual

/-- A value at an indentation, which is negative at the root. It may stand as the value of a name,
and begin a collection on the current line. -/
def place (indent : Int) (named compact simpleKey : Bool) : Value → Except Unwritable Placed
  | .null => .ok ⟨"null".toList, []⟩
  | .bool b => .ok ⟨(if b then "true" else "false").toList, []⟩
  | .int z => .ok ⟨decimalInt z, []⟩
  | .float x => .ok ⟨(Value.floatText x).toList, []⟩
  | .string s => .ok (placeString indent simpleKey s)
  | .sequence [] => .ok ⟨['[', ']'], []⟩
  | .mapping [] => .ok ⟨['\x7b', '\x7d'], []⟩
  | .sequence (item :: items) => do
    let inner := innerIndent indent (named && !compact)
    return placeLines inner compact (← placeItems inner (item :: items))
  | .mapping (entry :: entries) => do
    if entries.isEmpty && isLostKey entry.1 then
      throw (if indent < 0 then .keyAtRoot else .keyInside)
    let inner := innerIndent indent false
    return placeLines inner compact (← placeEntries inner (entry :: entries))
  | .tagged tag value =>
    match value with
    | .tagged .. => .error .nestedTag
    | .mapping (entry :: entries) => do
      let inner := innerIndent indent false
      return (placeLines inner false (← placeEntries inner (entry :: entries))).after (tagText tag)
    | value => do return (← place indent named false simpleKey value).after (tagText tag)

/-- The items of a sequence behind dashes. -/
def placeItems (indent : Nat) : List Value → Except Unwritable (List Placed)
  | [] => .ok []
  | item :: items => do
    let p ← place indent false true false item
    let ps ← placeItems indent items
    return p.after ['-'] :: ps

/-- The entries of a mapping. A key that does not stand on one line with its value is marked. -/
def placeEntries (indent : Nat) : List (Value × Value) → Except Unwritable (List Placed)
  | [] => .ok []
  | (key, value) :: entries => do
    let simple := isSimpleKey key
    let k ← place indent true true simple key
    let v ← place indent true (!simple) false value
    let ps ← placeEntries indent entries
    if simple then return v.after (k.head ++ [':']) :: ps
    else return k.after ['?'] :: v.after [':'] :: ps

end

/-- The text of a value. -/
def Value.text (v : Value) : Except Unwritable String := do
  let p ← place (-1) false true false v
  return String.ofList ((p.head :: p.rest).flatMap fun line => line ++ ['\n'])

end RoleChart.Yaml
