import RoleChart.Yaml.Token.Scalar

/-!
# Anchors, tags and directives

The tokens that stand in front of a node or of a document.
-/

namespace RoleChart.Yaml

open Text

/-! ## Anchors -/

/-- The characters that may follow a name directly. -/
def endsName (s : List Char) : Bool :=
  atGap s || s.head?.any fun c => "?:,]\x7d%@\x60".toList.contains c

/-- Reads the name of an anchor or an alias, from its mark. -/
def anchorName (c : Cursor) : Except Problem (String × Cursor) :=
  let c := c.skip 1
  let name := c.rest.takeWhile isWordChar
  let c := c.skipTo (c.rest.dropWhile isWordChar)
  if name.isEmpty || !endsName c.rest then .error .anchor else .ok (String.ofList name, c)

/-! ## Tags -/

/-- The characters of a tag. Between angle brackets a comma and square brackets belong to it. -/
def isTagChar (angle : Bool) (c : Char) : Bool :=
  isWordChar c || ";/?:@&=+$.%!~*'()".toList.contains c
    || (angle && (c == ',' || c == '[' || c == ']'))

/-- The number of bytes of a character, from the first of them. -/
def leadingWidth? (octet : Nat) : Option Nat :=
  if octet < 0x80 then some 1
  else if octet / 0x20 = 6 then some 2
  else if octet / 0x10 = 14 then some 3
  else if octet / 8 = 30 then some 4
  else none

/-- Reads bytes behind percent signs: a first one and as many further ones as it asks for. -/
def escapedBytes (width : Option Nat) (bytes : List UInt8) :
    List Char → Except Problem (List UInt8 × List Char)
  | '%' :: a :: b :: rest =>
    match hexValue? a, hexValue? b with
    | some high, some low =>
      let octet := high * 16 + low
      let bytes := bytes ++ [UInt8.ofNat octet]
      match width with
      | none =>
        match leadingWidth? octet with
        | none => .error .tag
        | some 1 => .ok (bytes, rest)
        | some n => escapedBytes (some (n - 1)) bytes rest
      | some n =>
        if octet / 0x40 ≠ 2 then .error .tag
        else if n ≤ 1 then .ok (bytes, rest)
        else escapedBytes (some (n - 1)) bytes rest
    | _, _ => .error .tag
  | _ => .error .tag

/-- Reads the characters of a tag, with escaped ones decoded. -/
def tagChars (angle : Bool) (text : List Char) (s : List Char) :
    Nat → Except Problem (List Char × List Char)
  | 0 => .ok (text, s)
  | fuel + 1 =>
    match s with
    | [] => .ok (text, [])
    | c :: rest =>
      if !isTagChar angle c then .ok (text, c :: rest)
      else if c == '%' then
        match escapedBytes none [] (c :: rest) with
        | .error p => .error p
        | .ok (bytes, rest) =>
          match String.fromUTF8? (ByteArray.mk bytes.toArray) with
          | none => .error .tag
          | some decoded => tagChars angle (text ++ decoded.toList) rest fuel
      else tagChars angle (text ++ [c]) rest fuel

/-- Reads a tag handle: words between exclamation marks, or an exclamation mark and what follows
it. -/
def tagHandle (s : List Char) : List Char × List Char :=
  let word := (s.drop 1).takeWhile isWordChar
  match (s.drop 1).dropWhile isWordChar with
  | '!' :: rest => ('!' :: word ++ ['!'], rest)
  | rest => ('!' :: word, rest)

/-- Reads a tag, from its exclamation mark, as a handle and a suffix. The lone exclamation mark has
no handle. -/
def tagToken (flow : Bool) (c : Cursor) : Except Problem (Token × Cursor) := do
  let (handle, suffix, rest) ← match c.rest.drop 1 with
    | '<' :: inside => do
      let (uri, rest) ← tagChars true [] inside inside.length
      match rest with
      | '>' :: rest => if uri.isEmpty then throw .tag else pure ([], uri, rest)
      | _ => throw .tag
    | _ => do
      let (handle, rest) := tagHandle c.rest
      if 1 < handle.length && endsWith '!' handle then
        let (suffix, rest) ← tagChars false [] rest rest.length
        if suffix.isEmpty then throw .tag else pure (handle, suffix, rest)
      else
        let (suffix, rest) ← tagChars false (handle.drop 1) rest rest.length
        pure (if suffix.isEmpty then ([], ['!'], rest) else (['!'], suffix, rest))
  unless atGap rest || (flow && rest.head? == some ',') do throw .tag
  return (.tag (String.ofList handle) (String.ofList suffix), c.skipTo rest)

/-! ## Directives -/

/-- Reads a version number of at most nine digits. -/
def versionNumber (s : List Char) : Except Problem (Nat × List Char) :=
  let digits := s.takeWhile isDigit
  if digits.isEmpty || 9 < digits.length then .error .directive
  else .ok ((ofDigits? 10 digits).getD 0, s.dropWhile isDigit)

/-- Reads a directive, from its percent sign. -/
def directiveToken (c : Cursor) : Except Problem (Token × Cursor) := do
  let name := (c.rest.drop 1).takeWhile isWordChar
  let rest := (c.rest.drop 1).dropWhile isWordChar
  if name.isEmpty || !atGap rest then throw .directive
  let rest := rest.dropWhile isGap
  let (token, rest) ←
    if name = "YAML".toList then
      let (major, rest) ← versionNumber rest
      match rest with
      | '.' :: rest =>
        let (minor, rest) ← versionNumber rest
        pure (Token.version major minor, rest)
      | _ => throw .directive
    else if name = "TAG".toList then
      if rest.head? != some '!' then throw .directive
      let (handle, rest) := tagHandle rest
      if !(handle.length == 1 || endsWith '!' handle) then throw .directive
      if !rest.head?.any isGap then throw .directive
      let rest := rest.dropWhile isGap
      let (uri, rest) ← tagChars true [] rest rest.length
      if uri.isEmpty || !atGap rest then throw .directive
      pure (Token.tagHandle (String.ofList handle) (String.ofList uri), rest)
    else throw .directive
  let c ← endOfLine (c.skipTo rest)
  return (token, c)

end RoleChart.Yaml
