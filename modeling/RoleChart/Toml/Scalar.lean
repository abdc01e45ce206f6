import RoleChart.Toml.Value

/-!
# TOML scalars

Strings in their four forms, numbers, truth values and dates. Each reader takes the characters of one
scalar, or cuts it off the beginning of a text.
-/

namespace RoleChart.Toml

open Text

/-! ## Strings -/

/-- Whether a character can stand in a comment or a string. -/
def isText (c : Char) : Bool := c == '\t' || (0x20 ≤ c.toNat && c.toNat != 0x7F)

/-- Whether a character is a gap inside a line. -/
def isSpace (c : Char) : Bool := c == ' ' || c == '\t'

/-- The rest behind a line break. -/
def newline? : List Char → Option (List Char)
  | '\n' :: rest => some rest
  | '\r' :: '\n' :: rest => some rest
  | _ => none

/-- The character of so many hexadecimal digits. -/
def codePoint? (width : Nat) (s : List Char) : Option (Char × List Char) := do
  let digits := s.take width
  let n ← ofDigits? 16 digits
  if digits.length = width ∧ n.isValidChar then some (Char.ofNat n, s.drop width) else none

/-- The character of an escape, behind its backslash. -/
def escape? : List Char → Option (Char × List Char)
  | 'b' :: rest => some ('\x08', rest)
  | 't' :: rest => some ('\t', rest)
  | 'n' :: rest => some ('\n', rest)
  | 'f' :: rest => some ('\x0c', rest)
  | 'r' :: rest => some ('\r', rest)
  | 'e' :: rest => some ('\x1b', rest)
  | '"' :: rest => some ('"', rest)
  | '\\' :: rest => some ('\\', rest)
  | 'x' :: rest => codePoint? 2 rest
  | 'u' :: rest => codePoint? 4 rest
  | 'U' :: rest => codePoint? 8 rest
  | _ => none

/-- The body of a string between double quotes on one line, where at most so many characters are
read. -/
def basicBody : Nat → List Char → Option (List Char × List Char)
  | 0, _ => none
  | _, [] => none
  | _, '"' :: rest => some ([], rest)
  | n + 1, '\\' :: rest => do
    let (c, rest) ← escape? rest
    let (body, rest) ← basicBody n rest
    some (c :: body, rest)
  | n + 1, c :: rest => do
    if !isText c then none
    let (body, rest) ← basicBody n rest
    some (c :: body, rest)

/-- The body of a string between single quotes on one line. -/
def literalBody (s : List Char) : Option (List Char × List Char) :=
  match splitOnce '\'' s with
  | some (body, rest) => if body.all isText then some (body, rest) else none
  | none => none

/-- The quotes behind the closing three: up to two of them belong to the string. -/
def closing (quote : Char) (s : List Char) : List Char × List Char :=
  let more := min 2 (s.takeWhile (· == quote)).length
  (List.replicate more quote, s.drop more)

/-- Whether a character is a gap or part of a line break. -/
def isBlankOrBreak (c : Char) : Bool := isSpace c || c == '\n' || c == '\r'

/-- The body of a string between three double quotes. A backslash at the end of a line drops all gaps
and line breaks behind it. -/
def basicLines : Nat → List Char → Option (List Char × List Char)
  | 0, _ => none
  | _, [] => none
  | _, '"' :: '"' :: '"' :: rest => some (closing '"' rest)
  | n + 1, '\\' :: rest =>
    if (newline? (rest.dropWhile isSpace)).isSome then basicLines n (rest.dropWhile isBlankOrBreak)
    else do
      let (c, rest) ← escape? rest
      let (body, rest) ← basicLines n rest
      some (c :: body, rest)
  | n + 1, c :: rest => do
    if !isText c && (newline? (c :: rest)).isNone then none
    let (body, rest) ← basicLines n rest
    some (c :: body, rest)

/-- The body of a string between three single quotes. -/
def literalLines : List Char → Option (List Char × List Char)
  | '\'' :: '\'' :: '\'' :: rest => some (closing '\'' rest)
  | [] => none
  | c :: rest =>
    if !isText c && (newline? (c :: rest)).isNone then none
    else (literalLines rest).map fun (body, rest) => (c :: body, rest)

/-- A text without the line break at its beginning. -/
def dropNewline (s : List Char) : List Char := (newline? s).getD s

/-- A string in any form. -/
def string? (s : List Char) : Option (List Char × List Char) :=
  match s with
  | '"' :: '"' :: '"' :: rest => basicLines s.length (dropNewline rest)
  | '\'' :: '\'' :: '\'' :: rest => literalLines (dropNewline rest)
  | '"' :: rest => basicBody s.length rest
  | '\'' :: rest => literalBody rest
  | _ => none

/-! ## Numbers -/

/-- Digits with single underscores between them. -/
def digits? (p : Char → Bool) (s : List Char) : Option (List Char) :=
  let parts := splitOn '_' s
  if parts.all fun part => !part.isEmpty && part.all p then some parts.flatten else none

/-- Whether digits begin with a zero that they do not need. -/
def hasNeedlessZero (digits : List Char) : Bool := digits.head? == some '0' && 1 < digits.length

/-- A whole number in decimal digits, without a needless zero. -/
def decimal? (s : List Char) : Option (List Char) :=
  (digits? isDigit s).filter (!hasNeedlessZero ·)

/-- Whether an integer has at most 128 bits. -/
def fits (z : Int) : Bool := -(Nat.pow 2 127 : Int) ≤ z && z < Nat.pow 2 128

/-- A whole number. Other bases than ten have a mark and no sign. -/
def integer? (s : List Char) : Option Int := do
  let z ←
    match s with
    | '0' :: 'x' :: rest => do some (Int.ofNat (← ofDigits? 16 (← digits? isHexDigit rest)))
    | '0' :: 'o' :: rest => do some (Int.ofNat (← ofDigits? 8 (← digits? isDigit rest)))
    | '0' :: 'b' :: rest => do some (Int.ofNat (← ofDigits? 2 (← digits? isDigit rest)))
    | s => do
      let (negative, rest) := Decimal.Literal.sign s
      let n ← ofDigits? 10 (← decimal? rest)
      some (if negative then -Int.ofNat n else Int.ofNat n)
  if fits z then some z else none

/-- The parts of a decimal number: before the point, behind it, and the exponent. -/
def floatParts? (s : List Char) : Option (List Char × List Char × List Char) := do
  let (mantissa, exponent) :=
    match splitOnce 'e' (s.map lowerAscii) with
    | some (m, e) => (m, some e)
    | none => (s, none)
  let (whole, fraction) :=
    match splitOnce '.' mantissa with
    | some (w, f) => (w, some f)
    | none => (mantissa, none)
  if exponent.isNone && fraction.isNone then none
  let whole ← decimal? whole
  let fraction ← (fraction.map (digits? isDigit)).getD (some [])
  let exponent ←
    match exponent with
    | none => some ['0']
    | some ('+' :: e) => digits? isDigit e
    | some ('-' :: e) => (digits? isDigit e).map ('-' :: ·)
    | some e => digits? isDigit e
  some (whole, fraction, exponent)

/-- A number with a point or an exponent, or one of the words. It must not overflow. -/
def float? (s : List Char) : Option Decimal.Binary64 := do
  let (negative, rest) := Decimal.Literal.sign s
  if rest = ['i', 'n', 'f'] then some (.ofLiteral (.infinite negative))
  else if rest = ['n', 'a', 'n'] then some (.ofLiteral .nan)
  else do
    let (whole, fraction, exponent) ← floatParts? rest
    let exponent ← Decimal.Literal.integer? exponent
    let x := Decimal.Binary64.ofLiteral
      (.number negative (Decimal.Literal.value (whole ++ fraction)) (exponent - fraction.length))
    if x.isFinite then some x else none

/-! ## Dates -/

/-- Cuts off a number of so many digits. -/
def fixed? (width : Nat) (s : List Char) : Option (Nat × List Char) :=
  let digits := s.take width
  if digits.length = width && digits.all isDigit then
    some (Decimal.Literal.value digits, s.drop width)
  else none

/-- Cuts off a character. -/
def cut? (c : Char) : List Char → Option (List Char)
  | d :: rest => if c = d then some rest else none
  | [] => none

/-- The days of a month. -/
def daysIn (year month : Nat) : Nat :=
  if month = 2 then if year % 4 = 0 ∧ (year % 100 ≠ 0 ∨ year % 400 = 0) then 29 else 28
  else if month = 4 ∨ month = 6 ∨ month = 9 ∨ month = 11 then 30
  else 31

/-- The rest behind a date. -/
def date? (s : List Char) : Option (List Char) := do
  let (year, s) ← fixed? 4 s
  let (month, s) ← fixed? 2 (← cut? '-' s)
  let (day, s) ← fixed? 2 (← cut? '-' s)
  if 1 ≤ month ∧ month ≤ 12 ∧ 1 ≤ day ∧ day ≤ daysIn year month then some s else none

/-- The rest behind the seconds of a time, which may be left out. -/
def seconds? (s : List Char) : Option (List Char) :=
  match s with
  | ':' :: s => do
    let (second, s) ← fixed? 2 s
    if 60 < second then none
    match s with
    | '.' :: s =>
      let fraction := s.takeWhile isDigit
      if fraction.isEmpty then none else some (s.drop fraction.length)
    | s => some s
  | s => some s

/-- The rest behind a time. -/
def time? (s : List Char) : Option (List Char) := do
  let (hour, s) ← fixed? 2 s
  let (minute, s) ← fixed? 2 (← cut? ':' s)
  if hour ≤ 23 ∧ minute ≤ 59 then seconds? s else none

/-- Whether nothing or a distance from universal time stands behind a time. -/
def isOffset (s : List Char) : Bool :=
  match s with
  | [] | ['Z'] | ['z'] => true
  | sign :: s =>
    (sign == '+' || sign == '-') && (do
      let (hour, s) ← fixed? 2 s
      let (minute, s) ← fixed? 2 (← cut? ':' s)
      some (s.isEmpty && decide (hour ≤ 23 ∧ minute ≤ 59))) == some true

/-- Whether the characters write a date, a time, or both. -/
def isDatetime (s : List Char) : Bool :=
  match date? s with
  | some [] => true
  | some (c :: rest) =>
    (c == 'T' || c == 't' || c == ' ') && (time? rest).any isOffset
  | none => time? s == some []

/-! ## Words -/

/-- Whether a character belongs to a scalar without quotes. -/
def isWordCharacter (c : Char) : Bool :=
  isAlphanumeric c || c == '_' || c == '-' || c == '+' || c == '.' || c == ':'

/-- Cuts off a scalar without quotes. A space may stand between a date and a time. -/
def word (s : List Char) : List Char × List Char :=
  let first := s.takeWhile isWordCharacter
  let rest := s.drop first.length
  match date? first, rest with
  | some [], ' ' :: behind =>
    let second := behind.takeWhile isWordCharacter
    if (time? second).isSome then (first ++ ' ' :: second, behind.drop second.length)
    else (first, rest)
  | _, _ => (first, rest)

/-- The value of a scalar without quotes. -/
def wordValue? (s : List Char) : Option Value :=
  if s = ['t', 'r', 'u', 'e'] then some (.bool true)
  else if s = ['f', 'a', 'l', 's', 'e'] then some (.bool false)
  else if isDatetime s then some (.datetime (String.ofList s))
  else ((integer? s).map Value.integer).or ((float? s).map Value.float)

end RoleChart.Toml
