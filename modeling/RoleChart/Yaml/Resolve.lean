import RoleChart.Yaml.Cursor
import RoleChart.Yaml.Value

/-!
# What plain scalars mean

A plain scalar is null, a truth value, an integer, a float or a text, by its spelling. Digits behind
a needless zero are a text, and so are the words for infinity and no number without a point.
-/

namespace RoleChart.Yaml

open Text Decimal

/-- The spellings of null. -/
def isNullWord (s : String) : Bool := s == "~" || s == "null" || s == "Null" || s == "NULL"

/-- The spellings of truth values. -/
def bool? (s : String) : Option Bool :=
  if s == "true" || s == "True" || s == "TRUE" then some true
  else if s == "false" || s == "False" || s == "FALSE" then some false
  else none

/-- The number that digits of a base write, behind an optional plus sign and below a bound. -/
def digits? (base bound : Nat) (s : List Char) : Option Nat :=
  let s := match s with
    | '+' :: rest => rest
    | s => s
  if s.isEmpty then none else (ofDigits? base s).filter (· < bound)

/-- The marks of the bases. -/
def baseMarks : List (List Char × Nat) := [(['0', 'x'], 16), (['0', 'o'], 8), (['0', 'b'], 2)]

/-- Whether a text begins with a sign. -/
def isSigned (s : List Char) : Bool := s.head? == some '+' || s.head? == some '-'

/-- Whether a text is digits behind a needless zero, signed or not. -/
def hasNeedlessZero (s : List Char) : Bool :=
  match (if isSigned s then s.drop 1 else s) with
  | '0' :: d :: rest => (d :: rest).all isDigit
  | _ => false

/-- The number in the base that the text names, if it names one. The outer result is none where a
sign follows the mark of the base. -/
def based? (bound : Nat) (s : List Char) : Option (Option Nat) :=
  baseMarks.foldl (fun found mark =>
    match found with
    | some none =>
      match dropPrefix? mark.1 s with
      | some rest => if isSigned rest then none else some (digits? mark.2 bound rest)
      | none => some none
    | other => other) (some none)

/-- The integer without a minus sign that the text writes, below a bound. -/
def unsigned? (bound : Nat) (s : List Char) : Option Nat :=
  let body := (dropPrefix? ['+'] s).getD s
  match based? bound body with
  | none => none
  | some (some n) => some n
  | some none =>
    if isSigned body || hasNeedlessZero s then none else digits? 10 bound body

/-- The size of the integer with a minus sign that the text writes, up to a bound. -/
def negative? (bound : Nat) (s : List Char) : Option Nat :=
  match s with
  | '-' :: body =>
    let based := baseMarks.findSome? fun mark =>
      (dropPrefix? mark.1 body).bind fun rest =>
        if isSigned rest then none else digits? mark.2 (bound + 1) rest
    match based with
    | some n => some n
    | none =>
      if hasNeedlessZero s || isSigned body then none else digits? 10 (bound + 1) body
  | _ => none

/-- What a text is as an integer: one of 64 bits, one of up to 128 bits, or none. -/
inductive IntegerText where
  | fits (z : Int)
  | large
  | none

/-- Reads an integer. -/
def integerText (s : List Char) : IntegerText :=
  match unsigned? (Nat.pow 2 64) s, negative? (Nat.pow 2 63) s with
  | some n, _ => .fits n
  | none, some n => .fits (-n)
  | none, none =>
    if (unsigned? (Nat.pow 2 128) s).isSome || (negative? (Nat.pow 2 127) s).isSome then .large else .none

/-- The float that the text writes. -/
def float? (s : String) : Option Binary64 :=
  let chars := s.toList
  let body := (dropPrefix? ['+'] chars).getD chars
  if body.length < chars.length && isSigned body then none
  else
    let word := String.ofList body
    if word == ".inf" || word == ".Inf" || word == ".INF" then some (.infinite false)
    else if s == "-.inf" || s == "-.Inf" || s == "-.INF" then some (.infinite true)
    else if s == ".nan" || s == ".NaN" || s == ".NAN" then some .nan
    else (Literal.ofText? body).bind fun l =>
      let x := Binary64.ofLiteral l
      if x.isFinite then some x else none

/-- The value of a plain scalar. An integer of more than 64 bits has none. -/
def plainValue (s : String) : Except Problem Value :=
  if s.isEmpty || isNullWord s then .ok .null
  else
    match bool? s with
    | some b => .ok (.bool b)
    | none =>
      match integerText s.toList with
      | .fits z => .ok (.int z)
      | .large => .error .wrongType
      | .none =>
        if hasNeedlessZero s.toList then .ok (.string s)
        else
          match float? s with
          | some x => .ok (.float x)
          | none => .ok (.string s)

end RoleChart.Yaml
