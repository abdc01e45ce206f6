import RoleChart.Decimal.Binary64

/-!
# Shortest decimals

The shortest decimal that reads back as a given number, and of those the nearest. For one digit,
two digits and so on, the two points of the decimal grid beside the number are tried; the first grid
with a point in the interval of reals that round to the number decides.

A format says how the digits are laid out.
-/

namespace RoleChart.Decimal

open RoleChart.Text

/-- A decimal: a coefficient times a power of ten. -/
structure Digits where
  coefficient : Nat
  exponent : Int
deriving DecidableEq, Repr

namespace Shortest

/-- How often a quotient below one can be multiplied by ten and stay below one, counted up to a
limit. -/
def leadingZeros (num den : Nat) : Nat → Nat
  | 0 => 0
  | limit + 1 => if num * 10 < den then leadingZeros (num * 10) den limit + 1 else 0

/-- The number of digits before the point; the zeros behind it count negatively. -/
def magnitude (num den : Nat) : Int :=
  if den ≤ num then (decimal (num / den)).length else -(leadingZeros num den 400)

/-- Drops the zeros at the end of a coefficient. -/
def normalize (c : Nat) (e : Int) : Nat → Digits
  | 0 => ⟨c, e⟩
  | fuel + 1 => if c % 10 = 0 then normalize (c / 10) (e + 1) fuel else ⟨c, e⟩

/-- Tries the grids of the given numbers of digits in turn. The interval and the number are
quarters of a unit of the last binary place: `lo ≤ v ≤ hi`, scaled by `num / den`. -/
def search (v lo hi : Nat) (closed : Bool) (num den : Nat) (k : Int) : List Nat → Digits
  | [] => ⟨0, 0⟩
  | n :: ns =>
    let e := k - n
    -- a grid point is `c * 10 ^ e`; in quarters it is `c * a / b`
    let (a, b) := if 0 ≤ e then (Nat.pow 10 e.toNat * den, num) else (den, num * Nat.pow 10 (-e).toNat)
    let below := v * b / a
    let hit (c : Nat) : Bool :=
      if closed then lo * b ≤ c * a && c * a ≤ hi * b else lo * b < c * a && c * a < hi * b
    let low := v * b - below * a
    let high := (below + 1) * a - v * b
    match hit below, hit (below + 1) with
    | true, true =>
      normalize (if low < high || (low == high && below % 2 == 0) then below else below + 1) e 20
    | true, false => normalize below e 20
    | false, true => normalize (below + 1) e 20
    | false, false => search v lo hi closed num den k ns

end Shortest

/-- The shortest decimal that reads back as the mantissa times the power of two. -/
def shortest (mantissa : Nat) (exponent : Int) : Digits :=
  let v := 4 * mantissa
  let lo := if mantissa = Nat.pow 2 52 && Binary64.minExponent < exponent then v - 1 else v - 2
  -- one quarter of a unit is `num / den`
  let (num, den) := Binary64.scale 1 1 (2 - exponent)
  Shortest.search v lo (v + 2) (mantissa % 2 == 0) num den (Shortest.magnitude (v * num) den)
    ((List.range 17).map (· + 1))

/-- How a number is written: the texts that are not digits, the range of magnitudes without an
exponent, and the sign of a positive exponent. -/
structure Format where
  nan : String
  infinity : String
  minMagnitude : Int
  maxMagnitude : Int
  plus : String

namespace Format

/-- The exponent of a number in front of its digits. -/
def exponent (f : Format) (e : Int) : List Char :=
  'e' :: (if e < 0 then decimalInt e else f.plus.toList ++ decimalInt e)

/-- A decimal without its sign. There is always a digit behind a point unless there is an exponent
and one digit. -/
def decimalText (f : Format) (d : Digits) : List Char :=
  let digits := decimal d.coefficient
  let magnitude := digits.length + d.exponent
  if 0 ≤ d.exponent ∧ magnitude ≤ f.maxMagnitude then
    digits ++ List.replicate d.exponent.toNat '0' ++ ['.', '0']
  else if 0 < magnitude ∧ magnitude ≤ f.maxMagnitude then
    digits.take magnitude.toNat ++ '.' :: digits.drop magnitude.toNat
  else if f.minMagnitude < magnitude ∧ magnitude ≤ 0 then
    '0' :: '.' :: List.replicate (-magnitude).toNat '0' ++ digits
  else
    match digits with
    | [] => []
    | [digit] => digit :: f.exponent (magnitude - 1)
    | digit :: rest => digit :: '.' :: rest ++ f.exponent (magnitude - 1)

/-- A number in the format. -/
def text (f : Format) (x : Binary64) : String :=
  let signed (negative : Bool) (s : List Char) : String :=
    String.ofList (if negative then '-' :: s else s)
  match x with
  | .nan => f.nan
  | .infinite negative => signed negative f.infinity.toList
  | .finite negative m e =>
    signed negative (if m = 0 then ['0', '.', '0'] else f.decimalText (shortest m e))

end Format

end RoleChart.Decimal
