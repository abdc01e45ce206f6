import RoleChart.Decimal.Literal

/-!
# Binary floating-point numbers

Numbers of 53 binary digits with the exponents of the 64-bit format, as exact values. Every
operation computes the exact result as a quotient and rounds it once, to the nearest number and to
the even one of two.

## Main statements

* `roundQuotient_near` — a rounded quotient is within half a unit of the exact one
-/

namespace RoleChart.Decimal

/-- A number of the 64-bit format. A finite one is the mantissa times a power of two; the mantissa
has 53 digits unless the exponent is the least. -/
inductive Binary64 where
  | nan
  | infinite (negative : Bool)
  | finite (negative : Bool) (mantissa : Nat) (exponent : Int)
deriving DecidableEq, Repr

namespace Binary64

/-- The least exponent. -/
def minExponent : Int := -1074

/-- The greatest exponent. -/
def maxExponent : Int := 971

/-- Zero with a sign. -/
def zero (negative : Bool) : Binary64 := finite negative 0 minExponent

/-- The nearest whole number to a quotient, the even one of two. -/
def roundQuotient (num den : Nat) : Nat :=
  let q := num / den
  let twice := 2 * (num % den)
  if den < twice || (twice == den && q % 2 == 1) then q + 1 else q

theorem roundQuotient_near (num den : Nat) (h : 0 < den) :
    2 * num ≤ (2 * roundQuotient num den + 1) * den
      ∧ 2 * roundQuotient num den * den ≤ 2 * num + den := by
  have hdm := Nat.div_add_mod num den
  have hlt := Nat.mod_lt num h
  unfold roundQuotient
  simp only [Bool.or_eq_true, Bool.and_eq_true, decide_eq_true_eq, beq_iff_eq]
  generalize hq : num / den = q at *
  generalize num % den = r at *
  split
  · next hc =>
    have : (2 * (q + 1) + 1) * den = 2 * (den * q) + 3 * den := by grind
    have : 2 * (q + 1) * den = 2 * (den * q) + 2 * den := by grind
    constructor <;> omega
  · next hc =>
    have : (2 * q + 1) * den = 2 * (den * q) + den := by grind
    have : 2 * q * den = 2 * (den * q) := by grind
    constructor <;> omega

/-- A quotient divided by a power of two, as a quotient. -/
def scale (num den : Nat) (exponent : Int) : Nat × Nat :=
  if 0 ≤ exponent then (num, den * Nat.pow 2 exponent.toNat) else (num * Nat.pow 2 (-exponent).toNat, den)

/-- The nearest number to a quotient. -/
def ofQuotient (negative : Bool) (num den : Nat) : Binary64 :=
  if num = 0 then zero negative
  else
    let guess : Int := (num.log2 : Int) - den.log2 - 52
    let (n, d) := scale num den guess
    let e := max (if n / d < Nat.pow 2 52 then guess - 1 else guess) minExponent
    let (n, d) := scale num den e
    let m := roundQuotient n d
    let (m, e) := if m = Nat.pow 2 53 then (Nat.pow 2 52, e + 1) else (m, e)
    if maxExponent < e then infinite negative else finite negative m e

/-- The nearest number to a literal. Far outside the range of the format the power of ten is not
computed. -/
def ofLiteral : Literal → Binary64
  | .nan => nan
  | .infinite negative => infinite negative
  | .number negative c e =>
    let size : Int := (Text.decimal c).length + e
    if c = 0 || size < -330 then zero negative
    else if 330 < size then infinite negative
    else if 0 ≤ e then ofQuotient negative (c * Nat.pow 10 e.toNat) 1
    else ofQuotient negative c (Nat.pow 10 (-e).toNat)

/-- Whether the number is finite. -/
def isFinite : Binary64 → Bool
  | finite .. => true
  | _ => false

/-- Numerical equality, with the two zeros equal and no number equal to itself. -/
def same : Binary64 → Binary64 → Bool
  | finite s m e, finite s' m' e' => m == m' && e == e' && (s == s' || m == 0)
  | infinite s, infinite s' => s == s'
  | nan, nan => true
  | _, _ => false

/-- The nearest number to a multiple. -/
def mulNat (x : Binary64) (k : Nat) : Binary64 :=
  match x with
  | finite s m e =>
    let (n, d) := scale (m * k) 1 (-e)
    ofQuotient s n d
  | other => other

/-- The nearest whole number, a half going up, between zero and a bound. What is no number counts as
zero. -/
def roundNat (x : Binary64) (bound : Nat) : Nat :=
  match x with
  | nan => 0
  | infinite negative => if negative then 0 else bound
  | finite negative m e =>
    if negative then 0
    else
      let (n, d) := scale m 1 (-e)
      min bound ((2 * n + d) / (2 * d))

end Binary64

end RoleChart.Decimal
