import RoleChart.Text.Basic

/-!
# Decimal literals

The spellings of a decimal number: a sign, digits around a point, an exponent, and the words for
infinity and for no number.

## Main statements

* `ofText?_digits` — plain digits write the number they spell
-/

namespace RoleChart.Decimal

open RoleChart.Text

/-- A number as it is spelled: a coefficient times a power of ten. -/
inductive Literal where
  | nan
  | infinite (negative : Bool)
  | number (negative : Bool) (coefficient : Nat) (exponent : Int)
deriving DecidableEq, Repr

namespace Literal

/-- The value of decimal digits. Other characters count as zero. -/
def value (digits : List Char) : Nat := digits.foldl (fun n c => n * 10 + (hexValue? c).getD 0) 0

/-- Cuts off one sign. The flag says whether it was a minus. -/
def sign : List Char → Bool × List Char
  | '-' :: rest => (true, rest)
  | '+' :: rest => (false, rest)
  | rest => (false, rest)

/-- Digits behind an optional sign, at least one. -/
def integer? (s : List Char) : Option Int :=
  let (negative, digits) := sign s
  if digits.isEmpty || !digits.all isDigit then none
  else some (if negative then -(value digits : Int) else value digits)

/-- The rest of a literal behind its digits: nothing, or an exponent. -/
def exponent? : List Char → Option Int
  | [] => some 0
  | c :: rest => if c = 'e' || c = 'E' then integer? rest else none

/-- Digits with an optional point among or beside them, at least one digit, and an optional
exponent. -/
def unsigned? (negative : Bool) (s : List Char) : Option Literal :=
  let whole := s.takeWhile isDigit
  let rest := s.dropWhile isDigit
  let (fraction, rest) := match rest with
    | '.' :: r => (r.takeWhile isDigit, r.dropWhile isDigit)
    | r => ([], r)
  if whole.isEmpty && fraction.isEmpty then none
  else (exponent? rest).map fun e => number negative (value (whole ++ fraction)) (e - fraction.length)

/-- Reads a literal. The words are read in any case, with or without a sign. -/
def ofText? (s : List Char) : Option Literal :=
  let (negative, body) := sign s
  let word := String.ofList (body.map lowerAscii)
  if word = "nan" then some nan
  else if word = "inf" || word = "infinity" then some (infinite negative)
  else unsigned? negative body

theorem ofText?_digits (digits : List Char) (h : digits ≠ []) (hd : ∀ c ∈ digits, isDigit c = true) :
    unsigned? false digits = some (number false (value digits) 0) := by
  have both : ∀ l : List Char, (∀ c ∈ l, isDigit c = true) →
      l.takeWhile isDigit = l ∧ l.dropWhile isDigit = [] := by
    intro l
    induction l with
    | nil => simp
    | cons c l ih =>
      intro h
      have hc : isDigit c = true := h c (by simp)
      simp [hc, ih fun d hd => h d (by simp [hd])]
  obtain ⟨ht, hr⟩ := both digits hd
  simp [unsigned?, ht, hr, h, exponent?]

end Literal

end RoleChart.Decimal
