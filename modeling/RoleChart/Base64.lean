/-!
# Base64

The standard alphabet with padding, in both directions.

## Main statements

* `decode_encode` — reading undoes writing
-/

namespace RoleChart.Base64

/-- The digit of a value below 64. -/
def digit (n : Nat) : Char :=
  "ABCDEFGHIJKLMNOPQRSTUVWXYZabcdefghijklmnopqrstuvwxyz0123456789+/".toList.getD n '='

/-- The value of a digit. -/
def value? (c : Char) : Option Nat :=
  "ABCDEFGHIJKLMNOPQRSTUVWXYZabcdefghijklmnopqrstuvwxyz0123456789+/".toList.idxOf? c

theorem value?_digit {n : Nat} (h : n < 64) : value? (digit n) = some n := by
  have all : ∀ k : Fin 64, value? (digit k.val) = some k.val := by decide +kernel
  exact all ⟨n, h⟩

theorem digit_ne_pad {n : Nat} (h : n < 64) : digit n ≠ '=' := by
  have all : ∀ k : Fin 64, digit k.val ≠ '=' := by decide +kernel
  exact all ⟨n, h⟩

/-- Three bytes become four digits. A last group of one or two bytes is filled up with padding. -/
def encode : List UInt8 → List Char
  | [] => []
  | [a] => [digit (a.toNat / 4), digit (a.toNat % 4 * 16), '=', '=']
  | [a, b] =>
    [digit (a.toNat / 4), digit (a.toNat % 4 * 16 + b.toNat / 16), digit (b.toNat % 16 * 4), '=']
  | a :: b :: c :: rest =>
    digit (a.toNat / 4) :: digit (a.toNat % 4 * 16 + b.toNat / 16)
      :: digit (b.toNat % 16 * 4 + c.toNat / 64) :: digit (c.toNat % 64) :: encode rest

/-- Four digits become three bytes. Padding stands only at the end, behind bits that are zero. -/
def decode : List Char → Option (List UInt8)
  | [] => some []
  | [w, x, '=', '='] => do
    let w ← value? w
    let x ← value? x
    if x % 16 = 0 then some [UInt8.ofNat (w * 4 + x / 16)] else none
  | [w, x, y, '='] => do
    let w ← value? w
    let x ← value? x
    let y ← value? y
    if y % 4 = 0 then some [UInt8.ofNat (w * 4 + x / 16), UInt8.ofNat (x % 16 * 16 + y / 4)] else none
  | w :: x :: y :: z :: rest => do
    let w ← value? w
    let x ← value? x
    let y ← value? y
    let z ← value? z
    let bytes ← decode rest
    some (UInt8.ofNat (w * 4 + x / 16) :: UInt8.ofNat (x % 16 * 16 + y / 4)
      :: UInt8.ofNat (y % 4 * 64 + z) :: bytes)
  | _ => none

theorem decode_encode (bytes : List UInt8) : decode (encode bytes) = some bytes := by
  have small (a : UInt8) : a.toNat < 256 := a.toNat_lt
  have byte (a : UInt8) {n : Nat} (h : n = a.toNat) : UInt8.ofNat n = a := by
    subst h; exact UInt8.ofNat_toNat
  -- three bytes are four digits; one or two bytes at the end are filled up
  fun_induction encode bytes with
  | case1 => rfl
  | case2 a =>
    have := small a
    simp only [decode, value?_digit (show a.toNat / 4 < 64 by omega),
      value?_digit (show a.toNat % 4 * 16 < 64 by omega), Option.bind_eq_bind, Option.bind_some]
    rw [if_pos (by omega), byte a (by omega)]
  | case3 a b =>
    have := small a
    have := small b
    have hp := digit_ne_pad (show b.toNat % 16 * 4 < 64 by omega)
    rw [decode]
    · simp only [value?_digit (show a.toNat / 4 < 64 by omega),
        value?_digit (show a.toNat % 4 * 16 + b.toNat / 16 < 64 by omega),
        value?_digit (show b.toNat % 16 * 4 < 64 by omega), Option.bind_eq_bind, Option.bind_some]
      rw [if_pos (by omega), byte a (by omega), byte b (by omega)]
    · exact hp
  | case4 a b c rest ih =>
    have := small a
    have := small b
    have := small c
    have hp := digit_ne_pad (show c.toNat % 64 < 64 by omega)
    rw [decode]
    · simp only [value?_digit (show a.toNat / 4 < 64 by omega),
        value?_digit (show a.toNat % 4 * 16 + b.toNat / 16 < 64 by omega),
        value?_digit (show b.toNat % 16 * 4 + c.toNat / 64 < 64 by omega),
        value?_digit (show c.toNat % 64 < 64 by omega), ih, Option.bind_eq_bind, Option.bind_some]
      rw [byte a (by omega), byte b (by omega), byte c (by omega)]
    · intro _ h; exact absurd h hp
    · intro h; exact absurd h hp

end RoleChart.Base64
