import RoleChart.Text.Basic
import RoleChart.Url.Error

/-!
# Addresses

The written forms of addresses of four and of sixteen bytes, and their usual text.
-/

namespace RoleChart.Url

open Text

/-! ## Four bytes -/

/-- A part of an address, in decimal, octal behind a zero, or hexadecimal behind `0x`. Parts of more
than 32 bits are numbers without a value. -/
def part4? (s : List Char) : Option (Option Nat) :=
  let read (base : Nat) (digits : List Char) : Option (Option Nat) :=
    if digits.isEmpty then some (some 0)
    else (ofDigits? base digits).map fun n => if n < Nat.pow 2 32 then some n else none
  match s with
  | [] => none
  | '0' :: 'x' :: rest | '0' :: 'X' :: rest => read 16 rest
  | '0' :: d :: rest => read 8 (d :: rest)
  | s => read 10 s

/-- Whether the last part of a name is a number, so that the name must be an address. -/
def endsInNumber (s : List Char) : Bool :=
  let last :=
    match (splitOn '.' s).reverse with
    | [] :: before :: _ => before
    | last :: _ => last
    | [] => []
  (!last.isEmpty && last.all isDigit) || (part4? last).isSome

/-- The value of an address of four bytes. The last part fills the bytes that are left. -/
def address4? (s : List Char) : Option Nat := do
  let parts := splitOn '.' s
  let parts := if parts.getLast? == some [] then parts.dropLast else parts
  if 4 < parts.length then none
  let numbers ← parts.mapM fun part => (part4? part).join
  let last ← numbers.getLast?
  let front := numbers.dropLast
  if Nat.pow 2 (32 - 8 * front.length) ≤ last || front.any (255 < ·) then none
  return front.zipIdx.foldl (fun sum (n, i) => sum + n * Nat.pow 2 (24 - 8 * i)) last

/-- The text of an address of four bytes. -/
def text4 (n : Nat) : List Char :=
  join ['.'] ([24, 16, 8, 0].map fun shift => decimal (n / Nat.pow 2 shift % 256))

/-! ## Sixteen bytes -/

/-- The decimal parts of an address of four bytes, without needless zeros. -/
def decimalParts? (s : List Char) : Option (List Nat) := do
  let parts ← (splitOn '.' s).mapM fun part =>
    match part with
    | [] => none
    | '0' :: _ :: _ => none
    | digits => (ofDigits? 10 digits).filter (· < 256)
  if parts.length = 4 then some parts else none

/-- Reads the pieces of an address: those before the gap, and those behind it if there is one. -/
def pieces? (before : List Nat) (behind : Option (List Nat)) (s : List Char) :
    Nat → Option (List Nat × Option (List Nat))
  | 0 => none
  | fuel + 1 =>
    let add (n : Nat) : List Nat × Option (List Nat) :=
      match behind with
      | none => (before ++ [n], none)
      | some l => (before, some (l ++ [n]))
    let count := before.length + behind.elim 0 (·.length + 1)
    match s with
    | [] => some (before, behind)
    | ':' :: rest =>
      if count = 8 ∨ behind.isSome then none else pieces? before (some []) rest fuel
    | s =>
      if count = 8 then none
      else
        let digits := (s.take 4).takeWhile isHexDigit
        let value := (ofDigits? 16 digits).getD 0
        match s.drop digits.length with
        | [] => some (add value)
        | ':' :: rest =>
          if rest.isEmpty then none
          else
            let (before, behind) := add value
            pieces? before behind rest fuel
        | '.' :: _ =>
          if digits.isEmpty || 6 < count then none
          else
            match decimalParts? s with
            | some [a, b, c, d] =>
              match behind with
              | none => some (before ++ [a * 256 + b, c * 256 + d], none)
              | some l => some (before, some (l ++ [a * 256 + b, c * 256 + d]))
            | _ => none
        | _ => none

/-- The eight pieces of an address of sixteen bytes. -/
def address16? (s : List Char) : Option (List Nat) := do
  if s.length < 2 then none
  let (before, behind) ←
    match s with
    | ':' :: ':' :: rest => pieces? [] (some []) rest (s.length + 1)
    | ':' :: _ => none
    | s => pieces? [] none s (s.length + 1)
  match behind with
  | none => if before.length = 8 then some before else none
  | some l =>
    if before.length + l.length < 8 then
      some (before ++ List.replicate (8 - before.length - l.length) 0 ++ l)
    else none

/-- The first of the longest runs of zeros, by its position and its length. -/
def longestZeros (pieces : List Nat) : Nat × Nat :=
  (List.range pieces.length).foldl (fun best i =>
    let run := ((pieces.drop i).takeWhile (· == 0)).length
    if best.2 < run then (i, run) else best) (0, 0)

/-- The text of an address of sixteen bytes: the longest run of two or more zeros is left out. -/
def text16 (pieces : List Nat) : List Char :=
  let hex (ns : List Nat) : List Char := join [':'] (ns.map fun n => digitsOnto 16 n [])
  let (start, run) := longestZeros pieces
  if run < 2 then hex pieces
  else hex (pieces.take start) ++ [':', ':'] ++ hex (pieces.drop (start + run))

end RoleChart.Url
