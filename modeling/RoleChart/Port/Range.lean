import RoleChart.Text.Blank
import RoleChart.Text.Shown

/-!
# Port ranges

A range of ports is written as one number or as two around a dash.

## Main statements

* `Range.ofEnds_eq_ok_iff` — two ends make a range just when they are ports and in order
* `Range.ofText_bounds` — an accepted range lies between 1 and 65535, and its ends are in order
* `Range.length_ports` — a range has as many ports as it counts
-/

namespace RoleChart.Port

open Text

/-- The greatest port. -/
def maxPort : Nat := 65535

/-- A range of ports, both ends included. -/
structure Range where
  first : Nat
  last : Nat
deriving DecidableEq, Repr

namespace Range

/-- The number of ports. -/
def count (r : Range) : Nat := r.last - r.first + 1

/-- The ports in order. -/
def ports (r : Range) : List Nat := (List.range r.count).map (r.first + ·)

/-- Why a text is no range. -/
inductive Reason where
  | notANumber (part : String)
  | zero
  | tooLarge
  | reversed
deriving DecidableEq, Repr

/-- The text of the reason. -/
def Reason.message : Reason → String
  | .notANumber part => shown part ++ " is not a port number"
  | .zero => "ports must be greater than 0"
  | .tooLarge => "ports must be at most 65535"
  | .reversed => "the first port is larger than the last"

/-- Digits behind an optional plus sign, up to the bound of 32 bits. -/
def number? (s : List Char) : Option Nat :=
  let digits := match s with
    | '+' :: rest => rest
    | s => s
  if digits.isEmpty || !digits.all isDigit then none
  else (ofDigits? 10 digits).filter (· < Nat.pow 2 32)

/-- The number that a part writes between blanks. -/
def part (s : List Char) : Except Reason Nat :=
  match number? (trimBlanks s) with
  | some n => .ok n
  | none => .error (.notANumber (String.ofList (trimBlanks s)))

/-- The range between two ends, which must be ports and in order. -/
def ofEnds (first last : Nat) : Except Reason Range :=
  if first = 0 then .error .zero
  else if maxPort < last then .error .tooLarge
  else if last < first then .error .reversed
  else .ok ⟨first, last⟩

/-- Reads a range. The first dash separates the ends. -/
def ofText (s : String) : Except Reason Range :=
  match splitOnce '-' s.toList with
  | some (low, high) => do
    let first ← part low
    let last ← part high
    ofEnds first last
  | none => do
    let port ← part s.toList
    ofEnds port port

theorem length_ports (r : Range) : r.ports.length = r.count := by simp [ports]

theorem ofEnds_eq_ok_iff (first last : Nat) (r : Range) :
    ofEnds first last = .ok r ↔
      0 < first ∧ first ≤ last ∧ last ≤ maxPort ∧ r = ⟨first, last⟩ := by
  unfold ofEnds
  split
  · simp; omega
  split
  · simp; omega
  split
  · simp; omega
  · simp only [Except.ok.injEq, eq_comm (b := r)]
    constructor
    · exact fun h => ⟨by omega, by omega, by omega, h⟩
    · exact fun h => h.2.2.2

theorem ofText_bounds {s : String} {r : Range} (h : ofText s = .ok r) :
    0 < r.first ∧ r.first ≤ r.last ∧ r.last ≤ maxPort := by
  have bounds {first last : Nat} (h : ofEnds first last = .ok r) :
      0 < r.first ∧ r.first ≤ r.last ∧ r.last ≤ maxPort := by
    obtain ⟨low, order, high, rfl⟩ := (ofEnds_eq_ok_iff first last r).1 h
    exact ⟨low, order, high⟩
  unfold ofText at h
  split at h
  · next low high _ =>
    cases hl : part low with
    | error e => simp [hl, bind, Except.bind] at h
    | ok first =>
      cases hh : part high with
      | error e => simp [hl, hh, bind, Except.bind] at h
      | ok last =>
        rw [hl, hh] at h
        exact bounds h
  · cases hp : part s.toList with
    | error e => simp [hp, bind, Except.bind] at h
    | ok port =>
      rw [hp] at h
      exact bounds h

end Range

end RoleChart.Port
