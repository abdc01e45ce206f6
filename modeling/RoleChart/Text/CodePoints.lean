import RoleChart.Text.Basic

/-!
# Sets of code points

A set of code points as ranges in ascending order, written as text: each range by its ends in
hexadecimal, with blanks between the ranges. Membership is a binary search.
-/

namespace RoleChart.Text

/-- Ranges of code points in ascending order, both ends included. -/
structure CodePoints where
  ranges : Array (Nat × Nat)

namespace CodePoints

/-- The number that hexadecimal digits write; other characters count as zero. -/
def number (s : List Char) : Nat := s.foldl (fun n c => n * 16 + (hexValue? c).getD 0) 0

/-- The words of a table, which stand between spaces and line feeds. -/
def words (s : String) : List (List Char) :=
  (splitOn ' ' (s.toList.map fun c => if c = '\n' then ' ' else c)).filter (!·.isEmpty)

/-- Reads ranges: `41-5A` or a single `AA`. -/
def ofText (s : String) : CodePoints :=
  ⟨((words s).map fun range =>
    match splitOnce '-' range with
    | some (lo, hi) => (number lo, number hi)
    | none => (number range, number range)).toArray⟩

/-- Looks for a range that holds the number between two positions. -/
def search (ranges : Array (Nat × Nat)) (n lo hi : Nat) : Bool :=
  if _h : lo < hi then
    let mid := (lo + hi) / 2
    match ranges[mid]? with
    | none => false
    | some (a, b) =>
      if n < a then search ranges n lo mid
      else if b < n then search ranges n (mid + 1) hi
      else true
  else false
termination_by hi - lo
decreasing_by all_goals omega

/-- Whether the set holds the character. -/
def contains (set : CodePoints) (c : Char) : Bool := search set.ranges c.toNat 0 set.ranges.size

end CodePoints

end RoleChart.Text
