import RoleChart.Text.CodePoints

/-!
# Maps of code points

A map from code points to texts as runs, written as text. Mappings of letters come in runs, where
the images step along with the code points.
-/

namespace RoleChart.Text

/-- A first and a last code point, the step between the members of the run, and the images of the
first. The images of the others follow in step; a run of several images has one member. -/
structure MapRun where
  first : Nat
  last : Nat
  step : Nat
  images : List Nat

namespace MapRun

/-- Reads a run: `41-5A>61`, `100-12E/2>101` or `DF>53,53`. -/
def ofText (s : List Char) : MapRun :=
  let (source, target) := (splitOnce '>' s).getD (s, [])
  let (range, step) := (splitOnce '/' source).getD (source, ['1'])
  let (first, last) := (splitOnce '-' range).getD (range, range)
  ⟨CodePoints.number first, CodePoints.number last, CodePoints.number step,
    (splitOn ',' target).map CodePoints.number⟩

/-- The images of a code point of the run. -/
def image? (run : MapRun) (n : Nat) : Option (List Char) :=
  if run.first ≤ n ∧ n ≤ run.last ∧ (n - run.first) % run.step = 0 then
    some (run.images.map fun m => Char.ofNat (m + (n - run.first)))
  else none

end MapRun

/-- Reads the runs of a table. -/
def mapRuns (s : String) : List MapRun := (CodePoints.words s).map MapRun.ofText

end RoleChart.Text
