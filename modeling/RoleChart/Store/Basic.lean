import RoleChart.Path
import RoleChart.Store.Error

/-!
# Stores of files

The files and directories that a build reads and writes. A place is the list of names that leads to
it from the root, and a store says what stands at each place.

## Main statements

* `find?_put` — a place holds what was put there last, and no other place changes
-/

namespace RoleChart

/-- What stands at a place. -/
inductive Entry where
  | text (content : String)
  /-- A file whose bytes are no text. -/
  | binary
  | directory
deriving DecidableEq, Repr

/-- The names from the root. -/
abbrev Place := List String

/-- Files and directories. Relative paths start at the working directory. -/
structure Store where
  entries : List (Place × Entry) := []
  working : Place := []
deriving Inhabited

namespace Store

/-- What stands at a place. The root is always a directory. -/
def find? (s : Store) (place : Place) : Option Entry :=
  if place = [] then some .directory else s.entries.lookup place

/-- Puts an entry at a place. -/
def put (s : Store) (place : Place) (entry : Entry) : Store :=
  { s with entries := (place, entry) :: s.entries.filter (·.1 != place) }

/-- Empties a place. -/
def erase (s : Store) (place : Place) : Store :=
  { s with entries := s.entries.filter (·.1 != place) }

theorem lookup_filter_ne {entries : List (Place × Entry)} {place other : Place}
    (h : other ≠ place) :
    (entries.filter (·.1 != place)).lookup other = entries.lookup other := by
  induction entries with
  | nil => rfl
  | cons e es ih =>
    obtain ⟨p, e⟩ := e
    by_cases hp : p = place
    · subst hp
      simp [List.lookup_cons, beq_eq_false_iff_ne.2 h, ih]
    · simp [List.lookup_cons, hp, ih]

theorem find?_put (s : Store) (place other : Place) (entry : Entry) (h : place ≠ []) :
    (s.put place entry).find? other = if other = place then some entry else s.find? other := by
  by_cases ho : other = place
  · subst ho
    simp [find?, put, h]
  · simp [find?, put, List.lookup_cons, ho, beq_eq_false_iff_ne.2 ho, lookup_filter_ne]

/-! ## Listings -/

/-- The files below a place with the paths that lead to them from there, in the order of the
paths. -/
def filesBelow (s : Store) (place : Place) : List (String × Entry) :=
  let files := s.entries.filterMap fun (p, entry) =>
    if entry = .directory || !place.isPrefixOf p then none
    else some ("/".intercalate (p.drop place.length), entry)
  files.mergeSort fun a b => decide (a.1 ≤ b.1)

/-- The files of the working directory. -/
def files (s : Store) : List (String × Entry) := s.filesBelow s.working

/-- The files of the working directory that another store does not have like this. -/
def filesNewerThan (s old : Store) : List (String × Entry) :=
  s.files.filter fun file => !old.files.contains file

end Store

end RoleChart
