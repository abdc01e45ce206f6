import RoleChart.Names

/-!
# Port names

A port name has at most fifteen letters, digits and dashes, begins and ends with a letter or digit,
and has no two dashes in a row. The ports of a range are numbered behind a common beginning.

## Main statements

* `length_fit_le` — a fitted name keeps its width
-/

namespace RoleChart.Port

open Text

/-- The greatest length of a port name. -/
def maxNameLength : Nat := 15

/-- Keeps letters, digits and single dashes between them, given the characters kept so far in
reverse. -/
def keepOnto : List Char → List Char → List Char
  | kept, [] => kept
  | kept, c :: rest =>
    if isAlphanumeric c then keepOnto (c :: kept) rest
    else if c = '-' ∧ kept ≠ [] ∧ kept.head? ≠ some '-' then keepOnto ('-' :: kept) rest
    else keepOnto kept rest

/-- The name without what a port name cannot hold. There must be a letter or a digit. -/
def sanitize? (name : List Char) : Option (List Char) :=
  let kept := trimEnd (· == '-') (keepOnto [] name).reverse
  if kept.isEmpty then none else some kept

/-- The name in a width: as it is, or a short beginning with a hash of the whole. -/
def fit (width : Nat) (name : List Char) : List Char :=
  if name.length ≤ width then name
  else
    let hash := shortHash (String.ofList name)
    let head := trimEnd (· == '-') (name.take (min (width - (hash.length + 1)) 4))
    if head.isEmpty then hash.take width else head ++ '-' :: hash

/-- The beginning of the names of a number of ports, short enough for the last of them. -/
def rangePrefix? (name : List Char) (count : Nat) : Option (List Char) :=
  (sanitize? name).map (fit (maxNameLength - ((decimal (count - 1)).length + 1)))

/-- A named port. -/
structure Named where
  name : List Char
  port : Nat
deriving DecidableEq, Repr

/-- The names of the ports of a range: the name itself for a single port, numbers behind a common
beginning for several. -/
def named? (name : List Char) (first last : Nat) : Option (List Named) :=
  if first = last then (sanitize? name).map fun base => [⟨fit maxNameLength base, first⟩]
  else
    let count := last - first + 1
    (rangePrefix? name count).map fun base =>
      (List.range count).map fun i => ⟨base ++ '-' :: decimal i, first + i⟩

theorem length_fit_le (width : Nat) (name : List Char) : (fit width name).length ≤ width := by
  unfold fit
  split
  · assumption
  simp only [length_shortHash]
  split
  · simp only [List.length_take, length_shortHash]
    omega
  · next hne =>
    have kept := length_trimEnd_le (· == '-') (name.take (min (width - (8 + 1)) 4))
    have some : trimEnd (· == '-') (name.take (min (width - (8 + 1)) 4)) ≠ [] := by
      simpa using hne
    have := List.length_pos_iff.2 some
    simp only [List.length_append, List.length_cons, List.length_take, length_shortHash] at *
    omega

end RoleChart.Port
