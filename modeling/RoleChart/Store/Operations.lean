import RoleChart.Store.Basic

/-!
# Reading and writing files

What happens to a store when a path is read, made or written. A path is followed name by name, and
every place on its way has to be a directory.

## Main statements

* `find?_makeDirectory` — making a directory fills one empty place
* `find?_writeEntry` — writing changes the place that the path leads to, and no other
-/

namespace RoleChart.Store

/-! ## Following paths -/

/-- The greatest number of bytes in a name. -/
def maxNameSize : Nat := 255

/-- The least number of bytes that are too many for a path. -/
def pathSizeBound : Nat := 4096

/-- The place that names lead to from a place. The last one need not hold anything. -/
def follow (s : Store) (place : Place) : List String → Except FileError Place
  | [] => .ok place
  | name :: rest =>
    match s.find? place with
    | none => .error .notFound
    | some .directory =>
      if name = ".." then s.follow place.dropLast rest
      else if maxNameSize < name.utf8ByteSize then .error .nameTooLong
      else s.follow (place ++ [name]) rest
    | some _ => .error .notDirectory

/-- The place that a path leads to. -/
def locate (s : Store) (path : String) : Except FileError Place :=
  if path.isEmpty then .error .notFound
  else if path.toList.contains '\x00' then .error .nulCharacter
  else if pathSizeBound ≤ path.utf8ByteSize then .error .nameTooLong
  else s.follow (if isAbsolute path then [] else s.working) (pathNames path)

/-- What stands at the end of a path. -/
def look (s : Store) (path : String) : Except FileError Entry := do
  match s.find? (← s.locate path) with
  | none => throw .notFound
  | some .directory => return .directory
  | some entry => if isDirectoryPath path then throw .notDirectory else return entry

/-- Whether something stands at the end of a path. -/
def holds (s : Store) (path : String) : Bool := (s.look path).isOk

/-- Whether a path leads to a directory. -/
def isDirectory (s : Store) (path : String) : Bool := s.look path matches .ok .directory

/-! ## Operations -/

/-- The text of a file. -/
def read (s : Store) (path : String) : Except FileError String := do
  match ← s.look path with
  | .text content => return content
  | .binary => throw .notText
  | .directory => throw .isDirectory

/-- Makes one directory. -/
def makeDirectory (s : Store) (path : String) : Except FileError Store := do
  let place ← s.locate path
  if (s.find? place).isSome then .error .alreadyExists else .ok (s.put place .directory)

/-- Makes the first of the given paths a directory, and before it those of the others that are
missing. What was made before a fault stays. -/
def makeMissing (s : Store) : List String → Store × Except FileError Unit
  | [] => (s, .ok ())
  | path :: shorter =>
    match s.makeDirectory path with
    | .ok made => (made, .ok ())
    | .error .notFound =>
      match s.makeMissing shorter with
      | (made, .error e) => (made, .error e)
      | (made, .ok ()) =>
        match made.makeDirectory path with
        | .ok made => (made, .ok ())
        | .error e => (made, if made.isDirectory path then .ok () else .error e)
    | .error e => (s, if s.isDirectory path then .ok () else .error e)

/-- Makes a path a directory with everything on its way. -/
def makeDirectories (s : Store) (path : String) : Store × Except FileError Unit :=
  s.makeMissing (ancestors path)

/-- Writes an entry to a file, over what it held. -/
def writeEntry (s : Store) (path : String) (entry : Entry) : Except FileError Store := do
  let place ← s.locate path
  if s.find? place = some .directory ∨ isDirectoryPath path then .error .isDirectory
  else .ok (s.put place entry)

/-- Writes a text to a file, over what it held. -/
def write (s : Store) (path content : String) : Except FileError Store :=
  s.writeEntry path (.text content)

/-- Removes a file. -/
def removeFile (s : Store) (path : String) : Except FileError Store := do
  let place ← s.locate path
  if (← s.look path) = .directory then .error .isDirectory else .ok (s.erase place)

/-! ## What changes -/

/-- The root is a directory. -/
theorem ne_root {s : Store} {place : Place} (h : s.find? place ≠ some .directory) : place ≠ [] := by
  rintro rfl
  exact h (by simp [find?])

/-- A directory is made at one place, which was empty. -/
theorem find?_makeDirectory {s t : Store} {path : String} (h : s.makeDirectory path = .ok t) :
    ∃ place, s.locate path = .ok place ∧ s.find? place = none ∧ t.working = s.working ∧
      ∀ other, t.find? other = if other = place then some .directory else s.find? other := by
  rw [makeDirectory] at h
  cases hl : s.locate path with
  | error e => rw [hl] at h; contradiction
  | ok place =>
    rw [hl] at h
    change (if (s.find? place).isSome then _ else _) = _ at h
    split at h
    · contradiction
    · next hf =>
      have hnone : s.find? place = none := by simpa using hf
      have hroot : place ≠ [] := ne_root (s := s) (by simp [hnone])
      cases h
      exact ⟨place, rfl, hnone, rfl, fun other => find?_put s place other .directory hroot⟩

/-- An entry is written to the place that the path leads to, which was no directory. -/
theorem find?_writeEntry {s t : Store} {path : String} {entry : Entry}
    (h : s.writeEntry path entry = .ok t) :
    ∃ place, s.locate path = .ok place ∧ s.find? place ≠ some .directory ∧ t.working = s.working ∧
      ∀ other, t.find? other = if other = place then some entry else s.find? other := by
  rw [writeEntry] at h
  cases hl : s.locate path with
  | error e => rw [hl] at h; contradiction
  | ok place =>
    rw [hl] at h
    change (if s.find? place = some .directory ∨ isDirectoryPath path then _ else _) = _ at h
    split at h
    · contradiction
    · next hd =>
      rw [not_or] at hd
      cases h
      exact ⟨place, rfl, hd.1, rfl, fun other => find?_put s place other entry (ne_root hd.1)⟩

end RoleChart.Store
