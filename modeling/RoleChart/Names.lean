import RoleChart.Blake3
import RoleChart.Text.Case

/-!
# Names

Conversions between the names of a manifest and those of values, keys and objects, and a bound on
the length of a name. A name that is cut carries a hash of the whole.

## Main statements

* `utf8Size_takeBytes_le` — the kept part fits its bound
* `bounded_eq_self` — a short name is kept
-/

namespace RoleChart

open Text

/-- The bytes of a text in UTF-8. -/
def bytes (s : String) : List UInt8 := s.toUTF8.toList

/-- The name with its dashes as underscores, for a step of a value path. -/
def varName (name : String) : String :=
  String.ofList (name.toList.map fun c => if c = '-' then '_' else c)

/-- The key of a variable in a secret: small letters, and its underscores as dashes. -/
def secretKey (name : String) : String :=
  String.ofList ((lower name.toList).map fun c => if c = '_' then '-' else c)

/-- The first eight digits of the hash of a text. -/
def shortHash (s : String) : List Char := (Blake3.hex (bytes s)).take 8

theorem length_shortHash (s : String) : (shortHash s).length = 8 := by
  simp [shortHash, Blake3.length_hex]

/-- The greatest length of a name, in bytes. -/
def maxNameSize : Nat := 63

/-- The length that is kept of a longer name. -/
def keptNameSize : Nat := 54

/-- The bytes of a text in UTF-8. -/
def utf8Size : List Char → Nat
  | [] => 0
  | c :: rest => c.utf8Size + utf8Size rest

/-- As many whole characters as fit a number of bytes. -/
def takeBytes : Nat → List Char → List Char
  | _, [] => []
  | n, c :: rest => if c.utf8Size ≤ n then c :: takeBytes (n - c.utf8Size) rest else []

theorem utf8Size_takeBytes_le (n : Nat) (s : List Char) : utf8Size (takeBytes n s) ≤ n := by
  induction s generalizing n with
  | nil => simp [takeBytes, utf8Size]
  | cons c rest ih =>
    rw [takeBytes]
    split
    · have := ih (n - c.utf8Size)
      rw [utf8Size]
      omega
    · simp [utf8Size]

/-- The name if it is short enough, otherwise its beginning and its hash. There is no such name for
the empty one. -/
def bounded? (name : String) : Option String :=
  if name.isEmpty then none
  else if utf8Size name.toList ≤ maxNameSize then some name
  else some (String.ofList (takeBytes keptNameSize name.toList ++ '-' :: shortHash name))

theorem bounded_eq_self (name : String) (h : name ≠ "") (hs : utf8Size name.toList ≤ maxNameSize) :
    bounded? name = some name := by
  simp [bounded?, h, hs]

/-- The path of a sizing value of a group. -/
def sizingPath (group key : String) : String := ".Values.sizing." ++ group ++ "." ++ key

/-- The path of the replica count of a group. -/
def countPath (group : String) : String := sizingPath group "count"

end RoleChart
