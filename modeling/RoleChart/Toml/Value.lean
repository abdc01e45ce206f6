import RoleChart.Decimal.Binary64

/-!
# TOML values

The values of a TOML document. A table knows how it came about, because that decides whether further
statements may add to it.
-/

namespace RoleChart.Toml

/-- How a table came about. -/
inductive Origin where
  /-- Between braces. -/
  | inline
  /-- By a header of its own. -/
  | header
  /-- On the way to the table of a header. -/
  | implied
  /-- On the way to the value of a dotted key. -/
  | dotted
deriving DecidableEq, Repr

/-- A value. An array of tables is made by headers and grows by them. -/
inductive Value where
  | string (s : String)
  | integer (z : Int)
  | float (x : Decimal.Binary64)
  | bool (b : Bool)
  | datetime (text : String)
  | array (ofHeaders : Bool) (items : List Value)
  | table (origin : Origin) (entries : List (String × Value))
deriving Inhabited

/-- The entries of a table in order. -/
abbrev Entries := List (String × Value)

namespace Entries

/-- The value of a name. -/
def lookup? (es : Entries) (name : String) : Option Value :=
  (es.find? (·.1 == name)).map Prod.snd

/-- The entries with another value for a name that is there. -/
def put (es : Entries) (name : String) (v : Value) : Entries :=
  es.map fun e => if e.1 == name then (name, v) else e

end Entries

end RoleChart.Toml
