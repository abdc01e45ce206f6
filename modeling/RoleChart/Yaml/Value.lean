import RoleChart.Decimal.Shortest

/-!
# YAML values

The values that a YAML document stands for. Integers have 64 bits, and a mapping keeps the order of
its entries.
-/

namespace RoleChart.Yaml

open Decimal

/-- A value of a YAML document. A tagged value keeps its tag with the exclamation mark. -/
inductive Value where
  | null
  | bool (b : Bool)
  | int (z : Int)
  | float (x : Binary64)
  | string (s : String)
  | sequence (items : List Value)
  | mapping (entries : List (Value × Value))
  | tagged (tag : String) (value : Value)
deriving Inhabited

namespace Value

/-- Floats have a point, or an exponent outside of 10⁻⁵ to 10¹⁶. -/
def floatFormat : Format := ⟨".nan", ".inf", -5, 16, ""⟩

/-- The spelling of an integer. -/
def intText (z : Int) : String := String.ofList (Text.decimalInt z)

/-- The spelling of a float. -/
def floatText (x : Binary64) : String := floatFormat.text x

mutual

/-- Whether two values are equal. The order of the entries of a mapping does not matter. -/
def same (a b : Value) : Bool :=
  match a, b with
  | null, null => true
  | bool a, bool b => a == b
  | int a, int b => a == b
  | float a, float b => a.same b
  | string a, string b => a == b
  | sequence a, sequence b => sameItems a b
  | mapping a, mapping b => a.length == b.length && sameEntries a b
  | tagged t a, tagged u b => t == u && same a b
  | _, _ => false
termination_by structural a

/-- Whether two sequences have equal items. -/
def sameItems (a b : List Value) : Bool :=
  match a, b with
  | [], [] => true
  | a :: as, b :: bs => same a b && sameItems as bs
  | _, _ => false
termination_by structural a

/-- Whether every entry is found among others. -/
def sameEntries (a b : List (Value × Value)) : Bool :=
  match a with
  | [] => true
  | entry :: rest => b.any (fun other => sameEntry entry other) && sameEntries rest b
termination_by structural a

/-- Whether two entries have equal names and equal values. -/
def sameEntry (a b : Value × Value) : Bool :=
  match a with
  | (k, v) => same k b.1 && same v b.2
termination_by structural a

end

end Value

end RoleChart.Yaml
