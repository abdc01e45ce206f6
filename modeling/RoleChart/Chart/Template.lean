import RoleChart.Names

/-!
# Template expressions

What the documents of a chart hold instead of values: actions between double braces, conditions of
blocks, and the calls that make a release fail.
-/

namespace RoleChart.Template

/-- An action of the template engine. -/
def action (body : String) : String := "\x7b\x7b " ++ body ++ " \x7d\x7d"

/-- A text between quotes. -/
def quoted (s : String) : String := "\"" ++ s ++ "\""

/-- A number in digits. -/
def digits (n : Nat) : String := String.ofList (Text.decimal n)

/-! ## Terms -/

/-- A term of a condition: values of the chart by their paths, constants, and functions on them. -/
inductive Term where
  | path (p : String)
  | number (n : Nat)
  | text (s : String)
  /-- The value as a whole number. -/
  | int (t : Term)
  | mod (a b : Term)
  | eq (a b : Term)
  | ne (a b : Term)
  | lt (a b : Term)
  | gt (a b : Term)
  | and (a b : Term)
  | not (t : Term)
  /-- Whether the list at a path has a word, in any case. -/
  | lists (word p : String)
deriving DecidableEq, Repr

namespace Term

/-- Whether the term stands without parentheses as an argument. -/
def isAtom : Term → Bool
  | path _ | number _ | text _ => true
  | _ => false

/-- Parentheses around what is no atom. -/
def group (atom : Bool) (s : String) : String := if atom then s else "(" ++ s ++ ")"

/-- The text of a term: a function stands in front of its arguments. -/
def render : Term → String
  | path p => p
  | number n => digits n
  | text s => quoted s
  | int t => "int " ++ group t.isAtom t.render
  | mod a b => "mod " ++ group a.isAtom a.render ++ " " ++ group b.isAtom b.render
  | eq a b => "eq " ++ group a.isAtom a.render ++ " " ++ group b.isAtom b.render
  | ne a b => "ne " ++ group a.isAtom a.render ++ " " ++ group b.isAtom b.render
  | lt a b => "lt " ++ group a.isAtom a.render ++ " " ++ group b.isAtom b.render
  | gt a b => "gt " ++ group a.isAtom a.render ++ " " ++ group b.isAtom b.render
  | and a b => "and " ++ group a.isAtom a.render ++ " " ++ group b.isAtom b.render
  | not t => "not " ++ group t.isAtom t.render
  | lists word p =>
    "has " ++ quoted word ++ " (splitList \",\" (join \",\" (default (list) " ++ p ++ ") | upper))"

end Term

/-! ## Blocks and choices -/

/-- The block that a condition makes. -/
def ifBlock (t : Term) : String := "if " ++ t.render

/-- The block that repeats its node for each item at a path. -/
def rangeBlock (path : String) : String := "range " ++ path

/-- The block that repeats its node as often as the number at a path says. -/
def countBlock (path : String) : String := "range $i := until (int " ++ path ++ ")"

/-- One text or another. -/
def choose (t : Term) (yes no : String) : String :=
  action (ifBlock t) ++ yes ++ action "else" ++ no ++ action "end"

/-- A number in a chart: the value at a path, or a constant under a condition. -/
inductive Quantity where
  | value (path : String)
  | constantIf (condition : Term) (n : Nat) (path : String)
deriving DecidableEq, Repr

/-- The text of a number. -/
def Quantity.render : Quantity → String
  | value path => action path
  | constantIf condition n path =>
    "\x7b\x7b " ++ ifBlock condition ++ " -\x7d\x7d " ++ digits n ++ " \x7b\x7b- else -\x7d\x7d "
      ++ action path ++ " \x7b\x7b- end \x7d\x7d"

/-- The value at a path, which must be set. -/
def requiredValue (name path : String) : String :=
  "required " ++ quoted (name ++ " configuration missing") ++ " " ++ path

end RoleChart.Template
