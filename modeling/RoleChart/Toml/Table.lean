import RoleChart.Toml.Value

/-!
# Tables in the making

A document is made by statements: headers that open a table, headers that add a table to an array, and
assignments. A table is defined once: only what a dotted key made can be extended by dotted keys, and
only what was on the way to a header can still get one.
-/

namespace RoleChart.Toml

/-- Whether a table was made only on the way to something else. -/
def Origin.isImplicit : Origin → Bool
  | .implied | .dotted => true
  | .inline | .header => false

/-- A change of the entries of a table. -/
abbrev Change := Origin → Entries → Option Entries

/-- A change of the table at a path. Tables that are missing are made; of an array of tables, the last
one is meant. -/
def within (dotted : Bool) (change : Change) : List String → Change
  | [], origin, es => change origin es
  | name :: rest, _, es =>
    match es.lookup? name with
    | none =>
      let origin : Origin := if dotted then .dotted else .implied
      (within dotted change rest origin []).map fun inner => es ++ [(name, .table origin inner)]
    | some (.table origin inner) =>
      if origin = .inline ∨ (dotted ∧ !origin.isImplicit) then none
      else (within dotted change rest origin inner).map fun inner => es.put name (.table origin inner)
    | some (.array true items) =>
      match items.reverse with
      | .table origin inner :: before =>
        (within dotted change rest origin inner).map fun inner =>
          es.put name (.array true (before.reverse ++ [.table origin inner]))
      | _ => none
    | some _ => none

/-- Opens the table of a header. -/
def openTable (name : String) : Change := fun _ es =>
  match es.lookup? name with
  | none => some (es ++ [(name, .table .header [])])
  | some (.table .implied inner) => some (es.put name (.table .header inner))
  | some _ => none

/-- Adds a table to the array of a header. -/
def addTable (name : String) : Change := fun _ es =>
  match es.lookup? name with
  | none => some (es ++ [(name, .array true [.table .header []])])
  | some (.array true items) => some (es.put name (.array true (items ++ [.table .header []])))
  | some _ => none

/-- Assigns a value to a name. A dotted key goes through tables that dotted keys made, any other key
into a table that they did not make. -/
def assignName (name : String) (dotted : Bool) (v : Value) : Change := fun origin es =>
  if (origin == .dotted) != dotted || (es.lookup? name).isSome then none
  else some (es ++ [(name, v)])

/-- Assigns a value to a key. -/
def assign (key : List String) (v : Value) : Change :=
  match key.getLast? with
  | none => fun _ _ => none
  | some name => within true (assignName name (1 < key.length) v) key.dropLast

/-- A line of a document. -/
inductive Statement where
  | table (path : List String)
  | arrayTable (path : List String)
  | assignment (key : List String) (v : Value)

/-- The table that assignments go to, and all entries of the document. -/
structure Progress where
  place : List String := []
  entries : Entries := []

/-- A change at the end of a path of a header. -/
def atHeader (change : String → Change) (path : List String) (es : Entries) : Option Entries := do
  within false (change (← path.getLast?)) path.dropLast .header es

/-- Goes on by a line. -/
def Progress.step (p : Progress) : Statement → Option Progress
  | .table path => (atHeader openTable path p.entries).map fun es => ⟨path, es⟩
  | .arrayTable path => (atHeader addTable path p.entries).map fun es => ⟨path, es⟩
  | .assignment key v =>
    (within false (assign key v) p.place .header p.entries).map fun es => { p with entries := es }

/-- The entries that the lines of a document make. -/
def Entries.ofStatements? (lines : List Statement) : Option Entries :=
  (lines.foldlM Progress.step {}).map (·.entries)

end RoleChart.Toml
