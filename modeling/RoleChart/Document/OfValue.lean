import RoleChart.Document.Mapping
import RoleChart.Yaml.Writer

/-!
# Documents from values

The document tree of a YAML value. It holds data, so no text of it is taken for a template
expression; tags are dropped.
-/

namespace RoleChart.Document

open Yaml

/-- The name that a key becomes: a text itself, or the text of any other value. -/
def keyName : Value → String
  | .string s => s
  | v =>
    match v.text with
    | .ok text => Text.trimEndBlanks text
    | .error _ => ""

mutual

/-- The document of a value. -/
def Node.ofValue : Value → Node
  | .null => Node.null
  | .bool b => Node.flag b
  | .int z => Node.integer z
  | .float x => Node.verbatim (Value.floatText x)
  | .string s => Node.literal s
  | .sequence values => Node.items (itemsOfValues values)
  | .mapping found => Node.entries (entriesOfValues [] found)
  | .tagged _ v => Node.ofValue v

/-- The items of a sequence. -/
def itemsOfValues : List Value → List Node
  | [] => []
  | v :: vs => Node.ofValue v :: itemsOfValues vs

/-- The entries of a mapping behind others. A name that two keys share keeps its place and takes the
later value. -/
def entriesOfValues (done : Mapping) : List (Value × Value) → Mapping
  | [] => done
  | (k, v) :: rest => entriesOfValues (Mapping.replace done (keyName k) (Node.ofValue v)).2 rest

end

end RoleChart.Document
