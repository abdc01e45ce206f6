import RoleChart.Yaml.Cursor

/-!
# Tokens

The tokens of a YAML text: marks of documents, of the beginning and end of collections, of entries,
and the properties and texts of nodes.
-/

namespace RoleChart.Yaml

/-- How a scalar is written. -/
inductive Style where
  | plain
  | quoted
  | literal
  | folded
deriving DecidableEq, Repr

/-- A token. Block collections are marked by tokens of their own, which stand for changes of
indentation. -/
inductive Token where
  | documentStart
  | documentEnd
  | version (major minor : Nat)
  | tagHandle (handle start : String)
  | blockSequenceStart
  | blockMappingStart
  | blockEnd
  | flowSequenceStart
  | flowSequenceEnd
  | flowMappingStart
  | flowMappingEnd
  | blockEntry
  | flowEntry
  | key
  | value
  | alias (name : String)
  | anchor (name : String)
  | tag (handle suffix : String)
  | scalar (style : Style) (text : String)
deriving DecidableEq, Repr

end RoleChart.Yaml
