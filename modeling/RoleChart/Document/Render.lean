import RoleChart.Document.Layout

/-!
# Documents as text

A document opens with a line of three dashes. Once its lines are put together, a template expression
that was laid out over several lines between single quotes is joined back onto one.

## Main statements

* `joinTemplates_of_not_occurs` — a text without a quoted template expression is left alone
-/

namespace RoleChart.Document

open RoleChart.Text

/-- The spaces and tabs that a line break takes with it. -/
def isGap (c : Char) : Bool := c == ' ' || c == '\t'

/-- Puts further lines behind a line, each after a single space and without the gaps at the break. -/
def joinOnto (line : List Char) : List (List Char) → List Char
  | [] => line
  | next :: rest => trimEnd isGap line ++ ' ' :: joinOnto (next.dropWhile isGap) rest

/-- Joins the lines of a text. -/
def joinLines (s : List Char) : List Char :=
  match splitOn '\n' s with
  | [] => []
  | first :: rest => joinOnto first rest

/-- What opens a quoted template expression. -/
def templateOpening : List Char := ['\'', '\x7b', '\x7b']

/-- What closes a quoted template expression. -/
def templateClosing : List Char := ['\x7d', '\x7d', '\'']

/-- Joins every quoted template expression onto one line. An expression ends at the first closing
mark. -/
def joinTemplates (s : List Char) : List Char :=
  match _opened : cutAt? templateOpening s with
  | none => s
  | some (before, after) =>
    match _closed : cutAt? templateClosing after with
    | none => s
    | some (inside, rest) =>
      before ++ templateOpening ++ joinLines inside ++ templateClosing ++ joinTemplates rest
termination_by s.length
decreasing_by
  have e := congrArg List.length (eq_append_of_cutAt? _opened)
  have e' := congrArg List.length (eq_append_of_cutAt? _closed)
  simp only [templateOpening, templateClosing, List.length_append, List.length_cons,
    List.length_nil] at e e'
  omega

theorem joinTemplates_of_not_occurs {s : List Char} (h : cutAt? templateOpening s = none) :
    joinTemplates s = s := by
  rw [joinTemplates]
  split
  · rfl
  · next h' => rw [h] at h'; simp at h'

/-- The width of a step of indentation, unless another is asked for. -/
def defaultStep : Nat := 2

/-- A document as text. A step is at least two wide. -/
def renderWith (step : Nat) (n : Node) : String :=
  String.ofList (joinTemplates ("---\n".toList ++ (rootLines (max step 2) n).flatMap Line.chars))

/-- A document as text with the default step. -/
def render (n : Node) : String := renderWith defaultStep n

/-- Several documents as one stream. -/
def renderAll (nodes : List Node) : String := String.join (nodes.map render)

end RoleChart.Document
