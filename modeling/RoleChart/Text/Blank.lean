import RoleChart.Text.Basic

/-!
# Blank characters

The characters with the property White_Space, and trimming them off a text.
-/

namespace RoleChart.Text

/-- The property White_Space. -/
def isBlank (c : Char) : Bool :=
  let n := c.toNat
  (0x09 ≤ n && n ≤ 0x0D) || n == 0x20 || n == 0x85 || n == 0xA0 || n == 0x1680
    || (0x2000 ≤ n && n ≤ 0x200A) || n == 0x2028 || n == 0x2029 || n == 0x202F || n == 0x205F
    || n == 0x3000

/-- Whether a text begins or ends with a blank. -/
def hasOuterBlank (s : List Char) : Bool := s.head?.any isBlank || s.getLast?.any isBlank

/-- A text without the blanks at its ends. -/
def trimBlanks (s : List Char) : List Char := trim isBlank s

/-- A text without the blanks at its end. -/
def trimEndBlanks (s : String) : String := String.ofList (trimEnd isBlank s.toList)

end RoleChart.Text
