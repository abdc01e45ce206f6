import RoleChart.Document.Node
import RoleChart.Proofs.Template.Reading

/-!
# What template expressions mean

The values of conditions and numbers, as the template engine gives them for the values of a release:
`int`, `mod` and the comparisons on whole numbers, `and` and `not` on the truth of any value. What the
engine refuses has no meaning.

## Main statements

* `holds?_ifBlock` — a block of a condition holds when the condition is true
* `numberOf?_render` — the text of a number has the value of what was written
-/

namespace RoleChart.Template

open RoleChart.Document

/-! ## Values -/

/-- A value of a release. -/
inductive Value where
  | missing
  | flag (b : Bool)
  | number (n : Int)
  | text (s : String)
deriving DecidableEq, Repr

/-- The values of a release by their paths. -/
abbrev Values := List (String × Value)

namespace Value

/-- Whether the value counts as true: it is there and not empty. -/
def truth : Value → Bool
  | missing => false
  | flag b => b
  | number n => n != 0
  | text s => !s.isEmpty

/-- The whole number that is compared. -/
def number? : Value → Option Int
  | number n => some n
  | _ => none

/-- The value as a whole number. Nothing is zero. -/
def toInt? : Value → Option Int
  | missing => some 0
  | flag b => some b.toNat
  | number n => some n
  | text _ => none

/-- What a comparison says of two whole numbers. -/
def compare (holds : Int → Int → Bool) (a b : Value) : Option Value := do
  some (flag (holds (← a.number?) (← b.number?)))

/-- Whether two values of one kind are equal. -/
def same : Value → Value → Option Bool
  | flag a, flag b => some (a == b)
  | number a, number b => some (a == b)
  | text a, text b => some (a == b)
  | _, _ => none

/-- The remainder, with the sign of the first number. There is none by zero. -/
def remainder (a b : Value) : Option Value := do
  let divisor ← b.number?
  if divisor = 0 then none else some (number ((← a.number?).tmod divisor))

@[simp] theorem truth_flag (b : Bool) : (flag b).truth = b := rfl

@[simp] theorem number?_number (n : Int) : (number n).number? = some n := rfl

@[simp] theorem toInt?_number (n : Int) : (number n).toInt? = some n := rfl

@[simp] theorem compare_number (holds : Int → Int → Bool) (a b : Int) :
    (number a).compare holds (number b) = some (flag (holds a b)) := rfl

@[simp] theorem same_number (a b : Int) : (number a).same (number b) = some (a == b) := rfl

/-- The remainder has the sign of the dividend; there is none for the divisor zero. -/
theorem remainder_number {b : Int} (h : b ≠ 0) (a : Int) :
    (number a).remainder (number b) = some (number (a.tmod b)) := if_neg h

end Value

/-! ## Terms -/

namespace Term

/-- The value of a term. A conjunction looks at both of its sides, and its value is the first one that is
not true. -/
def eval? (values : Values) : Term → Option Value
  | path p => values.lookup p
  | number n => some (.number n)
  | text s => some (.text s)
  | int t => do some (.number (← (← t.eval? values).toInt?))
  | mod a b => do (← a.eval? values).remainder (← b.eval? values)
  | eq a b => do some (.flag (← (← a.eval? values).same (← b.eval? values)))
  | ne a b => do some (.flag !(← (← a.eval? values).same (← b.eval? values)))
  | lt a b => do (← a.eval? values).compare (fun x y => decide (x < y)) (← b.eval? values)
  | gt a b => do (← a.eval? values).compare (fun x y => decide (y < x)) (← b.eval? values)
  | and a b => do
    let first ← a.eval? values
    let second ← b.eval? values
    some (if first.truth then second else first)
  | not t => do some (.flag !(← t.eval? values).truth)
  | lists _ _ => none

section Eval

variable (values : Values) (a b t : Term)

@[simp] theorem eval?_path (p : String) : (path p).eval? values = values.lookup p := rfl

@[simp] theorem eval?_number (n : Nat) : (number n).eval? values = some (.number n) := rfl

@[simp] theorem eval?_int : (int t).eval? values
    = (t.eval? values).bind fun v => v.toInt?.bind fun n => some (.number n) := rfl

@[simp] theorem eval?_mod : (mod a b).eval? values
    = (a.eval? values).bind fun x => (b.eval? values).bind fun y => x.remainder y := rfl

@[simp] theorem eval?_eq : (eq a b).eval? values
    = (a.eval? values).bind fun x => (b.eval? values).bind fun y => (x.same y).bind fun e =>
        some (.flag e) := rfl

@[simp] theorem eval?_ne : (ne a b).eval? values
    = (a.eval? values).bind fun x => (b.eval? values).bind fun y => (x.same y).bind fun e =>
        some (.flag !e) := rfl

@[simp] theorem eval?_lt : (lt a b).eval? values = (a.eval? values).bind fun x =>
    (b.eval? values).bind fun y => x.compare (fun m n => decide (m < n)) y := rfl

@[simp] theorem eval?_gt : (gt a b).eval? values = (a.eval? values).bind fun x =>
    (b.eval? values).bind fun y => x.compare (fun m n => decide (n < m)) y := rfl

/-- The conjunction gives one of its arguments, not a truth value. -/
@[simp] theorem eval?_and : (and a b).eval? values = (a.eval? values).bind fun x =>
    (b.eval? values).bind fun y => some (if x.truth then y else x) := rfl

end Eval

end Term

/-! ## Blocks -/

/-- Whether a block holds: its text is a condition, and that is true or not. -/
def holds? (values : Values) (block : String) : Option Bool := do
  let condition ← Text.dropPrefix? "if ".toList block.toList
  let term ← Term.ofText? (values.map Prod.fst) (String.ofList condition)
  some (← term.eval? values).truth

/-- Whether what stands in some blocks is there. The blocks inside of one that does not hold are not
looked at. -/
def stands? (values : Values) : List String → Option Bool
  | [] => some true
  | block :: blocks => do if ← holds? values block then stands? values blocks else some false

/-- Whether the outermost block of a node does not hold, so that nothing of the node is there. -/
def Absent (values : Values) (node : Node) : Prop :=
  ∃ block, node.block? = some block ∧ holds? values block = some false

/-- The value of a number: the whole number at its path, or its constant if the condition is true. -/
def Quantity.eval? (values : Values) : Quantity → Option Int
  | value path => do (← values.lookup path).number?
  | constantIf condition n path => do
    if (← condition.eval? values).truth then some n else (← values.lookup path).number?

/-- The number that a text writes. -/
def numberOf? (values : Values) (s : String) : Option Int := do
  (← Quantity.ofText? (values.map Prod.fst) s).eval? values

variable {values : Values} {t : Term}

/-- The block of a readable condition is read as the condition, so it stands just when the condition is true. -/
theorem holds?_ifBlock (hl : Legible (values.map Prod.fst)) (hr : t.Readable (values.map Prod.fst)) :
    holds? values (ifBlock t) = (t.eval? values).map Value.truth := by
  have hcut : Text.dropPrefix? "if ".toList (ifBlock t).toList = some t.render.toList := by
    simp [ifBlock, Text.dropPrefix?]
  simp only [holds?, hcut, Option.bind_eq_bind, Option.bind_some, String.ofList_toList,
    Term.ofText?_render hl hr]
  cases t.eval? values <;> rfl

/-- One block stands if its condition holds. -/
theorem stands?_singleton (block : String) : stands? values [block] = holds? values block := by
  simp only [stands?]
  cases holds? values block with
  | none => rfl
  | some b => cases b <;> rfl

/-- A number that is written out is read as what it was written from. -/
theorem numberOf?_render (hl : Legible (values.map Prod.fst)) {q : Quantity}
    (hr : q.Readable (values.map Prod.fst)) : numberOf? values q.render = q.eval? values := by
  rw [numberOf?, Quantity.ofText?_render hl hr]
  rfl

end RoleChart.Template
