import RoleChart.Chart.Template
import RoleChart.Document.Node
import RoleChart.Fault
import RoleChart.Manifest.Basic
import RoleChart.Port.Name

/-!
# Port definitions

The exposed ports of a group once they are checked: the range inside the container, the range outside
of the same width, and the names of the single ports.

## Main statements

* `ofExposed_width` — the two ranges of a definition have the same width
-/

namespace RoleChart.Port

open Text

/-- An exposed port that was checked. -/
structure Definition where
  name : String
  protocol : String
  internal : Range
  external : Range
  isPublic : Bool
  countIsConfigurable : Bool
deriving DecidableEq, Repr

namespace Definition

/-- Reads one of the ranges of a port. -/
def range (port field value : String) : Built Range :=
  match Range.ofText value with
  | .ok r => .ok r
  | .error reason => .error (.portRange port field value reason)

/-- Checks an exposed port. Without a range outside, it is the range inside. -/
def ofExposed (p : ExposedPort) : Built Definition := do
  let internal ← range p.name "internal" p.internal.toText
  let external ←
    match p.external with
    | none => pure internal
    | some spec => do
      let external ← range p.name "external" spec.toText
      if external.last - external.first ≠ internal.last - internal.first then
        throw (.portMismatch p.name p.internal.toText spec.toText)
      pure external
  return {
    name := p.name
    protocol := String.ofList (upper p.protocol.toList)
    internal := internal
    external := external
    isPublic := p.isPublic
    countIsConfigurable := p.countIsConfigurable }

/-- The number of ports. -/
def count (d : Definition) : Nat := d.internal.count

/-- The path of the configured number of ports. -/
def countPath (d : Definition) (group : String) : String :=
  sizingPath group ("ports." ++ varName d.name ++ ".count")

/-- The fault of a name without letters and digits. -/
def named {α : Type} (name : String) (found : Option α) : Built α :=
  match found with
  | some x => .ok x
  | none => .error (.portName name)

/-- The beginning of the names of the single ports. -/
def namePrefix (d : Definition) : Built String :=
  (named d.name (rangePrefix? d.name.toList d.count)).map String.ofList

/-- The named ports of the container. -/
def containerPorts (d : Definition) : Built (List Named) :=
  named d.name (named? d.name.toList d.internal.first d.internal.last)

/-- The named ports of a service: the names of the container, the numbers of the range outside. -/
def servicePorts (d : Definition) : Built (List Named) := do
  return (← d.containerPorts).zipWith (fun named port => ⟨named.name, port⟩) d.external.ports

theorem ofExposed_width (p : ExposedPort) (d : Definition) (h : ofExposed p = .ok d) :
    d.external.last - d.external.first = d.internal.last - d.internal.first := by
  unfold ofExposed at h
  cases hi : range p.name "internal" p.internal.toText with
  | error e => simp [hi, bind, Except.bind] at h
  | ok internal =>
    cases he : p.external with
    | none =>
      simp only [hi, he, bind, Except.bind, pure, Except.pure, Except.ok.injEq] at h
      subst h
      rfl
    | some spec =>
      cases hx : range p.name "external" spec.toText with
      | error e => simp [hi, he, hx, bind, Except.bind] at h
      | ok external =>
        by_cases hw : external.last - external.first = internal.last - internal.first
        · simp only [hi, he, hx, hw, bind, Except.bind, pure, Except.pure, ne_eq, not_true_eq_false,
            if_false, Except.ok.injEq] at h
          subst h
          exact hw
        · simp [hi, he, hx, hw, bind, Except.bind, throw, throwThe, MonadExceptOf.throw] at h

end Definition

end RoleChart.Port

namespace RoleChart.Group

/-- The checked ports of the group, as they are declared. -/
def portDefinitions (g : Group) : Built (List Port.Definition) :=
  g.run.ports.mapM Port.Definition.ofExposed

end RoleChart.Group
