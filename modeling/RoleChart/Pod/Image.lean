import RoleChart.Fault
import RoleChart.Manifest.Basic
import RoleChart.Metadata
import RoleChart.Yaml.Writer

/-!
# Images

The reference to the image of a group. Its tag is a hash of all that goes into the image.

## Main statements

* `length_tagOf` — a tag has forty digits
-/

namespace RoleChart.Pod

open Template (action)

/-- The length of a tag. -/
def tagLength : Nat := 40

/-- The texts that go into an image: the group, each job with its release and fingerprint, the
opinions, and what the settings add. -/
def imageParts (g : Group) (s : Settings) (opinions : String) : List String :=
  g.name :: (g.jobs.flatMap fun job => [job.name, job.release, job.fingerprint.getD ""])
    ++ [opinions, s.tagExtra, s.version]

/-- The bytes that are hashed: the parts with zero bytes between them. -/
def imageBytes (g : Group) (s : Settings) (opinions : String) : List UInt8 :=
  match imageParts g s opinions with
  | [] => []
  | part :: parts => bytes part ++ parts.flatMap fun p => 0 :: bytes p

/-- The tag of hashed bytes. -/
def tagOf (hashed : List UInt8) : String := String.ofList ((Blake3.hex hashed).take tagLength)

theorem length_tagOf (hashed : List UInt8) : (tagOf hashed).toList.length = tagLength := by
  simp [tagOf, Blake3.length_hex, tagLength]

/-- The tag of the image of a group. -/
def imageTag (g : Group) (s : Settings) : Built String :=
  match s.opinions.text with
  | .ok opinions => .ok (tagOf (imageBytes g s opinions))
  | .error reason => .error (.opinions reason.message)

/-- The reference to the image of a group. A chart takes the registry and the organization from its
values. -/
def imageReference (g : Group) (s : Settings) : Built String := do
  let (registry, organization) :=
    if s.chart then
      (action ".Values.kube.registry.hostname", action ".Values.kube.organization")
    else (s.registry, s.organization)
  return registry ++ "/" ++ organization ++ "/" ++ s.repository ++ "-" ++ g.name ++ ":"
    ++ (← imageTag g s)

end RoleChart.Pod
