import RoleChart.Document.Node
import RoleChart.Manifest.Lookup

/-!
# Volumes of pods

The mounts of a container, and the volumes that its pod provides for them. Claims are provided by the
controller.
-/

namespace RoleChart.Pod

open Document

/-- The order of mounts. -/
def mountOrder : List VolumeKind := [.persistent, .shared, .host, .emptyDir]

/-- A mount. -/
def mount (v : Volume) : Node :=
  .entries [("mountPath", .string v.path), ("name", .string v.tag), ("readOnly", .flag false)]

/-- The mounts of a container. -/
def mounts (g : Group) : List Node := (mountOrder.flatMap g.volumesOf).map mount

/-- A volume of a pod. -/
def podVolume (v : Volume) : Node :=
  .entries (("name", .string v.tag) ::
    match v.kind with
    | .host => [("hostPath", .entries [("path", .string v.path), ("type", .string "Directory")])]
    | _ => [("emptyDir", .entries [])])

/-- Keeps the first volume of each tag. -/
def firstOfTag : List Volume → List Volume
  | [] => []
  | v :: rest => v :: (firstOfTag rest).filter (·.tag != v.tag)

/-- The volumes of the pods that run the given groups. -/
def podVolumes (groups : List Group) : List Node :=
  (firstOfTag ((groups.flatMap (·.run.volumes)).filter (!·.kind.isClaim))).map podVolume

end RoleChart.Pod
