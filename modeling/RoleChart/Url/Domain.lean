import RoleChart.Url.Domain.Direction
import RoleChart.Url.Domain.Joining
import RoleChart.Url.Domain.Mapping
import RoleChart.Url.Punycode

/-!
# Domain names

The ASCII form of a host name. Its characters are replaced by the usual ones and composed; then each
label with other characters is written in punycode behind a mark. A label that carries the mark
already must decode to what could have been written.

## Main statements

* `mem_domain_allowed` — no character that a host cannot hold is in the ASCII form
* `normalForm?_of_ascii` — of ASCII only the letters change
-/

namespace RoleChart.Url

open Text

namespace Domain

/-- The mark of a label in punycode. -/
def punycodeMark : List Char := ['x', 'n', '-', '-']

/-- Whether a host name cannot hold the character. -/
def isForbidden (c : Char) : Bool :=
  c.toNat ≤ 0x20 || c.toNat == 0x7F
    || ['%', '#', '/', ':', '<', '>', '?', '@', '[', '\\', ']', '^', '|'].contains c

/-- The characters of a name in their usual form, composed. -/
def normalForm? (s : List Char) : Option (List Char) :=
  (s.mapM mapped?).map fun parts => composed parts.flatten

/-- Whether a label could be the normal form of something. -/
def isNormal (label : List Char) : Bool :=
  label.all (fun c => mapped? c == some [c]) && composed label == label

/-- Whether the characters of a label may stand together. -/
def isLabel (label : List Char) : Bool :=
  label.all Punycode.isBasic || (!(label.head?.elim false marks.contains) && joinersAllowed label)

/-- The characters that a label in normal form stands for. -/
def labelText? (label : List Char) : Option (List Char) :=
  match dropPrefix? punycodeMark label with
  | none => if isLabel label then some label else none
  | some counts =>
    match Punycode.decode? counts with
    | none => none
    | some decoded =>
      if label.all Punycode.isBasic && !endsWith '-' counts && !decoded.all Punycode.isBasic
          && isNormal decoded && isLabel decoded then some decoded
      else none

/-- The ASCII form of the characters of a label. -/
def asciiLabel (label : List Char) : List Char :=
  if label.all Punycode.isBasic then label else punycodeMark ++ Punycode.encode label

end Domain

open Domain in
/-- The ASCII form of a name in bytes, which must be UTF-8. -/
def asciiDomain? (name : List UInt8) : Option (List Char) := do
  let name ← String.fromUTF8? ⟨name.toArray⟩
  let labels ← (splitOn '.' (← normalForm? name.toList)).mapM labelText?
  if labels.any hasRightLetters && !labels.all isOneWay then none
  let domain := join ['.'] (labels.map asciiLabel)
  if domain.any isForbidden then none else some domain

namespace Domain

theorem mem_domain_allowed {name : List UInt8} {domain : List Char}
    (h : asciiDomain? name = some domain) : ∀ c ∈ domain, isForbidden c = false := by
  simp only [asciiDomain?, Option.bind_eq_bind, Option.bind_eq_some_iff] at h
  obtain ⟨_, _, _, _, labels, _, h⟩ := h
  split at h
  · simp at h
  · split at h
    · simp at h
    · next hn =>
      simp only [Option.some.injEq] at h
      subst h
      simpa [List.any_eq_true] using hn

theorem normalForm?_of_ascii (s : List Char) (h : ∀ c ∈ s, c.toNat < 0x80) :
    normalForm? s = some (s.map lowerAscii) := by
  have hm : s.mapM mapped? = some (s.map fun c => [lowerAscii c]) := by
    induction s with
    | nil => rfl
    | cons c rest ih =>
      rw [List.mapM_cons, mapped?_of_ascii c (h c (by simp)), ih fun d hd => h d (by simp [hd])]
      rfl
  have hflat : (s.map fun c => [lowerAscii c]).flatten = s.map lowerAscii := by
    clear hm
    induction s with
    | nil => rfl
    | cons c rest ih =>
      rw [List.map_cons, List.flatten_cons, ih fun d hd => h d (by simp [hd])]
      rfl
  rw [normalForm?, hm, Option.map_some, hflat, composed_of_ascii]
  intro d hd
  obtain ⟨c, hc, rfl⟩ := List.mem_map.1 hd
  exact toNat_lowerAscii_lt (h c hc)

end Domain

end RoleChart.Url
