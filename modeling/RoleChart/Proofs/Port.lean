import RoleChart.Port.Definition
import RoleChart.Proofs.Building
import RoleChart.Proofs.Port.Worded
import RoleChart.Url.Basic

/-!
# Checked ports

A declared port is checked before it is used. Its definition keeps the declaration apart from the case of the
protocol. The ports of the container have the numbers of the declared range. The port in a URL is checked as
well.

## Main statements

* `Definition.ofExposed_ok` — what a definition keeps of its declaration
* `ports_named?` — which numbers ports have
* `port_le_of_ofText` — the port of an address is one
-/

namespace RoleChart.Port

open Text Built

variable {name : List Char}

/-! ## Numbers -/

/-- The ports of a container have the numbers of the range. -/
theorem ports_named? {r : Range} {named : List Named} (h : named? name r.first r.last = some named) :
    named.map (·.port) = r.ports := by
  unfold named? at h
  split at h
  · next hsingle =>
    obtain ⟨base, -, rfl⟩ := Option.map_eq_some_iff.1 h
    simp [Range.ports, Range.count, hsingle]
  · obtain ⟨base, -, rfl⟩ := Option.map_eq_some_iff.1 h
    simp [Range.ports, Range.count]

/-- All ports of a range that is read are ports. -/
theorem Range.le_maxPort_of_mem_ports {s : String} {r : Range} (h : Range.ofText s = .ok r) :
    ∀ port ∈ r.ports, port ≤ maxPort := by
  obtain ⟨-, horder, hlast⟩ := Range.ofText_bounds h
  refine List.forall_mem_map.2 fun i hi => ?_
  rw [List.mem_range, Range.count] at hi
  omega

/-! ## Definitions -/

namespace Definition

variable {p : ExposedPort} {d : Definition}

theorem range_eq_ok_iff {port field value : String} {r : Range} :
    range port field value = .ok r ↔ Range.ofText value = .ok r := by
  unfold range
  cases Range.ofText value with
  | ok r' => simp
  | error reason => simp

/-- What a definition keeps of its declaration. Without a range outside, it is the range inside. -/
structure Keeps (p : ExposedPort) (d : Definition) : Prop where
  name : d.name = p.name
  protocol : d.protocol = String.ofList (upper p.protocol.toList)
  inside : Range.ofText p.internal.toText = .ok d.internal
  outside : Range.ofText (p.external.getD p.internal).toText = .ok d.external
  isPublic : d.isPublic = p.isPublic
  countIsConfigurable : d.countIsConfigurable = p.countIsConfigurable

theorem ofExposed_ok (h : ofExposed p = .ok d) : Keeps p d := by
  unfold ofExposed at h
  obtain ⟨inside, hinside, h⟩ := bind_eq_ok_iff.1 h
  rw [range_eq_ok_iff] at hinside
  cases he : p.external with
  | none =>
    simp only [he] at h
    obtain rfl := pure_eq_ok_iff.1 h
    exact ⟨rfl, rfl, hinside, by simpa [he] using hinside, rfl, rfl⟩
  | some spec =>
    simp only [he] at h
    obtain ⟨outside, houtside, h⟩ := bind_eq_ok_iff.1 h
    rw [range_eq_ok_iff] at houtside
    split at h
    · exact nomatch h
    · obtain rfl := pure_eq_ok_iff.1 h
      exact ⟨rfl, rfl, hinside, by simpa [he] using houtside, rfl, rfl⟩

theorem named?_of_containerPorts {ports : List Named} (h : d.containerPorts = .ok ports) :
    named? d.name.toList d.internal.first d.internal.last = some ports := by
  unfold containerPorts named at h
  split at h
  · next found hfound =>
    obtain rfl := Except.ok.inj h
    exact hfound
  · cases h

end Definition

end RoleChart.Port

/-! ## Ports of addresses -/

namespace RoleChart.Url

open Built

theorem port?_le {s rest : List Char} {port : Option Nat} (h : port? s = .ok (port, rest)) :
    ∀ n ∈ port, n ≤ 65535 := by
  unfold port? at h
  simp only at h
  split at h
  · split at h
    · cases h
    · next hbad =>
      obtain ⟨rfl, -⟩ := Prod.mk.inj (Except.ok.inj h)
      intro n hn
      split at hn
      · cases hn
      · obtain rfl := Option.some.inj hn
        simp only [Bool.or_eq_true, decide_eq_true_eq, not_or, Nat.not_lt] at hbad
        exact hbad.1
  · cases h

theorem port_le_of_server {scheme s : List Char} {defaultPort : Nat} {secure : Bool} {a : WebAddress}
    (h : server scheme defaultPort s = .ok (.web secure a)) : ∀ n ∈ a.port, n ≤ 65535 := by
  have hfiltered {port : Option Nat} (hport : ∀ n ∈ port, n ≤ 65535) :
      ∀ n ∈ port.filter (· != defaultPort), n ≤ 65535 := fun n hn =>
    hport n (Option.filter_eq_some_iff.1 hn).1
  have hnone : ∀ n ∈ (none : Option Nat), n ≤ 65535 := by simp
  unfold server at h
  obtain ⟨⟨login, behind⟩, -, h⟩ := bind_eq_ok_iff.1 h
  simp only at h
  split at h
  · cases h
  obtain ⟨host, -, h⟩ := bind_eq_ok_iff.1 h
  -- a port stands behind a colon, and there may be none
  split at h
  · obtain ⟨⟨port, rest⟩, hport, h⟩ := bind_eq_ok_iff.1 h
    have hlocator := pure_eq_ok_iff.1 h
    split at hlocator
    · cases hlocator
      exact hfiltered (port?_le hport)
    · cases hlocator
      exact hfiltered (port?_le hport)
    · cases hlocator
  · obtain ⟨⟨port, rest⟩, hport, h⟩ := bind_eq_ok_iff.1 h
    obtain ⟨rfl, -⟩ := Prod.mk.inj (pure_eq_ok_iff.1 hport)
    have hlocator := pure_eq_ok_iff.1 h
    split at hlocator
    · cases hlocator
      exact hfiltered hnone
    · cases hlocator
      exact hfiltered hnone
    · cases hlocator

/-- The port of an address is one. -/
theorem port_le_of_ofText {url : String} {secure : Bool} {a : WebAddress}
    (h : Locator.ofText url = .ok (.web secure a)) : ∀ n ∈ a.port, n ≤ 65535 := by
  unfold Locator.ofText at h
  simp only at h
  split at h
  · cases h
  split at h
  · exact port_le_of_server h
  · obtain ⟨_, -, h⟩ := map_eq_ok_iff.1 h
    cases h
  · obtain ⟨_, -, h⟩ := map_eq_ok_iff.1 h
    cases h

end RoleChart.Url
