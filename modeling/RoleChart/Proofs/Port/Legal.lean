import Mathlib.Data.List.Nodup
import RoleChart.Proofs.Port

/-!
# Legal names of ports

The names that are made for ports are words between single dashes, cut so that the number of the last port fits
behind them. So each of them is a name that a port may have, and no two ports of a range share a name.

## Main statements

* `length_decimal_mono` — the last number of a range is the longest
* `Worded.normal`, `Worded.legal` — the form of words between single dashes, and of those that are not too long
* `begins_of_rangePrefix?` — a beginning of names leaves room for all its numbers
* `names_legal` — the ports of a range have distinct legal names and exactly the numbers of the range
-/

namespace RoleChart.Port

open Text

/-! ## Numbers behind a beginning -/

theorem length_digitsOnto_le {n k : Nat} (h : n < Nat.pow 10 (k + 1)) (tail : List Char) :
    (digitsOnto 10 n tail).length ≤ k + 1 + tail.length := by
  induction k generalizing n tail with
  | zero =>
    have hn : ¬ (2 ≤ 10 ∧ 10 ≤ n) := by simpa using h
    rw [digitsOnto, dif_neg hn, List.length_cons]
    omega
  | succ k ih =>
    rw [digitsOnto]
    split
    · have hdiv : n / 10 < Nat.pow 10 (k + 1) := by
        rw [Nat.div_lt_iff_lt_mul (by omega)]
        exact h
      have := ih hdiv (digitChar (n % 10) :: tail)
      rw [List.length_cons] at this
      omega
    · rw [List.length_cons]
      omega

/-- A greater number has no fewer digits. -/
theorem length_digitsOnto_mono {m n : Nat} (h : m ≤ n) {a b : List Char} (hab : a.length ≤ b.length) :
    (digitsOnto 10 m a).length ≤ (digitsOnto 10 n b).length := by
  fun_induction digitsOnto 10 n b generalizing m a with
  | case1 n b hn ih =>
    rw [digitsOnto]
    split
    · exact ih (Nat.div_le_div_right h) (by simpa using hab)
    · have hzero := ih (Nat.zero_le _) (a := a) (by rw [List.length_cons]; omega)
      rw [digitsOnto, dif_neg (by omega)] at hzero
      exact hzero
  | case2 n b hn =>
    rw [digitsOnto, dif_neg (by omega), List.length_cons, List.length_cons]
    omega

theorem length_decimal_mono {m n : Nat} (h : m ≤ n) : (decimal m).length ≤ (decimal n).length :=
  length_digitsOnto_mono h (Nat.le_refl _)

theorem decimal_inj {m n : Nat} (h : decimal m = decimal n) : m = n := by
  have hm := Yaml.ofDigits?_decimal m
  rw [h, Yaml.ofDigits?_decimal] at hm
  exact (Option.some.inj hm).symm

/-! ## Names of ports -/

/-- A name that a port may have. -/
structure Legal (name : List Char) : Prop where
  nonempty : name ≠ []
  length : name.length ≤ 15
  chars : ∀ c ∈ name, isAlphanumeric c = true ∨ c = '-'
  head : name.head? ≠ some '-'
  last : name.getLast? ≠ some '-'
  apart : ¬ ['-', '-'] <:+: name

theorem Worded.head?_ne {s : List Char} (h : Worded s) : s.head? ≠ some '-' := by
  obtain ⟨c, rest, rfl, hc, -⟩ := h.exists_cons
  simpa using ne_dash hc

/-- No two dashes of words are in a row. -/
theorem Worded.apart {s : List Char} (h : Worded s) : ¬ ['-', '-'] <:+: s := by
  induction h with
  | @single c hc => exact fun hinner => absurd hinner.length_le (by simp)
  | cons hc _ ih =>
    rw [List.infix_cons_iff, List.cons_prefix_cons]
    rintro (⟨hdash, -⟩ | hinner)
    · exact ne_dash hc hdash.symm
    · exact ih hinner
  | dash hc h ih =>
    have hhead := h.head?_ne
    rw [List.infix_cons_iff, List.infix_cons_iff]
    rintro (hfront | hfront | hinner)
    · exact ne_dash hc (List.cons_prefix_cons.1 hfront).1.symm
    · obtain ⟨rest, rfl⟩ := (List.cons_prefix_cons.1 hfront).2
      exact hhead rfl
    · exact ih hinner

/-- The form of a name without its bound: letters, digits and dashes, with no dash at an end and no two in a row. -/
structure Normal (name : List Char) : Prop where
  nonempty : name ≠ []
  chars : ∀ c ∈ name, isAlphanumeric c = true ∨ c = '-'
  head : name.head? ≠ some '-'
  last : name.getLast? ≠ some '-'
  apart : ¬ ['-', '-'] <:+: name

theorem Worded.normal {name : List Char} (h : Worded name) : Normal name where
  nonempty := h.ne_nil
  chars c hc := by simpa [Port.isPortChar] using h.isPortChar c hc
  head := h.head?_ne
  last := by
    rw [← List.head?_reverse]
    exact h.reverse.head?_ne
  apart := h.apart

theorem Worded.legal {name : List Char} (h : Worded name) (hlength : name.length ≤ 15) : Legal name :=
  { h.normal with length := hlength }

/-- A beginning for the names of a number of ports: it is a name itself, there is room behind it for the last
number, and it is a name with each of the numbers behind it. -/
structure Begins (base : List Char) (count : Nat) : Prop where
  legal : Legal base
  room : (decimal (count - 1)).length + 1 ≤ maxNameLength
  numbered : ∀ i < count, Legal (base ++ '-' :: decimal i)

/-- The last number of 32 bits leaves room for a beginning. -/
theorem length_last_le {count : Nat} (h : count ≤ Nat.pow 2 32) : (decimal (count - 1)).length ≤ 10 := by
  have hlt : count - 1 < Nat.pow 10 (9 + 1) := by
    have : Nat.pow 2 32 ≤ Nat.pow 10 (9 + 1) := by decide
    have : 0 < Nat.pow 10 (9 + 1) := by decide
    omega
  exact length_digitsOnto_le hlt []

/-- A beginning is made of words, and there is room behind it. -/
theorem worded_of_rangePrefix? {name base : List Char} {count : Nat} (h : rangePrefix? name count = some base)
    (hcount : count ≤ Nat.pow 2 32) :
    Worded base ∧ base.length + ((decimal (count - 1)).length + 1) ≤ maxNameLength := by
  obtain ⟨kept, hkept, rfl⟩ := Option.map_eq_some_iff.1 h
  have hmax : maxNameLength = 15 := rfl
  have hlast := length_last_le hcount
  have hwidth := length_fit_le (maxNameLength - ((decimal (count - 1)).length + 1)) kept
  exact ⟨(worded_of_sanitize? hkept).fit (by omega), by omega⟩

theorem begins_of_rangePrefix? {name base : List Char} {count : Nat} (h : rangePrefix? name count = some base)
    (hcount : count ≤ Nat.pow 2 32) : Begins base count := by
  obtain ⟨hworded, hroom⟩ := worded_of_rangePrefix? h hcount
  have hmax : maxNameLength = 15 := rfl
  refine ⟨hworded.legal (by omega), by omega, fun i hi => ?_⟩
  have hmono : (decimal i).length ≤ (decimal (count - 1)).length := length_decimal_mono (by omega)
  refine (hworded.append (worded_decimal i)).legal ?_
  rw [List.length_append, List.length_cons]
  omega

/-- The ports of a range: all its numbers in order, with names that are legal and all different. -/
structure Names (ports : List Named) (r : Range) : Prop where
  length : ports.length = r.last - r.first + 1
  numbers : ports.map (·.port) = List.range' r.first (r.last - r.first + 1)
  distinct : (ports.map (·.name)).Nodup
  legal : ∀ port ∈ ports, Legal port.name

theorem names_of_named? {name : List Char} {r : Range} {ports : List Named}
    (h : named? name r.first r.last = some ports) (hlast : r.last ≤ 65535) : Names ports r := by
  have hports : ports.map (·.port) = List.range' r.first (r.last - r.first + 1) := by
    rw [ports_named? h, Range.ports, Range.count, List.range'_eq_map_range]
  have hlength : ports.length = r.last - r.first + 1 := by
    simpa using congrArg List.length hports
  unfold named? at h
  split at h
  · obtain ⟨kept, hkept, rfl⟩ := Option.map_eq_some_iff.1 h
    refine ⟨hlength, hports, by simp, List.forall_mem_singleton.2 ?_⟩
    exact ((worded_of_sanitize? hkept).fit (by decide)).legal (length_fit_le _ _)
  · obtain ⟨base, hbase, rfl⟩ := Option.map_eq_some_iff.1 h
    have hbegins := begins_of_rangePrefix? hbase (Nat.le_trans (by omega : _ ≤ 65536) (by decide))
    refine ⟨hlength, hports, ?_, List.forall_mem_map.2 fun i hi => ?_⟩
    · rw [List.map_map]
      refine (List.nodup_map_iff_inj_on List.nodup_range).2 fun i _ j _ hij => ?_
      exact decimal_inj (List.cons.inj (List.append_cancel_left hij)).2
    · exact hbegins.numbered i (List.mem_range.1 hi)

theorem rangePrefix?_eq_none_iff {name : List Char} {count : Nat} :
    rangePrefix? name count = none ↔ sanitize? name = none := by
  rw [rangePrefix?, Option.map_eq_none_iff]

theorem named?_eq_none_iff {name : List Char} {first last : Nat} :
    named? name first last = none ↔ sanitize? name = none := by
  unfold named?
  split
  · rw [Option.map_eq_none_iff]
  · rw [Option.map_eq_none_iff, rangePrefix?_eq_none_iff]

/-- Every name with a letter or a digit gives legal names to the ports of every range, and a beginning for as many
names as 32 bits can count. A name without any is refused. -/
theorem names_legal (name : String) :
    ((∃ c ∈ name.toList, isAlphanumeric c = true) →
      (∀ r : Range, r.first ≤ r.last → r.last ≤ 65535 →
        ∃ ports, Definition.named name (named? name.toList r.first r.last) = .ok ports ∧ Names ports r) ∧
      ∀ count < Nat.pow 2 32,
        ∃ base, Definition.named name (rangePrefix? name.toList count) = .ok base ∧ Begins base count) ∧
    ((∀ c ∈ name.toList, isAlphanumeric c = false) →
      (∀ first last, Definition.named name (named? name.toList first last) = .error (.portName name)) ∧
      ∀ count, Definition.named name (rangePrefix? name.toList count) = .error (.portName name)) := by
  constructor
  · rintro ⟨c, hmem, hc⟩
    have hkept : sanitize? name.toList ≠ none := by
      intro hnone
      rw [sanitize?_eq_none_iff.1 hnone c hmem] at hc
      cases hc
    constructor
    · intro r _ hlast
      obtain ⟨ports, hports⟩ := Option.ne_none_iff_exists'.1 (mt named?_eq_none_iff.1 hkept)
      rw [hports]
      exact ⟨ports, rfl, names_of_named? hports hlast⟩
    · intro count hcount
      obtain ⟨base, hbase⟩ := Option.ne_none_iff_exists'.1 (mt rangePrefix?_eq_none_iff.1 hkept)
      rw [hbase]
      exact ⟨base, rfl, begins_of_rangePrefix? hbase (Nat.le_of_lt hcount)⟩
  · intro hnone
    have hkept := sanitize?_eq_none_iff.2 hnone
    constructor
    · intro first last
      rw [named?_eq_none_iff.2 hkept]
      rfl
    · intro count
      rw [rangePrefix?_eq_none_iff.2 hkept]
      rfl

/-- A range of five ports, as many ports as there can be, and a name of dashes. -/
theorem names_legal_route :
    (∃ ports, Definition.named "tcp-route" (named? "tcp-route".toList 20000 20004) = .ok ports ∧
      Names ports ⟨20000, 20004⟩) ∧
    (∃ base, Definition.named "tcp-route" (rangePrefix? "tcp-route".toList 4294967295) = .ok base ∧
      Begins base 4294967295) ∧
    Definition.named "--" (named? "--".toList 20000 20004) = .error (.portName "--") := by
  obtain ⟨hports, hbase⟩ := (names_legal "tcp-route").1 ⟨'t', by decide, by decide⟩
  have hnone := ((names_legal "--").2 (by decide)).1 20000 20004
  exact ⟨hports ⟨20000, 20004⟩ (by decide) (by decide), hbase 4294967295 (by decide), hnone⟩

end RoleChart.Port
