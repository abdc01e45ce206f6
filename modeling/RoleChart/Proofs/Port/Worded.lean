import Mathlib.Data.List.TakeWhile
import RoleChart.Port.Name
import RoleChart.Proofs.Yaml.PlainText

/-!
# Names between single dashes

What is kept of a declared name is words of letters and digits with a single dash between each two. Cutting such
a name and putting a hash behind it keeps that form. In particular the names of ports have letters, digits and
dashes alone, whatever the declaration is called.

## Main statements

* `worded_of_sanitize?` — what is kept of a name is words between single dashes
* `sanitize?_eq_none_iff` — nothing is kept of a name without letters and digits
* `Worded.fit` — words stay words in a width
* `isPortChar_of_named?` — what is in the names of ports
-/

namespace RoleChart.Port

open Text

/-! ## Words between single dashes -/

/-- Words of letters and digits, with a single dash between each two. -/
inductive Worded : List Char → Prop where
  | single {c : Char} (hc : isAlphanumeric c = true) : Worded [c]
  | cons {c : Char} {rest : List Char} (hc : isAlphanumeric c = true) (h : Worded rest) : Worded (c :: rest)
  | dash {c : Char} {rest : List Char} (hc : isAlphanumeric c = true) (h : Worded rest) :
    Worded (c :: '-' :: rest)

/-- What can stand behind a letter or a digit: nothing, words, or a dash and words. -/
inductive Tail : List Char → Prop where
  | nil : Tail []
  | words {s : List Char} (h : Worded s) : Tail s
  | dash {s : List Char} (h : Worded s) : Tail ('-' :: s)

theorem ne_dash {c : Char} (hc : isAlphanumeric c = true) : c ≠ '-' := by
  rintro rfl
  exact absurd hc (by decide)

theorem Tail.cons {c : Char} {s : List Char} (hc : isAlphanumeric c = true) (h : Tail s) : Worded (c :: s) := by
  cases h with
  | nil => exact .single hc
  | words h => exact .cons hc h
  | dash h => exact .dash hc h

/-- Words begin with a letter or a digit, and a tail stands behind it. -/
theorem Worded.exists_cons {s : List Char} (h : Worded s) :
    ∃ c rest, s = c :: rest ∧ isAlphanumeric c = true ∧ Tail rest := by
  cases h with
  | @single c hc => exact ⟨c, [], rfl, hc, .nil⟩
  | @cons c rest hc h => exact ⟨c, rest, rfl, hc, .words h⟩
  | @dash c rest hc h => exact ⟨c, '-' :: rest, rfl, hc, .dash h⟩

theorem Worded.ne_nil {s : List Char} (h : Worded s) : s ≠ [] := by
  obtain ⟨c, rest, rfl, -⟩ := h.exists_cons
  exact List.cons_ne_nil c rest

theorem worded_of_forall {s : List Char} (hsome : s ≠ []) (h : ∀ c ∈ s, isAlphanumeric c = true) :
    Worded s := by
  induction s with
  | nil => exact absurd rfl hsome
  | cons c rest ih =>
    obtain ⟨hc, hrest⟩ := List.forall_mem_cons.1 h
    by_cases hempty : rest = []
    · subst hempty
      exact .single hc
    · exact .cons hc (ih hempty hrest)

/-- Words, a dash and words are words. -/
theorem Worded.append {a b : List Char} (ha : Worded a) (hb : Worded b) : Worded (a ++ '-' :: b) := by
  induction ha with
  | single hc => exact .dash hc hb
  | cons hc _ ih => exact .cons hc ih
  | dash hc _ ih => exact .dash hc ih

theorem Worded.concat {a : List Char} {c : Char} (ha : Worded a) (hc : isAlphanumeric c = true) :
    Worded (a ++ [c]) := by
  induction ha with
  | single hd => exact .cons hd (.single hc)
  | cons hd _ ih => exact .cons hd ih
  | dash hd _ ih => exact .dash hd ih

/-- The form is the same from behind. -/
theorem Worded.reverse {s : List Char} (h : Worded s) : Worded s.reverse := by
  induction h with
  | single hc => exact .single hc
  | cons hc _ ih =>
    rw [List.reverse_cons]
    exact ih.concat hc
  | dash hc _ ih =>
    rw [List.reverse_cons, List.reverse_cons, List.append_assoc]
    exact ih.append (.single hc)

/-- What is left of words behind a cut is a tail. -/
theorem Tail.drop {s : List Char} (h : Tail s) (n : Nat) : Tail (s.drop n) := by
  induction n generalizing s with
  | zero => exact h
  | succ n ih =>
    cases h with
    | nil => exact .nil
    | words h =>
      obtain ⟨c, rest, rfl, -, hrest⟩ := h.exists_cons
      exact ih hrest
    | dash h => exact ih (.words h)

/-- Without the dashes at its end, a text that is a tail from behind is words. -/
theorem Tail.trimEnd {s : List Char} (h : Tail s.reverse) :
    Text.trimEnd (· == '-') s = [] ∨ Worded (Text.trimEnd (· == '-') s) := by
  have hkeep {words : List Char} (hwords : Worded words) : words.dropWhile (· == '-') = words := by
    obtain ⟨c, rest, rfl, hc, -⟩ := hwords.exists_cons
    exact List.dropWhile_cons_of_neg (by simp [ne_dash hc])
  unfold Text.trimEnd
  generalize s.reverse = front at h
  cases h with
  | nil => exact .inl rfl
  | words h =>
    rw [hkeep h]
    exact .inr h.reverse
  | dash h =>
    rw [List.dropWhile_cons_of_pos (by rfl), hkeep h]
    exact .inr h.reverse

/-! ## Kept characters -/

/-- What is kept so far is a tail from behind: a dash is kept behind a letter or a digit alone. -/
theorem Tail.keepOnto {kept : List Char} (h : Tail kept) (s : List Char) : Tail (keepOnto kept s) := by
  induction s generalizing kept with
  | nil => exact h
  | cons c rest ih =>
    rw [Port.keepOnto]
    by_cases hc : isAlphanumeric c = true
    · rw [if_pos hc]
      exact ih (.words (h.cons hc))
    rw [if_neg hc]
    by_cases hdash : c = '-' ∧ kept ≠ [] ∧ kept.head? ≠ some '-'
    · rw [if_pos hdash]
      obtain ⟨-, hsome, hhead⟩ := hdash
      cases h with
      | nil => exact absurd rfl hsome
      | words h => exact ih (.dash h)
      | dash h => exact absurd rfl hhead
    · rw [if_neg hdash]
      exact ih h

/-- Letters and digits are kept. -/
theorem mem_keepOnto {s : List Char} {c : Char} (hc : isAlphanumeric c = true) (kept : List Char) :
    c ∈ keepOnto kept s ↔ c ∈ kept ∨ c ∈ s := by
  induction s generalizing kept with
  | nil => simp [keepOnto]
  | cons d rest ih =>
    rw [keepOnto]
    split
    · rw [ih, List.mem_cons, List.mem_cons, or_assoc, or_left_comm]
    · next hd =>
      have hne : c ≠ d := by
        rintro rfl
        exact hd hc
      split
      · rw [ih, List.mem_cons, List.mem_cons]
        simp [ne_dash hc, hne]
      · rw [ih, List.mem_cons]
        simp [hne]

theorem sanitize?_eq_some_iff {name base : List Char} :
    sanitize? name = some base ↔
      trimEnd (· == '-') (keepOnto [] name).reverse = base ∧ base ≠ [] := by
  unfold sanitize?
  simp only
  split
  · next h =>
    have hnil := List.isEmpty_iff.1 h
    simp [hnil]
  · next h =>
    constructor
    · rintro h'
      obtain rfl := Option.some.inj h'
      exact ⟨rfl, by simpa using h⟩
    · rintro ⟨rfl, -⟩
      rfl

/-- What is kept of a name is words between single dashes. -/
theorem worded_of_sanitize? {name base : List Char} (h : sanitize? name = some base) : Worded base := by
  obtain ⟨rfl, hsome⟩ := sanitize?_eq_some_iff.1 h
  have htail : Tail (keepOnto [] name).reverse.reverse := by
    rw [List.reverse_reverse]
    exact Tail.nil.keepOnto name
  exact htail.trimEnd.resolve_left hsome

theorem mem_of_mem_trimEnd {p : Char → Bool} {s : List Char} {c : Char} (h : c ∈ trimEnd p s) : c ∈ s := by
  rw [trimEnd, List.mem_reverse] at h
  exact List.mem_reverse.1 ((List.dropWhile_sublist p).mem h)

theorem trimEnd_eq_nil_iff {p : Char → Bool} {s : List Char} : trimEnd p s = [] ↔ ∀ c ∈ s, p c = true := by
  rw [trimEnd, List.reverse_eq_nil_iff, List.dropWhile_eq_nil_iff]
  simp

/-- A name has something to keep exactly if it has a letter or a digit. -/
theorem sanitize?_eq_none_iff {name : List Char} :
    sanitize? name = none ↔ ∀ c ∈ name, isAlphanumeric c = false := by
  constructor
  · intro h c hc
    refine Bool.eq_false_iff.2 fun hkept => ?_
    have hmem : c ∈ (keepOnto [] name).reverse := List.mem_reverse.2 ((mem_keepOnto hkept []).2 (.inr hc))
    have hsome : trimEnd (· == '-') (keepOnto [] name).reverse ≠ [] := by
      intro hnil
      exact ne_dash hkept (by simpa using trimEnd_eq_nil_iff.1 hnil c hmem)
    have := sanitize?_eq_some_iff.2 ⟨rfl, hsome⟩
    rw [h] at this
    cases this
  · intro h
    rw [Option.eq_none_iff_forall_ne_some]
    intro base hbase
    obtain ⟨c, rest, rfl, hc, -⟩ := (worded_of_sanitize? hbase).exists_cons
    obtain ⟨hkept, -⟩ := sanitize?_eq_some_iff.1 hbase
    have hmem : c ∈ (keepOnto [] name).reverse := mem_of_mem_trimEnd (hkept ▸ List.mem_cons_self)
    rw [List.mem_reverse, mem_keepOnto hc] at hmem
    rw [h c (hmem.resolve_left List.not_mem_nil)] at hc
    cases hc

/-! ## Widths -/

theorem isAlphanumeric_of_mem_hex {bytes : List UInt8} {c : Char} (h : c ∈ Blake3.hex bytes) :
    isAlphanumeric c = true := by
  have hdigit := Blake3.hexDigit_of_mem_hex bytes c h
  exact (by decide : ∀ d ∈ "0123456789abcdef".toList, isAlphanumeric d = true) c hdigit

/-- A beginning of the hash of a text is a word. -/
theorem worded_take_shortHash (s : String) {width : Nat} (hwidth : 0 < width) :
    Worded ((shortHash s).take width) := by
  refine worded_of_forall ?_ fun c hc => isAlphanumeric_of_mem_hex (List.mem_of_mem_take (List.mem_of_mem_take hc))
  intro hnil
  have hlength := congrArg List.length hnil
  rw [List.length_take, length_shortHash, List.length_nil] at hlength
  omega

/-- Words stay words in a width: a cut takes away what would end in a dash. -/
theorem Worded.fit {name : List Char} (h : Worded name) {width : Nat} (hwidth : 0 < width) :
    Worded (fit width name) := by
  have hhash : Worded (shortHash (String.ofList name)) := by
    have hwhole := worded_take_shortHash (String.ofList name) (by decide : 0 < 8)
    rwa [List.take_of_length_le (Nat.le_of_eq (length_shortHash _))] at hwhole
  have hcut (n : Nat) : Tail (name.take n).reverse := by
    rw [List.reverse_take]
    exact (Tail.words h.reverse).drop _
  unfold Port.fit
  by_cases hshort : name.length ≤ width
  · rw [if_pos hshort]
    exact h
  rw [if_neg hshort]
  simp only
  split
  · exact worded_take_shortHash _ hwidth
  · next hhead => exact ((hcut _).trimEnd.resolve_left (by simpa using hhead)).append hhash

/-! ## Characters -/

/-- The characters of port names. -/
def isPortChar (c : Char) : Bool := isAlphanumeric c || c == '-'

theorem isPortChar_of_isAlphanumeric {c : Char} (h : isAlphanumeric c = true) : isPortChar c = true := by
  rw [isPortChar, h, Bool.true_or]

theorem isPortChar_of_mem_hex {bytes : List UInt8} {c : Char} (h : c ∈ Blake3.hex bytes) : isPortChar c = true :=
  isPortChar_of_isAlphanumeric (isAlphanumeric_of_mem_hex h)

theorem Worded.isPortChar {s : List Char} (h : Worded s) : ∀ c ∈ s, isPortChar c = true := by
  have hletter {c : Char} (hc : isAlphanumeric c = true) := isPortChar_of_isAlphanumeric hc
  induction h with
  | single hc => exact List.forall_mem_singleton.2 (hletter hc)
  | cons hc _ ih => exact List.forall_mem_cons.2 ⟨hletter hc, ih⟩
  | dash hc _ ih => exact List.forall_mem_cons.2 ⟨hletter hc, List.forall_mem_cons.2 ⟨rfl, ih⟩⟩

variable {name base : List Char}

theorem Worded.isPortChar_fit (h : Worded name) (width : Nat) :
    ∀ c ∈ Port.fit width name, Port.isPortChar c = true := by
  rcases Nat.eq_zero_or_pos width with rfl | hwidth
  · have hnil := List.eq_nil_of_length_eq_zero (Nat.le_zero.1 (length_fit_le 0 name))
    rw [hnil]
    exact List.forall_mem_nil _
  · exact (h.fit hwidth).isPortChar

theorem isPortChar_of_rangePrefix? {count : Nat} (h : rangePrefix? name count = some base) :
    ∀ c ∈ base, isPortChar c = true := by
  obtain ⟨kept, hkept, rfl⟩ := Option.map_eq_some_iff.1 h
  exact (worded_of_sanitize? hkept).isPortChar_fit _

theorem worded_decimal (n : Nat) : Worded (decimal n) := by
  refine worded_of_forall ?_ fun c hc => by simp [isAlphanumeric, Yaml.isDigit_decimal hc]
  rcases Yaml.decimal_cases n with ⟨h, -⟩ | ⟨c, rest, h, -⟩
  · rw [h]
    exact List.cons_ne_nil _ _
  · rw [h]
    exact List.cons_ne_nil _ _

/-- The names of ports have letters, digits and dashes alone. -/
theorem isPortChar_of_named? {first last : Nat} {ports : List Named} (h : named? name first last = some ports) :
    ∀ port ∈ ports, ∀ c ∈ port.name, isPortChar c = true := by
  unfold named? at h
  split at h
  · obtain ⟨kept, hkept, rfl⟩ := Option.map_eq_some_iff.1 h
    exact List.forall_mem_singleton.2 ((worded_of_sanitize? hkept).isPortChar_fit _)
  · obtain ⟨base, hbase, rfl⟩ := Option.map_eq_some_iff.1 h
    refine List.forall_mem_map.2 fun i _ => List.forall_mem_append.2 ⟨isPortChar_of_rangePrefix? hbase, ?_⟩
    exact List.forall_mem_cons.2 ⟨rfl, (worded_decimal i).isPortChar⟩

end RoleChart.Port
