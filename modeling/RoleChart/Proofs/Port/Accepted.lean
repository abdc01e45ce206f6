import RoleChart.Proofs.Port

/-!
# Ranges that are accepted

A range is written as one number or as two around a dash. A number is some digits, as many as one likes, with a
plus sign in front of them or not, and with blanks around. A range is accepted if it is written so and its ends
are ports in order, and in no other case. A declared port is accepted with its ranges.

## Main statements

* `Range.number?_eq_some_iff` — which texts are numbers, and which numbers they are
* `Range.ofText_eq_ok_iff` — which texts are ranges, and which ranges they are
* `Definition.accepts_iff` — a range and a declared port are accepted exactly so, and refused with all that was
  given
-/

namespace RoleChart.Port

open Text Built

/-! ## Numbers -/

/-- The number that decimal digits write. -/
def digitsValue (digits : List Char) : Nat := digits.foldl (fun n c => 10 * n + (c.toNat - '0'.toNat)) 0

/-- A text that writes a number: digits, behind a plus sign or without one, between blanks. -/
inductive Writes : List Char → Nat → Prop where
  | digits {before sign digits after : List Char} (hbefore : ∀ c ∈ before, isBlank c = true)
    (hsign : sign = [] ∨ sign = ['+']) (hsome : digits ≠ []) (hdigits : ∀ c ∈ digits, isDigit c = true)
    (hafter : ∀ c ∈ after, isBlank c = true) :
    Writes (before ++ (sign ++ digits) ++ after) (digitsValue digits)

theorem hexValue?_of_isDigit {c : Char} (h : isDigit c = true) :
    hexValue? c = some (c.toNat - '0'.toNat) ∧ c.toNat - '0'.toNat < 10 := by
  simp only [isDigit, Bool.and_eq_true, decide_eq_true_eq] at h
  constructor
  · simp [hexValue?, h.1, h.2]
  · have : '0'.toNat = 48 := rfl
    omega

/-- Digits are read from left to right, however many there are. -/
theorem ofDigits?_of_digits {digits : List Char} (h : ∀ c ∈ digits, isDigit c = true) :
    ofDigits? 10 digits = some (digitsValue digits) := by
  unfold ofDigits? digitsValue
  generalize 0 = start
  induction digits generalizing start with
  | nil => rfl
  | cons c rest ih =>
    obtain ⟨hc, hrest⟩ := List.forall_mem_cons.1 h
    obtain ⟨hvalue, hlt⟩ := hexValue?_of_isDigit hc
    rw [List.foldlM_cons, List.foldl_cons, ← ih hrest]
    simp only [hvalue, Option.bind_eq_bind, Option.bind_some, if_pos hlt, Nat.mul_comm start]

/-- Without a sign, digits are read as what they write, as far as 32 bits go. -/
theorem digits_eq_some_iff {digits : List Char} {n : Nat} :
    (if digits.isEmpty || !digits.all isDigit then none
      else (ofDigits? 10 digits).filter (· < Nat.pow 2 32)) = some n ↔
    n < Nat.pow 2 32 ∧ digits ≠ [] ∧ (∀ c ∈ digits, isDigit c = true) ∧ digitsValue digits = n := by
  by_cases hform : digits ≠ [] ∧ ∀ c ∈ digits, isDigit c = true
  · obtain ⟨hsome, hdigits⟩ := hform
    rw [if_neg (by simpa [hsome] using hdigits), ofDigits?_of_digits hdigits, Option.filter_eq_some_iff]
    constructor
    · rintro ⟨hvalue, hlt⟩
      exact ⟨of_decide_eq_true hlt, hsome, hdigits, Option.some.inj hvalue⟩
    · rintro ⟨hlt, -, -, rfl⟩
      exact ⟨rfl, decide_eq_true hlt⟩
  · rw [if_pos (by simpa [Decidable.or_iff_not_imp_left] using hform)]
    constructor
    · intro h
      cases h
    · rintro ⟨-, hsome, hdigits, -⟩
      exact absurd ⟨hsome, hdigits⟩ hform

theorem Range.number?_eq_some_iff {s : List Char} {n : Nat} :
    Range.number? s = some n ↔ n < Nat.pow 2 32 ∧ ∃ sign digits, s = sign ++ digits ∧
      (sign = [] ∨ sign = ['+']) ∧ digits ≠ [] ∧ (∀ c ∈ digits, isDigit c = true) ∧ digitsValue digits = n := by
  unfold Range.number?
  split
  · next rest =>
    -- the plus sign is no digit, so it can only be the sign
    rw [digits_eq_some_iff]
    constructor
    · rintro ⟨hlt, hrest⟩
      exact ⟨hlt, ['+'], rest, rfl, .inr rfl, hrest⟩
    · rintro ⟨hlt, sign, digits, hs, rfl | rfl, hsome, hdigits, hvalue⟩
      · obtain rfl : '+' :: rest = digits := hs
        exact absurd (hdigits '+' List.mem_cons_self) (by decide)
      · obtain rfl : rest = digits := List.cons.inj hs |>.2
        exact ⟨hlt, hsome, hdigits, hvalue⟩
  · next hplus =>
    rw [digits_eq_some_iff]
    constructor
    · rintro ⟨hlt, hs⟩
      exact ⟨hlt, [], s, rfl, .inl rfl, hs⟩
    · rintro ⟨hlt, sign, digits, hs, rfl | rfl, hsome, hdigits, hvalue⟩
      · obtain rfl : s = digits := hs
        exact ⟨hlt, hsome, hdigits, hvalue⟩
      · exact absurd hs (hplus digits)

/-! ## Parts -/

/-- What is trimmed off a text, and what is left. -/
theorem exists_around_trim (p : Char → Bool) (s : List Char) :
    ∃ before after, s = before ++ trim p s ++ after ∧ (∀ c ∈ before, p c = true) ∧ ∀ c ∈ after, p c = true := by
  refine ⟨s.takeWhile p, ((s.dropWhile p).reverse.takeWhile p).reverse, ?_, ?_, ?_⟩
  · have hend : trim p s ++ ((s.dropWhile p).reverse.takeWhile p).reverse = s.dropWhile p := by
      rw [trim, trimEnd, ← List.reverse_append, List.takeWhile_append_dropWhile, List.reverse_reverse]
    rw [List.append_assoc, hend, List.takeWhile_append_dropWhile]
  · exact List.all_eq_true.1 List.all_takeWhile
  · intro c hc
    exact List.all_eq_true.1 List.all_takeWhile c (List.mem_reverse.1 hc)

theorem dropWhile_in_front {p : Char → Bool} {before body : List Char} (hbefore : ∀ c ∈ before, p c = true)
    (hbody : ∀ c ∈ body, p c = false) (hsome : body ≠ []) (after : List Char) :
    (before ++ (body ++ after)).dropWhile p = body ++ after := by
  rw [List.dropWhile_append_of_pos hbefore]
  cases body with
  | nil => exact absurd rfl hsome
  | cons c body =>
    have hc := hbody c List.mem_cons_self
    rw [List.cons_append, List.dropWhile_cons_of_neg (by simp [hc])]

/-- What stands around a text is trimmed off it, where nothing of the text itself is of the kind. -/
theorem trim_around {p : Char → Bool} {before body after : List Char} (hbefore : ∀ c ∈ before, p c = true)
    (hbody : ∀ c ∈ body, p c = false) (hsome : body ≠ []) (hafter : ∀ c ∈ after, p c = true) :
    trim p (before ++ body ++ after) = body := by
  have hreverse := @dropWhile_in_front p after.reverse body.reverse (fun c hc => hafter c (List.mem_reverse.1 hc))
    (fun c hc => hbody c (List.mem_reverse.1 hc)) (by simpa using hsome) []
  rw [trim, List.append_assoc, dropWhile_in_front hbefore hbody hsome, trimEnd, List.reverse_append]
  simpa using congrArg List.reverse hreverse

theorem not_isBlank_of_isDigit {c : Char} (h : isDigit c = true) : isBlank c = false := by
  simp only [isDigit, Bool.and_eq_true, decide_eq_true_eq] at h
  simp only [isBlank, Bool.or_eq_false_iff, Bool.and_eq_false_imp, decide_eq_true_eq, decide_eq_false_iff_not,
    beq_eq_false_iff_ne]
  omega

/-- A part is a number exactly if it writes one that fits. -/
theorem Range.part_eq_ok_iff {s : List Char} {n : Nat} :
    Range.part s = .ok n ↔ n < Nat.pow 2 32 ∧ Writes s n := by
  have hpart : Range.part s = .ok n ↔ Range.number? (trimBlanks s) = some n := by
    unfold Range.part
    cases Range.number? (trimBlanks s) with
    | none => simp
    | some k => simp
  rw [hpart, Range.number?_eq_some_iff]
  constructor
  · rintro ⟨hlt, sign, digits, hs, hsign, hsome, hdigits, rfl⟩
    obtain ⟨before, after, haround, hbefore, hafter⟩ := exists_around_trim isBlank s
    refine ⟨hlt, ?_⟩
    rw [haround, ← trimBlanks, hs]
    exact .digits hbefore hsign hsome hdigits hafter
  · rintro ⟨hlt, @⟨before, sign, digits, after, hbefore, hsign, hsome, hdigits, hafter⟩⟩
    refine ⟨hlt, sign, digits, trim_around hbefore ?_ (by simp [hsome]) hafter, hsign, hsome, hdigits, rfl⟩
    refine List.forall_mem_append.2 ⟨?_, fun c hc => not_isBlank_of_isDigit (hdigits c hc)⟩
    rcases hsign with rfl | rfl
    · exact List.forall_mem_nil _
    · exact List.forall_mem_singleton.2 (by decide)

/-! ## Ranges -/

/-- A text that writes the two ends of a range. The first dash separates them, and without a dash they are the
same number. -/
inductive WritesEnds : List Char → Nat → Nat → Prop where
  | single {s : List Char} {port : Nat} (hdash : '-' ∉ s) (h : Writes s port) : WritesEnds s port port
  | double {low high : List Char} {first last : Nat} (hdash : '-' ∉ low) (hlow : Writes low first)
    (hhigh : Writes high last) : WritesEnds (low ++ '-' :: high) first last

/-- A text that is accepted as a range: its ends are ports, and they are in order. -/
structure Accepts (value : String) (r : Range) : Prop where
  written : WritesEnds value.toList r.first r.last
  pos : 0 < r.first
  ordered : r.first ≤ r.last
  le : r.last ≤ 65535

/-- The ends that a text writes are read, if they fit. -/
theorem Range.ofText_of_writesEnds {value : String} {first last : Nat} (h : WritesEnds value.toList first last)
    (hfirst : first < Nat.pow 2 32) (hlast : last < Nat.pow 2 32) :
    Range.ofText value = Range.ofEnds first last := by
  unfold Range.ofText
  generalize value.toList = s at h
  cases h with
  | single hdash hport =>
    rw [(splitOnce_eq_none_iff _ _).2 hdash, Range.part_eq_ok_iff.2 ⟨hfirst, hport⟩]
    rfl
  | @double low high _ _ hdash hlow hhigh =>
    simp only [(splitOnce_eq_some_iff _ _ low high).2 ⟨rfl, hdash⟩, Range.part_eq_ok_iff.2 ⟨hfirst, hlow⟩,
      Range.part_eq_ok_iff.2 ⟨hlast, hhigh⟩]
    rfl

/-- What is read as a range writes its ends. -/
theorem Range.exists_of_ofText {value : String} {r : Range} (h : Range.ofText value = .ok r) :
    ∃ first last, WritesEnds value.toList first last ∧ Range.ofEnds first last = .ok r := by
  unfold Range.ofText at h
  split at h
  · next low high hsplit =>
    obtain ⟨hvalue, hdash⟩ := (splitOnce_eq_some_iff _ _ _ _).1 hsplit
    obtain ⟨first, hfirst, h⟩ := bind_eq_ok_iff.1 h
    obtain ⟨last, hlast, h⟩ := bind_eq_ok_iff.1 h
    refine ⟨first, last, ?_, h⟩
    rw [hvalue]
    exact .double hdash (Range.part_eq_ok_iff.1 hfirst).2 (Range.part_eq_ok_iff.1 hlast).2
  · next hsplit =>
    obtain ⟨port, hport, h⟩ := bind_eq_ok_iff.1 h
    exact ⟨port, port, .single ((splitOnce_eq_none_iff _ _).1 hsplit) (Range.part_eq_ok_iff.1 hport).2, h⟩

/-- A text is read as a range exactly if it is accepted as that range. Ends that do not fit 32 bits are no ports
either, so the bound of the reader refuses nothing more. -/
theorem Range.ofText_eq_ok_iff {value : String} {r : Range} :
    Range.ofText value = .ok r ↔ Accepts value r := by
  constructor
  · intro h
    obtain ⟨first, last, hwritten, hends⟩ := Range.exists_of_ofText h
    obtain ⟨hpos, hordered, hle, rfl⟩ := (Range.ofEnds_eq_ok_iff _ _ _).1 hends
    exact ⟨hwritten, hpos, hordered, hle⟩
  · rintro ⟨hwritten, hpos, hordered, hle⟩
    have hfits : ∀ port ≤ 65535, port < Nat.pow 2 32 := fun port h => Nat.lt_of_le_of_lt h (by decide)
    rw [Range.ofText_of_writesEnds hwritten (hfits _ (Nat.le_trans hordered hle)) (hfits _ hle)]
    exact (Range.ofEnds_eq_ok_iff _ _ _).2 ⟨hpos, hordered, hle, rfl⟩

/-! ## Declared ports -/

/-- A declared port that is accepted: its range inside is, and so is its range outside, if there is one, which
holds as many ports. -/
structure AcceptsPort (p : ExposedPort) (inside : Range) : Prop where
  within : Accepts p.internal.toText inside
  outside : p.external = none ∨
    ∃ spec outside, p.external = some spec ∧ Accepts spec.toText outside ∧ outside.count = inside.count

namespace Definition

theorem count_eq_iff {a b : Range} (ha : a.first ≤ a.last) (hb : b.first ≤ b.last) :
    a.count = b.count ↔ a.last - a.first = b.last - b.first := by
  unfold Range.count
  omega

/-- A declared port is accepted exactly as its ranges are. -/
theorem exists_ofExposed_iff {p : ExposedPort} :
    (∃ d, ofExposed p = .ok d) ↔ ∃ inside, AcceptsPort p inside := by
  constructor
  · rintro ⟨d, h⟩
    have hkeeps := ofExposed_ok h
    have hwidth := ofExposed_width p d h
    have hinside := Range.ofText_eq_ok_iff.1 hkeeps.inside
    have houtside := Range.ofText_eq_ok_iff.1 hkeeps.outside
    refine ⟨d.internal, hinside, ?_⟩
    cases hspec : p.external with
    | none => exact .inl rfl
    | some spec =>
      rw [hspec] at houtside
      exact .inr ⟨spec, d.external, rfl, houtside, (count_eq_iff houtside.ordered hinside.ordered).2 hwidth⟩
  · rintro ⟨inside, hinside, houtside⟩
    unfold ofExposed
    rw [range_eq_ok_iff.2 (Range.ofText_eq_ok_iff.2 hinside)]
    rcases houtside with hspec | ⟨spec, outside, hspec, houtside, hcount⟩
    · rw [hspec]
      exact ⟨_, rfl⟩
    · have hwidth := (count_eq_iff houtside.ordered hinside.ordered).1 hcount
      simp only [hspec, range_eq_ok_iff.2 (Range.ofText_eq_ok_iff.2 houtside), bind, Except.bind, hwidth,
        ne_eq, not_true_eq_false, if_false]
      exact ⟨_, rfl⟩

/-- A text that is no range is refused with the port, the field and the text that were given. -/
theorem range_cases (port field value : String) :
    (∃ r, range port field value = .ok r) ∨
      ∃ reason, range port field value = .error (.portRange port field value reason) := by
  unfold range
  cases Range.ofText value with
  | ok r => exact .inl ⟨r, rfl⟩
  | error reason => exact .inr ⟨reason, rfl⟩

/-- A range is accepted exactly if it is written as one or two numbers with ports in order, and refused with all
that was given in every other case. A declared port is accepted exactly if its range inside is, and its range
outside, if there is one, is accepted and holds as many ports. -/
theorem accepts_iff :
    (∀ port field value r, range port field value = .ok r ↔ Accepts value r) ∧
    (∀ port field value, (∃ r, Accepts value r) ∨
      ∃ reason, range port field value = .error (.portRange port field value reason)) ∧
    ∀ p, (∃ d, ofExposed p = .ok d) ↔ ∃ inside, AcceptsPort p inside := by
  refine ⟨?_, ?_, ?_⟩
  · intro port field value r
    rw [range_eq_ok_iff, Range.ofText_eq_ok_iff]
  · intro port field value
    rcases range_cases port field value with ⟨r, h⟩ | h
    · exact .inl ⟨r, Range.ofText_eq_ok_iff.1 (range_eq_ok_iff.1 h)⟩
    · exact .inr h
  · intro p
    exact exists_ofExposed_iff

end Definition

end RoleChart.Port
