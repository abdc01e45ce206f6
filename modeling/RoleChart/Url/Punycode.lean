import RoleChart.Text.Basic

/-!
# Punycode

International labels in ASCII. The characters of ASCII come first; every other character is inserted
in the order of its number, written as the count of places that are passed over. Counts are numbers
in base 36 with the least digit first, where a digit below a threshold ends a number; the thresholds
follow a bias that adapts to the size of the counts.

## Main statements

* `digitValue_digit` — digits read back
* `readCount_writeCount` — a written count reads back in front of any rest
-/

namespace RoleChart.Url.Punycode

open Text

/-! ## Digits -/

/-- The digit of a value below 36: letters first. -/
def digit (d : Nat) : Char := if d < 26 then Char.ofNat (0x61 + d) else Char.ofNat (0x30 + d - 26)

/-- The value of a digit, where letters are small. -/
def digitValue? (c : Char) : Option Nat :=
  let n := c.toNat
  if 0x61 ≤ n ∧ n ≤ 0x7A then some (n - 0x61)
  else if 0x30 ≤ n ∧ n ≤ 0x39 then some (n - 0x30 + 26)
  else none

theorem digitValue_digit {d : Nat} (h : d < 36) : digitValue? (digit d) = some d := by
  have all : ∀ d : Fin 36, digitValue? (digit d.val) = some d.val := by decide
  exact all ⟨d, h⟩

/-! ## Counts -/

/-- The threshold of the digit at a position. -/
def threshold (bias position : Nat) : Nat := max 1 (min 26 (position - bias))

theorem threshold_bounds (bias position : Nat) :
    1 ≤ threshold bias position ∧ threshold bias position ≤ 26 := by
  unfold threshold
  omega

/-- The digits of a count from a position on. -/
def writeCount (bias position n : Nat) : List Char :=
  let t := threshold bias position
  if n < t then [digit n]
  else digit (t + (n - t) % (36 - t)) :: writeCount bias (position + 36) ((n - t) / (36 - t))
termination_by n
decreasing_by
  have := threshold_bounds bias position
  have := Nat.div_le_self (n - threshold bias position) (36 - threshold bias position)
  omega

/-- Reads a count onto a sum, where the next digit has the given weight. -/
def readCount? (bias : Nat) : (position weight sum : Nat) → List Char → Option (Nat × List Char)
  | _, _, _, [] => none
  | position, weight, sum, c :: rest =>
    match digitValue? c with
    | none => none
    | some d =>
      if d < threshold bias position then some (sum + d * weight, rest)
      else
        readCount? bias (position + 36) (weight * (36 - threshold bias position)) (sum + d * weight)
          rest

theorem length_lt_of_readCount {bias position weight sum n : Nat} {s rest : List Char}
    (h : readCount? bias position weight sum s = some (n, rest)) : rest.length < s.length := by
  induction s generalizing position weight sum with
  | nil => simp [readCount?] at h
  | cons c s ih =>
    rw [readCount?] at h
    split at h
    · simp at h
    · split at h
      · simp only [Option.some.injEq, Prod.mk.injEq] at h
        simp [h.2]
      · exact Nat.lt_succ_of_lt (ih h)

/-- A number is put together again from its remainder and its quotient above a threshold. -/
theorem sum_of_digits {t n : Nat} (weight : Nat) (h : t ≤ n) :
    (t + (n - t) % (36 - t)) * weight + (n - t) / (36 - t) * (weight * (36 - t)) = n * weight := by
  have e := Nat.mod_add_div (n - t) (36 - t)
  have f : (n - t) / (36 - t) * (weight * (36 - t)) = (36 - t) * ((n - t) / (36 - t)) * weight := by
    simp only [Nat.mul_comm, Nat.mul_left_comm]
  rw [f, ← Nat.add_mul, Nat.add_assoc, e, Nat.add_sub_cancel' h]

theorem readCount_writeCount (bias position weight sum n : Nat) (rest : List Char) :
    readCount? bias position weight sum (writeCount bias position n ++ rest)
      = some (sum + n * weight, rest) := by
  induction n using Nat.strongRecOn generalizing position weight sum with
  | _ n ih =>
    have bounds := threshold_bounds bias position
    rw [writeCount]
    by_cases h : n < threshold bias position
    · simp only [h, if_true, List.cons_append, List.nil_append, readCount?,
        digitValue_digit (show n < 36 by omega)]
    · have small : (n - threshold bias position) % (36 - threshold bias position)
          < 36 - threshold bias position := Nat.mod_lt _ (by omega)
      have less := Nat.div_le_self (n - threshold bias position) (36 - threshold bias position)
      have value := digitValue_digit (show threshold bias position
        + (n - threshold bias position) % (36 - threshold bias position) < 36 by omega)
      rw [if_neg h, List.cons_append, readCount?, value]
      simp only
      rw [if_neg (by omega), ih _ (by omega), Nat.add_assoc, sum_of_digits weight (by omega)]

/-! ## The bias -/

/-- The bias of the first count. -/
def firstBias : Nat := 72

/-- Scales a count down, with 36 for each step. -/
def scaled (n k : Nat) : Nat :=
  if 455 < n then scaled (n / 35) (k + 36) else k + 36 * n / (n + 38)
termination_by n
decreasing_by omega

/-- The bias after a count, with so many characters in place. The first count weighs less. -/
def adapt (count placed : Nat) (first : Bool) : Nat :=
  let n := if first then count / 700 else count / 2
  scaled (n + n / placed) 0

/-! ## Labels -/

/-- Whether a character stands for itself. -/
def isBasic (c : Char) : Bool := c.toNat < 0x80

/-- Where the writer of a label is. -/
structure Writer where
  count : Nat := 0
  bias : Nat := firstBias
  placed : Nat
  first : Bool := true
  written : List Char := []

/-- Passes a character while those of number `m` are written. -/
def Writer.pass (m : Nat) (w : Writer) (c : Char) : Writer :=
  if c.toNat < m then { w with count := w.count + 1 }
  else if c.toNat = m then
    { count := 0
      bias := adapt w.count (w.placed + 1) w.first
      placed := w.placed + 1
      first := false
      written := w.written ++ writeCount w.bias 36 w.count }
  else w

/-- Writes the characters whose numbers are given in ascending order, where those below `least` are in
place. -/
def Writer.passAll (label : List Char) : List Nat → Nat → Writer → List Char
  | [], _, w => w.written
  | m :: more, least, w =>
    let w := { w with count := w.count + (m - least) * (w.placed + 1) }
    let w := label.foldl (Writer.pass m) w
    passAll label more (m + 1) { w with count := w.count + 1 }

/-- The encoded form of a label. -/
def encode (label : List Char) : List Char :=
  let basic := label.filter isBasic
  let numbers := ((label.filter (!isBasic ·)).map Char.toNat).mergeSort.eraseDups
  basic ++ (if basic.isEmpty then [] else ['-'])
    ++ Writer.passAll label numbers 0x80 { placed := basic.length }

/-- Inserts the characters that are counted, at the number `n` and the place `i`. -/
def insertAll? (placed : List Char) (n i bias : Nat) (s : List Char) : Option (List Char) :=
  if s.isEmpty then some placed
  else
    match _read : readCount? bias 36 1 i s with
    | none => none
    | some (j, rest) =>
      let size := placed.length + 1
      let m := n + j / size
      if m.isValidChar then
        insertAll? (placed.insertIdx (j % size) (Char.ofNat m)) m (j % size + 1)
          (adapt (j - i) size (i == 0)) rest
      else none
termination_by s.length
decreasing_by exact length_lt_of_readCount _read

/-- The label of an encoded form. The last dash, unless it comes first, ends the characters that stand
for themselves. -/
def decode? (s : List Char) : Option (List Char) :=
  match splitOnce '-' s.reverse with
  | some (counts, basic@(_ :: _)) => insertAll? basic.reverse 0x80 0 firstBias counts.reverse
  | _ => insertAll? [] 0x80 0 firstBias s

end RoleChart.Url.Punycode
