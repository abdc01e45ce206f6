import Mathlib.Data.List.Destutter
import RoleChart.Proofs.Port.Legal

/-!
# Sanitized names of ports

A name is sanitized in one pass, which looks at the character that was kept last. Three passes give the same: the
first takes away what a port name cannot hold, the second leaves one dash of each run of them, and the third takes
away the dashes at both ends. A dash that the one pass leaves out at the beginning is one that the third pass takes
away, so the passes are compared from the first letter or digit on.

## Main statements

* `reverse_keepOnto_cons`, `reverse_keepOnto_nil` — the one pass is the first two, behind a kept character and from
  the beginning
* `sanitize?_eq` — the one pass with what is trimmed at the end is all three
* `sanitize?_eq_self_iff` — the names that are kept as they are
* `sanitize?_normalForm` — all of it
-/

namespace RoleChart.Port

open Text

/-! ## The second pass -/

/-- Not both of two characters are dashes. -/
def Apart (a b : Char) : Prop := ¬ (a = '-' ∧ b = '-')

instance : DecidableRel Apart := fun a b => inferInstanceAs (Decidable (¬ (a = '-' ∧ b = '-')))

theorem apart_of_ne_left {a b : Char} (h : a ≠ '-') : Apart a b := fun both => h both.1

theorem apart_of_ne_right {a b : Char} (h : b ≠ '-') : Apart a b := fun both => h both.2

/-- The text with one dash for each run of dashes. -/
def singleDashes (s : List Char) : List Char := s.destutter Apart

/-- Of two dashes in a row the first one goes. -/
theorem singleDashes_dash_dash (s : List Char) : singleDashes ('-' :: '-' :: s) = singleDashes ('-' :: s) := by
  have hrow : ¬ Apart '-' '-' := fun h => h ⟨rfl, rfl⟩
  exact List.destutter'_cons_neg s hrow

/-- A character stays in front of one that is not a dash as well. -/
theorem singleDashes_cons_cons {a b : Char} (h : Apart a b) (s : List Char) :
    singleDashes (a :: b :: s) = a :: singleDashes (b :: s) :=
  List.destutter'_cons_pos s h

/-- The first character stays in front. -/
theorem exists_singleDashes_cons (c : Char) (s : List Char) : ∃ rest, singleDashes (c :: s) = c :: rest := by
  induction s with
  | nil => exact ⟨[], rfl⟩
  | cons d s ih =>
    by_cases h : Apart c d
    · exact ⟨_, singleDashes_cons_cons h s⟩
    · obtain ⟨rfl, rfl⟩ := not_not.1 h
      rw [singleDashes_dash_dash]
      exact ih

/-- Dashes at the beginning can be taken away before or after. -/
theorem dropWhile_singleDashes (s : List Char) :
    (singleDashes s).dropWhile (· == '-') = singleDashes (s.dropWhile (· == '-')) := by
  induction s with
  | nil => rfl
  | cons c s ih =>
    by_cases hc : c = '-'
    · subst hc
      rw [List.dropWhile_cons_of_pos (by rfl), ← ih]
      cases s with
      | nil => rfl
      | cons d s =>
        by_cases hd : d = '-'
        · rw [hd, singleDashes_dash_dash]
        · rw [singleDashes_cons_cons (apart_of_ne_right hd), List.dropWhile_cons_of_pos (by rfl)]
    · have hkeep {rest : List Char} : (c :: rest).dropWhile (· == '-') = c :: rest :=
        List.dropWhile_cons_of_neg (by simpa using hc)
      obtain ⟨rest, hrest⟩ := exists_singleDashes_cons c s
      rw [hkeep, hrest, hkeep]

/-- A text without two dashes in a row stays as it is. -/
theorem singleDashes_of_apart {s : List Char} (h : ¬ ['-', '-'] <:+: s) : singleDashes s = s := by
  induction s with
  | nil => rfl
  | cons a s ih =>
    rw [List.infix_cons_iff, not_or] at h
    cases s with
    | nil => rfl
    | cons b s =>
      have hab : Apart a b := by
        rintro ⟨rfl, rfl⟩
        exact h.1 ⟨s, rfl⟩
      rw [singleDashes_cons_cons hab, ih h.2]

/-! ## One pass for three -/

/-- The name after all three passes. -/
def passes (name : List Char) : List Char :=
  trim (· == '-') (singleDashes (name.filter isPortChar))

/-- Behind a kept character, the one pass does what the first two do: it looks for that character where the second
looks for the last one it left. -/
theorem reverse_keepOnto_cons (k : Char) (kept s : List Char) :
    (keepOnto (k :: kept) s).reverse = kept.reverse ++ singleDashes (k :: s.filter isPortChar) := by
  induction s generalizing k kept with
  | nil => exact List.reverse_cons
  | cons c s ih =>
    rw [keepOnto]
    by_cases hc : isAlphanumeric c = true
    · rw [if_pos hc, ih, List.filter_cons_of_pos (isPortChar_of_isAlphanumeric hc),
        singleDashes_cons_cons (apart_of_ne_right (ne_dash hc)), List.reverse_cons, List.append_assoc,
        List.singleton_append]
    rw [if_neg hc]
    by_cases hdash : c = '-'
    · subst hdash
      rw [List.filter_cons_of_pos (by rfl)]
      by_cases hk : k = '-'
      · subst hk
        rw [if_neg (by simp), ih, singleDashes_dash_dash]
      · rw [if_pos (by simpa using hk), ih, singleDashes_cons_cons (apart_of_ne_left hk), List.reverse_cons,
          List.append_assoc, List.singleton_append]
    · rw [if_neg (fun h => hdash h.1), ih, List.filter_cons_of_neg (by simp [isPortChar, hc, hdash])]

/-- Before anything is kept, the one pass leaves dashes out, too. -/
theorem reverse_keepOnto_nil (s : List Char) :
    (keepOnto [] s).reverse = singleDashes ((s.filter isPortChar).dropWhile (· == '-')) := by
  induction s with
  | nil => rfl
  | cons c s ih =>
    rw [keepOnto]
    by_cases hc : isAlphanumeric c = true
    · rw [if_pos hc, reverse_keepOnto_cons, List.filter_cons_of_pos (isPortChar_of_isAlphanumeric hc),
        List.dropWhile_cons_of_neg (by simpa using ne_dash hc)]
      rfl
    rw [if_neg hc, if_neg (by simp), ih]
    by_cases hdash : c = '-'
    · subst hdash
      rw [List.filter_cons_of_pos (by rfl), List.dropWhile_cons_of_pos (by rfl)]
    · rw [List.filter_cons_of_neg (by simp [isPortChar, hc, hdash])]

theorem trimEnd_keepOnto (name : List Char) : trimEnd (· == '-') (keepOnto [] name).reverse = passes name := by
  rw [reverse_keepOnto_nil, ← dropWhile_singleDashes]
  rfl

/-- A name is sanitized by the three passes. It has to have a letter or a digit. -/
theorem sanitize?_eq (name : List Char) :
    sanitize? name = if name.any isAlphanumeric then some (passes name) else none := by
  by_cases hsome : name.any isAlphanumeric = true
  · rw [if_pos hsome]
    have hne : sanitize? name ≠ none := by
      rw [Ne, sanitize?_eq_none_iff]
      obtain ⟨c, hc, hkept⟩ := List.any_eq_true.1 hsome
      intro hnone
      rw [hnone c hc] at hkept
      cases hkept
    obtain ⟨base, hbase⟩ := Option.ne_none_iff_exists'.1 hne
    rw [hbase, ← (sanitize?_eq_some_iff.1 hbase).1, trimEnd_keepOnto]
  · rw [if_neg hsome, sanitize?_eq_none_iff]
    simpa using hsome

/-! ## The normal form -/

namespace Normal

variable {name : List Char}

/-- The first character is a letter or a digit. -/
theorem any_isAlphanumeric (h : Normal name) : name.any isAlphanumeric = true := by
  obtain ⟨c, rest, rfl⟩ := List.exists_cons_of_ne_nil h.nonempty
  have hhead : c ≠ '-' := by simpa using h.head
  have hc := (h.chars c List.mem_cons_self).resolve_right hhead
  exact List.any_eq_true.2 ⟨c, List.mem_cons_self, hc⟩

/-- No pass takes anything away. -/
theorem passes_eq (h : Normal name) : passes name = name := by
  have hchars : name.filter isPortChar = name :=
    List.filter_eq_self.2 fun c hc => by simpa [isPortChar] using h.chars c hc
  have htrim {s : List Char} (hs : s.head? ≠ some '-') : s.dropWhile (· == '-') = s :=
    List.dropWhile_beq_eq_self_of_head?_ne hs
  have hlast : name.reverse.head? ≠ some '-' := by
    rw [List.head?_reverse]
    exact h.last
  rw [passes, hchars, singleDashes_of_apart h.apart, trim, htrim h.head, trimEnd, htrim hlast,
    List.reverse_reverse]

theorem sanitize?_eq_self (h : Normal name) : sanitize? name = some name := by
  rw [sanitize?_eq, if_pos h.any_isAlphanumeric, h.passes_eq]

end Normal

theorem normal_of_sanitize? {name base : List Char} (h : sanitize? name = some base) : Normal base :=
  (worded_of_sanitize? h).normal

/-- Exactly the names in normal form are kept as they are. -/
theorem sanitize?_eq_self_iff (name : List Char) : sanitize? name = some name ↔ Normal name :=
  ⟨normal_of_sanitize?, Normal.sanitize?_eq_self⟩

/-- A name cannot be sanitized exactly if it has no letter and no digit. Otherwise the three passes give what it
becomes. That is in normal form and stays as it is, and so does every name in normal form, but no other. -/
theorem sanitize?_normalForm (name : List Char) :
    (sanitize? name = none ↔ ∀ c ∈ name, isAlphanumeric c = false) ∧
      (∀ base, sanitize? name = some base ↔
        (∃ c ∈ name, isAlphanumeric c = true) ∧
          base = trim (· == '-') (singleDashes (name.filter fun c => isAlphanumeric c || c == '-'))) ∧
      (sanitize? name).bind sanitize? = sanitize? name ∧
      (sanitize? name = some name ↔ Normal name) := by
  refine ⟨sanitize?_eq_none_iff, fun base => ?_, ?_, sanitize?_eq_self_iff name⟩
  · rw [← List.any_eq_true, sanitize?_eq, Option.ite_none_right_eq_some, Option.some.injEq, eq_comm (a := passes name)]
    rfl
  · cases hbase : sanitize? name with
    | none => rfl
    | some base => exact (normal_of_sanitize? hbase).sanitize?_eq_self

/-- Characters that are dropped between dashes leave a run of them. -/
example : sanitize? "-a-.-_-B--".toList = some "a-B".toList := by decide

end RoleChart.Port
