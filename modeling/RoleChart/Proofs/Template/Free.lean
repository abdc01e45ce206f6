import RoleChart.Pod.Probe
import RoleChart.Proofs.Document.Outlining
import RoleChart.Proofs.Port
import RoleChart.Proofs.Secret
import RoleChart.Proofs.Template.Paths

/-!
# Texts without value paths

A text in which the name of all values does not stand looks up nothing. Here it is shown which
conversions keep a text free of the name: quoting does, and so do texts put together around a character
that the name lacks. Capitals, header names, base64 texts and numbers are always free of it.

## Main statements

* `free_append_cons` — two free texts around a character that the name lacks
* `free_quote` — quoting makes no name
* `free_upper` — capital letters are free of the name
* `free_canonicalHeader` — the usual form of a header name is free of it
-/

namespace RoleChart.Template

open RoleChart.Document

/-- The name of all values, as a text would mention it. -/
def mark : List Char := ".Values".toList

/-- Whether a text does not mention the values. -/
def Free (s : List Char) : Prop := ¬ mark <:+: s

instance (s : List Char) : Decidable (Free s) :=
  decidable_of_iff (Text.occurs mark s = false) (by rw [Free, ← Text.occurs_iff, Bool.not_eq_true])

variable {a b s : List Char} {c : Char}

theorem Free.of_infix (h : Free s) (ha : a <:+: s) : Free a := fun hm => h (hm.trans ha)

/-- A text that lacks a character of the name does not hold the name. -/
theorem free_of_not_mem (hc : c ∈ mark) (h : c ∉ s) : Free s := fun hm => h (hm.subset hc)

/-- A free text has no paths. -/
theorem valuePaths_of_free (h : Free s) : valuePaths s = [] :=
  valuePaths_eq_nil fun hm => h ((List.infix_append [] mark ['.']).trans hm)

/-! ## Texts put together -/

theorem prefix_of_prefix_append_cons {p : List Char} (hc : c ∉ p) (h : p <+: a ++ c :: b) : p <+: a := by
  induction a generalizing p with
  | nil =>
    rcases List.prefix_cons_iff.1 h with rfl | ⟨rest, rfl, -⟩
    · exact List.nil_prefix
    · exact absurd List.mem_cons_self hc
  | cons d a ih =>
    rcases List.prefix_cons_iff.1 h with rfl | ⟨rest, rfl, hrest⟩
    · exact List.nil_prefix
    · exact List.cons_prefix_cons.2 ⟨rfl, ih (fun hm => hc (List.mem_cons_of_mem d hm)) hrest⟩

/-- A pattern that lacks a character stands on one side of it. -/
theorem infix_append_cons {p : List Char} (hc : c ∉ p) (h : p <:+: a ++ c :: b) :
    p <:+: a ∨ p <:+: b := by
  induction a with
  | nil =>
    rcases List.infix_cons_iff.1 h with h | h
    · rcases List.prefix_cons_iff.1 h with rfl | ⟨rest, rfl, -⟩
      · exact .inl List.nil_infix
      · exact absurd List.mem_cons_self hc
    · exact .inr h
  | cons d a ih =>
    rcases List.infix_cons_iff.1 h with h | h
    · exact .inl (prefix_of_prefix_append_cons (a := d :: a) hc h).isInfix
    · exact (ih h).imp_left fun hm => List.infix_cons_iff.2 (.inr hm)

theorem free_append_cons (hc : c ∉ mark) (ha : Free a) (hb : Free b) : Free (a ++ c :: b) :=
  fun h => (infix_append_cons hc h).elim ha hb

theorem free_nil : Free [] := free_of_not_mem (c := '.') (by decide) List.not_mem_nil

theorem free_cons (hc : c ∉ mark) (h : Free s) : Free (c :: s) := free_append_cons hc free_nil h

theorem free_concat (hc : c ∉ mark) (h : Free s) : Free (s ++ [c]) := free_append_cons hc h free_nil

/-- Whether a character is there and is none of the name. -/
def isOutside (c : Option Char) : Bool := c.any fun c => !mark.contains c

/-- Two free texts are free together if a character that the name lacks stands where they meet. -/
theorem free_append {a b : String} (ha : Free a.toList) (hb : Free b.toList)
    (h : isOutside a.toList.getLast? = true ∨ isOutside b.toList.head? = true) : Free (a ++ b).toList := by
  rw [String.toList_append]
  rcases h with h | h
  · obtain ⟨c, hc, hout⟩ := (Option.any_eq_true _ _).1 h
    obtain ⟨front, hfront⟩ := List.getLast?_eq_some_iff.1 hc
    have hout : c ∉ mark := by simpa using hout
    rw [hfront] at ha ⊢
    rw [List.append_assoc, List.singleton_append]
    exact free_append_cons hout (ha.of_infix (List.prefix_append front [c]).isInfix) hb
  · obtain ⟨c, hc, hout⟩ := (Option.any_eq_true _ _).1 h
    obtain ⟨rest, hrest⟩ := List.head?_eq_some_iff.1 hc
    have hout : c ∉ mark := by simpa using hout
    rw [hrest] at hb ⊢
    exact free_append_cons hout ha (hb.of_infix (List.suffix_cons c rest).isInfix)

/-- Two free texts are free around a third one whose outer characters the name lacks. -/
theorem free_around {a b : String} (between : String) (ha : Free a.toList) (hb : Free b.toList)
    (hbetween : Free between.toList) (hfirst : isOutside between.toList.head? = true)
    (hlast : isOutside between.toList.getLast? = true) : Free (a ++ between ++ b).toList := by
  have hend : isOutside (a ++ between).toList.getLast? = true := by
    obtain ⟨c, hc, hout⟩ := (Option.any_eq_true _ _).1 hlast
    rw [String.toList_append, List.getLast?_append, hc]
    exact hout
  exact free_append (free_append ha hbetween (.inr hfirst)) hb (.inl hend)

theorem free_quoted {text : String} (h : Free text.toList) : Free (quoted text).toList := by
  have hquote : Free "\"".toList := by decide
  exact free_append (free_append hquote h (.inl rfl)) hquote (.inr rfl)

/-! ## Quoting -/

/-- What can stand behind the backslash of an escaped character. -/
def escapeChars : List Char := "\"\\nrtu0123456789ABCDEF".toList

theorem escaped_cases (c : Char) :
    escaped c = [c] ∨ ∃ rest, escaped c = '\\' :: rest ∧ ∀ d ∈ rest, d ∈ escapeChars := by
  have digit : ∀ k < 16, Text.upperAscii (Text.digitChar k) ∈ escapeChars := by decide
  unfold escaped
  split
  · exact .inr ⟨_, rfl, by decide⟩
  split
  · exact .inr ⟨_, rfl, by decide⟩
  split
  · exact .inr ⟨_, rfl, by decide⟩
  split
  · exact .inr ⟨_, rfl, by decide⟩
  split
  · exact .inr ⟨_, rfl, by decide⟩
  split
  · refine .inr ⟨_, rfl, List.forall_mem_cons.2 ⟨by decide, List.forall_mem_map.2 fun e he => ?_⟩⟩
    obtain ⟨k, hk, rfl⟩ := Text.mem_hexadecimal he
    exact digit k hk
  · exact .inl rfl

/-- Quotes add no characters but those of escapes. -/
theorem not_mem_doubleQuoted {d : Char} (hd : d ∉ '\\' :: escapeChars) (h : d ∉ s) : d ∉ doubleQuoted s := by
  have hquote : d ≠ '"' := by
    rintro rfl
    exact hd (by decide)
  have hinner : d ∉ s.flatMap escaped := by
    rw [List.mem_flatMap]
    rintro ⟨c, hc, hmem⟩
    rcases escaped_cases c with hkept | ⟨rest, hescaped, hrest⟩
    · rw [hkept, List.mem_singleton] at hmem
      exact h (hmem ▸ hc)
    · rw [hescaped] at hmem
      rcases List.mem_cons.1 hmem with rfl | hmem
      · exact hd List.mem_cons_self
      · exact hd (List.mem_cons_of_mem _ (hrest d hmem))
  simp [doubleQuoted, hquote, hinner]

theorem not_mem_quote {d : Char} (hd : d ∉ '\\' :: escapeChars) (h : d ∉ s) : d ∉ quote s := by
  unfold quote
  split
  · exact h
  split
  · exact not_mem_doubleQuoted hd h
  · exact h

/-- A pattern without backslashes in front of an escaped text stands in front of the text. -/
theorem prefix_of_prefix_escaped {p : List Char} (hp : '\\' ∉ p) (h : p <+: s.flatMap escaped) :
    p <+: s := by
  induction s generalizing p with
  | nil => exact h
  | cons d s ih =>
    rw [List.flatMap_cons] at h
    rcases escaped_cases d with hd | ⟨rest, hd, -⟩
    · rw [hd, List.singleton_append] at h
      rcases List.prefix_cons_iff.1 h with rfl | ⟨more, rfl, hmore⟩
      · exact List.nil_prefix
      · exact List.cons_prefix_cons.2 ⟨rfl, ih (fun hm => hp (List.mem_cons_of_mem d hm)) hmore⟩
    · rw [hd, List.cons_append] at h
      rcases List.prefix_cons_iff.1 h with rfl | ⟨more, rfl, -⟩
      · exact List.nil_prefix
      · exact absurd List.mem_cons_self hp

theorem free_flatMap_escaped (h : Free s) : Free (s.flatMap escaped) := by
  induction s with
  | nil => exact h
  | cons d s ih =>
    have hs : Free s := h.of_infix (List.suffix_cons d s).isInfix
    intro hm
    have hprefix : mark <+: (d :: s).flatMap escaped → False := fun hp =>
      h (prefix_of_prefix_escaped (by decide) hp).isInfix
    rw [List.flatMap_cons] at hm hprefix
    rcases escaped_cases d with hd | ⟨rest, hd, hrest⟩
    · rw [hd, List.singleton_append] at hm hprefix
      rcases List.infix_cons_iff.1 hm with hm | hm
      · exact hprefix hm
      · exact ih hs hm
    · rw [hd] at hm
      have hdot : '.' ∉ '\\' :: rest := by
        rw [List.mem_cons, not_or]
        exact ⟨by decide, fun hmem => absurd (hrest '.' hmem) (by decide)⟩
      exact ih hs (infix_of_append hdot hm)

theorem free_doubleQuoted (h : Free s) : Free (doubleQuoted s) :=
  free_concat (by decide) (free_cons (by decide) (free_flatMap_escaped h))

/-- Quoting makes no name. -/
theorem free_quote (h : Free s) : Free (quote s) := by
  unfold quote
  split
  · exact h
  · split
    · exact free_doubleQuoted h
    · exact h

theorem free_quoteLiteral (h : Free s) : Free (quoteLiteral s) := by
  unfold quoteLiteral
  split
  · exact free_doubleQuoted h
  · exact h

/-! ## Names and numbers -/

theorem free_of_isStep {name : String} (h : IsStep name) : Free name.toList :=
  free_of_not_mem (c := '.') (by decide) (dot_not_mem h)

theorem dot_not_mem_decimal (n : Nat) : '.' ∉ Text.decimal n :=
  fun h => absurd (Yaml.isDigit_decimal h) (by decide)

theorem dot_not_mem_decimalInt (z : Int) : '.' ∉ Text.decimalInt z :=
  fun h => (Yaml.mem_decimalInt h).elim (absurd · (by decide)) (absurd · (by decide))

theorem dot_not_mem_digits (n : Nat) : '.' ∉ (digits n).toList := by
  rw [digits, String.toList_ofList]
  exact dot_not_mem_decimal n

/-- A float has no letters but those of the exponent and of what is no finite number. -/
theorem free_floatText (x : Decimal.Binary64) : Free (Yaml.Value.floatText x).toList := by
  have hdigit : ∀ n, 'V' ∉ Text.decimal n := fun n h => absurd (Yaml.isDigit_decimal h) (by decide)
  have hint : ∀ z, 'V' ∉ Text.decimalInt z := fun z h =>
    (Yaml.mem_decimalInt h).elim (absurd · (by decide)) (absurd · (by decide))
  have hexponent : ∀ e, 'V' ∉ Yaml.Value.floatFormat.exponent e := by
    intro e
    unfold Decimal.Format.exponent
    split
    · simp [hint]
    · simp [hint, Yaml.Value.floatFormat]
  -- only digits, a point and an exponent are written, whatever the size of the number
  have htext : ∀ d, 'V' ∉ Yaml.Value.floatFormat.decimalText d := by
    intro d
    have hd := hdigit d.coefficient
    unfold Decimal.Format.decimalText
    simp only
    split
    · simp [hd]
    split
    · simp only [List.mem_append, List.mem_cons]
      rintro (h | h | h)
      · exact hd (List.mem_of_mem_take h)
      · exact absurd h (by decide)
      · exact hd (List.mem_of_mem_drop h)
    split
    · simp [hd]
    split
    · exact List.not_mem_nil
    · next h =>
      rw [h] at hd
      simp only [List.mem_singleton] at hd
      simp [hd, hexponent]
    · next h =>
      rw [h] at hd
      simp only [List.mem_cons, not_or] at hd
      simp [hd.1, hd.2, hexponent]
  -- every path of the values has a capital V, which no number has
  refine free_of_not_mem (c := 'V') (by decide) ?_
  unfold Yaml.Value.floatText Decimal.Format.text
  cases x with
  | nan => decide
  | infinite negative => cases negative <;> decide
  | finite negative m e =>
    simp only [String.toList_ofList]
    have hbody : 'V' ∉ if m = 0 then ['0', '.', '0']
        else Yaml.Value.floatFormat.decimalText (Decimal.shortest m e) := by
      split
      · decide
      · exact htext _
    cases negative with
    | false => exact hbody
    | true => exact fun h => (List.mem_cons.1 h).elim (absurd · (by decide)) hbody

/-! ## Conversions -/

theorem free_base64 (s : String) : Free (base64 s).toList := by
  rw [base64, String.toList_ofList]
  exact free_of_not_mem (c := '.') (by decide) (Base64.not_mem_encode (by decide) _)

/-- Capital letters are free of the name, which has small ones. -/
theorem free_upper (s : List Char) : Free (Text.upper s) :=
  free_of_not_mem (c := 'a') (by decide) fun h => absurd (Text.not_small_of_mem_upper h) (by decide)

theorem infix_of_infix_join {p : List Char} (hc : c ∉ p) (hp : p ≠ []) {parts : List (List Char)}
    (h : p <:+: Text.join [c] parts) : ∃ part ∈ parts, p <:+: part := by
  fun_induction Text.join [c] parts with
  | case1 => exact absurd (List.infix_nil.1 h) hp
  | case2 part => exact ⟨part, List.mem_singleton_self part, h⟩
  | case3 part parts _ ih =>
    rw [List.append_assoc, List.singleton_append] at h
    rcases infix_append_cons hc h with h | h
    · exact ⟨part, List.mem_cons_self, h⟩
    · obtain ⟨other, hother, h⟩ := ih h
      exact ⟨other, List.mem_cons_of_mem part hother, h⟩

theorem capital_not_mem_map_lowerAscii (s : List Char) : 'V' ∉ s.map Text.lowerAscii := by
  intro h
  obtain ⟨c, -, hc⟩ := List.mem_map.1 h
  have hsmall : Text.lowerAscii 'V' = 'V' := by rw [← hc, Text.lowerAscii_lowerAscii]
  exact absurd hsmall (by decide)

/-- In the usual form of a header name, a capital stands at the beginning of a part and not behind a
dot. -/
theorem free_canonicalHeader (name : List Char) : Free (Pod.canonicalHeader name) := by
  intro h
  obtain ⟨part, hpart, h⟩ := infix_of_infix_join (by decide) (by decide) h
  obtain ⟨letters, -, rfl⟩ := List.mem_map.1 hpart
  cases letters with
  | nil => exact absurd (List.infix_nil.1 h) (by decide)
  | cons c rest =>
    have hrest : 'V' ∈ rest.map Text.lowerAscii := by
      rcases List.infix_cons_iff.1 h with h | h
      · obtain ⟨-, h⟩ := List.cons_prefix_cons.1 h
        exact h.subset (List.mem_cons_self)
      · exact h.subset (by decide)
    exact capital_not_mem_map_lowerAscii rest hrest

/-! ## Port names and hashes -/

theorem dot_not_mem_hex (bytes : List UInt8) : '.' ∉ Blake3.hex bytes := fun h =>
  absurd (Port.isPortChar_of_mem_hex h) (by decide)

theorem dot_not_mem_of_rangePrefix? {name base : List Char} {count : Nat}
    (h : Port.rangePrefix? name count = some base) : '.' ∉ base := fun hm =>
  absurd (Port.isPortChar_of_rangePrefix? h '.' hm) (by decide)

theorem dot_not_mem_of_named? {name : List Char} {first last : Nat} {ports : List Port.Named}
    (h : Port.named? name first last = some ports) : ∀ port ∈ ports, '.' ∉ port.name := fun port hport hm =>
  absurd (Port.isPortChar_of_named? h port hport '.' hm) (by decide)

end RoleChart.Template
