import RoleChart.Pod.Probe

/-!
# Names of headers

The case of a header name has no meaning, so each name is sent in one usual form: it is cut at its dashes, each part
gets a capital in front and small letters behind it, and the parts are put together again. One pass over the whole
name gives the same. There the case of a character hangs on the one in front of it, as if a dash stood in front of
the name, so that the first part and the empty ones need no rule of their own.

## Main statements

* `canonicalHeader_eq_recased` — cutting, changing the parts and joining them is one pass
* `map_lowerAscii_canonicalHeader` — nothing but case is changed
* `canonicalHeader_eq_iff` — the forms of two names are the same exactly if their small letters are
* `canonicalHeader_upToCase` — all of it
-/

namespace RoleChart.Pod

open Text

/-! ## One pass -/

/-- The character in the case that it has behind another one: a capital behind a dash, else a small letter. -/
def recase (before c : Char) : Char := if before = '-' then upperAscii c else lowerAscii c

theorem recase_of_unlettered (before : Char) {c : Char} (h : Unlettered c) : recase before c = c := by
  unfold recase
  split
  · exact h.2
  · exact h.1

theorem lowerAscii_recase (before c : Char) : lowerAscii (recase before c) = lowerAscii c := by
  unfold recase
  split
  · exact lowerAscii_upperAscii c
  · exact lowerAscii_lowerAscii c

theorem recase_lowerAscii (before c : Char) : recase (lowerAscii before) (lowerAscii c) = recase before c := by
  simp only [recase, lowerAscii_eq_iff unlettered_dash, upperAscii_lowerAscii, lowerAscii_lowerAscii]

/-- The text behind a character, each character of it in the case that it has behind the one in front. -/
def recased (before : Char) (s : List Char) : List Char := List.zipWith recase (before :: s) s

theorem recased_cons (before c : Char) (s : List Char) :
    recased before (c :: s) = recase before c :: recased c s := rfl

/-- The pass begins anew behind a dash. -/
theorem recased_append_dash (before : Char) (part rest : List Char) :
    recased before (part ++ '-' :: rest) = recased before part ++ '-' :: recased '-' rest := by
  induction part generalizing before with
  | nil =>
    rw [List.nil_append, recased_cons, recase_of_unlettered before unlettered_dash]
    rfl
  | cons c part ih => rw [List.cons_append, recased_cons, ih, recased_cons, List.cons_append]

theorem recased_of_ne_dash {before : Char} {part : List Char} (hbefore : before ≠ '-') (h : '-' ∉ part) :
    recased before part = part.map lowerAscii := by
  induction part generalizing before with
  | nil => rfl
  | cons c part ih =>
    have hc : c ≠ '-' := (List.ne_of_not_mem_cons h).symm
    rw [recased_cons, ih hc (List.not_mem_of_not_mem_cons h), recase, if_neg hbefore, List.map_cons]

theorem recased_dash_eq_capitalized {part : List Char} (h : '-' ∉ part) : recased '-' part = capitalized part := by
  cases part with
  | nil => rfl
  | cons c part =>
    have hc : c ≠ '-' := (List.ne_of_not_mem_cons h).symm
    rw [recased_cons, recased_of_ne_dash hc (List.not_mem_of_not_mem_cons h), recase, if_pos rfl, capitalized]

theorem join_map_capitalized {parts : List (List Char)} (h : ∀ part ∈ parts, '-' ∉ part) :
    join ['-'] (parts.map capitalized) = recased '-' (join ['-'] parts) := by
  fun_induction join ['-'] parts with
  | case1 => rfl
  | case2 part => exact (recased_dash_eq_capitalized (h part List.mem_cons_self)).symm
  | case3 part parts hparts ih =>
    have hjoin : join ['-'] ((part :: parts).map capitalized)
        = capitalized part ++ '-' :: join ['-'] (parts.map capitalized) := by
      obtain ⟨next, more, rfl⟩ := List.exists_cons_of_ne_nil hparts
      exact List.append_assoc ..
    rw [hjoin, ih fun other hother => h other (List.mem_cons_of_mem part hother), List.append_assoc,
      List.singleton_append, recased_append_dash, recased_dash_eq_capitalized (h part List.mem_cons_self)]

/-- The usual form is made in one pass, as if a dash stood in front of the name. -/
theorem canonicalHeader_eq_recased (name : List Char) : canonicalHeader name = recased '-' name := by
  rw [canonicalHeader, join_map_capitalized fun _ => not_mem_splitOn, join_splitOn]

/-! ## Case and nothing else -/

theorem map_lowerAscii_recased (before : Char) (s : List Char) :
    (recased before s).map lowerAscii = s.map lowerAscii := by
  induction s generalizing before with
  | nil => rfl
  | cons c s ih => rw [recased_cons, List.map_cons, ih, lowerAscii_recase, List.map_cons]

theorem recased_map_lowerAscii (before : Char) (s : List Char) :
    recased (lowerAscii before) (s.map lowerAscii) = recased before s := by
  rw [recased, ← List.map_cons, List.zipWith_map]
  simp only [recase_lowerAscii]
  rfl

/-- Nothing but case is changed. -/
theorem map_lowerAscii_canonicalHeader (name : List Char) :
    (canonicalHeader name).map lowerAscii = name.map lowerAscii := by
  rw [canonicalHeader_eq_recased, map_lowerAscii_recased]

/-- The case that a name has is of no account. -/
theorem canonicalHeader_map_lowerAscii (name : List Char) :
    canonicalHeader (name.map lowerAscii) = canonicalHeader name := by
  rw [canonicalHeader_eq_recased, canonicalHeader_eq_recased]
  exact recased_map_lowerAscii '-' name

theorem canonicalHeader_eq_iff (s t : List Char) :
    canonicalHeader s = canonicalHeader t ↔ s.map lowerAscii = t.map lowerAscii := by
  constructor
  · intro h
    rw [← map_lowerAscii_canonicalHeader, h, map_lowerAscii_canonicalHeader]
  · intro h
    rw [← canonicalHeader_map_lowerAscii, h, canonicalHeader_map_lowerAscii]

/-- What is no letter of ASCII stands where it stood. -/
theorem getElem?_canonicalHeader_eq_some_iff {c : Char} (h : Unlettered c) (name : List Char) (i : Nat) :
    (canonicalHeader name)[i]? = some c ↔ name[i]? = some c := by
  -- small letters hide no such character and make none
  have hlower (s : List Char) : (s.map lowerAscii)[i]? = some c ↔ s[i]? = some c := by
    simp only [List.getElem?_map, Option.map_eq_some_iff, lowerAscii_eq_iff h, exists_eq_right]
  rw [← hlower, map_lowerAscii_canonicalHeader, hlower]

/-- Two names have the same usual form exactly if they are the same in small letters. The usual form of a name is its
own usual form. It is as long as the name, has dashes and all that is not ASCII in the same places and nowhere else,
and each character of it is a capital behind a dash or at the beginning and a small letter elsewhere, if it is a
letter of ASCII at all. -/
theorem canonicalHeader_upToCase (s t : List Char) :
    (canonicalHeader s = canonicalHeader t ↔ s.map lowerAscii = t.map lowerAscii) ∧
      canonicalHeader (canonicalHeader s) = canonicalHeader s ∧
      (canonicalHeader s).length = s.length ∧
      (∀ i : Nat, (canonicalHeader s)[i]? = some '-' ↔ s[i]? = some '-') ∧
      (∀ (i : Nat) (c : Char), 0x80 ≤ c.toNat → ((canonicalHeader s)[i]? = some c ↔ s[i]? = some c)) ∧
      canonicalHeader s = List.zipWith recase ('-' :: s) s := by
  have hsame : (canonicalHeader s).map lowerAscii = s.map lowerAscii := map_lowerAscii_canonicalHeader s
  refine ⟨canonicalHeader_eq_iff s t, (canonicalHeader_eq_iff _ s).2 hsame, ?_, ?_, ?_,
    canonicalHeader_eq_recased s⟩
  · simpa using congrArg List.length hsame
  · exact getElem?_canonicalHeader_eq_some_iff unlettered_dash s
  · intro i c hc
    exact getElem?_canonicalHeader_eq_some_iff (unlettered_of_not_ascii hc) s i

/-- Empty parts at both ends and in the middle, and a part that does not begin in ASCII. -/
theorem canonicalHeader_upToCase_accented :
    "-x--éTAG-".toList.map lowerAscii = "-X--étag-".toList.map lowerAscii ∧
      canonicalHeader "-x--éTAG-".toList = canonicalHeader "-X--étag-".toList ∧
      0x80 ≤ 'é'.toNat ∧
      ((canonicalHeader "-x--éTAG-".toList)[4]? = some 'é' ↔ "-x--éTAG-".toList[4]? = some 'é') ∧
      canonicalHeader "-x--éTAG-".toList = "-X--étag-".toList := by
  have hsame : "-x--éTAG-".toList.map lowerAscii = "-X--étag-".toList.map lowerAscii := by decide
  have hout : 0x80 ≤ 'é'.toNat := by decide
  obtain ⟨heq, -, -, -, hkept, hform⟩ := canonicalHeader_upToCase "-x--éTAG-".toList "-X--étag-".toList
  exact ⟨hsame, heq.2 hsame, hout, hkept 4 'é' hout, hform.trans (by decide)⟩

end RoleChart.Pod
