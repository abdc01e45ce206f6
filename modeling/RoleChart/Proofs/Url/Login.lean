import RoleChart.Proofs.Bytes
import RoleChart.Url.Basic

/-!
# Logins in URLs

A user and a password are percent-encoded in a URL, each in one of several ways. Reading a URL keeps them
in the form in which they stand there.

## Main statements

* `encodes_encode` — every text has an encoded form
* `Encodes.eq_of_length_le` — a form that is as short as its text is the text
* `login?_append` — a login is cut off as it stands
* `ofText_of_login` — what is read of a URL with a login
-/

namespace RoleChart.Url

open Text

/-! ## Percent encoding -/

theorem decode_cons {c : Char} (h : c ≠ '%') (rest : List Char) :
    decode (c :: rest) = bytes (String.singleton c) ++ decode rest := by
  rw [decode]
  · intro a b r e
    exact absurd e h

theorem decode_of_not_mem {s : List Char} (h : '%' ∉ s) : decode s = bytes (String.ofList s) := by
  induction s with
  | nil => simp [decode]
  | cons c s ih =>
    rw [List.mem_cons, not_or] at h
    rw [decode_cons (Ne.symm h.1), ih h.2, bytes_singleton, bytes_ofList, bytes_ofList, List.flatMap_cons]

theorem decode_flatMap_encodeByte (bs : List UInt8) (rest : List Char) :
    decode (bs.flatMap encodeByte ++ rest) = bs ++ decode rest := by
  induction bs with
  | nil => rfl
  | cons b bs ih => rw [List.flatMap_cons, List.append_assoc, decode_encodeByte, ih, List.cons_append]

/-- Encoding is undone if it covers the percent sign. -/
theorem decode_encode {set : List Char} (h : '%' ∈ set) (s : List Char) :
    decode (encode set s) = bytes (String.ofList s) := by
  rw [bytes_ofList]
  induction s with
  | nil => rfl
  | cons c s ih =>
    rw [encode, List.flatMap_cons, List.flatMap_cons]
    change decode (_ ++ encode set s) = _
    split
    · next hc =>
      have hne : c ≠ '%' := fun e => hc.2.2 (e.symm ▸ h)
      rw [List.singleton_append, decode_cons hne, ih, bytes_singleton]
    · rw [decode_flatMap_encodeByte, ih, bytes_singleton]

/-- Whether a part of a URL holds a character as it is. -/
def IsKept (set : List Char) (c : Char) : Prop := 0x20 ≤ c.toNat ∧ c.toNat < 0x7F ∧ c ∉ set

instance (set : List Char) (c : Char) : Decidable (IsKept set c) := inferInstanceAs (Decidable (_ ∧ _ ∧ _))

theorem encode_cons (set : List Char) (c : Char) (s : List Char) :
    encode set (c :: s) = (if IsKept set c then [c] else (String.utf8EncodeChar c).flatMap encodeByte)
      ++ encode set s := by
  rw [encode, List.flatMap_cons, bytes_singleton]
  rfl

/-- Whether a text does not begin with the digits of an encoded byte. -/
def IsNoCode (s : List Char) : Prop :=
  ∀ a b rest, s = a :: b :: rest → hexValue? a = none ∨ hexValue? b = none

theorem decode_percent {s : List Char} (h : IsNoCode s) : decode ('%' :: s) = 0x25 :: decode s := by
  have hmark : bytes "%" = [0x25] := by decide +kernel
  match s, h with
  | [], _ => simp [decode, hmark]
  | [a], _ => simp [decode, hmark]
  | a :: b :: rest, h =>
    rw [decode]
    rcases h a b rest rfl with ha | hb
    · rw [ha]
    · rw [hb]
      cases hexValue? a <;> rfl

theorem head_flatMap_encodeByte (c : Char) :
    ∃ rest, (String.utf8EncodeChar c).flatMap encodeByte = '%' :: rest := by
  obtain ⟨b, bs, h⟩ := List.exists_cons_of_ne_nil (@String.utf8EncodeChar_ne_nil c)
  exact ⟨_, by rw [h, List.flatMap_cons, encodeByte, List.cons_append]⟩

/-- What does not begin with the digits of a byte does not do so once it is encoded. -/
theorem IsNoCode.encode {s : List Char} (h : IsNoCode s) (set : List Char) : IsNoCode (encode set s) := by
  have hmark : hexValue? '%' = none := by decide
  intro a b rest e
  cases s with
  | nil => simp [Url.encode] at e
  | cons c s =>
    rw [encode_cons] at e
    split at e
    · obtain ⟨rfl, hnext⟩ : c = a ∧ Url.encode set s = b :: rest := List.cons.inj e
      cases s with
      | nil => simp [Url.encode] at hnext
      | cons d s =>
        refine (h c d s rfl).imp id fun hd => ?_
        rw [encode_cons] at hnext
        split at hnext
        · obtain ⟨rfl, -⟩ := List.cons.inj hnext
          exact hd
        · obtain ⟨more, hmore⟩ := head_flatMap_encodeByte d
          rw [hmore] at hnext
          obtain ⟨rfl, -⟩ := List.cons.inj hnext
          exact hmark
    · obtain ⟨more, hmore⟩ := head_flatMap_encodeByte c
      rw [hmore] at e
      obtain ⟨rfl, -⟩ := List.cons.inj e
      exact .inl hmark

/-- Encoding a form once more changes no byte of what it stands for, as long as percent signs and digits
are kept. -/
theorem decode_encode_kept {set : List Char} (hmark : IsKept set '%')
    (hdigit : ∀ c n, hexValue? c = some n → IsKept set c) (s : List Char) :
    decode (encode set s) = decode s := by
  fun_induction decode s with
  | case1 a b rest high low hb ha ih =>
    rw [encode_cons, if_pos hmark, encode_cons, if_pos (hdigit a high ha), encode_cons,
      if_pos (hdigit b low hb)]
    simp [decode, ha, hb, ih]
  | case2 a b rest hab ih =>
    -- a percent sign without two digits behind it is no code, and gets none by encoding
    have hno : IsNoCode (a :: b :: rest) := by
      rintro c d more ⟨⟩
      cases ha : hexValue? a with
      | none => exact .inl rfl
      | some high =>
        cases hb : hexValue? b with
        | none => exact .inr rfl
        | some low => exact absurd hb (hab high low ha)
    rw [encode_cons, if_pos hmark, List.singleton_append, decode_percent (hno.encode set), ih]
  | case3 => rfl
  | case4 c rest hc ih =>
    rw [encode_cons]
    split
    · by_cases hp : c = '%'
      · have hno : IsNoCode rest := fun a b more e => absurd e (hc a b more hp)
        have hbyte : bytes (String.singleton '%') = [0x25] := by rw [bytes_singleton]; decide
        rw [hp, List.singleton_append, decode_percent (hno.encode set), ih, hbyte, List.singleton_append]
      · rw [List.singleton_append, decode_cons hp, ih]
    · rw [decode_flatMap_encodeByte, ih, bytes_singleton]

/-- Whether a character can stand in a user or a password in a URL: it neither ends the one or the other nor
is dropped. -/
def InLogin (c : Char) : Prop :=
  0x20 < c.toNat ∧ c.toNat < 0x7F ∧ c ∉ ['#', '/', ':', '?', '@', '\\']

instance (c : Char) : Decidable (InLogin c) := inferInstanceAs (Decidable (_ ∧ _ ∧ _))

/-- Whether a form stands for a text in the login of a URL: all of its characters can stand there, and
decoded they are the text. -/
structure Encodes (form text : String) : Prop where
  held : ∀ c ∈ form.toList, InLogin c
  decoded : decode form.toList = bytes text

instance (form text : String) : Decidable (Encodes form text) :=
  decidable_of_iff ((∀ c ∈ form.toList, InLogin c) ∧ decode form.toList = bytes text)
    ⟨fun h => ⟨h.1, h.2⟩, fun h => ⟨h.held, h.decoded⟩⟩

/-- Decoding makes a text no longer, and keeps it if it makes it no shorter. -/
theorem length_decode_le {s : List Char} (h : ∀ c ∈ s, c.toNat < 0x80) :
    (decode s).length ≤ s.length ∧
      (s.length ≤ (decode s).length → decode s = bytes (String.ofList s)) := by
  have hone {c : Char} (hc : c.toNat < 0x80) : (String.utf8EncodeChar c).length = 1 := by
    rw [String.length_utf8EncodeChar]
    have hval : c.val.toNat ≤ 127 := Nat.le_of_lt_succ hc
    exact Char.utf8Size_eq_one_iff.2 (UInt32.le_iff_toNat_le.2 hval)
  fun_induction decode s with
  | case1 a b rest high low ha hb ih =>
    -- a code has one byte for three characters, so such a text does not keep its length
    have hrest := (ih fun c hc => h c (by simp [hc])).1
    simp only [List.length_cons]
    exact ⟨by omega, by omega⟩
  | case2 a b rest hab ih =>
    obtain ⟨hle, heq⟩ := ih fun c hc => h c (List.mem_cons_of_mem _ hc)
    have hmark : String.utf8EncodeChar '%' = [0x25] := by decide
    rw [bytes_ofList] at heq ⊢
    rw [List.flatMap_cons, hmark]
    simp only [List.length_cons, List.singleton_append] at hle heq ⊢
    exact ⟨by omega, fun hlen => congrArg _ (heq (by omega))⟩
  | case3 => simp
  | case4 c rest hc ih =>
    obtain ⟨hle, heq⟩ := ih fun d hd => h d (List.mem_cons_of_mem _ hd)
    rw [bytes_ofList] at heq ⊢
    rw [List.flatMap_cons, bytes_singleton]
    simp only [List.length_append, List.length_cons, hone (h c List.mem_cons_self)] at hle ⊢
    exact ⟨by omega, fun hlen => congrArg _ (heq (by omega))⟩

/-- A form that is as short as its text is the text. -/
theorem Encodes.eq_of_length_le {form text : String} (h : Encodes form text)
    (hle : form.toList.length ≤ text.toList.length) : form = text := by
  obtain ⟨-, heq⟩ := length_decode_le fun c hc => Nat.lt_succ_of_lt (h.held c hc).2.1
  have hbytes := length_le_bytes text.toList
  rw [String.ofList_toList, ← h.decoded] at hbytes
  have e := heq (by omega)
  rw [h.decoded, String.ofList_toList] at e
  exact (bytes_inj e).symm

theorem Encodes.length_le {form text : String} (h : Encodes form text) :
    text.toList.length ≤ form.toList.length := by
  obtain ⟨hle, -⟩ := length_decode_le fun c hc => Nat.lt_succ_of_lt (h.held c hc).2.1
  have hbytes := length_le_bytes text.toList
  rw [String.ofList_toList, ← h.decoded] at hbytes
  omega

theorem Encodes.ne_empty {form text : String} (h : Encodes form text) (hne : text ≠ "") : form ≠ "" := by
  rintro rfl
  have hle := h.length_le
  rw [String.toList_empty, List.length_nil, Nat.le_zero, List.length_eq_zero_iff] at hle
  exact hne (String.toList_inj.1 hle)

/-- The form in which a URL keeps a part of its login. -/
def loginForm (form : String) : String := String.ofList (encode userSet form.toList)

theorem loginForm_eq_empty_iff (form : String) : loginForm form = "" ↔ form = "" := by
  rw [← String.toList_inj, ← String.toList_inj, loginForm, String.toList_ofList, String.toList_empty]
  constructor
  · intro h
    cases hform : form.toList with
    | nil => rfl
    | cons c rest =>
      rw [hform, encode_cons, List.append_eq_nil_iff] at h
      obtain ⟨more, hmore⟩ := head_flatMap_encodeByte c
      rw [hmore] at h
      split at h
      · exact absurd h.1 (List.cons_ne_nil _ _)
      · exact absurd h.1 (List.cons_ne_nil _ _)
  · intro h
    rw [h]
    rfl

theorem inLogin_encode {set : List Char} (hset : ['#', '/', ':', '?', '@', '\\', ' '] ⊆ set) (s : List Char) :
    ∀ c ∈ encode set s, InLogin c := by
  intro c hc
  obtain ⟨d, hd, hc⟩ := List.mem_flatMap.1 hc
  split at hc
  · next hkept =>
    obtain rfl := List.mem_singleton.1 hc
    have hno : c ∉ ['#', '/', ':', '?', '@', '\\', ' '] := fun hmem => hkept.2.2 (hset hmem)
    have hspace : c.toNat ≠ 0x20 := by
      intro e
      obtain rfl : c = ' ' := Char.toNat_inj.1 e
      exact hno (by decide)
    have hle := hkept.1
    refine ⟨by omega, hkept.2.1, fun hmem => hno ?_⟩
    exact List.mem_append_left [' '] hmem
  · obtain ⟨b, -, hc⟩ := List.mem_flatMap.1 hc
    have all : ∀ n : Fin 256, ∀ c ∈ encodeByte (UInt8.ofNat n.val), InLogin c := by decide +kernel
    have hb := all ⟨b.toNat, b.toNat_lt⟩
    rw [UInt8.ofNat_toNat] at hb
    exact hb c hc

/-- Every text has a form, for every set of characters to encode that is large enough. -/
theorem encodes_encode {set : List Char} (hmark : '%' ∈ set)
    (hset : ['#', '/', ':', '?', '@', '\\', ' '] ⊆ set) (text : String) :
    Encodes (String.ofList (encode set text.toList)) text := by
  constructor
  · rw [String.toList_ofList]
    exact inLogin_encode hset _
  · rw [String.toList_ofList, decode_encode hmark, String.ofList_toList]

theorem isKept_of_hexValue? {c : Char} {n : Nat} (h : hexValue? c = some n) : IsKept userSet c := by
  have all : ∀ k < 0x80, (hexValue? (Char.ofNat k)).isSome = true → IsKept userSet (Char.ofNat k) := by
    decide +kernel
  have hascii : c.toNat < 0x80 := by
    unfold hexValue? at h
    grind
  exact of_toNat_lt (p := fun c => (hexValue? c).isSome = true → IsKept userSet c) all hascii (by rw [h]; rfl)

/-- What a URL keeps of a form stands for the same text. -/
theorem Encodes.loginForm {form text : String} (h : Encodes form text) : Encodes (loginForm form) text := by
  constructor
  · rw [Url.loginForm, String.toList_ofList]
    exact inLogin_encode (by decide) _
  · rw [Url.loginForm, String.toList_ofList,
      decode_encode_kept (by decide) fun _ _ => isKept_of_hexValue?, h.decoded]

/-! ## Reading a login -/

theorem labelText?_of_basic {label : List Char} (hbasic : label.all Punycode.isBasic = true)
    (hmark : dropPrefix? Domain.punycodeMark label = none) : Domain.labelText? label = some label := by
  simp only [Domain.labelText?, hmark, Domain.isLabel, hbasic, Bool.true_or, if_true]

/-- A name that no part of the reading of hosts changes. -/
theorem host_example : host "example.com".toList = .ok "example.com".toList := by
  have hdecode : decode "example.com".toList = bytes "example.com" := by
    rw [decode_of_not_mem (by decide), String.ofList_toList]
  have hform : Domain.normalForm? "example.com".toList = some "example.com".toList := by
    rw [Domain.normalForm?_of_ascii _ (by decide)]
    rfl
  have hlabels : (splitOn '.' "example.com".toList).mapM Domain.labelText?
      = some ["example".toList, "com".toList] := by
    have hsplit : splitOn '.' "example.com".toList = ["example".toList, "com".toList] := by decide
    rw [hsplit, List.mapM_cons, labelText?_of_basic (by decide) (by decide), List.mapM_cons,
      labelText?_of_basic (by decide) (by decide)]
    rfl
  have hdomain : asciiDomain? (bytes "example.com") = some "example.com".toList := by
    have hright : ["example".toList, "com".toList].any Domain.hasRightLetters = false := by decide +kernel
    simp only [asciiDomain?, fromUTF8?_bytes, Option.bind_eq_bind, Option.bind_some, hform, hlabels,
      hright, Bool.false_and]
    decide
  rw [host, if_neg (by decide), hdecode, hdomain]
  rfl

/-- A login is cut off as it stands. -/
theorem login?_append {user password rest : List Char} (hu : ∀ c ∈ user, InLogin c)
    (hp : ∀ c ∈ password, InLogin c) (hrest : '@' ∉ rest.takeWhile (!endsAuthority true ·)) :
    login? true (user ++ ':' :: (password ++ '@' :: rest))
      = .ok ({ username := encode userSet user
               password := if password.isEmpty then none else some (encode userSet password) }, rest) := by
  have hinside : ∀ c ∈ user ++ ':' :: (password ++ ['@']), (!endsAuthority true c) = true := by
    have hends (c : Char) (hc : InLogin c) : (!endsAuthority true c) = true := by
      obtain ⟨-, -, hno⟩ := hc
      simp only [List.mem_cons, List.not_mem_nil, or_false, not_or] at hno
      simp [endsAuthority, hno]
    simp only [List.mem_append, List.mem_cons, List.not_mem_nil, or_false]
    rintro c (hc | rfl | hc | rfl)
    · exact hends c (hu c hc)
    · decide
    · exact hends c (hp c hc)
    · decide
  have hshape : user ++ ':' :: (password ++ '@' :: rest)
      = (user ++ ':' :: (password ++ ['@'])) ++ rest := by simp
  -- the authority goes on to the end of the host, with the login in front
  have htake : (user ++ ':' :: (password ++ '@' :: rest)).takeWhile (!endsAuthority true ·)
      = (user ++ ':' :: (password ++ ['@'])) ++ rest.takeWhile (!endsAuthority true ·) := by
    rw [hshape, List.takeWhile_append_of_pos hinside]
  -- its last at sign ends the login, and the first colon in that ends the user
  have hat : splitOnce '@' ((user ++ ':' :: (password ++ ['@'])) ++
      rest.takeWhile (!endsAuthority true ·)).reverse
      = some ((rest.takeWhile (!endsAuthority true ·)).reverse, (user ++ ':' :: password).reverse) := by
    rw [splitOnce_eq_some_iff]
    exact ⟨by simp, by simpa using hrest⟩
  have hcolon : splitOnce ':' (user ++ ':' :: password) = some (user, password) := by
    rw [splitOnce_eq_some_iff]
    have hnot : ':' ∉ user := fun hmem => (hu ':' hmem).2.2 (by decide)
    exact ⟨rfl, hnot⟩
  have hbehind : (user ++ ':' :: (password ++ '@' :: rest)).drop
      ((user ++ ':' :: (password ++ ['@'])) ++ rest.takeWhile (!endsAuthority true ·)).length
      = rest.drop (rest.takeWhile (!endsAuthority true ·)).length := by
    rw [hshape, List.length_append, List.drop_append, List.drop_eq_nil_of_le (by omega)]
    simp
  have hwhole : rest.takeWhile (!endsAuthority true ·)
      ++ rest.drop (rest.takeWhile (!endsAuthority true ·)).length = rest :=
    List.prefix_iff_eq_append.1 (List.takeWhile_prefix _)
  simp only [login?, htake, hat, hbehind]
  split
  · simp_all
  · simp_all
  · next login hlogin heq =>
    obtain ⟨rfl, rfl⟩ := Prod.mk.inj (Option.some.inj heq)
    simp only [List.reverse_reverse, hcolon, hwhole]

/-- A text without blanks and line breaks is read as it stands. -/
theorem trimmed_of_graphic {s : List Char} (h : ∀ c ∈ s, 0x20 < c.toNat) :
    (trim (·.toNat ≤ 0x20) s).filter (!isLineBreak ·) = s := by
  have hno : ∀ l ⊆ s, l.dropWhile (·.toNat ≤ 0x20) = l := by
    intro l hl
    cases l with
    | nil => rfl
    | cons c l =>
      have hc := h c (hl List.mem_cons_self)
      exact List.dropWhile_cons_of_neg (by simpa using hc)
  rw [trim, trimEnd, hno s (List.Subset.refl s), hno s.reverse (by simp), List.reverse_reverse]
  refine List.filter_eq_self.2 fun c hc => ?_
  have hgraphic := h c hc
  simp only [isLineBreak, Bool.not_eq_true', Bool.or_eq_false_iff, beq_eq_false_iff_ne]
  refine ⟨⟨?_, ?_⟩, ?_⟩
  · rintro rfl
    exact absurd hgraphic (by decide)
  · rintro rfl
    exact absurd hgraphic (by decide)
  · rintro rfl
    exact absurd hgraphic (by decide)

/-- The address of a host with a login. A password without characters is none. -/
def exampleAddress (user password : String) : WebAddress where
  username := user
  password := if password = "" then none else some password
  host := "example.com"
  path := "/"

/-- What is read of a URL with a login and no more than a host behind it. -/
theorem ofText_of_login {user password : String} (hu : ∀ c ∈ user.toList, InLogin c)
    (hp : ∀ c ∈ password.toList, InLogin c) :
    Locator.ofText ("http://" ++ user ++ ":" ++ password ++ "@example.com/")
      = .ok (.web false (exampleAddress (loginForm user) (loginForm password))) := by
  have hchars : ("http://" ++ user ++ ":" ++ password ++ "@example.com/").toList
      = "http:".toList ++ ['/', '/'] ++ (user.toList ++ ':' :: (password.toList ++ '@' :: "example.com/".toList)) := by
    simp
  have hgraphic : ∀ c ∈ "http:".toList ++ ['/', '/']
      ++ (user.toList ++ ':' :: (password.toList ++ '@' :: "example.com/".toList)), 0x20 < c.toNat := by
    simp only [List.mem_append, List.mem_cons]
    rintro c ((hc | hc) | hc | rfl | hc | rfl | hc)
    · exact (by decide : ∀ c ∈ "http:".toList, 0x20 < c.toNat) c hc
    · exact (by decide : ∀ c ∈ ['/', '/'], 0x20 < c.toNat) c (by simpa using hc)
    · exact (hu c hc).1
    · decide
    · exact (hp c hc).1
    · decide
    · exact (by decide : ∀ c ∈ "example.com/".toList, 0x20 < c.toNat) c hc
  have hscheme (rest : List Char) : scheme? ("http:".toList ++ ['/', '/'] ++ rest)
      = some ("http".toList, '/' :: '/' :: rest) := by
    have hsplit : splitOnce ':' ("http:".toList ++ ['/', '/'] ++ rest)
        = some ("http".toList, '/' :: '/' :: rest) := by
      rw [splitOnce_eq_some_iff]
      exact ⟨by simp, by decide⟩
    rw [scheme?, hsplit]
    rfl
  have hslash : ('/' :: '/' :: (user.toList ++ ':' :: (password.toList ++ '@' :: "example.com/".toList))).dropWhile
      isSlash = user.toList ++ ':' :: (password.toList ++ '@' :: "example.com/".toList) := by
    rw [List.dropWhile_cons_of_pos (by decide), List.dropWhile_cons_of_pos (by decide)]
    cases huser : user.toList with
    | nil => exact List.dropWhile_cons_of_neg (by decide)
    | cons c more =>
      obtain ⟨-, -, hno⟩ := hu c (huser ▸ List.mem_cons_self)
      simp only [List.mem_cons, List.not_mem_nil, or_false, not_or] at hno
      exact List.dropWhile_cons_of_neg (by simp [isSlash, hno])
  have hraw : takeHost true false "example.com/".toList = "example.com".toList := by decide
  have hdrop : "example.com/".toList.drop "example.com".toList.length = ['/'] := by decide
  have hpath : path ['/'] = (['/'], []) := by decide
  have hhost : ("example.com".toList).isEmpty = false := by decide
  rw [Locator.ofText, hchars, trimmed_of_graphic hgraphic, hscheme]
  simp only [layoutOf, String.ofList_toList, server, hslash,
    login?_append hu hp (by decide : '@' ∉ "example.com/".toList.takeWhile (!endsAuthority true ·))]
  simp only [bind, Except.bind, pure, Except.pure, hraw, hhost, hdrop, host_example, Bool.false_eq_true,
    if_false, String.ofList_toList]
  change Except.ok (Locator.web false ⟨loginForm user, Option.map String.ofList _, "example.com", none, "/",
    none⟩) = _
  by_cases hempty : password = ""
  · simp [exampleAddress, loginForm_eq_empty_iff, hempty]
  · have hkept : loginForm password ≠ "" := fun h => hempty ((loginForm_eq_empty_iff password).1 h)
    simp only [exampleAddress, if_neg hkept]
    simp [hempty, loginForm]

end RoleChart.Url
