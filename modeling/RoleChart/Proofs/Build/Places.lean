import RoleChart.Store.Operations

/-!
# Where a path leads

The place that a path leads to can be read off its text: each name goes one down, and the name `..` one up. A
store only decides whether the path can be followed at all.

## Main statements

* `Place.ofPath_joinPath` — a path below another leads on from the place of the other
* `Store.locate_eq_ok` — a path that can be followed leads to the place in its text
* `Place.mem_or_of_mem_through` — no name comes up on the way that was not there before
-/

namespace RoleChart

/-! ## Names of joined paths -/

/-- A separator between two texts separates their parts. -/
theorem Text.splitOn_append_sep (sep : Char) (first second : List Char) :
    splitOn sep (first ++ sep :: second) = splitOn sep first ++ splitOn sep second := by
  induction first with
  | nil => simp [splitOn]
  | cons c first ih =>
    rw [List.cons_append, splitOn, splitOn, ih]
    split
    · rfl
    · cases hparts : splitOn sep first with
      | nil => exact absurd hparts (splitOn_ne_nil sep first)
      | cons part parts => rfl

/-- The names of a joined path are those of its base and those behind it. -/
theorem pathNames_append_slash (base path : String) :
    pathNames (base ++ "/" ++ path) = pathNames base ++ pathNames path := by
  have htext : (base ++ "/" ++ path).toList = base.toList ++ '/' :: path.toList := by simp
  simp only [pathNames, htext, Text.splitOn_append_sep, List.map_append, List.filter_append]

@[simp] theorem pathNames_empty : pathNames "" = [] := rfl

/-- Whether a path is absolute is decided at its beginning. -/
theorem isAbsolute_append {base : String} (h : base ≠ "") (path : String) :
    isAbsolute (base ++ path) = isAbsolute base := by
  obtain ⟨c, rest, hbase⟩ := List.exists_cons_of_ne_nil (l := base.toList) (by simpa using h)
  simp [isAbsolute, hbase]

/-- Whether a path is a single name that goes one down. -/
def IsPlainName (name : String) : Prop := '/' ∉ name.toList ∧ name ∉ ["", ".", ".."]

instance (name : String) : Decidable (IsPlainName name) := inferInstanceAs (Decidable (_ ∧ _))

theorem IsPlainName.isAbsolute {name : String} (h : IsPlainName name) : isAbsolute name = false := by
  rw [RoleChart.isAbsolute, beq_eq_false_iff_ne]
  exact fun hhead => h.1 (List.mem_of_head? hhead)

/-- A plain name is the only name of its path. -/
theorem IsPlainName.pathNames {name : String} (h : IsPlainName name) : pathNames name = [name] := by
  obtain ⟨hslash, hother⟩ := h
  simp only [List.mem_cons, List.not_mem_nil, or_false, not_or] at hother
  simp [RoleChart.pathNames, Text.splitOn_eq_singleton hslash, hother.1, hother.2.1]

/-! ## Places -/

namespace Place

/-- The place that names lead to from a place. -/
def through (place : Place) : List String → Place
  | [] => place
  | name :: rest =>
    if name = ".." then through place.dropLast rest else through (place ++ [name]) rest

/-- The place that a path leads to from the working directory, by its text alone. -/
def ofPath (working : Place) (path : String) : Place :=
  through (if isAbsolute path then [] else working) (pathNames path)

theorem through_append (place : Place) (names more : List String) :
    place.through (names ++ more) = (place.through names).through more := by
  induction names generalizing place with
  | nil => rfl
  | cons name names ih =>
    simp only [List.cons_append, through]
    split <;> exact ih _

/-- A path below another leads on from where the other leads to. -/
theorem ofPath_joinPath (working : Place) (base path : String) :
    ofPath working (joinPath base path) = ofPath (ofPath working base) path := by
  unfold joinPath
  split
  · next hstays =>
    cases hpath : isAbsolute path with
    | true => simp [ofPath, hpath]
    | false =>
      have hbase : base = "" := by simpa [hpath] using hstays
      simp [hbase, ofPath, isAbsolute, through]
  · next hgoes =>
    simp only [Bool.or_eq_true, String.isEmpty_iff, not_or, Bool.not_eq_true] at hgoes
    obtain ⟨hpath, hbase⟩ := hgoes
    -- the names are those of the base and then those of the path, whether the base ends with a slash or not
    have hnames : pathNames (if Text.endsWith '/' base.toList then base ++ path else base ++ "/" ++ path)
        = pathNames base ++ pathNames path := by
      split
      · next hends =>
        have hlast : base.toList.getLast? = some '/' := by simpa [Text.endsWith] using hends
        obtain ⟨front, hfront⟩ := List.getLast?_eq_some_iff.1 hlast
        have hsplit : base = String.ofList front ++ "/" := by
          rw [← String.toList_inj, hfront, String.toList_append, String.toList_ofList]
          rfl
        rw [hsplit, pathNames_append_slash, ← String.append_empty (s := String.ofList front ++ "/"),
          pathNames_append_slash, pathNames_empty, List.append_nil]
      · exact pathNames_append_slash base path
    have habsolute : isAbsolute (if Text.endsWith '/' base.toList then base ++ path else base ++ "/" ++ path)
        = isAbsolute base := by
      split
      · exact isAbsolute_append hbase path
      · rw [String.append_assoc, isAbsolute_append hbase]
    rw [ofPath, habsolute, hnames, through_append]
    simp [ofPath, hpath]

/-- A name of a place comes from the place before or from the names on the way. -/
theorem mem_or_of_mem_through {place : Place} {names : List String} {name : String}
    (h : name ∈ place.through names) : name ∈ place ∨ name ∈ names := by
  induction names generalizing place with
  | nil => exact .inl h
  | cons next names ih =>
    rw [through] at h
    split at h
    · rcases ih h with h | h
      · exact .inl (List.dropLast_subset place h)
      · exact .inr (List.mem_cons_of_mem next h)
    · rcases ih h with h | h
      · rcases List.mem_append.1 h with h | h
        · exact .inl h
        · exact .inr (List.mem_singleton.1 h ▸ List.mem_cons_self)
      · exact .inr (List.mem_cons_of_mem next h)

/-- A plain name leads one step down from the working directory. -/
theorem ofPath_of_isPlainName (working : Place) {name : String} (h : IsPlainName name) :
    ofPath working name = working ++ [name] := by
  have hup : name ≠ ".." := by
    rintro rfl
    exact h.2 (by decide)
  rw [ofPath, h.isAbsolute, h.pathNames, through, if_neg hup]
  rfl

end Place

/-! ## Following paths in a store -/

namespace Store

variable {s t : Store}

/-- A name can be followed from a directory only: up, whatever it is, or down, if the name is not too long. -/
theorem follow_cons_eq_ok_iff {place found : Place} {name : String} {names : List String} :
    s.follow place (name :: names) = .ok found ↔
      s.find? place = some .directory ∧
        (name = ".." ∧ s.follow place.dropLast names = .ok found ∨
          name ≠ ".." ∧ name.utf8ByteSize ≤ maxNameSize ∧ s.follow (place ++ [name]) names = .ok found) := by
  rw [follow]
  cases s.find? place with
  | none => simp
  | some entry =>
    cases entry with
    | directory =>
      by_cases hup : name = ".."
      · simp [hup]
      · by_cases hlong : maxNameSize < name.utf8ByteSize
        · simp [hup, hlong, Nat.not_le_of_lt hlong]
        · simp [hup, hlong, Nat.le_of_not_lt hlong]
    | text content => simp
    | binary => simp

/-- A path leads to a place if the system takes the path at all and its names can be followed. -/
theorem locate_eq_ok_iff {path : String} {place : Place} :
    s.locate path = .ok place ↔
      (path ≠ "" ∧ '\x00' ∉ path.toList ∧ path.utf8ByteSize < pathSizeBound) ∧
        s.follow (if isAbsolute path then [] else s.working) (pathNames path) = .ok place := by
  unfold locate
  by_cases hempty : path = ""
  · simp [hempty]
  · by_cases hnul : '\x00' ∈ path.toList
    · simp [hempty, hnul]
    · by_cases hlong : pathSizeBound ≤ path.utf8ByteSize
      · simp [hempty, hnul, hlong, Nat.not_lt_of_le hlong]
      · simp [hempty, hnul, hlong, Nat.lt_of_not_le hlong]

/-- Where names can be followed, they lead to the place in the text. -/
theorem follow_eq_ok {place found : Place} {names : List String} (h : s.follow place names = .ok found) :
    found = place.through names := by
  induction names generalizing place with
  | nil =>
    cases h
    rfl
  | cons name names ih =>
    obtain ⟨-, ⟨hup, h⟩ | ⟨hdown, -, h⟩⟩ := follow_cons_eq_ok_iff.1 h
    · rw [Place.through, if_pos hup, ih h]
    · rw [Place.through, if_neg hdown, ih h]

/-- A path that can be followed leads to the place in its text. -/
theorem locate_eq_ok {path : String} {place : Place} (h : s.locate path = .ok place) :
    place = Place.ofPath s.working path :=
  follow_eq_ok (locate_eq_ok_iff.1 h).2

/-- Names that can be followed can be followed wherever all directories are that were there. -/
theorem follow_mono {place found : Place} {names : List String}
    (hdirectories : ∀ place, s.find? place = some .directory → t.find? place = some .directory)
    (h : s.follow place names = .ok found) : t.follow place names = .ok found := by
  induction names generalizing place with
  | nil => exact h
  | cons name names ih =>
    obtain ⟨hplace, h⟩ := follow_cons_eq_ok_iff.1 h
    refine follow_cons_eq_ok_iff.2 ⟨hdirectories place hplace, ?_⟩
    rcases h with ⟨hup, h⟩ | ⟨hdown, hsize, h⟩
    · exact .inl ⟨hup, ih h⟩
    · exact .inr ⟨hdown, hsize, ih h⟩

/-- What leads to a place still leads there after further directories were made. -/
theorem locate_mono {path : String} {place : Place} (hworking : t.working = s.working)
    (hdirectories : ∀ place, s.find? place = some .directory → t.find? place = some .directory)
    (h : s.locate path = .ok place) : t.locate path = .ok place := by
  obtain ⟨hpath, h⟩ := locate_eq_ok_iff.1 h
  exact locate_eq_ok_iff.2 ⟨hpath, hworking ▸ follow_mono hdirectories h⟩

end Store

end RoleChart
