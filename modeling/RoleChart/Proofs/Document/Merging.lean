import RoleChart.Proofs.Document.Paths

/-!
# Merging and sorting

Merging copies the entries of one mapping into another, and sorting brings entries in the order of their names.
As no name comes twice, a mapping is told by the order of its names and by what stands under each of them. So the
laws of merging are those of names and of look-ups, and sorting forgets everything but the look-ups.

## Main statements

* `Sound.entries_eq` — names and look-ups determine the entries
* `Sound.lookup?_merge`, `Sound.names_merge` — what merging makes of look-ups and of names
* `Sound.sort_eq_iff` — sorted mappings are the same exactly if all look-ups are
* `Sound.merge_sort_laws` — the laws of merging and sorting together
-/

namespace RoleChart.Document.Indexed

variable {α : Type} {m m' a b c : Indexed α} {name : String} {x : α}

/-! ## What determines a mapping -/

/-- The same entries in the same order, and the same positions for all names. -/
structure Same (m m' : Indexed α) : Prop where
  entries : m.entries = m'.entries
  index : ∀ name : String, m.index[name]? = m'.index[name]?

/-- Indexes that are in step with the same entries answer alike. -/
theorem Sound.same (h : m.Sound) (h' : m'.Sound) (hentries : m.entries = m'.entries) : Same m m' := by
  refine ⟨hentries, fun name => Option.ext fun pos => ?_⟩
  rw [h.index, h'.index, names, names, hentries]

/-- What is found under a name is an entry, and every entry is found. -/
theorem Sound.lookup?_eq_some_iff (h : m.Sound) : m.lookup? name = some x ↔ (name, x) ∈ m.entries := by
  rw [List.mem_iff_getElem?]
  constructor
  · intro hx
    obtain ⟨pos, hpos, hat⟩ := Option.bind_eq_some_iff.1 hx
    obtain ⟨entry, hentry, rfl⟩ := Option.map_eq_some_iff.1 hat
    have hname := (h.index name pos).1 hpos
    rw [names, List.getElem?_map, hentry, Option.map_some, Option.some.injEq] at hname
    exact ⟨pos, by rw [hentry, ← hname]⟩
  · rintro ⟨pos, hentry⟩
    have hpos : m.index[name]? = some pos := by
      rw [h.index, names, List.getElem?_map, hentry, Option.map_some]
    rw [lookup?_of_index hpos, at?, hentry, Option.map_some]

theorem Sound.lookup?_eq_none_iff (h : m.Sound) : m.lookup? name = none ↔ name ∉ m.names := by
  rw [Option.eq_none_iff_forall_ne_some, names, List.mem_map]
  constructor
  · rintro hnone ⟨⟨_, x⟩, hentry, rfl⟩
    exact hnone x (h.lookup?_eq_some_iff.2 hentry)
  · intro hname x hx
    exact hname ⟨(name, x), h.lookup?_eq_some_iff.1 hx, rfl⟩

/-- The index finds the entry that a search finds. -/
theorem Sound.lookup?_eq_find? (h : m.Sound) (name : String) :
    m.lookup? name = (m.entries.find? (·.1 == name)).map Prod.snd := by
  cases hfind : m.entries.find? (·.1 == name) with
  | none =>
    rw [Option.map_none, h.lookup?_eq_none_iff, names, List.mem_map]
    rintro ⟨entry, hentry, rfl⟩
    exact List.find?_eq_none.1 hfind entry hentry (beq_self_eq_true _)
  | some entry =>
    obtain rfl : entry.1 = name := by simpa using List.find?_some hfind
    exact h.lookup?_eq_some_iff.2 (List.mem_of_find?_eq_some hfind)

/-- The entries are the names in their order, each with what stands under it. -/
theorem Sound.map_entries (h : m.Sound) :
    m.entries.map (fun entry => (entry.1, some entry.2)) = m.names.map fun name => (name, m.lookup? name) := by
  rw [names, List.map_map]
  refine List.map_congr_left fun entry hentry => ?_
  rw [Function.comp_apply, h.lookup?_eq_some_iff.2 hentry]

/-- Names and look-ups determine the entries. -/
theorem Sound.entries_eq (h : m.Sound) (h' : m'.Sound) (hnames : m.names = m'.names)
    (hlookup : ∀ name, m.lookup? name = m'.lookup? name) : m.entries = m'.entries := by
  have hmap : m.entries.map (fun entry => (entry.1, some entry.2))
      = m'.entries.map fun entry => (entry.1, some entry.2) := by
    rw [h.map_entries, h'.map_entries, hnames]
    exact List.map_congr_left fun name _ => by rw [hlookup]
  refine (List.map_inj_right fun e e' heq => ?_).1 hmap
  obtain ⟨hname, hvalue⟩ := Prod.mk.inj heq
  exact Prod.ext hname (Option.some.inj hvalue)

/-! ## Merging -/

/-- One entry after another is replaced. Of some entries with different names, each is found afterwards, and
names that none of them has lead where they led. -/
theorem Sound.lookup?_foldl_replace (h : m.Sound) {entries : List (String × α)}
    (hnames : (entries.map Prod.fst).Nodup) (name : String) :
    (entries.foldl (fun acc entry => (acc.replace entry.1 entry.2).2) m).lookup? name
      = ((entries.find? (·.1 == name)).map Prod.snd).or (m.lookup? name) := by
  induction entries generalizing m with
  | nil => rfl
  | cons entry rest ih =>
    obtain ⟨hfresh, hrest⟩ := List.nodup_cons.1 hnames
    rw [List.foldl_cons, ih (h.replace entry.1 entry.2) hrest, h.lookup?_replace, List.find?_cons]
    by_cases hname : entry.1 = name
    · -- no later entry has the name again
      have hnone : rest.find? (·.1 == name) = none := by
        refine List.find?_eq_none.2 fun other hother heq => hfresh ?_
        rw [hname, ← beq_iff_eq.1 heq]
        exact List.mem_map_of_mem hother
      simp [hname, hnone]
    · simp [hname, beq_false_of_ne hname]

theorem Sound.names_foldl_replace (h : m.Sound) {entries : List (String × α)}
    (hnames : (entries.map Prod.fst).Nodup) :
    (entries.foldl (fun acc entry => (acc.replace entry.1 entry.2).2) m).names
      = m.names ++ (entries.map Prod.fst).filter (· ∉ m.names) := by
  induction entries generalizing m with
  | nil => simp
  | cons entry rest ih =>
    obtain ⟨hfresh, hrest⟩ := List.nodup_cons.1 hnames
    rw [List.foldl_cons, ih (h.replace entry.1 entry.2) hrest, h.names_replace, List.map_cons]
    by_cases hname : entry.1 ∈ m.names
    · rw [if_pos hname, List.filter_cons_of_neg (by simpa using hname)]
    · have hother : (rest.map Prod.fst).filter (· ∉ m.names ++ [entry.1])
          = (rest.map Prod.fst).filter (· ∉ m.names) := by
        refine List.filter_congr fun other hmem => ?_
        have hne : other ≠ entry.1 := fun heq => hfresh (heq ▸ hmem)
        simp [hne]
      rw [if_neg hname, List.filter_cons_of_pos (by simpa using hname), hother, List.append_assoc,
        List.singleton_append]

/-- The mapping that is merged into another one decides on its names. -/
theorem Sound.lookup?_merge (ha : a.Sound) (hb : b.Sound) (name : String) :
    (a.merge b).lookup? name = (b.lookup? name).or (a.lookup? name) := by
  rw [hb.lookup?_eq_find?]
  exact ha.lookup?_foldl_replace hb.nodup name

/-- The names stay, and new ones come behind them in the order that they have. -/
theorem Sound.names_merge (ha : a.Sound) (hb : b.Sound) :
    (a.merge b).names = a.names ++ b.names.filter (· ∉ a.names) :=
  ha.names_foldl_replace hb.nodup

/-- Merging in what is there changes nothing. -/
theorem merge_eq_self (h : ∀ entry ∈ b.entries, a.lookup? entry.1 = some entry.2) : a.merge b = a := by
  unfold merge
  generalize b.entries = entries at h
  induction entries with
  | nil => rfl
  | cons entry rest ih =>
    obtain ⟨hentry, hrest⟩ := List.forall_mem_cons.1 h
    rw [List.foldl_cons, replace_self hentry]
    exact ih hrest

theorem merge_empty (a : Indexed α) : a.merge empty = a := rfl

theorem Sound.merge_self (h : a.Sound) : a.merge a = a :=
  merge_eq_self fun _ hentry => h.lookup?_eq_some_iff.2 hentry

theorem Sound.empty_merge (h : a.Sound) : Same (empty.merge a) a := by
  have hmerge := sound_empty.merge a
  refine hmerge.same h (hmerge.entries_eq h ?_ fun name => ?_)
  · rw [sound_empty.names_merge h]
    simp [names, empty]
  · have hnone : (empty : Indexed α).lookup? name = none := sound_empty.lookup?_eq_none_iff.2 List.not_mem_nil
    rw [sound_empty.lookup?_merge h, hnone, Option.or_none]

/-- Of three mappings, the names of the first come first, then those that the second adds, then those that the
third adds; the last one decides on what they lead to. Neither depends on which two are merged first. -/
theorem Sound.merge_assoc (ha : a.Sound) (hb : b.Sound) (hc : c.Sound) :
    Same ((a.merge b).merge c) (a.merge (b.merge c)) := by
  have hab := ha.merge b
  have hbc := hb.merge c
  refine (hab.merge c).same (ha.merge _) ((hab.merge c).entries_eq (ha.merge _) ?_ fun name => ?_)
  · have hnew : c.names.filter (· ∉ a.names ++ b.names.filter (· ∉ a.names))
        = (c.names.filter (· ∉ b.names)).filter (· ∉ a.names) := by
      rw [List.filter_filter]
      refine List.filter_congr fun name _ => ?_
      by_cases hname : name ∈ a.names <;> simp [hname]
    rw [hab.names_merge hc, ha.names_merge hb, ha.names_merge hbc, hb.names_merge hc, List.filter_append,
      List.append_assoc, hnew]
  · rw [hab.lookup?_merge hc, ha.lookup?_merge hb, ha.lookup?_merge hbc, hb.lookup?_merge hc, Option.or_assoc]

/-! ## Sorting -/

theorem mem_entries_sort {entry : String × α} : entry ∈ m.sort.entries ↔ entry ∈ m.entries :=
  List.mem_mergeSort

/-- Sorting keeps every look-up. -/
theorem Sound.lookup?_sort (h : m.Sound) (name : String) : m.sort.lookup? name = m.lookup? name := by
  refine Option.ext fun x => ?_
  rw [h.sort.lookup?_eq_some_iff, h.lookup?_eq_some_iff, mem_entries_sort]

/-- Sorted names are in strict order. -/
theorem Sound.names_sort (h : m.Sound) : m.sort.names.Pairwise (· < ·) := by
  have hle : m.sort.names.Pairwise (· ≤ ·) := by
    have hsorted := @List.pairwise_mergeSort (String × α) (fun a b => decide (a.1 ≤ b.1))
      (fun _ _ _ hab hbc => decide_eq_true (String.le_trans (of_decide_eq_true hab) (of_decide_eq_true hbc)))
      (fun a b => by simpa using String.le_total a.1 b.1) m.entries
    exact List.pairwise_map.2 (hsorted.imp fun hab => of_decide_eq_true hab)
  exact (hle.and h.sort.nodup).imp fun ⟨hab, hne⟩ => Std.lt_of_le_of_ne hab hne

theorem Sound.nodup_entries (h : m.Sound) : m.entries.Nodup :=
  (List.pairwise_map.1 h.nodup).imp fun hne heq => hne (congrArg Prod.fst heq)

/-- Sorted mappings are the same exactly if all look-ups are. -/
theorem Sound.sort_eq_iff (h : m.Sound) (h' : m'.Sound) :
    m.sort = m'.sort ↔ ∀ name, m.lookup? name = m'.lookup? name := by
  constructor
  · intro heq name
    rw [← h.lookup?_sort, heq, h'.lookup?_sort]
  · intro hlookup
    have hmem : ∀ entry, entry ∈ m.sort.entries ↔ entry ∈ m'.sort.entries := fun entry => by
      rw [mem_entries_sort, mem_entries_sort, ← h.lookup?_eq_some_iff, ← h'.lookup?_eq_some_iff, hlookup]
    have hperm : m.sort.entries.Perm m'.sort.entries :=
      (List.perm_ext_iff_of_nodup h.sort.nodup_entries h'.sort.nodup_entries).2 hmem
    have hstrict {n : Indexed α} (hn : n.Sound) : n.sort.entries.Pairwise fun e e' => e.1 < e'.1 :=
      List.pairwise_map.1 hn.names_sort
    -- two lists with the same members in strict order are the same
    have hentries : m.sort.entries = m'.sort.entries :=
      hperm.eq_of_pairwise (fun _ _ _ _ hlt hgt => absurd hgt (String.lt_asymm hlt)) (hstrict h) (hstrict h')
    -- and the index is made from the entries
    show Indexed.mk m.sort.entries (positions m.sort.entries) = ⟨m'.sort.entries, positions m'.sort.entries⟩
    rw [hentries]

/-- The same entries in any order are sorted alike. -/
theorem Sound.sort_eq_of_mem (h : m.Sound) (h' : m'.Sound)
    (hmem : ∀ entry, entry ∈ m.entries ↔ entry ∈ m'.entries) : m.sort = m'.sort := by
  refine (h.sort_eq_iff h').2 fun name => Option.ext fun x => ?_
  rw [h.lookup?_eq_some_iff, h'.lookup?_eq_some_iff, hmem]

theorem Sound.sort_sort (h : m.Sound) : m.sort.sort = m.sort :=
  (h.sort.sort_eq_iff h).2 h.lookup?_sort

/-- Which of two mappings is merged into the other is seen behind sorting only where both have a name, with
different values. -/
theorem Sound.sort_merge_comm_iff (ha : a.Sound) (hb : b.Sound) :
    (a.merge b).sort = (b.merge a).sort ↔
      ∀ name x y, a.lookup? name = some x → b.lookup? name = some y → x = y := by
  rw [(ha.merge b).sort_eq_iff (hb.merge a)]
  refine forall_congr' fun name => ?_
  rw [ha.lookup?_merge hb, hb.lookup?_merge ha]
  cases a.lookup? name with
  | none => simp
  | some x =>
    cases b.lookup? name with
    | none => simp
    | some y => simp [eq_comm]

/-! ## All laws -/

/-- The laws of merging and sorting. The merged mapping leads where the second one leads and elsewhere where the
first one does, with the new names of the second one behind those of the first. Merging is associative, and merging
a mapping into itself, or none on either side, changes nothing. Sorting twice is sorting once; it keeps every
look-up and puts names in strict order. The same entries in any order are sorted alike, so the order of merging
mappings without a common name does not show behind it. -/
theorem Sound.merge_sort_laws (ha : a.Sound) (hb : b.Sound) (hc : c.Sound) :
    (a.merge b).Sound ∧ (∀ name, (a.merge b).lookup? name = (b.lookup? name).or (a.lookup? name)) ∧
    (a.merge b).names = a.names ++ b.names.filter (· ∉ a.names) ∧
    Same ((a.merge b).merge c) (a.merge (b.merge c)) ∧
    a.merge a = a ∧ a.merge empty = a ∧ Same (empty.merge a) a ∧
    a.sort.Sound ∧ a.sort.sort = a.sort ∧ (∀ name, a.sort.lookup? name = a.lookup? name) ∧
    a.sort.names.Pairwise (· < ·) ∧
    ((∀ entry, entry ∈ a.entries ↔ entry ∈ b.entries) → a.sort = b.sort) ∧
    ((∀ name ∈ a.names, name ∉ b.names) → (a.merge b).sort = (b.merge a).sort) := by
  refine ⟨ha.merge b, ha.lookup?_merge hb, ha.names_merge hb, ha.merge_assoc hb hc, ha.merge_self, merge_empty a,
    ha.empty_merge, ha.sort, ha.sort_sort, ha.lookup?_sort, ha.names_sort, ha.sort_eq_of_mem hb, fun hapart => ?_⟩
  refine (ha.sort_merge_comm_iff hb).2 fun name x y hx hy => ?_
  exact absurd (hb.mem_names_of_lookup? hy) (hapart name (ha.mem_names_of_lookup? hx))

/-- Three mappings with a common name: the last value stays in the first place. The second and the third one have
no common name. -/
theorem merge_sort_laws_common :
    let a : Indexed Nat := ((empty.replace "y" 1).2.replace "x" 2).2
    let b : Indexed Nat := ((empty.replace "z" 3).2.replace "y" 4).2
    let c : Indexed Nat := (empty.replace "x" 5).2
    a.Sound ∧ b.Sound ∧ c.Sound ∧ (a.merge b).names = ["y", "x", "z"] ∧ (a.merge b).lookup? "y" = some 4 ∧
      Same ((a.merge b).merge c) (a.merge (b.merge c)) ∧
      (∀ name ∈ b.names, name ∉ c.names) ∧ (b.merge c).sort = (c.merge b).sort := by
  intro a b c
  have ha : a.Sound := (sound_empty.replace "y" 1).replace "x" 2
  have hb : b.Sound := (sound_empty.replace "z" 3).replace "y" 4
  have hc : c.Sound := sound_empty.replace "x" 5
  have hnone : (empty : Indexed Nat).names = [] := rfl
  have hanames : a.names = ["y", "x"] := by
    rw [(sound_empty.replace "y" 1).names_replace, sound_empty.names_replace, hnone]
    rfl
  have hbnames : b.names = ["z", "y"] := by
    rw [(sound_empty.replace "z" 3).names_replace, sound_empty.names_replace, hnone]
    rfl
  have hcnames : c.names = ["x"] := by
    rw [sound_empty.names_replace, hnone]
    rfl
  have hy : b.lookup? "y" = some 4 := by
    rw [(sound_empty.replace "z" 3).lookup?_replace, if_pos rfl]
  have hapart : ∀ name ∈ b.names, name ∉ c.names := by
    rw [hbnames, hcnames]
    decide
  obtain ⟨-, hlookup, hnames, hassoc, -⟩ := ha.merge_sort_laws hb hc
  obtain ⟨-, -, -, -, -, -, -, -, -, -, -, -, hcomm⟩ := hb.merge_sort_laws hc ha
  refine ⟨ha, hb, hc, ?_, ?_, hassoc, hapart, hcomm hapart⟩
  · rw [hnames, hanames, hbnames]
    rfl
  · rw [hlookup, hy, Option.some_or]

end RoleChart.Document.Indexed
