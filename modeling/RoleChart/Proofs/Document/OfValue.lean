import RoleChart.Document.OfValue
import RoleChart.Proofs.Document.Legible

/-!
# Data is read back

The document of a value holds data alone, and still it is not always read back as the value. A name with
two opening braces is written as it is, even if it needs quotes. A name can be too long for a reader. A text
at the first column can be taken for the end of the document. And texts on different lines can look like one
quoted template expression, so that the lines are joined. Where nothing of this happens the value is read
back, with all braces in it.

## Main statements

* `legible_ofValue`, `content_ofValue` — the document of a value is legible, and it stands for the value
* `ofText_render_ofValue` — a document that cannot be mistaken is read back as the value
-/

namespace RoleChart.Yaml.Value

open RoleChart.Text
open RoleChart.Document (isPrintable keyName)

/-! ## Data -/

mutual

/-- Whether a value is made of nulls, truth values, integers of 64 bits, printable texts, sequences, and
mappings whose names are printable texts. -/
def isData : Value → Bool
  | null | bool _ => true
  | int z => decide (-(Nat.pow 2 63 : Int) ≤ z) && decide (z < (Nat.pow 2 64 : Int))
  | string s => s.toList.all isPrintable
  | sequence items => areData items
  | mapping entries => entriesAreData entries
  | float _ | tagged _ _ => false

/-- Whether all items of a sequence are data. -/
def areData : List Value → Bool
  | [] => true
  | v :: items => v.isData && areData items

/-- Whether all entries of a mapping are data and no two names are equal. -/
def entriesAreData : List (Value × Value) → Bool
  | [] => true
  | (string name, v) :: entries =>
    name.toList.all isPrintable && v.isData && !(entries.map fun entry => keyName entry.1).contains name
      && entriesAreData entries
  | _ :: _ => false

end

mutual

/-- How deep collections nest. -/
def depth : Value → Nat
  | sequence items => itemsDepth items + 1
  | mapping entries => entriesDepth entries + 1
  | tagged _ v => v.depth
  | null | bool _ | int _ | float _ | string _ => 0

/-- How deep the items of a sequence nest. -/
def itemsDepth : List Value → Nat
  | [] => 0
  | v :: items => max v.depth (itemsDepth items)

/-- How deep the entries of a mapping nest. -/
def entriesDepth : List (Value × Value) → Nat
  | [] => 0
  | (_, v) :: entries => max v.depth (entriesDepth entries)

end

mutual

/-- The names in all mappings. -/
def keys : Value → List (List Char)
  | sequence items => itemsKeys items
  | mapping entries => entriesKeys entries
  | tagged _ v => v.keys
  | null | bool _ | int _ | float _ | string _ => []

/-- The names in the items of a sequence. -/
def itemsKeys : List Value → List (List Char)
  | [] => []
  | v :: items => v.keys ++ itemsKeys items

/-- The names of the entries of a mapping and inside of them. -/
def entriesKeys : List (Value × Value) → List (List Char)
  | [] => []
  | (key, v) :: entries => (keyName key).toList :: v.keys ++ entriesKeys entries

end

end RoleChart.Yaml.Value

namespace RoleChart.Document

open RoleChart.Text
open RoleChart.Yaml (Value maxDepth marksDocument)
open RoleChart.Yaml.Value (isData areData entriesAreData itemsDepth entriesDepth itemsKeys entriesKeys)

/-! ## The document of a value -/

/-- The entries of a mapping as nodes. -/
def valueNodes (entries : List (Value × Value)) : Mapping :=
  entries.map fun entry => (keyName entry.1, Node.ofValue entry.2)

/-- Different names stay in their order. -/
theorem entriesOfValues_eq {entries : List (Value × Value)} (h : entriesAreData entries = true)
    {done : Mapping} (hdone : ∀ name ∈ entries.map fun entry => keyName entry.1, name ∉ Mapping.names done) :
    entriesOfValues done entries = done ++ valueNodes entries := by
  induction entries generalizing done with
  | nil => simp [entriesOfValues, valueNodes]
  | cons entry entries ih =>
    obtain ⟨key, v⟩ := entry
    cases key with
    | string name =>
      simp only [entriesAreData, Bool.and_eq_true, Bool.not_eq_true', List.contains_eq_mem,
        decide_eq_false_iff_not] at h
      obtain ⟨⟨-, hnew⟩, hrest⟩ := h
      obtain ⟨hname, hothers⟩ := List.forall_mem_cons.1 hdone
      have hreplace : Mapping.replace done name (Node.ofValue v) = (none, done ++ [(name, Node.ofValue v)]) := by
        rw [Mapping.replace, (Mapping.position?_eq_none_iff done name).2 hname]
      rw [entriesOfValues, keyName, hreplace, ih hrest]
      · simp [valueNodes, keyName]
      · intro other hother
        simp only [Mapping.names, List.map_append, List.map_cons, List.map_nil, List.mem_append,
          List.mem_singleton, not_or]
        refine ⟨hothers other hother, ?_⟩
        rintro rfl
        exact hnew hother
    | _ => exact absurd h (by simp [entriesAreData])

theorem ofValue_mapping {entries : List (Value × Value)} (h : entriesAreData entries = true) :
    Node.ofValue (.mapping entries) = .mapping {} (valueNodes entries) := by
  rw [Node.ofValue, entriesOfValues_eq h (by simp [Mapping.names])]
  rfl

mutual

/-- The document of a value is legible if its names are, as deep as the value nests. -/
theorem legible_ofValue : ∀ (v : Value) (depth : Nat), v.isData = true → (∀ key ∈ v.keys, KeyFits key) →
    v.depth ≤ depth → (Node.ofValue v).Legible depth
  | .null, _, _, _, _ => Node.legible_datum (show Datum.null.fits = true from rfl)
  | .bool b, _, _, _, _ => Node.legible_flag b
  | .int z, _, h, _, _ => Node.legible_datum (show (Datum.integer z).fits = true from h)
  | .string _, _, h, _, _ => Node.legible_literal h
  | .sequence items, depth, h, hkeys, hdepth => by
    rw [Value.depth] at hdepth
    obtain ⟨depth, rfl⟩ : ∃ k, depth = k + 1 := ⟨depth - 1, by omega⟩
    exact .list (legible_itemsOfValues items depth h hkeys (by omega))
  | .mapping entries, depth, h, hkeys, hdepth => by
    rw [Value.depth] at hdepth
    obtain ⟨depth, rfl⟩ : ∃ k, depth = k + 1 := ⟨depth - 1, by omega⟩
    have hentries := legible_valueNodes entries depth h hkeys (by omega)
    rw [ofValue_mapping h]
    exact .mapping (fun entry hentry => (hentries entry hentry).1) fun entry hentry =>
      (hentries entry hentry).2

theorem legible_itemsOfValues : ∀ (items : List Value) (depth : Nat), areData items = true →
    (∀ key ∈ itemsKeys items, KeyFits key) → itemsDepth items ≤ depth →
    ∀ n ∈ itemsOfValues items, n.Legible depth
  | [], _, _, _, _ => nofun
  | v :: items, depth, h, hkeys, hdepth => by
    obtain ⟨hv, hitems⟩ := by simpa only [areData, Bool.and_eq_true] using h
    obtain ⟨hkeysv, hkeysitems⟩ := List.forall_mem_append.1 hkeys
    rw [itemsDepth] at hdepth
    exact List.forall_mem_cons.2 ⟨legible_ofValue v depth hv hkeysv (by omega),
      legible_itemsOfValues items depth hitems hkeysitems (by omega)⟩

theorem legible_valueNodes : ∀ (entries : List (Value × Value)) (depth : Nat), entriesAreData entries = true →
    (∀ key ∈ entriesKeys entries, KeyFits key) → entriesDepth entries ≤ depth →
    ∀ entry ∈ valueNodes entries, NameLegible entry.1 ∧ entry.2.Legible depth
  | [], _, _, _, _ => nofun
  | (.string name, v) :: entries, depth, h, hkeys, hdepth => by
    simp only [entriesAreData, Bool.and_eq_true] at h
    obtain ⟨⟨⟨hname, hv⟩, -⟩, hrest⟩ := h
    obtain ⟨hkey, hkeys⟩ := List.forall_mem_cons.1 hkeys
    obtain ⟨hkeysv, hkeysrest⟩ := List.forall_mem_append.1 hkeys
    rw [entriesDepth] at hdepth
    exact List.forall_mem_cons.2 ⟨⟨⟨hname, hkey⟩, legible_ofValue v depth hv hkeysv (by omega)⟩,
      legible_valueNodes entries depth hrest hkeysrest (by omega)⟩

end

mutual

/-- The document of a value stands for the value. -/
theorem content_ofValue : ∀ v : Value, v.isData = true → (Node.ofValue v).content = v
  | .null, _ => Node.content_datum (show Datum.null.fits = true from rfl)
  | .bool b, _ => Node.content_flag b
  | .int z, h => Node.content_datum (show (Datum.integer z).fits = true from h)
  | .string _, h => Node.content_literal h
  | .sequence items, h => by
    rw [Node.ofValue, Node.content_items, contents_itemsOfValues items h]
  | .mapping entries, h => by
    have hentries : Node.mapping {} (valueNodes entries) = Node.entries (valueNodes entries) := rfl
    rw [ofValue_mapping h, hentries, Node.content_entries, contents_valueNodes entries h]

theorem contents_itemsOfValues : ∀ items : List Value, areData items = true →
    (itemsOfValues items).map Node.content = items
  | [], _ => rfl
  | v :: items, h => by
    obtain ⟨hv, hitems⟩ := by simpa only [areData, Bool.and_eq_true] using h
    rw [itemsOfValues, List.map_cons, content_ofValue v hv, contents_itemsOfValues items hitems]

theorem contents_valueNodes : ∀ entries : List (Value × Value), entriesAreData entries = true →
    ((valueNodes entries).map fun entry => (Value.string entry.1, entry.2.content)) = entries
  | [], _ => rfl
  | (.string name, v) :: entries, h => by
    simp only [entriesAreData, Bool.and_eq_true] at h
    obtain ⟨⟨⟨-, hv⟩, -⟩, hrest⟩ := h
    have hnodes : valueNodes ((.string name, v) :: entries) = (name, Node.ofValue v) :: valueNodes entries := rfl
    rw [hnodes, List.map_cons, content_ofValue v hv, contents_valueNodes entries hrest]

end

/-! ## Documents -/

/-- What keeps the document of a value from being read as something else: every name fits, no line is a
mark of a document, and no lines look like one quoted template expression. -/
structure Unmistakable (v : Value) : Prop where
  keys : ∀ key ∈ v.keys, KeyFits key
  marks : ∀ l ∈ rootLines defaultStep (Node.ofValue v), marksDocument l.row = false
  joins : closesOnLines ((rootLines defaultStep (Node.ofValue v)).map Line.row) = true

instance (v : Value) : Decidable (Unmistakable v) :=
  decidable_of_iff ((∀ key ∈ v.keys, KeyFits key)
      ∧ (∀ l ∈ rootLines defaultStep (Node.ofValue v), marksDocument l.row = false)
      ∧ closesOnLines ((rootLines defaultStep (Node.ofValue v)).map Line.row) = true)
    ⟨fun h => ⟨h.1, h.2.1, h.2.2⟩, fun h => ⟨h.keys, h.marks, h.joins⟩⟩

/-- Data is read back, whatever braces are in it, unless the document of the value can be mistaken. -/
theorem ofText_render_ofValue {v : Value} (h : v.isData = true) (hdepth : v.depth ≤ maxDepth)
    (hv : Unmistakable v) : Value.ofText (render (Node.ofValue v)) = .ok v := by
  have hlegible := legible_ofValue v maxDepth h hv.keys hdepth
  have hread := ofText_render_of_legible hlegible (Node.distinct_ofValue v)
    (hlegible.marksDocument_margin hv.marks) hv.joins
  rwa [content_ofValue v h] at hread

/-- Braces in names and texts, an expression between single quotes, and a text like a mark below the root. -/
def bracedSample : Value :=
  .mapping
    [(.string "a\x7b\x7bb\x7d\x7d", .sequence [.string "'\x7b\x7b x \x7d\x7d'",
        .string "\x7b\x7b y", .string "\x7d\x7d'", .mapping []]),
      (.string "rest", .sequence [.mapping [(.string "... c", .int (-7)), (.string "e'\x7b\x7b", .null)],
        .string "... d", .bool true])]

theorem ofText_render_bracedSample :
    bracedSample.isData = true ∧ bracedSample.depth ≤ maxDepth ∧ Unmistakable bracedSample ∧
      Value.ofText (render (Node.ofValue bracedSample)) = .ok bracedSample :=
  ⟨by decide +kernel, by decide, by decide +kernel,
    ofText_render_ofValue (by decide +kernel) (by decide) (by decide +kernel)⟩

-- a name between braces is read as a mapping, and two texts are joined onto one line
example :
    let v := Value.mapping [(.string "\x7b\x7b a \x7d\x7d", .int 1)]
    (Value.ofText (render (Node.ofValue v))).toOption.any (Value.same v) = false := by decide +kernel

example :
    render (Node.ofValue (.sequence [.string "'\x7b\x7b", .string "y\x7d\x7d'z"]))
      = "---\n- \"'\x7b\x7b\" - y\x7d\x7d'z\n" := by decide +kernel

end RoleChart.Document
