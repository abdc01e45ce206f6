import RoleChart.Proofs.Building
import RoleChart.Proofs.Document.Lookup
import RoleChart.Secret

/-!
# Objects with secret values

The object that a build writes for the secret variables of a manifest. It has one entry for every
variable that the build maintains, under a key of its own as long as no two keys meet.

## Main statements

* `secret_ok` — variables with different keys make an object
* `literal_base64` — a base64 text is written as data, never as a template
-/

namespace RoleChart

open RoleChart.Document RoleChart.Built

/-! ## Base64 texts in documents -/

namespace Base64

theorem digit_mem (n : Nat) :
    digit n ∈ "ABCDEFGHIJKLMNOPQRSTUVWXYZabcdefghijklmnopqrstuvwxyz0123456789+/=".toList := by
  by_cases h : n < 64
  · have all : ∀ k : Fin 64, digit k.val ∈
        "ABCDEFGHIJKLMNOPQRSTUVWXYZabcdefghijklmnopqrstuvwxyz0123456789+/=".toList := by decide +kernel
    exact all ⟨n, h⟩
  · rw [digit, List.getD_eq_getElem?_getD, List.getElem?_eq_none (by simpa using h)]
    decide

/-- A base64 text has nothing but digits and padding. -/
theorem not_mem_encode {c : Char}
    (hc : c ∉ "ABCDEFGHIJKLMNOPQRSTUVWXYZabcdefghijklmnopqrstuvwxyz0123456789+/=".toList)
    (bytes : List UInt8) : c ∉ encode bytes := by
  have hdigit : ∀ n, c ≠ digit n := fun n h => hc (h ▸ digit_mem n)
  have hpad : c ≠ '=' := fun h => hc (h ▸ by decide)
  fun_induction encode bytes with
  | case1 => exact List.not_mem_nil
  | case2 a => simp [hdigit, hpad]
  | case3 a b => simp [hdigit, hpad]
  | case4 a b c rest ih => simp [hdigit, ih]

end Base64

theorem isTemplated_base64 (text : String) : isTemplated (base64 text).toList = false := by
  rw [isTemplated, Bool.eq_false_iff, ne_eq, Text.occurs_iff, base64, String.toList_ofList]
  intro h
  exact Base64.not_mem_encode (by decide) _ (h.subset List.mem_cons_self)

/-- A base64 text is the same as data and as a text that may hold template expressions. -/
theorem literal_base64 (text : String) : Node.string (base64 text) = .literal (base64 text) := by
  rw [Node.string, Node.literal, quote, quoteLiteral, isTemplated_base64]
  simp

/-! ## Entries -/

namespace Variable

/-- The entry of a variable in an object with secrets, unless a generator maintains it. -/
def secretField? (v : Variable) (s : Settings) : Option (String × Node) :=
  (v.secretNode? s).map fun node => (secretKey v.name, node.withComment (v.secretComment s))

theorem secretField?_of_secretNode? {v : Variable} {s : Settings} {node : Node}
    (h : v.secretNode? s = some node) :
    v.secretField? s = some (secretKey v.name, node.withComment (v.secretComment s)) := by
  rw [secretField?, h]
  rfl

/-- Only what a generator maintains is left out. -/
theorem isSome_secretNode? {v : Variable} {s : Settings}
    (h : (s.secretsGenerator && v.isGenerated) = false) : (v.secretNode? s).isSome = true := by
  unfold secretNode?
  split
  · rfl
  · rw [Bool.and_comm, h]
    simp only [Bool.false_eq_true, if_false]
    split <;> rfl

/-- Outside of a chart the value is the base64 text of the plain value. -/
theorem secretNode?_of_plain (v : Variable) {s : Settings} (h : s.chart = false) :
    v.secretNode? s = some (.literal (base64 ((v.plainText? s).getD ""))) := by
  rw [secretNode?, h, ← literal_base64]
  rfl

end Variable

/-! ## The object -/

variable {s : Settings}

/-- The entries of some variables in an object with secrets. -/
def secretEntries (vs : List Variable) (s : Settings) : Mapping := vs.filterMap (·.secretField? s)

theorem sublist_names_secretEntries (vs : List Variable) :
    (Mapping.names (secretEntries vs s)).Sublist (vs.map fun v => secretKey v.name) := by
  induction vs with
  | nil => exact List.Sublist.slnil
  | cons v vs ih =>
    simp only [secretEntries, List.filterMap_cons, List.map_cons]
    cases hn : v.secretNode? s with
    | none =>
      have he : v.secretField? s = none := by rw [Variable.secretField?, hn]; rfl
      rw [he]
      exact ih.cons _
    | some node =>
      rw [Variable.secretField?_of_secretNode? hn]
      exact ih.cons_cons _

theorem addNamed_of_not_mem {m : Mapping} {name : String} {node : Node}
    (h : name ∉ Mapping.names m) : m.addNamed name node = .ok (m ++ [(name, node)]) := by
  rw [Mapping.addNamed, Mapping.contains, (Mapping.position?_eq_none_iff m name).2 h]
  rfl

/-- The variables of an object are added one after another, and each finds its key unused. -/
theorem foldlM_secretEntries {vs : List Variable} {data : Mapping}
    (hkeys : (vs.map fun v => secretKey v.name).Nodup)
    (hnew : ∀ v ∈ vs, secretKey v.name ∉ Mapping.names data) :
    vs.foldlM (fun (data : Mapping) v =>
      match v.secretNode? s with
      | some node => data.addNamed (secretKey v.name) (node.withComment (v.secretComment s))
      | none => Except.ok data) data = (.ok (data ++ secretEntries vs s) : Built Mapping) := by
  induction vs generalizing data with
  | nil => simp [secretEntries, pure, Except.pure]
  | cons v vs ih =>
    rw [List.map_cons, List.nodup_cons] at hkeys
    obtain ⟨hfirst, hrest⟩ := hkeys
    rw [List.foldlM_cons]
    cases hn : v.secretNode? s with
    -- what a generator maintains leaves the data as they are
    | none =>
      have he : secretEntries (v :: vs) s = secretEntries vs s := by
        simp [secretEntries, Variable.secretField?, hn]
      rw [he]
      exact ih hrest fun w hw => hnew w (List.mem_cons_of_mem v hw)
    | some node =>
      have he : secretEntries (v :: vs) s
          = (secretKey v.name, node.withComment (v.secretComment s)) :: secretEntries vs s := by
        simp [secretEntries, Variable.secretField?_of_secretNode? hn]
      simp only [addNamed_of_not_mem (hnew v List.mem_cons_self), bind, Except.bind]
      rw [he, ih hrest, List.append_assoc, List.singleton_append]
      -- the later keys are new still: they differ from the one that was just added
      intro w hw hc
      simp only [Mapping.names, List.map_append, List.map_cons, List.map_nil, List.mem_append,
        List.mem_singleton] at hc
      rcases hc with hc | hc
      · exact hnew w (List.mem_cons_of_mem v hw) hc
      · exact hfirst (hc ▸ List.mem_map_of_mem hw)

/-- Variables whose secrets have different keys make an object, which is found under the name of the
build and has an entry for each of them that no generator maintains. -/
theorem secret_ok {declared : List Variable}
    (hkeys : ((declared.filter (·.isExternalSecret)).map fun v => secretKey v.name).Nodup) :
    ∃ object, secret declared s = .ok object ∧
      object.get? ["metadata", "name"] = some (.string (secretName s)) ∧
      ∀ v ∈ declared, v.isExternalSecret = true → ∀ node, v.secretNode? s = some node →
        object.get? ["data", secretKey v.name] = some (node.withComment (v.secretComment s)) := by
  -- no key is taken at the beginning, so the build cannot fail
  have hdata : secretData declared s = .ok (secretEntries (declared.filter (·.isExternalSecret)) s) :=
    foldlM_secretEntries hkeys fun _ _ => List.not_mem_nil
  refine ⟨_, by rw [secret, hdata]; rfl, ?_, ?_⟩
  · simp [newObject, objectMetadata]
  · intro v hv hsecret node hn
    have hmem : (secretKey v.name, node.withComment (v.secretComment s))
        ∈ secretEntries (declared.filter (·.isExternalSecret)) s :=
      List.mem_filterMap.2 ⟨v, List.mem_filter.2 ⟨hv, hsecret⟩, Variable.secretField?_of_secretNode? hn⟩
    have hnames := (sublist_names_secretEntries (s := s) _).nodup hkeys
    simp [newObject, Mapping.lookup?_of_mem hnames hmem]

end RoleChart
