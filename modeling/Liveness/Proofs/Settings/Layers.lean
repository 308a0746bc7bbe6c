import Liveness.Proofs.Settings.Names
import Liveness.Settings.Load

/-! # The layers of the settings

* `Tree.IsOrderly`, `Tree.IsTidy`: what every layer is like before it is laid over the built-in
  settings, and what a layer is like that keeps the settings a table.
* `IsLayer`, `Rewrites`: a document whose settings can be told apart, and one where they cannot.
* `Variables.given?`, `Variables.Settles`: the value of a setting among variables, and when the other
  variables leave it alone.
* `at?_putAll_file`, `at?_putAll_vars`: the value of a setting in each layer.
* `at?_layers`: the same in all layers.
-/

namespace Liveness.Settings
set_option autoImplicit false

namespace Tree

/-! ## Layers -/

/-- Names are plain and distinct at the root of a layer, and distinct under the name of the settings. -/
structure IsOrderly (t : Tree) : Prop where
  nodup : t.names.Nodup
  plain : ∀ k ∈ t.names, Path.IsPlain k
  inner : ∀ a, t.get? Key.table = some a → a.names.Nodup

theorem isOrderly_empty : empty.IsOrderly where
  nodup := nodup_names_empty
  plain _ hk := nomatch hk
  inner _ ha := nomatch ha

theorem IsOrderly.put {t : Tree} (h : t.IsOrderly) {p : Path} (plain : Path.IsPlain p.root)
    (value : Tree) : (t.put p value).IsOrderly where
  nodup := nodup_names_alter h.nodup _ _
  plain := by
    intro k hk
    obtain rfl | hk := mem_names_alter.1 hk
    · exact plain
    · exact h.plain k hk
  inner := by
    intro a ha
    rw [Tree.put, get?_alter] at ha
    by_cases hr : Key.table = p.root
    · rw [if_pos hr, ← hr] at ha
      obtain rfl := Option.some.inj ha
      refine nodup_names_putAt ?_ _ _
      cases hg : t.get? Key.table with
      | none => exact nodup_names_empty
      | some b => exact h.inner b hg
    · rw [if_neg hr] at ha
      exact h.inner a ha

/-- Whatever is laid over an orderly layer, it stays orderly: the root of a path is a plain name. -/
theorem IsOrderly.putAll {t : Tree} (h : t.IsOrderly) (es : Entries) : (t.putAll es).IsOrderly := by
  induction es generalizing t with
  | nil => exact h
  | cons e es ih =>
    rw [putAll_cons]
    exact ih (h.put (Path.isPlain_root e.1) e.2)

/-- An orderly layer whose settings, if it has any, are a table. -/
structure IsTidy (t : Tree) : Prop extends IsOrderly t where
  isTable : ∀ a, t.get? Key.table = some a → a.isTable = true

theorem IsOrderly.isTidy {t : Tree} (h : t.IsOrderly) {name : String}
    (given : (t.at? Key.table name).isSome = true) : t.IsTidy where
  toIsOrderly := h
  isTable := by
    intro a ha
    rw [at?, ha, Option.bind_some] at given
    cases a with
    | table o es => rfl
    | leaf o v => cases given
    | list o items => cases given

/-- A named value that leaves the settings a table: it is a table of them, or its name means a path
that does not touch each of them. -/
def Keeps (e : String × Tree) : Prop :=
  (e.1 = Key.table ∧ e.2.isTable = true) ∨
    ∃ name, ¬(Path.ofName e.1).Touches Key.table name

theorem isTable_merge {below t : Tree} (hb : below.isTable = true) (ht : t.isTable = true) :
    (merge below t).isTable = true := by
  cases t with
  | table o es => exact isTable_mergeEntries hb es
  | leaf o v => cases ht
  | list o items => cases ht

theorem IsTidy.putNamed {t : Tree} (h : t.IsTidy) {e : String × Tree} (keeps : Keeps e) :
    (t.putNamed e).IsTidy where
  toIsOrderly := h.toIsOrderly.put (Path.isPlain_root e.1) e.2
  isTable := by
    intro a ha
    rw [Tree.putNamed, Tree.put, get?_alter] at ha
    by_cases hr : Key.table = (Path.ofName e.1).root
    · rw [if_pos hr, ← hr] at ha
      obtain rfl := Option.some.inj ha
      obtain ⟨hn, table⟩ | ⟨name, apart⟩ := keeps
      · rw [hn, Key.ofName_table, putAt]
        refine isTable_merge ?_ table
        cases hg : t.get? Key.table with
        | none => rfl
        | some b => exact h.isTable b hg
      · exact isTable_putAt_of_not_touches apart hr.symm _ _
    · rw [if_neg hr] at ha
      exact h.isTable a ha

theorem IsTidy.putAll {t : Tree} (h : t.IsTidy) {es : Entries} (keep : ∀ e ∈ es, Keeps e) :
    (t.putAll es).IsTidy := by
  induction es generalizing t with
  | nil => exact h
  | cons e es ih =>
    rw [putAll_cons]
    exact ih (h.putNamed (keep e List.mem_cons_self)) fun e he =>
      keep e (List.mem_cons_of_mem _ he)

theorem at?_putAll_of_not_touches {outer inner : String} {es : Entries}
    (h : ∀ e ∈ es, ¬(Path.ofName e.1).Touches outer inner) (t : Tree) :
    (t.putAll es).at? outer inner = t.at? outer inner := by
  induction es generalizing t with
  | nil => rfl
  | cons e es ih =>
    rw [putAll_cons, ih fun e he => h e (List.mem_cons_of_mem _ he), putNamed,
      at?_put_of_not_touches (h e List.mem_cons_self)]

theorem putAll_append (t : Tree) (es es' : Entries) :
    t.putAll (es ++ es') = (t.putAll es).putAll es' := List.foldl_append

/-! ## Files -/

theorem ofMembers_eq_map (o : Option Origin) (ms : Members) :
    ofMembers o ms = ms.map fun m => (m.1, ofDatum o m.2) := by
  induction ms with
  | nil => rfl
  | cons m ms ih =>
    obtain ⟨name, d⟩ := m
    rw [ofMembers, ofMember, ih, List.map_cons]

theorem map_fst_ofMembers (o : Option Origin) (ms : Members) :
    (ofMembers o ms).map (·.1) = ms.map (·.1) := by
  rw [ofMembers_eq_map, List.map_map]
  rfl

theorem lookup_ofMembers (o : Option Origin) (ms : Members) (k : String) :
    (ofMembers o ms).lookup k = (ms.lookup k).map (ofDatum o) := by
  induction ms with
  | nil => rfl
  | cons m ms ih =>
    obtain ⟨name, d⟩ := m
    rw [ofMembers, ofMember, List.lookup_cons, List.lookup_cons, ih]
    cases k == name <;> rfl

end Tree

/-- The members of the table of the settings in a document. -/
def settingsTable (document : Members) : Members :=
  match document.lookup Key.table with
  | some (.table ms) => ms
  | _ => []

/-- Names are distinct at the root of a document and in the table of the settings. -/
structure IsDistinct (document : Members) : Prop where
  nodup : (document.map (·.1)).Nodup
  inner : ((settingsTable document).map (·.1)).Nodup

/-- Some name beside the table of the settings means a path that touches a setting. -/
def Rewrites (document : Members) (key : Key) : Prop :=
  ∃ m ∈ document, m.1 ≠ Key.table ∧ (Tree.Path.ofName m.1).Touches Key.table key.name

/-- A document whose settings can be told apart: they are a table, and no other name touches them. -/
structure IsLayer (document : Members) : Prop extends IsDistinct document where
  isTable : ∀ d, document.lookup Key.table = some d → ∃ ms, d = .table ms
  alone : ∀ key, ¬Rewrites document key

theorem exists_append_of_lookup {document : Members} (h : (document.map (·.1)).Nodup) {name : String}
    {d : Datum} (hl : document.lookup name = some d) :
    ∃ l₁ l₂, document = l₁ ++ (name, d) :: l₂ ∧ (∀ m ∈ l₁, m.1 ≠ name) ∧ ∀ m ∈ l₂, m.1 ≠ name := by
  obtain ⟨l₁, l₂, rfl, before⟩ := List.lookup_eq_some_iff.1 hl
  rw [List.map_append, List.map_cons, List.nodup_append, List.nodup_cons] at h
  refine ⟨l₁, l₂, rfl, fun m hm hn => bne_iff_ne.1 (before m hm) hn.symm, ?_⟩
  intro m hm hn
  have : m.1 ∈ l₂.map (·.1) := List.mem_map_of_mem hm
  rw [hn] at this
  exact h.2.1.1 this

theorem isTidy_file {document : Members} (h : IsLayer document) (o : Option Origin) :
    (Tree.empty.putAll (Tree.ofMembers o document)).IsTidy := by
  have empty : Tree.empty.IsTidy := ⟨Tree.isOrderly_empty, fun _ ha => nomatch ha⟩
  refine empty.putAll ?_
  intro e he
  rw [Tree.ofMembers_eq_map] at he
  obtain ⟨m, hm, rfl⟩ := List.mem_map.1 he
  by_cases hn : m.1 = Key.table
  · obtain ⟨ms, hms⟩ := h.isTable m.2 (hn ▸ lookup_of_mem h.nodup hm)
    exact .inl ⟨hn, by rw [hms]; rfl⟩
  · exact .inr ⟨Key.host.name, fun touches => h.alone .host ⟨m, hm, hn, touches⟩⟩

/-- The value of a setting in the layer of a file. -/
theorem at?_putAll_file {document : Members} {key : Key} (h : IsDistinct document)
    (alone : ¬Rewrites document key) (o : Option Origin) :
    (Tree.empty.putAll (Tree.ofMembers o document)).at? Key.table key.name =
      ((settingsTable document).lookup key.name).map fun d =>
        Tree.merge .empty (Tree.ofDatum o d) := by
  have untouched {ms : Members} (sub : ∀ m ∈ ms, m ∈ document) (other : ∀ m ∈ ms, m.1 ≠ Key.table)
      (t : Tree) : (t.putAll (Tree.ofMembers o ms)).at? Key.table key.name =
        t.at? Key.table key.name := by
    refine Tree.at?_putAll_of_not_touches ?_ t
    rw [Tree.ofMembers_eq_map]
    intro e he
    obtain ⟨m, hm, rfl⟩ := List.mem_map.1 he
    exact fun touches => alone ⟨m, sub m hm, other m hm, touches⟩
  have inner := h.inner
  rw [settingsTable] at inner ⊢
  cases hl : document.lookup Key.table with
  | none =>
    refine untouched (fun _ => id) ?_ _
    intro m hm
    exact fun hn => bne_iff_ne.1 (List.lookup_eq_none_iff.1 hl m hm) hn.symm
  | some d =>
    obtain ⟨l₁, l₂, rfl, before, behind⟩ := exists_append_of_lookup h.nodup hl
    have nothing : (Tree.empty.putAll (Tree.ofMembers o l₁)).at? Key.table key.name = none :=
      untouched (fun m hm => List.mem_append_left _ hm) before _
    have split : Tree.ofMembers o (l₁ ++ (Key.table, d) :: l₂) =
        Tree.ofMembers o l₁ ++ (Key.table, Tree.ofDatum o d) :: Tree.ofMembers o l₂ := by
      simp only [Tree.ofMembers_eq_map, List.map_append, List.map_cons]
    rw [split, Tree.putAll_append, Tree.putAll_cons,
      untouched (fun m hm => List.mem_append_right _ (List.mem_cons_of_mem _ hm)) behind,
      Tree.putNamed, Key.ofName_table, Tree.put, Tree.at?, Tree.get?_alter, if_pos rfl,
      Option.bind_some, Tree.putAt]
    rw [hl] at inner
    cases d with
    | table ms =>
      rw [Tree.ofDatum, Tree.merge, Tree.get?_mergeEntries (Tree.map_fst_ofMembers o ms ▸ inner),
        Tree.lookup_ofMembers, Tree.get?_getD_empty, nothing]
      cases ms.lookup key.name <;> rfl
    | _ => rfl

/-! ## Variables -/

namespace Variables

/-- The value that a variable gives to a setting. -/
def given? (vars : Variables) (key : Key) : Option String :=
  (vars.find? (key.isVariable ·.1)).map (·.2)

/-- At most one variable gives a setting, and no other one names a setting whose path touches it. -/
structure Settles (vars : Variables) (key : Key) : Prop where
  once : (vars.filter (key.isVariable ·.1)).length ≤ 1
  apart : ∀ var ∈ vars, key.isVariable var.1 = false → ∀ name, setting? var.1 = some name →
    ¬(Tree.Path.ofName name).Touches Key.table key.name

theorem entries_cons {var : String × String} {name : String} (h : setting? var.1 = some name)
    (vars : Variables) : entries (var :: vars) =
      (name, .leaf (some .vars) (.text var.2)) :: entries vars :=
  List.filterMap_cons_some (by rw [ entry?, h]; rfl)

theorem entries_cons_of_none {var : String × String} (h : setting? var.1 = none)
    (vars : Variables) : entries (var :: vars) = entries vars :=
  List.filterMap_cons_none (by rw [ entry?, h]; rfl)

theorem settles_tail {var : String × String} {vars : Variables} {key : Key}
    (h : Settles (var :: vars) key) : Settles vars key where
  once := by
    have := h.once
    rw [List.filter_cons] at this
    split at this
    · exact Nat.le_of_succ_le this
    · exact this
  apart v hv := h.apart v (List.mem_cons_of_mem _ hv)

theorem not_isVariable_of_settles {var : String × String} {vars : Variables} {key : Key}
    (h : Settles (var :: vars) key) (hv : key.isVariable var.1 = true) :
    ∀ v ∈ vars, key.isVariable v.1 = false := by
  intro v hmem
  have := h.once
  rw [List.filter_cons_of_pos (by exact hv), List.length_cons] at this
  have none : vars.filter (key.isVariable ·.1) = [] := List.length_eq_zero_iff.1 (by omega)
  simpa using List.filter_eq_nil_iff.1 none v hmem

/-- The value of a setting in a layer with the variables laid over it. -/
theorem at?_putAll_vars {vars : Variables} {key : Key} (h : vars.Settles key) (t : Tree) :
    (t.putAll vars.entries).at? Key.table key.name =
      ((vars.given? key).map fun v => .leaf (some .vars) (.text v)).or
        (t.at? Key.table key.name) := by
  induction vars generalizing t with
  | nil => rfl
  | cons var vars ih =>
    have tail := settles_tail h
    cases hv : key.isVariable var.1 with
    | true =>
      have others : given? vars key = none := by
        rw [given?, List.find?_eq_none.2, Option.map_none]
        intro v hmem
        rw [not_isVariable_of_settles h hv v hmem]
        exact Bool.false_ne_true
      have found : given? (var :: vars) key = some var.2 := by
        rw [given?, List.find?_cons_of_pos (by exact hv), Option.map_some]
      rw [entries_cons (setting?_of_isVariable hv), Tree.putAll_cons, ih tail, others, found,
        Tree.putNamed, Key.ofName_setting, Key.path, Tree.at?_put_self _ _ _ rfl]
      rfl
    | false =>
      have found : given? (var :: vars) key = given? vars key := by
        rw [given?, given?, List.find?_cons_of_neg (by rw [hv]; exact Bool.false_ne_true)]
      rw [found]
      cases hs : setting? var.1 with
      | none => rw [entries_cons_of_none hs, ih tail]
      | some name =>
        have apart := h.apart var List.mem_cons_self hv name hs
        rw [entries_cons hs, Tree.putAll_cons, ih tail, Tree.putNamed,
          Tree.at?_put_of_not_touches apart]

/-- Variables keep a layer tidy. -/
theorem isTidy_putAll {vars : Variables} (h : ∀ key, vars.Settles key) {t : Tree} (ht : t.IsTidy) :
    (t.putAll vars.entries).IsTidy := by
  refine ht.putAll ?_
  intro e he
  obtain ⟨var, hvar, hs⟩ := List.mem_filterMap.1 he
  obtain ⟨name, hname, rfl⟩ := Option.map_eq_some_iff.1 hs
  cases hv : Key.host.isVariable var.1 with
  | true =>
    -- the variable of one setting does not touch the other one
    have := setting?_of_isVariable hv
    rw [hname] at this
    refine .inr ⟨Key.port.name, ?_⟩
    rw [Option.some.inj this, Key.ofName_setting]
    decide
  | false => exact .inr ⟨Key.host.name, (h .host).apart var hvar hv name hname⟩

end Variables

/-! ## All layers -/

theorem isTable_defaults : (defaults.get? Key.table).any Tree.isTable = true := rfl

theorem at?_defaults (key : Key) :
    defaults.at? Key.table key.name = some (.leaf none key.builtIn) := by
  cases key <;> rfl

section All
variable {file : Tree.Entries} {vars : Variables}
  (h : ((Tree.empty.putAll file).putAll vars.entries).IsTidy)
include h

theorem get?_layers : (layers file vars.entries).get? Key.table =
    match ((Tree.empty.putAll file).putAll vars.entries).get? Key.table with
    | none => defaults.get? Key.table
    | some a => some (Tree.mergeEntries ((defaults.get? Key.table).getD .empty) a.entries) := by
  have plain : ∀ e ∈ ((Tree.empty.putAll file).putAll vars.entries).entries,
      Tree.Path.IsPlain e.1 := fun e he => h.plain _ (List.mem_map_of_mem he)
  rw [layers, Tree.putAll_of_plain plain, Tree.get?_mergeEntries h.nodup, ← Tree.get?]
  cases ha : ((Tree.empty.putAll file).putAll vars.entries).get? Key.table with
  | none => rfl
  | some a =>
    have := h.isTable a ha
    cases a with
    | table o es => rfl
    | leaf o v => cases this
    | list o items => cases this

theorem isTable_layers : ((layers file vars.entries).get? Key.table).any Tree.isTable = true := by
  rw [get?_layers h]
  split
  · exact isTable_defaults
  · exact Tree.isTable_mergeEntries rfl _

/-- A setting is that of the file and the variables, laid over the built-in one. -/
theorem at?_layers (name : String) : (layers file vars.entries).at? Key.table name =
    match ((Tree.empty.putAll file).putAll vars.entries).at? Key.table name with
    | none => defaults.at? Key.table name
    | some v => some (Tree.merge ((defaults.at? Key.table name).getD .empty) v) := by
  rw [Tree.at?, get?_layers h, Tree.at?]
  cases ha : ((Tree.empty.putAll file).putAll vars.entries).get? Key.table with
  | none => rfl
  | some a =>
    show Tree.get? name _ = _
    rw [Tree.get?_mergeEntries (h.inner a ha)]
    rfl

theorem exists_at?_layers (key : Key) :
    ∃ v, (layers file vars.entries).at? Key.table key.name = some v := by
  rw [at?_layers h]
  split
  · exact ⟨_, at?_defaults key⟩
  · exact ⟨_, rfl⟩

end All
end Liveness.Settings
