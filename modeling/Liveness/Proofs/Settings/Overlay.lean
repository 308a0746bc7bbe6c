import Liveness.Proofs.Lists
import Liveness.Settings.Path

/-! # What an overlay changes

* `Tree.names`: the names in a tree, which stay distinct.
* `Tree.get?_alter`, `Tree.get?_mergeEntries`: what stands under a name after a change.
* `Tree.merge_of_atom`: what is no table takes the place of what stood there.
* `Tree.at?`: what stands under two names, one inside the other.
* `Tree.Path.Touches`: whether a path may change what stands there.
-/

namespace Liveness.Settings.Tree
set_option autoImplicit false

/-! ## Entries -/

theorem lookup_putEntry (name k : String) (value : Tree) (es : Entries) :
    (putEntry name value es).lookup k = if k = name then some value else es.lookup k := by
  induction es with
  | nil =>
    by_cases h : k = name
    · simp [putEntry, h]
    · rw [putEntry, lookup_cons_ne h, if_neg h]
  | cons e es ih =>
    obtain ⟨n, v⟩ := e
    rw [putEntry]
    by_cases hn : n = name
    · subst hn
      rw [if_pos rfl]
      by_cases h : k = n
      · simp [h]
      · rw [lookup_cons_ne h, lookup_cons_ne h, if_neg h]
    · rw [if_neg hn]
      by_cases h : k = n
      · subst h; simp [hn]
      · rw [lookup_cons_ne h, lookup_cons_ne h, ih]

theorem map_fst_putEntry (name : String) (value : Tree) (es : Entries) :
    (putEntry name value es).map (·.1) =
      if name ∈ es.map (·.1) then es.map (·.1) else es.map (·.1) ++ [name] := by
  induction es with
  | nil => simp [putEntry]
  | cons e es ih =>
    obtain ⟨n, v⟩ := e
    rw [putEntry]
    by_cases hn : n = name
    · simp [hn]
    · rw [if_neg hn, List.map_cons, ih]
      have : name ≠ n := fun h => hn h.symm
      by_cases h : name ∈ es.map (·.1) <;> simp [h, this]

/-! ## Names -/

/-- The names in a tree. -/
def names (t : Tree) : List String := t.entries.map (·.1)

theorem nodup_names_empty : empty.names.Nodup := List.nodup_nil

theorem get?_alter (name k : String) (change : Tree → Tree) (t : Tree) :
    (alter name change t).get? k =
      if k = name then some (change ((t.get? name).getD empty)) else t.get? k := by
  show List.lookup k (putEntry _ _ _) = _
  rw [lookup_putEntry]
  rfl

theorem names_alter (name : String) (change : Tree → Tree) (t : Tree) :
    (alter name change t).names = if name ∈ t.names then t.names else t.names ++ [name] :=
  map_fst_putEntry _ _ _

theorem mem_names_alter {k name : String} {change : Tree → Tree} {t : Tree} :
    k ∈ (alter name change t).names ↔ k = name ∨ k ∈ t.names := by
  rw [names_alter]
  by_cases h : name ∈ t.names
  · rw [if_pos h]
    constructor
    · exact .inr
    · rintro (rfl | hk)
      · exact h
      · exact hk
  · rw [if_neg h, List.mem_append, List.mem_singleton, or_comm]

theorem nodup_names_alter {t : Tree} (h : t.names.Nodup) (name : String) (change : Tree → Tree) :
    (alter name change t).names.Nodup := by
  rw [names_alter]
  by_cases hn : name ∈ t.names
  · rwa [if_pos hn]
  · rw [if_neg hn, List.nodup_append]
    refine ⟨h, List.nodup_cons.2 ⟨List.not_mem_nil, List.nodup_nil⟩, ?_⟩
    intro a ha b hb
    rw [List.mem_singleton] at hb
    rintro rfl
    exact hn (hb ▸ ha)

/-! ## Merging -/

/-- Whether a tree is a table. -/
def isTable : Tree → Bool
  | table .. => true
  | _ => false

theorem isTable_alter (name : String) (change : Tree → Tree) (t : Tree) :
    (alter name change t).isTable = true := rfl

/-- What is no table takes the place of what stood there. -/
theorem merge_of_atom {t : Tree} (h : t.isTable = false) (below : Tree) : merge below t = t := by
  cases t with
  | leaf o v => rfl
  | list o items => rfl
  | table o es => cases h

/-- Each name leads to what was laid there, over what stood there, or to what stood there if nothing
was. -/
theorem get?_mergeEntries {es : Entries} (hes : (es.map (·.1)).Nodup) (below : Tree) (k : String) :
    (mergeEntries below es).get? k =
      match es.lookup k with
      | none => below.get? k
      | some v => some (merge ((below.get? k).getD empty) v) := by
  induction es generalizing below with
  | nil => rfl
  | cons e es ih =>
    obtain ⟨n, v⟩ := e
    rw [List.map_cons, List.nodup_cons] at hes
    rw [mergeEntries, mergeEntry, ih hes.2, get?_alter]
    by_cases h : k = n
    · subst h
      rw [lookup_eq_none_of_not_mem hes.1]
      simp
    · rw [lookup_cons_ne h, if_neg h]

theorem nodup_names_mergeEntries {below : Tree} (h : below.names.Nodup) (es : Entries) :
    (mergeEntries below es).names.Nodup := by
  induction es generalizing below with
  | nil => exact h
  | cons e es ih =>
    rw [mergeEntries, mergeEntry]
    exact ih (nodup_names_alter h _ _)

theorem nodup_names_merge {below : Tree} (h : below.names.Nodup) (t : Tree) :
    (merge below t).names.Nodup := by
  cases t with
  | table o es => exact nodup_names_mergeEntries h es
  | leaf o v => exact List.nodup_nil
  | list o items => exact List.nodup_nil

/-- A value put at the end of some steps leaves names distinct, whatever it makes of the tree. -/
theorem nodup_names_putAt {t : Tree} (h : t.names.Nodup) (value : Tree) (steps : List Step) :
    (putAt value steps t).names.Nodup := by
  match steps with
  | [] => exact nodup_names_merge h value
  | .name k :: steps => exact nodup_names_alter h _ _
  | [.index i] => exact List.nodup_nil
  | .index i :: _ :: _ => exact List.nodup_nil

theorem isTable_mergeEntries {below : Tree} (h : below.isTable = true) (es : Entries) :
    (mergeEntries below es).isTable = true := by
  induction es generalizing below with
  | nil => exact h
  | cons e es ih =>
    rw [mergeEntries, mergeEntry]
    exact ih (isTable_alter _ _ _)

theorem mem_names_mergeEntries {k : String} {below : Tree} {es : Entries} :
    k ∈ (mergeEntries below es).names ↔ k ∈ below.names ∨ k ∈ es.map (·.1) := by
  induction es generalizing below with
  | nil => simp [mergeEntries]
  | cons e es ih =>
    rw [mergeEntries, mergeEntry, ih, mem_names_alter, List.map_cons, List.mem_cons, or_assoc,
      or_left_comm]

/-- Any entry makes a table out of what stood there. -/
theorem isTable_mergeEntries_of_ne_nil {es : Entries} (h : es ≠ []) (below : Tree) :
    (mergeEntries below es).isTable = true := by
  cases es with
  | nil => exact absurd rfl h
  | cons e es =>
    rw [mergeEntries, mergeEntry]
    exact isTable_mergeEntries (isTable_alter _ _ _) es

theorem entries_mergeEntries_ne_nil {es : Entries} (h : es ≠ []) (below : Tree) :
    (mergeEntries below es).entries ≠ [] := by
  intro hn
  obtain ⟨e, he⟩ := List.exists_mem_of_ne_nil es h
  have : e.1 ∈ (mergeEntries below es).names :=
    mem_names_mergeEntries.2 (.inr (List.mem_map_of_mem (f := (·.1)) he))
  rw [names, hn] at this
  cases this

/-! ## Two names -/

/-- What stands under a name inside of what stands under another one. -/
def at? (outer inner : String) (t : Tree) : Option Tree := (t.get? outer).bind (·.get? inner)

theorem get?_getD_empty (outer inner : String) (t : Tree) :
    ((t.get? outer).getD empty).get? inner = t.at? outer inner := by
  rw [at?]
  cases t.get? outer <;> rfl

/-- Whether a path may change what stands under a name inside of what stands under another one. -/
def Path.Touches (outer inner : String) (p : Path) : Prop :=
  p.root = outer ∧ match p.steps with
    | .name k :: _ => k = inner
    | _ => True

instance (outer inner : String) (p : Path) : Decidable (p.Touches outer inner) := by
  unfold Path.Touches
  split <;> infer_instance

/-- A value at the end of a path leaves alone what the path does not touch. -/
theorem at?_put_of_not_touches {outer inner : String} {p : Path}
    (h : ¬p.Touches outer inner) (t value : Tree) :
    (t.put p value).at? outer inner = t.at? outer inner := by
  rw [put, at?, get?_alter]
  by_cases hr : outer = p.root
  · obtain ⟨root, steps⟩ := p
    obtain rfl : outer = root := hr
    rw [if_pos rfl, Option.bind_some]
    match steps, h with
    | .name k :: steps, h =>
      have hk : inner ≠ k := fun e => h ⟨rfl, e.symm⟩
      rw [putAt, get?_alter, if_neg hk, get?_getD_empty]
    | [], h => exact absurd ⟨rfl, trivial⟩ h
    | .index i :: steps, h => exact absurd ⟨rfl, trivial⟩ h
  · rw [if_neg hr, at?]

/-- A path through what stands under the outer name, beside the inner one, makes a table of it. -/
theorem isTable_putAt_of_not_touches {outer inner : String} {p : Path}
    (h : ¬p.Touches outer inner) (hr : p.root = outer) (t value : Tree) :
    (putAt value p.steps t).isTable = true := by
  obtain ⟨root, steps⟩ := p
  match steps, h with
  | .name k :: steps, _ => exact isTable_alter _ _ _
  | [], h => exact absurd ⟨hr, trivial⟩ h
  | .index i :: steps, h => exact absurd ⟨hr, trivial⟩ h

/-- A value without parts stands at the end of the path where it is put. -/
theorem at?_put_self (outer inner : String) (t : Tree) {value : Tree}
    (h : value.isTable = false) :
    (t.put ⟨outer, [.name inner]⟩ value).at? outer inner = some value := by
  rw [put, at?, get?_alter, if_pos rfl, Option.bind_some, putAt, get?_alter, if_pos rfl, putAt,
    merge_of_atom h]

end Liveness.Settings.Tree
