import Mathlib.Data.List.Basic

/-! # Lists of named values, and of what may not be read

* `lookup_cons_ne`, `lookup_eq_none_of_not_mem`: entries of other names are passed over.
* `lookup_filter`: a look-up in the entries whose names are kept.
* `lookup_of_mem`: where names are distinct, an entry is found under its name.
* `mapM_eq_filterMap`, `mapM_eq_none`: a list is read as a whole or not at all.
-/

namespace Liveness
set_option autoImplicit false

variable {α β : Type}

/-! ## Look-ups -/

section
variable [BEq α] [LawfulBEq α] {entries : List (α × β)} {k : α}

theorem lookup_cons_ne {name : α} (h : k ≠ name) (v : β) (entries : List (α × β)) :
    ((name, v) :: entries).lookup k = entries.lookup k := by
  rw [List.lookup_cons, beq_eq_false_iff_ne.2 h]

theorem lookup_eq_none_of_not_mem (h : k ∉ entries.map (·.1)) : entries.lookup k = none := by
  refine List.lookup_eq_none_iff.2 ?_
  intro e he
  rw [bne_iff_ne]
  rintro rfl
  exact h (List.mem_map_of_mem (f := (·.1)) he)

theorem lookup_filter (p : α → Bool) (k : α) (entries : List (α × β)) :
    (entries.filter fun e => p e.1).lookup k = if p k then entries.lookup k else none := by
  induction entries with
  | nil => exact (ite_self none).symm
  | cons e entries ih =>
    obtain ⟨name, v⟩ := e
    rw [List.filter_cons]
    by_cases same : k = name
    · subst same
      split
      · rw [List.lookup_cons_self, List.lookup_cons_self]
      · next dropped => rw [ih, if_neg dropped]
    · rw [lookup_cons_ne same, ← ih]
      split
      · rw [lookup_cons_ne same]
      · rfl

theorem lookup_of_mem (h : (entries.map (·.1)).Nodup) {e : α × β} (he : e ∈ entries) :
    entries.lookup e.1 = some e.2 := by
  obtain ⟨l₁, l₂, rfl⟩ := List.append_of_mem he
  refine List.lookup_eq_some_iff.2 ⟨l₁, l₂, rfl, ?_⟩
  intro p hp
  rw [List.map_append, List.map_cons, List.nodup_append] at h
  exact bne_iff_ne.2 fun eq => h.2.2 p.1 (List.mem_map_of_mem hp) e.1 List.mem_cons_self eq.symm

end

/-! ## Readings -/

theorem mapM_eq_filterMap {f : α → Option β} {l : List α}
    (h : ∀ a ∈ l, (f a).isSome = true) : l.mapM f = some (l.filterMap f) := by
  induction l with
  | nil => rfl
  | cons a l ih =>
    obtain ⟨b, hb⟩ := Option.isSome_iff_exists.1 (h a List.mem_cons_self)
    rw [List.mapM_cons, hb, ih fun a' ha => h a' (List.mem_cons_of_mem _ ha),
      List.filterMap_cons_some hb]
    rfl

theorem mapM_eq_none {f : α → Option β} {l : List α} {a : α} (ha : a ∈ l) (h : f a = none) :
    l.mapM f = none := by
  induction l with
  | nil => cases ha
  | cons b l ih =>
    rw [List.mapM_cons]
    obtain rfl | ha := List.mem_cons.1 ha
    · rw [h]
      rfl
    · rw [ih ha]
      cases f b <;> rfl

end Liveness
