import Mathlib.Data.List.Induction
import Liveness.Log.Filter

/-! # Directives in order

* `Filter.mem_place`, `Filter.ordered_place`: a directive is put in place of those about the same,
  and longer targets stay in front of shorter ones.
* `Filter.placed`: directives put in place one after another.
* `Filter.mem_placed`: of the directives about the same only the last is left.
* `Filter.targetLength_le_of_find?`: the first directive with a property has a longest target.
* `Filter.flat`: a filter without scoped directives, which open spans have no part in.
* `Filter.Agrees`: two filters that let the same through.
-/

namespace Liveness.Log
set_option autoImplicit false

namespace Directive

theorem sameKey_refl (d : Directive) : d.sameKey d = true := by
  simp [sameKey]

theorem sameKey_comm (a b : Directive) : a.sameKey b = b.sameKey a := by
  simp only [sameKey, eq_comm]

theorem targetLength_le_of_moreSpecific {a b : Directive} (h : a.moreSpecific b = true) :
    b.targetLength ≤ a.targetLength := by
  unfold moreSpecific at h
  split at h
  · exact Nat.le_of_lt (of_decide_eq_true h)
  · omega

theorem targetLength_le_of_not_moreSpecific {a b : Directive} (h : ¬a.moreSpecific b = true) :
    a.targetLength ≤ b.targetLength := by
  unfold moreSpecific at h
  split at h
  · exact Nat.not_lt.1 fun longer => h (decide_eq_true longer)
  · omega

end Directive

namespace Filter

/-! ## One directive -/

/-- Directives with longer targets in front of those with shorter ones. -/
def Ordered (ds : List Directive) : Prop := ds.Pairwise fun a b => b.targetLength ≤ a.targetLength

variable {ds : List Directive} {d e : Directive}

theorem mem_place : e ∈ place d ds ↔ e = d ∨ e ∈ ds ∧ e.sameKey d = false := by
  have others : e ∈ ds.filter (!·.sameKey d) ↔ e ∈ ds ∧ e.sameKey d = false := by
    rw [List.mem_filter, Bool.not_eq_true']
  have parts := List.takeWhile_append_dropWhile (p := (·.moreSpecific d))
    (l := ds.filter (!·.sameKey d))
  rw [place, List.mem_append, List.mem_cons, or_left_comm, ← List.mem_append, parts, others]

/-- Behind the directives that are more specific than another one, no target is longer. -/
theorem targetLength_le_of_mem_dropWhile (ordered : Ordered ds)
    (h : e ∈ ds.dropWhile (·.moreSpecific d)) : e.targetLength ≤ d.targetLength := by
  induction ds with
  | nil => cases h
  | cons a ds ih =>
    obtain ⟨first, rest⟩ := List.pairwise_cons.1 ordered
    rw [List.dropWhile_cons] at h
    split at h
    · exact ih rest h
    · next other =>
      have ha := Directive.targetLength_le_of_not_moreSpecific other
      obtain rfl | behind := List.mem_cons.1 h
      · exact ha
      · exact Nat.le_trans (first e behind) ha

theorem ordered_place (ordered : Ordered ds) : Ordered (place d ds) := by
  have others : Ordered (ds.filter (!·.sameKey d)) := ordered.sublist List.filter_sublist
  have front (a : Directive)
      (ha : a ∈ (ds.filter (!·.sameKey d)).takeWhile (·.moreSpecific d)) :
      d.targetLength ≤ a.targetLength :=
    Directive.targetLength_le_of_moreSpecific (List.all_eq_true.1 List.all_takeWhile a ha)
  have back (b : Directive)
      (hb : b ∈ (ds.filter (!·.sameKey d)).dropWhile (·.moreSpecific d)) :
      b.targetLength ≤ d.targetLength := targetLength_le_of_mem_dropWhile others hb
  refine List.pairwise_append.2 ⟨?_, List.pairwise_cons.2 ⟨back, ?_⟩, ?_⟩
  · exact others.sublist (List.takeWhile_sublist _)
  · exact others.sublist (List.dropWhile_sublist _)
  · intro a ha b hb
    obtain rfl | hb := List.mem_cons.1 hb
    · exact front a ha
    · exact Nat.le_trans (back b hb) (front a ha)

/-! ## Directives one after another -/

/-- Directives put in place one after another. -/
def placed (ds : List Directive) : List Directive := ds.foldl (fun fixed d => place d fixed) []

theorem placed_concat (ds : List Directive) (d : Directive) :
    placed (ds ++ [d]) = place d (placed ds) := by
  rw [placed, List.foldl_append]
  rfl

theorem ordered_placed (ds : List Directive) : Ordered (placed ds) := by
  induction ds using List.reverseRecOn with
  | nil => exact List.Pairwise.nil
  | append_singleton ds d ih =>
    rw [placed_concat]
    exact ordered_place ih

/-- Of the directives about the same only the last is left. -/
theorem mem_placed : e ∈ placed ds ↔ (ds.filter (·.sameKey e)).getLast? = some e := by
  induction ds using List.reverseRecOn with
  | nil => simp [placed]
  | append_singleton ds d ih =>
    rw [placed_concat, mem_place, ih, List.filter_append, Directive.sameKey_comm e d]
    -- A directive with the key of `e` takes the place of `e`, and is now the last with that key.
    cases same : d.sameKey e with
    | true =>
      have own : [d].filter (·.sameKey e) = [d] := by simp [same]
      rw [own, List.getLast?_concat, Option.some_inj]
      simp [eq_comm]
    | false =>
      have other : e ≠ d := by
        rintro rfl
        rw [Directive.sameKey_refl] at same
        cases same
      have own : [d].filter (·.sameKey e) = [] := by simp [same]
      rw [own, List.append_nil]
      simp [other]

/-- The first directive with a property is a longest one with it. -/
theorem targetLength_le_of_find? (ordered : Ordered ds) {p : Directive → Bool}
    (first : ds.find? p = some d) (he : e ∈ ds) (hp : p e = true) :
    e.targetLength ≤ d.targetLength := by
  obtain ⟨-, front, back, rfl, none⟩ := List.find?_eq_some_iff_append.1 first
  obtain before | here | behind := List.mem_append.1 he |>.imp_right List.mem_cons.1
  · have := none e before
    simp [hp] at this
  · exact Nat.le_of_eq (congrArg _ here)
  · exact (List.pairwise_cons.1 (List.pairwise_append.1 ordered).2.1).1 e behind

/-! ## Filters without scoped directives -/

/-- The filter of directives that hold at all times. -/
def flat (fixed : List Directive) : Filter := ⟨fixed, [], .off⟩

theorem foldl_addFixed (plain : ∀ d ∈ ds, d.field = none) (f : Filter) :
    ds.foldl addFixed f = { f with fixed := ds.foldl (fun fixed d => place d fixed) f.fixed } := by
  induction ds generalizing f with
  | nil => rfl
  | cons d ds ih =>
    -- Only the conditions on fields are changed on the way in, and there are none.
    have same : ({ d with field := d.field.map fun m => ⟨m.name, none⟩ } : Directive) = d := by
      rw [plain d List.mem_cons_self, Option.map_none, ← plain d List.mem_cons_self]
    rw [List.foldl_cons, List.foldl_cons, ih fun e he => plain e (List.mem_cons_of_mem _ he),
      addFixed, same]

/-- Directives without conditions on spans and fields make a filter of their own order. -/
theorem ofDirectives_eq_flat (plain : ∀ d ∈ ds, d.span = none ∧ d.field = none) :
    ofDirectives ds = flat (placed ds) := by
  have fixed (d : Directive) (hd : d ∈ ds) : d.isDynamic = false := by
    rw [Directive.isDynamic, (plain d hd).1, (plain d hd).2]
    rfl
  have none : ds.filter (·.isDynamic) = [] :=
    List.filter_eq_nil_iff.2 fun d hd => Bool.eq_false_iff.1 (fixed d hd)
  have all : ds.filter (!·.isDynamic) = ds :=
    List.filter_eq_self.2 fun d hd => by rw [fixed d hd, Bool.not_false]
  rw [ofDirectives, none, all, List.filter_nil, List.append_nil, List.foldl_nil,
    foldl_addFixed fun d hd => (plain d hd).2]
  rfl

variable (fixed : List Directive) (scopes : List Limit) (site : Site)

theorem admitsScoped_flat : (flat fixed).admitsScoped scopes site = false := by
  have nothing : Limit.admits .off site.level = false := by
    cases site.level <;> rfl
  rw [admitsScoped, flat, nothing, Bool.false_and]

theorem admitsEvent_flat :
    (flat fixed).admitsEvent scopes site = (flat fixed).admitsFixed site := by
  rw [admitsEvent, admitsScoped_flat, Bool.false_or]

theorem admitsSpan_flat : (flat fixed).admitsSpan scopes site = (flat fixed).admitsFixed site := by
  have none : (flat fixed).about site = [] := rfl
  rw [admitsSpan, admitsScoped_flat, none, List.isEmpty_nil, Bool.not_true, Bool.and_false,
    Bool.false_or, Bool.false_or]

/-- Filters that let the same through and set the same limits inside spans. -/
structure Agrees (f g : Filter) : Prop where
  event : ∀ scopes site, f.admitsEvent scopes site = g.admitsEvent scopes site
  span : ∀ scopes site, f.admitsSpan scopes site = g.admitsSpan scopes site
  scope : ∀ site fields, f.scope? site fields = g.scope? site fields

theorem agrees_flat {fixed fixed' : List Directive}
    (same : ∀ site, (flat fixed).admitsFixed site = (flat fixed').admitsFixed site) :
    (flat fixed).Agrees (flat fixed') where
  event scopes site := by rw [admitsEvent_flat, admitsEvent_flat, same]
  span scopes site := by rw [admitsSpan_flat, admitsSpan_flat, same]
  scope _ _ := rfl

end Filter
end Liveness.Log
