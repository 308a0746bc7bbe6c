import Liveness.Log.Recorder
import Liveness.Proofs.Lists

/-! # Where the fields of a record come from

* `Fields.mem_overlay`: fields laid over others come from one of the two.
* `Fields.get?_overlay`: the upper value of a name, and the lower one if there is no upper one.
* `fields_of_event`, `fields_of_message`, `fields_of_enter`, `fields_of_exit`: the fields of what is
  written, as an overlay of its own and of those that the spans around it give.
* `mem_fields_of_event`, `mem_fields_of_enter`, `mem_fields_of_exit`: each comes from one of these.
-/

namespace Liveness.Log
set_option autoImplicit false

theorem Fields.mem_overlay {upper lower : Fields} {f : String × Value}
    (h : f ∈ upper.overlay lower) : f ∈ upper ∨ f ∈ lower := by
  obtain below | above := List.mem_append.1 h
  · exact .inr ((List.mem_filter.1 below).1)
  · exact .inl above

theorem Fields.mem_overlay_of_upper {upper lower : Fields} {f : String × Value} (h : f ∈ upper) :
    f ∈ upper.overlay lower := List.mem_append_right _ h

theorem Fields.mem_overlay_of_lower {upper lower : Fields} {f : String × Value} (h : f ∈ lower)
    (free : upper.lookup f.1 = none) : f ∈ upper.overlay lower := by
  refine List.mem_append_left _ (List.mem_filter.2 ⟨h, ?_⟩)
  exact Option.isNone_iff_eq_none.2 free

theorem Fields.nil_overlay (fields : Fields) : Fields.overlay [] fields = fields := by
  simp [Fields.overlay]

theorem Fields.get?_overlay (upper lower : Fields) (key : String) :
    (upper.overlay lower).get? key = (upper.get? key).or (lower.get? key) := by
  have below : (lower.filter fun f => (upper.lookup f.1).isNone).lookup key =
      if (upper.lookup key).isNone then lower.lookup key else none :=
    lookup_filter (fun k => (upper.lookup k).isNone) key lower
  show List.lookup key ((lower.filter fun f => (upper.lookup f.1).isNone) ++ upper) =
    (upper.lookup key).or (lower.lookup key)
  rw [List.lookup_append, below]
  cases upper.lookup key with
  | none => exact Option.or_none
  | some v => rfl

theorem Fields.nodup_overlay {upper lower : Fields} (hu : upper.names.Nodup)
    (hl : lower.names.Nodup) : (upper.overlay lower).names.Nodup := by
  rw [Fields.names, Fields.overlay, List.map_append, List.nodup_append]
  refine ⟨hl.sublist (List.filter_sublist.map _), hu, ?_⟩
  intro k hk k' hk' same
  subst same
  obtain ⟨f, hf, rfl⟩ := List.mem_map.1 hk
  obtain ⟨g, hg, same⟩ := List.mem_map.1 hk'
  have free : upper.lookup f.1 = none := Option.isNone_iff_eq_none.1 (List.mem_filter.1 hf).2
  rw [← same, lookup_of_mem hu hg] at free
  cases free

namespace Recorder

variable {r : Recorder} {level : Level} {target name : String} {fields : Fields} {record : Record}
  {f : String × Value}

theorem fields_of_event {text : Option String} (h : record ∈ r.event level target text fields) :
    record.fields = r.inherited.overlay fields := by
  unfold event at h
  split at h
  · obtain rfl := List.mem_singleton.1 h
    rfl
  · cases h

theorem fields_of_message {text : String} (h : record ∈ r.message level target text) :
    record.fields = r.inherited.overlay [(messageField, .text target)] := by
  unfold message at h
  split at h
  · obtain rfl := List.mem_singleton.1 h
    rfl
  · cases h

theorem fields_of_enter (h : record ∈ (r.enter level target name fields).2) :
    record.fields = fields.overlay r.inherited := by
  unfold enter at h
  dsimp only at h
  split at h
  · obtain rfl := List.mem_singleton.1 h
    exact Fields.nil_overlay _
  · cases h

/-- Only a span that was let through is written at its end, with the fields that it gives. -/
theorem fields_of_exit (h : record ∈ r.exit.2) :
    ∃ time, record.fields = Fields.overlay [(elapsedField, time)] r.inherited := by
  unfold exit at h
  cases hs : r.spans with
  | nil =>
    rw [hs] at h
    cases h
  | cons span spans =>
    rw [hs] at h
    cases span with
    | none => cases h
    | some span =>
      obtain rfl := List.mem_singleton.1 h
      have innermost : r.current? = some span := by simp [current?, visible, hs]
      exact ⟨_, by rw [inherited, innermost]; rfl⟩

theorem mem_fields_of_event {text : Option String} (h : record ∈ r.event level target text fields)
    (hf : f ∈ record.fields) : f ∈ fields ∨ f ∈ r.inherited := by
  rw [fields_of_event h] at hf
  exact (Fields.mem_overlay hf).symm

theorem mem_fields_of_enter (h : record ∈ (r.enter level target name fields).2)
    (hf : f ∈ record.fields) : f ∈ fields ∨ f ∈ r.inherited := by
  rw [fields_of_enter h] at hf
  exact Fields.mem_overlay hf

theorem mem_inherited_of_enter (h : f ∈ (r.enter level target name fields).1.inherited) :
    f ∈ fields ∨ f ∈ r.inherited := by
  unfold enter at h
  dsimp only at h
  split at h
  · exact Fields.mem_overlay h
  · exact .inr h

theorem mem_fields_of_exit (h : record ∈ r.exit.2) (hf : f ∈ record.fields) :
    f.1 = elapsedField ∨ f ∈ r.inherited := by
  obtain ⟨time, fields⟩ := fields_of_exit h
  rw [fields] at hf
  refine (Fields.mem_overlay hf).imp_left fun own => ?_
  rw [List.mem_singleton.1 own]

end Recorder
end Liveness.Log
