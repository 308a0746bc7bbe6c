import Liveness.Proofs.Http.Uri
import Liveness.Route

/-! # Which texts lead to the health check

* `IsHealthTarget`: the path of the health check, alone or in front of a fragment.
* `dispatch_parse?`: exactly these texts are answered `ok`, whatever the method, and every other URI
  is answered as not found.
-/

namespace Liveness
set_option autoImplicit false

open Http (Method Uri withoutFragment)

/-- A text that is short enough for a URI and is the path of the health check, or begins with it and
the mark of a fragment. -/
def IsHealthTarget (text : String) : Prop :=
  text.utf8ByteSize ≤ 65534 ∧ (text = "/healthz" ∨ "/healthz#".toList <+: text.toList)

theorem healthPath_clean : '#' ∉ healthPath.toList := by decide

theorem dispatch_eq_healthy_iff (m : Method) (uri : Uri) :
    dispatch m uri = .healthy ↔ uri.requestTarget = healthPath.toList := by
  have text : String.ofList uri.requestTarget = healthPath ↔
      uri.requestTarget = healthPath.toList := by
    rw [← String.toList_inj, String.toList_ofList]
  rw [dispatch, route, ← text]
  split
  · next h => simp [h]
  · next h => simp [h, Reply.healthy, Reply.notFound, healthBody]

theorem dispatch_eq_healthy_or (m : Method) (uri : Uri) :
    dispatch m uri = .healthy ∨ dispatch m uri = .notFound := by
  rw [dispatch, route]
  split
  · exact .inl rfl
  · exact .inr rfl

theorem healthTarget_text_iff (text : String) :
    withoutFragment text.toList = healthPath.toList ↔
      text = "/healthz" ∨ "/healthz#".toList <+: text.toList := by
  rw [Http.withoutFragment_eq_iff healthPath_clean, String.toList_inj]
  rfl

theorem length_le_of_parse? {text : String} {uri : Uri} (h : Uri.parse? text.toList = some uri) :
    text.utf8ByteSize ≤ 65534 := by
  rw [← Uri.byteLength_toList]
  exact Uri.byteLength_le_of_parse? h

/-- Among the texts of URIs, the router answers those of the health check. -/
theorem dispatch_of_parse? {text : String} {uri : Uri} (m : Method)
    (h : Uri.parse? text.toList = some uri) :
    dispatch m uri = .healthy ↔ IsHealthTarget text := by
  rw [dispatch_eq_healthy_iff, IsHealthTarget, and_iff_right (length_le_of_parse? h),
    ← healthTarget_text_iff]
  obtain target | ⟨target, slash⟩ := Uri.requestTarget_of_parse? h
  · rw [target]
  · rw [target]
    constructor
    · intro hp
      cases hp
    · intro hp
      have : text.toList.head? = healthPath.toList.head? := by
        rw [← hp, withoutFragment]
        cases hd : text.toList with
        | nil => rfl
        | cons c cs =>
          rw [hd] at hp
          have hc : c ≠ '#' := by
            rintro rfl
            cases hp
          simp [hc]
      exact absurd this slash

theorem healthPath_toList : healthPath.toList = '/' :: ['h', 'e', 'a', 'l', 't', 'h', 'z'] := by
  decide

theorem exists_append_of_healthText {text : String}
    (h : text = "/healthz" ∨ "/healthz#".toList <+: text.toList) :
    ∃ rest, text.toList = healthPath.toList ++ rest ∧ (rest = [] ∨ rest.head? = some '#') := by
  have mark : "/healthz#".toList = healthPath.toList ++ ['#'] := by decide
  obtain rfl | ⟨r, hr⟩ := h
  · exact ⟨[], (List.append_nil _).symm, .inl rfl⟩
  · rw [mark, List.append_assoc] at hr
    exact ⟨'#' :: r, hr.symm, .inr rfl⟩

/-- The texts of the health check are texts of URIs. -/
theorem exists_parse?_of_isHealthTarget {text : String} (h : IsHealthTarget text) :
    ∃ uri, Uri.parse? text.toList = some uri := by
  obtain ⟨hl, ht⟩ := h
  obtain ⟨rest, hrest, stop⟩ := exists_append_of_healthText ht
  rw [← Uri.byteLength_toList, hrest, healthPath_toList] at hl
  have path : ('/' :: ['h', 'e', 'a', 'l', 't', 'h', 'z']).all
      Http.PathAndQuery.isPathChar = true := by decide
  rw [hrest, healthPath_toList]
  exact ⟨_, Uri.parse?_path (List.all_eq_true.1 path) stop hl⟩

/-- A text is answered `ok` if and only if it is one of the health check. Any other URI is not found,
in each of the four forms, and the method has no influence. -/
theorem dispatch_parse? (m : Method) (text : String) :
    ((Uri.parse? text.toList).map (dispatch m) = some ⟨.ok, "ok"⟩ ↔ IsHealthTarget text) ∧
      (∀ uri, Uri.parse? text.toList = some uri → ¬IsHealthTarget text →
        dispatch m uri = ⟨.notFound, ""⟩) ∧
      ∀ m' uri, dispatch m' uri = dispatch m uri := by
  refine ⟨⟨?_, ?_⟩, ?_, fun _ _ => rfl⟩
  · intro h
    obtain ⟨uri, hu, hd⟩ := Option.map_eq_some_iff.1 h
    exact (dispatch_of_parse? m hu).1 hd
  · intro h
    obtain ⟨uri, hu⟩ := exists_parse?_of_isHealthTarget h
    exact Option.map_eq_some_iff.2 ⟨uri, hu, (dispatch_of_parse? m hu).2 h⟩
  · intro uri hu hn
    refine (dispatch_eq_healthy_or m uri).resolve_left ?_
    exact fun hd => hn ((dispatch_of_parse? m hu).1 hd)

end Liveness
