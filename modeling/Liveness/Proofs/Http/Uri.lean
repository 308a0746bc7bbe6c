import Liveness.Http.Uri
import Liveness.Proofs.Text.Basic

/-! # What is left of the text of a URI

* `withoutFragment`: a text up to its fragment.
* `Uri.requestTarget_of_parse?`: the router sees that part of the text, or nothing where the URI names
  a host.
* `Uri.parse?_path`: a path of path characters is read whole, with or without a fragment behind it.
-/

namespace Liveness.Http
set_option autoImplicit false

/-! ## Fragments -/

/-- A text up to its fragment. -/
def withoutFragment (text : List Char) : List Char := text.takeWhile (· ≠ '#')

theorem withoutFragment_append {a : List Char} (ha : '#' ∉ a) (b : List Char) :
    withoutFragment (a ++ b) = a ++ withoutFragment b := by
  refine List.takeWhile_append_of_pos ?_
  intro c hc
  exact decide_eq_true fun h => ha (h ▸ hc)

theorem withoutFragment_eq_iff {text a : List Char} (ha : '#' ∉ a) :
    withoutFragment text = a ↔ text = a ∨ (a ++ ['#']) <+: text := by
  constructor
  · intro h
    have split : text = a ++ text.dropWhile (· ≠ '#') := by
      rw [← h, withoutFragment, List.takeWhile_append_dropWhile]
    cases hd : text.dropWhile (· ≠ '#') with
    | nil => exact .inl (by rw [split, hd, List.append_nil])
    | cons c r =>
      have hc : c = '#' := by
        have := List.head?_dropWhile_not (fun c : Char => decide (c ≠ '#')) text
        rw [hd] at this
        simpa using this
      exact .inr ⟨r, by rw [split, hd, hc, List.append_assoc]; rfl⟩
  · rintro (rfl | ⟨r, rfl⟩)
    · simpa [withoutFragment] using withoutFragment_append ha []
    · rw [List.append_assoc, withoutFragment_append ha]
      simp [withoutFragment]

theorem not_mem_takeWhile {p : Char → Bool} {c : Char} (h : p c = false) (text : List Char) :
    c ∉ text.takeWhile p := by
  intro hc
  have := List.all_eq_true.1 (List.all_takeWhile (p := p) (l := text)) c hc
  simp [h] at this

/-- A run of characters with nothing but a fragment behind it is what the fragment leaves. -/
theorem withoutFragment_of_dropWhile {p : Char → Bool} (hp : p '#' = false) {text : List Char}
    (h : withoutFragment (text.dropWhile p) = []) : withoutFragment text = text.takeWhile p := by
  have := withoutFragment_append (not_mem_takeWhile hp text) (text.dropWhile p)
  rwa [List.takeWhile_append_dropWhile, h, List.append_nil] at this

/-! ## Paths and queries -/

namespace PathAndQuery

theorem isPathChar_hash : isPathChar '#' = false := by decide

theorem isQueryChar_hash : isQueryChar '#' = false := by decide

theorem withoutFragment_of_parseQuery? {text query : List Char}
    (h : parseQuery? text = some query) : withoutFragment text = query := by
  unfold parseQuery? at h
  split at h
  · next hd =>
    rw [withoutFragment_of_dropWhile isQueryChar_hash (by rw [hd]; rfl)]
    exact Option.some.inj h
  · next hd =>
    rw [withoutFragment_of_dropWhile isQueryChar_hash (by rw [hd]; rfl)]
    exact Option.some.inj h
  · cases h

/-- A path and a query are kept as written; what is dropped is the fragment. -/
theorem text_of_parse? {text : List Char} {p : PathAndQuery} (h : parse? text = some p)
    (hs : text.head? = some '/') : p.text = withoutFragment text := by
  have hne : text.takeWhile isPathChar ≠ [] := by
    cases text with
    | nil => cases hs
    | cons c text =>
      obtain rfl : c = '/' := by simpa using hs
      rw [List.takeWhile_cons_of_pos (by decide)]
      exact List.cons_ne_nil _ _
  unfold parse? at h
  dsimp only at h
  split at h
  · next hd =>
    obtain rfl := Option.some.inj h
    rw [withoutFragment_of_dropWhile isPathChar_hash (by rw [hd]; rfl)]
    simp [PathAndQuery.text, hne, queryText]
  · next hd =>
    obtain rfl := Option.some.inj h
    rw [withoutFragment_of_dropWhile isPathChar_hash (by rw [hd]; rfl)]
    simp [PathAndQuery.text, hne, queryText]
  · next r hd =>
    obtain ⟨q, hq, rfl⟩ := Option.map_eq_some_iff.1 h
    have clean : '#' ∉ text.takeWhile isPathChar ++ ['?'] := by
      simp [not_mem_takeWhile isPathChar_hash text]
    have := withoutFragment_append clean r
    rw [List.append_assoc, List.singleton_append, ← hd, List.takeWhile_append_dropWhile,
      withoutFragment_of_parseQuery? hq] at this
    simp [PathAndQuery.text, hne, queryText, this]
  · cases h

/-- A path is read whole if nothing but a fragment stands behind it. -/
theorem parse?_append {path rest : List Char} (hp : ∀ c ∈ path, isPathChar c = true)
    (hr : rest = [] ∨ rest.head? = some '#') : parse? (path ++ rest) = some ⟨path, none⟩ := by
  have stop : rest.head?.all (!isPathChar ·) = true := by
    obtain rfl | hash := hr
    · rfl
    · rw [hash]
      decide
  obtain ⟨taken, dropped⟩ := Text.takeWhile_append_stop hp stop
  unfold parse?
  dsimp only
  rw [taken, dropped]
  cases rest with
  | nil => rfl
  | cons c rest =>
    obtain rfl : c = '#' := by simpa using hr
    rfl

end PathAndQuery

/-! ## URIs -/

namespace Uri

theorem byteLength_toList (text : String) : byteLength text.toList = text.utf8ByteSize := by
  have ofList (cs : List Char) : byteLength cs = (String.ofList cs).utf8ByteSize := by
    induction cs with
    | nil => rfl
    | cons c cs ih =>
      rw [byteLength, ih, String.ofList_cons, String.utf8ByteSize_append,
        String.utf8ByteSize_singleton]
  rw [ofList, String.ofList_toList]

theorem length_le_byteLength (text : List Char) : text.length ≤ byteLength text := by
  induction text with
  | nil => exact Nat.le_refl 0
  | cons c text ih =>
    have := c.utf8Size_pos
    rw [List.length_cons, byteLength]
    omega

theorem byteLength_le_of_parse? {text : List Char} {uri : Uri} (h : parse? text = some uri) :
    byteLength text ≤ maxLength := by
  unfold parse? at h
  split at h
  · cases h
  · next long => exact Nat.not_lt.1 long

theorem requestTarget_of_parseHosted? {text : List Char} {uri : Uri}
    (h : parseHosted? text = some uri) : uri.requestTarget = [] := by
  unfold parseHosted? at h
  dsimp only at h
  split at h
  · split at h
    · cases h
    · unfold parseAbsolute? at h
      dsimp only at h
      split at h
      · cases h
      · obtain ⟨p, _, rfl⟩ := Option.map_eq_some_iff.1 h
        rfl
  · split at h
    · obtain rfl := Option.some.inj h
      rfl
    · cases h

/-- The router sees the text up to its fragment, or nothing where the URI names a host. -/
theorem requestTarget_of_parse? {text : List Char} {uri : Uri} (h : parse? text = some uri) :
    uri.requestTarget = withoutFragment text ∨
      (uri.requestTarget = [] ∧ text.head? ≠ some '/') := by
  unfold parse? at h
  split at h
  · cases h
  · split at h
    · cases h
    · obtain rfl := Option.some.inj h
      exact .inl rfl
    · obtain ⟨p, hp, rfl⟩ := Option.map_eq_some_iff.1 h
      exact .inl (PathAndQuery.text_of_parse? hp rfl)
    · next hslash =>
      refine .inr ⟨requestTarget_of_parseHosted? h, ?_⟩
      cases text with
      | nil => simp
      | cons c text =>
        intro hs
        obtain rfl : c = '/' := by simpa using hs
        exact hslash text rfl

/-- A path of path characters is read whole, with or without a fragment behind it. -/
theorem parse?_path {path rest : List Char}
    (hp : ∀ c ∈ '/' :: path, PathAndQuery.isPathChar c = true)
    (hr : rest = [] ∨ rest.head? = some '#')
    (hl : byteLength ('/' :: path ++ rest) ≤ maxLength) :
    parse? ('/' :: path ++ rest) = some (origin ⟨'/' :: path, none⟩) := by
  have := PathAndQuery.parse?_append hp hr
  rw [List.cons_append] at this hl ⊢
  rw [parse?, if_neg (Nat.not_lt.2 hl), this]
  rfl

end Uri
end Liveness.Http
