import Liveness.Toml.Document

/-! # Names in the tables of a document

No name comes twice in a table, since a table is checked when the document ends. A table that is a
value already would escape the check, so it is shown that the reader makes none.

* `Entry.IsAtom`: no table that is a value already.
* `Document.atoms_of_entries?`: the tables that the sections of a document make hold none.
* `nodup_of_parse?`, `nodup_of_lookup_parse?`: the names of a document, and of a table in it.
-/

namespace Liveness.Toml
set_option autoImplicit false

/-! ## Distinct names -/

theorem nodup_eraseDups (names : List String) : names.eraseDups.Nodup := by
  match names with
  | [] => exact List.nodup_nil
  | name :: names =>
    rw [List.eraseDups_cons, List.nodup_cons]
    refine ⟨?_, nodup_eraseDups _⟩
    intro h
    simpa using List.mem_eraseDups.1 h
termination_by names.length
decreasing_by
  have := List.length_filter_le (fun b => !b == name) names
  simp only [List.length_cons]
  omega

namespace Entry

theorem map_fst_members? {es : Entries} {ms : Members} (h : members? es = some ms) :
    ms.map (·.1) = es.map (·.1) := by
  induction es generalizing ms with
  | nil =>
    obtain rfl : [] = ms := by simpa [members?] using h
    rfl
  | cons e es ih =>
    obtain ⟨name, entry⟩ := e
    rw [members?] at h
    split at h
    · next m ms' hm hms =>
      obtain rfl := Option.some.inj h
      obtain ⟨d, -, rfl⟩ := Option.map_eq_some_iff.1 hm
      rw [List.map_cons, List.map_cons, ih hms]
    · cases h

/-- A table that is left when the document ends is that of its entries, whose names are distinct. -/
theorem of_close? {es : Entries} {members : Option Members} {ms : Members}
    (h : close? es members = some (.table ms)) :
    ms = [] ∨ (members = some ms ∧ (es.map (·.1)).Nodup) := by
  unfold close? at h
  split at h
  · split at h
    · split at h
      · split at h
        · cases h
        · obtain ⟨m, -, hm⟩ := Option.map_eq_some_iff.1 h
          cases hm
      · cases h
    · split at h
      · next hd =>
        obtain ⟨ms', hms, hm⟩ := Option.map_eq_some_iff.1 h
        obtain rfl : ms' = ms := by injection hm
        refine .inr ⟨hms, ?_⟩
        rw [hd]
        exact nodup_eraseDups _
      · cases h
  · obtain rfl : [] = ms := by simpa using h
    exact .inl rfl

theorem nodup_of_close? {es : Entries} {ms : Members}
    (h : close? es (members? es) = some (.table ms)) : (ms.map (·.1)).Nodup := by
  obtain rfl | ⟨hm, hd⟩ := of_close? h
  · exact List.nodup_nil
  · rwa [map_fst_members? hm]

/-! ## Entries that are no finished tables -/

/-- An entry other than a table that is a value already. -/
def IsAtom (e : Entry) : Prop := ∀ ms, e ≠ value (.table ms)

theorem nodup_of_datum? {e : Entry} (he : e.IsAtom) {ms : Members}
    (h : datum? e = some (.table ms)) : (ms.map (·.1)).Nodup := by
  cases e with
  | value d =>
    rw [datum?] at h
    exact absurd (congrArg value (Option.some.inj h)) (he ms)
  | moment text =>
    obtain ⟨m, -, hm⟩ := Option.map_eq_some_iff.1 h
    cases hm
  | list items =>
    obtain ⟨ds, -, hd⟩ := Option.map_eq_some_iff.1 h
    cases hd
  | inline es => exact nodup_of_close? h
  | dotted es => exact nodup_of_close? h
  | table defined es => exact nodup_of_close? h
  | tables elements =>
    obtain ⟨ds, -, hd⟩ := Option.map_eq_some_iff.1 h
    cases hd

theorem nodup_of_lookup_members? {es : Entries} (hes : ∀ e ∈ es, e.2.IsAtom) {ms : Members}
    (h : members? es = some ms) {name : String} {inner : Members}
    (hl : ms.lookup name = some (.table inner)) : (inner.map (·.1)).Nodup := by
  induction es generalizing ms with
  | nil =>
    obtain rfl : [] = ms := by simpa [members?] using h
    cases hl
  | cons e es ih =>
    obtain ⟨k, entry⟩ := e
    rw [members?] at h
    split at h
    · next m ms' hm hms =>
      obtain rfl := Option.some.inj h
      obtain ⟨d, hd, rfl⟩ := Option.map_eq_some_iff.1 hm
      rw [List.lookup_cons] at hl
      split at hl
      · obtain rfl := Option.some.inj hl
        exact nodup_of_datum? (hes _ List.mem_cons_self) hd
      · exact ih (fun e he => hes e (List.mem_cons_of_mem _ he)) hms hl
    · cases h

/-! ## Growth -/

/-- Entries none of which is a table that is a value already. -/
def AreAtoms (es : Entries) : Prop := ∀ e ∈ es, e.2.IsAtom

theorem areAtoms_nil : AreAtoms [] := fun _ h => absurd h List.not_mem_nil

theorem areAtoms_append {a b : Entries} (ha : AreAtoms a) (hb : AreAtoms b) : AreAtoms (a ++ b) := by
  intro e he
  obtain he | he := List.mem_append.1 he
  · exact ha e he
  · exact hb e he

theorem areAtoms_concat {es : Entries} (hes : AreAtoms es) (name : String) {entry : Entry}
    (he : entry.IsAtom) : AreAtoms (es ++ [(name, entry)]) := by
  refine areAtoms_append hes ?_
  intro e h
  rw [List.mem_singleton] at h
  rwa [h]

theorem areAtoms_put {es : Entries} (hes : AreAtoms es) (name : String) {entry : Entry}
    (he : entry.IsAtom) : AreAtoms (put name entry es) := by
  intro e h
  obtain ⟨⟨k, old⟩, hk, rfl⟩ := List.mem_map.1 h
  dsimp only
  split
  · exact he
  · exact hes _ hk

theorem isAtom_dotted (es : Entries) : (dotted es).IsAtom := fun _ h => by cases h

theorem isAtom_table (defined : Bool) (es : Entries) : (table defined es).IsAtom :=
  fun _ h => by cases h

theorem isAtom_tables (elements : List Entries) : (tables elements).IsAtom := fun _ h => by cases h

theorem areAtoms_of_assign? {entry : Entry} (he : entry.IsAtom) {name : String}
    {names : List String} {es es' : Entries} (hes : AreAtoms es)
    (h : assign? entry name names es = some es') : AreAtoms es' := by
  cases names with
  | nil =>
    obtain rfl : es ++ [(name, entry)] = es' := by simpa [assign?] using h
    exact areAtoms_concat hes name he
  | cons next more =>
    rw [assign?] at h
    split at h
    · obtain ⟨inner, -, rfl⟩ := Option.map_eq_some_iff.1 h
      exact areAtoms_concat hes name (isAtom_dotted inner)
    · obtain ⟨inner, -, rfl⟩ := Option.map_eq_some_iff.1 h
      exact areAtoms_put hes name (isAtom_dotted inner)
    · cases h

theorem isAtom_of_define? {many : Bool} {body : Entries} {old : Option Entry} {e : Entry}
    (h : define? many body old = some e) : e.IsAtom := by
  unfold define? at h
  split at h
  · cases many
    · obtain rfl := Option.some.inj h
      exact isAtom_table _ _
    · obtain rfl := Option.some.inj h
      exact isAtom_tables _
  · cases many
    · obtain rfl := Option.some.inj h
      exact isAtom_table _ _
    · cases h
  · cases many
    · cases h
    · obtain rfl := Option.some.inj h
      exact isAtom_tables _
  · cases h

theorem areAtoms_of_insert? {many : Bool} {body : Entries} {name : String} {names : List String}
    {es es' : Entries} (hes : AreAtoms es) (h : insert? many body name names es = some es') :
    AreAtoms es' := by
  cases names with
  | nil =>
    rw [insert?] at h
    split at h
    · obtain ⟨e, he, rfl⟩ := Option.map_eq_some_iff.1 h
      exact areAtoms_concat hes name (isAtom_of_define? he)
    · obtain ⟨e, he, rfl⟩ := Option.map_eq_some_iff.1 h
      exact areAtoms_put hes name (isAtom_of_define? he)
  | cons next more =>
    rw [insert?] at h
    split at h
    · obtain ⟨inner, -, rfl⟩ := Option.map_eq_some_iff.1 h
      exact areAtoms_concat hes name (isAtom_table _ inner)
    · obtain ⟨inner, -, rfl⟩ := Option.map_eq_some_iff.1 h
      exact areAtoms_put hes name (isAtom_table _ inner)
    · obtain ⟨inner, -, rfl⟩ := Option.map_eq_some_iff.1 h
      exact areAtoms_put hes name (isAtom_tables _)
    · cases h

end Entry

/-! ## Values -/

namespace Scalar

/-- A value other than a table. -/
def IsAtom (d : Datum) : Prop := ∀ ms, d ≠ .table ms

theorem isAtom_of_bounded? {n : Int} {d : Datum} (h : bounded? n = some d) : IsAtom d := by
  unfold bounded? at h
  split at h
  · obtain rfl := Option.some.inj h
    intro ms hd
    cases hd
  · cases h

theorem isAtom_of_inBase? {base : Nat} {text : List Char} {d : Datum}
    (h : inBase? base text = some d) : IsAtom d := by
  unfold inBase? at h
  split at h
  · exact isAtom_of_bounded? h
  · cases h

theorem isAtom_of_plain? {word : List Char} {d : Datum} (h : plain? word = some d) : IsAtom d := by
  unfold plain? decimal? at h
  split at h
  · obtain rfl := Option.some.inj h
    intro ms hd
    cases hd
  · split at h
    · obtain rfl := Option.some.inj h
      intro ms hd
      cases hd
    · split at h
      · obtain rfl := Option.some.inj h
        intro ms hd
        cases hd
      · split at h
        · exact isAtom_of_bounded? h
        · cases h

theorem isAtom_of_finite? {negative : Bool} {whole fraction : List Nat} {scale : Int} {d : Datum}
    (h : finite? negative whole fraction scale = some d) : IsAtom d := by
  unfold finite? at h
  dsimp only at h
  split at h
  · obtain rfl := Option.some.inj h
    intro ms hd
    cases hd
  · cases h

theorem isAtom_of_scientific? {word : List Char} {rest rest' : List Token} {d : Datum}
    (h : scientific? word rest = some (d, rest')) : IsAtom d := by
  simp only [scientific?, Option.bind_eq_bind, Option.bind_eq_some_iff, Option.some.injEq,
    Prod.mk.injEq] at h
  obtain ⟨_, _, _, _, d', hd, rfl, _⟩ := h
  exact isAtom_of_finite? hd

theorem isAtom_of_fractional? {word behind : List Char} {rest rest' : List Token} {d : Datum}
    (h : fractional? word behind rest = some (d, rest')) : IsAtom d := by
  unfold fractional? at h
  split at h
  · simp only [Option.bind_eq_bind, Option.bind_eq_some_iff, Option.some.injEq,
      Prod.mk.injEq] at h
    obtain ⟨_, _, _, _, d', hd, rfl, _⟩ := h
    exact isAtom_of_finite? hd
  · cases h

theorem isAtom_of_number? {word : List Char} {rest rest' : List Token} {d : Datum}
    (h : number? word rest = some (d, rest')) : IsAtom d := by
  have ofMap {o : Option Datum} {r : List Token} (ho : ∀ d, o = some d → IsAtom d)
      (h : o.map (·, r) = some (d, rest')) : IsAtom d := by
    obtain ⟨d', hd, he⟩ := Option.map_eq_some_iff.1 h
    obtain rfl : d' = d := congrArg Prod.fst he
    exact ho _ hd
  unfold number? at h
  split at h
  · exact ofMap (fun _ => isAtom_of_inBase?) h
  · exact ofMap (fun _ => isAtom_of_inBase?) h
  · exact ofMap (fun _ => isAtom_of_inBase?) h
  · split at h
    · exact isAtom_of_scientific? h
    · split at h
      · exact isAtom_of_fractional? h
      · cases h
      · exact ofMap (fun _ => isAtom_of_plain?) h

theorem isAtom_of_numeral? {word : List Char} {rest rest' : List Token} {e : Entry}
    (h : numeral? word rest = some (e, rest')) : e.IsAtom := by
  obtain ⟨⟨d, r⟩, hd, he⟩ := Option.map_eq_some_iff.1 h
  obtain rfl : Entry.value d = e := congrArg Prod.fst he
  intro ms hm
  exact isAtom_of_number? hd ms (Entry.value.inj hm)

theorem isAtom_of_timestamp? {word : List Char} {colon : Bool} {rest rest' : List Token} {e : Entry}
    (h : timestamp? word colon rest = some (e, rest')) : e.IsAtom := by
  obtain ⟨⟨t, r⟩, -, he⟩ := Option.map_eq_some_iff.1 h
  obtain rfl : Entry.moment t = e := congrArg Prod.fst he
  intro ms hm
  cases hm

theorem isAtom_of_ofWord? {word : List Char} {rest rest' : List Token} {e : Entry}
    (h : ofWord? word rest = some (e, rest')) : e.IsAtom := by
  have flag {b : Bool} {r : List Token} (h : some (Entry.value (.flag b), r) = some (e, rest')) :
      e.IsAtom := by
    obtain rfl : Entry.value (.flag b) = e := congrArg Prod.fst (Option.some.inj h)
    intro ms hm
    cases hm
  unfold ofWord? at h
  split at h
  · exact flag h
  · split at h
    · exact flag h
    · split at h
      · cases h
      · split at h
        · exact isAtom_of_timestamp? h
        · split at h
          · exact isAtom_of_timestamp? h
          · exact isAtom_of_numeral? h

end Scalar

/-! ## Sections -/

namespace Document
open Entry (AreAtoms)

theorem isAtom_of_value {n : Nat} {tokens rest : List Token} {e : Entry}
    (h : value n tokens = some (e, rest)) : e.IsAtom := by
  cases n with
  | zero => cases h
  | succ n =>
    unfold value at h
    split at h
    · obtain rfl : Entry.value _ = e := congrArg Prod.fst (Option.some.inj h)
      intro ms hm
      cases hm
    · exact Scalar.isAtom_of_ofWord? h
    · exact Scalar.isAtom_of_numeral? h
    · obtain ⟨⟨es, r⟩, -, he⟩ := Option.map_eq_some_iff.1 h
      obtain rfl : Entry.list es = e := congrArg Prod.fst he
      intro ms hm
      cases hm
    · split at h
      · obtain rfl : Entry.inline [] = e := congrArg Prod.fst (Option.some.inj h)
        intro ms hm
        cases hm
      · obtain ⟨⟨es, r⟩, -, he⟩ := Option.map_eq_some_iff.1 h
        obtain rfl : Entry.inline es = e := congrArg Prod.fst he
        intro ms hm
        cases hm
    · cases h

theorem areAtoms_of_assignment? {bound : Nat} {s s' : Section} {tokens rest : List Token}
    (hs : AreAtoms s.body) (h : assignment? bound s tokens = some (s', rest)) :
    AreAtoms s'.body := by
  simp only [assignment?, Option.bind_eq_bind, Option.bind_eq_some_iff, Option.some.injEq,
    Prod.mk.injEq] at h
  obtain ⟨_, _, ⟨e, _⟩, he, body, hb, _, _, rfl, _⟩ := h
  exact Entry.areAtoms_of_assign? (isAtom_of_value he) hs hb

theorem body_of_header? {tokens rest : List Token} {s : Section}
    (h : header? tokens = some (s, rest)) : s.body = [] := by
  unfold header? at h
  dsimp only at h
  split at h
  · split at h
    · obtain ⟨r, -, he⟩ := Option.map_eq_some_iff.1 h
      obtain rfl : _ = s := congrArg Prod.fst he
      rfl
    · obtain ⟨r, -, he⟩ := Option.map_eq_some_iff.1 h
      obtain rfl : _ = s := congrArg Prod.fst he
      rfl
    · cases h
  · cases h

theorem areAtoms_cons {current : Section} {done : List Section} (hc : AreAtoms current.body)
    (hd : ∀ s ∈ done, AreAtoms s.body) : ∀ s ∈ current :: done, AreAtoms s.body := by
  intro s hs
  obtain rfl | hs := List.mem_cons.1 hs
  · exact hc
  · exact hd s hs

/-- The sections of a document hold no tables that are values already. -/
theorem areAtoms_of_sections? {bound n : Nat} {current : Section} {done sections : List Section}
    {tokens : List Token} (hc : AreAtoms current.body) (hd : ∀ s ∈ done, AreAtoms s.body)
    (h : sections? bound n current done tokens = some sections) :
    ∀ s ∈ sections, AreAtoms s.body := by
  induction n generalizing current done tokens with
  | zero => cases h
  | succ n ih =>
    rw [sections?] at h
    split at h
    · obtain rfl := Option.some.inj h
      exact areAtoms_cons hc hd
    · obtain ⟨⟨next, rest⟩, hn, h⟩ := Option.bind_eq_some_iff.1 h
      have empty : AreAtoms next.body := by
        rw [body_of_header? hn]
        exact Entry.areAtoms_nil
      exact ih empty (areAtoms_cons hc hd) h
    · obtain ⟨⟨next, rest⟩, hn, h⟩ := Option.bind_eq_some_iff.1 h
      exact ih (areAtoms_of_assignment? hc hn) hd h

theorem areAtoms_of_addTo? {es es' : Entry.Entries} {s : Section} (hes : AreAtoms es)
    (hs : AreAtoms s.body) (h : addTo? es s = some es') : AreAtoms es' := by
  unfold addTo? at h
  split at h
  · obtain rfl := Option.some.inj h
    exact Entry.areAtoms_append hes hs
  · exact Entry.areAtoms_of_insert? hes h

theorem areAtoms_of_foldlM {es es' : Entry.Entries} {sections : List Section} (hes : AreAtoms es)
    (hs : ∀ s ∈ sections, AreAtoms s.body) (h : sections.foldlM addTo? es = some es') :
    AreAtoms es' := by
  induction sections generalizing es with
  | nil =>
    obtain rfl := Option.some.inj h
    exact hes
  | cons s sections ih =>
    rw [List.foldlM_cons] at h
    obtain ⟨next, hn, h⟩ := Option.bind_eq_some_iff.1 h
    have first := areAtoms_of_addTo? hes (hs s List.mem_cons_self) hn
    exact ih first (fun s h => hs s (List.mem_cons_of_mem _ h)) h

theorem areAtoms_of_entries? {sections : List Section} {es : Entry.Entries}
    (hs : ∀ s ∈ sections, AreAtoms s.body) (h : entries? sections = some es) : AreAtoms es := by
  unfold entries? at h
  split at h
  · obtain rfl := Option.some.inj h
    exact Entry.areAtoms_nil
  · next first more =>
    have body := hs first List.mem_cons_self
    split at h
    · obtain rfl := Option.some.inj h
      exact body
    · exact areAtoms_of_foldlM body (fun s h => hs s (List.mem_cons_of_mem _ h)) h

/-- The table of a document is the end of entries that hold no tables that are values already. -/
theorem exists_of_ofTokens? {tokens : List Token} {ms : Members} (h : ofTokens? tokens = some ms) :
    ms = [] ∨ ∃ es, AreAtoms es ∧ Entry.close? es (Entry.members? es) = some (.table ms) := by
  simp only [ofTokens?, Option.bind_eq_bind, Option.bind_eq_some_iff] at h
  obtain ⟨sections, hs, es, he, d, hd, h⟩ := h
  have atoms : AreAtoms es := by
    refine areAtoms_of_entries? ?_ he
    intro s hmem
    refine areAtoms_of_sections? Entry.areAtoms_nil ?_ hs s (List.mem_reverse.1 hmem)
    intro s h
    cases h
  split at h
  · obtain rfl := Option.some.inj h
    exact .inr ⟨es, atoms, hd⟩
  · exact .inl (Option.some.inj h).symm

end Document

/-! ## Documents -/

/-- The names of a document are distinct. -/
theorem nodup_of_parse? {text : List Char} {ms : Members} (h : parse? text = some ms) :
    (ms.map (·.1)).Nodup := by
  obtain ⟨tokens, -, h⟩ := Option.bind_eq_some_iff.1 h
  obtain rfl | ⟨es, -, hc⟩ := Document.exists_of_ofTokens? h
  · exact List.nodup_nil
  · exact Entry.nodup_of_close? hc

/-- So are those of a table in it. -/
theorem nodup_of_lookup_parse? {text : List Char} {ms inner : Members} (h : parse? text = some ms)
    {name : String} (hl : ms.lookup name = some (.table inner)) : (inner.map (·.1)).Nodup := by
  obtain ⟨tokens, -, h⟩ := Option.bind_eq_some_iff.1 h
  obtain rfl | ⟨es, atoms, hc⟩ := Document.exists_of_ofTokens? h
  · cases hl
  · obtain rfl | ⟨hm, -⟩ := Entry.of_close? hc
    · cases hl
    · exact Entry.nodup_of_lookup_members? atoms hm hl

end Liveness.Toml
