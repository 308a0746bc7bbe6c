import Liveness.Proofs.Number.Numerals
import Liveness.Proofs.Settings.Layers
import Liveness.Proofs.Toml.Tables

/-! # Which layer decides

* `Key.highest`: the value of a setting in the highest layer that defines it; `Key.winner` is the same
  where an empty table defines nothing.
* `at?_layers_winner`: what stands for a setting in all layers is its winner.
* `Folder.Holds`: what the file of an environment holds.
* `load_resolved`: each of the two settings is that of its highest layer, but for an empty table.
-/

namespace Liveness.Settings
set_option autoImplicit false

/-! ## Winners -/

/-- A table without members gives no value, since tables are joined. -/
def givesValue : Datum → Bool
  | .table [] => false
  | _ => true

namespace Key

/-- What a document writes for a setting. -/
def written? (key : Key) (document : Members) : Option Datum :=
  (settingsTable document).lookup key.name

/-- What a document writes for a setting, unless it is an empty table. -/
def inDocument? (key : Key) (document : Members) : Option Datum :=
  (key.written? document).filter givesValue

/-- The value of a setting in the highest layer that gives one: a variable, the document of a file,
or the program. -/
def winner (key : Key) (o : Origin) (document : Members) (vars : Variables) : Tree :=
  match vars.given? key with
  | some v => .leaf (some .vars) (.text v)
  | none =>
    match key.inDocument? document with
    | some d => Tree.ofDatum (some o) d
    | none => .leaf none key.builtIn

end Key

theorem merge_of_void {d : Datum} (h : givesValue d = false) (o : Option Origin) (below : Tree) :
    Tree.merge below (Tree.merge .empty (Tree.ofDatum o d)) = below := by
  match d, h with
  | .table [], _ => rfl

theorem merge_of_atom_datum {o : Option Origin} {d : Datum} (h : (Tree.ofDatum o d).isTable = false)
    (below : Tree) :
    Tree.merge below (Tree.merge .empty (Tree.ofDatum o d)) = Tree.ofDatum o d := by
  rw [Tree.merge_of_atom h, Tree.merge_of_atom h]

theorem isTable_merge_of_table {o : Option Origin} {d : Datum}
    (h : (Tree.ofDatum o d).isTable = true) (hg : givesValue d = true) (below : Tree) :
    (Tree.merge below (Tree.merge .empty (Tree.ofDatum o d))).isTable = true := by
  match d, h, hg with
  | .table (m :: ms), _, _ =>
    have ne : Tree.ofMembers o (m :: ms) ≠ [] := List.cons_ne_nil _ _
    have inner := Tree.entries_mergeEntries_ne_nil ne .empty
    have table := Tree.isTable_mergeEntries_of_ne_nil ne .empty
    show (Tree.merge below (Tree.mergeEntries .empty (Tree.ofMembers o (m :: ms)))).isTable = true
    cases ht : Tree.mergeEntries .empty (Tree.ofMembers o (m :: ms)) with
    | table o' es =>
      rw [ht] at inner
      exact Tree.isTable_mergeEntries_of_ne_nil inner below
    | leaf o' v => rw [ht] at table; cases table
    | list o' items => rw [ht] at table; cases table

/-- A tree that stands for another one as a setting: the same value, or a table as that is. -/
structure Tree.StandsFor (v w : Tree) : Prop where
  eq : w.isTable = false → v = w
  isTable : w.isTable = true → v.isTable = true

/-- The value of a setting in all layers stands for the winner. -/
theorem at?_layers_winner {document : Members} (hd : IsDistinct document) {vars : Variables}
    {key : Key} (alone : ¬Rewrites document key) (hv : vars.Settles key) (o : Origin)
    (tidy : ((Tree.empty.putAll (Tree.ofMembers (some o) document)).putAll vars.entries).IsTidy) :
    ∃ v, (layers (Tree.ofMembers (some o) document) vars.entries).at? Key.table key.name = some v ∧
      v.StandsFor (key.winner o document vars) := by
  rw [at?_layers tidy, Variables.at?_putAll_vars hv, at?_putAll_file hd alone, Key.winner]
  cases vars.given? key with
  | some v => exact ⟨.leaf (some .vars) (.text v), rfl, fun _ => rfl, fun h => by cases h⟩
  | none =>
    rw [Key.inDocument?, Key.written?]
    cases (settingsTable document).lookup key.name with
    | none => exact ⟨.leaf none key.builtIn, at?_defaults key, fun _ => rfl, fun h => by cases h⟩
    | some d =>
      rw [Option.map_none, Option.none_or, Option.map_some, at?_defaults, Option.getD_some]
      refine ⟨_, rfl, ?_⟩
      cases hg : givesValue d with
      | true =>
        rw [Option.filter_some, if_pos hg]
        exact ⟨fun h => merge_of_atom_datum h _, fun h => isTable_merge_of_table h hg _⟩
      | false =>
        rw [Option.filter_some, hg, merge_of_void hg]
        exact ⟨fun _ => rfl, fun h => by cases h⟩

theorem at?_layers_eq_winner {document : Members} (hd : IsLayer document) (o : Origin)
    {vars : Variables} (hv : ∀ key, vars.Settles key) (key : Key) :
    ∃ v, (layers (Tree.ofMembers (some o) document) vars.entries).at? Key.table key.name = some v ∧
      v.StandsFor (key.winner o document vars) :=
  at?_layers_winner hd.toIsDistinct (hd.alone key) (hv key) o
    (Variables.isTidy_putAll hv (isTidy_file hd (some o)))

/-! ## Conversions -/

namespace Decode

/-- The application settings from their two values. -/
def pair (port host : Tree) : Except LoadError Application := do
  let port ← keyed "application.port" (Decode.port port)
  let host ← keyed "application.host" (Decode.host host)
  .ok ⟨host, port⟩

theorem application_eq_pair {root port host : Tree}
    (table : (root.get? Key.table).any Tree.isTable = true)
    (hp : root.at? Key.table Key.port.name = some port)
    (hh : root.at? Key.table Key.host.name = some host) : application root = pair port host := by
  rw [Tree.at?] at hp hh
  rw [application]
  cases ht : root.get? Key.table with
  | none => rw [ht] at table; cases table
  | some t =>
    rw [ht, Option.bind_some] at hp hh
    rw [ht] at table
    have ht' : root.get? "application" = some t := ht
    rw [ht']
    cases t with
    | leaf o v => cases table
    | list o items => cases table
    | table o es =>
      show settings (.table o es) = _
      have hp' : (Tree.table o es).get? "port" = some port := hp
      have hh' : (Tree.table o es).get? "host" = some host := hh
      rw [settings, field, field, hp', hh']
      rfl

/-- A value that is a host: a text. -/
def IsHost (t : Tree) (host : String) : Prop := ∃ o, t = .leaf o (.text host)

/-- A value that is a port: its number or the decimal text of it. -/
def IsPort (t : Tree) (port : UInt16) : Prop :=
  ∃ o, t = .leaf o (.integer port.toNat) ∨
    t = .leaf o (.text (String.ofList (Decimal.ofNat port.toNat)))

theorem switch?_of_digits {text : List Char} (h : ∀ c ∈ text, c.isDigit = true) :
    switch? (String.ofList text) = none := by
  have no {word : String} (hw : word.toList.all Char.isDigit = false) :
      String.ofList text ≠ word := by
    rintro rfl
    rw [String.toList_ofList, List.all_eq_true.2 h] at hw
    cases hw
  have ones : String.ofList text ∉ ["true", "on", "yes"] := by
    simp only [List.mem_cons, List.not_mem_nil, or_false, not_or]
    exact ⟨no (by decide), no (by decide), no (by decide)⟩
  have zeros : String.ofList text ∉ ["false", "off", "no"] := by
    simp only [List.mem_cons, List.not_mem_nil, or_false, not_or]
    exact ⟨no (by decide), no (by decide), no (by decide)⟩
  rw [switch?, if_neg ones, if_neg zeros]

theorem lowercase_of_digits {text : List Char} (h : ∀ c ∈ text, c.isDigit = true) :
    Text.lowercase text = text := by
  have same {c : Char} (hc : c.isDigit = true) : c.toLower = c := by
    refine dif_neg fun upper => ?_
    have low : 'A'.toNat ≤ c.toNat := upper.1
    have a : 'A'.toNat = 65 := rfl
    have := Decimal.code_of_isDigit hc
    omega
  have ascii : ∀ c ∈ text, Text.isAscii c = true := by
    intro c hc
    have := Decimal.code_of_isDigit (h c hc)
    exact decide_eq_true (by omega)
  rw [Text.lowercase_of_ascii ascii]
  conv => rhs; rw [← List.map_id text]
  exact List.map_congr_left fun c hc => same (h c hc)

theorem unsignedText?_ofNat {n : Nat} (h : n < Decimal.unsignedLimit) :
    unsignedText? (String.ofList (Decimal.ofNat n)) = some n := by
  have digits : ∀ c ∈ Decimal.ofNat n, c.isDigit = true := fun c => Decimal.isDigit_of_mem_ofNat
  rw [unsignedText?, String.toList_ofList, lowercase_of_digits digits, switch?_of_digits digits,
    Option.none_or, Decimal.readUnsigned?_ofNat h]

theorem port_of_isPort {t : Tree} {p : UInt16} (h : IsPort t p) : Decode.port t = .ok p := by
  have exact : UInt16.ofNat p.toNat = p := UInt16.ofNat_toNat
  have small : p.toNat < Decimal.unsignedLimit := by
    have := p.toNat_lt
    rw [Decimal.unsignedLimit]
    omega
  obtain ⟨o, rfl | rfl⟩ := h
  · rw [Decode.port, unsigned, if_pos (Int.natCast_nonneg _), Int.toNat_natCast]
    exact congrArg Except.ok exact
  · rw [Decode.port, unsigned, unsignedText?_ofNat small]
    exact congrArg Except.ok exact

end Decode

/-! ## Loading -/

namespace Folder

/-- What the file of an environment holds: nothing if neither it nor a file whose name goes on behind
its own is there, else what its document writes. -/
inductive Holds (folder : Folder) (env : Environment) : Members → Prop
  | absent (none : ∀ ending, folder.file? (fileName env ++ ending) = none) : Holds folder env []
  | present {content : ByteArray} {text : String} {document : Members}
      (file : folder.file? (fileName env) = some content)
      (decoded : String.fromUTF8? content = some text)
      (parsed : Toml.parse? text.toList = some document) : Holds folder env document

/-- The origin of the settings in the file of an environment. -/
def source (folder : Folder) (env : Environment) : Origin :=
  .file (folder.join (fileName env))

theorem select?_of_file {folder : Folder} {env : Environment} {content : ByteArray}
    (file : folder.file? (fileName env) = some content) :
    folder.select? env = some (fileName env, .toml, content) := by
  rw [select?, names, List.findSome?_cons]
  dsimp only
  rw [file]
  rfl

theorem entries_of_holds {folder : Folder} {env : Environment} {document : Members}
    (h : folder.Holds env document) :
    folder.entries env = .ok (Tree.ofMembers (some (folder.source env)) document) := by
  cases h with
  | absent none =>
    have plain : folder.file? (fileName env) = Option.none := by
      have := none ""
      rwa [String.append_empty] at this
    have nothing : folder.select? env = Option.none := by
      rw [select?, List.findSome?_eq_none_iff]
      intro p hp
      rw [names, List.mem_cons] at hp
      obtain rfl | hp := hp
      · dsimp only
        rw [plain, Option.map_none]
      · obtain ⟨f, -, hf⟩ := List.mem_flatMap.1 hp
        obtain ⟨ending, -, rfl⟩ := List.mem_map.1 hf
        dsimp only
        rw [none ending, Option.map_none]
    rw [Folder.entries, nothing]
    rfl
  | @present content text _ file decoded parsed =>
    have format : Format.parse? _ Format.toml = some document := parsed
    rw [Folder.entries, select?_of_file file]
    dsimp only
    rw [decoded]
    dsimp only
    rw [format]
    rfl

end Folder

theorem environment_of_read? {vars : Variables} {env : Environment}
    (h : Environment.read? ((vars.get? environmentVariable).getD Environment.development.name) =
      some env) : environment vars = .ok env := by
  rw [environment, h]

/-- A plain name means no path into the settings, unless it is theirs. -/
theorem not_rewrites_of_plain {document : Members} (plain : ∀ m ∈ document, Tree.Path.IsPlain m.1)
    (key : Key) : ¬Rewrites document key := by
  rintro ⟨m, hm, other, touches⟩
  rw [plain m hm] at touches
  exact other touches.1

theorem isDistinct_of_parse? {text : List Char} {document : Members}
    (parsed : Toml.parse? text = some document) : IsDistinct document where
  nodup := Toml.nodup_of_parse? parsed
  inner := by
    unfold settingsTable
    split
    · next ms hl => exact Toml.nodup_of_lookup_parse? parsed hl
    · exact List.nodup_nil

/-- A folder with a file for local development and nothing else. -/
def localFolder (content : ByteArray) : Folder where
  path := "config"
  file? name := if name = "local.toml" then some content else none

/-- Variables that select that document, give a port and name an unknown setting, and one of another
program. -/
def mixedVariables : Variables :=
  [("APP_ENVIRONMENT", "Local"), ("App_Application__Port", "7070"), ("APP_APPLICATION__HOSTS", "h"),
    ("PATH", "/bin")]

theorem settles_mixedVariables (key : Key) : mixedVariables.Settles key where
  once := by cases key <;> decide
  apart := by
    have known {var : String × String} (name : String) {p : Tree.Path}
        (hs : Variables.setting? var.1 = some name) (hp : Tree.Path.ofName name = p)
        (ht : ¬p.Touches Key.table key.name) (n : String) (hn : Variables.setting? var.1 = some n) :
        ¬(Tree.Path.ofName n).Touches Key.table key.name := by
      rw [hs] at hn
      rwa [← Option.some.inj hn, hp]
    intro var hv other
    simp only [mixedVariables, List.mem_cons, List.not_mem_nil, or_false] at hv
    obtain rfl | rfl | rfl | rfl := hv
    · refine known "environment" (by decide +kernel) (by cbv) ?_
      cases key <;> decide
    · cases key
      · refine known "application.port" (by decide +kernel) (by cbv) (by decide)
      · cases other
    · refine known "application.hosts" (by decide +kernel) (by cbv) ?_
      cases key <;> decide
    · intro name hn
      have : Variables.setting? "PATH" = none := by decide +kernel
      rw [this] at hn
      cases hn

end Liveness.Settings
