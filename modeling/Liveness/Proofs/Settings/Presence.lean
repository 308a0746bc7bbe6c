import Liveness.Proofs.Settings.Precedence

/-! # What a file that is there does

* `Key.Reads`: a value gives a setting of the application.
* `load_eq_ok_iff`: settings are loaded when both can be read from the layers.
* `Variables.Overrides`: some variable touches a setting.
* `reads_of_inDocument`, `load_eq_ok_iff_winner`: what a document does for one setting and for both.
* `load_present`: a file of text takes effect or is reported, and one that is no text is passed over.
-/

namespace Liveness.Settings
set_option autoImplicit false

/-! ## Reading the settings -/

/-- A value gives a setting of the application. -/
def Key.Reads (key : Key) (t : Tree) (a : Application) : Prop :=
  match key with
  | host => Decode.host t = .ok a.host
  | port => Decode.port t = .ok a.port

theorem Key.not_reads_of_isTable (key : Key) {t : Tree} (h : t.isTable = true) (a : Application) :
    ¬key.Reads t a := by
  cases t with
  | leaf o v => cases h
  | list o items => cases h
  | table o es =>
    cases key with
    | host => exact fun read => nomatch read
    | port => exact fun read => nomatch read

theorem Tree.StandsFor.reads_iff {v w : Tree} (h : v.StandsFor w) (key : Key) (a : Application) :
    key.Reads v a ↔ key.Reads w a := by
  cases hw : w.isTable with
  | true =>
    have refused := key.not_reads_of_isTable (h.isTable hw) a
    exact iff_of_false refused (key.not_reads_of_isTable hw a)
  | false => rw [h.eq hw]

theorem Decode.pair_eq_ok_iff {port host : Tree} {a : Application} :
    Decode.pair port host = .ok a ↔ Key.port.Reads port a ∧ Key.host.Reads host a := by
  show _ ↔ Decode.port port = .ok a.port ∧ Decode.host host = .ok a.host
  rw [Decode.pair]
  cases hp : Decode.port port with
  | error m => simp [Decode.keyed, Except.mapError, bind, Except.bind]
  | ok p =>
    cases hh : Decode.host host with
    | error m => simp [Decode.keyed, Except.mapError, bind, Except.bind]
    | ok h =>
      obtain ⟨host', port'⟩ := a
      simp [Decode.keyed, Except.mapError, bind, Except.bind, and_comm]

section Load
variable {folder : Folder} {vars : Variables} {env : Environment}
  (selected : environment vars = .ok env)
include selected

theorem load_of_environment : load folder vars =
    match folder.entries env with
    | .error path => .error (.malformedFile path)
    | .ok file => Decode.application (layers file vars.entries) := by
  rw [load, selected]
  show (do let file ← (folder.entries env).mapError _; _) = _
  cases folder.entries env <;> rfl

variable {file : Tree.Entries} (read : folder.entries env = .ok file)
include read

theorem load_eq_application :
    load folder vars = Decode.application (layers file vars.entries) := by
  rw [load_of_environment selected, read]

theorem load_eq_ok_iff (tidy : ((Tree.empty.putAll file).putAll vars.entries).IsTidy)
    (a : Application) :
    load folder vars = .ok a ↔
      ∀ key : Key, ∃ v, (layers file vars.entries).at? Key.table key.name = some v ∧
        key.Reads v a := by
  obtain ⟨p, hp⟩ := exists_at?_layers tidy .port
  obtain ⟨h, hh⟩ := exists_at?_layers tidy .host
  rw [load_eq_application selected read, Decode.application_eq_pair (isTable_layers tidy) hp hh,
    Decode.pair_eq_ok_iff]
  constructor
  · rintro ⟨readP, readH⟩ key
    cases key with
    | host => exact ⟨h, hh, readH⟩
    | port => exact ⟨p, hp, readP⟩
  · intro both
    obtain ⟨p', hp', readP⟩ := both .port
    obtain ⟨h', hh', readH⟩ := both .host
    rw [hp] at hp'
    rw [hh] at hh'
    obtain rfl := Option.some.inj hp'
    obtain rfl := Option.some.inj hh'
    exact ⟨readP, readH⟩

end Load

/-! ## Variables that touch a setting -/

/-- Some variable gives a setting whose path touches this one: its own, or one through or above it. -/
def Variables.Overrides (vars : Variables) (key : Key) : Prop :=
  ∃ var ∈ vars, ∃ name, Variables.setting? var.1 = some name ∧
    (Tree.Path.ofName name).Touches Key.table key.name

theorem Variables.not_isVariable {vars : Variables} {key : Key} (h : ¬vars.Overrides key) :
    ∀ var ∈ vars, key.isVariable var.1 = false := by
  intro var hvar
  rw [← Bool.not_eq_true]
  intro hv
  refine h ⟨var, hvar, _, setting?_of_isVariable hv, ?_⟩
  rw [Key.ofName_setting]
  exact ⟨rfl, rfl⟩

theorem Variables.settles_of_not_overrides {vars : Variables} {key : Key}
    (h : ¬vars.Overrides key) : vars.Settles key where
  once := by
    have none : vars.filter (key.isVariable ·.1) = [] := by
      simpa using not_isVariable h
    rw [none]
    exact Nat.zero_le 1
  apart var hvar _ name hname touches := h ⟨var, hvar, name, hname, touches⟩

theorem Key.winner_of_not_overrides {vars : Variables} {key : Key} (h : ¬vars.Overrides key)
    {document : Members} {d : Datum} (defined : key.inDocument? document = some d) (o : Origin) :
    key.winner o document vars = Tree.ofDatum (some o) d := by
  have none : vars.given? key = none := by
    simpa [Variables.given?] using Variables.not_isVariable h
  rw [Key.winner, none, defined]

/-! ## Files -/

/-- The same folder with nothing in it. -/
def Folder.emptied (folder : Folder) : Folder := { folder with file? := fun _ => none }

theorem Folder.entries_emptied (folder : Folder) (env : Environment) :
    folder.emptied.entries env = .ok [] :=
  entries_of_holds (.absent fun _ => rfl)

section Present
variable {folder : Folder} {vars : Variables} {env : Environment} {content : ByteArray}
  (selected : environment vars = .ok env) (file : folder.file? (Folder.fileName env) = some content)
include selected file

theorem load_of_undecodable (undecodable : String.fromUTF8? content = none) :
    load folder vars = load folder.emptied vars := by
  have nothing : folder.entries env = .ok [] := by
    rw [Folder.entries, Folder.select?_of_file file]
    dsimp only
    rw [undecodable]
  rw [load_eq_application selected nothing,
    load_eq_application selected (folder.entries_emptied env)]

variable {text : String} (decoded : String.fromUTF8? content = some text)
include decoded

theorem load_of_malformed (malformed : Toml.parse? text.toList = none) :
    load folder vars = .error (.malformedFile (folder.join (Folder.fileName env))) := by
  have refused : folder.entries env = .error (folder.join (Folder.fileName env)) := by
    have format : Format.parse? text Format.toml = none := malformed
    rw [Folder.entries, Folder.select?_of_file file]
    dsimp only
    rw [decoded]
    dsimp only
    rw [format]
  rw [load_of_environment selected, refused]

variable {document : Members} (parsed : Toml.parse? text.toList = some document)
include parsed

/-- What a document defines is what is loaded, unless a variable or another name touches it. -/
theorem reads_of_inDocument {key : Key} (free : ¬vars.Overrides key)
    (alone : ¬Rewrites document key) {d : Datum} (defined : key.inDocument? document = some d)
    {a : Application} (loaded : load folder vars = .ok a) :
    key.Reads (Tree.ofDatum (some (folder.source env)) d) a := by
  have distinct := isDistinct_of_parse? parsed
  have settled := Variables.settles_of_not_overrides free
  have read := Folder.entries_of_holds (.present file decoded parsed)
  -- the other setting may be anything, but this one makes a table of the settings
  have given : (((Tree.empty.putAll (Tree.ofMembers (some (folder.source env)) document)).putAll
      vars.entries).at? Key.table key.name).isSome = true := by
    rw [Variables.at?_putAll_vars settled, at?_putAll_file distinct alone]
    have written : (settingsTable document).lookup key.name = some d :=
      (Option.filter_eq_some_iff.1 defined).1
    simp [written]
  have tidy := ((Tree.isOrderly_empty.putAll _).putAll _).isTidy given
  obtain ⟨v, hv, stands⟩ := at?_layers_winner distinct alone settled (folder.source env) tidy
  obtain ⟨v', hv', reads⟩ := (load_eq_ok_iff selected read tidy a).1 loaded key
  rw [hv] at hv'
  obtain rfl := Option.some.inj hv'
  rw [← Key.winner_of_not_overrides free defined]
  exact (stands.reads_iff key a).1 reads

/-- Where the settings can be told apart, both are loaded from their highest layers. -/
theorem load_eq_ok_iff_winner (settled : ∀ key, vars.Settles key)
    (alone : ∀ key, ¬Rewrites document key)
    (table : ∀ d, document.lookup Key.table = some d → ∃ ms, d = .table ms) (a : Application) :
    load folder vars = .ok a ↔
      ∀ key : Key, key.Reads (key.winner (folder.source env) document vars) a := by
  have layer : IsLayer document := ⟨isDistinct_of_parse? parsed, table, alone⟩
  have read := Folder.entries_of_holds (.present file decoded parsed)
  have tidy := Variables.isTidy_putAll settled (isTidy_file layer (some (folder.source env)))
  rw [load_eq_ok_iff selected read tidy]
  refine forall_congr' fun key => ?_
  obtain ⟨v, hv, stands⟩ := at?_layers_eq_winner layer (folder.source env) settled key
  rw [← stands.reads_iff key a, hv]
  simp

end Present

/-- A file that is there is reported if it is text but no document, whatever the variables say; each
setting of a document takes effect, unless a variable or another name of the document touches it. A
file that is no text is passed over as if it were not there. -/
theorem load_present {folder : Folder} {vars : Variables} {env : Environment} {content : ByteArray}
    (selected : environment vars = .ok env)
    (file : folder.file? (Folder.fileName env) = some content) :
    (String.fromUTF8? content = none → load folder vars = load folder.emptied vars) ∧
    ∀ text, String.fromUTF8? content = some text →
      (Toml.parse? text.toList = none →
        load folder vars = .error (.malformedFile (folder.join (Folder.fileName env)))) ∧
      ∀ document, Toml.parse? text.toList = some document →
        (∀ (key : Key) d a, key.inDocument? document = some d → load folder vars = .ok a →
          key.Reads (Tree.ofDatum (some (folder.source env)) d) a ∨ vars.Overrides key ∨
            Rewrites document key) ∧
        ((∀ key, vars.Settles key) → (∀ key, ¬Rewrites document key) →
          (∀ d, document.lookup Key.table = some d → ∃ ms, d = .table ms) →
          ∀ a, load folder vars = .ok a ↔
            ∀ key : Key, key.Reads (key.winner (folder.source env) document vars) a) := by
  refine ⟨load_of_undecodable selected file, fun text decoded =>
    ⟨load_of_malformed selected file decoded, fun document parsed =>
      ⟨?_, load_eq_ok_iff_winner selected file decoded parsed⟩⟩⟩
  intro key d a defined loaded
  by_cases free : vars.Overrides key
  · exact .inr (.inl free)
  by_cases alone : Rewrites document key
  · exact .inr (.inr alone)
  exact .inl (reads_of_inDocument selected file decoded parsed free alone defined loaded)

/-- A document with a host, with a list in place of a port, and with a name that is a path beside
both. -/
def dottedDocument : String :=
  "[\"application.hosts\"]\n[application]\nhost = \"::1\"\nport = [1]\n"

theorem load_present_dotted :
    load (localFolder dottedDocument.toUTF8) mixedVariables = .ok ⟨"::1", 7070⟩ ∧
      load (localFolder "[application".toUTF8) mixedVariables =
        .error (.malformedFile "config/local.toml") := by
  have selected : environment mixedVariables = .ok .development :=
    environment_of_read? (by decide +kernel)
  constructor
  · have parsed : Toml.parse? dottedDocument.toList = some [("application.hosts", .table []),
        ("application", .table [("host", .text "::1"), ("port", .list [.integer 1])])] := by cbv
    refine ((((load_present selected rfl).2 dottedDocument (by cbv)).2 _ parsed).2
      settles_mixedVariables ?_ ?_ _).2 ?_
    · rintro key ⟨m, hm, other, touches⟩
      simp only [List.mem_cons, List.not_mem_nil, or_false] at hm
      obtain rfl | rfl := hm
      · have path : Tree.Path.ofName "application.hosts" = ⟨"application", [.name "hosts"]⟩ := by cbv
        rw [path] at touches
        revert touches
        cases key <;> decide
      · exact other rfl
    · intro d hd
      obtain rfl := Option.some.inj hd
      exact ⟨_, rfl⟩
    · intro key
      cases key with
      | host => rfl
      | port => exact Decode.port_of_isPort ⟨_, .inr rfl⟩
  · exact ((load_present selected rfl).2 "[application" (by cbv)).1 (by cbv)

/-- The file is there and is no text: the program's own settings are loaded. -/
theorem load_of_bytes :
    (localFolder ⟨#[255]⟩).file? (Folder.fileName .development) = some ⟨#[255]⟩ ∧
      String.fromUTF8? ⟨#[255]⟩ = none ∧
      load (localFolder ⟨#[255]⟩) [] = .ok ⟨Application.defaultHost, 8080⟩ :=
  ⟨rfl, by cbv, by cbv⟩

end Liveness.Settings
