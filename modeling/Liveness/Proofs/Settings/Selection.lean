import Liveness.Proofs.Settings.Directories
import Liveness.Proofs.Settings.Presence

/-! # Which files matter

* `Format.allEndings`: the endings with which the file of an environment may go on where there is no
  file of its plain name.
* `Folder.Agrees`: two folders with the same file for an environment.
* `Directory.Change.SparesFile`: a change that keeps away from that file.
* `load_unaffected`: what is done to other files does not matter.
* `load_of_further_ending`: a name that goes on behind that of a missing file does.
-/

namespace Liveness.Settings
set_option autoImplicit false

/-! ## The files that are read -/

/-- The endings of all formats, in the order in which they are tried. -/
def Format.allEndings : List String := all.flatMap endings

example : Format.allEndings = [".toml", ".json", ".yaml", ".yml", ".ini", ".ron", ".json5"] := rfl

namespace Folder

/-- Two folders have the same file for an environment: the same content under its plain name, or if
there is none, the same under each name with a further ending. -/
structure Agrees (env : Environment) (before after : Folder) : Prop where
  plain : before.file? (fileName env) = after.file? (fileName env)
  further : before.file? (fileName env) = none → ∀ ending ∈ Format.allEndings,
    before.file? (fileName env ++ ending) = after.file? (fileName env ++ ending)

theorem findSome?_congr {α β : Type} {f g : α → Option β} {l : List α} (h : ∀ a ∈ l, f a = g a) :
    l.findSome? f = l.findSome? g := by
  induction l with
  | nil => rfl
  | cons a l ih =>
    rw [List.findSome?_cons, List.findSome?_cons, h a List.mem_cons_self,
      ih fun b hb => h b (List.mem_cons_of_mem _ hb)]

theorem select?_congr {env : Environment} {before after : Folder} (same : Agrees env before after) :
    before.select? env = after.select? env := by
  rw [select?, select?, names, List.findSome?_cons, List.findSome?_cons]
  dsimp only
  rw [← same.plain]
  cases there : before.file? (fileName env) with
  | some content => rfl
  | none =>
    refine findSome?_congr fun entry he => ?_
    obtain ⟨format, hf, he⟩ := List.mem_flatMap.1 he
    obtain ⟨ending, hn, rfl⟩ := List.mem_map.1 he
    have known : ending ∈ Format.allEndings := List.mem_flatMap.2 ⟨format, hf, hn⟩
    dsimp only
    rw [same.further there ending known]

theorem entries_congr {env : Environment} {before after : Folder} (path : before.path = after.path)
    (same : Agrees env before after) : before.entries env = after.entries env := by
  rw [entries, entries, select?_congr same]
  simp only [join, path]

theorem name_ne_up (env : Environment) (ending : String) : fileName env ++ ending ≠ ".." := by
  intro h
  have := congrArg (fun s : String => s.toList.head?) h
  cases env <;> simp [fileName, Environment.name] at this

end Folder

theorem load_congr {vars : Variables} {before after : Folder} (path : before.path = after.path)
    (same : ∀ env, environment vars = .ok env → Folder.Agrees env before after) :
    load before vars = load after vars := by
  rw [load, load]
  cases selected : environment vars with
  | error e => rfl
  | ok env =>
    show (do let file ← (before.entries env).mapError _; _) = _
    rw [Folder.entries_congr path (same env selected)]
    rfl

/-! ## Changes elsewhere -/

/-- A change spares the file of an environment in a folder: it keeps away from the plain name, and
from those with a further ending if there is no file of the plain name. -/
structure Directory.Change.SparesFile (d : Directory) (path : String) (env : Environment)
    (change : Change) : Prop where
  plain : change.Spares (names path ++ [Folder.fileName env])
  further : (d.folder path).file? (Folder.fileName env) = none → ∀ ending ∈ Format.allEndings,
    change.Spares (names path ++ [Folder.fileName env ++ ending])

theorem Directory.agrees_applyAll {d : Directory} (tree : d.IsTree) {path : String}
    (inner : IsInner path) {env : Environment} {changes : List Change}
    (spared : ∀ change ∈ changes, change.SparesFile d path env) :
    Folder.Agrees env (d.folder path) ((d.applyAll changes).folder path) where
  plain := by
    have name := Folder.name_ne_up env ""
    rw [String.append_empty] at name
    exact (file?_applyAll tree inner name fun c hc => (spared c hc).plain).symm
  further absent ending known :=
    (file?_applyAll tree inner (Folder.name_ne_up env ending) fun c hc =>
      (spared c hc).further absent ending known).symm

/-- What is loaded depends on one file only. Whatever else tells two folders apart, and whatever is
written, made or removed elsewhere in a working directory, the settings or the error stay the same.
That file has the plain name of the environment, and if there is none of this name, the files with
a further ending behind it count. -/
theorem load_unaffected (vars : Variables) :
    (∀ before after : Folder, before.path = after.path →
      (∀ env, environment vars = .ok env → Folder.Agrees env before after) →
      load before vars = load after vars) ∧
    ∀ d : Directory, d.IsTree → ∀ path, Directory.IsInner path → ∀ changes : List Directory.Change,
      (∀ env, environment vars = .ok env → ∀ change ∈ changes, change.SparesFile d path env) →
      load ((d.applyAll changes).folder path) vars = load (d.folder path) vars := by
  refine ⟨fun before after path same => load_congr path same, ?_⟩
  intro d tree path inner changes spared
  have same : load (d.folder path) vars = load ((d.applyAll changes).folder path) vars :=
    load_congr rfl fun env selected => Directory.agrees_applyAll tree inner (spared env selected)
  exact same.symm

/-! ## One file among others -/

theorem load_of_select? {folder : Folder} {vars : Variables} {env : Environment}
    (selected : environment vars = .ok env) {name text : String} {content : ByteArray}
    (found : folder.select? env = some (name, .toml, content))
    (decoded : String.fromUTF8? content = some text) {document : Members}
    (parsed : Toml.parse? text.toList = some document) :
    load folder vars = Decode.application
      (layers (Tree.ofMembers (some (.file (folder.join name))) document) vars.entries) := by
  refine load_eq_application selected ?_
  have format : Format.parse? text Format.toml = some document := parsed
  rw [Folder.entries, found]
  dsimp only
  rw [decoded]
  dsimp only
  rw [format]

/-- A file that sets the port. -/
def portText : String := "[application]\nport = 9090\n"

/-- A folder with that file under one name, and with nothing else. -/
def portFolder (name : String) : Folder :=
  ⟨"config", fun n => if n = name then some portText.toUTF8 else none⟩

theorem load_portFolder {name : String}
    (found : (portFolder name).select? .development = some (name, .toml, portText.toUTF8)) :
    load (portFolder name) [] = .ok ⟨"0.0.0.0", 9090⟩ := by
  have selected : environment [] = .ok .development := by decide +kernel
  have parsed : Toml.parse? portText.toList =
      some [("application", .table [("port", .integer 9090)])] := by cbv
  rw [load_of_select? selected found (by cbv) parsed]
  cbv

/-- A directory with the file for local development. -/
def portDirectory : Directory := ⟨[(["config", "local.toml"], portText.toUTF8)], [["config"]]⟩

/-- Changes around that file: files beside it, two of them malformed, and the removal of one. -/
def sparingChanges : List Directory.Change :=
  [.write "config/production.toml" "[application".toUTF8, .write "config/local.toml.json" ⟨#[255]⟩,
    .write "config/../local.toml" portText.toUTF8, .makeFolder "other/config",
    .remove "config/production.toml"]

theorem load_unaffected_sparing :
    load (portDirectory.folder "config") [] = .ok ⟨"0.0.0.0", 9090⟩ ∧
      load ((portDirectory.applyAll sparingChanges).folder "config") [] = .ok ⟨"0.0.0.0", 9090⟩ := by
  have tree : portDirectory.IsTree := ⟨by decide +kernel, by decide +kernel⟩
  have inner : Directory.IsInner "config" := ⟨by decide +kernel, by decide +kernel⟩
  have development {env : Environment} (selected : environment [] = .ok env) :
      env = .development := by
    have : environment [] = .ok .development := by decide +kernel
    rw [this] at selected
    exact (Except.ok.inj selected).symm
  have found : (portDirectory.folder "config").file? (Folder.fileName .development) =
      some portText.toUTF8 := by
    rw [Directory.file?_folder tree inner (by decide +kernel)]
    decide +kernel
  obtain ⟨folders, directories⟩ := load_unaffected []
  have read : load (portDirectory.folder "config") [] = .ok ⟨"0.0.0.0", 9090⟩ := by
    rw [← load_portFolder (Folder.select?_of_file rfl)]
    refine folders _ _ (by decide +kernel) fun env selected => ?_
    obtain rfl := development selected
    refine ⟨found, fun absent => ?_⟩
    rw [found] at absent
    cases absent
  refine ⟨read, ?_⟩
  rw [directories portDirectory tree "config" inner sparingChanges, read]
  intro env selected change hc
  obtain rfl := development selected
  refine ⟨?_, fun absent => ?_⟩
  · revert change
    decide +kernel
  · rw [found] at absent
    cases absent

/-- Another file is read: one whose name goes on behind that of the missing file. -/
theorem load_of_further_ending :
    load ⟨"config", fun _ => none⟩ [] = .ok ⟨"0.0.0.0", 8080⟩ ∧
      load (portFolder "local.toml.toml") [] = .ok ⟨"0.0.0.0", 9090⟩ :=
  ⟨by cbv, load_portFolder (by cbv)⟩

end Liveness.Settings
