import Liveness.Proofs.Settings.Presence
import Liveness.Proofs.Text.Casing

/-! # Which texts name an environment

* `IsCasing`: a text that is a word up to the case of ASCII letters.
* `Environment.read?_eq_some_iff`: only such texts of its name are read as an environment.
* `Decode.application_ne`: no tree of settings is refused for the name of an environment.
* `load_environment`: the name is judged before files and other variables are looked at.
-/

namespace Liveness.Settings
set_option autoImplicit false

/-! ## Names -/

/-- A text that is a word up to the case of ASCII letters, character by character. -/
def IsCasing (text word : String) : Prop :=
  List.Forall₂ (fun c d => c.beqCaseInsensitiveAsciiOnly d = true) text.toList word.toList

theorem IsCasing.length_eq {text word : String} (h : IsCasing text word) :
    text.length = word.length := by
  rw [← String.length_toList, ← String.length_toList]
  exact List.Forall₂.length_eq h

theorem isCasing_iff {text word : String} :
    IsCasing text word ↔ text.toList.map Char.toLower = word.toList.map Char.toLower := by
  simp only [IsCasing, Char.beqCaseInsensitiveAsciiOnly, beq_iff_eq]
  rw [← List.forall₂_eq_eq_eq, List.forall₂_map_left_iff, List.forall₂_map_right_iff]

namespace Environment

theorem map_toLower_name (env : Environment) :
    env.name.toList.map Char.toLower = env.name.toList := by
  cases env <;> decide

/-- No name has a k, which is the lower case of a character outside of ASCII too. -/
theorem ascii_name (env : Environment) :
    ∀ d ∈ env.name.toList, Text.isAscii d = true ∧ d ≠ 'k' := by
  have all : env.name.toList.all (fun d => Text.isAscii d && d != 'k') = true := by
    cases env <;> decide
  intro d hd
  simpa using List.all_eq_true.1 all d hd

theorem folded_eq_name_iff (s : String) (env : Environment) :
    folded s = env.name ↔ IsCasing s env.name := by
  rw [isCasing_iff, map_toLower_name, ← Text.lowercase_eq_iff (ascii_name env), folded,
    ← String.toList_inj, String.toList_ofList]

theorem read?_eq_some_iff (s : String) (env : Environment) :
    read? s = some env ↔ IsCasing s env.name := by
  -- Both names are asked for one after the other, and no text folds to both.
  have apart : development.name ≠ production.name := by decide
  rw [← folded_eq_name_iff, read?]
  split
  · next h => cases env <;> simp [h, apart]
  · next other =>
    split
    · next h => cases env <;> simp [h, apart.symm]
    · next neither => cases env <;> simp [other, neither]

theorem read?_eq_none_iff (s : String) :
    read? s = none ↔ ¬IsCasing s "local" ∧ ¬IsCasing s "production" := by
  have first : read? s = some development ↔ IsCasing s "local" := read?_eq_some_iff s development
  have second : read? s = some production ↔ IsCasing s "production" :=
    read?_eq_some_iff s production
  cases h : read? s with
  | none => simp [← first, ← second, h]
  | some env => cases env <;> simp [← first, ← second, h]

end Environment

/-! ## Errors that are found later -/

namespace Decode

variable {α β : Type} (name : String)

theorem bind_ne {x : Except LoadError α} {f : α → Except LoadError β}
    (hx : x ≠ .error (.unsupportedEnvironment name))
    (hf : ∀ a, f a ≠ .error (.unsupportedEnvironment name)) :
    (x >>= f) ≠ .error (.unsupportedEnvironment name) := by
  cases x with
  | error e => exact fun h => hx (by simpa [bind, Except.bind] using h)
  | ok a => exact hf a

theorem keyed_ne (key : String) (r : Except Mismatch α) :
    keyed key r ≠ .error (.unsupportedEnvironment name) := by
  cases r <;> simp [keyed, Except.mapError]

theorem field_ne (convert : Tree → Except Mismatch α) (key : String) (t : Tree) :
    field convert key t ≠ .error (.unsupportedEnvironment name) := by
  unfold field
  split
  · exact keyed_ne name _ _
  · simp

theorem settings_ne (t : Tree) : settings t ≠ .error (.unsupportedEnvironment name) := by
  unfold settings
  split
  · simp
  · simp
  · exact bind_ne name (keyed_ne name _ _) fun _ => by simp
  · refine bind_ne name (keyed_ne name _ _) fun _ => ?_
    exact bind_ne name (keyed_ne name _ _) fun _ => by simp
  · refine bind_ne name (field_ne name _ _ _) fun _ => ?_
    exact bind_ne name (field_ne name _ _ _) fun _ => by simp

/-- No tree of settings is refused for the name of an environment. -/
theorem application_ne (root : Tree) :
    application root ≠ .error (.unsupportedEnvironment name) := by
  unfold application
  split
  · exact settings_ne name _
  · simp

end Decode

/-! ## Loading -/

theorem load_of_read?_eq_none {vars : Variables} {s : String}
    (given : vars.get? environmentVariable = some s) (h : Environment.read? s = none)
    (folder : Folder) : load folder vars = .error (.unsupportedEnvironment s) := by
  rw [load, environment, given]
  dsimp only [Option.getD_some]
  rw [h]
  rfl

theorem load_ne_of_read? {vars : Variables} {s : String} {env : Environment}
    (given : vars.get? environmentVariable = some s) (h : Environment.read? s = some env)
    (folder : Folder) (name : String) :
    load folder vars ≠ .error (.unsupportedEnvironment name) := by
  have selected : environment vars = .ok env := environment_of_read? (by rwa [given])
  rw [load_of_environment selected]
  split
  · simp
  · exact Decode.application_ne name _

/-- A text names an environment if and only if it is one of the two names up to the case of ASCII
letters. With any other text in the variable of the environment, every load is refused for it,
whatever the files and the other variables hold; with one of these none is. -/
theorem load_environment (s : String) :
    (Environment.read? s = some .development ↔ s.length = 5 ∧ IsCasing s "local") ∧
      (Environment.read? s = some .production ↔ s.length = 10 ∧ IsCasing s "production") ∧
      (∀ c ∈ s.toList, Text.isAscii c = false → Environment.read? s = none) ∧
      ∀ (folder : Folder) (vars : Variables), vars.get? "APP_ENVIRONMENT" = some s →
        (¬IsCasing s "local" ∧ ¬IsCasing s "production" →
          load folder vars = .error (.unsupportedEnvironment s) ∧
            (LoadError.unsupportedEnvironment s).message = Environment.unsupported s) ∧
        (IsCasing s "local" ∨ IsCasing s "production" →
          ∀ name, load folder vars ≠ .error (.unsupportedEnvironment name)) := by
  have spelled (env : Environment) : Environment.read? s = some env ↔
      s.length = env.name.length ∧ IsCasing s env.name := by
    rw [Environment.read?_eq_some_iff]
    exact ⟨fun h => ⟨h.length_eq, h⟩, And.right⟩
  refine ⟨spelled .development, spelled .production, ?_, ?_⟩
  · intro c hc foreign
    cases h : Environment.read? s with
    | none => rfl
    | some env =>
      have same := isCasing_iff.1 ((Environment.read?_eq_some_iff s env).1 h)
      rw [Environment.map_toLower_name] at same
      have ascii := Text.ascii_of_map_toLower same
        (fun d hd => (Environment.ascii_name env d hd).1) c hc
      rw [ascii] at foreign
      cases foreign
  · intro folder vars given
    constructor
    · intro neither
      exact ⟨load_of_read?_eq_none given ((Environment.read?_eq_none_iff s).2 neither) folder, rfl⟩
    · have accepted (env : Environment) (casing : IsCasing s env.name) (name : String) :
          load folder vars ≠ .error (.unsupportedEnvironment name) :=
        load_ne_of_read? given ((Environment.read?_eq_some_iff s env).2 casing) folder name
      rintro (casing | casing)
      · exact accepted .development casing
      · exact accepted .production casing

/-- A name with a capital letter whose lower case is an i and a dot of its own, before a file and a
port that cannot be read, and the name in letters of both cases. -/
theorem load_environment_dotted :
    let folder : Folder := ⟨"config", fun _ => some "[".toUTF8⟩
    let vars (name : String) : Variables :=
      [("APP_APPLICATION__PORT", "http"), ("APP_ENVIRONMENT", name)]
    load folder (vars "PRODUCTİON") = .error (.unsupportedEnvironment "PRODUCTİON") ∧
      ∀ name, load folder (vars "pRoDuCtIoN") ≠ .error (.unsupportedEnvironment name) := by
  intro folder vars
  have given (name : String) : (vars name).get? "APP_ENVIRONMENT" = some name := rfl
  obtain ⟨-, -, -, dotted⟩ := load_environment "PRODUCTİON"
  obtain ⟨-, -, -, mixed⟩ := load_environment "pRoDuCtIoN"
  constructor
  · refine ((dotted folder _ (given _)).1 ⟨?_, ?_⟩).1
    · intro casing
      exact absurd casing.length_eq (by decide)
    · rw [isCasing_iff]
      decide
  · refine (mixed folder _ (given _)).2 (.inr ?_)
    rw [isCasing_iff]
    decide

end Liveness.Settings
