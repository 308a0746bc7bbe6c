import Mathlib
import Liveness.Proofs.Settings.Overlay
import Liveness.Proofs.Text.Ascii
import Liveness.Proofs.Text.Basic
import Liveness.Settings.Application
import Liveness.Settings.Variables

/-! # Names as paths, and names of variables

* `Path.IsPlain`: a name that stands for itself as a path; the root of any path is one.
* `Tree.putAll_of_plain`: values under such names are laid over a tree as entries.
* `Key`: the two settings, with their variables and built-in values.
* `Key.isVariable`: whether a name is that of the variable, letters in any case.
* `Variables.setting?_of_isVariable`: the setting that such a variable gives.
-/

namespace Liveness.Settings
set_option autoImplicit false

namespace Tree

/-! ## Plain names -/

namespace Path

/-- A name that stands for itself as a path. -/
def IsPlain (name : String) : Prop := ofName name = ⟨name, []⟩

theorem parse?_of_parts {root : List Char} (hne : root ≠ []) (hp : ∀ c ∈ root, isPartChar c = true)
    {rest : List Char} (hr : rest.head?.all (!isPartChar ·) = true) :
    parse? (root ++ rest) = (steps? rest).map fun steps => ⟨String.ofList root, steps⟩ := by
  obtain ⟨taken, left⟩ := Text.takeWhile_append_stop hp hr
  unfold parse?
  dsimp only
  rw [taken, left, if_neg hne]

/-- A name made of part characters is plain. -/
theorem isPlain_of_parts {name : String} (hne : name.toList ≠ [])
    (hp : ∀ c ∈ name.toList, isPartChar c = true) : IsPlain name := by
  have parsed : parse? (name.toList ++ []) = _ := parse?_of_parts hne hp rfl
  rw [List.append_nil] at parsed
  rw [IsPlain, ofName, parsed, steps?, String.ofList_toList]
  rfl

/-- The root of the path that a name means is plain. -/
theorem isPlain_root (name : String) : IsPlain (ofName name).root := by
  cases h : parse? name.toList with
  | none =>
    have : ofName name = ⟨name, []⟩ := by rw [ofName, h]; rfl
    rw [this]
    exact this
  | some p =>
    have hp : ofName name = p := by rw [ofName, h]; rfl
    rw [hp]
    unfold parse? at h
    dsimp only at h
    split at h
    · cases h
    · next hne =>
      obtain ⟨steps, -, rfl⟩ := Option.map_eq_some_iff.1 h
      refine isPlain_of_parts ?_ ?_
      · rwa [String.toList_ofList]
      · rw [String.toList_ofList]
        exact List.all_eq_true.1 List.all_takeWhile

end Path

theorem putAll_cons (t : Tree) (e : String × Tree) (es : Entries) :
    t.putAll (e :: es) = (t.putNamed e).putAll es := rfl

/-- Values under plain names are laid over a tree like the entries of a table. -/
theorem putAll_of_plain {es : Entries} (h : ∀ e ∈ es, Path.IsPlain e.1) (t : Tree) :
    t.putAll es = mergeEntries t es := by
  induction es generalizing t with
  | nil => rfl
  | cons e es ih =>
    obtain ⟨name, value⟩ := e
    have plain : Path.ofName name = ⟨name, []⟩ := h (name, value) List.mem_cons_self
    have first : t.putNamed (name, value) = mergeEntry t (name, value) := by
      rw [putNamed, plain]
      rfl
    rw [putAll_cons, first, mergeEntries, ih fun e he => h e (List.mem_cons_of_mem _ he)]

end Tree

/-! ## The two settings -/

/-- The settings that are resolved. -/
inductive Key where
  | host
  | port
  deriving DecidableEq, Repr

namespace Key

/-- The table that holds the settings. -/
def table : String := "application"

/-- The name of a setting in that table. -/
def name : Key → String
  | host => "host"
  | port => "port"

/-- The variable that gives a setting. -/
def variableName : Key → String
  | host => "APP_APPLICATION__HOST"
  | port => "APP_APPLICATION__PORT"

/-- The value of a setting that nothing gives. -/
def builtIn : Key → Scalar
  | host => .text "0.0.0.0"
  | port => .integer 8080

/-- Whether a name is that of the variable, letters in any case. -/
def isVariable (key : Key) (name : String) : Bool :=
  name.toList.map Char.toLower = key.variableName.toList.map Char.toLower

/-- The path of a setting. -/
def path (key : Key) : Tree.Path := ⟨table, [.name key.name]⟩

end Key

/-- The setting that the variable gives has the path of the key. -/
theorem Variables.setting?_of_isVariable {key : Key} {name : String} (h : key.isVariable name = true) :
    Variables.setting? name = some ("application." ++ key.name) := by
  have lower := of_decide_eq_true h
  have ascii : ∀ c ∈ name.toList, Text.isAscii c = true :=
    Text.ascii_of_map_toLower lower (List.all_eq_true.1 (by cases key <;> decide))
  rw [Variables.setting?, Text.lowercase_of_ascii ascii, lower]
  cases key <;> decide

theorem Key.ofName_table : Tree.Path.ofName Key.table = ⟨Key.table, []⟩ := by cbv

theorem Key.ofName_setting (key : Key) :
    Tree.Path.ofName ("application." ++ key.name) = key.path := by
  cases key <;> cbv

end Liveness.Settings
