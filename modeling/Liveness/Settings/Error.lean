import Liveness.Settings.Environment
import Liveness.Settings.Tree
import Liveness.Text.Quoted

/-! # What can be wrong with settings

* `Found`: what stands where something else was expected.
* `Mismatch`: a value that cannot be converted.
* `LoadError`: why settings cannot be loaded.
* `LoadError.message`: the same in words.
-/

namespace Liveness.Settings
set_option autoImplicit false

/-- What stands where something else was expected. -/
inductive Found where
  | scalar (value : Scalar)
  | list
  | table
  deriving DecidableEq, Repr

namespace Found

/-- What a tree is. -/
def ofTree : Tree → Found
  | .leaf _ v => scalar v
  | .list .. => list
  | .table .. => table

/-- A text between backquotes. -/
def ticked (text : List Char) : String := "\x60" ++ String.ofList text ++ "\x60"

/-- What was found, in words; `width` is what is said of the size of an integer. -/
def describe (width : String) (numberText : Binary64 → List Char) : Found → String
  | scalar .null => "unit value"
  | scalar (.flag b) => "boolean " ++ ticked (if b then "true" else "false").toList
  | scalar (.integer n) => "integer " ++ width ++ ticked (Decimal.ofInt n)
  | scalar (.number x) => "floating point " ++ ticked (numberText x)
  | scalar (.text s) => "string " ++ Text.quoted s
  | list => "sequence"
  | table => "map"

end Found

/-- What a setting must be. -/
inductive Expected where
  | integer
  | unsigned
  | text
  deriving DecidableEq, Repr

/-- What a setting must be, in words. -/
def Expected.describe : Expected → String
  | integer => "an integer"
  | unsigned => "an unsigned 64 bit or less integer"
  | text => "a string"

/-- A value that cannot be converted. -/
structure Mismatch where
  found : Found
  expected : Expected
  origin : Option Origin
  deriving DecidableEq, Repr

/-- Why settings cannot be loaded. -/
inductive LoadError where
  /-- No environment has this name. -/
  | unsupportedEnvironment (name : String)
  /-- A file breaks the rules of its format. -/
  | malformedFile (path : String)
  /-- The setting with this name has the wrong type. -/
  | mismatch (key : String) (mismatch : Mismatch)
  /-- The application settings are a single value. -/
  | notSettings (value : Scalar)
  /-- The application settings are a list of fewer than two items. -/
  | tooFew (count : Nat)
  /-- A setting is missing. -/
  | missing (field : String)
  deriving DecidableEq, Repr

namespace LoadError

/-- A number with a point, where it is finite. -/
def pointed (x : Binary64) : List Char :=
  if x.isFinite && !x.text.contains '.' then x.text ++ ['.', '0'] else x.text

/-- Where a setting is, if that is known. -/
def place (o : Option Origin) : String :=
  match o with
  | some o => " in " ++ o.text
  | none => ""

/-- The error in words. -/
def message : LoadError → String
  | unsupportedEnvironment name => Environment.unsupported name
  | malformedFile path => "malformed file in " ++ path
  | mismatch key m =>
    "invalid type: " ++ m.found.describe "64 bit " Binary64.text ++ ", expected " ++
      m.expected.describe ++ " for key " ++ Found.ticked key.toList ++ place m.origin
  | notSettings value =>
    "invalid type: " ++ (Found.scalar value).describe "" pointed ++
      ", expected struct ApplicationSettings"
  | tooFew count =>
    "invalid length " ++ String.ofList (Decimal.ofNat count) ++
      ", expected struct ApplicationSettings with 2 elements"
  | missing field => "missing field " ++ Found.ticked field.toList

end LoadError
end Liveness.Settings
