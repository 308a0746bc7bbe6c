import Liveness.Number.Decimal
import Liveness.Settings.Tree

/-! # Names of settings as paths

* `Tree.Path.parse?`: names with points between them and indices in square brackets.
* `Tree.Path.ofName`: the path that a name means; a name that is no path stands for itself.
* `Tree.putAll`: named values laid over a tree, each at the path that its name means.
-/

namespace Liveness.Settings.Tree
set_option autoImplicit false

namespace Path

/-- The characters of one part of a path. -/
def isPartChar (c : Char) : Bool := c.isAlphanum || c = ' ' || c = '_' || c = '-'

/-- Space and tab, which may surround an index. -/
def isBlank (c : Char) : Bool := c = ' ' || c = '\t'

/-- An index of 64 bits. -/
def index? (text : List Char) : Option Int :=
  let trimmed := ((text.dropWhile isBlank).reverse.dropWhile isBlank).reverse
  Decimal.readSigned? trimmed

/-- The steps behind the first part. -/
def steps? (text : List Char) : Option (List Step) :=
  match text with
  | [] => some []
  | '.' :: rest =>
    let part := rest.takeWhile isPartChar
    if part = [] then none
    else (steps? (rest.dropWhile isPartChar)).map (.name (String.ofList part) :: ·)
  | '[' :: rest =>
    match _h : rest.dropWhile (· ≠ ']') with
    | _ :: behind => do
      let i ← index? (rest.takeWhile (· ≠ ']'))
      (steps? behind).map (.index i :: ·)
    | [] => none
  | _ => none
termination_by text.length
decreasing_by
  · have := (List.dropWhile_sublist isPartChar (l := rest)).length_le
    simp only [List.length_cons]; omega
  · have := (List.dropWhile_sublist (· ≠ ']') (l := rest)).length_le
    rw [_h] at this
    simp only [List.length_cons] at this ⊢; omega

/-- The path written by a text. -/
def parse? (text : List Char) : Option Path :=
  let root := text.takeWhile isPartChar
  if root = [] then none
  else (steps? (text.dropWhile isPartChar)).map fun steps => ⟨String.ofList root, steps⟩

/-- The path that a name means. A name that is no path stands for itself. -/
def ofName (name : String) : Path := (parse? name.toList).getD ⟨name, []⟩

end Path

/-- A named value laid over a tree. -/
def putNamed (t : Tree) (entry : String × Tree) : Tree := t.put (.ofName entry.1) entry.2

/-- Named values laid over a tree one after the other. -/
def putAll (t : Tree) (entries : Entries) : Tree := entries.foldl putNamed t

end Liveness.Settings.Tree
