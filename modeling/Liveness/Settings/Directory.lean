import Liveness.Settings.Folder

/-! # A working directory

* `Directory`: regular files and folders by their path.
* `Directory.names`, `Directory.resolve?`: the names in a path, and the way that it goes.
* `Directory.write`, `Directory.makeFolder`, `Directory.remove`: a file written, a folder made,
  either removed.
* `Directory.folder`: one of its folders, as the settings see it.

A path is followed name by name: only from a folder that is there can it go on, or back by one with
two points. What lies outside of the directory is not known.
-/

namespace Liveness.Settings
set_option autoImplicit false

/-- The regular files and the folders of a directory, each by the names that lead to it. -/
structure Directory where
  files : List (List String × ByteArray) := []
  folders : List (List String) := []

namespace Directory

/-- The names in a path. A name of one point stays where it is, so it is left out. -/
def names (path : String) : List String :=
  ((path.toList.splitOnP (· = '/')).map String.ofList).filter fun name => name ≠ "" && name ≠ "."

/-- Whether names lead to a folder. -/
def isFolder (d : Directory) (way : List String) : Bool := way.isEmpty || d.folders.contains way

/-- Whether names lead to a file. -/
def isFile (d : Directory) (way : List String) : Bool := (d.files.lookup way).isSome

/-- Follows names from a folder; the last one need not be there. -/
def follow? (d : Directory) (way : List String) : List String → Option (List String)
  | [] => some way
  | name :: more =>
    if !d.isFolder way then none
    else if name = ".." then if way.isEmpty then none else follow? d way.dropLast more
    else follow? d (way ++ [name]) more

/-- Whether a path begins with a slash, so that it leads out of the directory. -/
def isAbsolute (path : String) : Bool := path.startsWith "/"

/-- The names that lead straight to the end of a path, where its folders are there. -/
def resolve? (d : Directory) (path : String) : Option (List String) :=
  if isAbsolute path then none else d.follow? [] (names path)

/-! ## Changes -/

/-- A directory with a folder in place of nothing, if its parent is there. -/
def addFolder (d : Directory) (path : List String) : Directory :=
  match d.follow? [] path with
  | some way =>
    if d.isFolder way || d.isFile way then d else { d with folders := way :: d.folders }
  | none => d

/-- A directory with the folders that lead to the end of a path. -/
def addFolders (d : Directory) (path : List String) : Directory :=
  (List.range (path.length + 1)).foldl (fun d n => d.addFolder (path.take n)) d

/-- A directory with a folder, and with the folders that lead to it. -/
def makeFolder (d : Directory) (path : String) : Directory :=
  if isAbsolute path then d else d.addFolders (names path)

/-- A directory with a file of a given content, and with the folders that lead to it. -/
def write (d : Directory) (path : String) (content : ByteArray) : Directory :=
  let d := if isAbsolute path then d else d.addFolders (names path).dropLast
  match d.resolve? path with
  | some way =>
    if d.isFolder way then d
    else { d with files := (way, content) :: d.files.filter (·.1 ≠ way) }
  | none => d

/-- A directory without the file or folder at a path. -/
def remove (d : Directory) (path : String) : Directory :=
  match d.resolve? path with
  | some way =>
    { files := d.files.filter fun (w, _) => !way.isPrefixOf w
      folders := d.folders.filter fun w => !way.isPrefixOf w }
  | none => d

/-! ## Folders -/

/-- A folder of a directory. -/
def folder (d : Directory) (path : String) : Folder where
  path := "/".intercalate (names path)
  file? name :=
    if isAbsolute path then none
    else (d.follow? [] (names path ++ [name])).bind fun way => d.files.lookup way

end Directory
end Liveness.Settings
