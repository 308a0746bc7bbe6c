import Liveness.Proofs.Lists
import Liveness.Settings.Directory
import Mathlib.Data.List.Induction

/-! # Changes in a working directory

* `walk`: where names lead if all folders on the way are there.
* `Directory.IsTree`: files and folders stand in folders; every change keeps this.
* `Change`, `Directory.applyAll`: what can be done to a directory, and a sequence of it.
* `Change.Spares`: a change whose path does not lead to a place or around it.
* `file?_applyAll`: a file stays as it is while all changes spare it.
-/

namespace Liveness.Settings.Directory
set_option autoImplicit false

/-! ## Ways -/

/-- Where names lead from a folder, if all folders on the way are there. -/
def walk (way : List String) : List String → Option (List String)
  | [] => some way
  | name :: more =>
    if name = ".." then if way.isEmpty then none else walk way.dropLast more
    else walk (way ++ [name]) more

theorem walk_of_follow? {d : Directory} {way names w : List String}
    (h : d.follow? way names = some w) : walk way names = some w := by
  induction names generalizing way with
  | nil => exact h
  | cons name more ih =>
    rw [follow?] at h
    rw [walk]
    split at h
    · cases h
    · split at h
      · next up =>
        split at h
        · cases h
        · next inside =>
          rw [if_pos up, if_neg inside]
          exact ih h
      · next down =>
        rw [if_neg down]
        exact ih h

theorem walk_of_resolve? {d : Directory} {path : String} {w : List String}
    (h : d.resolve? path = some w) : walk [] (names path) = some w := by
  rw [resolve?] at h
  split at h
  · cases h
  · exact walk_of_follow? h

theorem walk_of_down {way ns : List String} (down : ".." ∉ ns) : walk way ns = some (way ++ ns) := by
  induction ns generalizing way with
  | nil => rw [walk, List.append_nil]
  | cons name more ih =>
    obtain ⟨here, below⟩ := List.ne_and_not_mem_of_not_mem_cons down
    rw [walk, if_neg here.symm, ih below, List.append_assoc, List.singleton_append]

/-! ## Trees -/

/-- Files and folders stand in folders. -/
structure IsTree (d : Directory) : Prop where
  folders : ∀ way ∈ d.folders, d.isFolder way.dropLast = true
  files : ∀ f ∈ d.files, d.isFolder f.1.dropLast = true

theorem isFolder_iff {d : Directory} {way : List String} :
    d.isFolder way = true ↔ way = [] ∨ way ∈ d.folders := by
  simp [isFolder]

section
variable {d : Directory} (tree : d.IsTree)
include tree

theorem isFolder_dropLast {way : List String} (h : d.isFolder way = true) :
    d.isFolder way.dropLast = true := by
  obtain rfl | h := isFolder_iff.1 h
  · rfl
  · exact tree.folders way h

theorem isFolder_of_append {way more : List String} (h : d.isFolder (way ++ more) = true) :
    d.isFolder way = true := by
  induction more using List.reverseRecOn with
  | nil => rwa [List.append_nil] at h
  | append_singleton more name ih =>
    refine ih ?_
    have := isFolder_dropLast tree h
    rwa [← List.append_assoc, List.dropLast_concat] at this

/-- Names that do not go back lead straight on through folders that are there. -/
theorem follow?_of_isFolder {way ns : List String} {name : String} (down : ".." ∉ ns)
    (last : name ≠ "..") (h : d.isFolder (way ++ ns) = true) :
    d.follow? way (ns ++ [name]) = some (way ++ ns ++ [name]) := by
  induction ns generalizing way with
  | nil =>
    rw [List.append_nil] at h
    rw [List.nil_append, follow?, h, Bool.not_true, if_neg Bool.false_ne_true, if_neg last, follow?,
      List.append_nil]
  | cons n more ih =>
    obtain ⟨here, below⟩ := List.ne_and_not_mem_of_not_mem_cons down
    have first : d.isFolder way = true := isFolder_of_append tree h
    rw [← List.singleton_append, ← List.append_assoc] at h
    rw [List.cons_append, follow?, first, Bool.not_true, if_neg Bool.false_ne_true,
      if_neg here.symm, ih below h, List.append_assoc way, List.singleton_append]

/-- Where a path ends, there is a folder in front. -/
theorem isFolder_dropLast_of_follow? {way names w : List String}
    (parent : d.isFolder way.dropLast = true) (h : d.follow? way names = some w) :
    d.isFolder w.dropLast = true := by
  induction names generalizing way with
  | nil => exact Option.some.inj h ▸ parent
  | cons name more ih =>
    rw [follow?] at h
    split at h
    · cases h
    · next there =>
      have here : d.isFolder way = true := by simpa using there
      split at h
      · split at h
        · cases h
        · exact ih (isFolder_dropLast tree (isFolder_dropLast tree here)) h
      · refine ih ?_ h
        rwa [List.dropLast_concat]

end

/-! ## Folders that are made -/

theorem files_addFolder (d : Directory) (path : List String) : (d.addFolder path).files = d.files := by
  unfold addFolder
  split
  · split <;> rfl
  · rfl

theorem files_addFolders (d : Directory) (path : List String) :
    (d.addFolders path).files = d.files := by
  unfold addFolders
  induction List.range (path.length + 1) generalizing d with
  | nil => rfl
  | cons n ns ih => rw [List.foldl_cons, ih, files_addFolder]

theorem isTree_addFolder {d : Directory} (tree : d.IsTree) (path : List String) :
    (d.addFolder path).IsTree := by
  unfold addFolder
  split
  · next way led =>
    split
    · exact tree
    · have more {w : List String} (h : d.isFolder w = true) :
          isFolder { d with folders := way :: d.folders } w = true := by
        obtain rfl | h := isFolder_iff.1 h
        · rfl
        · exact isFolder_iff.2 (.inr (List.mem_cons_of_mem _ h))
      refine ⟨?_, fun f hf => more (tree.files f hf)⟩
      intro w hw
      obtain rfl | hw := List.mem_cons.1 hw
      · exact more (isFolder_dropLast_of_follow? tree rfl led)
      · exact more (tree.folders w hw)
  · exact tree

theorem isTree_addFolders {d : Directory} (tree : d.IsTree) (path : List String) :
    (d.addFolders path).IsTree := by
  unfold addFolders
  induction List.range (path.length + 1) generalizing d with
  | nil => exact tree
  | cons n ns ih => exact ih (isTree_addFolder tree (path.take n))

/-- A directory with the folders around a path. -/
def surrounded (d : Directory) (path : String) : Directory :=
  if isAbsolute path then d else d.addFolders (names path).dropLast

theorem write_eq (d : Directory) (path : String) (content : ByteArray) :
    d.write path content =
      match (d.surrounded path).resolve? path with
      | some way =>
        if (d.surrounded path).isFolder way then d.surrounded path
        else { d.surrounded path with
          files := (way, content) :: (d.surrounded path).files.filter (·.1 ≠ way) }
      | none => d.surrounded path := rfl

theorem files_surrounded (d : Directory) (path : String) : (d.surrounded path).files = d.files := by
  unfold surrounded
  split
  · rfl
  · exact files_addFolders d _

theorem isTree_surrounded {d : Directory} (tree : d.IsTree) (path : String) :
    (d.surrounded path).IsTree := by
  unfold surrounded
  split
  · exact tree
  · exact isTree_addFolders tree _

/-! ## Changes -/

/-- What can be done to a directory. -/
inductive Change where
  | write (path : String) (content : ByteArray)
  | makeFolder (path : String)
  | remove (path : String)

/-- A directory after a change. -/
def apply (d : Directory) : Change → Directory
  | .write path content => d.write path content
  | .makeFolder path => d.makeFolder path
  | .remove path => d.remove path

/-- A directory after a sequence of changes. -/
def applyAll (d : Directory) (changes : List Change) : Directory := changes.foldl apply d

theorem isTree_write {d : Directory} (tree : d.IsTree) (path : String) (content : ByteArray) :
    (d.write path content).IsTree := by
  have made := isTree_surrounded tree path
  rw [write_eq]
  split
  · next way led =>
    split
    · exact made
    · refine ⟨made.folders, ?_⟩
      intro f hf
      obtain rfl | hf := List.mem_cons.1 hf
      · rw [resolve?] at led
        split at led
        · cases led
        · exact isFolder_dropLast_of_follow? made rfl led
      · exact made.files f (List.mem_filter.1 hf).1
  · exact made

theorem isTree_makeFolder {d : Directory} (tree : d.IsTree) (path : String) :
    (d.makeFolder path).IsTree := by
  unfold makeFolder
  split
  · exact tree
  · exact isTree_addFolders tree _

theorem isTree_remove {d : Directory} (tree : d.IsTree) (path : String) : (d.remove path).IsTree := by
  unfold remove
  split
  · next way _ =>
    -- What is left is not below the removed place, so neither is the folder around it.
    have kept {w : List String} (apart : (!way.isPrefixOf w) = true)
        (h : d.isFolder w.dropLast = true) :
        isFolder ⟨d.files.filter fun f => !way.isPrefixOf f.1,
          d.folders.filter fun w => !way.isPrefixOf w⟩ w.dropLast = true := by
      obtain none | h := isFolder_iff.1 h
      · exact isFolder_iff.2 (.inl none)
      · refine isFolder_iff.2 (.inr (List.mem_filter.2 ⟨h, ?_⟩))
        rw [Bool.not_eq_true'] at apart ⊢
        rw [← Bool.not_eq_true, List.isPrefixOf_iff_prefix] at apart ⊢
        exact fun below => apart (below.trans (List.dropLast_prefix w))
    refine ⟨fun w hw => ?_, fun f hf => ?_⟩
    · obtain ⟨mem, apart⟩ := List.mem_filter.1 hw
      exact kept apart (tree.folders w mem)
    · obtain ⟨mem, apart⟩ := List.mem_filter.1 hf
      exact kept apart (tree.files f mem)
  · exact tree

theorem isTree_apply {d : Directory} (tree : d.IsTree) (change : Change) : (d.apply change).IsTree := by
  cases change with
  | write path content => exact isTree_write tree path content
  | makeFolder path => exact isTree_makeFolder tree path
  | remove path => exact isTree_remove tree path

/-! ## Files that stay -/

/-- A change leaves a place alone: it writes nothing there, and it removes neither what stands there
nor a folder around it. -/
def Change.Spares (way : List String) : Change → Prop
  | .write path _ => walk [] (names path) ≠ some way
  | .makeFolder _ => True
  | .remove path => ∀ w ∈ walk [] (names path), ¬w <+: way

instance (way : List String) (change : Change) : Decidable (change.Spares way) :=
  match change with
  | .write path _ => inferInstanceAs (Decidable (walk [] (names path) ≠ some way))
  | .makeFolder _ => .isTrue trivial
  | .remove path => inferInstanceAs (Decidable (∀ w ∈ walk [] (names path), ¬w <+: way))

theorem lookup_apply {way : List String} {change : Change} (spares : change.Spares way)
    (d : Directory) : (d.apply change).files.lookup way = d.files.lookup way := by
  cases change with
  | write path content =>
    rw [apply, write_eq]
    split
    · next w led =>
      split
      · rw [files_surrounded]
      · have other : way ≠ w := fun same => spares (same ▸ walk_of_resolve? led)
        rw [files_surrounded, lookup_cons_ne other, lookup_filter (fun v => decide (v ≠ w)),
          if_pos (decide_eq_true other)]
    · rw [files_surrounded]
  | makeFolder path =>
    rw [apply, makeFolder]
    split
    · rfl
    · rw [files_addFolders]
  | remove path =>
    rw [apply, remove]
    split
    · next w led =>
      have apart : (!w.isPrefixOf way) = true := by
        rw [Bool.not_eq_true', ← Bool.not_eq_true, List.isPrefixOf_iff_prefix]
        exact spares w (walk_of_resolve? led)
      show (d.files.filter fun f => !w.isPrefixOf f.1).lookup way = _
      rw [lookup_filter (fun v => !w.isPrefixOf v), if_pos apart]
    · rfl

/-- A path that leads down from the working directory. -/
structure IsInner (path : String) : Prop where
  relative : isAbsolute path = false
  down : ".." ∉ names path

/-- In a tree a folder has the files whose ways go through it, whether or not it is there. -/
theorem file?_folder {d : Directory} (tree : d.IsTree) {path name : String} (inner : IsInner path)
    (plain : name ≠ "..") :
    (d.folder path).file? name = d.files.lookup (names path ++ [name]) := by
  show (if isAbsolute path then none else _) = _
  rw [inner.relative, if_neg Bool.false_ne_true]
  cases there : d.files.lookup (names path ++ [name]) with
  | none =>
    cases led : d.follow? [] (names path ++ [name]) with
    | none => rfl
    | some w =>
      have down : ".." ∉ names path ++ [name] := by
        rw [List.mem_append, List.mem_singleton]
        exact fun h => h.elim inner.down fun same => plain same.symm
      have straight := walk_of_follow? led
      rw [walk_of_down down] at straight
      rw [Option.bind_some, ← Option.some.inj straight]
      exact there
  | some content =>
    obtain ⟨before, after, eq, -⟩ := List.lookup_eq_some_iff.1 there
    have mem : (names path ++ [name], content) ∈ d.files := by
      rw [eq]
      exact List.mem_append_right _ List.mem_cons_self
    have parent := tree.files _ mem
    rw [List.dropLast_concat] at parent
    have led : d.follow? [] (names path ++ [name]) = some (names path ++ [name]) :=
      follow?_of_isFolder tree inner.down plain parent
    rw [led, Option.bind_some, there]

/-- A file stays as it is, or stays away, through all changes that spare its place. -/
theorem file?_applyAll {d : Directory} (tree : d.IsTree) {path name : String} (inner : IsInner path)
    (plain : name ≠ "..") {changes : List Change}
    (spared : ∀ change ∈ changes, change.Spares (names path ++ [name])) :
    ((d.applyAll changes).folder path).file? name = (d.folder path).file? name := by
  induction changes generalizing d with
  | nil => rfl
  | cons change changes ih =>
    have rest := ih (isTree_apply tree change) fun c hc => spared c (List.mem_cons_of_mem _ hc)
    have first : ((d.apply change).folder path).file? name = (d.folder path).file? name := by
      rw [file?_folder (isTree_apply tree change) inner plain, file?_folder tree inner plain,
        lookup_apply (spared change List.mem_cons_self)]
    exact rest.trans first

end Liveness.Settings.Directory
