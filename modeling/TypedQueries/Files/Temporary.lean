import TypedQueries.Files.Tree

/-!
Temporary files. They are made and written by the system, which chooses their names and may refuse
either; what a run does with them has to be right for every choice.
-/

namespace TypedQueries

/-- What the system does with temporary files: where it makes one, and why it fails to make or to
write one, if it does. -/
structure Host where
  /-- The name of a new file in a directory of a tree. -/
  name : FileTree → Place → String
  isEntryName_name : ∀ t directory, isEntryName (name t directory) = true
  get?_name : ∀ (t : FileTree) directory, t.get? (directory ++ [name t directory]) = none
  creationFault? : FileTree → Place → Option DiskError
  writingFault? : FileTree → Place → String → Option DiskError

namespace FileTree

/-- The length of the longest name in a tree. -/
def longestName (t : FileTree) : Nat :=
  (t.entries.flatMap Prod.fst).foldr (fun name n => max name.length n) 0

theorem length_le_longestName {t : FileTree} {place : Place} {entry : Entry}
    (h : t.get? place = some entry) : ∀ name ∈ place, name.length ≤ t.longestName := by
  have hfold (names : List String) :
      ∀ name ∈ names, name.length ≤ names.foldr (fun name n => max name.length n) 0 := by
    induction names with
    | nil => exact nofun
    | cons first names ih =>
      intro name hname
      rw [List.foldr_cons]
      rcases List.mem_cons.1 hname with rfl | hname
      · exact Nat.le_max_left ..
      · exact Nat.le_trans (ih name hname) (Nat.le_max_right ..)
  intro name hname
  rw [get?] at h
  split at h
  · rename_i hroot
    rw [hroot] at hname
    cases hname
  · obtain ⟨front, back, hentries, -⟩ := List.lookup_eq_some_iff.1 h
    exact hfold _ name (by simp [hentries, hname])

end FileTree

namespace Host

/-- A name that is longer than every name in the tree. -/
def longName (t : FileTree) : String :=
  String.ofList ('.' :: 't' :: 'm' :: 'p' :: List.replicate t.longestName 'x')

/-- The system that refuses nothing. -/
def willing : Host where
  name t _ := longName t
  isEntryName_name t _ := by
    simp [isEntryName, longName, ← String.toList_inj, List.mem_replicate]
  get?_name t directory := by
    cases h : t.get? (directory ++ [longName t]) with
    | none => rfl
    | some entry =>
      have hle := FileTree.length_le_longestName h (longName t) (by simp)
      simp only [longName, String.length_ofList, List.length_cons, List.length_replicate] at hle
      omega
  creationFault? _ _ := none
  writingFault? _ _ _ := none

end Host

namespace Disk

/-- Makes an empty temporary file in the directory that a path leads to. -/
def createTemporary (host : Host) (d : Disk) (directory : Path) :
    Except DiskError (Place × Disk) := do
  match ← d.find directory with
  | (_, .file _) => throw .notDirectory
  | (place, .directory) =>
    match host.creationFault? d.tree place with
    | some e => throw e
    | none =>
      let temporary := place ++ [host.name d.tree place]
      return (temporary, { d with tree := d.tree.set temporary (.file (.text "")) })

/-- The path of a temporary file that was made in the directory of a path. -/
def temporaryPath (d : Disk) (directory : Path) (temporary : Place) : Path :=
  (Place.path d.workingDirectory).join (directory.join ⟨temporary.getLastD ""⟩)

/-- Writes the text of a temporary file. -/
def writeTemporary (host : Host) (d : Disk) (temporary : Place) (text : String) :
    Except DiskError Disk :=
  match host.writingFault? d.tree temporary text with
  | some e => .error e
  | none => .ok { d with tree := d.tree.set temporary (.file (.text text)) }

/-- The disk without temporary files that are not wanted any more. -/
def discard (d : Disk) (temporaries : List Place) : Disk :=
  { d with tree := temporaries.foldl FileTree.remove d.tree }

end Disk

end TypedQueries
