import Std.Time.Zoned
import TypedQueries.Command.Run

/-!
The command line program. It reads the files that a run looks at, works out the run, and then brings
the files up to date and prints the report.
-/

namespace TypedQueries.Main

def now : IO Moment := do
  let t ← Std.Time.PlainDateTime.now
  return ⟨t.year.toInt, t.month.toNat, t.day.toNat, t.hour.toNat, t.minute.toNat, t.second.toNat⟩

def entryAt (place : Place) : IO (Option Entry) := do
  let path := (← IO.currentDir) / (Place.path place).text
  match ← path.metadata.toBaseIO with
  | .error _ => return none
  | .ok data =>
    if data.type == .dir then return some .directory
    else return some (.file (.bytes (← IO.FS.readBinFile path).toList))

/-- Adds the entry at a place to a tree. -/
def look (tree : FileTree) (place : Place) : IO FileTree := do
  match ← entryAt place with
  | some entry => return tree.set place entry
  | none => return tree

/-- Adds all entries below a place to a tree. -/
partial def lookBelow (tree : FileTree) (place : Place) : IO FileTree := do
  let path := (← IO.currentDir) / (Place.path place).text
  let mut tree := tree
  if ← path.isDir then
    for child in ← path.readDir do
      tree ← look tree (place ++ [child.fileName])
      tree ← lookBelow tree (place ++ [child.fileName])
  return tree

/-- Adds what a path passes through to a disk. -/
def follow (d : Disk) (p : Path) : IO Disk := do
  return { d with tree := ← (d.route p).foldlM look d.tree }

/-- Adds what a path passes through and what lies below it to a disk. -/
def followBelow (d : Disk) (p : Path) : IO Disk := do
  let d ← follow d p
  match d.locate p with
  | .ok place => return { d with tree := ← lookBelow d.tree place }
  | .error _ => return d

/-- The disk as far as a run with arguments looks at it. -/
def survey (s : Situation) (args : List String) : IO Disk := do
  let d ← (s.configPaths args).foldlM follow (← follow s.disk (Place.path s.disk.workingDirectory))
  match { s with disk := d }.configOf? args with
  | none => return d
  | some c =>
    let d ← [c.schema, c.output, c.preambleOutput].foldlM follow d
    followBelow d c.queries

/-- Writes an entry; a file is finished beside its place and then moved there. -/
def update (place : Place) : Entry → IO Unit
  | .directory => IO.FS.createDirAll (Place.path place).text
  | .file content => do
    let path := (Place.path place).text
    let staged := path ++ ".tmp"
    IO.FS.writeFile staged (content.text?.getD "")
    IO.FS.rename staged path

end TypedQueries.Main

open TypedQueries in
def main (args : List String) : IO UInt32 := do
  let home : Path := ⟨(← IO.currentDir).toString⟩
  let place := home.components.filterMap fun
    | .name n => some n
    | _ => none
  let start : Situation := ⟨⟨.empty, place⟩, ← Main.now, ← IO.getEnv "SHOGUNC_CONFIG"⟩
  let disk ← Main.survey start args
  let report := { start with disk := disk }.run args
  for (place, entry) in report.disk.tree.entries do
    if disk.tree.get? place != some entry then Main.update place entry
  IO.print report.output
  IO.eprint report.errors
  return report.code.toUInt32
