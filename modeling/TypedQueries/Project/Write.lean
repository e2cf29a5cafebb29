import TypedQueries.Files.Temporary
import TypedQueries.Project.Compile

/-!
Writing the generated sources. Both files are finished beside their places before the first is moved
there, so that no file is ever half written.
-/

namespace TypedQueries

/-- The directory that a file is finished in. -/
def Path.stagingDirectory (p : Path) : Path :=
  match p.parent? with
  | some parent => if parent.text = "" then ⟨"."⟩ else parent
  | none => ⟨"."⟩

namespace Disk

/-- Finishes a file beside its place, in a directory that is made if it is not there. A temporary file
that cannot be written is removed again. -/
def stage (host : Host) (d : Disk) (p : Path) (text : String) : Disk × Except ProjectError Place :=
  let directory := p.stagingDirectory
  match d.makeDirectories directory with
  | (d, some e) => (d, .error (.disk directory e))
  | (d, none) =>
    match d.createTemporary host directory with
    | .error e => (d, .error (.disk directory e))
    | .ok (temporary, d) =>
      match d.writeTemporary host temporary text with
      | .error e =>
        (d.discard [temporary], .error (.disk (d.temporaryPath directory temporary) e))
      | .ok d => (d, .ok temporary)

/-- Finishes files beside their places. If one cannot be finished, those before it are removed. -/
def stageAll (host : Host) (d : Disk) :
    List (Path × String) → Disk × Except ProjectError (List Place)
  | [] => (d, .ok [])
  | (p, text) :: files =>
    match d.stage host p text with
    | (d, .error e) => (d, .error e)
    | (d, .ok temporary) =>
      match d.stageAll host files with
      | (d, .error e) => (d.discard [temporary], .error e)
      | (d, .ok temporaries) => (d, .ok (temporary :: temporaries))

/-- Moves finished files to their places, up to the first that cannot be moved. It and those behind it
are removed. -/
def persistAll (d : Disk) : List (Place × Path) → Disk × Logged Unit
  | [] => (d, pure ())
  | (temporary, p) :: files =>
    match d.rename temporary p with
    | .error e => (d.discard (temporary :: files.map Prod.fst), Logged.of (.error (.disk p e)))
    | .ok d =>
      let (d, rest) := d.persistAll files
      (d, do Logged.report [.wrote p]; rest)

/-- Writes files, each with the directories that lead to it. -/
def write (host : Host) (d : Disk) (files : List (Path × String)) : Disk × Logged Unit :=
  match d.stageAll host files with
  | (d, .error e) => (d, Logged.of (.error e))
  | (d, .ok temporaries) => d.persistAll (temporaries.zip (files.map Prod.fst))

end Disk

namespace Config

/-- The files that sources go to: the output, then the driver's preamble beside it. -/
def outputs (c : Config) (sources : GeneratedSources) : List (Path × String) :=
  [(c.output, sources.queries), (c.preambleOutput, sources.db)]

/-- Compiles a project and writes its sources. -/
def generateFiles (c : Config) (host : Host) (now : Clock) (d : Disk) : Disk × Logged Unit :=
  let sources := c.generate now d
  match sources.result with
  | .error _ => (d, do let _ ← sources)
  | .ok s =>
    let (d, written) := d.write host (c.outputs s)
    (d, do let _ ← sources; written)

/-- Compiles a project and shows its sources, each below its path. -/
def preview (c : Config) (now : Clock) (d : Disk) : Logged String := do
  let sources ← c.generate now d
  return "// " ++ c.output.text ++ "\n" ++ sources.queries ++ "\n// " ++ c.preambleOutput.text ++ "\n"
    ++ sources.db

end Config

end TypedQueries
