import TypedQueries.Command.Arguments
import TypedQueries.Project.Inspect
import TypedQueries.Project.Write

/-!
A run of the command line on a disk: what it prints, the code it ends with, and the disk it leaves.
-/

namespace TypedQueries

/-- What a run starts from. `configVariable?` is the value of the environment variable that names a
configuration file. -/
structure Situation where
  disk : Disk
  now : Clock
  configVariable? : Option String

structure Report where
  code : Nat
  output : String
  errors : String
  disk : Disk

def versionText : String := "shogunc 0.1.0\n"

def usageText : String :=
  "Usage: shogunc [--config PATH] [--verbose] generate [--dry-run]\n" ++
  "       shogunc [--config PATH] [--verbose] check\n" ++
  "       shogunc [--config PATH] [--verbose] inspect schema|queries\n" ++
  "       shogunc --version\n"

namespace Situation

/-- The configuration file: the one that is named, or the one in the working directory. -/
def configPath (s : Situation) (name? : Option String) : Except ProjectError Path :=
  match name? with
  | some name => .ok ⟨name⟩
  | none => Config.discover s.disk (Place.path s.disk.workingDirectory)

/-- The configuration of a run. -/
def config (s : Situation) (name? : Option String) : Logged Config := do
  let path ← Logged.of (s.configPath name?)
  let config ← Logged.of (Config.load s.disk path)
  Logged.report [.loadedConfig path]
  return config

/-- The JSON form of a list, on lines of its own. -/
def jsonLines (values : List JsonValue) : String := (JsonValue.list values).render 0 ++ "\n"

/-- Carries out a command: the disk it leaves, and what it prints. -/
def perform (s : Situation) (c : Config) : Command → Disk × Logged String
  | .generate false =>
    let (d, written) := c.generateFiles .willing s.now s.disk
    (d, do written; return "")
  | .generate true => (s.disk, c.preview s.now s.disk)
  | .check => (s.disk, do c.check s.now s.disk; return "")
  | .inspect .schema => (s.disk, do
      return jsonLines ((← Logged.of (c.inspectSchema s.now s.disk)).map SchemaItem.view))
  | .inspect .queries => (s.disk, do
      return jsonLines ((← Logged.of (c.inspectQueries s.disk)).map InspectedQuery.view))

/-- The report of a run that left a disk. -/
def conclude (verbose : Bool) (d : Disk) (outcome : Logged String) : Report :=
  let events := outcome.events.filter fun e => verbose || !e.isDetail
  let log := String.join (events.map LogEvent.render)
  match outcome.result with
  | .ok output => ⟨0, output, log, d⟩
  | .error e => ⟨1, "", log ++ e.report, d⟩

/-- A run with options and a command. The option names the configuration file before the environment
variable does. -/
def runCommand (s : Situation) (options : Options) (command : Command) : Report :=
  let name? := options.config?.or s.configVariable?
  if name? = some "" then ⟨2, "", usageText, s.disk⟩
  else
    let loaded := s.config name?
    match loaded.result with
    | .error _ => conclude options.verbose s.disk (do let _ ← loaded; return "")
    | .ok c =>
      let (d, outcome) := s.perform c command
      conclude options.verbose d (do let _ ← loaded; outcome)

/-- A run with arguments. -/
def run (s : Situation) (args : List String) : Report :=
  match parseArguments args with
  | .run options command => s.runCommand options command
  | .version => ⟨0, versionText, "", s.disk⟩
  | .help => ⟨0, usageText, "", s.disk⟩
  | .misuse => ⟨2, "", usageText, s.disk⟩

/-- The paths at which a run with arguments looks for its configuration. -/
def configPaths (s : Situation) (args : List String) : List Path :=
  match parseArguments args with
  | .run options _ =>
    match options.config?.or s.configVariable? with
    | some name => [⟨name⟩]
    | none => configNames.map fun name => (Place.path s.disk.workingDirectory).join ⟨name⟩
  | _ => []

/-- The configuration of a run with arguments, if it can be loaded. -/
def configOf? (s : Situation) (args : List String) : Option Config :=
  match parseArguments args with
  | .run options _ => (s.config (options.config?.or s.configVariable?)).result.toOption
  | _ => none

end Situation

end TypedQueries
