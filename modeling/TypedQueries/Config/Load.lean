import TypedQueries.Files.Tree
import TypedQueries.Generation.Driver
import TypedQueries.ProjectError
import TypedQueries.Text.Alphanumeric

/-!
The configuration of a project: where its schema and queries are, which driver the generated package
is for, and where it goes. Relative paths are seen from the directory of the configuration file.
-/

namespace TypedQueries

structure Config where
  schema : Path
  queries : Path
  driver : Driver
  output : Path
  package : String
  deriving DecidableEq, Repr

/-- The name of the file with the driver's preamble. -/
def preambleName : String := "db.go"

/-- The package name where the configuration gives none. -/
def defaultPackage : String := "db"

/-- The file names of a configuration, in the order in which they are tried. -/
def configNames : List String := ["shogunc.yml", "shogunc.yaml"]

namespace Config

/-- The driver's preamble goes beside the output. -/
def preambleOutput (c : Config) : Path := c.output.withFileName preambleName

/-- What the only entry of a key holds, if there is one. -/
def value? (entries : List (String × Document.Value)) (key : String) :
    Except SettingFault (Option Document.Value) :=
  match entries.filter (fun e => e.1 == key) with
  | [] => .ok none
  | [(_, value)] => .ok (some value)
  | _ => .error (.repeated key)

def text? (entries : List (String × Document.Value)) (key : String) :
    Except SettingFault (Option String) := do
  match ← value? entries key with
  | none => return none
  | some (.text t) => return some t
  | some _ => throw (.notText key)

def text (entries : List (String × Document.Value)) (key : String) :
    Except SettingFault String := do
  match ← text? entries key with
  | some t => return t
  | none => throw (.missing key)

/-- The configuration as it is written, before its paths are resolved. -/
def ofText (source : String) : Except SettingFault Config := do
  match ← value? (← (Document.entries source).mapError .document) "sql" with
  | none => throw (.missing "sql")
  | some (.mapping sql) => do
    let schema ← text sql "schema"
    let queries ← text sql "queries"
    let driver ← (Driver.ofText (← text sql "driver")).mapError .driver
    let output ← text sql "output"
    let package? ← text? sql "package"
    return ⟨⟨schema⟩, ⟨queries⟩, driver, ⟨output⟩, package?.getD defaultPackage⟩
  | some _ => throw (.notMapping "sql")

/-- Whether a text can name a package. -/
def isPackageName (name : String) : Bool :=
  match name.toList with
  | [] => false
  | c :: cs => (c == '_' || Text.isAlphabetic c) && cs.all fun c => c == '_' || Text.isAlphanumeric c

/-- What is wrong with a configuration as it is written. -/
def fault? (c : Config) : Option String :=
  if c.schema.text = "" then some "sql.schema must not be empty"
  else if c.queries.text = "" then some "sql.queries must not be empty"
  else if c.output.text = "" then some "sql.output must not be empty"
  else if c.output.fileName? = some preambleName then some "sql.output must not be named db.go"
  else if !isPackageName c.package then some "sql.package must be a Go identifier"
  else none

/-- The configuration with its paths seen from a directory. -/
def seenFrom (directory : Path) (c : Config) : Config :=
  { c with
    schema := directory.join c.schema
    queries := directory.join c.queries
    output := directory.join c.output }

/-- The configuration in the file at a path, whose text is read in the given way. -/
def loadWith (read : String → Except SettingFault Config) (d : Disk) (path : Path) :
    Except ProjectError Config := do
  let source ← (d.read path).mapError (.disk path)
  let c ← (read source).mapError .setting
  match c.fault? with
  | some message => throw (.invalidConfig path message)
  | none => return c.seenFrom (path.parent?.getD ⟨""⟩)

def load (d : Disk) (path : Path) : Except ProjectError Config := loadWith ofText d path

/-- The configuration file of a directory. -/
def discover (d : Disk) (directory : Path) : Except ProjectError Path :=
  match (configNames.map fun name => directory.join ⟨name⟩).find? d.isFile with
  | some path => .ok path
  | none => .error (.missingConfig directory)

end Config

end TypedQueries
