import TypedQueries.CompileError
import TypedQueries.Config.Document
import TypedQueries.Files.Tree

/-!
Why a project cannot be compiled: its files, its configuration, or its schema and queries.
-/

namespace TypedQueries

/-- What the configuration document lacks or has wrong. -/
inductive SettingFault where
  | document (e : DocumentError)
  | missing (key : String)
  | repeated (key : String)
  | notText (key : String)
  | notMapping (key : String)
  | driver (e : CompileError)
  deriving DecidableEq, Repr

def SettingFault.message : SettingFault → String
  | .document e => e.message
  | .missing key => "missing field '" ++ key ++ "'"
  | .repeated key => "duplicate field '" ++ key ++ "'"
  | .notText key => "the field '" ++ key ++ "' is not a text"
  | .notMapping key => "the field '" ++ key ++ "' is not a mapping"
  | .driver e => e.message

inductive ProjectError where
  | disk (path : Path) (e : DiskError)
  | setting (fault : SettingFault)
  | invalidConfig (path : Path) (message : String)
  | missingConfig (directory : Path)
  | compile (e : CompileError)
  deriving DecidableEq, Repr

namespace ProjectError

def message : ProjectError → String
  | disk path e => "IO error on '" ++ path.text ++ "': " ++ e.message
  | setting fault => "YAML error: " ++ fault.message
  | invalidConfig path text => "Invalid config '" ++ path.text ++ "': " ++ text
  | missingConfig directory => "No shogunc.yml or shogunc.yaml found in " ++ directory.text
  | compile e => e.message

/-- The messages of the errors behind an error, the nearest first. -/
def causes : ProjectError → List String
  | disk _ e => [e.message]
  | setting fault => [fault.message]
  | invalidConfig _ _ => []
  | missingConfig _ => []
  | compile e => e.causes

end ProjectError

/-- A text whose lines after the first are moved in by a number of blanks. -/
def hanging (width : Nat) (text : String) : String :=
  let blanks := List.replicate width ' '
  String.ofList (text.toList.flatMap fun c => if c = '\n' then c :: blanks else [c])

/-- A number right-aligned in five columns, and a colon. -/
def causeLabel (i : Nat) : String :=
  let digits := Nat.toDigits 10 i
  String.ofList (List.replicate (5 - digits.length) ' ' ++ digits) ++ ": "

/-- The causes of an error, each on lines of its own below the one that it explains. They are numbered
if there are several, and the lines of one cause start in one column. -/
def renderCauses : List String → String
  | [] => ""
  | [cause] => "\nCaused by:\n    " ++ hanging 4 cause ++ "\n"
  | causes =>
    "\nCaused by:\n" ++
      String.join (causes.mapIdx fun i cause => causeLabel i ++ hanging 7 cause ++ "\n")

/-- An error as the command line reports it, followed by its causes. -/
def ProjectError.report (e : ProjectError) : String :=
  "Error: " ++ e.message ++ "\n" ++ renderCauses e.causes

end TypedQueries
