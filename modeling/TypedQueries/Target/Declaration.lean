import TypedQueries.Target.Aligned
import TypedQueries.Target.Code

/-!
Top-level declarations of the generated Go source and whole files.
-/

namespace TypedQueries

/-- A field of a struct; the tag is written without its quotes. -/
structure GoField where
  name : String
  type : GoType
  tag? : Option String
  deriving DecidableEq, Repr

structure GoStruct where
  name : String
  fields : List GoField
  deriving DecidableEq, Repr

/-- A string type with a constant for each of its values. -/
structure GoEnum where
  name : String
  members : List (String × String)
  deriving DecidableEq, Repr

structure GoParam where
  name : String
  type : GoType
  deriving DecidableEq, Repr

/-- A function, or a method if it has a receiver. -/
structure GoFunc where
  receiver? : Option GoParam
  name : String
  params : List GoParam
  results : List GoType
  body : List GoStmt
  deriving Repr

inductive GoDecl where
  | struct (s : GoStruct)
  | enum (e : GoEnum)
  | func (f : GoFunc)
  deriving Repr

structure GoFile where
  header? : Option String
  package : String
  imports : List String
  decls : List GoDecl
  deriving Repr

namespace GoField

/-- The cells of a field's line. -/
def cells (f : GoField) : List String :=
  [f.name, f.type.render] ++ (f.tag?.map fun tag => "`" ++ tag ++ "`").toList

end GoField

namespace GoStruct

def render (s : GoStruct) : String :=
  if s.fields.isEmpty then s!"type {s.name} struct" ++ "\x7b\x7d"
  else s!"type {s.name} struct" ++ " \x7b\n" ++ Aligned.render (s.fields.map GoField.cells) ++ "\x7d"

def usesTime (s : GoStruct) : Bool := s.fields.any fun f => f.type.usesTime

end GoStruct

namespace GoEnum

/-- The cells of a constant's line. -/
def cells (e : GoEnum) (member : String × String) : List String :=
  [member.1, e.name, "= " ++ Quoted.encode member.2]

def render (e : GoEnum) : String :=
  s!"type {e.name} string\n\nconst (\n" ++ Aligned.render (e.members.map e.cells) ++ ")"

end GoEnum

def GoParam.render (p : GoParam) : String := s!"{p.name} {p.type.render}"

namespace GoFunc

/-- The result list: nothing, one type, or several in parentheses. -/
def renderResults : List GoType → String
  | [] => ""
  | [type] => " " ++ type.render
  | types => " (" ++ ", ".intercalate (types.map GoType.render) ++ ")"

def render (f : GoFunc) : String :=
  let receiver := match f.receiver? with
    | some p => s!"({p.render}) "
    | none => ""
  "func " ++ receiver ++ f.name ++ "(" ++ ", ".intercalate (f.params.map GoParam.render) ++ ")" ++
    renderResults f.results ++ " \x7b\n" ++ GoStmt.renderBody 1 f.body ++ "\x7d"

/-- Whether the signature needs the package `time`. -/
def usesTime (f : GoFunc) : Bool :=
  (f.params.any fun p => p.type.usesTime) || f.results.any GoType.usesTime

end GoFunc

namespace GoDecl

def render : GoDecl → String
  | struct s => s.render
  | enum e => e.render
  | func f => f.render

def usesTime : GoDecl → Bool
  | struct s => s.usesTime
  | enum _ => false
  | func f => f.usesTime

end GoDecl

namespace GoFile

def renderImports (imports : List String) : String :=
  if imports.isEmpty then ""
  else "\nimport (\n" ++ String.join (imports.map fun i => "\t" ++ Quoted.encode i ++ "\n") ++ ")\n"

/-- A file: an optional comment line, the package clause, the imports and the declarations, with a
blank line between any two of them. -/
def render (f : GoFile) : String :=
  let header := match f.header? with
    | some text => s!"// {text}\n\n"
    | none => ""
  header ++ s!"package {f.package}\n" ++ renderImports f.imports ++
    String.join (f.decls.map fun d => "\n" ++ d.render ++ "\n")

end GoFile

end TypedQueries
