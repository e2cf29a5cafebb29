import TypedQueries.Registry
import TypedQueries.Target.Declaration

/-!
Go types for the declarations of a schema: a struct for the rows of a table, a string type with
constants for an enumeration.
-/

namespace TypedQueries

def Enumeration.goEnum (e : Enumeration) : GoEnum :=
  let name := Naming.exported e.name
  ⟨name, e.values.map fun value => (Naming.member name value, value)⟩

/-- A column of a row; one that may be null is a pointer. -/
def ResolvedColumn.goField (c : ResolvedColumn) : GoField :=
  ⟨Naming.exported c.name, if c.nullable then .pointer c.type else c.type,
    some ("json:\"" ++ c.name ++ "\" db:\"" ++ c.name ++ "\"")⟩

/-- The type of a table's rows. -/
def Table.rowType (t : Table) : GoType := .named (Naming.exported t.name)

namespace Registry

def rowStruct (r : Registry) (t : Table) : Except CompileError GoStruct := do
  let columns ← r.resolveTable t
  return ⟨Naming.exported t.name, columns.map ResolvedColumn.goField⟩

def goDecl (r : Registry) : SchemaItem → Except CompileError GoDecl
  | .table t => .struct <$> r.rowStruct t
  | .enumeration e => .ok (.enum e.goEnum)

/-- Declarations for all items, in order. -/
def goDecls (r : Registry) : Except CompileError (List GoDecl) := r.items.mapM r.goDecl

end Registry

end TypedQueries
