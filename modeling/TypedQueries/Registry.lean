import TypedQueries.CompileError
import TypedQueries.Schema.Item
import TypedQueries.Target.Naming
import TypedQueries.Target.Type

/-!
The registry of a schema: its tables and enumerations in the order of declaration. Names are one
namespace in which case does not count, and no entry is replaced or removed.
-/

namespace TypedQueries

/-- A column with the Go type of its values. -/
structure ResolvedColumn where
  name : String
  type : GoType
  nullable : Bool
  deriving DecidableEq, Repr

/-- The first column with the given name, up to the case of ASCII letters. -/
def column? (columns : List ResolvedColumn) (name : String) : Option ResolvedColumn :=
  columns.find? fun c => Text.equalIgnoringCase c.name name

/-- The items in the order in which they were added. The index has the place of each under its name in
lower case. -/
structure Registry where
  items : List SchemaItem
  index : List (String × Nat)
  deriving DecidableEq, Repr

namespace Registry

def empty : Registry := ⟨[], []⟩

def get? (r : Registry) (name : String) : Option SchemaItem := do
  let place ← r.index.lookup (Text.lower name)
  r.items[place]?

/-- Adds an item at the end, unless its name is taken; with the error if it is. -/
def insert (r : Registry) (item : SchemaItem) : Registry × Option CompileError :=
  let key := Text.lower item.name
  if (r.index.lookup key).isSome then (r, some (.duplicateDeclaration item.name))
  else (⟨r.items ++ [item], (key, r.items.length) :: r.index⟩, none)

/-- Adds items up to the first whose name is taken. -/
def insertAll (r : Registry) (items : List SchemaItem) : Registry × Option CompileError :=
  match items with
  | [] => (r, none)
  | item :: items =>
    match r.insert item with
    | (r, none) => r.insertAll items
    | (r, some e) => (r, some e)

def ofItems (items : List SchemaItem) : Except CompileError Registry :=
  match empty.insertAll items with
  | (r, none) => .ok r
  | (_, some e) => .error e

def table (r : Registry) (name : String) : Except CompileError Table :=
  match r.get? name with
  | some (.table t) => .ok t
  | _ => .error (.unknownTable name)

def enumeration? (r : Registry) (name : String) : Option Enumeration :=
  match r.get? name with
  | some (.enumeration e) => some e
  | _ => none

def tables (r : Registry) : List Table :=
  r.items.filterMap fun
    | .table t => some t
    | .enumeration _ => none

/-- The Go type for a column type. -/
def goType (r : Registry) : DataType → Except CompileError GoType
  | .uuid | .text | .varchar _ => .ok .string
  | .int | .bigint | .smallint => .ok .int
  | .decimal _ _ => .ok .float64
  | .boolean => .ok .bool
  | .timestamp | .date => .ok .time
  | .enum name =>
    match r.enumeration? name with
    | some e => .ok (.named (Naming.exported e.name))
    | none => .error (.unknownType name)

def resolveField (r : Registry) (f : Field) : Except CompileError ResolvedColumn := do
  return ⟨f.name, ← r.goType f.dataType, f.nullable⟩

/-- The columns of a table in order, with their Go types. -/
def resolveTable (r : Registry) (t : Table) : Except CompileError (List ResolvedColumn) :=
  t.fields.mapM r.resolveField

/-- The columns of a table; for an enumeration, one column of its name that holds strings. -/
def resolve (r : Registry) (name : String) : Except CompileError (List ResolvedColumn) :=
  match r.get? name with
  | some (.table t) => r.resolveTable t
  | some (.enumeration e) => .ok [⟨e.name, .string, false⟩]
  | none => .error (.unknownTable name)

end Registry

end TypedQueries
