import TypedQueries.Text.CaseMapping

/-!
Schema declarations: tables with their fields, and enumerations.
-/

namespace TypedQueries

/-- The type of a column. Lengths, precisions and scales are only there if they were written. -/
inductive DataType where
  | uuid
  | text
  | varchar (length : Option Nat)
  | int
  | bigint
  | smallint
  | decimal (precision scale : Option Nat)
  | boolean
  | timestamp
  | date
  /-- A declared enumeration, by its name as written. -/
  | enum (name : String)
  deriving DecidableEq, Repr

namespace DataType

/-- The built-in type that a word in capitals names. -/
def builtin? : String → Option DataType
  | "UUID" => some uuid
  | "TEXT" => some text
  | "VARCHAR" => some (varchar none)
  | "INT" => some int
  | "INTEGER" => some int
  | "BIGINT" => some bigint
  | "SMALLINT" => some smallint
  | "DECIMAL" => some (decimal none none)
  | "NUMERIC" => some (decimal none none)
  | "BOOLEAN" => some boolean
  | "BOOL" => some boolean
  | "TIMESTAMP" => some timestamp
  | "DATE" => some date
  | _ => none

/-- The bare name of a type. -/
def name : DataType → String
  | uuid => "UUID"
  | text => "TEXT"
  | varchar _ => "VARCHAR"
  | int => "INT"
  | bigint => "BIGINT"
  | smallint => "SMALLINT"
  | decimal _ _ => "DECIMAL"
  | boolean => "BOOLEAN"
  | timestamp => "TIMESTAMP"
  | date => "DATE"
  | enum name => name

/-- A type as a schema writes it. A scale without a precision cannot be written. -/
def render : DataType → String
  | varchar (some length) => s!"VARCHAR({length})"
  | decimal (some precision) (some scale) => s!"DECIMAL({precision}, {scale})"
  | decimal (some precision) none => s!"DECIMAL({precision})"
  | enum name => s!"\"{name}\""
  | other => other.name

/-- Types whose default may be the current time. -/
def holdsTime : DataType → Bool
  | timestamp | date => true
  | _ => false

end DataType

/-- A column of a table. -/
structure Field where
  name : String
  dataType : DataType
  notNull : Bool
  default? : Option String
  primaryKey : Bool
  unique : Bool
  deriving DecidableEq, Repr

namespace Field

/-- A column without modifiers. -/
def plain (name : String) (dataType : DataType) : Field :=
  ⟨name, dataType, false, none, false, false⟩

def nullable (f : Field) : Bool := !(f.notNull || f.primaryKey)

end Field

structure Table where
  name : String
  fields : List Field
  deriving DecidableEq, Repr

/-- The first column with the given name, up to the case of ASCII letters. -/
def Table.field? (t : Table) (name : String) : Option Field :=
  t.fields.find? fun f => Text.equalIgnoringCase f.name name

structure Enumeration where
  name : String
  values : List String
  deriving DecidableEq, Repr

inductive SchemaItem where
  | table (t : Table)
  | enumeration (e : Enumeration)
  deriving DecidableEq, Repr

def SchemaItem.name : SchemaItem → String
  | table t => t.name
  | enumeration e => e.name

end TypedQueries
