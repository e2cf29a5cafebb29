import TypedQueries.Inspection.Json
import TypedQueries.Query.Block
import TypedQueries.Query.Statement
import TypedQueries.Schema.Item

/-!
Schema items and query statements as JSON values.
-/

namespace TypedQueries

open JsonValue (ofOption)

def JsonValue.nat (n : Nat) : JsonValue := .int n

def DataType.view : DataType → JsonValue
  | .uuid => .text "uuid"
  | .text => .text "text"
  | .varchar length => .object [("varchar", ofOption .nat length)]
  | .int => .text "int"
  | .bigint => .text "bigint"
  | .smallint => .text "smallint"
  | .decimal precision scale =>
    .object [("decimal",
      .object [("precision", ofOption .nat precision), ("scale", ofOption .nat scale)])]
  | .boolean => .text "boolean"
  | .timestamp => .text "timestamp"
  | .date => .text "date"
  | .enum name => .object [("enum", .text name)]

def Field.view (f : Field) : JsonValue :=
  .object [("name", .text f.name), ("data_type", f.dataType.view), ("not_null", .bool f.notNull),
    ("default", ofOption .text f.default?), ("primary_key", .bool f.primaryKey),
    ("unique", .bool f.unique)]

def SchemaItem.view : SchemaItem → JsonValue
  | .table t =>
    .object [("kind", .text "table"), ("name", .text t.name), ("fields", .list (t.fields.map Field.view))]
  | .enumeration e =>
    .object [("kind", .text "enum"), ("name", .text e.name), ("values", .list (e.values.map .text))]

def Literal.view : Literal → JsonValue
  | .string text => .object [("string", .text text)]
  | .integer n => .object [("integer", .int n)]
  | .boolean b => .object [("boolean", .bool b)]
  | .null => .text "null"

def BindValue.view : BindValue → JsonValue
  | .param position => .object [("param", .nat position)]
  | .literal value => .object [("literal", value.view)]

def Bind.view (b : Bind) : JsonValue :=
  .object [("column", .text b.column), ("value", b.value.view)]

def Comparison.view : Comparison → JsonValue
  | .eq => .text "eq"
  | .notEq => .text "not_eq"
  | .lt => .text "lt"
  | .gt => .text "gt"
  | .ltEq => .text "lt_eq"
  | .gtEq => .text "gt_eq"

def Connective.view : Connective → JsonValue
  | .and => .text "and"
  | .or => .text "or"

def ConflictAction.view : ConflictAction → JsonValue
  | .replace => .text "replace"
  | .ignore => .text "ignore"
  | .abort => .text "abort"
  | .fail => .text "fail"
  | .rollback => .text "rollback"

def Condition.view (c : Condition) : JsonValue :=
  .object [("chain", ofOption Connective.view c.chain?), ("column", .text c.column),
    ("op", c.comparison.view), ("bind", c.bind.view)]

def Statement.view : Statement → JsonValue
  | .select s =>
    .object [("kind", .text "select"), ("distinct", .bool s.distinct),
      ("columns", .list (s.columns.map .text)), ("table", .text s.table),
      ("conditions", .list (s.conditions.map Condition.view)),
      ("limit", ofOption .nat s.limit?), ("offset", ofOption .nat s.offset?)]
  | .insert i =>
    .object [("kind", .text "insert"), ("conflict", ofOption ConflictAction.view i.conflict?),
      ("table", .text i.table), ("columns", .list (i.columns.map .text)),
      ("values", .list (i.values.map Bind.view)), ("returning", .list (i.returning.map .text))]

end TypedQueries
