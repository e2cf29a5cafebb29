/-!
The keywords of the schema and query grammars.
-/

namespace TypedQueries

inductive Keyword where
  | select | distinct | from | where | limit | offset | insert | into | values | returning
  | and | or | not | null | true | false
  | create | table | type | enum | as | if | exists | primary | key | unique | default
  deriving DecidableEq, Repr

namespace Keyword

/-- Words that a query cannot use as a column or table name. -/
def queryReserved : List Keyword :=
  [.select, .distinct, .from, .where, .limit, .offset, .insert, .into, .values, .returning,
   .and, .or, .not, .null, .true, .false]

/-- Words that only the schema grammar gives a meaning to. -/
def schemaOnly : List Keyword :=
  [.create, .table, .type, .enum, .as, .if, .exists, .primary, .key, .unique, .default]

def all : List Keyword := queryReserved ++ schemaOnly

theorem mem_all (k : Keyword) : k ∈ all := by
  cases k <;> decide

def isQueryReserved (k : Keyword) : Bool := queryReserved.contains k

def text : Keyword → String
  | .select => "SELECT"
  | .distinct => "DISTINCT"
  | .from => "FROM"
  | .where => "WHERE"
  | .limit => "LIMIT"
  | .offset => "OFFSET"
  | .insert => "INSERT"
  | .into => "INTO"
  | .values => "VALUES"
  | .returning => "RETURNING"
  | .and => "AND"
  | .or => "OR"
  | .not => "NOT"
  | .null => "NULL"
  | .true => "TRUE"
  | .false => "FALSE"
  | .create => "CREATE"
  | .table => "TABLE"
  | .type => "TYPE"
  | .enum => "ENUM"
  | .as => "AS"
  | .if => "IF"
  | .exists => "EXISTS"
  | .primary => "PRIMARY"
  | .key => "KEY"
  | .unique => "UNIQUE"
  | .default => "DEFAULT"

/-- The keyword that a word in capitals spells. -/
def ofText? (word : String) : Option Keyword := all.find? fun k => k.text == word

theorem ofText?_text (k : Keyword) : ofText? k.text = some k := by
  cases k <;> decide

theorem text_of_ofText? {word : String} {k : Keyword} (h : ofText? word = some k) :
    k.text = word := by
  simpa using List.find?_some h

end Keyword

end TypedQueries
