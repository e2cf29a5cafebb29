import TypedQueries.Proofs.Regular
import TypedQueries.Proofs.TokenParts

/-!
The language of INSERT statements, as a relation between tokens and the statement that they stand for.
Nothing is counted on the way: the column of a value and the position of a bare placeholder are told
from the place of the value among all values.
-/

namespace TypedQueries

/-- A value as it is written: a placeholder without a number, or one that needs nothing else. -/
inductive WrittenValue where
  | bare
  | given (v : BindValue)
  deriving DecidableEq, Repr

/-- What is meant by a value, if a bare placeholder has the given position. -/
def WrittenValue.value (position : Nat) : WrittenValue → BindValue
  | bare => .param position
  | given v => v

namespace Query

/-- A word that may name a column. -/
def IsColumnWord (t : Token) : Prop :=
  t.kind = .ident ∨ ∃ k ∈ Keyword.schemaOnly, t.kind = .keyword k

def IsColumn (t : Token) (name : String) : Prop := IsColumnWord t ∧ t.literal = name

def IsItem (t : Token) (name : String) : Prop :=
  (t.kind = .star ∨ IsColumnWord t) ∧ t.literal = name

def IsTable (t : Token) (name : String) : Prop :=
  (t.kind = .string ∨ IsColumnWord t) ∧ Text.lower t.literal = name

/-- A placeholder, a quoted text or an integer, however large its number is. -/
inductive IsOperand : List Token → WrittenValue → Prop
  | bare {t : Token} (h : t.kind = .dollar) : IsOperand [t] .bare
  | numbered {t u : Token} (ht : t.kind = .dollar) (hu : u.kind = .integer) :
      IsOperand [t, u] (.given (.param u.number))
  | string {t : Token} (h : t.kind = .string) :
      IsOperand [t] (.given (.literal (.string t.literal)))
  | integer {t : Token} (h : t.kind = .integer) :
      IsOperand [t] (.given (.literal (.integer t.number)))

inductive IsValue : List Token → WrittenValue → Prop
  | operand {ts : List Token} {w : WrittenValue} (h : IsOperand ts w)
      (hrange : ∀ v, w = .given v → v.InRange) : IsValue ts w
  | true {t : Token} (h : t.kind = .keyword .true) : IsValue [t] (.given (.literal (.boolean true)))
  | false {t : Token} (h : t.kind = .keyword .false) :
      IsValue [t] (.given (.literal (.boolean false)))
  | null {t : Token} (h : t.kind = .keyword .null) : IsValue [t] (.given (.literal .null))

/-- Values in parentheses, of the given number. -/
inductive IsTuple (width : Nat) : List Token → List WrittenValue → Prop
  | mk {left right : Token} {ts : List Token} {ws : List WrittenValue} (hleft : left.kind = .leftParen)
      (h : CommaSeparated IsValue ts ws) (hright : right.kind = .rightParen)
      (hwidth : ws.length = width) : IsTuple width (left :: (ts ++ [right])) ws

inductive IsConflict : List Token → Option ConflictAction → Prop
  | none : IsConflict [] none
  | some {t u : Token} {action : ConflictAction} (ht : t.kind = .keyword .or) (hu : u.kind = .ident)
      (haction : u.literal = action.text) : IsConflict [t, u] (some action)

inductive IsReturning : List Token → List String → Prop
  | none : IsReturning [] []
  | some {t : Token} {ts : List Token} {names : List String} (ht : t.kind = .keyword .returning)
      (h : CommaSeparated (OneToken IsItem) ts names) : IsReturning (t :: ts) names

/-- The binds of the values of all tuples, one behind the other. The columns come round again for
each tuple, and the `m`-th bare placeholder has the position `m`. -/
def AreBinds (columns : List String) (ws : List WrittenValue) (binds : List Bind) : Prop :=
  ∀ j, binds[j]? = do
    let w ← ws[j]?
    let column ← columns[j % columns.length]?
    return ⟨column, w.value ((ws.take (j + 1)).count .bare)⟩

end Query

inductive IsInsert : List Token → Insert → Prop
  | mk {insert into table left right values : Token} {ts us vs ws : List Token} {i : Insert}
      {tuples : List (List WrittenValue)} (hinsert : insert.kind = .keyword .insert)
      (hconflict : Query.IsConflict ts i.conflict?) (hinto : into.kind = .keyword .into)
      (htable : Query.IsTable table i.table) (hleft : left.kind = .leftParen)
      (hcolumns : CommaSeparated (OneToken Query.IsColumn) us i.columns)
      (hright : right.kind = .rightParen) (hvalues : values.kind = .keyword .values)
      (htuples : CommaSeparated (Query.IsTuple i.columns.length) vs tuples)
      (hbinds : Query.AreBinds i.columns tuples.flatten i.values)
      (hreturning : Query.IsReturning ws i.returning) :
      IsInsert (insert :: (ts ++ into :: table :: left ::
        (us ++ right :: values :: (vs ++ ws)))) i

end TypedQueries
