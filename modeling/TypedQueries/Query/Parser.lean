import TypedQueries.Lexical.Cursor
import TypedQueries.Query.Statement

/-!
The query grammar: one SELECT or INSERT statement. What stands behind its semicolon is not read.

    select = SELECT [DISTINCT] items FROM table [WHERE conditions] [LIMIT n] [OFFSET n]
    insert = INSERT [OR action] INTO table "(" column {"," column} ")"
             VALUES tuple {"," tuple} [RETURNING item {"," item}]

Of a select list only names and stars are kept, and of a WHERE clause only complete conditions.
-/

namespace TypedQueries

namespace Cursor

/-- Takes the token under the cursor if `f` makes something of it. -/
def takeSome {α : Type} (f : Token → Option α) (c : Cursor) : Option α × Cursor :=
  match f c.current with
  | some a => (some a, c.advance)
  | none => (none, c)

/-- If `f` makes nothing of the end of input, a token was taken or the cursor is where it was. -/
theorem takeSome_cases {α : Type} {f : Token → Option α} (hf : ∀ n, f (Token.endOfInput n) = none)
    (c : Cursor) : (c.takeSome f).2.size < c.size ∨ (c.takeSome f).2 = c := by
  unfold takeSome
  split
  · rename_i a ha
    left
    apply size_advance_lt_of_ne_nil
    intro hn
    rw [current_of_eq_nil hn, hf] at ha
    cases ha
  · exact Or.inr rfl

end Cursor

namespace Query

/-- A bare word that names a column. -/
def column? (t : Token) : Option String := if t.isColumnWord then some t.literal else none

/-- A column or a star. -/
def item? (t : Token) : Option String :=
  if t.kind = .star || t.isColumnWord then some t.literal else none

/-- A table, quoted or bare; its name is put into lower case. -/
def table? (t : Token) : Option String :=
  if t.kind = .string || t.isColumnWord then some (Text.lower t.literal) else none

def connective? (t : Token) : Option Connective :=
  match t.kind with
  | .keyword .and => some .and
  | .keyword .or => some .or
  | _ => none

def comparison? (t : Token) : Option Comparison :=
  match t.kind with
  | .eq => some .eq
  | .notEq => some .notEq
  | .lt => some .lt
  | .gt => some .gt
  | .ltEq => some .ltEq
  | .gtEq => some .gtEq
  | _ => none

def takeTable (c : Cursor) : Except SyntaxError (String × Cursor) :=
  match table? c.current with
  | some name => .ok (name, c.advance)
  | none => .error (c.unexpected "table name")

/-- Takes the placeholder under the cursor. A bare one gets the position behind `bare`, the last one
given to a bare one before. -/
def takePosition (bare : Nat) (c : Cursor) : Except SyntaxError (Nat × Nat × Cursor) :=
  if c.next.kind = .integer then
    let n := Cursor.digitsValue c.next.literal
    if n = 0 then .error (.ofToken c.next .bindPositionZero)
    else if n < 0x10000000000000000 then .ok (n, bare, c.advance.advance)
    else .error (.ofToken c.next (.bindPositionOutOfRange c.next.literal))
  else .ok (bare + 1, bare + 1, c.advance)

/-- Takes the integer under the cursor, which has to be below `2 ^ 63`. -/
def takeInteger (c : Cursor) : Except SyntaxError (Int × Cursor) :=
  let n := Cursor.digitsValue c.current.literal
  if n < 0x8000000000000000 then .ok (n, c.advance)
  else .error (.ofToken c.current (.integerOutOfRange c.current.literal))

/-- Takes a placeholder, a quoted text or an integer, if the cursor is on one. -/
def takeOperand (bare : Nat) (c : Cursor) : Except SyntaxError (Option (BindValue × Nat × Cursor)) :=
  match c.kind with
  | .dollar => do
    let (position, bare, d) ← takePosition bare c
    return some (.param position, bare, d)
  | .string => .ok (some (.literal (.string c.current.literal), bare, c.advance))
  | .integer => do
    let (n, d) ← takeInteger c
    return some (.literal (.integer n), bare, d)
  | _ => .ok none

theorem size_takeOperand {bare bare' : Nat} {c d : Cursor} {value : BindValue}
    (h : takeOperand bare c = .ok (some (value, bare', d))) : d.size < c.size := by
  have lt : c.kind ≠ .endOfInput → c.advance.size < c.size := Cursor.size_advance_lt
  have le := c.advance.size_advance_le
  unfold takeOperand at h
  split at h <;> rename_i hk <;>
    simp only [hk, ne_eq, reduceCtorEq, not_false_eq_true, forall_const] at lt
  · obtain ⟨⟨n, b, c1⟩, h1, h⟩ := bind_eq_ok.1 h
    cases h
    unfold takePosition at h1
    split at h1
    · dsimp only at h1
      split at h1
      · cases h1
      · split at h1
        · cases h1
          omega
        · cases h1
    · cases h1
      exact lt
  · cases h
    exact lt
  · obtain ⟨⟨n, c1⟩, h1, h⟩ := bind_eq_ok.1 h
    cases h
    unfold takeInteger at h1
    dsimp only at h1
    split at h1
    · cases h1
      exact lt
    · cases h1
  · cases h

/-- Where a WHERE clause ends. -/
def endsWhere : TokenKind → Bool
  | .semicolon | .endOfInput | .keyword .limit | .keyword .offset => true
  | _ => false

/-- The condition of parts that were found; none if one of them is missing. -/
def condition? (chain? : Option Connective) (column? : Option String)
    (comparison? : Option Comparison) (value? : Option BindValue) : Option Condition := do
  let column ← column?
  let comparison ← comparison?
  let value ← value?
  return ⟨chain?, column, comparison, ⟨column, value⟩⟩

/-- Takes the parts of one condition as far as they are there. A token that is no value in the place
of one is passed over, unless it ends the clause. -/
def takeCondition (bare : Nat) (c : Cursor) :
    Except SyntaxError (Option Condition × Nat × Cursor) :=
  let (chain, c) := c.takeSome connective?
  let (column, c) := c.takeSome column?
  let (comparison, c) := c.takeSome comparison?
  match takeOperand bare c with
  | .error e => .error e
  | .ok (some (value, bare, c)) => .ok (condition? chain column comparison (some value), bare, c)
  | .ok none => .ok (none, bare, if endsWhere c.kind then c else c.advance)

theorem size_takeCondition {bare bare' : Nat} {c d : Cursor} {condition : Option Condition}
    (hc : endsWhere c.kind = false) (h : takeCondition bare c = .ok (condition, bare', d)) :
    d.size < c.size := by
  have hconn : ∀ n, connective? (Token.endOfInput n) = none := fun _ => rfl
  have hcol : ∀ n, column? (Token.endOfInput n) = none := fun _ => rfl
  have hcomp : ∀ n, comparison? (Token.endOfInput n) = none := fun _ => rfl
  unfold takeCondition at h
  have h1 := Cursor.takeSome_cases hconn c
  generalize c.takeSome connective? = p1 at h h1
  obtain ⟨chain, c1⟩ := p1
  have h2 := Cursor.takeSome_cases hcol c1
  dsimp only at h h1
  generalize c1.takeSome column? = p2 at h h2
  obtain ⟨column, c2⟩ := p2
  have h3 := Cursor.takeSome_cases hcomp c2
  dsimp only at h h2
  generalize c2.takeSome comparison? = p3 at h h3
  obtain ⟨comparison, c3⟩ := p3
  dsimp only at h h3
  -- up to here a token was taken, or the cursor did not move
  have moved : c3.size < c.size ∨ c3 = c := by grind
  split at h
  · cases h
  · rename_i hop
    cases h
    have := size_takeOperand hop
    rcases moved with hlt | rfl <;> omega
  · cases h
    rcases moved with hlt | rfl
    · split
      · exact hlt
      · have := c3.size_advance_le
        omega
    · rw [hc]
      apply Cursor.size_advance_lt
      intro hk
      simp [hk, endsWhere] at hc

/-- Takes a WHERE clause to its end and keeps its complete conditions. -/
def takeConditions (bare : Nat) (c : Cursor) : Except SyntaxError (List Condition × Cursor) :=
  if _hc : endsWhere c.kind then .ok ([], c)
  else
    match _h : takeCondition bare c with
    | .error e => .error e
    | .ok (condition, bare, d) => do
      let (conditions, d) ← takeConditions bare d
      return (condition.toList ++ conditions, d)
termination_by c.size
decreasing_by exact size_takeCondition (by simpa using _hc) _h

/-- Takes `WHERE` and its clause, if the keyword is there. -/
def takeWhere (c : Cursor) : Except SyntaxError (List Condition × Cursor) :=
  if c.kind = .keyword .where then takeConditions 0 c.advance else .ok ([], c)

/-- Takes a keyword and the number behind it, if the keyword is there. -/
def takeBound (k : Keyword) (c : Cursor) : Except SyntaxError (Option Nat × Cursor) :=
  if c.kind = .keyword k then do
    let (n, d) ← c.advance.expectUnsigned s!"integer after {k.text}"
    return (some n, d)
  else .ok (none, c)

/-- Takes all up to FROM and keeps the columns and stars. -/
def takeSelectList (c : Cursor) : List String × Cursor :=
  let inList (t : Token) : Bool := t.kind != .keyword .from
  ((c.tokens.takeWhile inList).filterMap item?, { c with tokens := c.tokens.dropWhile inList })

/-- Takes what follows SELECT. -/
def takeSelect (c : Cursor) : Except SyntaxError (Select × Cursor) := do
  let (distinct, c) := c.eatKeyword .distinct
  let (columns, c) := takeSelectList c
  let c ← c.expectKeyword .from
  let (table, c) ← takeTable c
  let (conditions, c) ← takeWhere c
  let (limit, c) ← takeBound .limit c
  let (offset, c) ← takeBound .offset c
  return (⟨distinct, columns, table, conditions, limit, offset⟩, c)

/-- Takes a value of a tuple. -/
def takeValue (bare : Nat) (c : Cursor) : Except SyntaxError (BindValue × Nat × Cursor) := do
  match ← takeOperand bare c with
  | some taken => return taken
  | none =>
    match c.kind with
    | .keyword .true => return (.literal (.boolean true), bare, c.advance)
    | .keyword .false => return (.literal (.boolean false), bare, c.advance)
    | .keyword .null => return (.literal .null, bare, c.advance)
    | _ => throw (c.unexpected "bind parameter or literal")

theorem size_takeValue {bare bare' : Nat} {c d : Cursor} {value : BindValue}
    (h : takeValue bare c = .ok (value, bare', d)) : d.size ≤ c.size := by
  have le := c.size_advance_le
  obtain ⟨taken?, h1, h⟩ := bind_eq_ok.1 h
  cases taken? with
  | some taken =>
    cases h
    exact Nat.le_of_lt (size_takeOperand h1)
  | none =>
    dsimp only at h
    split at h <;> cases h <;> exact le

/-- Takes the values of a tuple, with commas between them. -/
def takeValues (bare : Nat) (c : Cursor) : Except SyntaxError (List BindValue × Nat × Cursor) :=
  match _h : takeValue bare c with
  | .error e => .error e
  | .ok (value, bare, d) =>
    if _hk : d.kind = .comma then do
      let (values, bare, d) ← takeValues bare d.advance
      return (value :: values, bare, d)
    else .ok ([value], bare, d)
termination_by c.size
decreasing_by
  have h1 := size_takeValue _h
  have h2 := Cursor.size_advance_lt (c := d) (by simp [_hk])
  omega

theorem size_takeValues {bare bare' : Nat} {c d : Cursor} {values : List BindValue}
    (h : takeValues bare c = .ok (values, bare', d)) : d.size ≤ c.size := by
  fun_induction takeValues bare c generalizing d bare' values with
  | case1 => cases h
  | case2 bare c value bare1 c1 h1 hk ih =>
    obtain ⟨⟨values', bare2, c2⟩, h2, h⟩ := bind_eq_ok.1 h
    have := size_takeValue h1
    have := c1.size_advance_le
    have := ih h2
    cases h
    omega
  | case3 bare c value bare1 c1 h1 hk =>
    cases h
    exact size_takeValue h1

/-- Takes a tuple. Its values belong to the columns in order, one to each. -/
def takeTuple (columns : List String) (bare : Nat) (c : Cursor) :
    Except SyntaxError (List Bind × Nat × Cursor) := do
  let d ← c.expect .leftParen "'('"
  let (values, bare, d) ← takeValues bare d
  let d ← d.expect .rightParen "',' or ')'"
  if values.length = columns.length then return (List.zipWith Bind.mk columns values, bare, d)
  else throw (.ofToken c.current (.tupleLength values.length columns.length))

theorem size_takeTuple {columns : List String} {bare bare' : Nat} {c d : Cursor}
    {binds : List Bind} (h : takeTuple columns bare c = .ok (binds, bare', d)) :
    d.size ≤ c.size := by
  obtain ⟨c1, h1, h⟩ := bind_eq_ok.1 h
  obtain ⟨⟨values, bare1, c2⟩, h2, h⟩ := bind_eq_ok.1 h
  obtain ⟨c3, h3, h⟩ := bind_eq_ok.1 h
  have := Cursor.size_of_expect h1
  have := size_takeValues h2
  have := Cursor.size_of_expect h3
  split at h
  · cases h
    omega
  · cases h

/-- Takes tuples, with commas between them, and puts their values one after the other. -/
def takeTuples (columns : List String) (bare : Nat) (c : Cursor) :
    Except SyntaxError (List Bind × Cursor) :=
  match _h : takeTuple columns bare c with
  | .error e => .error e
  | .ok (binds, bare, d) =>
    if _hk : d.kind = .comma then do
      let (more, d) ← takeTuples columns bare d.advance
      return (binds ++ more, d)
    else .ok (binds, d)
termination_by c.size
decreasing_by
  have h1 := size_takeTuple _h
  have h2 := Cursor.size_advance_lt (c := d) (by simp [_hk])
  omega

/-- Takes `OR` and an action, if the keyword is there. -/
def takeConflict (c : Cursor) : Except SyntaxError (Option ConflictAction × Cursor) :=
  if c.kind = .keyword .or then
    let c := c.advance
    match if c.kind = .ident then ConflictAction.ofText? c.current.literal else none with
    | some action => .ok (some action, c.advance)
    | none => .error (c.unexpected "REPLACE, IGNORE, ABORT, FAIL or ROLLBACK")
  else .ok (none, c)

/-- Takes `RETURNING` and its list, if the keyword is there. -/
def takeReturning (c : Cursor) : Except SyntaxError (List String × Cursor) :=
  if c.kind = .keyword .returning then c.advance.commaSeparated item? "column name"
  else .ok ([], c)

/-- Takes what follows INSERT. -/
def takeInsert (c : Cursor) : Except SyntaxError (Insert × Cursor) := do
  let (conflict, c) ← takeConflict c
  let c ← c.expectKeyword .into
  let (table, c) ← takeTable c
  let c ← c.expect .leftParen "'('"
  let (columns, c) ← c.commaSeparated column? "column name"
  let c ← c.expect .rightParen "',' or ')'"
  let c ← c.expectKeyword .values
  let (values, c) ← takeTuples columns 0 c
  let (returning, c) ← takeReturning c
  return (⟨conflict, table, columns, values, returning⟩, c)

def takeStatement (c : Cursor) : Except SyntaxError (Statement × Cursor) :=
  match c.kind with
  | .keyword .select => do
    let (select, c) ← takeSelect c.advance
    return (.select select, c)
  | .keyword .insert => do
    let (insert, c) ← takeInsert c.advance
    return (.insert insert, c)
  | _ => .error (c.unexpected "SELECT or INSERT")

end Query

/-- The statement of a query text, up to its semicolon or the end of input. -/
def parseQuery (source : String) : Except SyntaxError Statement := do
  let (statement, c) ← Query.takeStatement (Cursor.ofSource source)
  if c.kind = .semicolon ∨ c.kind = .endOfInput then return statement
  else throw (c.unexpected "';'")

end TypedQueries
