import TypedQueries.Lexical.Cursor
import TypedQueries.Fallible
import TypedQueries.Schema.Clock

/-!
The schema grammar:

    declaration = CREATE TABLE [IF NOT EXISTS] name "(" field {"," field} ")"
                | CREATE TYPE name AS ENUM "(" string {"," string} ")"
    field       = name type {modifier}

Declarations stand next to each other, with any number of semicolons around them.
-/

namespace TypedQueries

/-- What may follow the type of a column. -/
inductive Modifier where
  | primaryKey
  | notNull
  | null
  | unique
  | default (value : String)
  deriving DecidableEq, Repr

/-- Each modifier sets its own part of a column; the last default wins. -/
def Field.modify (f : Field) : Modifier → Field
  | .primaryKey => { f with primaryKey := true }
  | .notNull => { f with notNull := true }
  | .null => f
  | .unique => { f with unique := true }
  | .default value => { f with default? := some value }

namespace Schema

/-- A quoted name is kept as it is, a bare word is put into lower case. -/
def nameOf? (t : Token) : Option String :=
  match t.kind with
  | .string => some t.literal
  | .ident | .keyword _ => some (Text.lower t.literal)
  | _ => none

def takeName (expected : String) (c : Cursor) : Except SyntaxError (String × Cursor) :=
  match nameOf? c.current with
  | some name => .ok (name, c.advance)
  | none => .error (c.unexpected expected)

theorem size_takeName {expected name : String} {c d : Cursor}
    (h : takeName expected c = .ok (name, d)) : d.size ≤ c.size := by
  unfold takeName at h
  split at h
  · cases h
    exact c.size_advance_le
  · cases h

/-- Gives an error the number of the column definition that is being taken. -/
def inColumn {α : Type} (index : Nat) (x : Except SyntaxError α) : Except SyntaxError α :=
  x.mapError (SyntaxError.inField index)

/-- Takes an integer below `2 ^ 32`. -/
def takeTypeArgument (index : Nat) (c : Cursor) : Except SyntaxError (Nat × Cursor) :=
  if c.kind = .integer then
    let n := Cursor.digitsValue c.current.literal
    if n < 0x100000000 then .ok (n, c.advance)
    else
      let e := SyntaxError.ofToken c.current (.typeArgumentOutOfRange c.current.literal)
      .error (e.inField index)
  else .error ((c.unexpected "type argument").inField index)

def closeTypeArguments (index : Nat) (c : Cursor) : Except SyntaxError Cursor :=
  inColumn index (c.expect .rightParen "')'")

/-- Takes one argument, up to `more` further ones, and the closing parenthesis. -/
def takeTypeArguments (index more : Nat) (c : Cursor) :
    Except SyntaxError (List Nat × Cursor) := do
  let (n, c) ← takeTypeArgument index c
  match more with
  | more + 1 =>
    if c.kind = .comma then
      let (ns, c) ← takeTypeArguments index more c.advance
      return (n :: ns, c)
    else
      let c ← closeTypeArguments index c
      return ([n], c)
  | 0 =>
    let c ← closeTypeArguments index c
    return ([n], c)

/-- Takes the arguments of a type, at most `more + 1` of them, if there are any. -/
def typeArguments (index more : Nat) (c : Cursor) : Except SyntaxError (List Nat × Cursor) :=
  if c.kind = .leftParen then takeTypeArguments index more c.advance else .ok ([], c)

def takeDataType (index : Nat) (c : Cursor) : Except SyntaxError (DataType × Cursor) :=
  match c.kind with
  | .string => .ok (.enum c.current.literal, c.advance)
  | .ident =>
    match DataType.builtin? c.current.literal with
    | none =>
      let e := SyntaxError.ofToken c.current (.unknownDataType c.current.literal)
      .error (e.inField index)
    | some (.varchar _) => do
      let (arguments, c) ← typeArguments index 0 c.advance
      return (.varchar arguments[0]?, c)
    | some (.decimal _ _) => do
      let (arguments, c) ← typeArguments index 1 c.advance
      return (.decimal arguments[0]? arguments[1]?, c)
    | some type => .ok (type, c.advance)
  | _ => .error ((c.unexpected "data type").inField index)

def isDefaultLiteral : TokenKind → Bool
  | .string | .integer | .keyword .true | .keyword .false => true
  | _ => false

def takeDefaultLiteral (c : Cursor) : Except SyntaxError (String × Cursor) :=
  if isDefaultLiteral c.kind then .ok (c.current.literal, c.advance)
  else .error (c.unexpected "default value")

/-- Whether the cursor is on a word for the current time: a call, or one of two names. -/
def onCurrentTime (c : Cursor) : Bool :=
  c.kind == .ident && (c.next.kind == .leftParen ||
    c.current.literal == "CURRENT_TIMESTAMP" || c.current.literal == "CURRENT_DATE")

/-- Takes the value of a default. A word or a quoted text in front of a literal names its type and is
passed over. -/
def takeDefault (now : Clock) (type : DataType) (c : Cursor) :
    Except SyntaxError (String × Cursor) :=
  if type.holdsTime && onCurrentTime c then
    if c.next.kind = .leftParen then do
      let d ← c.advance.advance.expect .rightParen "')'"
      return (now.currentTime type, d)
    else .ok (now.currentTime type, c.advance)
  else if (c.kind == .ident || c.kind == .string) && isDefaultLiteral c.next.kind then
    takeDefaultLiteral c.advance
  else takeDefaultLiteral c

def takeModifier (now : Clock) (index : Nat) (type : DataType) (c : Cursor) :
    Except SyntaxError (Modifier × Cursor) :=
  match c.kind with
  | .keyword .primary => do
    let d ← inColumn index (c.advance.expectKeyword .key)
    return (.primaryKey, d)
  | .keyword .not => do
    let d ← inColumn index (c.advance.expectKeyword .null)
    return (.notNull, d)
  | .keyword .null => .ok (.null, c.advance)
  | .keyword .unique => .ok (.unique, c.advance)
  | .keyword .default => do
    let (value, d) ← inColumn index (takeDefault now type c.advance)
    return (.default value, d)
  | _ => .error ((c.unexpected "column constraint, ',' or ')'").inField index)

@[simp]
theorem inColumn_ok {α : Type} (index : Nat) (a : α) : inColumn index (.ok a) = .ok a := rfl

theorem inColumn_eq_ok {α : Type} {index : Nat} {x : Except SyntaxError α} {a : α} :
    inColumn index x = .ok a ↔ x = .ok a :=
  mapError_eq_ok

theorem size_takeTypeArgument {index : Nat} {c d : Cursor} {n : Nat}
    (h : takeTypeArgument index c = .ok (n, d)) : d.size ≤ c.size := by
  have := c.size_advance_le
  grind [takeTypeArgument]

theorem size_takeTypeArguments {index more : Nat} {c d : Cursor} {ns : List Nat}
    (h : takeTypeArguments index more c = .ok (ns, d)) : d.size ≤ c.size := by
  induction more generalizing c d ns with
  | zero =>
    rw [takeTypeArguments] at h
    obtain ⟨⟨n, c1⟩, h1, h⟩ := bind_eq_ok.1 h
    obtain ⟨c2, h2, h⟩ := bind_eq_ok.1 h
    have := size_takeTypeArgument h1
    have := Cursor.size_of_expect (inColumn_eq_ok.1 h2)
    cases h
    omega
  | succ more ih =>
    rw [takeTypeArguments] at h
    obtain ⟨⟨n, c1⟩, h1, h⟩ := bind_eq_ok.1 h
    have := size_takeTypeArgument h1
    dsimp only at h
    split at h
    · obtain ⟨⟨ns', c2⟩, h2, h⟩ := bind_eq_ok.1 h
      have := ih h2
      have := c1.size_advance_le
      dsimp only at h
      cases h
      omega
    · obtain ⟨c2, h2, h⟩ := bind_eq_ok.1 h
      have := Cursor.size_of_expect (inColumn_eq_ok.1 h2)
      cases h
      omega

theorem size_typeArguments {index more : Nat} {c d : Cursor} {ns : List Nat}
    (h : typeArguments index more c = .ok (ns, d)) : d.size ≤ c.size := by
  unfold typeArguments at h
  split at h
  · exact Nat.le_trans (size_takeTypeArguments h) c.size_advance_le
  · cases h
    exact Nat.le_refl _

theorem size_takeDataType {index : Nat} {c d : Cursor} {type : DataType}
    (h : takeDataType index c = .ok (type, d)) : d.size ≤ c.size := by
  have := c.size_advance_le
  unfold takeDataType at h
  split at h
  · cases h
    assumption
  · split at h
    · cases h
    · obtain ⟨⟨ns, c1⟩, h1, h⟩ := bind_eq_ok.1 h
      cases h
      exact Nat.le_trans (size_typeArguments h1) this
    · obtain ⟨⟨ns, c1⟩, h1, h⟩ := bind_eq_ok.1 h
      cases h
      exact Nat.le_trans (size_typeArguments h1) this
    · cases h
      assumption
  · cases h

theorem size_takeDefaultLiteral {c d : Cursor} {value : String}
    (h : takeDefaultLiteral c = .ok (value, d)) : d.size ≤ c.size := by
  have := c.size_advance_le
  grind [takeDefaultLiteral]

theorem size_takeDefault {now : Clock} {type : DataType} {c d : Cursor} {value : String}
    (h : takeDefault now type c = .ok (value, d)) : d.size ≤ c.size := by
  have h1 := c.size_advance_le
  have h2 := c.advance.size_advance_le
  unfold takeDefault at h
  split at h
  · split at h
    · obtain ⟨c1, hc, h⟩ := bind_eq_ok.1 h
      have := Cursor.size_of_expect hc
      cases h
      omega
    · cases h
      assumption
  · split at h
    · exact Nat.le_trans (size_takeDefaultLiteral h) h1
    · exact size_takeDefaultLiteral h

theorem size_takeModifier {now : Clock} {index : Nat} {type : DataType} {c d : Cursor} {m : Modifier}
    (h : takeModifier now index type c = .ok (m, d)) : d.size < c.size := by
  have lt : c.kind ≠ .endOfInput → c.advance.size < c.size := Cursor.size_advance_lt
  unfold takeModifier at h
  split at h <;> rename_i hk <;> simp only [hk, ne_eq, reduceCtorEq, not_false_eq_true, forall_const] at lt
  · obtain ⟨c1, hc, h⟩ := bind_eq_ok.1 h
    have := Cursor.size_of_expect (inColumn_eq_ok.1 hc)
    cases h
    omega
  · obtain ⟨c1, hc, h⟩ := bind_eq_ok.1 h
    have := Cursor.size_of_expect (inColumn_eq_ok.1 hc)
    cases h
    omega
  · cases h
    assumption
  · cases h
    assumption
  · obtain ⟨⟨value, c1⟩, hc, h⟩ := bind_eq_ok.1 h
    have := size_takeDefault (inColumn_eq_ok.1 hc)
    cases h
    omega
  · cases h

/-- Takes modifiers up to the comma or parenthesis behind a column. -/
def takeModifiers (now : Clock) (index : Nat) (type : DataType) (c : Cursor) :
    Except SyntaxError (List Modifier × Cursor) :=
  if c.kind = .comma ∨ c.kind = .rightParen then .ok ([], c)
  else
    match _h : takeModifier now index type c with
    | .error e => .error e
    | .ok (m, d) => do
      let (ms, d) ← takeModifiers now index type d
      return (m :: ms, d)
termination_by c.size
decreasing_by exact size_takeModifier _h

theorem size_takeModifiers {now : Clock} {index : Nat} {type : DataType} {c d : Cursor}
    {ms : List Modifier} (h : takeModifiers now index type c = .ok (ms, d)) : d.size ≤ c.size := by
  fun_induction takeModifiers now index type c generalizing d ms with
  | case1 => cases h; exact Nat.le_refl _
  | case2 => cases h
  | case3 c hc m c1 h1 ih =>
    obtain ⟨⟨ms', c2⟩, h2, h⟩ := bind_eq_ok.1 h
    have := size_takeModifier h1
    have := ih h2
    cases h
    omega

/-- Takes a column definition; `index` of them came before in the table. -/
def takeField (now : Clock) (index : Nat) (c : Cursor) : Except SyntaxError (Field × Cursor) := do
  let (name, c) ← inColumn index (takeName "column name" c)
  let (type, c) ← takeDataType index c
  let (modifiers, c) ← takeModifiers now index type c
  return (modifiers.foldl Field.modify (Field.plain name type), c)

theorem size_takeField {now : Clock} {index : Nat} {c d : Cursor} {f : Field}
    (h : takeField now index c = .ok (f, d)) : d.size ≤ c.size := by
  obtain ⟨⟨name, c1⟩, h1, h⟩ := bind_eq_ok.1 h
  obtain ⟨⟨type, c2⟩, h2, h⟩ := bind_eq_ok.1 h
  obtain ⟨⟨ms, c3⟩, h3, h⟩ := bind_eq_ok.1 h
  have := size_takeName (inColumn_eq_ok.1 h1)
  have := size_takeDataType h2
  have := size_takeModifiers h3
  cases h
  omega

/-- Takes the columns of a table and the closing parenthesis; `index` columns came before. -/
def takeFields (now : Clock) (index : Nat) (c : Cursor) :
    Except SyntaxError (List Field × Cursor) :=
  match _h : takeField now index c with
  | .error e => .error e
  | .ok (f, d) =>
    if _hk : d.kind = .comma then do
      let (fs, d) ← takeFields now (index + 1) d.advance
      return (f :: fs, d)
    else do
      let d ← d.expect .rightParen "',' or ')'"
      return ([f], d)
termination_by c.size
decreasing_by
  have h1 := size_takeField _h
  have h2 := Cursor.size_advance_lt (c := d) (by simp [_hk])
  omega

theorem size_takeFields {now : Clock} {index : Nat} {c d : Cursor} {fs : List Field}
    (h : takeFields now index c = .ok (fs, d)) : d.size ≤ c.size := by
  fun_induction takeFields now index c generalizing d fs with
  | case1 => cases h
  | case2 index c f c1 h1 hk ih =>
    obtain ⟨⟨fs', c2⟩, h2, h⟩ := bind_eq_ok.1 h
    have := size_takeField h1
    have := c1.size_advance_le
    have := ih h2
    cases h
    omega
  | case3 index c f c1 h1 hk =>
    obtain ⟨c2, h2, h⟩ := bind_eq_ok.1 h
    have := size_takeField h1
    have := Cursor.size_of_expect h2
    cases h
    omega

/-- Takes `IF NOT EXISTS` if it starts here. -/
def skipIfNotExists (c : Cursor) : Except SyntaxError Cursor :=
  if c.kind = .keyword .if then do
    let c ← c.advance.expectKeyword .not
    c.expectKeyword .exists
  else .ok c

def takeTable (now : Clock) (c : Cursor) : Except SyntaxError (Table × Cursor) := do
  let c ← skipIfNotExists c
  let (name, c) ← takeName "table name" c
  let c ← c.expect .leftParen "'('"
  let (fields, c) ← takeFields now 0 c
  return (⟨name, fields⟩, c)

def enumValue? (t : Token) : Option String :=
  if t.kind = .string then some t.literal else none

def takeEnumeration (c : Cursor) : Except SyntaxError (Enumeration × Cursor) := do
  let (name, c) ← takeName "type name" c
  let c ← c.expectKeyword .as
  let c ← c.expectKeyword .enum
  let c ← c.expect .leftParen "'('"
  let (values, c) ← c.commaSeparated enumValue? "enum value"
  let c ← c.expect .rightParen "',' or ')'"
  return (⟨name, values⟩, c)

/-- Takes what follows CREATE. -/
def takeDeclaration (now : Clock) (c : Cursor) : Except SyntaxError (SchemaItem × Cursor) :=
  match c.kind with
  | .keyword .table => do
    let (table, c) ← takeTable now c.advance
    return (.table table, c)
  | .keyword .type => do
    let (enumeration, c) ← takeEnumeration c.advance
    return (.enumeration enumeration, c)
  | _ => .error (c.unexpected "TABLE or TYPE")

theorem size_skipIfNotExists {c d : Cursor} (h : skipIfNotExists c = .ok d) : d.size ≤ c.size := by
  unfold skipIfNotExists at h
  split at h
  · obtain ⟨c1, h1, h⟩ := bind_eq_ok.1 h
    have := c.size_advance_le
    have := Cursor.size_of_expect h1
    have := Cursor.size_of_expect h
    omega
  · cases h
    exact Nat.le_refl _

theorem size_takeDeclaration {now : Clock} {c d : Cursor} {item : SchemaItem}
    (h : takeDeclaration now c = .ok (item, d)) : d.size ≤ c.size := by
  have := c.size_advance_le
  unfold takeDeclaration at h
  split at h
  · obtain ⟨⟨table, c1⟩, h1, h⟩ := bind_eq_ok.1 h
    obtain ⟨c2, h2, h1⟩ := bind_eq_ok.1 h1
    obtain ⟨⟨name, c3⟩, h3, h1⟩ := bind_eq_ok.1 h1
    obtain ⟨c4, h4, h1⟩ := bind_eq_ok.1 h1
    obtain ⟨⟨fields, c5⟩, h5, h1⟩ := bind_eq_ok.1 h1
    have := size_skipIfNotExists h2
    have := size_takeName h3
    have := Cursor.size_of_expect h4
    have := size_takeFields h5
    cases h1
    cases h
    omega
  · obtain ⟨⟨enumeration, c1⟩, h1, h⟩ := bind_eq_ok.1 h
    obtain ⟨⟨name, c2⟩, h2, h1⟩ := bind_eq_ok.1 h1
    obtain ⟨c3, h3, h1⟩ := bind_eq_ok.1 h1
    obtain ⟨c4, h4, h1⟩ := bind_eq_ok.1 h1
    obtain ⟨c5, h5, h1⟩ := bind_eq_ok.1 h1
    obtain ⟨⟨values, c6⟩, h6, h1⟩ := bind_eq_ok.1 h1
    obtain ⟨c7, h7, h1⟩ := bind_eq_ok.1 h1
    have := size_takeName h2
    have := Cursor.size_of_expect h3
    have := Cursor.size_of_expect h4
    have := Cursor.size_of_expect h5
    have := Cursor.size_commaSeparated h6
    have := Cursor.size_of_expect h7
    cases h1
    cases h
    omega
  · cases h

/-- Takes declarations and semicolons up to the end of input. -/
def takeItems (now : Clock) (c : Cursor) : Except SyntaxError (List SchemaItem) :=
  match _hk : c.kind with
  | .endOfInput => .ok []
  | .semicolon => takeItems now c.advance
  | .keyword .create =>
    match _h : takeDeclaration now c.advance with
    | .error e => .error e
    | .ok (item, d) => do
      let items ← takeItems now d
      return item :: items
  | _ => .error (c.unexpected "CREATE")
termination_by c.size
decreasing_by
  · exact Cursor.size_advance_lt (by simp [_hk])
  · have h1 := Cursor.size_advance_lt (c := c) (by simp [_hk])
    have h2 := size_takeDeclaration _h
    omega

end Schema

/-- The declarations of a schema text, in order, where defaults such as `now()` mean `now`. -/
def parseSchema (now : Clock) (source : String) : Except SyntaxError (List SchemaItem) :=
  Schema.takeItems now (Cursor.ofSource source)

end TypedQueries
