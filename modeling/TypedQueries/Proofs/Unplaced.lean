import TypedQueries.Query.Parser

/-!
The query grammar reads the kinds and the texts of tokens and never their places. `unplaced` leaves
all places out; every step of the grammar commutes with it, so that texts with the same lexemes are
read alike, whatever stands between these.
-/

namespace TypedQueries

def Token.unplaced (t : Token) : Token := { t with span := Span.point 0 }

@[simp]
theorem Token.kind_unplaced (t : Token) : t.unplaced.kind = t.kind := rfl

@[simp]
theorem Token.literal_unplaced (t : Token) : t.unplaced.literal = t.literal := rfl

@[simp]
theorem Token.isColumnWord_unplaced (t : Token) : t.unplaced.isColumnWord = t.isColumnWord := rfl

def SyntaxFault.unplaced : SyntaxFault → SyntaxFault
  | unexpected expected found => unexpected expected found.unplaced
  | fault => fault

/-- The message of a fault does not say where it is. -/
@[simp]
theorem SyntaxFault.message_unplaced (f : SyntaxFault) : f.unplaced.message = f.message := by
  cases f <;> rfl

def SyntaxError.unplaced (e : SyntaxError) : SyntaxError := ⟨e.fault.unplaced, Span.point 0, e.field?⟩

/-- A result of the grammar without places; `f` leaves them out of what was taken. -/
def unplacedResult {α : Type} (f : α → α) : Except SyntaxError α → Except SyntaxError α
  | .ok a => .ok (f a)
  | .error e => .error e.unplaced

theorem unplacedResult_bind {α β : Type} {f : α → α} {g : β → β}
    {k l : α → Except SyntaxError β} (h : ∀ a, l (f a) = unplacedResult g (k a))
    (x : Except SyntaxError α) : unplacedResult f x >>= l = unplacedResult g (x >>= k) := by
  cases x with
  | error e => rfl
  | ok a => exact h a

theorem unplacedResult_eq_ok {α : Type} {f : α → α} {x : Except SyntaxError α} {b : α} :
    unplacedResult f x = .ok b ↔ ∃ a, x = .ok a ∧ f a = b := by
  cases x with
  | error e => simp [unplacedResult]
  | ok a => simp [unplacedResult]

namespace Cursor

def unplaced (c : Cursor) : Cursor := ⟨c.tokens.map Token.unplaced, 0⟩

@[simp]
theorem current_unplaced (c : Cursor) : c.unplaced.current = c.current.unplaced := by
  obtain ⟨tokens, length⟩ := c
  cases tokens <;> rfl

@[simp]
theorem kind_unplaced (c : Cursor) : c.unplaced.kind = c.kind := by
  simp [kind]

@[simp]
theorem advance_unplaced (c : Cursor) : c.unplaced.advance = c.advance.unplaced := by
  obtain ⟨tokens, length⟩ := c
  cases tokens <;> rfl

@[simp]
theorem next_unplaced (c : Cursor) : c.unplaced.next = c.next.unplaced := by
  simp [next]

theorem unexpected_unplaced (c : Cursor) (expected : String) :
    c.unplaced.unexpected expected = (c.unexpected expected).unplaced := by
  simp [unexpected, SyntaxError.unexpected, SyntaxError.unplaced, SyntaxFault.unplaced,
    Token.unplaced]

theorem eat_unplaced (c : Cursor) (kind : TokenKind) :
    c.unplaced.eat kind = Prod.map id unplaced (c.eat kind) := by
  by_cases h : c.kind = kind <;> simp [eat, h]

theorem expect_unplaced (c : Cursor) (kind : TokenKind) (expected : String) :
    c.unplaced.expect kind expected = unplacedResult unplaced (c.expect kind expected) := by
  by_cases h : c.kind = kind <;> simp [expect, h, unplacedResult, unexpected_unplaced]

theorem commaSeparated_unplaced {α : Type} (item : Token → Option α) (expected : String)
    (hitem : ∀ t : Token, item t.unplaced = item t) (c : Cursor) :
    c.unplaced.commaSeparated item expected =
      unplacedResult (Prod.map id unplaced) (c.commaSeparated item expected) := by
  fun_induction commaSeparated item expected c with
  | case1 c h =>
    rw [commaSeparated]
    simp [hitem, h, unplacedResult, unexpected_unplaced]
  | case2 c a h hk ih =>
    rw [commaSeparated]
    simp only [current_unplaced, hitem, h, advance_unplaced, kind_unplaced, hk, ↓reduceDIte, ih]
    exact unplacedResult_bind (by intro _; rfl) _
  | case3 c a h hk =>
    rw [commaSeparated]
    simp [hitem, h, hk, unplacedResult]

theorem expectUnsigned_unplaced (c : Cursor) (expected : String) :
    c.unplaced.expectUnsigned expected =
      unplacedResult (Prod.map id unplaced) (c.expectUnsigned expected) := by
  simp only [expectUnsigned, kind_unplaced, current_unplaced, Token.literal_unplaced,
    advance_unplaced, unexpected_unplaced]
  split
  · split <;> rfl
  · rfl

theorem takeSome_unplaced {α : Type} (f : Token → Option α)
    (hf : ∀ t : Token, f t.unplaced = f t) (c : Cursor) :
    c.unplaced.takeSome f = Prod.map id unplaced (c.takeSome f) := by
  simp only [takeSome, current_unplaced, hf, advance_unplaced]
  split <;> rfl

end Cursor

namespace Query

open Cursor

theorem takeTable_unplaced (c : Cursor) :
    takeTable c.unplaced = unplacedResult (Prod.map id unplaced) (takeTable c) := by
  have h : table? c.current.unplaced = table? c.current := rfl
  simp only [takeTable, current_unplaced, h, advance_unplaced, unexpected_unplaced]
  split <;> rfl

theorem takePosition_unplaced (bare : Nat) (c : Cursor) :
    takePosition bare c.unplaced =
      unplacedResult (Prod.map id (Prod.map id unplaced)) (takePosition bare c) := by
  simp only [takePosition, next_unplaced, Token.kind_unplaced, Token.literal_unplaced,
    advance_unplaced]
  split
  · split
    · rfl
    · split <;> rfl
  · rfl

theorem takeInteger_unplaced (c : Cursor) :
    takeInteger c.unplaced = unplacedResult (Prod.map id unplaced) (takeInteger c) := by
  simp only [takeInteger, current_unplaced, Token.literal_unplaced, advance_unplaced]
  split <;> rfl

theorem takeOperand_unplaced (bare : Nat) (c : Cursor) :
    takeOperand bare c.unplaced =
      unplacedResult (Option.map (Prod.map id (Prod.map id unplaced))) (takeOperand bare c) := by
  simp only [takeOperand, kind_unplaced, current_unplaced, Token.literal_unplaced,
    advance_unplaced, takePosition_unplaced, takeInteger_unplaced]
  split
  · exact unplacedResult_bind (by intro _; rfl) _
  · rfl
  · exact unplacedResult_bind (by intro _; rfl) _
  · rfl

theorem takeCondition_unplaced (bare : Nat) (c : Cursor) :
    takeCondition bare c.unplaced =
      unplacedResult (Prod.map id (Prod.map id unplaced)) (takeCondition bare c) := by
  simp only [takeCondition, takeSome_unplaced connective? fun _ => rfl,
    takeSome_unplaced column? fun _ => rfl,
    takeSome_unplaced comparison? fun _ => rfl, Prod.map, id, takeOperand_unplaced,
    kind_unplaced, advance_unplaced]
  cases takeOperand bare _ with
  | error e => rfl
  | ok taken? =>
    cases taken? with
    | some taken => rfl
    | none =>
      simp only [unplacedResult, Option.map_none]
      split <;> rfl

theorem takeConditions_unplaced (bare : Nat) (c : Cursor) :
    takeConditions bare c.unplaced =
      unplacedResult (Prod.map id unplaced) (takeConditions bare c) := by
  fun_induction takeConditions bare c with
  | case1 bare c hc =>
    rw [takeConditions]
    simp [hc, unplacedResult]
  | case2 bare c hc e h =>
    rw [takeConditions]
    simp only [kind_unplaced, hc, Bool.false_eq_true, ↓reduceDIte]
    split <;> rename_i h' <;> rw [takeCondition_unplaced, h] at h' <;> cases h'
    rfl
  | case3 bare c hc condition bare1 d h ih =>
    rw [takeConditions]
    simp only [kind_unplaced, hc, Bool.false_eq_true, ↓reduceDIte]
    split <;> rename_i h' <;> rw [takeCondition_unplaced, h] at h' <;> cases h'
    simp only [id, ih]
    exact unplacedResult_bind (by intro _; rfl) _

theorem takeWhere_unplaced (c : Cursor) :
    takeWhere c.unplaced = unplacedResult (Prod.map id unplaced) (takeWhere c) := by
  simp only [takeWhere, kind_unplaced, advance_unplaced, takeConditions_unplaced]
  split <;> rfl

theorem takeBound_unplaced (k : Keyword) (c : Cursor) :
    takeBound k c.unplaced = unplacedResult (Prod.map id unplaced) (takeBound k c) := by
  simp only [takeBound, kind_unplaced, advance_unplaced, expectUnsigned_unplaced]
  split
  · exact unplacedResult_bind (by intro _; rfl) _
  · rfl

theorem takeSelectList_unplaced (c : Cursor) :
    takeSelectList c.unplaced = Prod.map id unplaced (takeSelectList c) := by
  have hitems (ts : List Token) : (ts.map Token.unplaced).filterMap item? = ts.filterMap item? :=
    List.filterMap_map
  have hlist : (fun t : Token => t.kind != .keyword .from) ∘ Token.unplaced =
      fun t => t.kind != .keyword .from := rfl
  simp only [takeSelectList, unplaced, List.takeWhile_map, List.dropWhile_map, hlist, hitems,
    Prod.map, id]

theorem takeSelect_unplaced (c : Cursor) :
    takeSelect c.unplaced = unplacedResult (Prod.map id unplaced) (takeSelect c) := by
  simp only [takeSelect, eatKeyword, eat_unplaced, Prod.map, id, takeSelectList_unplaced,
    expectKeyword, expect_unplaced]
  apply unplacedResult_bind
  intro c
  rw [takeTable_unplaced]
  apply unplacedResult_bind
  rintro ⟨table, c⟩
  simp only [Prod.map, id, takeWhere_unplaced]
  apply unplacedResult_bind
  rintro ⟨conditions, c⟩
  simp only [Prod.map, id, takeBound_unplaced]
  apply unplacedResult_bind
  rintro ⟨limit, c⟩
  simp only [Prod.map, id, takeBound_unplaced]
  exact unplacedResult_bind (by intro _; rfl) _

theorem takeValue_unplaced (bare : Nat) (c : Cursor) :
    takeValue bare c.unplaced =
      unplacedResult (Prod.map id (Prod.map id unplaced)) (takeValue bare c) := by
  simp only [takeValue, takeOperand_unplaced, kind_unplaced, advance_unplaced,
    unexpected_unplaced]
  apply unplacedResult_bind
  intro taken?
  cases taken? with
  | some taken => rfl
  | none =>
    simp only [Option.map_none]
    split <;> rfl

theorem takeValues_unplaced (bare : Nat) (c : Cursor) :
    takeValues bare c.unplaced =
      unplacedResult (Prod.map id (Prod.map id unplaced)) (takeValues bare c) := by
  fun_induction takeValues bare c with
  | case1 bare c e h =>
    rw [takeValues]
    split <;> rename_i h' <;> rw [takeValue_unplaced, h] at h' <;> cases h'
    rfl
  | case2 bare c value bare1 d h hk ih =>
    rw [takeValues]
    split <;> rename_i h' <;> rw [takeValue_unplaced, h] at h' <;> cases h'
    simp only [id, kind_unplaced, hk, ↓reduceDIte, advance_unplaced, ih]
    exact unplacedResult_bind (by intro _; rfl) _
  | case3 bare c value bare1 d h hk =>
    rw [takeValues]
    split <;> rename_i h' <;> rw [takeValue_unplaced, h] at h' <;> cases h'
    simp [hk, unplacedResult]

theorem takeTuple_unplaced (columns : List String) (bare : Nat) (c : Cursor) :
    takeTuple columns bare c.unplaced =
      unplacedResult (Prod.map id (Prod.map id unplaced)) (takeTuple columns bare c) := by
  simp only [takeTuple, expect_unplaced, current_unplaced]
  apply unplacedResult_bind
  intro d
  rw [takeValues_unplaced]
  apply unplacedResult_bind
  rintro ⟨values, bare, d⟩
  simp only [Prod.map, id, expect_unplaced]
  apply unplacedResult_bind
  intro d
  by_cases h : values.length = columns.length <;> simp only [h, ↓reduceIte] <;> rfl

theorem takeTuples_unplaced (columns : List String) (bare : Nat) (c : Cursor) :
    takeTuples columns bare c.unplaced =
      unplacedResult (Prod.map id unplaced) (takeTuples columns bare c) := by
  fun_induction takeTuples columns bare c with
  | case1 bare c e h =>
    rw [takeTuples]
    split <;> rename_i h' <;> rw [takeTuple_unplaced, h] at h' <;> cases h'
    rfl
  | case2 bare c binds bare1 d h hk ih =>
    rw [takeTuples]
    split <;> rename_i h' <;> rw [takeTuple_unplaced, h] at h' <;> cases h'
    simp only [id, kind_unplaced, hk, ↓reduceDIte, advance_unplaced, ih]
    exact unplacedResult_bind (by intro _; rfl) _
  | case3 bare c binds bare1 d h hk =>
    rw [takeTuples]
    split <;> rename_i h' <;> rw [takeTuple_unplaced, h] at h' <;> cases h'
    simp [hk, unplacedResult]

theorem takeConflict_unplaced (c : Cursor) :
    takeConflict c.unplaced = unplacedResult (Prod.map id unplaced) (takeConflict c) := by
  simp only [takeConflict, kind_unplaced, advance_unplaced, current_unplaced,
    Token.literal_unplaced, unexpected_unplaced]
  by_cases h : c.kind = .keyword .or
  · simp only [h, ↓reduceIte]
    split <;> rfl
  · simp only [h, ↓reduceIte]
    rfl

theorem takeReturning_unplaced (c : Cursor) :
    takeReturning c.unplaced = unplacedResult (Prod.map id unplaced) (takeReturning c) := by
  simp only [takeReturning, kind_unplaced, advance_unplaced,
    commaSeparated_unplaced item? _ fun _ => rfl]
  split <;> rfl

theorem takeInsert_unplaced (c : Cursor) :
    takeInsert c.unplaced = unplacedResult (Prod.map id unplaced) (takeInsert c) := by
  simp only [takeInsert, takeConflict_unplaced, expectKeyword]
  apply unplacedResult_bind
  rintro ⟨conflict, c⟩
  simp only [Prod.map, id, expect_unplaced]
  apply unplacedResult_bind
  intro c
  rw [takeTable_unplaced]
  apply unplacedResult_bind
  rintro ⟨table, c⟩
  simp only [Prod.map, id, expect_unplaced]
  apply unplacedResult_bind
  intro c
  rw [commaSeparated_unplaced column? _ fun _ => rfl]
  apply unplacedResult_bind
  rintro ⟨columns, c⟩
  simp only [Prod.map, id, expect_unplaced]
  apply unplacedResult_bind
  intro c
  rw [expect_unplaced]
  apply unplacedResult_bind
  intro c
  rw [takeTuples_unplaced]
  apply unplacedResult_bind
  rintro ⟨values, c⟩
  simp only [Prod.map, id, takeReturning_unplaced]
  exact unplacedResult_bind (by intro _; rfl) _

theorem takeStatement_unplaced (c : Cursor) :
    takeStatement c.unplaced = unplacedResult (Prod.map id unplaced) (takeStatement c) := by
  simp only [takeStatement, kind_unplaced, advance_unplaced, takeSelect_unplaced,
    takeInsert_unplaced, unexpected_unplaced]
  split
  · exact unplacedResult_bind (by intro _; rfl) _
  · exact unplacedResult_bind (by intro _; rfl) _
  · rfl

/-- The statement that a cursor stands on, up to its semicolon or the end of input. -/
def parseTokens (c : Cursor) : Except SyntaxError Statement := do
  let (statement, c) ← takeStatement c
  if c.kind = .semicolon ∨ c.kind = .endOfInput then return statement
  else throw (c.unexpected "';'")

theorem parseQuery_eq (source : String) : parseQuery source = parseTokens (ofSource source) := rfl

theorem parseTokens_unplaced (c : Cursor) :
    parseTokens c.unplaced = unplacedResult id (parseTokens c) := by
  simp only [parseTokens, takeStatement_unplaced]
  apply unplacedResult_bind
  rintro ⟨statement, c⟩
  simp only [Prod.map, kind_unplaced, unexpected_unplaced]
  split <;> rfl

end Query

/-- A statement is read from the kinds and texts of a source's tokens. -/
theorem parseQuery_eq_ok_iff {source : String} {s : Statement} :
    parseQuery source = .ok s ↔ Query.parseTokens (Cursor.ofSource source).unplaced = .ok s := by
  rw [Query.parseTokens_unplaced, unplacedResult_eq_ok, Query.parseQuery_eq]
  simp

end TypedQueries
