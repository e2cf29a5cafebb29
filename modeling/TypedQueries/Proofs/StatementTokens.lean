import TypedQueries.Proofs.Lexing

/-!
The tokens of a statement, and that its rendered form is cut into just these. What becomes of its
names is left open at first; a bare name becomes one token.
-/

namespace TypedQueries

def keywordToken (k : Keyword) : Token := ⟨.keyword k, k.text, Span.point 0⟩

def symbolToken (kind : TokenKind) (symbol : Char) : Token :=
  ⟨kind, String.singleton symbol, Span.point 0⟩

def commaToken : Token := symbolToken .comma ','

def semicolonToken : Token := symbolToken .semicolon ';'

def stringToken (text : String) : Token := ⟨.string, text, Span.point 0⟩

/-- The token of a column or a star. -/
def itemToken (name : String) : Token :=
  if name = "*" then symbolToken .star '*' else wordToken name

def Comparison.kind : Comparison → TokenKind
  | .eq => .eq
  | .notEq => .notEq
  | .lt => .lt
  | .gt => .gt
  | .ltEq => .ltEq
  | .gtEq => .gtEq

def Comparison.token (c : Comparison) : Token := ⟨c.kind, c.text, Span.point 0⟩

def Connective.keyword : Connective → Keyword
  | .and => .and
  | .or => .or

def BindValue.tokens : BindValue → List Token
  | .param position => [symbolToken .dollar '$', numberToken position]
  | .literal (.string text) => [stringToken text]
  | .literal (.integer n) => [numberToken n.toNat]
  | .literal (.boolean true) => [keywordToken .true]
  | .literal (.boolean false) => [keywordToken .false]
  | .literal .null => [keywordToken .null]

/-- The tokens that the columns and tables of a statement become where they are written. -/
structure Naming where
  column : String → List Token
  table : String → List Token

/-- One token for each name. -/
def Naming.bare : Naming := ⟨fun name => [itemToken name], fun name => [wordToken (Text.upper name)]⟩

@[simp]
theorem Naming.bare_column (name : String) : Naming.bare.column name = [itemToken name] := rfl

@[simp]
theorem Naming.bare_table (name : String) : Naming.bare.table name = [wordToken (Text.upper name)] :=
  rfl

def Condition.tokens (m : Naming) (c : Condition) : List Token :=
  m.column c.column ++ c.comparison.token :: c.bind.value.tokens

/-- The tokens of conditions, each with the connective in front of it. -/
def chainedTokens (m : Naming) (cs : List Condition) : List Token :=
  cs.flatMap fun c => (c.chain?.map fun k => keywordToken k.keyword).toList ++ c.tokens m

def whereTokens (m : Naming) : List Condition → List Token
  | [] => []
  | c :: cs => keywordToken .where :: (c.tokens m ++ chainedTokens m cs)

def boundTokens (k : Keyword) : Option Nat → List Token
  | some n => [keywordToken k, numberToken n]
  | none => []

/-- Names with commas between them. -/
def itemsTokens (m : Naming) (names : List String) : List Token :=
  [commaToken].intercalate (names.map m.column)

theorem itemsTokens_cons_cons (m : Naming) (name other : String) (names : List String) :
    itemsTokens m (name :: other :: names) =
      m.column name ++ commaToken :: itemsTokens m (other :: names) := by
  simp [itemsTokens]

def Select.tokens (m : Naming) (s : Select) : List Token :=
  (if s.distinct then [keywordToken .distinct] else []) ++ itemsTokens m s.columns ++
    keywordToken .from :: (m.table s.table ++
    (whereTokens m s.conditions ++ boundTokens .limit s.limit? ++ boundTokens .offset s.offset?))

def tupleTokens (binds : List Bind) : List Token :=
  symbolToken .leftParen '(' :: ([commaToken].intercalate (binds.map fun b => b.value.tokens) ++
    [symbolToken .rightParen ')'])

def conflictTokens : Option ConflictAction → List Token
  | some action => [keywordToken .or, wordToken action.text]
  | none => []

def returningTokens (m : Naming) (names : List String) : List Token :=
  if names.isEmpty then [] else keywordToken .returning :: itemsTokens m names

def Insert.tokens (m : Naming) (i : Insert) : List Token :=
  conflictTokens i.conflict? ++ keywordToken .into :: (m.table i.table ++
    symbolToken .leftParen '(' :: (itemsTokens m i.columns ++ symbolToken .rightParen ')' ::
    keywordToken .values ::
    ([commaToken].intercalate ((tuplesOf i.columns.length i.values).map tupleTokens) ++
    returningTokens m i.returning)))

/-- The tokens of a statement up to its semicolon. -/
def Statement.tokens (m : Naming) : Statement → List Token
  | select s => keywordToken .select :: s.tokens m
  | insert i => keywordToken .insert :: i.tokens m

namespace Text

/-- Whether a word, a number or a quoted text that stands in front of these characters ends there. -/
def endsPiece (cs : List Char) : Bool :=
  cs.head?.all fun c => c == ' ' || c == ',' || c == ')' || c == ';'

theorem endsWord_of_endsPiece {cs : List Char} (h : endsPiece cs = true) : endsWord cs = true := by
  cases cs with
  | nil => rfl
  | cons c cs =>
    simp only [endsPiece, List.head?_cons, Option.all_some, Bool.or_eq_true, beq_iff_eq] at h
    simp only [endsWord, List.head?_cons, Option.all_some]
    rcases h with ((rfl | rfl) | rfl) | rfl <;> decide

theorem head?_of_endsPiece {cs : List Char} (h : endsPiece cs = true) :
    cs.head? ≠ some '\'' := by
  cases cs with
  | nil => simp
  | cons c cs =>
    simp only [endsPiece, List.head?_cons, Option.all_some, Bool.or_eq_true, beq_iff_eq] at h
    rcases h with ((rfl | rfl) | rfl) | rfl <;> simp

theorem endsPiece_append {cs ds : List Char} (hc : endsPiece cs = true) (hd : endsPiece ds = true) :
    endsPiece (cs ++ ds) = true := by
  cases cs with
  | nil => exact hd
  | cons c cs => exact hc

end Text

/-- A text that becomes the given tokens wherever a piece may end behind it. -/
def LexesTo (text : List Char) (ts : List Token) : Prop :=
  ∀ rest, Text.endsPiece rest = true → tokensOf (text ++ rest) = ts ++ tokensOf rest

theorem lexesTo_word {word : List Char} (h : Text.isWord word = true) :
    LexesTo word [wordToken (Text.upper (String.ofList word))] := fun _ hr =>
  tokensOf_word h (Text.endsWord_of_endsPiece hr)

theorem lexesTo_number (n : Nat) : LexesTo (toString n).toList [numberToken n] := fun _ hr =>
  tokensOf_number n (Text.endsWord_of_endsPiece hr)

theorem lexesTo_quoteText (text : String) : LexesTo (quoteText text).toList [stringToken text] :=
  fun _ hr => tokensOf_quoteText text (Text.head?_of_endsPiece hr)

theorem lexesTo_keyword (k : Keyword) : LexesTo k.text.toList [keywordToken k] := by
  have hword : Text.isWord k.text.toList = true := by cases k <;> decide
  have hupper : Text.upper k.text = k.text := by cases k <;> decide
  have h := lexesTo_word hword
  rwa [String.ofList_toList, hupper, wordToken, Keyword.ofText?_text] at h

theorem LexesTo.append {text more : List Char} {ts us : List Token} (h : LexesTo text ts)
    (hm : LexesTo more us) (hends : Text.endsPiece more = true) :
    LexesTo (text ++ more) (ts ++ us) := by
  intro rest hr
  rw [List.append_assoc, h _ (Text.endsPiece_append hends hr), hm rest hr, List.append_assoc]

theorem LexesTo.blank {text : List Char} {ts : List Token} (h : LexesTo text ts) :
    LexesTo (' ' :: text) ts := by
  intro rest hr
  rw [List.cons_append, tokensOf_space, h rest hr]

/-- One piece, a blank, and another piece. -/
theorem LexesTo.space {text more : List Char} {ts us : List Token} (h : LexesTo text ts)
    (hm : LexesTo more us) : LexesTo (text ++ ' ' :: more) (ts ++ us) :=
  h.append hm.blank rfl

theorem lexesTo_nil : LexesTo [] [] := fun _ _ => rfl

theorem lexesTo_intercalate {α : Type} {f : α → String} {g : α → List Token} {xs : List α}
    (h : ∀ x ∈ xs, LexesTo (f x).toList (g x)) :
    LexesTo (", ".intercalate (xs.map f)).toList ([commaToken].intercalate (xs.map g)) := by
  intro rest hr
  induction xs with
  | nil => simp
  | cons x xs ih =>
    have hx := h x (by simp)
    have hxs := ih fun y hy => h y (by simp [hy])
    cases xs with
    | nil => simpa using hx rest hr
    | cons y ys =>
      have hcomma : (',', TokenKind.comma) ∈ symbols := by decide
      simp only [List.map_cons, String.intercalate_cons_cons, String.toList_append,
        List.intercalate_cons_cons, List.append_assoc] at hxs ⊢
      rw [hx _ (by rfl), show (", ".toList : List Char) = [',', ' '] from rfl, List.cons_append,
        tokensOf_symbol hcomma]
      simp only [List.cons_append, List.nil_append, tokensOf_space, hxs]
      rfl

theorem lexesTo_symbol {c : Char} {kind : TokenKind} (h : (c, kind) ∈ symbols) :
    LexesTo [c] [symbolToken kind c] := fun rest _ => tokensOf_symbol h rest

theorem tokensOf_semicolon : tokensOf [';'] = [semicolonToken] := by
  have h : (';', TokenKind.semicolon) ∈ symbols := by decide
  rw [tokensOf_symbol h, tokensOf_nil]
  rfl

theorem LexesTo.parens {text : List Char} {ts : List Token} (h : LexesTo text ts) :
    LexesTo ('(' :: (text ++ [')']))
      (symbolToken .leftParen '(' :: (ts ++ [symbolToken .rightParen ')'])) := by
  intro rest hr
  have hleft : ('(', TokenKind.leftParen) ∈ symbols := by decide
  have hright : (')', TokenKind.rightParen) ∈ symbols := by decide
  have hinside := h (')' :: rest) rfl
  rw [tokensOf_symbol hright] at hinside
  simp [tokensOf_symbol hleft, hinside, symbolToken]

theorem lexesTo_comparison (c : Comparison) : LexesTo c.text.toList [c.token] := by
  intro rest hr
  cases c with
  | eq => exact tokensOf_symbol (by decide) rest
  | notEq => exact tokensOf_of_solid (by decide) (by decide) (by decide) _
  | ltEq => exact tokensOf_of_solid (by decide) (by decide) (by decide) _
  | gtEq => exact tokensOf_of_solid (by decide) (by decide) (by decide) _
  | lt =>
    -- the character behind it must not make it a longer symbol
    cases rest with
    | nil => exact tokensOf_of_solid (by decide) (by decide) (by decide) _
    | cons d ds =>
      simp only [Text.endsPiece, List.head?_cons, Option.all_some, Bool.or_eq_true,
        beq_iff_eq] at hr
      rcases hr with ((rfl | rfl) | rfl) | rfl <;>
        exact tokensOf_of_solid (by decide) (by decide) (by decide) _
  | gt =>
    cases rest with
    | nil => exact tokensOf_of_solid (by decide) (by decide) (by decide) _
    | cons d ds =>
      simp only [Text.endsPiece, List.head?_cons, Option.all_some, Bool.or_eq_true,
        beq_iff_eq] at hr
      rcases hr with ((rfl | rfl) | rfl) | rfl <;>
        exact tokensOf_of_solid (by decide) (by decide) (by decide) _

theorem lexesTo_column {name : String} (h : isBareColumn name = true) :
    LexesTo (Text.lower name).toList [wordToken name] := by
  obtain ⟨hword, hupper, -⟩ := isBareColumn_iff.1 h
  have h := lexesTo_word hword
  rwa [String.ofList_toList, hupper] at h

theorem lower_star : Text.lower "*" = "*" := by decide

theorem lexesTo_item {name : String} (h : isBareItem name = true) :
    LexesTo (Text.lower name).toList [itemToken name] := by
  by_cases hstar : name = "*"
  · subst hstar
    rw [lower_star]
    exact lexesTo_symbol (by decide)
  · rw [itemToken, if_neg hstar]
    exact lexesTo_column (by simpa [isBareItem, hstar] using h)

theorem lexesTo_table {name : String} (h : isBareTable name = true) :
    LexesTo name.toList [wordToken (Text.upper name)] := by
  have h := lexesTo_word (isBareTable_iff.1 h).1
  rwa [String.ofList_toList] at h

theorem lexesTo_value {v : BindValue} (h : v.isUnsigned = true) : LexesTo v.render.toList v.tokens := by
  cases v with
  | param position =>
    intro rest hr
    have hdollar : ('$', TokenKind.dollar) ∈ symbols := by decide
    have hrender : (BindValue.param position).render.toList = '$' :: (toString position).toList :=
      String.toList_append
    rw [hrender, List.cons_append, tokensOf_symbol hdollar, lexesTo_number position rest hr]
    rfl
  | literal value =>
    cases value with
    | string text => exact lexesTo_quoteText text
    | integer n =>
      obtain ⟨m, rfl⟩ := Int.eq_ofNat_of_zero_le (of_decide_eq_true h)
      exact lexesTo_number m
    | boolean b =>
      cases b with
      | true => exact lexesTo_keyword .true
      | false => exact lexesTo_keyword .false
    | null => exact lexesTo_keyword .null

theorem toList_condition (c : Condition) :
    c.render.toList = (Text.lower c.column).toList ++
      ' ' :: (c.comparison.text.toList ++ ' ' :: c.bind.value.render.toList) := by
  have hrender : c.render = Text.lower c.column ++ " " ++ c.comparison.text ++ " " ++
      c.bind.value.render := rfl
  simp [hrender]

section Names

variable {m : Naming}

theorem lexesTo_columns {names : List String}
    (h : ∀ c ∈ names, LexesTo (Text.lower c).toList (m.column c)) :
    LexesTo (renderColumns names).toList (itemsTokens m names) :=
  lexesTo_intercalate h

theorem lexesTo_condition {c : Condition} (hc : LexesTo (Text.lower c.column).toList (m.column c.column))
    (hv : c.bind.value.isUnsigned = true) : LexesTo c.render.toList (c.tokens m) := by
  rw [toList_condition]
  exact hc.space ((lexesTo_comparison c.comparison).space (lexesTo_value hv))

theorem toList_renderChained (c : Condition) (cs : List Condition) :
    (renderChained (c :: cs)).toList =
      ' ' :: ((c.chain?.map fun k => k.text.toList ++ [' ']).getD [] ++
        (c.render.toList ++ (renderChained cs).toList)) := by
  rw [renderChained]
  cases c.chain? with
  | none => simp
  | some k =>
    have hjoint : s!" {k.text} " = " " ++ k.text ++ " " := rfl
    simp [hjoint]

theorem endsPiece_renderChained (cs : List Condition) :
    Text.endsPiece (renderChained cs).toList = true := by
  cases cs with
  | nil => rfl
  | cons c cs =>
    rw [toList_renderChained]
    rfl

theorem lexesTo_connective (k : Connective) : LexesTo k.text.toList [keywordToken k.keyword] := by
  cases k with
  | and => exact lexesTo_keyword .and
  | or => exact lexesTo_keyword .or

theorem lexesTo_chained {cs : List Condition}
    (hc : ∀ c ∈ cs, LexesTo (Text.lower c.column).toList (m.column c.column))
    (hv : ∀ c ∈ cs, c.bind.value.isUnsigned = true) :
    LexesTo (renderChained cs).toList (chainedTokens m cs) := by
  induction cs with
  | nil => exact lexesTo_nil
  | cons c cs ih =>
    have hcond := lexesTo_condition (hc c (by simp)) (hv c (by simp))
    have hrest := ih (fun d hd => hc d (by simp [hd])) (fun d hd => hv d (by simp [hd]))
    have hboth := hcond.append hrest (endsPiece_renderChained cs)
    rw [toList_renderChained, chainedTokens, List.flatMap_cons, ← chainedTokens]
    apply LexesTo.blank
    cases c.chain? with
    | none => simpa using hboth
    | some k => simpa using (lexesTo_connective k).space hboth

theorem toList_renderWhere (c : Condition) (cs : List Condition) :
    (renderWhere (c :: cs)).toList =
      ' ' :: (Keyword.where.text.toList ++ ' ' :: (c.render.toList ++ (renderChained cs).toList)) := by
  have hkeyword : " WHERE ".toList = ' ' :: (Keyword.where.text.toList ++ [' ']) := by decide
  simp [renderWhere, hkeyword]

theorem endsPiece_renderWhere (cs : List Condition) :
    Text.endsPiece (renderWhere cs).toList = true := by
  cases cs with
  | nil => rfl
  | cons c cs =>
    rw [toList_renderWhere]
    rfl

theorem lexesTo_where {cs : List Condition}
    (hc : ∀ c ∈ cs, LexesTo (Text.lower c.column).toList (m.column c.column))
    (hv : ∀ c ∈ cs, c.bind.value.isUnsigned = true) :
    LexesTo (renderWhere cs).toList (whereTokens m cs) := by
  cases cs with
  | nil => exact lexesTo_nil
  | cons c cs =>
    have hcond := lexesTo_condition (hc c (by simp)) (hv c (by simp))
    have hrest : LexesTo (renderChained cs).toList (chainedTokens m cs) :=
      lexesTo_chained (fun d hd => hc d (by simp [hd])) (fun d hd => hv d (by simp [hd]))
    rw [toList_renderWhere]
    exact ((lexesTo_keyword .where).space
      (hcond.append hrest (endsPiece_renderChained cs))).blank

theorem toList_renderBound (k : Keyword) (n : Nat) :
    (renderBound k.text (some n)).toList = ' ' :: (k.text.toList ++ ' ' :: (toString n).toList) := by
  have hrender : renderBound k.text (some n) = " " ++ k.text ++ " " ++ toString n := rfl
  rw [hrender]
  simp

theorem endsPiece_renderBound (k : Keyword) (bound? : Option Nat) :
    Text.endsPiece (renderBound k.text bound?).toList = true := by
  cases bound? with
  | none => rfl
  | some n =>
    rw [toList_renderBound]
    rfl

theorem lexesTo_bound (k : Keyword) (bound? : Option Nat) :
    LexesTo (renderBound k.text bound?).toList (boundTokens k bound?) := by
  cases bound? with
  | none => exact lexesTo_nil
  | some n =>
    rw [toList_renderBound]
    exact ((lexesTo_keyword k).space (lexesTo_number n)).blank

theorem toList_select {s : Select} (h : s.columns ≠ []) :
    s.render.toList = Keyword.select.text.toList ++
      ' ' :: (((if s.distinct then Keyword.distinct.text.toList ++ [' '] else []) ++
      (renderColumns s.columns).toList) ++ ' ' :: (Keyword.from.text.toList ++
      ' ' :: (s.table.toList ++ ((renderWhere s.conditions).toList ++
      ((renderBound Keyword.limit.text s.limit?).toList ++
      (renderBound Keyword.offset.text s.offset?).toList))))) ++ [';'] := by
  have hselect : "SELECT ".toList = Keyword.select.text.toList ++ [' '] := by decide
  have hdistinct : "DISTINCT ".toList = Keyword.distinct.text.toList ++ [' '] := by decide
  have hfrom : " FROM ".toList = ' ' :: (Keyword.from.text.toList ++ [' ']) := by decide
  have hend : ";".toList = [';'] := by decide
  have hcolumns : s.columns.isEmpty = false := by simpa using h
  unfold Select.render
  simp only [String.toList_append, hselect, hfrom, hend, hcolumns,
    Bool.false_eq_true, ↓reduceIte, apply_ite String.toList, hdistinct, String.toList_empty,
    List.append_assoc, List.cons_append, List.nil_append]
  rfl

/-- Wherever they are written, the names of a SELECT become the tokens that `m` gives. -/
structure Select.NamedBy (m : Naming) (s : Select) : Prop where
  columns : ∀ c ∈ s.columns, LexesTo (Text.lower c).toList (m.column c)
  table : LexesTo s.table.toList (m.table s.table)
  conditions : ∀ c ∈ s.conditions, LexesTo (Text.lower c.column).toList (m.column c.column)

theorem Select.tokensOf_render {s : Select} (hne : s.columns ≠ []) (hn : s.NamedBy m)
    (hv : ∀ c ∈ s.conditions, c.bind.value.isUnsigned = true) :
    tokensOf s.render.toList = keywordToken .select :: (s.tokens m ++ [semicolonToken]) := by
  have hitems : LexesTo ((if s.distinct then Keyword.distinct.text.toList ++ [' '] else []) ++
      (renderColumns s.columns).toList)
      ((if s.distinct then [keywordToken .distinct] else []) ++ itemsTokens m s.columns) := by
    have hcolumns := lexesTo_columns hn.columns
    cases s.distinct with
    | false => exact hcolumns
    | true => simpa using (lexesTo_keyword .distinct).space hcolumns
  have hbounds := (lexesTo_bound .limit s.limit?).append (lexesTo_bound .offset s.offset?)
    (endsPiece_renderBound _ _)
  have htail := (lexesTo_where hn.conditions hv).append hbounds
    (Text.endsPiece_append (endsPiece_renderBound _ _) (endsPiece_renderBound _ _))
  have htable := hn.table.append htail (Text.endsPiece_append
    (endsPiece_renderWhere _)
    (Text.endsPiece_append (endsPiece_renderBound _ _) (endsPiece_renderBound _ _)))
  have hall := (lexesTo_keyword .select).space
    (hitems.space ((lexesTo_keyword .from).space htable)) [';'] rfl
  rw [toList_select hne, hall, tokensOf_semicolon]
  simp only [Select.tokens, List.append_assoc, List.cons_append, List.nil_append]

theorem lexesTo_tuple {binds : List Bind} (h : ∀ b ∈ binds, b.value.isUnsigned = true) :
    LexesTo (renderTuple binds).toList (tupleTokens binds) := by
  have hvalues := lexesTo_intercalate (f := fun b : Bind => b.value.render)
    (g := fun b : Bind => b.value.tokens) fun b hb => lexesTo_value (h b hb)
  simpa [renderTuple, tupleTokens] using hvalues.parens

theorem mem_of_mem_tuplesOf {α : Type} {width : Nat} {values tuple : List α} {a : α}
    (ht : tuple ∈ tuplesOf width values) (ha : a ∈ tuple) : a ∈ values := by
  fun_induction tuplesOf width values with
  | case1 => simp at ht
  | case2 first values others ih =>
    rcases List.mem_cons.1 ht with rfl | ht
    · rcases List.mem_cons.1 ha with rfl | ha
      · exact List.mem_cons_self
      · exact List.mem_cons_of_mem _ (List.mem_of_mem_take ha)
    · exact List.mem_cons_of_mem _ (List.mem_of_mem_drop (ih ht))

theorem lexesTo_tuples (width : Nat) {values : List Bind}
    (h : ∀ b ∈ values, b.value.isUnsigned = true) :
    LexesTo (", ".intercalate ((tuplesOf width values).map renderTuple)).toList
      ([commaToken].intercalate ((tuplesOf width values).map tupleTokens)) :=
  lexesTo_intercalate fun _ ht => lexesTo_tuple fun b hb => h b (mem_of_mem_tuplesOf ht hb)

theorem lexesTo_action (action : ConflictAction) :
    LexesTo action.text.toList [wordToken action.text] := by
  have hword : Text.isWord action.text.toList = true := by cases action <;> decide
  have hupper : Text.upper action.text = action.text := by cases action <;> decide
  have h := lexesTo_word hword
  rwa [String.ofList_toList, hupper] at h

/-- The text of a conflict clause, with the blank behind it. -/
def conflictText : Option ConflictAction → List Char
  | some action => Keyword.or.text.toList ++ ' ' :: (action.text.toList ++ [' '])
  | none => []

theorem lexesTo_conflict (conflict? : Option ConflictAction) {text : List Char} {ts : List Token}
    (h : LexesTo text ts) :
    LexesTo (conflictText conflict? ++ text) (conflictTokens conflict? ++ ts) := by
  cases conflict? with
  | none => exact h
  | some action =>
    simpa [conflictText, conflictTokens] using
      (lexesTo_keyword .or).space ((lexesTo_action action).space h)

/-- The text of a RETURNING clause, with the blank in front of it. -/
def returningText (names : List String) : List Char :=
  if names.isEmpty then []
  else ' ' :: (Keyword.returning.text.toList ++ ' ' :: (renderColumns names).toList)

theorem endsPiece_returningText (names : List String) :
    Text.endsPiece (returningText names) = true := by
  unfold returningText
  split <;> rfl

theorem lexesTo_returning {names : List String}
    (h : ∀ c ∈ names, LexesTo (Text.lower c).toList (m.column c)) :
    LexesTo (returningText names) (returningTokens m names) := by
  unfold returningText returningTokens
  split
  · exact lexesTo_nil
  · exact ((lexesTo_keyword .returning).space (lexesTo_columns h)).blank

theorem toList_insert (i : Insert) :
    i.render.toList = Keyword.insert.text.toList ++ ' ' :: (conflictText i.conflict? ++
      (Keyword.into.text.toList ++ ' ' :: (i.table.toList ++
      ' ' :: ('(' :: ((renderColumns i.columns).toList ++ [')']) ++
      ' ' :: (Keyword.values.text.toList ++
      ' ' :: ((", ".intercalate ((tuplesOf i.columns.length i.values).map renderTuple)).toList ++
      returningText i.returning)))))) ++ [';'] := by
  have hinsert : "INSERT ".toList = Keyword.insert.text.toList ++ [' '] := by decide
  have hinto : "INTO ".toList = Keyword.into.text.toList ++ [' '] := by decide
  have hleft : " (".toList = [' ', '('] := by decide
  have hvalues : ") VALUES ".toList = ')' :: ' ' :: (Keyword.values.text.toList ++ [' ']) := by
    decide
  have hend : ";".toList = [';'] := by decide
  have hreturning : " RETURNING ".toList = ' ' :: (Keyword.returning.text.toList ++ [' ']) := by
    decide
  obtain ⟨conflict?, table, columns, values, returning⟩ := i
  cases conflict? with
  | none =>
    unfold Insert.render
    simp only [String.toList_append, hinsert, hinto, hleft, hvalues, hend,
      apply_ite String.toList, hreturning, returningText, conflictText, String.toList_empty,
      List.append_assoc, List.cons_append, List.nil_append]
  | some action =>
    have hor : "OR ".toList = Keyword.or.text.toList ++ [' '] := by decide
    have hblank : " ".toList = [' '] := by decide
    have hjoint : s!"OR {action.text} " = "OR " ++ action.text ++ " " := rfl
    unfold Insert.render
    simp only [hjoint, String.toList_append, hinsert, hor, hinto, hleft, hvalues,
      hend, apply_ite String.toList, hreturning, returningText, conflictText, String.toList_empty,
      hblank, List.append_assoc, List.cons_append, List.nil_append]

structure Insert.NamedBy (m : Naming) (i : Insert) : Prop where
  table : LexesTo i.table.toList (m.table i.table)
  columns : ∀ c ∈ i.columns, LexesTo (Text.lower c).toList (m.column c)
  returning : ∀ c ∈ i.returning, LexesTo (Text.lower c).toList (m.column c)

theorem Insert.tokensOf_render {i : Insert} (hn : i.NamedBy m)
    (hv : ∀ b ∈ i.values, b.value.isUnsigned = true) :
    tokensOf i.render.toList = keywordToken .insert :: (i.tokens m ++ [semicolonToken]) := by
  have htail := (lexesTo_tuples i.columns.length hv).append
    (lexesTo_returning hn.returning) (endsPiece_returningText _)
  have hvalues := (lexesTo_keyword .values).space htail
  have htable := hn.table.space ((lexesTo_columns hn.columns).parens.space hvalues)
  have hall := (lexesTo_keyword .insert).space
    (lexesTo_conflict i.conflict? ((lexesTo_keyword .into).space htable)) [';'] rfl
  rw [toList_insert, hall, tokensOf_semicolon]
  simp only [Insert.tokens, List.append_assoc, List.cons_append, List.nil_append]

end Names

theorem Select.Bare.namedBy {s : Select} (h : s.Bare) : s.NamedBy .bare :=
  ⟨fun c hc => lexesTo_item (h.columns c hc), lexesTo_table h.table, fun c hc =>
    lexesTo_item (by simp [isBareItem, h.conditions c hc])⟩

theorem Insert.Bare.namedBy {i : Insert} (h : i.Bare) : i.NamedBy .bare :=
  ⟨lexesTo_table h.table, fun c hc => lexesTo_item (by simp [isBareItem, h.columns c hc]),
    fun c hc => lexesTo_item (h.returning c hc)⟩

/-- A statement with bare names is rendered as its tokens and a semicolon. -/
theorem Statement.tokensOf_render {s : Statement} (hs : s.Regular) (hb : s.Bare) :
    tokensOf s.render.toList = s.tokens .bare ++ [semicolonToken] := by
  cases s with
  | select s =>
    exact Select.tokensOf_render (Select.Bare.columns_ne hb) (Select.Bare.namedBy hb)
      fun c hc => (Select.Regular.conditions hs c hc).inRange.isUnsigned
  | insert i =>
    exact Insert.tokensOf_render (Insert.Bare.namedBy hb)
      fun b hb => (Insert.Regular.inRange hs b hb).isUnsigned

end TypedQueries
