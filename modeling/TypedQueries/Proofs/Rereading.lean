import TypedQueries.Proofs.StatementTokens
import TypedQueries.Proofs.WhereLoop

/-!
A statement with bare names is read back from its own tokens, and so from its rendered text. The
lemmas follow the grammar: each step takes the tokens of its part and leaves the rest alone.
-/

namespace TypedQueries

section Tokens

variable {name : String}

theorem kind_wordToken_of_isReserved (h : isReserved name = false) {k : Keyword}
    (hk : k.isQueryReserved = true) : (wordToken name).kind ≠ .keyword k := by
  unfold wordToken
  cases hn : Keyword.ofText? name with
  | none => simp
  | some j =>
    intro hj
    cases hj
    simp [isReserved, hn, hk] at h

theorem isColumnWord_wordToken (name : String) :
    (wordToken name).isColumnWord = !isReserved name := by
  unfold wordToken isReserved
  cases Keyword.ofText? name <;> rfl

@[simp]
theorem literal_wordToken (name : String) : (wordToken name).literal = name := by
  unfold wordToken
  cases Keyword.ofText? name <;> rfl

theorem column?_wordToken (h : isReserved name = false) :
    Query.column? (wordToken name) = some name := by
  simp [Query.column?, isColumnWord_wordToken, h]

theorem table?_wordToken (h : isReserved name = false) :
    Query.table? (wordToken name) = some (Text.lower name) := by
  simp [Query.table?, isColumnWord_wordToken, h]

theorem itemToken_of_isBareColumn (h : isBareColumn name = true) :
    itemToken name = wordToken name := by
  have hstar : name ≠ "*" := by
    rintro rfl
    exact absurd h (by decide)
  rw [itemToken, if_neg hstar]

theorem column?_itemToken (h : isBareColumn name = true) :
    Query.column? (itemToken name) = some name := by
  rw [itemToken_of_isBareColumn h]
  exact column?_wordToken (isBareColumn_iff.1 h).2.2

theorem item?_itemToken (h : isBareItem name = true) : Query.item? (itemToken name) = some name := by
  by_cases hstar : name = "*"
  · subst hstar
    rfl
  · have hbare : isBareColumn name = true := by simpa [isBareItem, hstar] using h
    rw [itemToken, if_neg hstar]
    simp [Query.item?, isColumnWord_wordToken, (isBareColumn_iff.1 hbare).2.2]

theorem kind_itemToken (h : isBareItem name = true) {k : Keyword}
    (hk : k.isQueryReserved = true) : (itemToken name).kind ≠ .keyword k := by
  by_cases hstar : name = "*"
  · subst hstar
    exact nofun
  · have hbare : isBareColumn name = true := by simpa [isBareItem, hstar] using h
    rw [itemToken, if_neg hstar]
    exact kind_wordToken_of_isReserved (isBareColumn_iff.1 hbare).2.2 hk

theorem connective?_wordToken (h : isReserved name = false) :
    Query.connective? (wordToken name) = none := by
  have hand := kind_wordToken_of_isReserved h (k := .and) (by decide)
  have hor := kind_wordToken_of_isReserved h (k := .or) (by decide)
  unfold Query.connective?
  split <;> first | contradiction | rfl

theorem endsWhere_wordToken (h : isReserved name = false) :
    Query.endsWhere (wordToken name).kind = false := by
  unfold wordToken
  cases hn : Keyword.ofText? name with
  | none => rfl
  | some k => cases k <;> first | rfl | simp [isReserved, hn, Keyword.isQueryReserved,
      Keyword.queryReserved] at h

theorem comparison?_token (c : Comparison) : Query.comparison? c.token = some c := by
  cases c <;> rfl

theorem connective?_keywordToken (k : Connective) :
    Query.connective? (keywordToken k.keyword) = some k := by
  cases k <;> rfl

end Tokens

namespace Cursor

theorem commaSeparated_intercalate {α : Type} {item : Token → Option α} {token : α → Token}
    (expected : String) {xs : List α} (hne : xs ≠ []) (hitem : ∀ x ∈ xs, item (token x) = some x)
    {rest : List Token} {n : Nat} (hr : (Cursor.mk rest n).kind ≠ .comma) :
    (Cursor.mk ([commaToken].intercalate (xs.map fun x => [token x]) ++ rest) n).commaSeparated
      item expected = .ok (xs, ⟨rest, n⟩) := by
  induction xs with
  | nil => exact absurd rfl hne
  | cons x xs ih =>
    have hx := hitem x (by simp)
    cases xs with
    | nil =>
      rw [commaSeparated]
      simp [hx, hr]
    | cons y ys =>
      have hcomma : commaToken.kind = .comma := rfl
      have hys := ih (by simp) fun z hz => hitem z (by simp [hz])
      simp only [List.map_cons, List.intercalate_cons_cons, List.append_assoc] at hys ⊢
      rw [commaSeparated]
      simp only [List.cons_append, List.nil_append, current_cons, hx, advance_cons, kind_cons,
        hcomma, ↓reduceDIte]
      rw [hys]
      rfl

end Cursor

namespace Query

open Cursor

theorem takeOperand_tokens {v : BindValue} (hv : v.isOperand = true) (hr : v.InRange) (bare : Nat)
    (rest : List Token) (n : Nat) :
    takeOperand bare ⟨v.tokens ++ rest, n⟩ = .ok (some (v, bare, ⟨rest, n⟩)) := by
  cases v with
  | param position =>
    obtain ⟨hpos, hlt⟩ := hr
    have hne : position ≠ 0 := by omega
    have htake : takePosition bare ⟨(BindValue.param position).tokens ++ rest, n⟩ =
        .ok (position, bare, ⟨rest, n⟩) := by
      simp [takePosition, BindValue.tokens, hne, show position < 0x10000000000000000 from hlt]
    have hkind : (Cursor.mk ((BindValue.param position).tokens ++ rest) n).kind = .dollar := rfl
    rw [takeOperand, hkind]
    simp only [htake]
    rfl
  | literal value =>
    cases value with
    | string text => rfl
    | integer m =>
      obtain ⟨hpos, hlt⟩ := hr
      obtain ⟨m, rfl⟩ := Int.eq_ofNat_of_zero_le hpos
      have hm : m < 0x8000000000000000 := by omega
      have htake : takeInteger ⟨(BindValue.literal (.integer m)).tokens ++ rest, n⟩ =
          .ok ((m : Int), ⟨rest, n⟩) := by
        simp [takeInteger, BindValue.tokens, hm]
      have hkind : (Cursor.mk ((BindValue.literal (.integer m)).tokens ++ rest) n).kind =
          .integer := rfl
      rw [takeOperand, hkind]
      simp only [htake]
      rfl
    | boolean b => cases hv
    | null => cases hv

theorem takeValue_tokens {v : BindValue} (hr : v.InRange) (bare : Nat) (rest : List Token)
    (n : Nat) : takeValue bare ⟨v.tokens ++ rest, n⟩ = .ok (v, bare, ⟨rest, n⟩) := by
  by_cases hv : v.isOperand = true
  · rw [takeValue, takeOperand_tokens hv hr]
    rfl
  · cases v with
    | param _ => exact absurd rfl hv
    | literal value =>
      cases value with
      | string _ => exact absurd rfl hv
      | integer _ => exact absurd rfl hv
      | boolean b => cases b <;> rfl
      | null => rfl

/-- The tokens of a condition with the connective in front of it. -/
theorem takeCondition_tokens {c : Condition} (hc : c.Regular)
    (hcol : isBareColumn c.column = true) (bare : Nat) (rest : List Token) (n : Nat) :
    takeCondition bare
      ⟨(c.chain?.map fun k => keywordToken k.keyword).toList ++ c.tokens .bare ++ rest, n⟩ =
      .ok (some c, bare, ⟨rest, n⟩) := by
  obtain ⟨chain?, column, comparison, bind⟩ := c
  obtain ⟨hbind, hoperand, hrange⟩ := hc
  simp only at hbind hoperand hrange hcol
  subst hbind
  simp only [Condition.tokens, Naming.bare_column, itemToken_of_isBareColumn hcol]
  replace hcol := (isBareColumn_iff.1 hcol).2.2
  have hword : takeCondition bare ⟨wordToken bind.column :: comparison.token ::
      (bind.value.tokens ++ rest), n⟩ =
      .ok (some ⟨none, bind.column, comparison, bind⟩, bare, ⟨rest, n⟩) := by
    unfold takeCondition
    simp only [takeSome_cons_of_none (connective?_wordToken hcol),
      takeSome_cons_of_some (column?_wordToken hcol),
      takeSome_cons_of_some (comparison?_token comparison), takeOperand_tokens hoperand hrange]
    rfl
  cases chain? with
  | none => exact hword
  | some k =>
    unfold takeCondition
    simp only [Option.map_some, Option.toList_some, List.cons_append,
      List.nil_append, takeSome_cons_of_some (connective?_keywordToken k),
      takeSome_cons_of_some (column?_wordToken hcol),
      takeSome_cons_of_some (comparison?_token comparison), takeOperand_tokens hoperand hrange]
    rfl

theorem takeConditions_chainedTokens {cs : List Condition} (hc : ∀ c ∈ cs, c.Regular)
    (hcol : ∀ c ∈ cs, isBareColumn c.column = true) (bare : Nat) {rest : List Token} {n : Nat}
    (hr : endsWhere (Cursor.mk rest n).kind = true) :
    takeConditions bare ⟨chainedTokens .bare cs ++ rest, n⟩ = .ok (cs, ⟨rest, n⟩) := by
  induction cs with
  | nil => exact takeConditions_of_endsWhere hr bare
  | cons c cs ih =>
    have htake := takeCondition_tokens (hc c (by simp)) (hcol c (by simp)) bare
      (chainedTokens .bare cs ++ rest) n
    have hgo : endsWhere (Cursor.mk ((c.chain?.map fun k => keywordToken k.keyword).toList ++
        c.tokens .bare ++ (chainedTokens .bare cs ++ rest)) n).kind = false := by
      have hcolumn := hcol c (by simp)
      cases c.chain? with
      | none =>
        simp only [Condition.tokens, Naming.bare_column, itemToken_of_isBareColumn hcolumn]
        exact endsWhere_wordToken (isBareColumn_iff.1 hcolumn).2.2
      | some k => cases k <;> rfl
    rw [chainedTokens, List.flatMap_cons, List.append_assoc, ← chainedTokens,
      takeConditions_of_ok hgo htake,
      ih (fun d hd => hc d (by simp [hd])) (fun d hd => hcol d (by simp [hd]))]
    rfl

theorem takeWhere_whereTokens {cs : List Condition} (hc : ∀ c ∈ cs, c.Regular)
    (hcol : ∀ c ∈ cs, isBareColumn c.column = true) (hchain : ∀ c ∈ cs.head?, c.chain? = none)
    {rest : List Token} {n : Nat} (hr : endsWhere (Cursor.mk rest n).kind = true) :
    takeWhere ⟨whereTokens .bare cs ++ rest, n⟩ = .ok (cs, ⟨rest, n⟩) := by
  cases cs with
  | nil =>
    have hwhere : (Cursor.mk rest n).kind ≠ .keyword .where := by
      intro hk
      rw [hk] at hr
      cases hr
    simp [takeWhere, whereTokens, hwhere]
  | cons c cs =>
    have hnone : c.chain? = none := hchain c (by simp)
    have hchained : whereTokens .bare (c :: cs) = keywordToken .where :: chainedTokens .bare (c :: cs) := by
      simp [whereTokens, chainedTokens, hnone]
    rw [hchained]
    exact takeConditions_chainedTokens hc hcol 0 hr

theorem takeBound_boundTokens {k : Keyword} {bound? : Option Nat} (hb : ∀ n ∈ bound?, n < 2 ^ 64)
    {rest : List Token} {n : Nat} (hr : (Cursor.mk rest n).kind ≠ .keyword k) :
    takeBound k ⟨boundTokens k bound? ++ rest, n⟩ = .ok (bound?, ⟨rest, n⟩) := by
  cases bound? with
  | none => simp [takeBound, boundTokens, hr]
  | some m =>
    have hm : m < 0x10000000000000000 := hb m rfl
    simp [takeBound, boundTokens, expectUnsigned, keywordToken, hm, bind, Except.bind, pure,
      Except.pure]

theorem filterMap_itemsTokens {names : List String} (h : ∀ c ∈ names, isBareItem c = true) :
    (itemsTokens .bare names).filterMap item? = names := by
  induction names with
  | nil => rfl
  | cons name names ih =>
    have hname := item?_itemToken (h name (by simp))
    have hnames := ih fun c hc => h c (by simp [hc])
    cases names with
    | nil => simp [itemsTokens, hname]
    | cons other names =>
      have hcomma : item? commaToken = none := rfl
      rw [itemsTokens_cons_cons, Naming.bare_column, List.singleton_append,
        List.filterMap_cons_some hname, List.filterMap_cons_none hcomma,
        hnames]

theorem kind_of_mem_itemsTokens {names : List String} (h : ∀ c ∈ names, isBareItem c = true)
    {k : Keyword} (hk : k.isQueryReserved = true) {t : Token} (ht : t ∈ itemsTokens .bare names) :
    t.kind ≠ .keyword k := by
  induction names with
  | nil => cases ht
  | cons name names ih =>
    have hname := kind_itemToken (h name (by simp)) hk
    cases names with
    | nil =>
      rcases List.mem_singleton.1 ht with rfl
      exact hname
    | cons other names =>
      rw [itemsTokens_cons_cons, Naming.bare_column, List.singleton_append, List.mem_cons,
        List.mem_cons] at ht
      rcases ht with rfl | rfl | ht
      · exact hname
      · exact nofun
      · exact ih (fun c hc => h c (by simp [hc])) ht

theorem takeSelectList_itemsTokens {names : List String} (h : ∀ c ∈ names, isBareItem c = true)
    (rest : List Token) (n : Nat) :
    takeSelectList ⟨itemsTokens .bare names ++ keywordToken .from :: rest, n⟩ =
      (names, ⟨keywordToken .from :: rest, n⟩) := by
  have hin : ∀ t ∈ itemsTokens .bare names, (t.kind != .keyword .from) = true := fun t ht => by
    simpa using kind_of_mem_itemsTokens h (k := .from) (by decide) ht
  have hfrom : ((keywordToken .from).kind != .keyword .from) = false := rfl
  simp only [takeSelectList, List.takeWhile_append_of_pos hin, List.dropWhile_append_of_pos hin,
    List.takeWhile_cons, List.dropWhile_cons, hfrom, Bool.false_eq_true, ↓reduceIte,
    List.append_nil, filterMap_itemsTokens h]

theorem eat_distinct {s : Select} (hb : s.Bare) (rest : List Token) (n : Nat) :
    (Cursor.mk ((if s.distinct then [keywordToken .distinct] else []) ++
      itemsTokens .bare s.columns ++ rest) n).eatKeyword .distinct =
      (s.distinct, ⟨itemsTokens .bare s.columns ++ rest, n⟩) := by
  cases hd : s.distinct with
  | true => rfl
  | false =>
    obtain ⟨name, names, hnames⟩ := List.exists_cons_of_ne_nil hb.columns_ne
    have hmem : itemToken name ∈ itemsTokens .bare s.columns := by
      cases names <;> simp [hnames, itemsTokens]
    have hkind : (Cursor.mk (itemsTokens .bare s.columns ++ rest) n).kind = (itemToken name).kind := by
      cases names <;> simp [hnames, itemsTokens]
    have hne := kind_of_mem_itemsTokens hb.columns (k := .distinct) (by decide) hmem
    simp [eatKeyword, eat, hkind, hne]

theorem takeSelect_tokens {s : Select} (hs : s.Regular) (hb : s.Bare) (n : Nat) :
    takeSelect ⟨s.tokens .bare ++ [semicolonToken], n⟩ = .ok (s, ⟨[semicolonToken], n⟩) := by
  obtain ⟨-, hlower, hreserved⟩ := isBareTable_iff.1 hb.table
  have hend : endsWhere (Cursor.mk (boundTokens .limit s.limit? ++
      (boundTokens .offset s.offset? ++ [semicolonToken])) n).kind = true := by
    cases s.limit? with
    | some m => rfl
    | none => cases s.offset? <;> rfl
  have hlimit : (Cursor.mk (boundTokens .offset s.offset? ++ [semicolonToken]) n).kind ≠
      .keyword .limit := by
    cases s.offset? <;> exact nofun
  have hoffset : (Cursor.mk [semicolonToken] n).kind ≠ .keyword .offset := nofun
  have htable : takeTable ⟨wordToken (Text.upper s.table) :: (whereTokens .bare s.conditions ++
      (boundTokens .limit s.limit? ++ (boundTokens .offset s.offset? ++ [semicolonToken]))), n⟩ =
      .ok (s.table, ⟨whereTokens .bare s.conditions ++
      (boundTokens .limit s.limit? ++ (boundTokens .offset s.offset? ++ [semicolonToken])), n⟩) := by
    simp [takeTable, table?_wordToken hreserved, hlower]
  unfold takeSelect
  simp only [Select.tokens, Naming.bare_table, List.append_assoc, List.cons_append, List.nil_append]
  rw [← List.append_assoc, eat_distinct hb]
  simp only [takeSelectList_itemsTokens hb.columns, expectKeyword,
    expect_cons (show (keywordToken .from).kind = .keyword .from from rfl)]
  simp only [bind, Except.bind, htable,
    takeWhere_whereTokens hs.conditions hb.conditions hb.chain hend, takeBound_boundTokens hs.limit hlimit,
    takeBound_boundTokens hs.offset hoffset]
  rfl

theorem takeValues_tokens {values : List BindValue} (hne : values ≠ [])
    (hr : ∀ v ∈ values, v.InRange) (bare : Nat) {rest : List Token} {n : Nat}
    (hk : (Cursor.mk rest n).kind ≠ .comma) :
    takeValues bare ⟨[commaToken].intercalate (values.map BindValue.tokens) ++ rest, n⟩ =
      .ok (values, bare, ⟨rest, n⟩) := by
  induction values with
  | nil => exact absurd rfl hne
  | cons v values ih =>
    have hv := hr v (by simp)
    rw [takeValues]
    cases values with
    | nil =>
      have htake : takeValue bare ⟨[commaToken].intercalate ([v].map BindValue.tokens) ++ rest, n⟩ =
          .ok (v, bare, ⟨rest, n⟩) := by
        simpa using takeValue_tokens hv bare rest n
      split <;> rename_i h' <;> rw [htake] at h' <;> cases h'
      simp [hk]
    | cons w values =>
      have hmore := ih (by simp) fun u hu => hr u (by simp [hu])
      have htake : takeValue bare ⟨[commaToken].intercalate
          ((v :: w :: values).map BindValue.tokens) ++ rest, n⟩ = .ok (v, bare, ⟨commaToken ::
          ([commaToken].intercalate ((w :: values).map BindValue.tokens) ++ rest), n⟩) := by
        simpa using takeValue_tokens hv bare _ n
      split <;> rename_i h' <;> rw [htake] at h' <;> cases h'
      have hcomma : commaToken.kind = .comma := rfl
      simp only [kind_cons, hcomma, ↓reduceDIte, advance_cons, hmore]
      rfl

theorem takeTuple_tokens {columns : List String} {binds : List Bind} (hne : columns ≠ [])
    (hcol : binds.map Bind.column = columns) (hr : ∀ b ∈ binds, b.value.InRange) (bare : Nat)
    (rest : List Token) (n : Nat) :
    takeTuple columns bare ⟨tupleTokens binds ++ rest, n⟩ = .ok (binds, bare, ⟨rest, n⟩) := by
  have hvalues : binds.map Bind.value ≠ [] := by
    rintro h
    apply hne
    rw [← hcol, List.map_eq_nil_iff.1 h]
    rfl
  have hrange : ∀ v ∈ binds.map Bind.value, v.InRange := by
    intro v hv
    obtain ⟨b, hb, rfl⟩ := List.mem_map.1 hv
    exact hr b hb
  have hright : (Cursor.mk (symbolToken .rightParen ')' :: rest) n).kind ≠ .comma := nofun
  have htake := takeValues_tokens hvalues hrange bare hright
  rw [List.map_map] at htake
  have hzip : List.zipWith Bind.mk columns (binds.map Bind.value) = binds := by
    rw [← hcol, List.zipWith_map]
    simp
  have hlength : (binds.map Bind.value).length = columns.length := by
    simp [← hcol]
  unfold takeTuple
  simp only [tupleTokens, List.cons_append, List.append_assoc, List.nil_append,
    expect_cons (show (symbolToken .leftParen '(').kind = .leftParen from rfl), bind, Except.bind]
  rw [show (fun b : Bind => b.value.tokens) = BindValue.tokens ∘ Bind.value from rfl, htake]
  simp only [expect_cons (show (symbolToken .rightParen ')').kind = .rightParen from rfl), hlength,
    ↓reduceIte, hzip]
  rfl

theorem takeTuples_tokens {columns : List String} {tuples : List (List Bind)} (hc : columns ≠ [])
    (hne : tuples ≠ []) (hcol : ∀ t ∈ tuples, t.map Bind.column = columns)
    (hr : ∀ t ∈ tuples, ∀ b ∈ t, b.value.InRange) (bare : Nat) {rest : List Token} {n : Nat}
    (hk : (Cursor.mk rest n).kind ≠ .comma) :
    takeTuples columns bare ⟨[commaToken].intercalate (tuples.map tupleTokens) ++ rest, n⟩ =
      .ok (tuples.flatten, ⟨rest, n⟩) := by
  induction tuples with
  | nil => exact absurd rfl hne
  | cons t tuples ih =>
    have ht := hcol t (by simp)
    have htr := hr t (by simp)
    rw [takeTuples]
    cases tuples with
    | nil =>
      have htake : takeTuple columns bare ⟨[commaToken].intercalate ([t].map tupleTokens) ++ rest,
          n⟩ = .ok (t, bare, ⟨rest, n⟩) := by
        simpa using takeTuple_tokens hc ht htr bare rest n
      split <;> rename_i h' <;> rw [htake] at h' <;> cases h'
      simp [hk]
    | cons u tuples =>
      have hmore := ih (by simp) (fun w hw => hcol w (by simp [hw])) fun w hw => hr w (by simp [hw])
      have htake : takeTuple columns bare ⟨[commaToken].intercalate
          ((t :: u :: tuples).map tupleTokens) ++ rest, n⟩ = .ok (t, bare, ⟨commaToken ::
          ([commaToken].intercalate ((u :: tuples).map tupleTokens) ++ rest), n⟩) := by
        simpa using takeTuple_tokens hc ht htr bare _ n
      split <;> rename_i h' <;> rw [htake] at h' <;> cases h'
      have hcomma : commaToken.kind = .comma := rfl
      simp only [kind_cons, hcomma, ↓reduceDIte, advance_cons, hmore]
      rfl

theorem takeConflict_tokens (conflict? : Option ConflictAction) (rest : List Token) (n : Nat) :
    takeConflict ⟨conflictTokens conflict? ++ keywordToken .into :: rest, n⟩ =
      .ok (conflict?, ⟨keywordToken .into :: rest, n⟩) := by
  cases conflict? with
  | none => rfl
  | some action => cases action <;> rfl

theorem takeReturning_tokens {names : List String} (h : ∀ c ∈ names, isBareItem c = true)
    (n : Nat) : takeReturning ⟨returningTokens .bare names ++ [semicolonToken], n⟩ =
      .ok (names, ⟨[semicolonToken], n⟩) := by
  cases names with
  | nil => rfl
  | cons name names =>
    have hend : (Cursor.mk [semicolonToken] n).kind ≠ .comma := nofun
    exact commaSeparated_intercalate "column name" (by simp)
      (fun c hc => item?_itemToken (h c hc)) hend

end Query

theorem flatten_tuplesOf {α : Type} (width : Nat) (values : List α) :
    (tuplesOf width values).flatten = values := by
  fun_induction tuplesOf width values with
  | case1 => rfl
  | case2 first values others ih =>
    rw [List.flatten_cons, ih, List.cons_append, List.take_append_drop]

theorem tuplesOf_ne_nil {α : Type} (width : Nat) {values : List α} (h : values ≠ []) :
    tuplesOf width values ≠ [] := by
  cases values with
  | nil => exact absurd rfl h
  | cons first values =>
    rw [tuplesOf]
    simp

/-- Values that are bound to the columns in turn are cut into tuples that go through all columns. -/
theorem map_column_of_mem_tuplesOf {columns : List String} {values : List Bind}
    (hfull : columns.length ∣ values.length)
    (hcol : ∀ j < values.length, values[j]?.map Bind.column = columns[j % columns.length]?)
    {tuple : List Bind} (ht : tuple ∈ tuplesOf columns.length values) :
    tuple.map Bind.column = columns := by
  generalize hw : columns.length = width at ht hfull hcol
  fun_induction tuplesOf width values with
  | case1 => simp at ht
  | case2 first values others ih =>
    have hle : width ≤ values.length + 1 := Nat.le_of_dvd (by simp) hfull
    have hpos : 0 < width := Nat.pos_of_dvd_of_pos hfull (by simp)
    have hwidth : others + 1 = width := Nat.succ_pred_eq_of_pos hpos
    rcases List.mem_cons.1 ht with rfl | ht
    · -- the first tuple is the first `width` values, of which value `j` is bound to column `j`
      rw [← List.take_succ_cons, hwidth]
      apply List.ext_getElem?
      intro j
      rw [List.getElem?_map]
      by_cases hj : j < width
      · have hlt : j < (first :: values).length := by
          rw [List.length_cons]
          omega
        rw [List.getElem?_take_of_lt hj, hcol j hlt, Nat.mod_eq_of_lt hj]
      · rw [List.getElem?_eq_none (by simp; omega), List.getElem?_eq_none (by omega)]
        rfl
    · apply ih ht
      · rw [List.length_drop, show values.length - others = values.length + 1 - width by omega]
        exact Nat.dvd_sub hfull (Nat.dvd_refl width)
      · intro j hj
        have hlt : width + j < (first :: values).length := by
          rw [List.length_drop] at hj
          rw [List.length_cons]
          omega
        rw [List.getElem?_drop, ← Nat.add_mod_left width j, ← hcol _ hlt,
          show width + j = (others + j) + 1 by omega, List.getElem?_cons_succ]

namespace Query

open Cursor

theorem takeInsert_tokens {i : Insert} (hi : i.Regular) (hb : i.Bare) (n : Nat) :
    takeInsert ⟨i.tokens .bare ++ [semicolonToken], n⟩ = .ok (i, ⟨[semicolonToken], n⟩) := by
  obtain ⟨-, hlower, hreserved⟩ := isBareTable_iff.1 hb.table
  have hreturning : (Cursor.mk (returningTokens .bare i.returning ++ [semicolonToken]) n).kind ≠
      .comma := by
    unfold returningTokens
    split <;> exact nofun
  have htuples := takeTuples_tokens hi.columns (tuplesOf_ne_nil i.columns.length hi.values)
    (fun t ht => map_column_of_mem_tuplesOf hi.full hi.column ht)
    (fun t ht b hb => hi.inRange b (mem_of_mem_tuplesOf ht hb)) 0 hreturning
  rw [flatten_tuplesOf] at htuples
  have hright (rest : List Token) : (Cursor.mk (symbolToken .rightParen ')' :: rest) n).kind ≠
      .comma := nofun
  have hcolumns (rest : List Token) : (Cursor.mk (itemsTokens .bare i.columns ++
      symbolToken .rightParen ')' :: rest) n).commaSeparated column? "column name" =
      .ok (i.columns, ⟨symbolToken .rightParen ')' :: rest, n⟩) :=
    commaSeparated_intercalate "column name" hi.columns
      (fun c hc => column?_itemToken (hb.columns c hc)) (hright rest)
  have htable (rest : List Token) : takeTable ⟨wordToken (Text.upper i.table) :: rest, n⟩ =
      .ok (i.table, ⟨rest, n⟩) := by
    simp [takeTable, table?_wordToken hreserved, hlower]
  unfold takeInsert
  simp only [Insert.tokens, Naming.bare_table, List.append_assoc, List.cons_append, List.nil_append,
    takeConflict_tokens, bind,
    Except.bind, expectKeyword, expect_cons (show (keywordToken .into).kind = .keyword .into from rfl),
    htable, expect_cons (show (symbolToken .leftParen '(').kind = .leftParen from rfl),
    hcolumns, expect_cons (show (symbolToken .rightParen ')').kind = .rightParen from rfl),
    expect_cons (show (keywordToken .values).kind = .keyword .values from rfl), htuples,
    takeReturning_tokens hb.returning]
  rfl

theorem parseTokens_tokens {s : Statement} (hs : s.Regular) (hb : s.Bare) :
    parseTokens ⟨s.tokens .bare ++ [semicolonToken], 0⟩ = .ok s := by
  cases s with
  | select s =>
    have htake : takeStatement ⟨(Statement.select s).tokens .bare ++ [semicolonToken], 0⟩ =
        .ok (.select s, ⟨[semicolonToken], 0⟩) := by
      have h := takeSelect_tokens hs hb 0
      unfold takeStatement
      simp only [Statement.tokens, List.cons_append, kind_cons, keywordToken, advance_cons, h]
      rfl
    rw [parseTokens, htake]
    rfl
  | insert i =>
    have htake : takeStatement ⟨(Statement.insert i).tokens .bare ++ [semicolonToken], 0⟩ =
        .ok (.insert i, ⟨[semicolonToken], 0⟩) := by
      have h := takeInsert_tokens hs hb 0
      unfold takeStatement
      simp only [Statement.tokens, List.cons_append, kind_cons, keywordToken, advance_cons, h]
      rfl
    rw [parseTokens, htake]
    rfl

end Query

/-- What is rendered of a regular statement with bare names is read as that statement. -/
theorem parseQuery_render_of_bare {s : Statement} (hs : s.Regular) (hb : s.Bare) :
    parseQuery s.render = .ok s := by
  rw [parseQuery_eq_ok_iff_tokensOf, Statement.tokensOf_render hs hb]
  exact Query.parseTokens_tokens hs hb

end TypedQueries
