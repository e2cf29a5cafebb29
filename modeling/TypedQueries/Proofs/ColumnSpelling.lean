import TypedQueries.Proofs.KnownTypes
import TypedQueries.Proofs.QuotedColumn
import TypedQueries.Proofs.Rereading
import TypedQueries.Proofs.ScanTargets
import TypedQueries.Proofs.SchemaRoundTrip

/-!
A column that is asked for as it was declared. Queries have the word in capitals and tables have it
in small letters again, and the two are compared up to the case of ASCII letters. So the column is
found exactly if small letters differ from the capitals of the word in ASCII letters only.
-/

namespace TypedQueries

namespace Text

/-- Whether lower case leaves all but the ASCII letters as they are. -/
def lowersAsciiOnly (s : String) : Bool := s.toList.all fun c => isAscii c || lowerChar c == [c]

theorem lowersAsciiOnly_iff {s : String} :
    lowersAsciiOnly s = true ↔ ∀ c ∈ s.toList, isAscii c = true ∨ lowerChar c = [c] := by
  simp [lowersAsciiOnly]

/-- The form of one character between others. -/
def lowerAt (before : List Char) (c : Char) (after : List Char) : List Char :=
  if c = 'Σ' then [lowerSigma before after] else lowerChar c

theorem lowerFrom_cons (before : List Char) (c : Char) (cs : List Char) :
    lowerFrom before (c :: cs) = lowerAt before c cs ++ lowerFrom (c :: before) cs := rfl

theorem length_lowerAt_pos (before : List Char) (c : Char) (after : List Char) :
    0 < (lowerAt before c after).length := by
  unfold lowerAt
  split
  · exact Nat.zero_lt_one
  · exact List.length_pos_iff.2 (lowerChar_ne_nil c)

theorem length_le_lowerFrom (before cs : List Char) : cs.length ≤ (lowerFrom before cs).length := by
  induction cs generalizing before with
  | nil => exact Nat.le_refl _
  | cons c cs ih =>
    have hform := length_lowerAt_pos before c cs
    have hrest := ih (c :: before)
    rw [lowerFrom_cons, List.length_append, List.length_cons]
    omega

theorem lowerAt_of_isAscii {c : Char} (h : isAscii c = true) (before after : List Char) :
    lowerAt before c after = [c.toLower] := by
  have hsigma : c ≠ 'Σ' := by
    rintro rfl
    exact absurd h (by decide)
  rw [lowerAt, if_neg hsigma, lowerChar_of_isAscii h]

theorem lowerAt_of_lowerChar {c : Char} (h : lowerChar c = [c]) (before after : List Char) :
    lowerAt before c after = [c] := by
  have hsigma : c ≠ 'Σ' := by
    rintro rfl
    exact absurd h (by decide +kernel)
  rw [lowerAt, if_neg hsigma, h]

/-- A capital sigma is never left as it is. -/
theorem lowerChar_of_lowerAt {c : Char} {before after : List Char}
    (h : lowerAt before c after = [c]) : lowerChar c = [c] := by
  unfold lowerAt at h
  split at h
  · rename_i hc
    subst hc
    unfold lowerSigma at h
    split at h <;> exact absurd h (by decide)
  · exact h

theorem eq_of_toLower_eq {c d : Char} (hc : isAscii c = false) (h : d.toLower = c.toLower) :
    d = c := by
  rw [toLower_of_isAscii_eq_false hc] at h
  cases hd : isAscii d with
  | true =>
    have hascii : isAscii d.toLower = true :=
      forall_isAscii (p := fun d => isAscii d.toLower) (by decide +kernel) hd
    rw [h, hc] at hascii
    cases hascii
  | false => rwa [toLower_of_isAscii_eq_false hd] at h

/-- A text is its own lower case, up to ASCII letters, if each character is. Where a form is longer,
nothing behind it makes up for that. -/
theorem map_toLower_lowerFrom_iff (before cs : List Char) :
    (lowerFrom before cs).map Char.toLower = cs.map Char.toLower ↔
      ∀ c ∈ cs, isAscii c = true ∨ lowerChar c = [c] := by
  induction cs generalizing before with
  | nil => simp [lowerFrom]
  | cons c cs ih =>
    rw [lowerFrom_cons, List.map_append, List.map_cons, List.forall_mem_cons, ← ih (c :: before)]
    constructor
    · intro h
      obtain ⟨d, hd⟩ : ∃ d, lowerAt before c cs = [d] := by
        have hform := length_lowerAt_pos before c cs
        have hrest := length_le_lowerFrom (c :: before) cs
        have hlength := congrArg List.length h
        simp only [List.length_append, List.length_map, List.length_cons] at hlength
        exact List.length_eq_one_iff.1 (by omega)
      rw [hd] at h
      obtain ⟨hhead, htail⟩ := List.cons.inj h
      refine ⟨?_, htail⟩
      cases hc : isAscii c with
      | true => exact Or.inl rfl
      | false =>
        obtain rfl := eq_of_toLower_eq hc hhead
        exact Or.inr (lowerChar_of_lowerAt hd)
    · rintro ⟨hc | hc, htail⟩
      · have hidem : c.toLower.toLower = c.toLower := by
          have hall := forall_isAscii (p := fun c => c.toLower.toLower == c.toLower)
            (by decide +kernel) hc
          exact beq_iff_eq.1 hall
        rw [lowerAt_of_isAscii hc, htail, List.map_singleton, hidem]
        rfl
      · rw [lowerAt_of_lowerChar hc, htail]
        rfl

theorem equalIgnoringCase_lower (s : String) :
    equalIgnoringCase (lower s) s = lowersAsciiOnly s := by
  rw [Bool.eq_iff_iff, lowersAsciiOnly_iff, ← map_toLower_lowerFrom_iff []]
  simp [equalIgnoringCase, lower]

/-- A word in capitals is no star. -/
theorem upper_ne_star {word : String} (h : isWord word.toList = true) : upper word ≠ "*" := by
  intro hstar
  have hmem : '*' ∈ (upper word).toList := by
    rw [hstar]
    decide
  obtain ⟨c, hc, hform⟩ := mem_toList_upper.1 hmem
  obtain rfl := eq_of_mem_upperChar (by decide +kernel) hform
  exact absurd (isWordPart_of_isWord h _ hc) (by decide +kernel)

end Text

theorem tokensOf_of_isWord {word : String} (h : Text.isWord word.toList = true) :
    tokensOf word.toList = [wordToken (Text.upper word)] := by
  have hnil : Text.endsWord [] = true := rfl
  have htokens := tokensOf_word h hnil
  rwa [List.append_nil, String.ofList_toList, tokensOf_nil] at htokens

/-- The words that make one identifier are not reserved. -/
theorem isReserved_of_kind_eq_ident {word : String} (h : Text.isWord word.toList = true)
    (hkind : (sourceTokens word).map Token.kind = [.ident]) :
    isReserved (Text.upper word) = false := by
  have hunplaced : (tokensOf word.toList).map Token.kind = [.ident] := by
    rw [← hkind, tokensOf, ← unplaced_tokensFrom 0, List.map_map]
    rfl
  rw [tokensOf_of_isWord h, wordToken] at hunplaced
  cases hkeyword : Keyword.ofText? (Text.upper word) with
  | none => simp [isReserved, hkeyword]
  | some k => simp [hkeyword] at hunplaced

/-- One column of one table. -/
def Select.ofColumn (column table : String) : Select := ⟨false, [column], table, [], none, none⟩

/-- A word as a column of a word as a table. -/
theorem parseQuery_of_words {w t : String} (hw : Text.isWord w.toList = true)
    (hwr : isReserved (Text.upper w) = false) (ht : Text.isWord t.toList = true)
    (htr : isReserved (Text.upper t) = false) :
    parseQuery ("SELECT " ++ w ++ " FROM " ++ t) =
      .ok (.select (.ofColumn (Text.upper w) (Text.lower (Text.upper t)))) := by
  have htokens : tokensOf ("SELECT " ++ w ++ " FROM " ++ t).toList =
      [keywordToken .select, wordToken (Text.upper w), keywordToken .from,
        wordToken (Text.upper t)] := by
    have hcolumn := lexesTo_word hw
    have htable := lexesTo_word ht
    rw [String.ofList_toList] at hcolumn htable
    have hall := (lexesTo_keyword .select).space
      (hcolumn.space ((lexesTo_keyword .from).space htable))
    have htext := hall [] rfl
    rw [tokensOf_nil] at htext
    simpa [Keyword.text] using htext
  rw [parseQuery_eq_ok_iff_tokensOf, htokens, Query.parseTokens_select]
  have hdistinct := kind_wordToken_of_isReserved hwr (k := .distinct) rfl
  have hfrom := kind_wordToken_of_isReserved hwr (k := .from) rfl
  -- behind FROM there is the table alone, and behind the table nothing
  refine ⟨rfl, ⟨[], 0⟩, Query.takeSelect_eq_ok.2 ⟨?_, ?_, ⟨[wordToken (Text.upper t)], 0⟩,
    ⟨[], 0⟩, ⟨[], 0⟩, ⟨[], 0⟩, ?_, ?_, rfl, rfl, rfl⟩, Or.inr rfl⟩
  · simp [Cursor.eatKeyword, Cursor.eat, hdistinct, Select.ofColumn]
  · simp [Cursor.eatKeyword, Cursor.eat, hdistinct, Query.takeSelectList, hfrom, Select.ofColumn,
      Query.item?, isColumnWord_wordToken, hwr, keywordToken]
  · simp [Cursor.eatKeyword, Cursor.eat, hdistinct, Query.takeSelectList, hfrom, keywordToken,
      Cursor.expectKeyword, Cursor.expect]
  · simp [Query.takeTable, table?_wordToken htr, Select.ofColumn]

/-- A schema has a declaration of a table, written `t`, whose one column is written `w`. In front of
the table's name IF NOT EXISTS may stand, and behind the column's name its type and modifiers. -/
inductive DeclaresColumn (now : Clock) (schema t w : String) : Prop
  | mk {before front guard more after : List Token} {left right : Token}
      {items others : List SchemaItem} {name : String} {field : Field}
      (htokens : tokensOf schema.toList = before ++ ((front ++ ((guard ++ tokensOf t.toList) ++
        left :: ((tokensOf w.toList ++ more) ++ [right]))) ++ after))
      (hbefore : IsSchema now before items)
      (hfront : front.map Token.kind = [.keyword .create, .keyword .table])
      (hname : Schema.IsTableName (guard ++ tokensOf t.toList) name)
      (hleft : left.kind = .leftParen)
      (hfield : Schema.IsField now (tokensOf w.toList ++ more) field)
      (hright : right.kind = .rightParen) (hafter : IsSchema now after others)

theorem IsSchema.append {now : Clock} {ts us : List Token} {items others : List SchemaItem}
    (h : IsSchema now ts items) (hus : IsSchema now us others) :
    IsSchema now (ts ++ us) (items ++ others) := by
  induction h with
  | nil => exact hus
  | semicolon ht _ ih => exact .semicolon ht ih
  | declaration h _ ih =>
    rw [List.append_assoc]
    exact .declaration h ih

/-- A bare word is declared in small letters. -/
theorem Schema.IsName.eq_of_wordToken {word name : String} (h : IsName (wordToken word) name) :
    name = Text.lower word := by
  have hliteral := literal_wordToken word
  have hstring : (wordToken word).kind ≠ .string := by
    unfold wordToken
    split <;> simp
  generalize wordToken word = token at h hliteral hstring
  cases h with
  | quoted hk => exact absurd hk hstring
  | ident => rw [hliteral]
  | keyword => rw [hliteral]

theorem Schema.IsTableName.eq_of_wordToken {guard : List Token} {word name : String}
    (h : IsTableName (guard ++ [wordToken word]) name) : name = Text.lower word := by
  have hlast : (guard ++ [wordToken word]).getLast? = some (wordToken word) := by simp
  generalize guard ++ [wordToken word] = ts at h hlast
  cases h with
  | bare hname _ =>
    obtain rfl := Option.some.inj hlast
    exact hname.eq_of_wordToken
  | ifNotExists _ hname =>
    rw [List.getLast?_concat] at hlast
    obtain rfl := Option.some.inj hlast
    exact hname.eq_of_wordToken

theorem Schema.IsField.name_of_wordToken {now : Clock} {word : String} {more : List Token}
    {field : Field} (h : IsField now (wordToken word :: more) field) :
    field.name = Text.lower word := by
  generalize hts : wordToken word :: more = ts at h
  cases h with
  | mk hname _ _ =>
    obtain ⟨rfl, -⟩ := List.cons.inj hts
    exact hname.eq_of_wordToken

section

variable {now : Clock} {schema t w : String}

theorem DeclaresColumn.exists_item (h : DeclaresColumn now schema t w)
    (ht : Text.isWord t.toList = true) (hw : Text.isWord w.toList = true) :
    ∃ items field, parseSchema now schema = .ok items ∧ field.name = Text.lower (Text.upper w) ∧
      .table ⟨Text.lower (Text.upper t), [field]⟩ ∈ items := by
  obtain @⟨before, front, guard, more, after, left, right, items, others, name, field, htokens,
    hbefore, hfront, hname, hleft, hfield, hright, hafter⟩ := h
  have hdeclaration := Schema.IsDeclaration.table hfront hname hleft (.one hfield) hright
  have hschema := hbefore.append (.declaration hdeclaration hafter)
  rw [← htokens] at hschema
  rw [tokensOf_of_isWord ht] at hname
  rw [tokensOf_of_isWord hw] at hfield
  obtain rfl := hname.eq_of_wordToken
  exact ⟨_, field, parseSchema_eq_ok_iff_tokensOf.2 (Schema.takeItems_of_isSchema hschema 0),
    hfield.name_of_wordToken, by simp⟩

/-- The table of such a declaration is in the registry of the schema, and the type of its column is
known. -/
theorem DeclaresColumn.exists_table (h : DeclaresColumn now schema t w)
    (ht : Text.isWord t.toList = true) (hw : Text.isWord w.toList = true) {c : Compilation}
    (hc : Compilation.ofSchema now schema = .ok c) :
    ∃ table field columns, c.registry.table table.name = .ok table ∧
      table = ⟨Text.lower (Text.upper t), [field]⟩ ∧ field.name = Text.lower (Text.upper w) ∧
      c.registry.resolveTable table = .ok columns := by
  obtain ⟨items, field, hparse, hname, hmem⟩ := h.exists_item ht hw
  obtain ⟨items', hitems, hc⟩ := bind_eq_ok.1 hc
  obtain ⟨r, hr, rfl⟩ := map_eq_ok.1 hc
  obtain rfl := Except.ok.inj (hparse.symm.trans (mapError_eq_ok.1 hitems))
  obtain ⟨hofItems, htyped⟩ := Registry.checked_eq_ok_iff.1 hr
  obtain ⟨hindexed, rfl⟩ := Registry.indexed_of_ofItems hofItems
  have hget : r.get? (Text.lower (Text.upper t)) =
      some (.table ⟨Text.lower (Text.upper t), [field]⟩) :=
    hindexed.get?_eq_some_iff.2 ⟨hmem, rfl⟩
  obtain ⟨columns, hcolumns⟩ := htyped _ (Registry.mem_tables.2 hmem)
  refine ⟨_, field, columns, ?_, rfl, hname, hcolumns⟩
  simp only [Compilation.ofRegistry, Registry.table, hget]

end

/-- A SELECT of one column decodes it if the table has it. -/
theorem Select.decoding_ofColumn (table : Table) {column : String} (hstar : column ≠ "*")
    {kind : QueryKind} (hkind : kind ≠ .exec) :
    ∃ shape, shape ≠ .none ∧ (Select.ofColumn column table.name).decoding kind table =
      (table.rowField column).map fun target => ⟨shape, [target]⟩ := by
  have hall : (Select.ofColumn column table.name).selectsAll = false := by
    simp [selectsAll, ofColumn, hstar.symm]
  have htargets : (Select.ofColumn column table.name).columns.mapM table.rowField =
      (table.rowField column).map fun target => [target] := by
    rw [ofColumn, List.mapM_cons, List.mapM_nil]
    cases table.rowField column <;> rfl
  unfold decoding
  simp only [hall, htargets]
  cases kind with
  | one => exact ⟨.single table.rowType, by simp, by cases table.rowField column <;> rfl⟩
  | many => exact ⟨.list table.rowType, by simp, by cases table.rowField column <;> rfl⟩
  | exec => exact absurd rfl hkind

/-- A query for one column is generated if the table has it, and then scans into its field. -/
theorem generate_ofColumn {r : Registry} {table : Table} {columns : List ResolvedColumn}
    (htable : r.table table.name = .ok table) (hcolumns : r.resolveTable table = .ok columns)
    {column : String} (hstar : column ≠ "*") (name : String) {kind : QueryKind}
    (hkind : kind ≠ .exec) :
    ∃ shape, shape ≠ .none ∧ generate r name kind (.select (.ofColumn column table.name)) =
      (table.rowField column).map fun target => ⟨name, shape, none, Method.function name
        (Statement.select (.ofColumn column table.name)).render ⟨shape, [target]⟩ none⟩ := by
  obtain ⟨shape, hshape, hdecoding⟩ := Select.decoding_ofColumn table hstar hkind
  have hdense : (Statement.select (.ofColumn column table.name)).withDensePositions =
      .select (.ofColumn column table.name) := rfl
  have hname : (Statement.select (.ofColumn column table.name)).table = table.name := rfl
  refine ⟨shape, hshape, ?_⟩
  rw [generate, hname, htable]
  dsimp only [bind, Except.bind]
  rw [hcolumns]
  dsimp only
  rw [hdense, Statement.decoding, hdecoding]
  cases table.rowField column <;> rfl

/-- A column that was declared by a word is found under the same word, and scanned into its field,
if and only if lower case changes none but the ASCII letters of its capitals. -/
theorem generate_finds_iff {now : Clock} {schema t w : String} {c : Compilation}
    (hw : Text.isWord w.toList = true) (hident : (sourceTokens w).map Token.kind = [.ident])
    (ht : Text.isWord t.toList = true) (htr : isReserved (Text.upper t) = false)
    (hc : Compilation.ofSchema now schema = .ok c) (hdeclares : DeclaresColumn now schema t w) :
    ∃ s table field, parseQuery ("SELECT " ++ w ++ " FROM " ++ t) = .ok s ∧
      c.registry.table s.table = .ok table ∧ table.rowFields = [field] ∧
      ∀ name kind, kind ≠ .exec →
        ((∃ q owner, generate c.registry name kind s = .ok q ∧
            q.function.scanArguments = [Method.scanTargets owner [field]]) ↔
          Text.lowersAsciiOnly (Text.upper w) = true) ∧
        (Text.lowersAsciiOnly (Text.upper w) = false → generate c.registry name kind s =
          .error (.unknownColumn table.name (Text.lower (Text.upper w)))) := by
  obtain ⟨table, f, columns, htable, rfl, hname, hcolumns⟩ := hdeclares.exists_table ht hw hc
  have hparse := parseQuery_of_words hw (isReserved_of_kind_eq_ident hw hident) ht htr
  have hfound := Text.equalIgnoringCase_lower (Text.upper w)
  rw [← hname] at hfound
  refine ⟨_, _, Naming.exported f.name, hparse, htable, rfl, fun name kind hkind => ?_⟩
  obtain ⟨shape, hshape, hgenerate⟩ :=
    generate_ofColumn htable hcolumns (Text.upper_ne_star hw) name hkind
  rw [hgenerate]
  cases hlowers : Text.lowersAsciiOnly (Text.upper w) with
  | true =>
    have hfield : Table.rowField ⟨Text.lower (Text.upper t), [f]⟩ (Text.upper w) =
        .ok (Naming.exported f.name) := by
      simp [Table.rowField, Table.field?, hfound, hlowers]
    rw [hfield]
    refine ⟨iff_of_true ?_ rfl, by simp⟩
    obtain ⟨owner, hscan⟩ := Method.scanArguments_function name
      (Statement.select (.ofColumn (Text.upper w) (Text.lower (Text.upper t)))).render
      (d := ⟨shape, [Naming.exported f.name]⟩) none hshape
    exact ⟨_, owner, rfl, hscan⟩
  | false =>
    have hfield : Table.rowField ⟨Text.lower (Text.upper t), [f]⟩ (Text.upper w) =
        .error (.unknownColumn (Text.lower (Text.upper t)) (Text.lower (Text.upper w))) := by
      simp [Table.rowField, Table.field?, hfound, hlowers]
    rw [hfield]
    refine ⟨iff_of_false ?_ (by simp), fun _ => rfl⟩
    rintro ⟨q, owner, hq, -⟩
    cases hq

def roadSchema : String := "CREATE TABLE IF NOT EXISTS roads (straße INT NOT NULL);"

theorem declaresColumn_roadSchema (now : Clock) :
    DeclaresColumn now roadSchema "roads" "straße" := by
  have hname : Schema.IsTableName ([keywordToken .if, keywordToken .not, keywordToken .exists] ++
      tokensOf "roads".toList) (Text.lower "ROADS") := by
    rw [show tokensOf "roads".toList = [⟨.ident, "ROADS", Span.point 0⟩] by decide +kernel]
    exact .ifNotExists rfl (.ident rfl)
  have hfield : Schema.IsField now (tokensOf "straße".toList ++ ([⟨.ident, "INT", Span.point 0⟩] ++
      ([keywordToken .not, keywordToken .null] ++ [])))
      (Field.ofModifiers (Text.lower "STRASSE") .int [.notNull]) := by
    have htype : Schema.IsDataType [⟨.ident, "INT", Span.point 0⟩] .int :=
      .builtin rfl (by simp [Schema.builtinTypes])
    have hmodifiers : InSequence (Schema.IsModifier now .int)
        ([keywordToken .not, keywordToken .null] ++ []) [.notNull] := .cons (.notNull rfl) .nil
    have hword : Schema.IsName ⟨.ident, "STRASSE", Span.point 0⟩ (Text.lower "STRASSE") :=
      .ident rfl
    have hcolumn := Schema.IsField.mk hword htype hmodifiers
    rw [show tokensOf "straße".toList = [⟨.ident, "STRASSE", Span.point 0⟩] by decide +kernel]
    exact hcolumn
  have htokens : tokensOf roadSchema.toList = [] ++ (([keywordToken .create, keywordToken .table] ++
      (([keywordToken .if, keywordToken .not, keywordToken .exists] ++ tokensOf "roads".toList) ++
        ⟨.leftParen, "(", Span.point 0⟩ :: ((tokensOf "straße".toList ++
          ([⟨.ident, "INT", Span.point 0⟩] ++ ([keywordToken .not, keywordToken .null] ++ []))) ++
            [⟨.rightParen, ")", Span.point 0⟩]))) ++ [semicolonToken]) := by decide +kernel
  exact .mk htokens .nil rfl hname rfl hfield rfl (.semicolon rfl .nil)

/-- The capitals of a word may be more than its letters. -/
theorem generate_finds_roads :
    (sourceTokens "straße").map Token.kind = [.ident] ∧
      ∃ c q owner, Compilation.ofSchema (⟨2024, 3, 9, 14, 5, 0⟩ : Moment) roadSchema = .ok c ∧
        parseQuery "SELECT straße FROM roads" = .ok (.select (.ofColumn "STRASSE" "roads")) ∧
        generate c.registry "ListRoads" .many (.select (.ofColumn "STRASSE" "roads")) = .ok q ∧
        q.function.scanArguments = [Method.scanTargets owner ["Strasse"]] := by
  have hident : (sourceTokens "straße").map Token.kind = [.ident] := by decide +kernel
  have hparse : parseQuery "SELECT straße FROM roads" =
      .ok (.select (.ofColumn "STRASSE" "roads")) := by decide +kernel
  have hrows : (Compilation.ofSchema (⟨2024, 3, 9, 14, 5, 0⟩ : Moment) roadSchema).toOption.bind
      (fun c => (c.registry.table "roads").toOption.map Table.rowFields) = some ["Strasse"] := by
    decide +kernel
  refine ⟨hident, ?_⟩
  cases hc : Compilation.ofSchema (⟨2024, 3, 9, 14, 5, 0⟩ : Moment) roadSchema with
  | error e => simp [hc, Except.toOption] at hrows
  | ok c =>
    obtain ⟨s, table, field, hs, htable, hfield, hfinds⟩ := generate_finds_iff (by decide +kernel)
      hident (by decide +kernel) (by decide +kernel) hc (declaresColumn_roadSchema _)
    obtain ⟨q, owner, hq, hscan⟩ := (hfinds "ListRoads" .many (by simp)).1.2 (by decide +kernel)
    have htext : "SELECT " ++ "straße" ++ " FROM " ++ "roads" = "SELECT straße FROM roads" := by
      decide
    rw [htext, hparse, Except.ok.injEq] at hs
    subst hs
    have hroads : c.registry.table "roads" = .ok table := htable
    simp only [hc, Except.toOption, Option.bind_some, hroads, Option.map_some, Option.some.injEq,
      hfield] at hrows
    cases hrows
    exact ⟨c, q, owner, rfl, hparse, hq, hscan⟩

/-- A column with an accent is declared and not found. -/
theorem generate_misses_accent :
    (sourceTokens "é").map Token.kind = [.ident] ∧
      ∃ c, Compilation.ofSchema (⟨2024, 3, 9, 14, 5, 0⟩ : Moment) "CREATE TABLE t (é INT);" = .ok c ∧
        c.registry.items = [.table ⟨"t", [.plain "é" .int]⟩] ∧
        parseQuery "SELECT é FROM t" = .ok (.select (.ofColumn "É" "t")) ∧
        generate c.registry "GetT" .one (.select (.ofColumn "É" "t")) =
          .error (.unknownColumn "t" "é") := by
  have hmissed : (Compilation.ofSchema (⟨2024, 3, 9, 14, 5, 0⟩ : Moment)
      "CREATE TABLE t (é INT);").toOption.map (fun c => (c.registry.items,
        (generate c.registry "GetT" .one (.select (.ofColumn "É" "t"))).map GeneratedQuery.name)) =
      some ([.table ⟨"t", [.plain "é" .int]⟩], .error (.unknownColumn "t" "é")) := by
    decide +kernel
  refine ⟨by decide +kernel, ?_⟩
  cases hc : Compilation.ofSchema (⟨2024, 3, 9, 14, 5, 0⟩ : Moment) "CREATE TABLE t (é INT);" with
  | error e => simp [hc, Except.toOption] at hmissed
  | ok c =>
    simp only [hc, Except.toOption, Option.map_some, Option.some.injEq, Prod.mk.injEq] at hmissed
    obtain ⟨hitems, hgenerate⟩ := hmissed
    refine ⟨c, rfl, hitems, by decide +kernel, ?_⟩
    cases hq : generate c.registry "GetT" .one (.select (.ofColumn "É" "t")) with
    | error e =>
      rw [hq] at hgenerate
      cases hgenerate
      rfl
    | ok q =>
      rw [hq] at hgenerate
      cases hgenerate

end TypedQueries
