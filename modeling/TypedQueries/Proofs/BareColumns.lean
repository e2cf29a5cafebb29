import TypedQueries.Proofs.AcceptedStatements
import TypedQueries.Proofs.ColumnSpelling
import TypedQueries.Proofs.ParamNames
import TypedQueries.Proofs.ParamTypes

/-!
Columns that a schema declares by bare words in ASCII. The table has their names in small letters
and a query has them in capitals, so that a value is bound to the upper case of the declared name.
The field for a value is named for that, and tagged, by what stands in the struct before it.
-/

namespace TypedQueries

namespace Text

/-- What the case forms of seven-bit characters are. -/
theorem caseForms_of_isAscii {c : Char} (h : isAscii c = true) :
    (isAscii c.toUpper = true ∧ isAscii c.toLower = true) ∧
      (c.toUpper.toUpper = c.toUpper ∧ c.toLower.toUpper = c.toUpper) ∧
      (c.toUpper.toLower = c.toLower ∧ c.toLower.toLower = c.toLower) ∧
      isLowercase c.toUpper = false := by
  have hall := forall_isAscii (p := fun c => (isAscii c.toUpper && isAscii c.toLower) &&
    ((c.toUpper.toUpper == c.toUpper && c.toLower.toUpper == c.toUpper) &&
      ((c.toUpper.toLower == c.toLower && c.toLower.toLower == c.toLower) &&
        !isLowercase c.toUpper))) (by decide +kernel) h
  simpa using hall

/-- Whether a text is one of seven-bit characters without capitals. -/
def isSmallAscii (s : String) : Bool := s.toList.all fun c => isAscii c && c.toLower == c

theorem isSmallAscii_iff {s : String} :
    isSmallAscii s = true ↔ ∀ c ∈ s.toList, isAscii c = true ∧ c.toLower = c := by
  simp [isSmallAscii]

theorem toList_upper_of_isAscii {s : String} (h : ∀ c ∈ s.toList, isAscii c = true) :
    (upper s).toList = s.toList.map Char.toUpper := by
  rw [upper, String.toList_ofList, flatMap_upperChar_of_isAscii h]

theorem toList_lower_of_isAscii {s : String} (h : ∀ c ∈ s.toList, isAscii c = true) :
    (lower s).toList = s.toList.map Char.toLower := by
  rw [lower, String.toList_ofList, lowerFrom_of_isAscii [] h]

theorem lower_of_isSmallAscii {s : String} (h : isSmallAscii s = true) : lower s = s := by
  rw [isSmallAscii_iff] at h
  rw [← String.toList_inj, toList_lower_of_isAscii fun c hc => (h c hc).1]
  exact (List.map_congr_left fun c hc => (h c hc).2).trans (List.map_id _)

/-- A bare word in ASCII is declared by small letters. -/
theorem isSmallAscii_lower_upper {word : String} (h : ∀ c ∈ word.toList, isAscii c = true) :
    isSmallAscii (lower (upper word)) = true := by
  have hupper : ∀ c ∈ (upper word).toList, isAscii c = true := by
    rw [toList_upper_of_isAscii h]
    exact List.forall_mem_map.2 fun c hc => (caseForms_of_isAscii (h c hc)).1.1
  rw [isSmallAscii_iff, toList_lower_of_isAscii hupper]
  refine List.forall_mem_map.2 fun c hc => ?_
  have hforms := caseForms_of_isAscii (hupper c hc)
  exact ⟨hforms.1.2, hforms.2.2.1.2⟩

/-- No character has a small seven-bit letter in its upper-case form. -/
theorem toUpper_of_mem_upperChar {c d : Char} (hd : isAscii d = true) (h : d ∈ upperChar c) :
    d.toUpper = d := by
  cases hc : isAscii c with
  | true =>
    rw [upperChar_of_isAscii hc, List.mem_singleton] at h
    rw [h, (caseForms_of_isAscii hc).2.1.1]
  | false =>
    have havoid : ∀ n < 128, (Char.ofNat n).toUpper ≠ Char.ofNat n →
        formsAvoid upperShifts upperExpansions n = true := by decide +kernel
    by_contra hne
    have hform := havoid d.toNat (by simpa [isAscii] using hd) (by rwa [Char.ofNat_toNat])
    rw [upperChar, hc] at h
    rw [eq_of_formsAvoid hform h, hd] at hc
    cases hc

end Text

/-- A query spells a column in capitals that a schema has in small letters. -/
theorem eq_upper_of_equalIgnoringCase {name column : String} (hname : Text.isSmallAscii name = true)
    (hcolumn : IsColumnName column) (h : Text.equalIgnoringCase name column = true) :
    column = Text.upper name := by
  rw [Text.isSmallAscii_iff] at hname
  obtain ⟨⟨word, -, hword⟩, -⟩ := hcolumn
  have hsame : column.toList.map Char.toLower = name.toList := by
    have hlower : name.toList.map Char.toLower = name.toList :=
      (List.map_congr_left fun c hc => (hname c hc).2).trans (List.map_id _)
    rw [Text.equalIgnoringCase, beq_iff_eq, hlower] at h
    exact h.symm
  have hascii : ∀ d ∈ column.toList, Text.isAscii d = true := by
    intro d hd
    have hmem : d.toLower ∈ name.toList := hsame ▸ List.mem_map_of_mem hd
    have hlower := (hname _ hmem).1
    cases hd : Text.isAscii d with
    | true => rfl
    | false => rw [Text.toLower_of_isAscii_eq_false hd, hd] at hlower; exact hlower
  have hupper : ∀ d ∈ column.toList, d.toLower.toUpper = d := by
    intro d hd
    have hmem : d ∈ (Text.upper (String.ofList word)).toList := hword ▸ hd
    obtain ⟨c, -, hform⟩ := Text.mem_toList_upper.1 hmem
    rw [(Text.caseForms_of_isAscii (hascii d hd)).2.1.2]
    exact Text.toUpper_of_mem_upperChar (hascii d hd) hform
  rw [← String.toList_inj, Text.toList_upper_of_isAscii fun c hc => (hname c hc).1, ← hsame,
    List.map_map]
  exact ((List.map_congr_left hupper).trans (List.map_id _)).symm

namespace Schema

/-- A column that is named by a bare word in ASCII. -/
inductive IsBareField (now : Clock) : List Token → Field → Prop
  | mk {word : String} {more : List Token} {f : Field} (hword : Text.isWord word.toList = true)
      (hascii : ∀ c ∈ word.toList, Text.isAscii c = true)
      (hfield : IsField now (tokensOf word.toList ++ more) f) :
      IsBareField now (tokensOf word.toList ++ more) f

/-- A schema has a declaration of the table in which bare words in ASCII name all columns. -/
inductive DeclaresBare (now : Clock) (schema : String) (t : Table) : Prop
  | mk {before front name columns after : List Token} {left right : Token}
      {items others : List SchemaItem}
      (htokens : tokensOf schema.toList =
        before ++ ((front ++ (name ++ left :: (columns ++ [right]))) ++ after))
      (hbefore : IsSchema now before items)
      (hfront : front.map Token.kind = [.keyword .create, .keyword .table])
      (hname : IsTableName name t.name) (hleft : left.kind = .leftParen)
      (hcolumns : CommaSeparated (IsBareField now) columns t.fields)
      (hright : right.kind = .rightParen) (hafter : IsSchema now after others)

theorem DeclaresBare.isSmallAscii {now : Clock} {schema : String} {t : Table}
    (h : DeclaresBare now schema t) : ∀ f ∈ t.fields, Text.isSmallAscii f.name = true := by
  obtain ⟨-, -, -, -, -, hcolumns, -, -⟩ := h
  refine hcolumns.forall_value ?_
  rintro _ f ⟨hword, hascii, hfield⟩
  rw [tokensOf_of_isWord hword] at hfield
  rw [hfield.name_of_wordToken]
  exact Text.isSmallAscii_lower_upper hascii

/-- A column without modifiers, named by a bare word. -/
theorem isBareField_plain (now : Clock) (word type : String) {dataType : DataType}
    (hword : Text.isWord word.toList = true) (hascii : word.toList.all Text.isAscii = true)
    (hreserved : Keyword.ofText? (Text.upper word) = none)
    (htype : DataType.builtin? type = some dataType) :
    IsBareField now (tokensOf word.toList ++ ([⟨.ident, type, Span.point 0⟩] ++ []))
      (.plain (Text.lower (Text.upper word)) dataType) := by
  refine .mk hword (List.all_eq_true.1 hascii) ?_
  have hname : IsName (wordToken (Text.upper word)) (Text.lower (Text.upper word)) := by
    have hident := IsName.ident (t := wordToken (Text.upper word)) (by simp [wordToken, hreserved])
    rwa [literal_wordToken] at hident
  rw [tokensOf_of_isWord hword]
  exact .mk hname (.builtin rfl (builtin?_eq_some_iff.1 htype)) .nil

end Schema

def partSchema : String := "CREATE TABLE parts (id INT, line2total INT, created_at TIMESTAMP);"

def partTable : Table :=
  ⟨"parts", [.plain "id" .int, .plain "line2total" .int, .plain "created_at" .timestamp]⟩

theorem declaresBare_partSchema (now : Clock) :
    Schema.DeclaresBare now partSchema partTable := by
  have hid := Schema.isBareField_plain now "id" "INT" (by decide +kernel) (by decide +kernel)
    (by decide +kernel) rfl
  have htotal := Schema.isBareField_plain now "line2total" "INT" (by decide +kernel)
    (by decide +kernel) (by decide +kernel) rfl
  have hcreated := Schema.isBareField_plain now "created_at" "TIMESTAMP" (by decide +kernel)
    (by decide +kernel) (by decide +kernel) rfl
  have hcomma : (Token.mk .comma "," (Span.point 0)).kind = .comma := rfl
  have hcolumns : CommaSeparated (Schema.IsBareField now) _ partTable.fields :=
    .cons hid hcomma (.cons htotal hcomma (.one hcreated))
  have hname : Schema.IsTableName (tokensOf "parts".toList) (Text.lower "PARTS") := by
    rw [show tokensOf "parts".toList = [⟨.ident, "PARTS", Span.point 0⟩] by decide +kernel]
    exact .bare (.ident rfl) (by simp)
  have hfront : [keywordToken .create, keywordToken .table].map Token.kind =
      [.keyword .create, .keyword .table] := rfl
  have hleft : (Token.mk .leftParen "(" (Span.point 0)).kind = .leftParen := rfl
  have hright : (Token.mk .rightParen ")" (Span.point 0)).kind = .rightParen := rfl
  have hafter : IsSchema now [semicolonToken] [] := .semicolon rfl .nil
  exact .mk (by decide +kernel) .nil hfront hname hleft hcolumns hright hafter

theorem Statement.ReadFrom.isColumnName {cs : List Char} {s : Statement}
    (h : s.ReadFrom (tokensOf cs)) : ∀ b ∈ s.binds, IsColumnName b.column := by
  cases s with
  | select s =>
    intro b hb
    obtain ⟨c, hc, rfl⟩ := List.mem_map.1 hb
    have hcondition := Select.ReadFrom.conditions h c hc
    obtain ⟨token, htoken, hcolumn⟩ := hcondition.column
    rw [hcondition.bind]
    exact isColumnName_of_column? htoken hcolumn
  | insert i =>
    intro b hb
    obtain ⟨tuples, -, hflatten, htuples⟩ := Insert.ReadFrom.tuples h
    have hvalues : b ∈ tuples.flatten := hflatten ▸ hb
    obtain ⟨tuple, htuple, hb⟩ := List.mem_flatten.1 hvalues
    have hmem : b.column ∈ i.columns := htuples tuple htuple ▸ List.mem_map_of_mem hb
    obtain ⟨token, htoken, hcolumn⟩ := Insert.ReadFrom.columns h b.column hmem
    exact isColumnName_of_column? htoken hcolumn

/-- The columns that a query binds values to are words in capitals, whatever the positions. -/
theorem isColumnName_of_columnAt {source : String} {s : Statement} (hs : parseQuery source = .ok s)
    {k : Nat} {c : String} (hc : Params.columnAt s.withDensePositions.binds k = some c) :
    IsColumnName c := by
  obtain ⟨b, hb, rfl⟩ := Option.map_eq_some_iff.1 hc
  have hmem := List.mem_of_find?_eq_some hb
  rw [Statement.withDensePositions, Statement.binds_mapBinds] at hmem
  obtain ⟨b', hb', rfl⟩ := List.mem_map.1 hmem
  rw [Bind.column_renumber]
  exact (readFrom_of_parseTokens (parseQuery_eq_ok_iff_tokensOf.1 hs)).isColumnName b' hb'

namespace Params

/-- A column repeats an earlier name if and only if a field before it has that name. -/
theorem repeats_iff_mem_take {column? : Nat → Option String} {entries : List (Nat × TypedColumn)}
    (hcolumn : ColumnsOf column? entries) (hasc : Ascending entries) {i : Nat}
    {entry : Nat × TypedColumn} (hentry : entries[i]? = some entry) :
    Repeats column? entry.1 ↔ Naming.exported entry.2.column ∈
      ((entries.map (fieldAt column?)).take i).map GoField.name := by
  obtain ⟨hi, rfl⟩ := List.getElem?_eq_some_iff.1 hentry
  have hsplit : entries.take i ++ entries[i] :: entries.drop (i + 1) = entries := by
    rw [← List.drop_eq_getElem_cons hi, List.take_append_drop]
  have hsorted : Ascending (entries.take i ++ entries[i] :: entries.drop (i + 1)) := by rwa [hsplit]
  have hbefore {e : Nat × TypedColumn} (he : e ∈ entries) :
      e ∈ entries.take i ↔ e.1 < entries[i].1 := mem_before_iff hsorted (by rwa [hsplit])
  have hself : column? entries[i].1 = some entries[i].2.column :=
    (hcolumn _ _).2 ⟨_, List.getElem_mem hi, rfl, rfl⟩
  rw [repeats_iff hself, ← List.map_take, List.map_map, List.mem_map]
  constructor
  · rintro ⟨j, c, hlt, hc, hname⟩
    obtain ⟨e, he, rfl, rfl⟩ := (hcolumn j c).1 hc
    exact ⟨e, (hbefore he).2 hlt, hname⟩
  · rintro ⟨e, he, hname⟩
    have hmem := List.mem_of_mem_take he
    exact ⟨e.1, e.2.column, (hbefore hmem).1 he, (hcolumn _ _).2 ⟨e, hmem, rfl, rfl⟩, hname⟩

/-- The name and the tag of the field at a place, behind the fields in front of it. -/
structure IsFieldFor (before : List GoField) (position : Nat) (column : String) (f : GoField) :
    Prop where
  fresh : Naming.exported column ∉ before.map GoField.name →
    f.name = Naming.exported column ∧ f.tag? = some (jsonTag (Naming.snake column))
  taken : Naming.exported column ∈ before.map GoField.name →
    f.name = numberedName column position ∧ f.tag? = some (jsonTag (numberedTag column position))

theorem numberedName_ne (column : String) (position : Nat) :
    numberedName column position ≠ Naming.exported column := by
  intro h
  have hlength := congrArg String.length h
  have hpos : 0 < (toString position).length := Nat.length_repr_pos
  rw [numberedName, String.length_append] at hlength
  omega

/-- A field without a position behind its name has none in its tag. -/
theorem IsFieldFor.tag_of_name {before : List GoField} {position : Nat} {column : String}
    {f : GoField} (h : IsFieldFor before position column f)
    (hname : f.name = Naming.exported column) : f.tag? = some (jsonTag (Naming.snake column)) := by
  by_cases htaken : Naming.exported column ∈ before.map GoField.name
  · exact absurd ((h.taken htaken).1.symm.trans hname) (numberedName_ne column position)
  · exact (h.fresh htaken).2

end Params

/-- Each field of a struct of parameters is made for the column at its position. -/
theorem exists_columnAt_of_field {source : String} {r : Registry} {name : String} {kind : QueryKind}
    {s : Statement} {q : GeneratedQuery} {record : GoStruct} (hs : parseQuery source = .ok s)
    (h : generate r name kind s = .ok q) (hrecord : q.params? = some record) {i : Nat}
    {f : GoField} (hf : record.fields[i]? = some f) :
    ∃ c, Params.columnAt s.withDensePositions.binds (i + 1) = some c ∧
      Params.IsFieldFor (record.fields.take i) (i + 1) c f := by
  obtain ⟨t, columns, d, entries, hq⟩ := exists_generated h
  have hentries := hq.bound
  obtain rfl := hq.record_eq hrecord
  have hdense := Statement.mem_placeholders_withDensePositions (Statement.one_le_of_parseQuery hs)
  have hkeys := Params.keys_byPosition hentries fun k =>
    Statement.mem_placeholders.symm.trans (hdense k)
  have hcolumns := Params.columnsOf_byPosition hentries
  dsimp only at hf ⊢
  rw [Params.fields_of_byPosition hentries] at hf ⊢
  rw [List.getElem?_map] at hf
  obtain ⟨⟨position, c⟩, hentry, rfl⟩ := Option.map_eq_some_iff.1 hf
  obtain rfl : position = i + 1 := Params.position_of_getElem? hkeys hentry
  have hrepeats := Params.repeats_iff_mem_take hcolumns (Params.byPosition_spec hentries).1 hentry
  refine ⟨c.column, (hcolumns _ _).2 ⟨_, List.mem_of_getElem? hentry, rfl, rfl⟩, ?_, ?_⟩
  · intro hfresh
    have hnot := mt hrepeats.1 hfresh
    exact ⟨Params.nameAt_of_not_repeats hnot _, by
      rw [Params.fieldAt, Params.tagAt_of_not_repeats hnot]⟩
  · intro htaken
    have hrepeat := hrepeats.2 htaken
    exact ⟨Params.nameAt_of_repeats hrepeat _, by
      rw [Params.fieldAt, Params.tagAt_of_repeats hrepeat]⟩

end TypedQueries
