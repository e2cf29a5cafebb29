import TypedQueries.Proofs.CaseForms
import TypedQueries.Proofs.Lexemes
import TypedQueries.Proofs.Provenance
import TypedQueries.Proofs.Rereading

/-!
Names as they are written. A name that was read from a bare word is written in letters that do not
change any more when they are read again, and without separators, so that it becomes whole tokens;
those of them that are words name bare columns, even if the name itself does not.
-/

namespace TypedQueries

namespace Text

/-- Neither changed by reading nor cut by separators. -/
def isFolded (cs : List Char) : Bool := cs.all fun c => !isSeparator c && isSettled c

theorem isFolded_iff {cs : List Char} :
    isFolded cs = true ↔ ∀ c ∈ cs, isSeparator c = false ∧ isSettled c = true := by
  simp [isFolded]

theorem isFolded_of_subset {cs ds : List Char} (h : isFolded cs = true) (hd : ds ⊆ cs) :
    isFolded ds = true :=
  isFolded_iff.2 fun c hc => isFolded_iff.1 h c (hd hc)

/-- A word is folded after it was put into upper and then into lower case. -/
theorem isFolded_lower_upper {word : List Char} (h : isWord word = true) :
    isFolded (lower (upper (String.ofList word))).toList = true := by
  have hword : ∀ c ∈ (String.ofList word).toList, isSeparator c = false := by
    rw [String.toList_ofList]
    exact fun c hc => isSeparator_of_isWordPart (isWordPart_of_isWord h c hc)
  exact isFolded_iff.2 fun c hc => ⟨isSeparator_of_mem_fold hword hc, isSettled_of_mem_fold hc⟩

end Text

namespace Lexeme

theorem takeWhile_append_of_head? {p : Char → Bool} {rest : List Char}
    (hr : rest.head?.all fun c => !p c) (cs : List Char) :
    (cs ++ rest).takeWhile p = cs.takeWhile p ∧ (cs ++ rest).dropWhile p = cs.dropWhile p ++ rest := by
  induction cs with
  | nil =>
    cases rest with
    | nil => simp
    | cons d rest =>
      have hd : p d = false := by simpa using hr
      simp [hd]
  | cons c cs ih =>
    by_cases hc : p c = true
    · simp [hc, ih]
    · simp [hc]

/-- A lexeme that begins with no separator stays the same where a piece may end. -/
theorem splitLexeme_append_of_endsPiece {c : Char} (hc : Text.isSeparator c = false)
    (cs : List Char) {rest : List Char} (hr : Text.endsPiece rest = true) :
    splitLexeme c (cs ++ rest) =
      ((splitLexeme c cs).1, (splitLexeme c cs).2.1, (splitLexeme c cs).2.2 ++ rest) := by
  have hstarts : c ∉ symbolStarts := by
    intro hmem
    have hall : symbolStarts.all Text.isSeparator = true := by decide +kernel
    rw [List.all_eq_true.1 hall c hmem] at hc
    cases hc
  have hquote : ¬ (decide (c = '\'') || decide (c = '"')) = true := by
    simp only [Bool.or_eq_true, decide_eq_true_eq]
    rintro (rfl | rfl) <;> exact absurd hc (by decide +kernel)
  have hword := Text.endsWord_of_endsPiece hr
  have hdigit : rest.head?.all fun d => !d.isDigit := by
    cases rest with
    | nil => rfl
    | cons d rest =>
      simp only [Text.endsWord, List.head?_cons, Option.all_some, Bool.not_eq_true'] at hword ⊢
      by_contra hd
      rw [Text.isWordPart_of_isDigit (by simpa using hd)] at hword
      cases hword
  rw [splitLexeme_of_not_mem hstarts, splitLexeme_of_not_mem hstarts, if_neg hquote, if_neg hquote,
    (takeWhile_append_of_head? hdigit cs).1, (takeWhile_append_of_head? hdigit cs).2,
    (takeWhile_append_of_head? hword cs).1, (takeWhile_append_of_head? hword cs).2]
  split
  · rfl
  · split <;> dsimp only

theorem raw_subset {cs : List Char} {l : Lexeme} (h : l ∈ (ofText cs).1) : l.raw ⊆ cs := by
  intro c hc
  rw [← textOf_ofText cs, textOf]
  exact List.mem_append_left _ (List.mem_flatMap.2 ⟨l, h, List.mem_append_right _ hc⟩)

end Lexeme

/-- A text without separators becomes its own tokens wherever it stands. -/
theorem lexesTo_tokensOf {cs : List Char} (h : ∀ c ∈ cs, Text.isSeparator c = false) :
    LexesTo cs (tokensOf cs) := by
  intro rest hr
  match hcs : cs with
  | [] => simp
  | c :: ds =>
    have hc := h c (by simp)
    have hblank : Text.isBlank c = false := by
      simp only [Text.isSeparator, Text.separatorRuns, Text.CharSet.contains, List.any_append,
        Bool.or_eq_false_iff] at hc
      exact hc.1
    have hdash : c ≠ '-' := by rintro rfl; exact absurd hc (by decide +kernel)
    have hslash : c ≠ '/' := by rintro rfl; exact absurd hc (by decide +kernel)
    have hsplit := Lexeme.splitLexeme_append c ds
    have hlength := Lexeme.splitLexeme_length c ds
    have hrest : ∀ d ∈ (Lexeme.splitLexeme c ds).2.2, Text.isSeparator d = false := by
      intro d hd
      exact h d (hsplit ▸ List.mem_append_right _ hd)
    rw [List.cons_append, tokensOf_of_solid hblank hdash hslash,
      Lexeme.splitLexeme_append_of_endsPiece hc ds hr, tokensOf_of_solid hblank hdash hslash,
      lexesTo_tokensOf hrest rest hr, List.cons_append]
termination_by cs.length
decreasing_by
  subst hcs
  simpa using hlength

/-- Every placeholder has a number of its own, and every word that may name a column is a bare one. -/
structure Tidy (ts : List Token) : Prop where
  numbered : allNumbered ts = true
  words : ∀ t ∈ ts, t.isColumnWord = true → isBareColumn t.literal = true

namespace Tidy

variable {ts us : List Token}

theorem nil : Tidy [] := ⟨rfl, by simp⟩

theorem append (h : Tidy ts) (hu : Tidy us) : Tidy (ts ++ us) := by
  obtain ⟨hnumbered, hwords⟩ := h
  refine ⟨?_, by simpa [or_imp, forall_and] using ⟨hwords, hu.words⟩⟩
  clear hwords
  induction ts with
  | nil => exact hu.numbered
  | cons t ts ih =>
    simp only [allNumbered, Bool.and_eq_true] at hnumbered
    simp only [List.cons_append, allNumbered, Bool.and_eq_true]
    refine ⟨?_, ih hnumbered.2⟩
    cases ts with
    | nil => simp_all
    | cons u ts => exact hnumbered.1

theorem singleton {t : Token} (hk : t.kind ≠ .dollar)
    (hw : t.isColumnWord = true → isBareColumn t.literal = true) : Tidy [t] :=
  ⟨by simp [allNumbered, hk], by simpa using hw⟩

theorem cons {t : Token} (ht : (t.kind != .dollar && !t.isColumnWord) = true) (h : Tidy ts) :
    Tidy (t :: ts) := by
  simp only [Bool.and_eq_true, bne_iff_ne, Bool.not_eq_true'] at ht
  exact (singleton ht.1 (by simp [ht.2])).append h

theorem flatMap {α : Type} {f : α → List Token} {xs : List α} (h : ∀ x ∈ xs, Tidy (f x)) :
    Tidy (xs.flatMap f) := by
  induction xs with
  | nil => exact nil
  | cons x xs ih => exact (h x (by simp)).append (ih fun y hy => h y (by simp [hy]))

theorem intercalate {α : Type} {f : α → List Token} {xs : List α} (h : ∀ x ∈ xs, Tidy (f x)) :
    Tidy ([commaToken].intercalate (xs.map f)) := by
  induction xs with
  | nil => exact nil
  | cons x xs ih =>
    have hx := h x (by simp)
    have hxs := ih fun y hy => h y (by simp [hy])
    cases xs with
    | nil => simpa using hx
    | cons y ys =>
      rw [List.map_cons, List.map_cons, List.intercalate_cons_cons, ← List.map_cons]
      exact (hx.append (nil.cons rfl)).append hxs

end Tidy

theorem allNumbered_of_forall {ts : List Token} (h : ∀ t ∈ ts, t.kind ≠ .dollar) :
    allNumbered ts = true := by
  induction ts with
  | nil => rfl
  | cons t ts ih =>
    have ht := h t (by simp)
    simp [allNumbered, ht, ih fun u hu => h u (by simp [hu])]

theorem tidy_tokensOf {cs : List Char} (h : Text.isFolded cs = true) : Tidy (tokensOf cs) := by
  refine ⟨allNumbered_of_forall ?_, ?_⟩
  · intro t ht hk
    obtain ⟨l, hl, rfl⟩ := List.mem_map.1 ht
    have hdollar : ('$', l.kind) ∈ symbols := by
      rw [show l.kind = .dollar from hk]
      decide
    have hraw := (Lexeme.isLexeme_of_mem hl).raw_of_mem_symbols hdollar
    have hmem : '$' ∈ cs := Lexeme.raw_subset hl (by simp [hraw])
    exact absurd (Text.isFolded_iff.1 h _ hmem).1 (by decide +kernel)
  · intro t ht hw
    obtain ⟨l, hl, rfl⟩ := List.mem_map.1 ht
    obtain ⟨hword, htoken⟩ := Lexeme.isWord_of_isColumnWord hl hw
    rw [htoken, isColumnWord_wordToken, Bool.not_eq_true'] at hw
    rw [htoken, literal_wordToken]
    have hfolded := Text.isFolded_iff.1 (Text.isFolded_of_subset h (Lexeme.raw_subset hl))
    exact isBareColumn_of_isSettled hword (fun c hc => (hfolded c hc).2) hw

section Statement

variable {m : Naming}

theorem tidy_keywordToken {k : Keyword} (h : k.isQueryReserved = true) {ts : List Token}
    (hts : Tidy ts) : Tidy (keywordToken k :: ts) :=
  hts.cons (by simp [keywordToken, Token.isColumnWord, h])

theorem tidy_value (v : BindValue) : Tidy v.tokens := by
  match v with
  | .param _ => exact ⟨rfl, by simp [BindValue.tokens, symbolToken, numberToken, Token.isColumnWord]⟩
  | .literal (.string _) => exact Tidy.nil.cons rfl
  | .literal (.integer _) => exact Tidy.nil.cons rfl
  | .literal (.boolean true) => exact tidy_keywordToken rfl .nil
  | .literal (.boolean false) => exact tidy_keywordToken rfl .nil
  | .literal .null => exact tidy_keywordToken rfl .nil

theorem tidy_condition {c : Condition} (h : Tidy (m.column c.column)) : Tidy (c.tokens m) := by
  have hcomparison : Tidy (c.comparison.token :: c.bind.value.tokens) := by
    refine (tidy_value _).cons ?_
    cases c.comparison <;> rfl
  exact h.append hcomparison

theorem tidy_chained {cs : List Condition} (h : ∀ c ∈ cs, Tidy (m.column c.column)) :
    Tidy (chainedTokens m cs) := by
  refine Tidy.flatMap fun c hc => ?_
  have hcond := tidy_condition (h c hc)
  cases c.chain? with
  | none => exact hcond
  | some k => cases k <;> exact tidy_keywordToken rfl hcond

theorem tidy_where {cs : List Condition} (h : ∀ c ∈ cs, Tidy (m.column c.column)) :
    Tidy (whereTokens m cs) := by
  cases cs with
  | nil => exact .nil
  | cons c cs =>
    exact tidy_keywordToken rfl ((tidy_condition (h c (by simp))).append
      (tidy_chained fun d hd => h d (by simp [hd])))

theorem tidy_bound {k : Keyword} (h : k.isQueryReserved = true) (bound? : Option Nat) :
    Tidy (boundTokens k bound?) := by
  cases bound? with
  | none => exact .nil
  | some n => exact tidy_keywordToken h (Tidy.nil.cons rfl)

theorem Select.tidy_tokens {s : Select} (hcolumns : ∀ c ∈ s.columns, Tidy (m.column c))
    (htable : Tidy (m.table s.table)) (hconditions : ∀ c ∈ s.conditions, Tidy (m.column c.column)) :
    Tidy (s.tokens m) := by
  have hdistinct : Tidy (if s.distinct then [keywordToken .distinct] else []) := by
    split
    · exact tidy_keywordToken rfl .nil
    · exact .nil
  have hclauses := ((tidy_where hconditions).append (tidy_bound (k := .limit) rfl s.limit?)).append
    (tidy_bound (k := .offset) rfl s.offset?)
  exact (hdistinct.append (.intercalate hcolumns)).append
    (tidy_keywordToken rfl (htable.append hclauses))

theorem tidy_tuple (binds : List Bind) : Tidy (tupleTokens binds) :=
  ((Tidy.intercalate fun b _ => tidy_value b.value).append (Tidy.nil.cons rfl)).cons rfl

theorem tidy_conflict (conflict? : Option ConflictAction) : Tidy (conflictTokens conflict?) := by
  cases conflict? with
  | none => exact .nil
  | some action =>
    have hword : Tidy [wordToken action.text] := by
      cases action <;> exact Tidy.singleton (by decide) (by decide)
    exact tidy_keywordToken rfl hword

theorem tidy_returning {names : List String} (h : ∀ c ∈ names, Tidy (m.column c)) :
    Tidy (returningTokens m names) := by
  unfold returningTokens
  split
  · exact .nil
  · exact tidy_keywordToken rfl (.intercalate h)

theorem Insert.tidy_tokens {i : Insert} (htable : Tidy (m.table i.table))
    (hcolumns : ∀ c ∈ i.columns, Tidy (m.column c))
    (hreturning : ∀ c ∈ i.returning, Tidy (m.column c)) : Tidy (i.tokens m) := by
  have htuples : Tidy ([commaToken].intercalate ((tuplesOf i.columns.length i.values).map tupleTokens)) :=
    .intercalate fun t _ => tidy_tuple t
  have hvalues := tidy_keywordToken (k := .values) rfl (htuples.append (tidy_returning hreturning))
  have hlist : Tidy (itemsTokens m i.columns) := .intercalate hcolumns
  exact (tidy_conflict i.conflict?).append
    (tidy_keywordToken rfl (htable.append ((hlist.append (hvalues.cons rfl)).cons rfl)))

end Statement

/-- Columns that are folded where they are written. -/
def isFoldedColumn (name : String) : Bool := Text.isFolded (Text.lower name).toList

def isFoldedItem (name : String) : Bool := name == "*" || isFoldedColumn name

/-- Whatever tokens a name becomes. -/
def Naming.written : Naming :=
  ⟨fun name => tokensOf (Text.lower name).toList, fun name => tokensOf name.toList⟩

theorem Naming.written_star : Naming.written.column "*" = [symbolToken .star '*'] := by
  have hstar : ('*', TokenKind.star) ∈ symbols := by decide
  have htokens := tokensOf_symbol hstar []
  rwa [tokensOf_nil] at htokens

theorem lexesTo_written {name : String} (h : isFoldedItem name = true) :
    LexesTo (Text.lower name).toList (Naming.written.column name) := by
  by_cases hstar : name = "*"
  · subst hstar
    have hsymbol : ('*', TokenKind.star) ∈ symbols := by decide
    rw [Naming.written_star, lower_star]
    exact lexesTo_symbol hsymbol
  · have hfolded : isFoldedColumn name = true := by simpa [isFoldedItem, hstar] using h
    exact lexesTo_tokensOf fun c hc => (Text.isFolded_iff.1 hfolded c hc).1

theorem tidy_written {name : String} (h : isFoldedItem name = true) :
    Tidy (Naming.written.column name) := by
  by_cases hstar : name = "*"
  · subst hstar
    rw [Naming.written_star]
    exact Tidy.nil.cons rfl
  · have hfolded : isFoldedColumn name = true := by simpa [isFoldedItem, hstar] using h
    exact tidy_tokensOf hfolded

/-- All columns are folded where they are written, and the select list is not empty. -/
structure Select.Folded (s : Select) : Prop where
  columns_ne : s.columns ≠ []
  columns : ∀ c ∈ s.columns, isFoldedItem c = true
  conditions : ∀ c ∈ s.conditions, isFoldedColumn c.column = true

structure Insert.Folded (i : Insert) : Prop where
  columns : ∀ c ∈ i.columns, isFoldedColumn c = true
  returning : ∀ c ∈ i.returning, isFoldedItem c = true

def Statement.Folded : Statement → Prop
  | select s => s.Folded
  | insert i => i.Folded

theorem isFoldedItem_of_isFoldedColumn {name : String} (h : isFoldedColumn name = true) :
    isFoldedItem name = true := by
  simp [isFoldedItem, h]

/-- A statement with folded names is rendered as tidy tokens. -/
theorem Statement.tidy_render {s : Statement} (hs : s.Folded)
    (ht : Text.isFolded s.table.toList = true)
    (hv : ∀ b ∈ s.binds, b.value.isUnsigned = true) : Tidy (tokensOf s.render.toList) := by
  have hsemicolon : Tidy [semicolonToken] := Tidy.nil.cons rfl
  have htable : LexesTo s.table.toList (Naming.written.table s.table) :=
    lexesTo_tokensOf fun c hc => (Text.isFolded_iff.1 ht c hc).1
  cases s with
  | select s =>
    obtain ⟨hne, hcolumns, hconditions⟩ := hs
    have hitem (c : Condition) (hc : c ∈ s.conditions) : isFoldedItem c.column = true :=
      isFoldedItem_of_isFoldedColumn (hconditions c hc)
    have hnamed : s.NamedBy .written :=
      ⟨fun c hc => lexesTo_written (hcolumns c hc), htable,
        fun c hc => lexesTo_written (hitem c hc)⟩
    rw [Statement.render, Select.tokensOf_render hne hnamed
      fun c hc => hv c.bind (List.mem_map_of_mem hc)]
    refine tidy_keywordToken rfl (Tidy.append ?_ hsemicolon)
    exact Select.tidy_tokens (fun c hc => tidy_written (hcolumns c hc)) (tidy_tokensOf ht)
      fun c hc => tidy_written (hitem c hc)
  | insert i =>
    obtain ⟨hcolumns, hreturning⟩ := hs
    have hitem (c : String) (hc : c ∈ i.columns) : isFoldedItem c = true :=
      isFoldedItem_of_isFoldedColumn (hcolumns c hc)
    have hnamed : i.NamedBy .written :=
      ⟨htable, fun c hc => lexesTo_written (hitem c hc),
        fun c hc => lexesTo_written (hreturning c hc)⟩
    rw [Statement.render, Insert.tokensOf_render hnamed hv]
    refine tidy_keywordToken rfl (Tidy.append ?_ hsemicolon)
    exact Insert.tidy_tokens (tidy_tokensOf ht) (fun c hc => tidy_written (hitem c hc))
      fun c hc => tidy_written (hreturning c hc)

section Tokens

variable {cs : List Char} {t : Token} {name : String}

/-- A column that was read is folded where it is written. -/
theorem isFoldedColumn_of_column? (ht : t ∈ tokensOf cs) (h : Query.column? t = some name) :
    isFoldedColumn name = true := by
  obtain ⟨l, hl, rfl⟩ := List.mem_map.1 ht
  unfold Query.column? at h
  split at h
  · rename_i hw
    obtain ⟨hword, htoken⟩ := Lexeme.isWord_of_isColumnWord hl hw
    rw [htoken, literal_wordToken, Option.some.injEq] at h
    rw [← h]
    exact Text.isFolded_lower_upper hword
  · cases h

theorem item?_cases (ht : t ∈ tokensOf cs) (h : Query.item? t = some name) :
    name = "*" ∨ Query.column? t = some name := by
  unfold Query.item? at h
  unfold Query.column?
  by_cases hw : t.isColumnWord = true
  · simp only [hw, Bool.or_true, ↓reduceIte] at h
    exact Or.inr (by rw [if_pos hw, h])
  · simp only [hw, Bool.or_false, decide_eq_true_eq] at h
    split at h
    · rename_i hk
      obtain ⟨l, hl, rfl⟩ := List.mem_map.1 ht
      have hstar : ('*', l.kind) ∈ symbols := by
        rw [show l.kind = .star from hk]
        decide
      have hraw := (Lexeme.isLexeme_of_mem hl).raw_of_mem_symbols hstar
      have hliteral : l.literal = "*" := by
        rw [Lexeme.literal, show l.kind = .star from hk, hraw]
      exact Or.inl ((Option.some.inj h).symm.trans hliteral)
    · cases h

theorem isFoldedItem_of_item? (ht : t ∈ tokensOf cs) (h : Query.item? t = some name) :
    isFoldedItem name = true := by
  rcases item?_cases ht h with rfl | h
  · rfl
  · exact isFoldedItem_of_isFoldedColumn (isFoldedColumn_of_column? ht h)

theorem Tidy.isBareColumn {ts : List Token} (hts : Tidy ts) (ht : t ∈ ts)
    (h : Query.column? t = some name) : isBareColumn name = true := by
  unfold Query.column? at h
  split at h
  · rename_i hw
    cases h
    exact hts.words t ht hw
  · cases h

theorem Tidy.isBareItem (hcs : Tidy (tokensOf cs)) (ht : t ∈ tokensOf cs)
    (h : Query.item? t = some name) : isBareItem name = true := by
  rcases item?_cases ht h with rfl | h
  · rfl
  · simp [TypedQueries.isBareItem, hcs.isBareColumn ht h]

theorem isBareTable_lower (h : isBareColumn name = true) : isBareTable (Text.lower name) = true := by
  obtain ⟨hword, hupper, hreserved⟩ := isBareColumn_iff.1 h
  exact isBareTable_iff.2 ⟨hword, by rw [hupper], by rwa [hupper]⟩

end Tokens

end TypedQueries
