import TypedQueries.Proofs.InsertGrammar
import TypedQueries.Proofs.Provenance

/-!
A statement ends at its semicolon. If the last token of an accepted text is a semicolon, then the
tokens of the text stay what they are when other text is put behind it, whatever this is, and of all
tokens that come with it none is read.
-/

namespace TypedQueries

namespace Lexeme

/-- Nothing that stands behind a semicolon changes how it is cut off. -/
theorem ofText_semicolon {gap : List Char} (hgap : IsTrivia gap) (rest : List Char) :
    ofText (gap ++ ';' :: rest) =
      (⟨gap, .semicolon, [';']⟩ :: (ofText rest).1, (ofText rest).2) := by
  have hsolid : Solid (';' :: rest) := solid_cons_iff.2 ⟨by decide, by simp, by simp⟩
  exact ofText_of_eq (splitGap_of_isTrivia hgap hsolid)

/-- The lexemes of a text that ends with a semicolon are the first ones of every longer text. -/
theorem exists_ofText_append {cs last : List Char} {ls : List Lexeme} {l : Lexeme}
    (h : ofText cs = (ls ++ [l], last)) (hl : l.kind = .semicolon) (more : List Char) :
    ∃ ms rest, ofText (cs ++ more) = (ls ++ l :: ms, rest) := by
  induction ls generalizing cs with
  | nil =>
    obtain ⟨c, tail, -, -, -, hgap, -⟩ := exists_raw_of_ofText_eq_cons h
    have hmem : l ∈ (ofText cs).1 := by rw [h]; exact List.mem_cons_self
    have hsymbol : (';', l.kind) ∈ symbols := by rw [hl]; decide
    have hraw : l.raw = [';'] := (isLexeme_of_mem hmem).raw_of_mem_symbols hsymbol
    have heq : l = ⟨l.gap, .semicolon, [';']⟩ := by rw [← hl, ← hraw]
    have htext : cs ++ more = l.gap ++ ';' :: (last ++ more) := by
      rw [← textOf_of_ofText_eq h, List.nil_append, textOf_cons, hraw]
      simp [textOf]
    rw [htext, ofText_semicolon hgap, ← heq]
    exact ⟨_, _, rfl⟩
  | cons m ls ih =>
    rw [List.cons_append] at h
    obtain ⟨c, tail, -, -, -, hgap, hrest⟩ := exists_raw_of_ofText_eq_cons h
    obtain ⟨ms, rest, hmore⟩ := ih hrest
    -- what follows `m` begins as before, since at least the semicolon is there
    have hends : EndsAlike (textOf (ls ++ [l]) last) (textOf (ls ++ [l]) last ++ more) := by
      refine Or.inl (List.head?_append_of_ne_nil _ ?_)
      intro hnil
      rw [hnil, ofText_of_eq_nil (show splitGap [] = ([], []) by rw [splitGap])] at hrest
      cases ls <;> cases hrest
    have htext : cs ++ more = m.gap ++ (m.raw ++ (textOf (ls ++ [l]) last ++ more)) := by
      rw [← textOf_of_ofText_eq h, textOf_cons]
      simp
    rw [htext, ofText_append_of_next h hgap hends, hmore]
    exact ⟨_, _, rfl⟩

end Lexeme

/-- The last token of the text, in front of the end of input, is a semicolon. -/
def EndsWithSemicolon (source : String) : Prop :=
  (sourceTokens source).getLast?.map Token.kind = some .semicolon

theorem exists_tokensOf_append {source : String} (h : EndsWithSemicolon source) (more : String) :
    ∃ front semicolon rest, semicolon.kind = .semicolon ∧
      tokensOf source.toList = front ++ [semicolon] ∧
      tokensOf (source ++ more).toList = front ++ semicolon :: rest := by
  obtain ⟨t, ht, hkind⟩ := Option.map_eq_some_iff.1 h
  obtain ⟨ts, hts⟩ := List.getLast?_eq_some_iff.1 ht
  have hmap :
      (Lexeme.ofText source.toList).1.map Lexeme.token = (ts ++ [t]).map Token.unplaced := by
    rw [← hts, sourceTokens, unplaced_tokensFrom]
  obtain ⟨ls, ms, hlexemes, -, hms⟩ := List.map_eq_append_iff.1 (hmap.trans List.map_append)
  obtain ⟨l, rfl, hl⟩ := List.map_eq_singleton_iff.1 hms
  have hl : l.kind = .semicolon := (congrArg Token.kind hl).trans hkind
  obtain ⟨more', rest, happend⟩ :=
    Lexeme.exists_ofText_append (Prod.ext hlexemes rfl) hl more.toList
  refine ⟨ls.map Lexeme.token, l.token, more'.map Lexeme.token, hl, ?_, ?_⟩
  · rw [tokensOf, hlexemes, List.map_append, List.map_singleton]
  · rw [tokensOf, String.toList_append, happend, List.map_append, List.map_cons]

namespace Cursor

/-- The tokens of the first cursor end with a semicolon, behind which the second has more. -/
inductive ExtendedTo : Cursor → Cursor → Prop
  | mk {front rest : List Token} {semicolon : Token} {n : Nat} (h : semicolon.kind = .semicolon) :
      ExtendedTo ⟨front ++ [semicolon], n⟩ ⟨front ++ semicolon :: rest, n⟩

namespace ExtendedTo

variable {c d : Cursor}

theorem current_eq (h : c.ExtendedTo d) : d.current = c.current := by
  obtain @⟨front, rest, semicolon, n, -⟩ := h
  cases front <;> rfl

theorem kind_eq (h : c.ExtendedTo d) : d.kind = c.kind := congrArg Token.kind h.current_eq

theorem advance (h : c.ExtendedTo d) (hk : c.kind ≠ .semicolon) :
    c.advance.ExtendedTo d.advance := by
  obtain @⟨front, rest, semicolon, n, hsemicolon⟩ := h
  cases front with
  | nil => exact absurd hsemicolon hk
  | cons t front => exact .mk hsemicolon

theorem next_eq (h : c.ExtendedTo d) (hk : c.kind ≠ .semicolon) : d.next = c.next :=
  (h.advance hk).current_eq

theorem eat (h : c.ExtendedTo d) {kind : TokenKind} (hk : kind ≠ .semicolon) :
    (d.eat kind).1 = (c.eat kind).1 ∧ (c.eat kind).2.ExtendedTo (d.eat kind).2 := by
  unfold Cursor.eat
  rw [h.kind_eq]
  split
  · rename_i hc
    exact ⟨rfl, h.advance (hc ▸ hk)⟩
  · exact ⟨rfl, h⟩

theorem expect (h : c.ExtendedTo d) {kind : TokenKind} {expected : String} {c' : Cursor}
    (hk : kind ≠ .semicolon) (hc : c.expect kind expected = .ok c') :
    ∃ d', d.expect kind expected = .ok d' ∧ c'.ExtendedTo d' := by
  unfold Cursor.expect at hc ⊢
  rw [h.kind_eq]
  split at hc
  · rename_i hkind
    cases hc
    exact ⟨_, if_pos hkind, h.advance (hkind ▸ hk)⟩
  · cases hc

theorem expectUnsigned (h : c.ExtendedTo d) {expected : String} {n : Nat} {c' : Cursor}
    (hc : c.expectUnsigned expected = .ok (n, c')) :
    ∃ d', d.expectUnsigned expected = .ok (n, d') ∧ c'.ExtendedTo d' := by
  unfold Cursor.expectUnsigned at hc ⊢
  rw [h.kind_eq, h.current_eq]
  split at hc
  · rename_i hkind
    dsimp only at hc
    split at hc
    · rename_i hbound
      cases hc
      exact ⟨_, by rw [if_pos hkind]; exact if_pos hbound, h.advance (by simp [hkind])⟩
    · cases hc
  · cases hc

theorem takeSome (h : c.ExtendedTo d) {α : Type} {f : Token → Option α}
    (hf : ∀ t : Token, t.kind = .semicolon → f t = none) :
    (d.takeSome f).1 = (c.takeSome f).1 ∧ (c.takeSome f).2.ExtendedTo (d.takeSome f).2 := by
  unfold Cursor.takeSome
  rw [h.current_eq]
  cases ha : f c.current with
  | none => exact ⟨rfl, h⟩
  | some a =>
    refine ⟨rfl, h.advance fun hk => ?_⟩
    rw [hf c.current hk] at ha
    cases ha

end ExtendedTo

end Cursor

namespace Query

open Cursor

variable {c c' d : Cursor} {bare bare' : Nat}

/-! What a step takes it takes from the extended tokens too. -/

theorem takeTable_extended (h : c.ExtendedTo d) {table : String}
    (hc : takeTable c = .ok (table, c')) :
    ∃ d', takeTable d = .ok (table, d') ∧ c'.ExtendedTo d' := by
  obtain ⟨t, ht, rfl⟩ := exists_of_takeTable hc
  have hkind : (Cursor.mk (t :: c'.tokens) c'.length).kind ≠ .semicolon := ht.kind_ne.2
  refine ⟨d.advance, ?_, h.advance hkind⟩
  rw [takeTable, h.current_eq, current_cons, table?_eq_some_iff.2 ht]

theorem takeParts_extended (h : c.ExtendedTo d) :
    (takeParts d).1 = (takeParts c).1 ∧ (takeParts c).2.ExtendedTo (takeParts d).2 := by
  have hconnective : ∀ t : Token, t.kind = .semicolon → connective? t = none := fun t ht => by
    simp [connective?, ht]
  have hcolumn : ∀ t : Token, t.kind = .semicolon → column? t = none := fun t ht => by
    simp [column?, Token.isColumnWord, ht]
  have hcomparison : ∀ t : Token, t.kind = .semicolon → comparison? t = none := fun t ht => by
    simp [comparison?, ht]
  obtain ⟨heq₁, h₁⟩ := h.takeSome hconnective
  obtain ⟨heq₂, h₂⟩ := h₁.takeSome hcolumn
  obtain ⟨heq₃, h₃⟩ := h₂.takeSome hcomparison
  exact ⟨by simp only [takeParts, heq₁, heq₂, heq₃], h₃⟩

/-- A bare placeholder stays bare, since at least the semicolon follows it. -/
theorem takePosition_extended (h : c.ExtendedTo d) (hk : c.kind = .dollar) {position : Nat}
    (hc : takePosition bare c = .ok (position, bare', c')) :
    ∃ d', takePosition bare d = .ok (position, bare', d') ∧ c'.ExtendedTo d' := by
  have hadvance := h.advance (by simp [hk])
  unfold takePosition at hc ⊢
  rw [h.next_eq (by simp [hk])]
  split at hc
  · rename_i hinteger
    dsimp only at hc
    split at hc
    · cases hc
    · rename_i hzero
      split at hc
      · rename_i hbound
        cases hc
        refine ⟨_, by simp only [hinteger, hzero, hbound, ↓reduceIte], hadvance.advance ?_⟩
        intro hsemicolon
        exact absurd (hinteger.symm.trans hsemicolon) (by simp)
      · cases hc
  · rename_i hinteger
    cases hc
    exact ⟨_, if_neg hinteger, hadvance⟩

theorem takeOperand_extended (h : c.ExtendedTo d) {value : BindValue}
    (hc : takeOperand bare c = .ok (some (value, bare', c'))) :
    ∃ d', takeOperand bare d = .ok (some (value, bare', d')) ∧ c'.ExtendedTo d' := by
  unfold takeOperand at hc ⊢
  rw [h.kind_eq, h.current_eq]
  split at hc
  · rename_i hk
    obtain ⟨⟨position, bare₁, c₁⟩, hposition, hc⟩ := bind_eq_ok.1 hc
    cases hc
    obtain ⟨d', hd, hextended⟩ := takePosition_extended h hk hposition
    exact ⟨d', bind_eq_ok.2 ⟨_, hd, rfl⟩, hextended⟩
  · rename_i hk
    cases hc
    exact ⟨_, rfl, h.advance (by simp [hk])⟩
  · rename_i hk
    obtain ⟨⟨n, c₁⟩, hinteger, hc⟩ := bind_eq_ok.1 hc
    cases hc
    unfold takeInteger at hinteger
    dsimp only at hinteger
    split at hinteger
    · rename_i hbound
      cases hinteger
      have hd : takeInteger d = .ok (digitsValue c.current.literal, d.advance) := by
        rw [takeInteger, h.current_eq]
        exact if_pos hbound
      exact ⟨_, bind_eq_ok.2 ⟨_, hd, rfl⟩, h.advance (by simp [hk])⟩
    · cases hinteger
  · cases hc

theorem takeOperand_extended_none (h : c.ExtendedTo d) (hc : takeOperand bare c = .ok none) :
    takeOperand bare d = .ok none := by
  unfold takeOperand at hc ⊢
  rw [h.kind_eq]
  split at hc
  · obtain ⟨_, -, hc⟩ := bind_eq_ok.1 hc
    cases hc
  · cases hc
  · obtain ⟨_, -, hc⟩ := bind_eq_ok.1 hc
    cases hc
  · rfl

theorem takeCondition_extended (h : c.ExtendedTo d) {made : Option Condition}
    (hc : takeCondition bare c = .ok (made, bare', c')) :
    ∃ d', takeCondition bare d = .ok (made, bare', d') ∧ c'.ExtendedTo d' := by
  obtain ⟨hparts, hextended⟩ := takeParts_extended h
  rw [takeCondition_eq] at hc ⊢
  rw [hparts, hextended.kind_eq]
  split at hc
  · cases hc
  · rename_i hoperand
    cases hc
    obtain ⟨d', hd, hextended⟩ := takeOperand_extended hextended hoperand
    exact ⟨d', by rw [hd], hextended⟩
  · rename_i hoperand
    cases hc
    rw [takeOperand_extended_none hextended hoperand]
    by_cases hend : endsWhere (takeParts c).2.kind = true
    · simp only [hend, ↓reduceIte]
      exact ⟨_, rfl, hextended⟩
    · simp only [hend, Bool.false_eq_true, ↓reduceIte]
      refine ⟨_, rfl, hextended.advance fun hk => ?_⟩
      rw [hk] at hend
      exact hend rfl

theorem takeConditions_extended (h : c.ExtendedTo d) {conditions : List Condition}
    (hc : takeConditions bare c = .ok (conditions, c')) :
    ∃ d', takeConditions bare d = .ok (conditions, d') ∧ c'.ExtendedTo d' := by
  fun_induction takeConditions bare c generalizing d conditions with
  | case1 bare c hend =>
    cases hc
    exact ⟨d, takeConditions_of_endsWhere (by rwa [h.kind_eq]) bare, h⟩
  | case2 => cases hc
  | case3 bare c hend made bare₁ c₁ hmade ih =>
    obtain ⟨⟨more, c₂⟩, hmore, hc⟩ := bind_eq_ok.1 hc
    cases hc
    obtain ⟨d₁, hd₁, h₁⟩ := takeCondition_extended h hmade
    obtain ⟨d₂, hd₂, h₂⟩ := ih h₁ hmore
    have hgo : endsWhere d.kind = false := by simpa [h.kind_eq] using hend
    refine ⟨d₂, ?_, h₂⟩
    rw [takeConditions_of_ok hgo hd₁, hd₂]
    rfl

theorem takeWhere_extended (h : c.ExtendedTo d) {conditions : List Condition}
    (hc : takeWhere c = .ok (conditions, c')) :
    ∃ d', takeWhere d = .ok (conditions, d') ∧ c'.ExtendedTo d' := by
  unfold takeWhere at hc ⊢
  rw [h.kind_eq]
  split at hc
  · rename_i hk
    rw [if_pos hk]
    exact takeConditions_extended (h.advance (by simp [hk])) hc
  · rename_i hk
    cases hc
    exact ⟨d, if_neg hk, h⟩

theorem takeBound_extended (h : c.ExtendedTo d) {k : Keyword} {bound? : Option Nat}
    (hc : takeBound k c = .ok (bound?, c')) :
    ∃ d', takeBound k d = .ok (bound?, d') ∧ c'.ExtendedTo d' := by
  unfold takeBound at hc ⊢
  rw [h.kind_eq]
  split at hc
  · rename_i hk
    obtain ⟨⟨n, c₁⟩, hn, hc⟩ := bind_eq_ok.1 hc
    cases hc
    obtain ⟨d₁, hd₁, h₁⟩ := (h.advance (by simp [hk])).expectUnsigned hn
    rw [if_pos hk]
    exact ⟨d₁, bind_eq_ok.2 ⟨_, hd₁, rfl⟩, h₁⟩
  · rename_i hk
    cases hc
    exact ⟨d, if_neg hk, h⟩

/-- A select list runs across semicolons, but not across the last token if it ends at FROM. -/
theorem takeSelectList_extended (h : c.ExtendedTo d)
    (hfrom : (takeSelectList c).2.kind = .keyword .from) :
    (takeSelectList d).1 = (takeSelectList c).1 ∧
      (takeSelectList c).2.ExtendedTo (takeSelectList d).2 := by
  obtain @⟨front, rest, semicolon, n, hsemicolon⟩ := h
  have hlist : (semicolon.kind != .keyword .from) = true := by simp [hsemicolon]
  simp only [takeSelectList] at hfrom ⊢
  induction front with
  | nil =>
    have hnil : ([semicolon].dropWhile fun t => t.kind != .keyword .from) = [] := by simp [hlist]
    rw [List.nil_append, hnil] at hfrom
    cases hfrom
  | cons t front ih =>
    by_cases ht : (t.kind != .keyword .from) = true
    · simp only [List.cons_append, List.takeWhile_cons, List.dropWhile_cons, ht, ↓reduceIte]
        at hfrom ⊢
      obtain ⟨hcolumns, hextended⟩ := ih hfrom
      refine ⟨?_, hextended⟩
      rw [List.filterMap_cons, List.filterMap_cons, hcolumns]
    · simp only [List.cons_append, List.takeWhile_cons, List.dropWhile_cons, ht]
      rw [← List.cons_append, ← List.cons_append]
      exact ⟨rfl, .mk hsemicolon⟩

theorem takeSelect_extended (h : c.ExtendedTo d) {s : Select} (hc : takeSelect c = .ok (s, c')) :
    ∃ d', takeSelect d = .ok (s, d') ∧ c'.ExtendedTo d' := by
  obtain ⟨hdistinct, hcolumns, c₁, c₂, c₃, c₄, hc₁, hc₂, hc₃, hc₄, hc₅⟩ := takeSelect_eq_ok.1 hc
  have hne : TokenKind.keyword .distinct ≠ .semicolon := by simp
  obtain ⟨hword, h₀⟩ := h.eat hne
  have hfrom : (takeSelectList (c.eatKeyword .distinct).2).2.kind = .keyword .from := by
    obtain ⟨t, ht, heq⟩ := exists_of_expect hc₁ (by simp)
    rw [heq]
    exact ht
  obtain ⟨hlist, h₁⟩ := takeSelectList_extended h₀ hfrom
  obtain ⟨d₁, hd₁, h₁⟩ := h₁.expect (by simp) hc₁
  obtain ⟨d₂, hd₂, h₂⟩ := takeTable_extended h₁ hc₂
  obtain ⟨d₃, hd₃, h₃⟩ := takeWhere_extended h₂ hc₃
  obtain ⟨d₄, hd₄, h₄⟩ := takeBound_extended h₃ hc₄
  obtain ⟨d₅, hd₅, h₅⟩ := takeBound_extended h₄ hc₅
  refine ⟨d₅, takeSelect_eq_ok.2 ⟨?_, ?_, d₁, d₂, d₃, d₄, hd₁, hd₂, hd₃, hd₄, hd₅⟩, h₅⟩
  · exact hdistinct.trans hword.symm
  · exact hcolumns.trans hlist.symm

/-- An INSERT holds no semicolon, so that the one at the end stands behind it. -/
theorem takeInsert_extended (h : c.ExtendedTo d) {i : Insert}
    (hc : takeStatement c = .ok (.insert i, c'))
    (hend : c'.kind = .semicolon ∨ c'.kind = .endOfInput) :
    ∃ d', takeStatement d = .ok (.insert i, d') ∧ d'.kind = c'.kind := by
  obtain @⟨front, rest, semicolon, n, hsemicolon⟩ := h
  obtain ⟨ts, hts, heq⟩ := exists_of_takeStatement hc
  obtain ⟨us, m⟩ := c'
  obtain ⟨htokens, rfl⟩ := Cursor.mk.inj heq
  cases us with
  | nil =>
    have hmem : semicolon ∈ ts := by
      rw [List.append_nil] at htokens
      simp [← htokens]
    exact absurd hsemicolon (hts.kind_ne_semicolon semicolon hmem)
  | cons t us =>
    have hmore : front ++ semicolon :: rest = ts ++ t :: (us ++ rest) := by
      have hboth := congrArg (· ++ rest) htokens
      simpa using hboth
    rw [hmore]
    exact ⟨⟨t :: (us ++ rest), n⟩, takeStatement_of_isInsert hts hend, rfl⟩

/-- A statement is read from the extended tokens as it is read without what was put behind. -/
theorem parseTokens_extended (h : c.ExtendedTo d) {s : Statement} (hc : parseTokens c = .ok s) :
    parseTokens d = .ok s := by
  obtain ⟨⟨statement, c'⟩, htake, hc⟩ := bind_eq_ok.1 hc
  dsimp only at hc
  split at hc
  · rename_i hend
    cases hc
    suffices hd : ∃ d', takeStatement d = .ok (s, d') ∧ d'.kind = c'.kind by
      obtain ⟨d', hd, hkind⟩ := hd
      exact bind_eq_ok.2 ⟨_, hd, if_pos (by rwa [hkind])⟩
    cases s with
    | insert i => exact takeInsert_extended h htake hend
    | select s =>
      unfold takeStatement at htake ⊢
      rw [h.kind_eq]
      split at htake
      · rename_i hk
        obtain ⟨⟨s, c₁⟩, hselect, htake⟩ := bind_eq_ok.1 htake
        cases htake
        obtain ⟨d', hd, hextended⟩ := takeSelect_extended (h.advance (by simp [hk])) hselect
        exact ⟨d', bind_eq_ok.2 ⟨_, hd, rfl⟩, hextended.kind_eq⟩
      · obtain ⟨_, -, htake⟩ := bind_eq_ok.1 htake
        cases htake
      · cases htake
  · cases hc

end Query

/-- Nothing that is written behind the last semicolon of an accepted text changes its statement. -/
theorem parseQuery_append {source : String} {s : Statement} (hend : EndsWithSemicolon source)
    (h : parseQuery source = .ok s) (more : String) : parseQuery (source ++ more) = .ok s := by
  obtain ⟨front, semicolon, rest, hsemicolon, htokens, hmore⟩ := exists_tokensOf_append hend more
  rw [parseQuery_eq_ok_iff_tokensOf] at h ⊢
  rw [htokens] at h
  rw [hmore]
  exact Query.parseTokens_extended (.mk hsemicolon) h

/-- The list of the first text runs across a semicolon, and a comment stays open behind its last
one, in which a quote is opened that nothing closes. -/
theorem parseQuery_append_open :
    EndsWithSemicolon "SELECT a; b FROM t WHERE a = $; --" ∧
      parseQuery "SELECT a; b FROM t WHERE a = $; --" = .ok (.select ⟨false, ["A", "B"], "t",
        [⟨none, "A", .eq, ⟨"A", .param 1⟩⟩], none, none⟩) ∧
      parseQuery ("SELECT a; b FROM t WHERE a = $; --" ++ "it's\n1 AND b = # 'c; /*") =
        .ok (.select ⟨false, ["A", "B"], "t", [⟨none, "A", .eq, ⟨"A", .param 1⟩⟩], none, none⟩) := by
  have hend : EndsWithSemicolon "SELECT a; b FROM t WHERE a = $; --" := by
    unfold EndsWithSemicolon
    decide +kernel
  have h : parseQuery "SELECT a; b FROM t WHERE a = $; --" = .ok (.select ⟨false, ["A", "B"], "t",
      [⟨none, "A", .eq, ⟨"A", .param 1⟩⟩], none, none⟩) := by
    decide +kernel
  exact ⟨hend, h, parseQuery_append hend h _⟩

end TypedQueries
