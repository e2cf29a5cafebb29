import TypedQueries.Proofs.InsertTuples
import TypedQueries.Proofs.TokenSpans

/-!
The grammar accepts as INSERT statements exactly those of the language, and gives what they stand for.
-/

namespace TypedQueries

namespace Query

open Cursor

/-! What may be left out. -/

theorem exists_of_takeConflict {c d : Cursor} {action? : Option ConflictAction}
    (h : takeConflict c = .ok (action?, d)) :
    ∃ ts, IsConflict ts action? ∧ c = ⟨ts ++ d.tokens, d.length⟩ := by
  unfold takeConflict at h
  split at h
  · rename_i hk
    obtain ⟨t, ht, heq⟩ := exists_of_kind hk (by simp)
    dsimp only at h
    split at h
    · rename_i action haction
      cases h
      obtain ⟨hu, haction⟩ := Option.ite_none_right_eq_some.1 haction
      refine ⟨_, .some ht hu (ofText?_eq_some_iff.1 haction), ?_⟩
      rw [heq, eq_of_kind_ne (c := c.advance) (by simp [hu])]
      rfl
    · cases h
  · cases h
    exact ⟨[], .none, rfl⟩

theorem IsConflict.takeConflict {ts : List Token} {action? : Option ConflictAction}
    (h : IsConflict ts action?) {rest : List Token} {n : Nat}
    (hrest : (Cursor.mk rest n).kind ≠ .keyword .or) :
    takeConflict ⟨ts ++ rest, n⟩ = .ok (action?, ⟨rest, n⟩) := by
  cases h with
  | none => exact if_neg hrest
  | some ht hu haction => simp [Query.takeConflict, ht, hu, ofText?_eq_some_iff.2 haction]

theorem exists_of_takeReturning {c d : Cursor} {names : List String}
    (h : takeReturning c = .ok (names, d)) :
    ∃ ts, IsReturning ts names ∧ c = ⟨ts ++ d.tokens, d.length⟩ := by
  unfold takeReturning at h
  split at h
  · rename_i hk
    obtain ⟨t, ht, heq⟩ := exists_of_kind hk (by simp)
    obtain ⟨ts, hts, hadvance⟩ :=
      exists_of_commaSeparated item?_eq_some_iff (fun hitem => hitem.kind_ne.1) h
    refine ⟨t :: ts, .some ht hts, ?_⟩
    rw [heq, hadvance]
    rfl
  · cases h
    exact ⟨[], .none, rfl⟩

theorem IsReturning.takeReturning {ts : List Token} {names : List String}
    (h : IsReturning ts names) {rest : List Token} {n : Nat}
    (hcomma : (Cursor.mk rest n).kind ≠ .comma)
    (hreturning : (Cursor.mk rest n).kind ≠ .keyword .returning) :
    takeReturning ⟨ts ++ rest, n⟩ = .ok (names, ⟨rest, n⟩) := by
  cases h with
  | none => exact if_neg hreturning
  | some ht hts =>
    have hnames := commaSeparated_of_oneToken item?_eq_some_iff hts hcomma "column name"
    simp [Query.takeReturning, ht, hnames]

theorem IsReturning.kind_append_ne_comma {ts : List Token} {names : List String}
    (h : IsReturning ts names) {rest : List Token} {n : Nat}
    (hrest : (Cursor.mk rest n).kind ≠ .comma) : (Cursor.mk (ts ++ rest) n).kind ≠ .comma := by
  cases h with
  | none => exact hrest
  | some ht _ => simp [ht]

/-! The statement, and where it ends. -/

theorem exists_of_takeInsert {c d : Cursor} {i : Insert} (hk : c.kind = .keyword .insert)
    (h : takeInsert c.advance = .ok (i, d)) :
    ∃ ts, IsInsert ts i ∧ c = ⟨ts ++ d.tokens, d.length⟩ := by
  obtain ⟨⟨conflict?, c₁⟩, h₁, h⟩ := bind_eq_ok.1 h
  obtain ⟨c₂, h₂, h⟩ := bind_eq_ok.1 h
  obtain ⟨⟨table, c₃⟩, h₃, h⟩ := bind_eq_ok.1 h
  obtain ⟨c₄, h₄, h⟩ := bind_eq_ok.1 h
  obtain ⟨⟨columns, c₅⟩, h₅, h⟩ := bind_eq_ok.1 h
  obtain ⟨c₆, h₆, h⟩ := bind_eq_ok.1 h
  obtain ⟨c₇, h₇, h⟩ := bind_eq_ok.1 h
  obtain ⟨⟨values, c₈⟩, h₈, h⟩ := bind_eq_ok.1 h
  obtain ⟨⟨returning, c₉⟩, h₉, h⟩ := bind_eq_ok.1 h
  cases h
  obtain ⟨t, ht, heq⟩ := exists_of_kind hk (by simp)
  obtain ⟨ts, hconflict, hadvance⟩ := exists_of_takeConflict h₁
  obtain ⟨into, hinto, rfl⟩ := exists_of_expect h₂ (by simp)
  obtain ⟨table, htable, rfl⟩ := exists_of_takeTable h₃
  obtain ⟨left, hleft, rfl⟩ := exists_of_expect h₄ (by simp)
  obtain ⟨us, hcolumns, rfl⟩ :=
    exists_of_commaSeparated column?_eq_some_iff (fun hcolumn => hcolumn.1.kind_ne.1) h₅
  obtain ⟨right, hright, rfl⟩ := exists_of_expect h₆ (by simp)
  obtain ⟨word, hword, rfl⟩ := exists_of_expect h₇ (by simp)
  obtain ⟨vs, tuples, htuples, hvalues, rfl⟩ := exists_of_takeTuples h₈
  obtain ⟨ws, hreturning, rfl⟩ := exists_of_takeReturning h₉
  have hbinds := (areBinds_iff (forall_length_of_commaSeparated htuples)).2 hvalues
  refine ⟨_, .mk ht hconflict hinto htable hleft hcolumns hright hword htuples hbinds hreturning, ?_⟩
  rw [heq, hadvance]
  simp

theorem exists_of_takeStatement {c d : Cursor} {i : Insert}
    (h : takeStatement c = .ok (.insert i, d)) :
    ∃ ts, IsInsert ts i ∧ c = ⟨ts ++ d.tokens, d.length⟩ := by
  unfold takeStatement at h
  split at h <;> rename_i hk
  · obtain ⟨⟨select, c₁⟩, h₁, h⟩ := bind_eq_ok.1 h
    cases h
  · obtain ⟨⟨insert, c₁⟩, h₁, h⟩ := bind_eq_ok.1 h
    cases h
    exact exists_of_takeInsert hk h₁
  · cases h

theorem takeStatement_of_isInsert {ts : List Token} {i : Insert} (h : IsInsert ts i)
    {rest : List Token} {n : Nat}
    (hrest : (Cursor.mk rest n).kind = .semicolon ∨ (Cursor.mk rest n).kind = .endOfInput) :
    takeStatement ⟨ts ++ rest, n⟩ = .ok (.insert i, ⟨rest, n⟩) := by
  obtain @⟨insert, into, table, left, right, values, ts, us, vs, ws, i, tuples, hinsert, hconflict,
    hinto, htable, hleft, hcolumns, hright, hvalues, htuples, hbinds, hreturning⟩ := h
  have hcomma : (Cursor.mk rest n).kind ≠ .comma := by rcases hrest with h | h <;> simp [h]
  have hword : (Cursor.mk rest n).kind ≠ .keyword .returning := by
    rcases hrest with h | h <;> simp [h]
  have hbinds := (areBinds_iff (forall_length_of_commaSeparated htuples)).1 hbinds
  have htuples := takeTuples_of_commaSeparated htuples 0 (hreturning.kind_append_ne_comma hcomma)
  have hreturning := hreturning.takeReturning hcomma hword
  -- the columns end at the parenthesis, and without an action the next token is INTO
  have hend : (Cursor.mk (right :: values :: (vs ++ (ws ++ rest))) n).kind ≠ .comma := by
    simp [hright]
  have hcolumns := commaSeparated_of_oneToken column?_eq_some_iff hcolumns hend "column name"
  have hstart : (Cursor.mk (into :: table :: left ::
      (us ++ right :: values :: (vs ++ (ws ++ rest)))) n).kind ≠ .keyword .or := by
    simp [hinto]
  have hconflict := hconflict.takeConflict hstart
  simp only [List.cons_append, List.append_assoc, takeStatement, kind_cons, hinsert, advance_cons]
  refine bind_eq_ok.2 ⟨(i, ⟨rest, n⟩), ?_, rfl⟩
  refine bind_eq_ok.2 ⟨_, hconflict, bind_eq_ok.2 ⟨_, expect_cons hinto _ _ _, bind_eq_ok.2
    ⟨_, htable.takeTable _ _, bind_eq_ok.2 ⟨_, expect_cons hleft _ _ _, bind_eq_ok.2
    ⟨_, hcolumns, bind_eq_ok.2 ⟨_, expect_cons hright _ _ _, bind_eq_ok.2
    ⟨_, expect_cons hvalues _ _ _, bind_eq_ok.2 ⟨_, htuples, bind_eq_ok.2
    ⟨_, hreturning, ?_⟩⟩⟩⟩⟩⟩⟩⟩⟩
  rw [← hbinds]
  rfl

/-! No part of a statement holds a semicolon. -/

theorem IsValue.kind_ne_semicolon {ts : List Token} {w : WrittenValue} (h : IsValue ts w) :
    ∀ t ∈ ts, t.kind ≠ .semicolon := by
  cases h with
  | operand h _ => cases h <;> simp_all
  | true h | false h | null h => simp [h]

theorem IsTuple.kind_ne_semicolon {width : Nat} {ts : List Token} {ws : List WrittenValue}
    (h : IsTuple width ts ws) : ∀ t ∈ ts, t.kind ≠ .semicolon := by
  cases h with
  | mk hleft hts hright _ =>
    have hvalues := hts.kind_ne (by simp) fun _ _ hvalue => hvalue.kind_ne_semicolon
    simp only [List.forall_mem_cons, List.forall_mem_append]
    exact ⟨by simp [hleft], hvalues, by simp [hright]⟩

theorem IsConflict.kind_ne_semicolon {ts : List Token} {action? : Option ConflictAction}
    (h : IsConflict ts action?) : ∀ t ∈ ts, t.kind ≠ .semicolon := by
  cases h <;> simp_all

theorem IsReturning.kind_ne_semicolon {ts : List Token} {names : List String}
    (h : IsReturning ts names) : ∀ t ∈ ts, t.kind ≠ .semicolon := by
  cases h with
  | none => simp
  | some ht hts =>
    have hitems := hts.kind_ne_of_oneToken (by simp) fun hitem => hitem.kind_ne.2
    exact List.forall_mem_cons.2 ⟨by simp [ht], hitems⟩

end Query

theorem IsInsert.kind_ne_semicolon {ts : List Token} {i : Insert} (h : IsInsert ts i) :
    ∀ t ∈ ts, t.kind ≠ .semicolon := by
  obtain ⟨hinsert, hconflict, hinto, htable, hleft, hcolumns, hright, hvalues, htuples, -,
    hreturning⟩ := h
  have hcolumns := hcolumns.kind_ne_of_oneToken (by simp) fun hcolumn => hcolumn.1.kind_ne.2
  have htuples := htuples.kind_ne (by simp) fun _ _ htuple => htuple.kind_ne_semicolon
  simp only [List.forall_mem_cons, List.forall_mem_append]
  exact ⟨by simp [hinsert], hconflict.kind_ne_semicolon, by simp [hinto], htable.kind_ne.2,
    by simp [hleft], hcolumns, by simp [hright], by simp [hvalues], htuples,
    hreturning.kind_ne_semicolon⟩

/-- The tokens before the first semicolon, or all if there is none. -/
def firstStatement (ts : List Token) : List Token := ts.takeWhile fun t => t.kind != .semicolon

theorem firstStatement_append {ts : List Token} {c : Cursor} (hts : ∀ t ∈ ts, t.kind ≠ .semicolon)
    (hend : c.kind = .semicolon ∨ c.tokens = []) : firstStatement (ts ++ c.tokens) = ts := by
  have hrest : firstStatement c.tokens = [] := by
    rcases hend with hk | hnil
    · obtain ⟨t, ht, heq⟩ := Cursor.exists_of_kind hk (by simp)
      rw [heq]
      simp [firstStatement, ht]
    · rw [hnil]
      rfl
  unfold firstStatement at hrest ⊢
  rw [List.takeWhile_append_of_pos (by simpa using hts), hrest, List.append_nil]

theorem exists_append_firstStatement (ts : List Token) (n : Nat) :
    ∃ rest, ts = firstStatement ts ++ rest ∧
      ((Cursor.mk rest n).kind = .semicolon ∨ (Cursor.mk rest n).kind = .endOfInput) := by
  induction ts with
  | nil => exact ⟨[], rfl, Or.inr rfl⟩
  | cons t ts ih =>
    by_cases ht : t.kind = .semicolon
    · exact ⟨t :: ts, by simp [firstStatement, ht], Or.inl ht⟩
    · obtain ⟨rest, heq, hrest⟩ := ih
      refine ⟨rest, ?_, hrest⟩
      have hcons : firstStatement (t :: ts) = t :: firstStatement ts := by simp [firstStatement, ht]
      rw [hcons, List.cons_append, ← heq]

/-- A query text is read as an INSERT statement if and only if its tokens up to the first semicolon
are one, and as what they stand for. -/
theorem parseQuery_eq_insert_iff (source : String) (i : Insert) :
    parseQuery source = .ok (.insert i) ↔ IsInsert (firstStatement (sourceTokens source)) i := by
  constructor
  · intro h
    obtain ⟨⟨statement, c⟩, h₁, h⟩ := bind_eq_ok.1 h
    dsimp only at h
    split at h
    · rename_i hend
      cases h
      obtain ⟨ts, hts, heq⟩ := Query.exists_of_takeStatement h₁
      have htokens : sourceTokens source = ts ++ c.tokens := congrArg Cursor.tokens heq
      have hnot : ∀ t ∈ c.tokens, t.kind ≠ .endOfInput := fun t ht =>
        kind_ne_endOfInput_of_mem (htokens ▸ List.mem_append_right ts ht)
      have hend := hend.imp_right (Cursor.tokens_eq_nil hnot)
      rw [htokens, firstStatement_append hts.kind_ne_semicolon hend]
      exact hts
    · cases h
  · intro h
    obtain ⟨rest, heq, hrest⟩ :=
      exists_append_firstStatement (sourceTokens source) source.utf8ByteSize
    have htake := Query.takeStatement_of_isInsert h hrest
    rw [← heq] at htake
    exact bind_eq_ok.2 ⟨_, htake, if_pos hrest⟩

/-- The columns come round again for the second tuple, and its bare placeholder is the second one. -/
example : parseQuery "INSERT INTO tasks (id, title) VALUES ($, 'a'), ($7, $)" =
    .ok (.insert ⟨none, "tasks", ["ID", "TITLE"],
      [⟨"ID", .param 1⟩, ⟨"TITLE", .literal (.string "a")⟩, ⟨"ID", .param 7⟩, ⟨"TITLE", .param 2⟩],
      []⟩) := by
  decide +kernel

end TypedQueries
