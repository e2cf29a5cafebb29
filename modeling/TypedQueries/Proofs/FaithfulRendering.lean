import TypedQueries.Proofs.QuoteMarks
import TypedQueries.Proofs.RoundTrip

/-!
When a statement that was read is found again in what is rendered of it: if its names are bare, its
select list is not empty and nothing stands before its first condition, and then only. A quoted table
may have any name, and a name in letters that change in number or kind with their case may be written
as other words; none of these is read back.
-/

namespace TypedQueries

/-- Conditions without a connective in front of the first one. -/
def unchained : List Condition → List Condition
  | [] => []
  | c :: cs => { c with chain? := none } :: cs

/-- The select list as it is rendered, and the conditions as they are rendered. -/
def Select.explicit (s : Select) : Select :=
  { s with
    columns := if s.columns.isEmpty then ["*"] else s.columns
    conditions := unchained s.conditions }

def Statement.explicit : Statement → Statement
  | select s => select s.explicit
  | insert i => insert i

theorem renderWhere_unchained (cs : List Condition) : renderWhere (unchained cs) = renderWhere cs := by
  cases cs <;> rfl

@[simp]
theorem Statement.render_explicit (s : Statement) : s.explicit.render = s.render := by
  cases s with
  | select s =>
    have hstar : renderColumns ["*"] = "*" := by decide
    have hcolumns : (if s.explicit.columns.isEmpty then "*" else renderColumns s.explicit.columns) =
        if s.columns.isEmpty then "*" else renderColumns s.columns := by
      by_cases h : s.columns.isEmpty = true
      · simp [Select.explicit, h, hstar]
      · simp [Select.explicit, h]
    show s.explicit.render = s.render
    unfold Select.render
    rw [hcolumns, show s.explicit.conditions = unchained s.conditions from rfl,
      renderWhere_unchained]
    rfl
  | insert i => rfl

theorem map_bind_unchained (cs : List Condition) :
    (unchained cs).map Condition.bind = cs.map Condition.bind := by
  cases cs <;> rfl

@[simp]
theorem Statement.binds_explicit (s : Statement) : s.explicit.binds = s.binds := by
  cases s with
  | select s => exact map_bind_unchained s.conditions
  | insert i => rfl

@[simp]
theorem Statement.table_explicit (s : Statement) : s.explicit.table = s.table := by
  cases s <;> rfl

theorem chain?_head?_unchained (cs : List Condition) :
    ∀ c ∈ (unchained cs).head?, c.chain? = none := by
  cases cs with
  | nil => exact nofun
  | cons c cs =>
    intro d hd
    cases hd
    rfl

/-- What holds of a condition whatever stands in front of it. -/
theorem forall_unchained {p : Condition → Prop} (hp : ∀ c, p c → p { c with chain? := none })
    {cs : List Condition} (h : ∀ c ∈ cs, p c) : ∀ c ∈ unchained cs, p c := by
  cases cs with
  | nil => exact h
  | cons c cs =>
    intro d hd
    rcases List.mem_cons.1 hd with rfl | hd
    · exact hp c (h c (by simp))
    · exact h d (by simp [hd])

theorem Statement.regular_explicit {s : Statement} (h : s.Regular) : s.explicit.Regular := by
  cases s with
  | select s =>
    exact ⟨forall_unchained (fun c hc => ⟨hc.column, hc.operand, hc.inRange⟩) h.conditions, h.limit,
      h.offset⟩
  | insert i => exact h

theorem Select.columns_explicit (s : Select) :
    s.explicit.columns = if s.columns = [] then ["*"] else s.columns := by
  simp [Select.explicit]

theorem Select.columns_explicit_ne (s : Select) : s.explicit.columns ≠ [] := by
  rw [columns_explicit]
  split <;> simp_all

theorem Select.forall_columns_explicit {s : Select} {p : String → Prop} (hp : p "*")
    (h : ∀ c ∈ s.columns, p c) : ∀ c ∈ s.explicit.columns, p c := by
  rw [columns_explicit]
  split
  · simpa using hp
  · exact h

/-- The columns of a statement that was read are folded where they are written. -/
theorem Statement.ReadFrom.folded {cs : List Char} {s : Statement} (h : s.ReadFrom (tokensOf cs)) :
    s.explicit.Folded := by
  cases s with
  | select s =>
    have hcolumns : ∀ c ∈ s.columns, isFoldedItem c = true := by
      intro c hc
      obtain ⟨t, ht, hitem⟩ := Select.ReadFrom.columns h c hc
      exact isFoldedItem_of_item? ht hitem
    have hconditions : ∀ c ∈ s.conditions, isFoldedColumn c.column = true := by
      intro c hc
      obtain ⟨t, ht, hcolumn⟩ := (Select.ReadFrom.conditions h c hc).column
      exact isFoldedColumn_of_column? ht hcolumn
    exact ⟨s.columns_explicit_ne, Select.forall_columns_explicit rfl hcolumns,
      forall_unchained (fun _ => id) hconditions⟩
  | insert i =>
    constructor
    · intro c hc
      obtain ⟨t, ht, hcolumn⟩ := Insert.ReadFrom.columns h c hc
      exact isFoldedColumn_of_column? ht hcolumn
    · intro c hc
      obtain ⟨t, ht, hitem⟩ := Insert.ReadFrom.returning h c hc
      exact isFoldedItem_of_item? ht hitem

/-- A statement that is read from tidy tokens has bare names, apart from its table. -/
theorem Statement.ReadFrom.bare {cs : List Char} {s : Statement} (h : s.ReadFrom (tokensOf cs))
    (ht : Tidy (tokensOf cs)) (htable : isBareTable s.table = true) : s.explicit.Bare := by
  cases s with
  | select s =>
    have hcolumns : ∀ c ∈ s.columns, isBareItem c = true := by
      intro c hc
      obtain ⟨t, htm, hitem⟩ := Select.ReadFrom.columns h c hc
      exact ht.isBareItem htm hitem
    have hconditions : ∀ c ∈ s.conditions, isBareColumn c.column = true := by
      intro c hc
      obtain ⟨t, htm, hcolumn⟩ := (Select.ReadFrom.conditions h c hc).column
      exact ht.isBareColumn htm hcolumn
    exact ⟨s.columns_explicit_ne, Select.forall_columns_explicit rfl hcolumns, htable,
      chain?_head?_unchained s.conditions, forall_unchained (fun _ => id) hconditions⟩
  | insert i =>
    refine ⟨htable, ?_, ?_⟩
    · intro c hc
      obtain ⟨t, htm, hcolumn⟩ := Insert.ReadFrom.columns h c hc
      exact ht.isBareColumn htm hcolumn
    · intro c hc
      obtain ⟨t, htm, hitem⟩ := Insert.ReadFrom.returning h c hc
      exact ht.isBareItem htm hitem

theorem BindValue.ReadFrom.position_lt {ts : List Token} {b : Bind} (h : b.value.ReadFrom ts)
    (hts : allNumbered ts = true) : b.position < 2 ^ 64 := by
  obtain ⟨column, value⟩ := b
  match value with
  | .param _ => exact h.2 hts
  | .literal _ => exact Nat.two_pow_pos 64

/-- A statement that was read, and is read back from what is rendered of it, has bare names, and its
placeholders have numbers that fit 64 bits. -/
theorem Statement.bare_of_parseQuery_render {source : String} {s : Statement}
    (h : parseQuery source = .ok s) (hr : parseQuery s.render = .ok s) :
    s.Bare ∧ ∀ b ∈ s.binds, b.position < 2 ^ 64 := by
  have hsource := readFrom_of_parseTokens (parseQuery_eq_ok_iff_tokensOf.1 h)
  have hrender := readFrom_of_parseTokens (parseQuery_eq_ok_iff_tokensOf.1 hr)
  have hvalues : ∀ b ∈ s.explicit.binds, b.value.isUnsigned = true := by
    rw [binds_explicit]
    exact fun b hb => (hsource.values b hb).isUnsigned
  -- the table was a bare word in the rendered text, so that this text is tidy
  have htable : TableReadFrom (tokensOf s.explicit.render.toList) s.explicit.table s.explicit.texts := by
    have htable := hrender.table
    rwa [← render_explicit, ← table_explicit, Statement.texts, ← binds_explicit] at htable
  obtain ⟨t, ht, name, hname, hlower⟩ := htable.exists_word hsource.folded hvalues
  have hfolded : Text.isFolded s.explicit.table.toList = true := by
    rw [hlower]
    exact isFoldedColumn_of_column? ht hname
  have htidy := Statement.tidy_render hsource.folded hfolded hvalues
  rw [render_explicit] at htidy ht
  have hbare : s.explicit.Bare := by
    refine hrender.bare htidy ?_
    rw [← table_explicit, hlower]
    exact isBareTable_lower (htidy.isBareColumn ht hname)
  have hpositions : ∀ b ∈ s.binds, b.position < 2 ^ 64 := fun b hb =>
    (hrender.values b hb).position_lt htidy.numbered
  -- so the explicit form is read back; it is `s`, then
  have hback := parseQuery_render_of_bare (regular_explicit (regular_of_parseQuery h hpositions)) hbare
  rw [render_explicit, hr, Except.ok.injEq] at hback
  refine ⟨?_, hpositions⟩
  rw [hback]
  exact hbare

/-- A statement that was read is read again from its rendered form if and only if its names are bare,
its select list is not empty, nothing stands before its first condition, and its placeholders have
numbers that fit 64 bits. -/
theorem parseQuery_render_iff {source : String} {s : Statement} (h : parseQuery source = .ok s) :
    parseQuery s.render = .ok s ↔ s.Bare ∧ ∀ b ∈ s.binds, b.position < 2 ^ 64 :=
  ⟨Statement.bare_of_parseQuery_render h, fun ⟨hbare, hpositions⟩ =>
    parseQuery_render_of_parseQuery h hpositions hbare⟩

def countedUsersText : String :=
  "select Id, count(*) from \"Users\" where name <> 'it''s' and AGE >= $ limit 5 -- all"

def countedUsers : Statement :=
  .select ⟨false, ["ID", "COUNT", "*"], "users",
    [⟨none, "NAME", .notEq, ⟨"NAME", .literal (.string "it's")⟩⟩,
      ⟨some .and, "AGE", .gtEq, ⟨"AGE", .param 1⟩⟩], some 5, none⟩

theorem parseQuery_render_iff_countedUsers :
    parseQuery countedUsersText = .ok countedUsers ∧
      (parseQuery countedUsers.render = .ok countedUsers ↔
        countedUsers.Bare ∧ ∀ b ∈ countedUsers.binds, b.position < 2 ^ 64) := by
  have h : parseQuery countedUsersText = .ok countedUsers := by decide +kernel
  exact ⟨h, parseQuery_render_iff h⟩

/-- A quoted table with a blank in its name is rendered without the quotes and not found again. -/
theorem parseQuery_render_ne :
    parseQuery "SELECT * FROM \"my table\"" =
        .ok (.select ⟨false, ["*"], "my table", [], none, none⟩) ∧
      parseQuery (Statement.select ⟨false, ["*"], "my table", [], none, none⟩).render ≠
        .ok (.select ⟨false, ["*"], "my table", [], none, none⟩) := by
  decide +kernel

end TypedQueries
