import Mathlib.Algebra.Order.BigOperators.Group.List
import Mathlib.Algebra.Order.Ring.Nat
import Mathlib.Data.List.Flatten
import TypedQueries.Proofs.WrittenNames

/-!
Quote marks are counted to see that a quoted table is not found again. A rendered statement has the
quote marks of its table and of its text values, where those are written with marks of their own. If
the table were read back as a quoted text, it would need marks of its own too, and there are none
left for it.
-/

namespace TypedQueries

namespace Lexeme

/-- The lexemes of a text stand in it one after the other. -/
theorem flatMap_raw_sublist {cs : List Char} {ls : List Lexeme} (h : ls.Sublist (ofText cs).1) :
    (ls.flatMap raw).Sublist cs := by
  have hall : ((ofText cs).1.flatMap raw).Sublist
      ((ofText cs).1.flatMap fun l => l.gap ++ l.raw) :=
    List.Sublist.flatMap_right _ fun l _ => List.sublist_append_right _ _
  have htext : ((ofText cs).1.flatMap fun l => l.gap ++ l.raw).Sublist cs := by
    conv_rhs => rw [← textOf_ofText cs]
    exact List.sublist_append_left _ _
  exact (h.flatMap raw).trans (hall.trans htext)

end Lexeme

section Count

variable {q : Char}

theorem count_quoteText_double (text : String) :
    (quoteText text).toList.count '"' = text.toList.count '"' := by
  have hdouble (cs : List Char) : (doubleQuotes cs).count '"' = cs.count '"' := by
    induction cs with
    | nil => rfl
    | cons c cs ih =>
      by_cases hc : c = '\''
      · subst hc
        simp [ih]
      · rw [doubleQuotes_cons hc, List.count_cons, List.count_cons, ih]
  simp [toList_quoteText, hdouble]

theorem count_quoteText_single (text : String) :
    (quoteText text).toList.count '\'' = 2 * text.toList.count '\'' + 2 := by
  have hdouble (cs : List Char) : (doubleQuotes cs).count '\'' = 2 * cs.count '\'' := by
    induction cs with
    | nil => rfl
    | cons c cs ih =>
      by_cases hc : c = '\''
      · subst hc
        simp [ih]
        omega
      · rw [doubleQuotes_cons hc, List.count_cons, List.count_cons, ih]
        simp [hc]
  simp [toList_quoteText, hdouble]

/-- The number of marks `q` in texts that are rendered as values. -/
def quoteMarks (q : Char) (texts : List String) : Nat :=
  (texts.map fun t => (quoteText t).toList.count q).sum

theorem quoteMarks_append (texts more : List String) :
    quoteMarks q (texts ++ more) = quoteMarks q texts + quoteMarks q more := by
  simp [quoteMarks]

section Render

variable (hq : q = '\'' ∨ q = '"')

include hq

theorem count_cons_of_quote {c : Char} (hc : c ∈ [' ', ',', ';', '(', ')', '$']) (cs : List Char) :
    (c :: cs).count q = cs.count q := by
  apply List.count_cons_of_ne
  simp only [List.mem_cons, List.not_mem_nil, or_false] at hc
  rcases hq with rfl | rfl <;> rcases hc with rfl | rfl | rfl | rfl | rfl | rfl <;> decide

theorem count_intercalate {α : Type} (f : α → String) (xs : List α) :
    (", ".intercalate (xs.map f)).toList.count q = (xs.map fun x => (f x).toList.count q).sum := by
  have hcomma : (", ".toList : List Char).count q = 0 := by rcases hq with rfl | rfl <;> rfl
  induction xs with
  | nil => simp
  | cons x xs ih =>
    cases xs with
    | nil => simp
    | cons y ys =>
      simp only [List.map_cons, String.intercalate_cons_cons, String.toList_append,
        List.count_append, List.sum_cons, hcomma] at ih ⊢
      omega

theorem count_keyword (k : Keyword) : k.text.toList.count q = 0 := by
  rcases hq with rfl | rfl <;> cases k <;> decide

theorem count_number (n : Nat) : (toString n).toList.count q = 0 := by
  have hdigit : ∀ d ∈ (toString n).toList, d.isDigit = true := by
    rw [Nat.toString_eq_repr, Nat.toList_repr]
    exact fun d hd => Nat.isDigit_of_mem_toDigits (by decide) (by decide) hd
  refine List.count_eq_zero.2 fun hmem => ?_
  have hd := hdigit q hmem
  rcases hq with rfl | rfl <;> exact absurd hd (by decide)

theorem count_value {v : BindValue} (hv : v.isUnsigned = true) :
    v.render.toList.count q = quoteMarks q (textsOf [v]) := by
  match v with
  | .param position =>
    have hrender : (BindValue.param position).render.toList = '$' :: (toString position).toList :=
      String.toList_append
    rw [hrender, count_cons_of_quote hq (by decide), count_number hq]
    rfl
  | .literal (.string text) => simp [quoteMarks, textsOf, BindValue.text?, BindValue.render,
      Literal.render]
  | .literal (.integer n) =>
    obtain ⟨m, rfl⟩ := Int.eq_ofNat_of_zero_le (of_decide_eq_true hv)
    exact count_number hq m
  | .literal (.boolean true) => exact count_keyword hq .true
  | .literal (.boolean false) => exact count_keyword hq .false
  | .literal .null => exact count_keyword hq .null

theorem sum_count_values {values : List BindValue} (hv : ∀ v ∈ values, v.isUnsigned = true) :
    (values.map fun v => v.render.toList.count q).sum = quoteMarks q (textsOf values) := by
  induction values with
  | nil => rfl
  | cons v values ih =>
    rw [List.map_cons, List.sum_cons, count_value hq (hv v (by simp)),
      ih fun w hw => hv w (by simp [hw]), ← quoteMarks_append, ← textsOf_append,
      List.singleton_append]

theorem count_lower_of_isFoldedItem {name : String} (h : isFoldedItem name = true) :
    (Text.lower name).toList.count q = 0 := by
  refine List.count_eq_zero.2 fun hmem => ?_
  by_cases hstar : name = "*"
  · subst hstar
    rw [lower_star] at hmem
    rcases hq with rfl | rfl <;> exact absurd hmem (by decide)
  · have hfolded : isFoldedColumn name = true := by simpa [isFoldedItem, hstar] using h
    have hsep := (Text.isFolded_iff.1 hfolded q hmem).1
    rcases hq with rfl | rfl <;> exact absurd hsep (by decide +kernel)

theorem count_columns {names : List String} (h : ∀ c ∈ names, isFoldedItem c = true) :
    (renderColumns names).toList.count q = 0 := by
  rw [renderColumns, count_intercalate hq]
  refine List.sum_eq_zero fun n hn => ?_
  obtain ⟨c, hc, rfl⟩ := List.mem_map.1 hn
  exact count_lower_of_isFoldedItem hq (h c hc)

theorem count_condition {c : Condition} (hc : isFoldedColumn c.column = true)
    (hv : c.bind.value.isUnsigned = true) :
    c.render.toList.count q = quoteMarks q (textsOf [c.bind.value]) := by
  have hcomparison : c.comparison.text.toList.count q = 0 := by
    rcases hq with rfl | rfl <;> cases c.comparison <;> decide
  have hcolumn := count_lower_of_isFoldedItem hq (isFoldedItem_of_isFoldedColumn hc)
  rw [toList_condition, List.count_append, count_cons_of_quote hq (by decide), List.count_append,
    count_cons_of_quote hq (by decide), hcolumn, hcomparison, count_value hq hv, Nat.zero_add,
    Nat.zero_add]

theorem count_chained {cs : List Condition} (hc : ∀ c ∈ cs, isFoldedColumn c.column = true)
    (hv : ∀ c ∈ cs, c.bind.value.isUnsigned = true) :
    (renderChained cs).toList.count q = quoteMarks q (textsOf (cs.map fun c => c.bind.value)) := by
  induction cs with
  | nil => rfl
  | cons c cs ih =>
    have hchain : ((c.chain?.map fun k => k.text.toList ++ [' ']).getD []).count q = 0 := by
      cases c.chain? with
      | none => rfl
      | some k => rcases hq with rfl | rfl <;> cases k <;> decide
    rw [toList_renderChained, count_cons_of_quote hq (by decide), List.count_append,
      List.count_append, hchain, count_condition hq (hc c (by simp)) (hv c (by simp)),
      ih (fun d hd => hc d (by simp [hd])) (fun d hd => hv d (by simp [hd])), Nat.zero_add,
      ← quoteMarks_append, ← textsOf_append, List.map_cons, List.singleton_append]

theorem count_where {cs : List Condition} (hc : ∀ c ∈ cs, isFoldedColumn c.column = true)
    (hv : ∀ c ∈ cs, c.bind.value.isUnsigned = true) :
    (renderWhere cs).toList.count q = quoteMarks q (textsOf (cs.map fun c => c.bind.value)) := by
  cases cs with
  | nil => rfl
  | cons c cs =>
    rw [toList_renderWhere, count_cons_of_quote hq (by decide), List.count_append,
      count_cons_of_quote hq (by decide), List.count_append, count_keyword hq,
      count_condition hq (hc c (by simp)) (hv c (by simp)),
      count_chained hq (fun d hd => hc d (by simp [hd])) (fun d hd => hv d (by simp [hd])),
      Nat.zero_add, ← quoteMarks_append, ← textsOf_append, List.map_cons, List.singleton_append]

theorem count_bound (k : Keyword) (bound? : Option Nat) :
    (renderBound k.text bound?).toList.count q = 0 := by
  cases bound? with
  | none => rfl
  | some n =>
    rw [toList_renderBound, count_cons_of_quote hq (by decide), List.count_append,
      count_cons_of_quote hq (by decide), count_keyword hq, count_number hq]

theorem Select.count_render {s : Select} (hs : s.Folded)
    (hv : ∀ c ∈ s.conditions, c.bind.value.isUnsigned = true) :
    s.render.toList.count q = s.table.toList.count q +
      quoteMarks q (textsOf (s.conditions.map fun c => c.bind.value)) := by
  have hdistinct : (if s.distinct then Keyword.distinct.text.toList ++ [' '] else []).count q = 0 := by
    rcases hq with rfl | rfl <;> cases s.distinct <;> decide
  have hend : [';'].count q = 0 := count_cons_of_quote hq (by decide) []
  rw [toList_select hs.columns_ne]
  simp only [List.count_append, count_cons_of_quote hq (c := ' ') (by decide), count_keyword hq,
    hdistinct, hend, count_columns hq hs.columns, count_where hq hs.conditions hv, count_bound hq,
    Nat.zero_add, Nat.add_zero]

theorem count_tuple {binds : List Bind} (hv : ∀ b ∈ binds, b.value.isUnsigned = true) :
    (renderTuple binds).toList.count q = quoteMarks q (textsOf (binds.map Bind.value)) := by
  have hlist : (renderTuple binds).toList =
      '(' :: ((", ".intercalate (binds.map fun b => b.value.render)).toList ++ [')']) := by
    simp [renderTuple]
  have hend : [')'].count q = 0 := count_cons_of_quote hq (by decide) []
  have hvalues : ∀ v ∈ binds.map Bind.value, v.isUnsigned = true := by simpa using hv
  rw [hlist, count_cons_of_quote hq (by decide), List.count_append, hend, count_intercalate hq,
    ← sum_count_values hq hvalues, List.map_map]
  rfl

theorem count_tuples {tuples : List (List Bind)}
    (hv : ∀ b ∈ tuples.flatten, b.value.isUnsigned = true) :
    (", ".intercalate (tuples.map renderTuple)).toList.count q =
      quoteMarks q (textsOf (tuples.flatten.map Bind.value)) := by
  rw [count_intercalate hq]
  induction tuples with
  | nil => rfl
  | cons t tuples ih =>
    simp only [List.flatten_cons, List.mem_append, or_imp, forall_and] at hv
    rw [List.map_cons, List.sum_cons, count_tuple hq hv.1, ih hv.2, ← quoteMarks_append,
      ← textsOf_append, List.flatten_cons, List.map_append]

theorem Insert.count_render {i : Insert} (hi : i.Folded)
    (hv : ∀ b ∈ i.values, b.value.isUnsigned = true) :
    i.render.toList.count q =
      i.table.toList.count q + quoteMarks q (textsOf (i.values.map Bind.value)) := by
  have hconflict : (conflictText i.conflict?).count q = 0 := by
    rcases hq with rfl | rfl <;> cases i.conflict? with
    | none => rfl
    | some action => cases action <;> decide
  have hreturning : (returningText i.returning).count q = 0 := by
    unfold returningText
    split
    · rfl
    · rw [count_cons_of_quote hq (by decide), List.count_append, count_cons_of_quote hq (by decide),
        count_keyword hq, count_columns hq hi.returning]
  have hcolumns := count_columns hq fun c hc => isFoldedItem_of_isFoldedColumn (hi.columns c hc)
  have hend : [';'].count q = 0 := count_cons_of_quote hq (by decide) []
  have hclose : [')'].count q = 0 := count_cons_of_quote hq (by decide) []
  have hvalues := flatten_tuplesOf i.columns.length i.values
  have htuples := count_tuples hq (hvalues ▸ hv)
  rw [toList_insert]
  simp only [List.count_append, count_cons_of_quote hq (c := ' ') (by decide),
    count_cons_of_quote hq (c := '(') (by decide), count_keyword hq, hconflict, hreturning, hcolumns,
    hend, hclose, htuples, hvalues, Nat.zero_add, Nat.add_zero]

/-- A rendered statement has the quote marks of its table and those of its text values. -/
theorem Statement.count_render {s : Statement} (hs : s.Folded)
    (hv : ∀ b ∈ s.binds, b.value.isUnsigned = true) :
    s.render.toList.count q = s.table.toList.count q + quoteMarks q s.texts := by
  cases s with
  | select s =>
    have hcount := Select.count_render hq hs fun c hc => hv c.bind (List.mem_map_of_mem hc)
    rw [Statement.texts, Statement.binds, List.map_map]
    exact hcount
  | insert i => exact Insert.count_render hq hs hv

end Render

theorem sum_count_raw_le {cs : List Char} {ls : List Lexeme} (h : ls.Sublist (Lexeme.ofText cs).1) :
    (ls.map fun l => l.raw.count q).sum ≤ cs.count q := by
  have hcount := (Lexeme.flatMap_raw_sublist h).count_le q
  rwa [List.count_flatMap] at hcount

/-- A quoted lexeme has at least the double quotes of its text, and more if it stands in them. -/
theorem count_raw_of_string {cs : List Char} {l : Lexeme} (h : l ∈ (Lexeme.ofText cs).1)
    (hk : l.kind = .string) :
    l.raw = (quoteText l.literal).toList ∨
      (quoteText l.literal).toList.count '"' < l.raw.count '"' := by
  refine (Lexeme.raw_of_string h hk).imp_right fun ⟨hraw, _⟩ => ?_
  rw [hraw, count_quoteText_double, List.count_cons_self, List.count_append]
  omega

/-- A text whose quote marks are those of `name` and of rendered texts cannot hold a quoted lexeme
for `name` and one for each of these texts. -/
theorem not_all_quoted {cs : List Char} {name : String} {texts : List String} {ls : List Lexeme}
    (hls : ls.Sublist (Lexeme.ofText cs).1) (hkind : ∀ l ∈ ls, l.kind = .string)
    (htexts : ls.map Lexeme.literal = name :: texts)
    (hcount : ∀ q : Char, q = '\'' ∨ q = '"' → cs.count q = name.toList.count q + quoteMarks q texts) :
    False := by
  have hmarks (q : Char) : (ls.map fun l => (quoteText l.literal).toList.count q).sum =
      (quoteText name).toList.count q + quoteMarks q texts := by
    have hsum : quoteMarks q (ls.map Lexeme.literal) = quoteMarks q (name :: texts) := by rw [htexts]
    simpa [quoteMarks, List.map_map, Function.comp_def] using hsum
  have hform (l : Lexeme) (hl : l ∈ ls) := count_raw_of_string (hls.subset hl) (hkind l hl)
  -- no lexeme stands in double quotes: there are not enough of them
  have hsingle : ∀ l ∈ ls, l.raw = (quoteText l.literal).toList := by
    by_contra hdouble
    push Not at hdouble
    obtain ⟨l, hl, hraw⟩ := hdouble
    have hleast : ∀ m ∈ ls, (quoteText m.literal).toList.count '"' ≤ m.raw.count '"' := by
      intro m hm
      rcases hform m hm with h | h
      · rw [h]
      · exact Nat.le_of_lt h
    have hmore := (hform l hl).resolve_left hraw
    have hlt : (ls.map fun l => (quoteText l.literal).toList.count '"').sum <
        (ls.map fun l => l.raw.count '"').sum := List.sum_lt_sum _ _ hleast ⟨l, hl, hmore⟩
    have hle := sum_count_raw_le (q := '"') hls
    rw [hcount '"' (Or.inr rfl)] at hle
    rw [hmarks, count_quoteText_double] at hlt
    omega
  -- so all of them are written like values, and `name` lacks the quotes around it
  have hle := sum_count_raw_le (q := '\'') hls
  have hraw : (ls.map fun l => l.raw.count '\'') =
      ls.map fun l => (quoteText l.literal).toList.count '\'' :=
    List.map_congr_left fun l hl => by rw [hsingle l hl]
  rw [hraw, hmarks, count_quoteText_single, hcount '\'' (Or.inl rfl)] at hle
  omega

end Count

theorem quotedTexts_tokensOf (cs : List Char) :
    quotedTexts (tokensOf cs) =
      ((Lexeme.ofText cs).1.filter fun l => l.kind = .string).map Lexeme.literal := by
  rw [quotedTexts, tokensOf, List.filter_map, List.map_map]
  rfl

/-- A table that is read back from the rendered statement, and the texts of the statement behind it,
was a bare word there. -/
theorem TableReadFrom.exists_word {s : Statement} (hs : s.Folded)
    (hv : ∀ b ∈ s.binds, b.value.isUnsigned = true)
    (h : TableReadFrom (tokensOf s.render.toList) s.table s.texts) :
    ∃ t ∈ tokensOf s.render.toList, ∃ name, Query.column? t = some name ∧
      s.table = Text.lower name := by
  obtain ⟨t, ht, htable, hsublist⟩ := h
  by_cases hw : t.isColumnWord = true
  · simp only [Query.table?, hw, Bool.or_true, ↓reduceIte, Option.some.injEq] at htable
    exact ⟨t, ht, t.literal, by rw [Query.column?, if_pos hw], htable.symm⟩
  · simp only [Query.table?, hw, Bool.or_false, decide_eq_true_eq] at htable
    split at htable
    · rename_i hk
      have hlower : s.table = Text.lower t.literal := (Option.some.inj htable).symm
      rw [quotedTexts_of_kind hk, List.singleton_append, quotedTexts_tokensOf] at hsublist
      obtain ⟨ls, hls, htexts⟩ := List.sublist_map_iff.1 hsublist
      have hkind : ∀ l ∈ ls, l.kind = .string := by
        intro l hl
        simpa using (List.mem_filter.1 (hls.subset hl)).2
      have hcount (q : Char) (hq : q = '\'' ∨ q = '"') :
          s.render.toList.count q = t.literal.toList.count q + quoteMarks q s.texts := by
        have hsame : (Text.lower t.literal).toList.count q = t.literal.toList.count q := by
          rcases hq with rfl | rfl
          · exact Text.count_lower (by decide +kernel) (by decide +kernel) _
          · exact Text.count_lower (by decide +kernel) (by decide +kernel) _
        rw [Statement.count_render hq hs hv, hlower, hsame]
      exact (not_all_quoted (hls.trans List.filter_sublist) hkind htexts.symm hcount).elim
    · cases htable

end TypedQueries
