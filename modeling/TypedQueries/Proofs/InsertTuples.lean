import TypedQueries.Proofs.InsertLanguage
import TypedQueries.Query.Parser

/-!
The tuples of an INSERT statement, as the language describes them and as the grammar takes them. The
grammar counts bare placeholders on its way. The count before a value is that of the bare ones among
the values already taken, so each gets its place among all of them.
-/

namespace TypedQueries

namespace WrittenValue

/-- The values of a list, behind `bare` placeholders without a number. -/
def valuesFrom (bare : Nat) : List WrittenValue → List BindValue
  | [] => []
  | w :: ws => w.value (bare + 1) :: valuesFrom (bare + [w].count .bare) ws

theorem value_add_count (w : WrittenValue) (bare : Nat) :
    w.value (bare + [w].count .bare) = w.value (bare + 1) := by
  cases w <;> simp [value]

theorem count_cons (w : WrittenValue) (ws : List WrittenValue) :
    (w :: ws).count bare = [w].count bare + ws.count bare := by
  rw [← List.count_append, List.singleton_append]

theorem getElem?_valuesFrom (bare : Nat) (ws : List WrittenValue) (j : Nat) :
    (valuesFrom bare ws)[j]? = ws[j]?.map fun w => w.value (bare + (ws.take (j + 1)).count .bare) := by
  induction ws generalizing bare j with
  | nil => rfl
  | cons w ws ih =>
    cases j with
    | zero => simp [valuesFrom, value_add_count]
    | succ j =>
      rw [valuesFrom, List.getElem?_cons_succ, List.getElem?_cons_succ, ih, List.take_succ_cons,
        count_cons w (ws.take (j + 1))]
      simp only [Nat.add_assoc]

theorem length_valuesFrom (bare : Nat) (ws : List WrittenValue) :
    (valuesFrom bare ws).length = ws.length := by
  induction ws generalizing bare with
  | nil => rfl
  | cons w ws ih => simp [valuesFrom, ih]

/-- The binds of tuples, behind `bare` placeholders without a number. -/
def bindsFrom (columns : List String) (bare : Nat) : List (List WrittenValue) → List Bind
  | [] => []
  | ws :: tuples =>
    List.zipWith Bind.mk columns (valuesFrom bare ws) ++
      bindsFrom columns (bare + ws.count .bare) tuples

theorem getElem?_bindsFrom {columns : List String} {tuples : List (List WrittenValue)}
    (h : ∀ ws ∈ tuples, ws.length = columns.length) (bare j : Nat) :
    (bindsFrom columns bare tuples)[j]? = do
      let w ← tuples.flatten[j]?
      let column ← columns[j % columns.length]?
      return ⟨column, w.value (bare + (tuples.flatten.take (j + 1)).count .bare)⟩ := by
  induction tuples generalizing bare j with
  | nil => rfl
  | cons ws tuples ih =>
    obtain ⟨hws, htuples⟩ := List.forall_mem_cons.1 h
    have hlength : (List.zipWith Bind.mk columns (valuesFrom bare ws)).length = columns.length := by
      rw [List.length_zipWith, length_valuesFrom, hws, Nat.min_self]
    rw [bindsFrom, List.flatten_cons]
    by_cases hj : j < columns.length
    · -- in the first tuple
      rw [List.getElem?_append_left (hlength ▸ hj), List.getElem?_append_left (hws ▸ hj),
        List.take_append_of_le_length (by omega), Nat.mod_eq_of_lt hj, List.getElem?_zipWith,
        getElem?_valuesFrom]
      cases ws[j]? <;> cases columns[j]? <;> rfl
    · -- behind it, where the columns come round again
      have hle : columns.length ≤ j := Nat.le_of_not_lt hj
      have htake : (ws ++ tuples.flatten).take (j + 1) =
          ws ++ tuples.flatten.take (j - columns.length + 1) := by
        rw [List.take_append, List.take_of_length_le (by omega), hws, Nat.succ_sub hle]
      rw [List.getElem?_append_right (hlength ▸ hle), List.getElem?_append_right (hws ▸ hle), hlength,
        hws, ih htuples, ← Nat.mod_eq_sub_mod hle, htake, List.count_append]
      simp only [Nat.add_assoc]

end WrittenValue

namespace Query

open Cursor

theorem areBinds_iff {columns : List String} {tuples : List (List WrittenValue)} {binds : List Bind}
    (h : ∀ ws ∈ tuples, ws.length = columns.length) :
    AreBinds columns tuples.flatten binds ↔ binds = WrittenValue.bindsFrom columns 0 tuples := by
  have hget := WrittenValue.getElem?_bindsFrom h 0
  simp only [Nat.zero_add] at hget
  constructor
  · intro hbinds
    exact List.ext_getElem? fun j => (hbinds j).trans (hget j).symm
  · rintro rfl
    exact hget

/-! One token. -/

theorem isColumnWord_iff {t : Token} : t.isColumnWord = true ↔ IsColumnWord t := by
  unfold Token.isColumnWord IsColumnWord
  split
  · simp_all
  · rename_i k hk
    simp only [hk, reduceCtorEq, TokenKind.keyword.injEq, false_or, exists_eq_right']
    cases k <;> decide
  · simp_all

theorem column?_eq_some_iff {t : Token} {name : String} :
    column? t = some name ↔ IsColumn t name := by
  simp [column?, IsColumn, isColumnWord_iff]

theorem item?_eq_some_iff {t : Token} {name : String} : item? t = some name ↔ IsItem t name := by
  simp [item?, IsItem, isColumnWord_iff]

theorem table?_eq_some_iff {t : Token} {name : String} : table? t = some name ↔ IsTable t name := by
  simp [table?, IsTable, isColumnWord_iff]

/-- A word that may name a column ends neither a text nor a statement. -/
theorem IsColumnWord.kind_ne {t : Token} (h : IsColumnWord t) :
    t.kind ≠ .endOfInput ∧ t.kind ≠ .semicolon := by
  rcases h with h | ⟨k, -, h⟩ <;> simp [h]

theorem kind_ne_of_isColumnWord_or {t : Token} {k : TokenKind}
    (hk : k ≠ .endOfInput ∧ k ≠ .semicolon) (h : t.kind = k ∨ IsColumnWord t) :
    t.kind ≠ .endOfInput ∧ t.kind ≠ .semicolon := by
  rcases h with rfl | h
  · exact hk
  · exact h.kind_ne

theorem IsItem.kind_ne {t : Token} {name : String} (h : IsItem t name) :
    t.kind ≠ .endOfInput ∧ t.kind ≠ .semicolon :=
  kind_ne_of_isColumnWord_or (by simp) h.1

theorem IsTable.kind_ne {t : Token} {name : String} (h : IsTable t name) :
    t.kind ≠ .endOfInput ∧ t.kind ≠ .semicolon :=
  kind_ne_of_isColumnWord_or (by simp) h.1

theorem ofText?_eq_some_iff {word : String} {action : ConflictAction} :
    ConflictAction.ofText? word = some action ↔ word = action.text := by
  constructor
  · intro h
    unfold ConflictAction.ofText? at h
    have htext := List.find?_some h
    exact (beq_iff_eq.1 htext).symm
  · rintro rfl
    exact action.ofText?_text

theorem exists_of_takeTable {c d : Cursor} {name : String} (h : takeTable c = .ok (name, d)) :
    ∃ t, IsTable t name ∧ c = ⟨t :: d.tokens, d.length⟩ := by
  unfold takeTable at h
  split at h
  · rename_i hname
    cases h
    have hname := table?_eq_some_iff.1 hname
    exact ⟨c.current, hname, eq_of_kind_ne hname.kind_ne.1⟩
  · cases h

theorem IsTable.takeTable {t : Token} {name : String} (h : IsTable t name) (rest : List Token)
    (n : Nat) : takeTable ⟨t :: rest, n⟩ = .ok (name, ⟨rest, n⟩) := by
  simp [Query.takeTable, table?_eq_some_iff.2 h]

/-! Values. The count behind a value is the count before it and the value itself, if it is bare. -/

/-- The operand under a cursor, as it is written, and the cursor behind it. -/
def written? (c : Cursor) : Option (WrittenValue × Cursor) :=
  match c.kind with
  | .dollar =>
    if c.next.kind = .integer then some (.given (.param c.next.number), c.advance.advance)
    else some (.bare, c.advance)
  | .string => some (.given (.literal (.string c.current.literal)), c.advance)
  | .integer => some (.given (.literal (.integer c.current.number)), c.advance)
  | _ => none

theorem exists_of_written? {c d : Cursor} {w : WrittenValue} (h : written? c = some (w, d)) :
    ∃ ts, IsOperand ts w ∧ c = ⟨ts ++ d.tokens, d.length⟩ := by
  unfold written? at h
  split at h
  · rename_i hk
    obtain ⟨t, ht, heq⟩ := exists_of_kind hk (by simp)
    split at h
    · rename_i hnext
      cases h
      have hu : c.advance = ⟨c.advance.current :: c.advance.advance.tokens, _⟩ :=
        eq_of_kind_ne (by rw [show c.advance.kind = .integer from hnext]; simp)
      refine ⟨_, .numbered ht hnext, ?_⟩
      rw [heq, hu]
      rfl
    · cases h
      exact ⟨_, .bare ht, heq⟩
  · rename_i hk
    cases h
    exact ⟨_, .string hk, eq_of_kind_ne (by simp [hk])⟩
  · rename_i hk
    cases h
    exact ⟨_, .integer hk, eq_of_kind_ne (by simp [hk])⟩
  · cases h

/-- An integer behind a bare placeholder would be its number. -/
theorem IsOperand.written? {ts : List Token} {w : WrittenValue} (h : IsOperand ts w)
    {rest : List Token} {n : Nat} (hrest : (Cursor.mk rest n).kind ≠ .integer) :
    written? ⟨ts ++ rest, n⟩ = some (w, ⟨rest, n⟩) := by
  have hrest : ¬ (Cursor.mk rest n).current.kind = .integer := hrest
  cases h <;> simp_all [Query.written?]

/-- A position is that of a placeholder as it is written. -/
theorem takePosition_eq_ok {bare bare' position : Nat} {c d : Cursor} (hk : c.kind = .dollar)
    (h : takePosition bare c = .ok (position, bare', d)) :
    ∃ w, written? c = some (w, d) ∧ .param position = w.value (bare + 1) ∧
      bare' = bare + [w].count .bare ∧ ∀ v, w = .given v → v.InRange := by
  simp only [written?, hk]
  unfold takePosition at h
  split at h
  · rename_i hnext
    dsimp only at h
    split at h
    · cases h
    · rename_i hzero
      split at h <;> cases h
      rename_i hbound
      rw [Token.digitsValue_literal] at hzero hbound ⊢
      refine ⟨.given (.param c.next.number), if_pos hnext, rfl, rfl, ?_⟩
      rintro v ⟨⟩
      exact ⟨Nat.pos_of_ne_zero hzero, hbound⟩
  · rename_i hnext
    cases h
    refine ⟨.bare, if_neg hnext, rfl, rfl, ?_⟩
    rintro v ⟨⟩

theorem takeInteger_eq_ok {n : Int} {c d : Cursor} (hk : c.kind = .integer)
    (h : takeInteger c = .ok (n, d)) :
    written? c = some (.given (.literal (.integer n)), d) ∧
      (BindValue.literal (.integer n)).InRange := by
  unfold takeInteger at h
  dsimp only at h
  split at h <;> cases h
  rename_i hbound
  rw [Token.digitsValue_literal] at hbound ⊢
  exact ⟨by simp [written?, hk], Int.natCast_nonneg _, by exact_mod_cast hbound⟩

/-- What is taken as an operand is what is written, and is in range. A bare placeholder counts on, and
has the next position. -/
theorem takeOperand_eq_ok {bare : Nat} {c : Cursor} {taken? : Option (BindValue × Nat × Cursor)}
    (h : takeOperand bare c = .ok taken?) :
    taken? = (written? c).map (fun taken =>
        (taken.1.value (bare + 1), bare + [taken.1].count .bare, taken.2)) ∧
      ∀ v d, written? c = some (.given v, d) → v.InRange := by
  unfold takeOperand at h
  split at h
  · rename_i hk
    obtain ⟨⟨position, bare', d⟩, hposition, h⟩ := bind_eq_ok.1 h
    cases h
    obtain ⟨w, hw, hvalue, rfl, hrange⟩ := takePosition_eq_ok hk hposition
    rw [hw]
    refine ⟨by simp [hvalue], ?_⟩
    rintro v d ⟨⟩
    exact hrange v rfl
  · rename_i hk
    cases h
    simp only [written?, hk]
    refine ⟨rfl, ?_⟩
    rintro v d ⟨⟩
    trivial
  · rename_i hk
    obtain ⟨⟨n, d⟩, hinteger, h⟩ := bind_eq_ok.1 h
    cases h
    obtain ⟨hw, hrange⟩ := takeInteger_eq_ok hk hinteger
    rw [hw]
    refine ⟨rfl, ?_⟩
    rintro v d ⟨⟩
    exact hrange
  · rename_i hdollar hstring hinteger
    cases h
    have hnone : written? c = none := by
      unfold written?
      split <;> first | rfl | contradiction
    rw [hnone]
    refine ⟨rfl, ?_⟩
    rintro v d ⟨⟩

theorem takeOperand_of_written? {c d : Cursor} {w : WrittenValue} (h : written? c = some (w, d))
    (hrange : ∀ v, w = .given v → v.InRange) (bare : Nat) :
    takeOperand bare c = .ok (some (w.value (bare + 1), bare + [w].count .bare, d)) := by
  unfold written? at h
  split at h
  · rename_i hk
    simp only [takeOperand, hk]
    split at h <;> rename_i hnext <;> cases h
    · obtain ⟨hfirst, hbound⟩ := hrange _ rfl
      have hposition : takePosition bare c = .ok (c.next.number, bare, c.advance.advance) := by
        have hzero : c.next.number ≠ 0 := Nat.ne_of_gt hfirst
        have hbound : c.next.number < 0x10000000000000000 := hbound
        simp [takePosition, hnext, hzero, hbound]
      rw [hposition]
      rfl
    · have hposition : takePosition bare c = .ok (bare + 1, bare + 1, c.advance) := if_neg hnext
      rw [hposition]
      rfl
  · rename_i hk
    cases h
    simp only [takeOperand, hk]
    rfl
  · rename_i hk
    cases h
    have hbound : ((c.current.number : Nat) : Int) < 2 ^ 63 := (hrange _ rfl).2
    have hinteger : takeInteger c = .ok ((c.current.number : Int), c.advance) := by
      have hbound : c.current.number < 0x8000000000000000 := by exact_mod_cast hbound
      simp [takeInteger, hbound]
    simp only [takeOperand, hk]
    rw [hinteger]
    rfl
  · cases h

theorem exists_of_takeValue {bare bare' : Nat} {c d : Cursor} {v : BindValue}
    (h : takeValue bare c = .ok (v, bare', d)) :
    ∃ ts w, IsValue ts w ∧ v = w.value (bare + 1) ∧ bare' = bare + [w].count .bare ∧
      c = ⟨ts ++ d.tokens, d.length⟩ := by
  obtain ⟨taken?, h₁, h⟩ := bind_eq_ok.1 h
  cases taken? with
  | some taken =>
    cases h
    obtain ⟨htaken, hrange⟩ := takeOperand_eq_ok h₁
    obtain ⟨⟨w, d'⟩, hw, heq⟩ := Option.map_eq_some_iff.1 htaken.symm
    cases heq
    obtain ⟨ts, hts, hc⟩ := exists_of_written? hw
    exact ⟨ts, w, .operand hts (by rintro v rfl; exact hrange v _ hw), rfl, rfl, hc⟩
  | none =>
    dsimp only at h
    split at h <;> rename_i hk <;> cases h
    · exact ⟨_, _, .true hk, rfl, rfl, eq_of_kind_ne (by simp [hk])⟩
    · exact ⟨_, _, .false hk, rfl, rfl, eq_of_kind_ne (by simp [hk])⟩
    · exact ⟨_, _, .null hk, rfl, rfl, eq_of_kind_ne (by simp [hk])⟩

theorem IsValue.takeValue {ts : List Token} {w : WrittenValue} (h : IsValue ts w) (bare : Nat)
    {rest : List Token} {n : Nat} (hrest : (Cursor.mk rest n).kind ≠ .integer) :
    takeValue bare ⟨ts ++ rest, n⟩ =
      .ok (w.value (bare + 1), bare + [w].count .bare, ⟨rest, n⟩) := by
  cases h with
  | operand h hrange =>
    rw [Query.takeValue, takeOperand_of_written? (h.written? hrest) hrange]
    rfl
  | true h | false h | null h =>
    simp only [List.singleton_append, Query.takeValue, takeOperand, kind_cons, h]
    rfl

theorem exists_of_takeValues {bare bare' : Nat} {c d : Cursor} {values : List BindValue}
    (h : takeValues bare c = .ok (values, bare', d)) :
    ∃ ts ws, CommaSeparated IsValue ts ws ∧ values = WrittenValue.valuesFrom bare ws ∧
      bare' = bare + ws.count .bare ∧ c = ⟨ts ++ d.tokens, d.length⟩ := by
  fun_induction takeValues bare c generalizing d bare' values with
  | case1 => cases h
  | case2 bare c value bare₁ c₁ h₁ hk ih =>
    obtain ⟨⟨values', bare₂, c₂⟩, h₂, h⟩ := bind_eq_ok.1 h
    cases h
    obtain ⟨ts, w, hts, rfl, rfl, rfl⟩ := exists_of_takeValue h₁
    obtain ⟨comma, hcomma, hadvance⟩ := exists_of_kind hk (by simp)
    obtain ⟨us, ws, hus, rfl, rfl, hrest⟩ := ih h₂
    refine ⟨ts ++ comma :: us, w :: ws, .cons hts hcomma hus, rfl, ?_, ?_⟩
    · rw [WrittenValue.count_cons w ws, Nat.add_assoc]
    · rw [hrest] at hadvance
      rw [hadvance]
      simp
  | case3 bare c value bare₁ c₁ h₁ hk =>
    cases h
    obtain ⟨ts, w, hts, rfl, rfl, heq⟩ := exists_of_takeValue h₁
    exact ⟨ts, [w], .one hts, rfl, rfl, heq⟩

theorem takeValues_of_takeValue {bare bare' : Nat} {c d : Cursor} {value : BindValue}
    (h : takeValue bare c = .ok (value, bare', d)) :
    takeValues bare c =
      if d.kind = .comma then do
        let (values, bare, d) ← takeValues bare' d.advance
        return (value :: values, bare, d)
      else .ok ([value], bare', d) := by
  rw [takeValues]
  split <;> rename_i h' <;> rw [h] at h' <;> cases h'
  rfl

theorem takeValues_of_commaSeparated {ts : List Token} {ws : List WrittenValue}
    (h : CommaSeparated IsValue ts ws) (bare : Nat) {right : Token} (hright : right.kind = .rightParen)
    (rest : List Token) (n : Nat) :
    takeValues bare ⟨ts ++ right :: rest, n⟩ =
      .ok (WrittenValue.valuesFrom bare ws, bare + ws.count .bare, ⟨right :: rest, n⟩) := by
  induction h generalizing bare with
  | one h =>
    have hend : (Cursor.mk (right :: rest) n).kind ≠ .integer := by simp [hright]
    rw [takeValues_of_takeValue (h.takeValue bare hend), if_neg (by simp [hright])]
    rfl
  | @cons ts us comma w ws h hcomma _ ih =>
    have hend : (Cursor.mk (comma :: (us ++ right :: rest)) n).kind ≠ .integer := by simp [hcomma]
    rw [List.append_assoc, List.cons_append, takeValues_of_takeValue (h.takeValue bare hend),
      if_pos (by simp [hcomma]), advance_cons, ih, WrittenValue.count_cons w ws, ← Nat.add_assoc]
    rfl

/-! Tuples. -/

theorem exists_of_takeTuple {columns : List String} {bare bare' : Nat} {c d : Cursor}
    {binds : List Bind} (h : takeTuple columns bare c = .ok (binds, bare', d)) :
    ∃ ts ws, IsTuple columns.length ts ws ∧
      binds = List.zipWith Bind.mk columns (WrittenValue.valuesFrom bare ws) ∧
      bare' = bare + ws.count .bare ∧ c = ⟨ts ++ d.tokens, d.length⟩ := by
  obtain ⟨c₁, h₁, h⟩ := bind_eq_ok.1 h
  obtain ⟨⟨values, bare₁, c₂⟩, h₂, h⟩ := bind_eq_ok.1 h
  obtain ⟨c₃, h₃, h⟩ := bind_eq_ok.1 h
  obtain ⟨left, hleft, rfl⟩ := exists_of_expect h₁ (by simp)
  obtain ⟨ts, ws, hts, rfl, rfl, rfl⟩ := exists_of_takeValues h₂
  obtain ⟨right, hright, rfl⟩ := exists_of_expect h₃ (by simp)
  split at h
  · rename_i hwidth
    cases h
    rw [WrittenValue.length_valuesFrom] at hwidth
    exact ⟨_, ws, .mk hleft hts hright hwidth, rfl, rfl, by simp⟩
  · cases h

theorem IsTuple.takeTuple {columns : List String} {ts : List Token} {ws : List WrittenValue}
    (h : IsTuple columns.length ts ws) (bare : Nat) (rest : List Token) (n : Nat) :
    takeTuple columns bare ⟨ts ++ rest, n⟩ =
      .ok (List.zipWith Bind.mk columns (WrittenValue.valuesFrom bare ws), bare + ws.count .bare,
        ⟨rest, n⟩) := by
  obtain @⟨left, right, ts, ws, hleft, hts, hright, hwidth⟩ := h
  have hvalues := takeValues_of_commaSeparated hts bare hright rest n
  simp only [List.cons_append, List.append_assoc, List.nil_append]
  refine bind_eq_ok.2 ⟨_, expect_cons hleft _ _ _, bind_eq_ok.2 ⟨_, hvalues, bind_eq_ok.2
    ⟨_, expect_cons hright _ _ _, ?_⟩⟩⟩
  exact if_pos ((WrittenValue.length_valuesFrom bare ws).trans hwidth)

theorem exists_of_takeTuples {columns : List String} {bare : Nat} {c d : Cursor} {binds : List Bind}
    (h : takeTuples columns bare c = .ok (binds, d)) :
    ∃ ts tuples, CommaSeparated (IsTuple columns.length) ts tuples ∧
      binds = WrittenValue.bindsFrom columns bare tuples ∧ c = ⟨ts ++ d.tokens, d.length⟩ := by
  fun_induction takeTuples columns bare c generalizing d binds with
  | case1 => cases h
  | case2 bare c binds₁ bare₁ c₁ h₁ hk ih =>
    obtain ⟨⟨more, c₂⟩, h₂, h⟩ := bind_eq_ok.1 h
    cases h
    obtain ⟨ts, ws, hts, rfl, rfl, rfl⟩ := exists_of_takeTuple h₁
    obtain ⟨comma, hcomma, hadvance⟩ := exists_of_kind hk (by simp)
    obtain ⟨us, tuples, hus, rfl, hrest⟩ := ih h₂
    refine ⟨ts ++ comma :: us, ws :: tuples, .cons hts hcomma hus, rfl, ?_⟩
    rw [hrest] at hadvance
    rw [hadvance]
    simp
  | case3 bare c binds₁ bare₁ c₁ h₁ hk =>
    cases h
    obtain ⟨ts, ws, hts, rfl, -, heq⟩ := exists_of_takeTuple h₁
    exact ⟨ts, [ws], .one hts, by simp [WrittenValue.bindsFrom], heq⟩

theorem takeTuples_of_takeTuple {columns : List String} {bare bare' : Nat} {c d : Cursor}
    {binds : List Bind} (h : takeTuple columns bare c = .ok (binds, bare', d)) :
    takeTuples columns bare c =
      if d.kind = .comma then do
        let (more, d) ← takeTuples columns bare' d.advance
        return (binds ++ more, d)
      else .ok (binds, d) := by
  rw [takeTuples]
  split <;> rename_i h' <;> rw [h] at h' <;> cases h'
  rfl

theorem takeTuples_of_commaSeparated {columns : List String} {ts : List Token}
    {tuples : List (List WrittenValue)} (h : CommaSeparated (IsTuple columns.length) ts tuples)
    (bare : Nat) {rest : List Token} {n : Nat} (hrest : (Cursor.mk rest n).kind ≠ .comma) :
    takeTuples columns bare ⟨ts ++ rest, n⟩ =
      .ok (WrittenValue.bindsFrom columns bare tuples, ⟨rest, n⟩) := by
  induction h generalizing bare with
  | one h =>
    rw [takeTuples_of_takeTuple (h.takeTuple bare rest n), if_neg hrest]
    simp [WrittenValue.bindsFrom]
  | @cons ts us comma ws tuples h hcomma _ ih =>
    rw [List.append_assoc, List.cons_append,
      takeTuples_of_takeTuple (h.takeTuple bare (comma :: (us ++ rest)) n), if_pos (by simp [hcomma]),
      advance_cons, ih]
    rfl

theorem forall_length_of_commaSeparated {width : Nat} {ts : List Token}
    {tuples : List (List WrittenValue)} (h : CommaSeparated (IsTuple width) ts tuples) :
    ∀ ws ∈ tuples, ws.length = width :=
  h.forall_value fun _ _ htuple => by
    cases htuple with
    | mk _ _ _ hwidth => exact hwidth

end Query

end TypedQueries
