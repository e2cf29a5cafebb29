import TypedQueries.Proofs.ErrorPlaces
import TypedQueries.Proofs.SchemaGrammar

/-!
Which errors of a schema name a column definition. They are those at a token between the parentheses
of a table's columns, and the number that they give is that of the columns whose comma was taken. A
column ends at a comma or at a parenthesis, so nothing fails between two columns.
-/

namespace TypedQueries

/-- The tokens in front of the one that the error is at. -/
def SyntaxError.inFront (e : SyntaxError) (ts : List Token) : List Token :=
  ts.takeWhile fun t => t.span != e.span

/-- The error names the given column, or no column, and it is not that a column lacks its end. -/
structure SyntaxError.Names (column? : Option Nat) (e : SyntaxError) : Prop where
  field_eq : e.field? = column?
  fault_ne : ∀ t, e.fault ≠ .unexpected "',' or ')'" t

/-- A part with a comma behind it. -/
def WithComma {α : Type} (P : List Token → α → Prop) (ts : List Token) (a : α) : Prop :=
  ∃ us comma, ts = us ++ [comma] ∧ P us a ∧ comma.kind = .comma

namespace Schema

/-- The tokens of a schema up to a place where a column of a table begins, behind the columns `done`
of this table. -/
inductive AtColumn (now : Clock) : List Token → List Field → Prop
  | mk {before front ts us : List Token} {left : Token} {items : List SchemaItem} {name : String}
      {done : List Field} (hbefore : IsSchema now before items)
      (hfront : front.map Token.kind = [.keyword .create, .keyword .table])
      (hname : IsTableName ts name) (hleft : left.kind = .leftParen)
      (hdone : InSequence (WithComma (IsField now)) us done) :
      AtColumn now (before ++ (front ++ (ts ++ left :: us))) done

/-- A whole column definition and the token at which it ends. -/
def BeginsWithColumn (now : Clock) (ts : List Token) : Prop :=
  ∃ us f t rest, IsField now us f ∧ endsField t.kind ∧ ts = us ++ t :: rest

/-- The tokens of a schema up to a place between the parentheses of a table's columns, of which
`done` are complete. -/
def InColumns (now : Clock) (ts : List Token) (done : List Field) : Prop :=
  ∃ us part, ts = us ++ part ∧ AtColumn now us done ∧ ¬ BeginsWithColumn now part

end Schema

theorem Covers.pairwise_start {pos : Nat} {cs : List Char} {ts : List Token}
    (h : Covers pos cs ts) : ts.Pairwise fun t u => t.span.start < u.span.start := by
  induction h with
  | last => exact List.pairwise_singleton _ _
  | @token pos gap raw rest t ts _ hraw _ hspan _ h ih =>
    refine List.pairwise_cons.2 ⟨fun u hu => ?_, ih⟩
    have hlt : t.span.start < t.span.stop := by
      obtain ⟨c, raw, rfl⟩ := List.exists_cons_of_ne_nil hraw
      have := c.utf8Size_pos
      simp only [hspan, Text.byteLength_cons]
      omega
    exact hlt.trans_le (h.le_start u hu)

/-- No two tokens of a text have the same place, so what is in front of an error is in front of the
token that it blames. -/
theorem Cursor.Blames.inFront {source : String} {ts : List Token} {c : Cursor} {e : SyntaxError}
    (h : c.Blames e) (hc : tokenize source = ts ++ c.ahead) :
    ∃ part t rest, c.ahead = part ++ t :: rest ∧ e.span = t.span ∧
      e.inFront (tokenize source) = ts ++ part := by
  obtain ⟨t, ht, hat⟩ := h
  obtain ⟨part, rest, hpart⟩ := List.append_of_mem ht
  have hpairwise := (covers_tokenize source).pairwise_start
  rw [hpart, ← List.append_assoc] at hc
  rw [hc] at hpairwise
  have hne : ∀ u ∈ ts ++ part, (u.span != e.span) = true := by
    intro u hu
    have hlt := (List.pairwise_append.1 hpairwise).2.2 u hu t List.mem_cons_self
    simp only [bne_iff_ne, ne_eq, hat.span_eq]
    intro heq
    exact absurd (congrArg Span.start heq) hlt.ne
  refine ⟨part, t, rest, hpart, hat.span_eq, ?_⟩
  rw [SyntaxError.inFront, hc, List.takeWhile_append_of_pos hne, List.takeWhile_cons]
  simp [hat.span_eq]

namespace Cursor

theorem ahead_append (ts : List Token) (c : Cursor) :
    (Cursor.mk (ts ++ c.tokens) c.length).ahead = ts ++ c.ahead :=
  List.append_assoc ..

theorem ahead_eq_cons {c : Cursor} (h : c.kind ≠ .endOfInput) :
    c.ahead = c.current :: c.advance.ahead := by
  conv_lhs => rw [eq_of_kind_ne h]
  rfl

theorem exists_of_ahead {c : Cursor} {ts us : List Token} (h : c.ahead = ts ++ us) (hus : us ≠ []) :
    ∃ d : Cursor, c = ⟨ts ++ d.tokens, d.length⟩ := by
  have htokens := congrArg List.dropLast h
  rw [ahead, List.dropLast_concat, List.dropLast_append_of_ne_nil hus] at htokens
  exact ⟨⟨us.dropLast, c.length⟩, by rw [← htokens]⟩

end Cursor

namespace Schema

open Cursor SyntaxError

/-! The errors outside the columns name none. -/

theorem names_unexpected {expected : String} (h : expected ≠ "',' or ')'") (c : Cursor) :
    (c.unexpected expected).Names none :=
  ⟨rfl, fun _ heq => h (SyntaxFault.unexpected.inj heq).1⟩

theorem names_expect {expected : String} (h : expected ≠ "',' or ')'") (kind : TokenKind)
    (c : Cursor) : FailsOnly (Names none) (c.expect kind expected) := by
  unfold expect
  split
  · exact .ok _
  · exact .error (names_unexpected h c)

theorem names_takeName {expected : String} (h : expected ≠ "',' or ')'") (c : Cursor) :
    FailsOnly (Names none) (takeName expected c) := by
  unfold takeName
  split
  · exact .ok _
  · exact .error (names_unexpected h c)

theorem names_takeDefaultLiteral (c : Cursor) :
    FailsOnly (Names none) (takeDefaultLiteral c) := by
  unfold takeDefaultLiteral
  split
  · exact .ok _
  · exact .error (names_unexpected (by decide) c)

theorem names_takeDefault (now : Clock) (type : DataType) (c : Cursor) :
    FailsOnly (Names none) (takeDefault now type c) := by
  unfold takeDefault
  split
  · split
    · exact (names_expect (by decide) _ _).bind fun _ _ => .ok _
    · exact .ok _
  · split
    · exact names_takeDefaultLiteral c.advance
    · exact names_takeDefaultLiteral c

theorem names_skipIfNotExists (c : Cursor) : FailsOnly (Names none) (skipIfNotExists c) := by
  unfold skipIfNotExists
  split
  · exact (names_expect (by decide) _ _).bind fun d _ => names_expect (by decide) _ d
  · exact .ok _

/-! The errors in a column name it, at whichever of its tokens they are. -/

theorem names_inField {e : SyntaxError} (h : e.Names none) (index : Nat) :
    (e.inField index).Names (some index) :=
  ⟨rfl, h.fault_ne⟩

theorem names_inColumn {α : Type} {x : Except SyntaxError α} (h : FailsOnly (Names none) x)
    (index : Nat) : FailsOnly (Names (some index)) (inColumn index x) := by
  cases x with
  | error e => exact .error (names_inField (h e rfl) index)
  | ok a => exact .ok a

theorem names_takeTypeArgument (index : Nat) (c : Cursor) :
    FailsOnly (Names (some index)) (takeTypeArgument index c) := by
  unfold takeTypeArgument
  split
  · dsimp only
    split
    · exact .ok _
    · exact .error ⟨rfl, nofun⟩
  · exact .error (names_inField (names_unexpected (by decide) c) index)

theorem names_takeTypeArguments (index more : Nat) (c : Cursor) :
    FailsOnly (Names (some index)) (takeTypeArguments index more c) := by
  have hlast (n : Nat) (d : Cursor) : FailsOnly (Names (some index)) (do
      let d ← closeTypeArguments index d
      return ([n], d)) :=
    (names_inColumn (names_expect (by decide) _ d) index).bind fun _ _ => .ok _
  induction more generalizing c with
  | zero => exact (names_takeTypeArgument index c).bind fun (n, d) _ => hlast n d
  | succ more ih =>
    refine (names_takeTypeArgument index c).bind fun (n, d) _ => ?_
    dsimp only
    split
    · exact (ih d.advance).bind fun _ _ => .ok _
    · exact hlast n d

theorem names_typeArguments (index more : Nat) (c : Cursor) :
    FailsOnly (Names (some index)) (typeArguments index more c) := by
  unfold typeArguments
  split
  · exact names_takeTypeArguments index more c.advance
  · exact .ok _

theorem names_takeDataType (index : Nat) (c : Cursor) :
    FailsOnly (Names (some index)) (takeDataType index c) := by
  unfold takeDataType
  split
  · exact .ok _
  · split
    · exact .error ⟨rfl, nofun⟩
    · exact (names_typeArguments index 0 c.advance).bind fun _ _ => .ok _
    · exact (names_typeArguments index 1 c.advance).bind fun _ _ => .ok _
    · exact .ok _
  · exact .error (names_inField (names_unexpected (by decide) c) index)

theorem names_takeModifier (now : Clock) (index : Nat) (type : DataType) (c : Cursor) :
    FailsOnly (Names (some index)) (takeModifier now index type c) := by
  unfold takeModifier
  split
  · exact (names_inColumn (names_expect (by decide) _ _) index).bind fun _ _ => .ok _
  · exact (names_inColumn (names_expect (by decide) _ _) index).bind fun _ _ => .ok _
  · exact .ok _
  · exact .ok _
  · exact (names_inColumn (names_takeDefault now type c.advance) index).bind fun _ _ => .ok _
  · exact .error (names_inField (names_unexpected (by decide) c) index)

theorem names_takeModifiers (now : Clock) (index : Nat) (type : DataType) (c : Cursor) :
    FailsOnly (Names (some index)) (takeModifiers now index type c) := by
  fun_induction takeModifiers now index type c with
  | case1 => exact .ok _
  | case2 c _ e h => exact .error (names_takeModifier now index type c e h)
  | case3 c _ m d _ ih => exact ih.bind fun _ _ => .ok _

theorem names_takeField (now : Clock) (index : Nat) (c : Cursor) :
    FailsOnly (Names (some index)) (takeField now index c) :=
  (names_inColumn (names_takeName (by decide) c) index).bind fun (_, c) _ =>
    (names_takeDataType index c).bind fun (type, c) _ =>
      (names_takeModifiers now index type c).bind fun _ _ => .ok _

/-- The values of an enumeration may lack their comma, but they are no columns. -/
theorem field_eq_none_of_takeEnumeration (c : Cursor) :
    FailsOnly (fun e => e.field? = none) (takeEnumeration c) := by
  have hplain {α : Type} {x : Except SyntaxError α} (h : FailsOnly (Names none) x) :
      FailsOnly (fun e => e.field? = none) x :=
    fun e he => (h e he).field_eq
  have hexpect (kind : TokenKind) (expected : String) (c : Cursor) :
      FailsOnly (fun e => e.field? = none) (c.expect kind expected) := by
    unfold expect
    split
    · exact .ok _
    · exact .error rfl
  have hvalues (c : Cursor) :
      FailsOnly (fun e => e.field? = none) (c.commaSeparated enumValue? "enum value") := by
    fun_induction commaSeparated enumValue? "enum value" c with
    | case1 => exact .error rfl
    | case2 c a _ _ ih => exact ih.bind fun _ _ => .ok _
    | case3 => exact .ok _
  refine (hplain (names_takeName (by decide) c)).bind ?_
  rintro ⟨_, c⟩ -
  refine (hexpect _ _ c).bind fun c _ => (hexpect _ _ c).bind fun c _ =>
    (hexpect _ _ c).bind fun c _ => (hvalues c).bind ?_
  rintro ⟨_, c⟩ -
  exact (hexpect _ _ c).bind fun _ _ => .ok _

section

variable {now : Clock} {index : Nat}

/-! Where a column ends. -/

theorem endsField_of_takeModifiers {type : DataType} {c d : Cursor} {ms : List Modifier}
    (h : takeModifiers now index type c = .ok (ms, d)) : endsField d.kind := by
  fun_induction takeModifiers now index type c generalizing d ms with
  | case1 c hc =>
    cases h
    exact hc
  | case2 => cases h
  | case3 c _ m c₁ _ ih =>
    obtain ⟨⟨ms', c₂⟩, h₂, h⟩ := bind_eq_ok.1 h
    cases h
    exact ih h₂

theorem endsField_of_takeField {c d : Cursor} {f : Field}
    (h : takeField now index c = .ok (f, d)) : endsField d.kind := by
  obtain ⟨⟨name, c₁⟩, -, h⟩ := bind_eq_ok.1 h
  obtain ⟨⟨type, c₂⟩, -, h⟩ := bind_eq_ok.1 h
  obtain ⟨⟨ms, c₃⟩, h₃, h⟩ := bind_eq_ok.1 h
  cases h
  exact endsField_of_takeModifiers h₃

/-- Behind a column there is a comma and another one, or the closing parenthesis. -/
theorem takeFields_of_endsField {c d : Cursor} {f : Field}
    (h : takeField now index c = .ok (f, d)) :
    takeFields now index c =
      if d.kind = .comma then do
        let (fs, d) ← takeFields now (index + 1) d.advance
        return (f :: fs, d)
      else .ok ([f], d.advance) := by
  rw [takeFields_of_takeField h]
  split
  · rfl
  · rename_i hcomma
    have hright : d.kind = .rightParen := (endsField_of_takeField h).resolve_left hcomma
    simp only [expect, hright, ↓reduceIte]
    rfl

theorem takeFields_of_error {c : Cursor} {e : SyntaxError}
    (h : takeField now index c = .error e) : takeFields now index c = .error e := by
  rw [takeFields]
  split <;> rename_i h' <;> rw [h] at h' <;> cases h'
  rfl

/-! From the error to the column. -/

/-- The error is that of a column definition which begins behind tokens of which `At` is true, with
`index` added to the number of columns that are done. -/
def FailsInColumn (now : Clock) (At : List Token → List Field → Prop) (index : Nat) (c : Cursor)
    (e : SyntaxError) : Prop :=
  ∃ us done d, At us done ∧ c = ⟨us ++ d.tokens, d.length⟩ ∧
    takeField now (index + done.length) d = .error e

theorem FailsInColumn.of_append {At At' : List Token → List Field → Prop} {c d : Cursor}
    {e : SyntaxError} {ts : List Token} (h : FailsInColumn now At index d e)
    (hc : c = ⟨ts ++ d.tokens, d.length⟩) (hAt : ∀ us done, At us done → At' (ts ++ us) done) :
    FailsInColumn now At' index c e := by
  obtain ⟨us, done, d', hus, rfl, hfield⟩ := h
  exact ⟨ts ++ us, done, d', hAt us done hus, by rw [hc, List.append_assoc], hfield⟩

theorem failsInColumn_of_takeFields {c : Cursor} {e : SyntaxError}
    (h : takeFields now index c = .error e) :
    FailsInColumn now (InSequence (WithComma (IsField now))) index c e := by
  fun_induction takeFields now index c with
  | case1 index c e h₀ =>
    cases h
    exact ⟨[], [], c, .nil, rfl, h₀⟩
  | case2 index c f d h₁ hk ih =>
    obtain ⟨us, done, d', hus, heq, hfield⟩ := ih (eq_error_of_bind_pure h)
    obtain ⟨ts, hts, hc⟩ := exists_of_takeField h₁
    obtain ⟨comma, hcomma, hd⟩ := exists_of_kind hk (by simp)
    refine ⟨(ts ++ [comma]) ++ us, f :: done, d', .cons ⟨ts, comma, rfl, hts, hcomma⟩ hus, ?_, ?_⟩
    · rw [hc, hd, heq]
      simp
    · rw [List.length_cons, Nat.add_comm done.length, ← Nat.add_assoc]
      exact hfield
  | case3 index c f d h₁ hk =>
    have hright : d.kind = .rightParen := (endsField_of_takeField h₁).resolve_left hk
    simp only [expect, hright, ↓reduceIte] at h
    cases h

theorem failsInColumn_of_takeTable {c : Cursor} {e : SyntaxError}
    (h : takeTable now c = .error e) :
    e.Names none ∨ ∃ ts name left d, IsTableName ts name ∧ left.kind = .leftParen ∧
      c = ⟨ts ++ left :: d.tokens, d.length⟩ ∧
      FailsInColumn now (InSequence (WithComma (IsField now))) 0 d e := by
  rcases bind_eq_error.1 h with h | ⟨c₁, h₁, h⟩
  · exact .inl (names_skipIfNotExists c e h)
  rcases bind_eq_error.1 h with h | ⟨⟨name, c₂⟩, h₂, h⟩
  · exact .inl (names_takeName (by decide) c₁ e h)
  rcases bind_eq_error.1 h with h | ⟨c₃, h₃, h⟩
  · exact .inl (names_expect (by decide) _ c₂ e h)
  obtain ⟨ts, hts, hc⟩ := exists_of_skipIfNotExists h₁ h₂
  obtain ⟨left, hleft, hrest⟩ := exists_of_expect h₃ (by simp)
  exact .inr ⟨ts, name, left, c₃, hts, hleft, by rw [hc, hrest],
    failsInColumn_of_takeFields (eq_error_of_bind_pure h)⟩

theorem failsInColumn_of_takeDeclaration {c : Cursor} {e : SyntaxError}
    (hk : c.kind = .keyword .create) (h : takeDeclaration now c.advance = .error e) :
    e.field? = none ∨ FailsInColumn now (AtColumn now) 0 c e := by
  unfold takeDeclaration at h
  split at h
  · rename_i htable
    rcases failsInColumn_of_takeTable (eq_error_of_bind_pure h) with
      h | ⟨ts, name, left, d, hts, hleft, heq, h⟩
    · exact .inl h.field_eq
    · obtain ⟨create, hcreate, hc⟩ := exists_of_kind hk (by simp)
      obtain ⟨table, htable, hadvance⟩ := exists_of_kind htable (by simp)
      have hfront : [create, table].map Token.kind = [.keyword .create, .keyword .table] := by
        simp [hcreate, htable]
      have hcursor : c = ⟨([create, table] ++ (ts ++ [left])) ++ d.tokens, d.length⟩ := by
        rw [hc, hadvance, heq]
        simp
      refine .inr (h.of_append hcursor fun us done hus => ?_)
      simpa using AtColumn.mk .nil hfront hts hleft hus
  · exact .inl (field_eq_none_of_takeEnumeration _ e (eq_error_of_bind_pure h))
  · cases h
    exact .inl rfl

theorem failsInColumn_of_takeItems {c : Cursor} {e : SyntaxError}
    (h : takeItems now c = .error e) :
    e.field? = none ∨ FailsInColumn now (AtColumn now) 0 c e := by
  fun_induction takeItems now c with
  | case1 => cases h
  | case2 c hk ih =>
    obtain ⟨t, ht, hc⟩ := exists_of_kind hk (by simp)
    have hc : c = ⟨[t] ++ c.advance.tokens, c.advance.length⟩ := hc
    refine (ih h).imp id fun h => h.of_append hc ?_
    rintro _ done ⟨hbefore, hfront, hname, hleft, hdone⟩
    exact .mk (.semicolon ht hbefore) hfront hname hleft hdone
  | case3 c hk e' h' =>
    cases h
    exact failsInColumn_of_takeDeclaration hk h'
  | case4 c hk item d h' ih =>
    obtain ⟨ts, hts, hc⟩ := exists_of_takeDeclaration hk h'
    refine (ih (eq_error_of_bind_pure h)).imp id fun h => h.of_append hc ?_
    rintro _ done ⟨hbefore, hfront, hname, hleft, hdone⟩
    rw [← List.append_assoc]
    exact .mk (.declaration hts hbefore) hfront hname hleft hdone
  | case5 =>
    cases h
    exact .inl rfl

/-! From the column to the error. -/

theorem takeFields_append {us : List Token} {done : List Field}
    (h : InSequence (WithComma (IsField now)) us done) (index : Nat) (rest : List Token) (n : Nat) :
    takeFields now index ⟨us ++ rest, n⟩ = do
      let (fs, d) ← takeFields now (index + done.length) ⟨rest, n⟩
      return (done ++ fs, d) := by
  induction h generalizing index with
  | nil => cases h : takeFields now index ⟨rest, n⟩ <;> simp [h]
  | @cons ts us f done h _ ih =>
    obtain ⟨ts, comma, rfl, hts, hcomma⟩ := h
    have hends : endsField (Cursor.mk (comma :: (us ++ rest)) n).kind := Or.inl hcomma
    have hfield : takeField now index ⟨ts ++ comma :: (us ++ rest), n⟩ =
        .ok (f, ⟨comma :: (us ++ rest), n⟩) := hts.takeField hends
    rw [List.append_assoc, List.append_assoc, List.singleton_append,
      takeFields_of_endsField hfield, if_pos (by exact hcomma), advance_cons, ih, List.length_cons,
      Nat.add_assoc index, Nat.add_comm 1]
    cases takeFields now (index + (done.length + 1)) ⟨rest, n⟩ <;> rfl

theorem takeItems_append {before : List Token} {items : List SchemaItem}
    (h : IsSchema now before items) (rest : List Token) (n : Nat) :
    takeItems now ⟨before ++ rest, n⟩ = do
      let more ← takeItems now ⟨rest, n⟩
      return items ++ more := by
  induction h with
  | nil => cases h : takeItems now ⟨rest, n⟩ <;> simp [h]
  | semicolon ht _ ih =>
    rw [List.cons_append, takeItems_of_semicolon (by exact ht)]
    exact ih
  | @declaration ts us item items h _ ih =>
    obtain ⟨hk, htake⟩ := h.takeDeclaration (us ++ rest) n
    rw [List.append_assoc, takeItems_of_create hk, htake]
    show (takeItems now ⟨us ++ rest, n⟩ >>= _) = _
    rw [ih]
    cases takeItems now ⟨rest, n⟩ <;> rfl

/-- Up to a column nothing fails, and from there the other columns of the table are taken. -/
theorem AtColumn.takeItems {us : List Token} {done : List Field} (h : AtColumn now us done)
    (rest : List Token) (n : Nat) :
    ∃ items name, takeItems now ⟨us ++ rest, n⟩ = do
      let (fs, d) ← takeFields now done.length ⟨rest, n⟩
      let more ← Schema.takeItems now d
      return items ++ .table ⟨name, done ++ fs⟩ :: more := by
  obtain @⟨_, front, ts, us, left, items, name, done, hbefore, hfront, hname, hleft, hdone⟩ := h
  simp only [List.map_eq_cons_iff, List.map_eq_nil_iff] at hfront
  obtain ⟨create, _, rfl, hcreate, table, _, rfl, htable, rfl⟩ := hfront
  obtain ⟨c, hskip, htake⟩ := hname.takeName "table name" (left :: (us ++ rest)) n
  have htable : takeDeclaration now ⟨table :: (ts ++ left :: (us ++ rest)), n⟩ = do
      let (fs, d) ← takeFields now done.length ⟨rest, n⟩
      return (.table ⟨name, done ++ fs⟩, d) := by
    have hfields := takeFields_append hdone 0 rest n
    rw [Nat.zero_add] at hfields
    simp only [takeDeclaration, kind_cons, htable, advance_cons, takeTable, hskip]
    show ((takeName "table name" c >>= _) >>= _) = _
    rw [htake]
    show ((expect ⟨left :: (us ++ rest), n⟩ .leftParen "'('" >>= _) >>= _) = _
    rw [expect_cons hleft]
    show ((takeFields now 0 ⟨us ++ rest, n⟩ >>= _) >>= _) = _
    rw [hfields]
    cases takeFields now done.length ⟨rest, n⟩ <;> rfl
  refine ⟨items, name, ?_⟩
  have hcreate : (Cursor.mk (create :: table :: (ts ++ left :: (us ++ rest))) n).kind =
      .keyword .create := hcreate
  simp only [List.append_assoc, List.cons_append, List.nil_append]
  rw [takeItems_append hbefore, takeItems_of_create hcreate, advance_cons, htable]
  cases takeFields now done.length ⟨rest, n⟩ with
  | error e => rfl
  | ok taken =>
    obtain ⟨fs, d⟩ := taken
    show ((Schema.takeItems now d >>= _) >>= _) = (Schema.takeItems now d >>= _)
    cases Schema.takeItems now d <;> rfl

/-- Once a column is complete, errors are behind the token at which it ended. -/
theorem AtColumn.blames {us : List Token} {done : List Field} (h : AtColumn now us done)
    {c d : Cursor} {f : Field} (hfield : takeField now done.length c = .ok (f, d)) {e : SyntaxError}
    (he : Schema.takeItems now ⟨us ++ c.tokens, c.length⟩ = .error e) : d.advance.Blames e := by
  have hfields : d.advance.ReadsOn Prod.snd (takeFields now done.length c) := by
    rw [takeFields_of_endsField hfield]
    split
    · exact (readsOn_takeFields now _ d.advance).map fun _ => rfl
    · exact List.suffix_rfl
  obtain ⟨items, name, heq⟩ := h.takeItems c.tokens c.length
  rw [heq] at he
  rcases bind_eq_error.1 he with he | ⟨⟨fs, d'⟩, hok, he⟩
  · exact hfields.blames he
  · exact (blames_of_takeItems (eq_error_of_bind_pure he)).of_suffix (hfields.suffix hok)

theorem fault_ne_of_takeTable {c : Cursor} {e : SyntaxError} (h : takeTable now c = .error e)
    (t : Token) : e.fault ≠ .unexpected "',' or ')'" t := by
  rcases failsInColumn_of_takeTable h with h | ⟨_, _, _, _, -, -, -, _, _, d, -, -, h⟩
  · exact h.fault_ne t
  · exact (names_takeField now _ d e h).fault_ne t

theorem inColumns_of_field {source : String} {e : SyntaxError}
    (h : parseSchema now source = .error e) {i : Nat} (hi : e.field? = some i) :
    ∃ done, InColumns now (e.inFront (tokenize source)) done ∧ done.length = i := by
  rcases failsInColumn_of_takeItems h with h | ⟨us, done, d, hus, hc, hfield⟩
  · rw [h] at hi
    cases hi
  have hname := (names_takeField now _ d e hfield).field_eq
  have hblames : d.Blames e := (readsOn_takeField now _ d).blames hfield
  have hsource : tokenize source = us ++ d.ahead := by rw [← ahead_ofSource, hc, ahead_append]
  obtain ⟨part, t, rest, hpart, -, hfront⟩ := hblames.inFront hsource
  have hnot : ¬ BeginsWithColumn now part := by
    -- Where a whole column stands, taking it does not fail.
    rintro ⟨ts, f, u, more, hts, hu, rfl⟩
    obtain ⟨d', rfl⟩ := exists_of_ahead hpart (List.cons_ne_nil t rest)
    have hends : endsField (Cursor.mk (u :: (more ++ d'.tokens)) d'.length).kind := hu
    rw [List.append_assoc, List.cons_append, hts.takeField hends] at hfield
    cases hfield
  exact ⟨done, ⟨us, part, hfront, hus, hnot⟩, by simpa [hname] using hi⟩

theorem field_of_inColumns {source : String} {e : SyntaxError}
    (h : parseSchema now source = .error e) {done : List Field}
    (hdone : InColumns now (e.inFront (tokenize source)) done) : e.field? = some done.length := by
  obtain ⟨us, part, hfront, hus, hpart⟩ := hdone
  obtain ⟨before, t, rest, hahead, -, hbefore⟩ :=
    (blames_of_takeItems h).inFront (List.nil_append _).symm
  rw [List.nil_append, hfront] at hbefore
  rw [← hbefore, List.append_assoc] at hahead
  obtain ⟨c, hc⟩ := exists_of_ahead hahead (by simp)
  have hitems : takeItems now ⟨us ++ c.tokens, c.length⟩ = .error e := hc ▸ h
  cases hfield : takeField now done.length c with
  | error e' =>
    obtain ⟨items, name, heq⟩ := hus.takeItems c.tokens c.length
    rw [heq, takeFields_of_error hfield] at hitems
    cases hitems
    exact (names_takeField now _ c e hfield).field_eq
  | ok taken =>
    -- The error would be behind the end of the column, and the tokens in front of it would
    -- contain the column.
    obtain ⟨f, d⟩ := taken
    exfalso
    obtain ⟨ts, hts, hcolumn⟩ := exists_of_takeField hfield
    have hends := endsField_of_takeField hfield
    have hend : d.kind ≠ .endOfInput := by rcases hends with h | h <;> simp [h]
    have hsource : tokenize source = us ++ (ts ++ [d.current]) ++ d.advance.ahead := by
      rw [← ahead_ofSource, hc, ahead_append, hcolumn, ahead_append, ahead_eq_cons hend]
      simp
    obtain ⟨more, _, _, -, -, hmore⟩ := (hus.blames hfield hitems).inFront hsource
    rw [hfront, List.append_assoc, List.append_cancel_left_eq, List.append_assoc] at hmore
    exact hpart ⟨ts, f, d.current, more, hts, hends, hmore⟩

end

end Schema

/-- An error of a schema is at one of its tokens. It names a column definition if and only if the
tokens in front of that one end between the parentheses of a table's columns, and by the number of
columns of the table that are complete there. No table is rejected for the want of a comma or a
parenthesis behind a column, since taking a column ends at one. -/
theorem field_eq_some_iff (now : Clock) :
    (∀ source e, parseSchema now source = .error e →
      (∃ t rest, tokenize source = e.inFront (tokenize source) ++ t :: rest ∧ e.span = t.span) ∧
      ∀ i, e.field? = some i ↔
        ∃ done, Schema.InColumns now (e.inFront (tokenize source)) done ∧ done.length = i) ∧
    (∀ c e, Schema.takeTable now c = .error e → ∀ t, e.fault ≠ .unexpected "',' or ')'" t) ∧
    ∀ index c f d, Schema.takeField now index c = .ok (f, d) →
      d.kind = .comma ∨ d.kind = .rightParen := by
  refine ⟨fun source e h => ⟨?_, fun i => ⟨Schema.inColumns_of_field h, ?_⟩⟩,
    fun _ _ => Schema.fault_ne_of_takeTable, fun _ _ _ _ => Schema.endsField_of_takeField⟩
  · obtain ⟨before, t, rest, hahead, hspan, hbefore⟩ :=
      (Schema.blames_of_takeItems h).inFront (List.nil_append _).symm
    rw [List.nil_append] at hbefore
    exact ⟨t, rest, by rw [hbefore]; exact hahead, hspan⟩
  · rintro ⟨done, hdone, rfl⟩
    exact Schema.field_of_inColumns h hdone

/-- The commas in it are one in the arguments of a type and one between columns. -/
def wordArgumentText : String := "CREATE TABLE t (a DECIMAL(10, 2), b VARCHAR(x))"

def wordArgumentError : SyntaxError :=
  ⟨.unexpected "type argument" ⟨.ident, "X", ⟨44, 45⟩⟩, ⟨44, 45⟩, some 1⟩

/-- Two columns without a comma between them. -/
def missingCommaError : SyntaxError :=
  ⟨.unexpected "column constraint, ',' or ')'" ⟨.ident, "B", ⟨9, 10⟩⟩, ⟨9, 10⟩, some 0⟩

def newYear : Moment := ⟨2024, 1, 1, 0, 0, 0⟩

theorem field_eq_some_iff_wordArgument :
    parseSchema newYear wordArgumentText = .error wordArgumentError ∧
      (∃ done, Schema.InColumns newYear
        (wordArgumentError.inFront (tokenize wordArgumentText)) done ∧ done.length = 1) ∧
      Schema.takeTable newYear (.ofSource "t (a INT b)") =
        .error missingCommaError ∧
      (∀ t, missingCommaError.fault ≠ .unexpected "',' or ')'" t) ∧
      ∃ f d, Schema.takeField newYear 1 (.ofSource "a DECIMAL(10, 2)) b") = .ok (f, d) ∧
        (d.kind = .comma ∨ d.kind = .rightParen) := by
  have hschema : parseSchema newYear wordArgumentText = .error wordArgumentError := by
    decide +kernel
  have htable : Schema.takeTable newYear (.ofSource "t (a INT b)") =
      .error missingCommaError := by
    decide +kernel
  have hfield : Schema.takeField newYear 1 (.ofSource "a DECIMAL(10, 2)) b") =
      .ok (.plain "a" (.decimal (some 10) (some 2)),
        ⟨[⟨.rightParen, ")", ⟨16, 17⟩⟩, ⟨.ident, "B", ⟨18, 19⟩⟩], 19⟩) := by
    decide +kernel
  obtain ⟨hcolumns, hfault, hends⟩ := field_eq_some_iff newYear
  exact ⟨hschema, ((hcolumns _ _ hschema).2 1).1 rfl, htable, hfault _ _ htable, _, _, hfield,
    hends _ _ _ _ hfield⟩

end TypedQueries
