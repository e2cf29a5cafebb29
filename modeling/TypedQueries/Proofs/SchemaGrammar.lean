import TypedQueries.Proofs.SchemaColumns
import TypedQueries.Proofs.TokenSpans
import TypedQueries.Proofs.UnplacedSchema

/-!
The grammar accepts exactly the texts of the schema language, and gives the declarations that they
stand for.
-/

namespace TypedQueries

namespace Schema

open Cursor

section

variable {now : Clock}

theorem exists_of_takeFields {index : Nat} {c d : Cursor} {fs : List Field}
    (h : takeFields now index c = .ok (fs, d)) :
    ∃ ts right, CommaSeparated (IsField now) ts fs ∧ right.kind = .rightParen ∧
      c = ⟨ts ++ right :: d.tokens, d.length⟩ := by
  fun_induction takeFields now index c generalizing d fs with
  | case1 => cases h
  | case2 index c f c₁ h₁ hk ih =>
    obtain ⟨⟨fs', c₂⟩, h₂, h⟩ := bind_eq_ok.1 h
    cases h
    obtain ⟨ts, hts, heq⟩ := exists_of_takeField h₁
    obtain ⟨comma, hcomma, hadvance⟩ := exists_of_kind hk (by simp)
    obtain ⟨us, right, hus, hright, hrest⟩ := ih h₂
    refine ⟨ts ++ comma :: us, right, .cons hts hcomma hus, hright, ?_⟩
    rw [heq, hadvance, hrest]
    simp
  | case3 index c f c₁ h₁ hk =>
    obtain ⟨c₂, h₂, h⟩ := bind_eq_ok.1 h
    cases h
    obtain ⟨ts, hts, heq⟩ := exists_of_takeField h₁
    obtain ⟨right, hright, hrest⟩ := exists_of_expect h₂ (by simp)
    exact ⟨ts, right, .one hts, hright, by rw [heq, hrest]⟩

theorem takeFields_of_takeField {index : Nat} {c d : Cursor} {f : Field}
    (h : takeField now index c = .ok (f, d)) :
    takeFields now index c =
      if d.kind = .comma then do
        let (fs, d) ← takeFields now (index + 1) d.advance
        return (f :: fs, d)
      else do
        let d ← d.expect .rightParen "',' or ')'"
        return ([f], d) := by
  rw [takeFields]
  split <;> rename_i h' <;> rw [h] at h' <;> cases h'
  rfl

theorem takeFields_of_commaSeparated {ts : List Token} {fs : List Field}
    (h : CommaSeparated (IsField now) ts fs) {right : Token} (hright : right.kind = .rightParen)
    (index : Nat) (rest : List Token) (n : Nat) :
    takeFields now index ⟨ts ++ right :: rest, n⟩ = .ok (fs, ⟨rest, n⟩) := by
  induction h generalizing index with
  | one h =>
    have hends : endsField (Cursor.mk (right :: rest) n).kind := Or.inr hright
    rw [takeFields_of_takeField (h.takeField hends), if_neg (by simp [hright])]
    exact bind_eq_ok.2 ⟨_, expect_cons hright _ _ _, rfl⟩
  | @cons ts us comma f fs h hcomma _ ih =>
    have hends : endsField (Cursor.mk (comma :: (us ++ right :: rest)) n).kind := Or.inl hcomma
    rw [List.append_assoc, List.cons_append, takeFields_of_takeField (h.takeField hends),
      if_pos (by exact hcomma)]
    exact bind_eq_ok.2 ⟨_, ih (index + 1), rfl⟩

theorem exists_of_skipIfNotExists {expected name : String} {c c₁ d : Cursor}
    (hskip : skipIfNotExists c = .ok c₁) (hname : takeName expected c₁ = .ok (name, d)) :
    ∃ ts, IsTableName ts name ∧ c = ⟨ts ++ d.tokens, d.length⟩ := by
  obtain ⟨t, ht, rfl⟩ := exists_of_takeName hname
  unfold skipIfNotExists at hskip
  split at hskip
  · rename_i hif
    obtain ⟨c₂, hnot, hexists⟩ := bind_eq_ok.1 hskip
    obtain ⟨u, hu, heq⟩ := exists_of_kind hif (by simp)
    obtain ⟨v, hv, hadvance⟩ := exists_of_expect hnot (by simp)
    obtain ⟨w, hw, hrest⟩ := exists_of_expect hexists (by simp)
    have hkinds : [u, v, w].map Token.kind = [.keyword .if, .keyword .not, .keyword .exists] := by
      simp [hu, hv, hw]
    exact ⟨[u, v, w] ++ [t], .ifNotExists hkinds ht, by rw [heq, hadvance, hrest]; rfl⟩
  · rename_i hif
    cases hskip
    exact ⟨[t], .bare ht hif, rfl⟩

theorem IsTableName.takeName {ts : List Token} {name : String} (h : IsTableName ts name)
    (expected : String) (rest : List Token) (n : Nat) :
    ∃ c, skipIfNotExists ⟨ts ++ rest, n⟩ = .ok c ∧
      takeName expected c = .ok (name, ⟨rest, n⟩) := by
  cases h with
  | @bare t _ hname hif =>
    exact ⟨⟨t :: rest, n⟩, by simp [skipIfNotExists, hif], hname.takeName _ _ _⟩
  | @ifNotExists ts t _ hkinds hname =>
    simp only [List.map_eq_cons_iff, List.map_eq_nil_iff] at hkinds
    obtain ⟨u, _, rfl, hu, v, _, rfl, hv, w, _, rfl, hw, rfl⟩ := hkinds
    refine ⟨⟨t :: rest, n⟩, ?_, hname.takeName _ _ _⟩
    rw [skipIfNotExists, if_pos (by exact hu)]
    exact bind_eq_ok.2 ⟨_, expect_cons hv _ _ _, expect_cons hw _ _ _⟩

theorem enumValue?_eq_some_iff {t : Token} {value : String} :
    enumValue? t = some value ↔ IsValue t value := by
  simp [enumValue?, IsValue]

theorem kind_of_isValue {t : Token} {value : String} (h : IsValue t value) :
    t.kind ≠ .endOfInput := by
  simp [h.1]

theorem exists_of_takeTable {c d : Cursor} {table : Table} (h : takeTable now c = .ok (table, d)) :
    ∃ ts left us right, IsTableName ts table.name ∧ left.kind = .leftParen ∧
      CommaSeparated (IsField now) us table.fields ∧ right.kind = .rightParen ∧
      c = ⟨ts ++ left :: (us ++ right :: d.tokens), d.length⟩ := by
  obtain ⟨c₁, h₁, h⟩ := bind_eq_ok.1 h
  obtain ⟨⟨name, c₂⟩, h₂, h⟩ := bind_eq_ok.1 h
  obtain ⟨c₃, h₃, h⟩ := bind_eq_ok.1 h
  obtain ⟨⟨fields, c₄⟩, h₄, h⟩ := bind_eq_ok.1 h
  cases h
  obtain ⟨ts, hts, rfl⟩ := exists_of_skipIfNotExists h₁ h₂
  obtain ⟨left, hleft, hadvance⟩ := exists_of_expect h₃ (by simp)
  obtain ⟨us, right, hus, hright, rfl⟩ := exists_of_takeFields h₄
  exact ⟨ts, left, us, right, hts, hleft, hus, hright, by rw [hadvance]⟩

theorem exists_of_takeEnumeration {c d : Cursor} {e : Enumeration}
    (h : takeEnumeration c = .ok (e, d)) :
    ∃ t middle us right, IsName t e.name ∧
      middle.map Token.kind = [.keyword .as, .keyword .enum, .leftParen] ∧
      CommaSeparated (OneToken IsValue) us e.values ∧ right.kind = .rightParen ∧
      c = ⟨t :: (middle ++ (us ++ right :: d.tokens)), d.length⟩ := by
  obtain ⟨⟨name, c₁⟩, h₁, h⟩ := bind_eq_ok.1 h
  obtain ⟨c₂, h₂, h⟩ := bind_eq_ok.1 h
  obtain ⟨c₃, h₃, h⟩ := bind_eq_ok.1 h
  obtain ⟨c₄, h₄, h⟩ := bind_eq_ok.1 h
  obtain ⟨⟨values, c₅⟩, h₅, h⟩ := bind_eq_ok.1 h
  obtain ⟨c₆, h₆, h⟩ := bind_eq_ok.1 h
  cases h
  obtain ⟨t, ht, rfl⟩ := exists_of_takeName h₁
  obtain ⟨u, hu, heq₁⟩ := exists_of_expect h₂ (by simp)
  obtain ⟨v, hv, heq₂⟩ := exists_of_expect h₃ (by simp)
  obtain ⟨w, hw, heq₃⟩ := exists_of_expect h₄ (by simp)
  obtain ⟨us, hus, heq₄⟩ := exists_of_commaSeparated enumValue?_eq_some_iff kind_of_isValue h₅
  obtain ⟨right, hright, heq₅⟩ := exists_of_expect h₆ (by simp)
  refine ⟨t, [u, v, w], us, right, ht, by simp [hu, hv, hw], hus, hright, ?_⟩
  rw [heq₁, heq₂, heq₃, heq₄, heq₅]
  rfl

theorem exists_of_takeDeclaration {c d : Cursor} {item : SchemaItem}
    (hk : c.kind = .keyword .create) (h : takeDeclaration now c.advance = .ok (item, d)) :
    ∃ ts, IsDeclaration now ts item ∧ c = ⟨ts ++ d.tokens, d.length⟩ := by
  obtain ⟨create, hcreate, heq⟩ := exists_of_kind hk (by simp)
  unfold takeDeclaration at h
  split at h
  · rename_i htable
    obtain ⟨⟨table, c₁⟩, h₁, h⟩ := bind_eq_ok.1 h
    cases h
    obtain ⟨t, ht, hadvance⟩ := exists_of_kind htable (by simp)
    obtain ⟨ts, left, us, right, hts, hleft, hus, hright, hrest⟩ := exists_of_takeTable h₁
    have hfront : [create, t].map Token.kind = [.keyword .create, .keyword .table] := by
      simp [hcreate, ht]
    refine ⟨_, .table hfront hts hleft hus hright, ?_⟩
    rw [heq, hadvance, hrest]
    simp
  · rename_i htype
    obtain ⟨⟨e, c₁⟩, h₁, h⟩ := bind_eq_ok.1 h
    cases h
    obtain ⟨u, hu, hadvance⟩ := exists_of_kind htype (by simp)
    obtain ⟨t, middle, us, right, ht, hmiddle, hus, hright, hrest⟩ := exists_of_takeEnumeration h₁
    have hfront : [create, u].map Token.kind = [.keyword .create, .keyword .type] := by
      simp [hcreate, hu]
    refine ⟨_, .enumeration hfront ht hmiddle hus hright, ?_⟩
    rw [heq, hadvance, hrest]
    simp
  · cases h

theorem IsDeclaration.takeDeclaration {ts : List Token} {item : SchemaItem}
    (h : IsDeclaration now ts item) (rest : List Token) (n : Nat) :
    (Cursor.mk (ts ++ rest) n).kind = .keyword .create ∧
      takeDeclaration now (Cursor.mk (ts ++ rest) n).advance = .ok (item, ⟨rest, n⟩) := by
  cases h with
  | @table front ts us left right name fields hfront hname hleft hfields hright =>
    simp only [List.map_eq_cons_iff, List.map_eq_nil_iff] at hfront
    obtain ⟨create, _, rfl, hcreate, table, _, rfl, htable, rfl⟩ := hfront
    obtain ⟨c, hskip, htake⟩ := hname.takeName "table name" (left :: (us ++ right :: rest)) n
    have hfields := takeFields_of_commaSeparated hfields hright 0 rest n
    refine ⟨hcreate, ?_⟩
    simp only [List.cons_append, List.nil_append, List.append_assoc, advance_cons,
      Schema.takeDeclaration, kind_cons, htable]
    refine bind_eq_ok.2 ⟨(⟨name, fields⟩, ⟨rest, n⟩), ?_, rfl⟩
    exact bind_eq_ok.2 ⟨_, hskip, bind_eq_ok.2 ⟨_, htake, bind_eq_ok.2
      ⟨_, expect_cons hleft _ _ _, bind_eq_ok.2 ⟨_, hfields, rfl⟩⟩⟩⟩
  | @enumeration front middle us t right name values hfront hname hmiddle hvalues hright =>
    simp only [List.map_eq_cons_iff, List.map_eq_nil_iff] at hfront hmiddle
    obtain ⟨create, _, rfl, hcreate, type, _, rfl, htype, rfl⟩ := hfront
    obtain ⟨u, _, rfl, hu, v, _, rfl, hv, w, _, rfl, hw, rfl⟩ := hmiddle
    have hcomma : (Cursor.mk (right :: rest) n).kind ≠ .comma := by simp [hright]
    have hvalues := commaSeparated_of_oneToken enumValue?_eq_some_iff hvalues hcomma "enum value"
    refine ⟨hcreate, ?_⟩
    simp only [List.cons_append, List.nil_append, List.append_assoc, advance_cons,
      Schema.takeDeclaration, kind_cons, htype]
    refine bind_eq_ok.2 ⟨(⟨name, values⟩, ⟨rest, n⟩), ?_, rfl⟩
    exact bind_eq_ok.2 ⟨_, hname.takeName _ _ _, bind_eq_ok.2 ⟨_, expect_cons hu _ _ _,
      bind_eq_ok.2 ⟨_, expect_cons hv _ _ _, bind_eq_ok.2 ⟨_, expect_cons hw _ _ _,
        bind_eq_ok.2 ⟨_, hvalues, bind_eq_ok.2 ⟨_, expect_cons hright _ _ _, rfl⟩⟩⟩⟩⟩⟩

theorem isSchema_of_takeItems {c : Cursor} {items : List SchemaItem}
    (htokens : ∀ t ∈ c.tokens, t.kind ≠ .endOfInput) (h : takeItems now c = .ok items) :
    IsSchema now c.tokens items := by
  fun_induction takeItems now c generalizing items with
  | case1 c hk =>
    cases h
    obtain ⟨tokens, n⟩ := c
    cases tokens with
    | nil => exact .nil
    | cons t ts => exact absurd hk (htokens t List.mem_cons_self)
  | case2 c hk ih =>
    obtain ⟨t, ht, heq⟩ := exists_of_kind hk (by simp)
    rw [heq] at htokens ⊢
    exact .semicolon ht (ih (fun u hu => htokens u (List.mem_cons_of_mem t hu)) h)
  | case3 => cases h
  | case4 c hk item d h₁ ih =>
    obtain ⟨items', h₂, h⟩ := bind_eq_ok.1 h
    cases h
    obtain ⟨ts, hts, rfl⟩ := exists_of_takeDeclaration hk h₁
    exact .declaration hts (ih (fun u hu => htokens u (List.mem_append_right ts hu)) h₂)
  | case5 => cases h

theorem takeItems_of_isSchema {ts : List Token} {items : List SchemaItem}
    (h : IsSchema now ts items) (n : Nat) : takeItems now ⟨ts, n⟩ = .ok items := by
  induction h with
  | nil => exact takeItems_of_endOfInput rfl
  | semicolon ht _ ih =>
    rw [takeItems_of_semicolon (by exact ht)]
    exact ih
  | @declaration ts us item items h _ ih =>
    obtain ⟨hk, htake⟩ := h.takeDeclaration us n
    rw [takeItems_of_create hk]
    exact bind_eq_ok.2 ⟨_, htake, bind_eq_ok.2 ⟨_, ih, rfl⟩⟩

end

end Schema

/-- A schema text is read if and only if its tokens are a schema, and as what this stands for. -/
theorem parseSchema_eq_ok_iff (now : Clock) (source : String) (items : List SchemaItem) :
    parseSchema now source = .ok items ↔ IsSchema now (sourceTokens source) items := by
  constructor
  · exact Schema.isSchema_of_takeItems fun t ht => kind_ne_endOfInput_of_mem ht
  · intro h
    exact Schema.takeItems_of_isSchema h source.utf8ByteSize

end TypedQueries
