import TypedQueries.Proofs.Regular
import TypedQueries.Proofs.Unplaced
import TypedQueries.Proofs.WhereLoop

/-!
Where the parts of a statement come from: its names, texts and numbers are those of tokens that were
read, each step of the grammar leaving a suffix of its tokens. It follows that a statement that was
read is regular.
-/

namespace TypedQueries

namespace Cursor

/-- A token that is not the end of input stands in the list. -/
theorem current_mem {c : Cursor} (h : c.kind ≠ .endOfInput) : c.current ∈ c.tokens := by
  obtain ⟨tokens, length⟩ := c
  cases tokens with
  | nil => exact absurd rfl h
  | cons t ts => exact List.mem_cons_self

theorem expect_suffix {c d : Cursor} {kind : TokenKind} {expected : String}
    (h : c.expect kind expected = .ok d) : d.tokens <:+ c.tokens := by
  unfold expect at h
  split at h
  · cases h
    exact c.advance_suffix
  · cases h

theorem mem_of_takeSome {α : Type} {f : Token → Option α} (hf : ∀ n, f (Token.endOfInput n) = none)
    {c : Cursor} {a : α} (h : (c.takeSome f).1 = some a) : ∃ t ∈ c.tokens, f t = some a := by
  obtain ⟨tokens, length⟩ := c
  cases tokens with
  | nil =>
    have hnone : f (Cursor.mk [] length).current = none := hf length
    simp [takeSome, hnone] at h
  | cons t ts =>
    refine ⟨t, List.mem_cons_self, ?_⟩
    have hcurrent : (Cursor.mk (t :: ts) length).current = t := rfl
    unfold takeSome at h
    rw [hcurrent] at h
    cases ht : f t <;> simp [ht] at h ⊢
    exact h

/-- A list with commas has an item, and each item was made of a token. -/
theorem commaSeparated_spec {α : Type} {item : Token → Option α}
    (hitem : ∀ n, item (Token.endOfInput n) = none) {expected : String} {c d : Cursor} {as : List α}
    (h : c.commaSeparated item expected = .ok (as, d)) :
    as ≠ [] ∧ (∀ a ∈ as, ∃ t ∈ c.tokens, item t = some a) ∧ d.tokens <:+ c.tokens := by
  have hmem {c : Cursor} {a : α} (ha : item c.current = some a) : ∃ t ∈ c.tokens, item t = some a :=
    mem_of_takeSome hitem (by simp [takeSome, ha])
  fun_induction commaSeparated item expected c generalizing d as with
  | case1 => cases h
  | case2 c a ha hk ih =>
    obtain ⟨⟨as', d'⟩, h1, h⟩ := bind_eq_ok.1 h
    cases h
    obtain ⟨-, hall, hsuffix⟩ := ih h1
    have hlater : c.advance.advance.tokens <:+ c.tokens :=
      c.advance.advance_suffix.trans c.advance_suffix
    refine ⟨by simp, ?_, hsuffix.trans hlater⟩
    intro b hb
    rcases List.mem_cons.1 hb with rfl | hb
    · exact hmem ha
    · obtain ⟨t, ht, hta⟩ := hall b hb
      exact ⟨t, hlater.subset ht, hta⟩
  | case3 c a ha hk =>
    cases h
    refine ⟨by simp, ?_, c.advance_suffix⟩
    intro b hb
    rcases List.mem_singleton.1 hb with rfl
    exact hmem ha

theorem expectUnsigned_spec {c d : Cursor} {expected : String} {n : Nat}
    (h : c.expectUnsigned expected = .ok (n, d)) : n < 2 ^ 64 ∧ d.tokens <:+ c.tokens := by
  unfold expectUnsigned at h
  split at h
  · dsimp only at h
    split at h
    · rename_i hlt
      cases h
      exact ⟨hlt, c.advance_suffix⟩
    · cases h
  · cases h

end Cursor

/-- The quoted texts among tokens, in their order. -/
def quotedTexts (ts : List Token) : List String :=
  (ts.filter fun t => t.kind = .string).map Token.literal

@[simp]
theorem quotedTexts_nil : quotedTexts [] = [] := rfl

theorem quotedTexts_append (ts us : List Token) :
    quotedTexts (ts ++ us) = quotedTexts ts ++ quotedTexts us := by
  simp [quotedTexts]

theorem quotedTexts_of_kind {t : Token} (h : t.kind = .string) : quotedTexts [t] = [t.literal] := by
  simp [quotedTexts, h]

theorem quotedTexts_of_ne {t : Token} (h : t.kind ≠ .string) : quotedTexts [t] = [] := by
  simp [quotedTexts, h]

/-- Whether every placeholder among tokens has a number of its own. -/
def allNumbered : List Token → Bool
  | [] => true
  | t :: ts => (t.kind != .dollar || ts.head?.any fun u => u.kind == .integer) && allNumbered ts

theorem allNumbered_of_suffix {ts us : List Token} (h : us <:+ ts) (hts : allNumbered ts = true) :
    allNumbered us = true := by
  induction ts with
  | nil =>
    obtain rfl := List.suffix_nil.1 h
    rfl
  | cons t ts ih =>
    rcases List.suffix_cons_iff.1 h with rfl | h
    · exact hts
    · exact ih h (Bool.and_eq_true_iff.1 hts).2

/-- The text of a value that is one. -/
def BindValue.text? : BindValue → Option String
  | .literal (.string text) => some text
  | _ => none

def textsOf (values : List BindValue) : List String := values.filterMap BindValue.text?

@[simp]
theorem textsOf_nil : textsOf [] = [] := rfl

theorem textsOf_singleton (v : BindValue) : textsOf [v] = v.text?.toList := by
  cases h : v.text? <;> simp [textsOf, h]

theorem textsOf_append (values more : List BindValue) :
    textsOf (values ++ more) = textsOf values ++ textsOf more := by
  simp [textsOf]

/-- What a value may be that was read from tokens. A placeholder with a number of its own has 64 bits
for it. -/
def BindValue.ReadFrom (ts : List Token) : BindValue → Prop
  | .param position => 1 ≤ position ∧ (allNumbered ts = true → position < 2 ^ 64)
  | .literal (.string _) => True
  | .literal (.integer n) => 0 ≤ n ∧ n < 2 ^ 63
  | .literal (.boolean _) => True
  | .literal .null => True

theorem BindValue.inRange_of_readFrom {ts : List Token} {b : Bind} (h : b.value.ReadFrom ts)
    (hb : b.position < 2 ^ 64) : b.value.InRange := by
  obtain ⟨column, value⟩ := b
  match value with
  | .param position => exact ⟨h.1, hb⟩
  | .literal (.integer _) => exact h
  | .literal (.string _) => trivial
  | .literal (.boolean _) => trivial
  | .literal .null => trivial

theorem BindValue.ReadFrom.isUnsigned {ts : List Token} {v : BindValue} (h : v.ReadFrom ts) :
    v.isUnsigned = true := by
  match v with
  | .param _ => rfl
  | .literal (.integer _) => exact decide_eq_true h.1
  | .literal (.string _) => rfl
  | .literal (.boolean _) => rfl
  | .literal .null => rfl

/-- A cursor in the midst of `ts`: the texts that were read and the quoted texts to come are among
those of `ts`, in this order. -/
structure Cursor.Within (ts : List Token) (texts : List String) (c : Cursor) : Prop where
  suffix : c.tokens <:+ ts
  order : (texts ++ quotedTexts c.tokens).Sublist (quotedTexts ts)

namespace Cursor.Within

variable {ts : List Token} {texts more : List String} {c d : Cursor}

theorem start (h : c.tokens <:+ ts) : c.Within ts [] :=
  ⟨h, (h.sublist.filter _).map _⟩

theorem of_suffix (h : c.Within ts texts) (hd : d.tokens <:+ c.tokens) : d.Within ts texts :=
  ⟨hd.trans h.suffix, (((hd.sublist.filter _).map _).append_left texts).trans h.order⟩

theorem advance (h : c.Within ts texts) : c.advance.Within ts texts := h.of_suffix c.advance_suffix

/-- Reads the text of the token under the cursor, if it is quoted. -/
theorem read (h : c.Within ts texts) : c.advance.Within ts (texts ++ quotedTexts [c.current]) := by
  refine ⟨h.advance.suffix, ?_⟩
  obtain ⟨tokens, length⟩ := c
  cases tokens with
  | nil =>
    have hnone : quotedTexts [(Cursor.mk [] length).current] = [] := quotedTexts_of_ne nofun
    rw [hnone, List.append_nil]
    exact h.advance.order
  | cons t tokens =>
    rw [List.append_assoc, ← quotedTexts_append]
    exact h.order

theorem forget (h : c.Within ts (texts ++ more)) : c.Within ts texts := by
  refine ⟨h.suffix, List.Sublist.trans ?_ h.order⟩
  rw [List.append_assoc]
  exact (List.sublist_append_right _ _).append_left texts

theorem add_textless (h : c.Within ts texts) {v : BindValue} (hv : v.text? = none) :
    c.Within ts (texts ++ textsOf [v]) := by
  rwa [textsOf_singleton, hv, Option.toList_none, List.append_nil]

theorem texts_sublist (h : c.Within ts texts) : texts.Sublist (quotedTexts ts) :=
  (List.sublist_append_left _ _).trans h.order

end Cursor.Within

structure Condition.ReadFrom (ts : List Token) (c : Condition) : Prop where
  column : ∃ t ∈ ts, Query.column? t = some c.column
  bind : c.bind.column = c.column
  operand : c.bind.value.isOperand = true
  value : c.bind.value.ReadFrom ts

/-- A table that was read from `ts`, and behind it the given texts. -/
def TableReadFrom (ts : List Token) (table : String) (texts : List String) : Prop :=
  ∃ t ∈ ts, Query.table? t = some table ∧ (quotedTexts [t] ++ texts).Sublist (quotedTexts ts)

structure Select.ReadFrom (ts : List Token) (s : Select) : Prop where
  columns : ∀ c ∈ s.columns, ∃ t ∈ ts, Query.item? t = some c
  table : TableReadFrom ts s.table (textsOf (s.conditions.map fun c => c.bind.value))
  conditions : ∀ c ∈ s.conditions, c.ReadFrom ts
  limit : ∀ n ∈ s.limit?, n < 2 ^ 64
  offset : ∀ n ∈ s.offset?, n < 2 ^ 64

structure Insert.ReadFrom (ts : List Token) (i : Insert) : Prop where
  table : TableReadFrom ts i.table (textsOf (i.values.map Bind.value))
  columns_ne : i.columns ≠ []
  columns : ∀ c ∈ i.columns, ∃ t ∈ ts, Query.column? t = some c
  tuples : ∃ tuples : List (List Bind), tuples ≠ [] ∧ tuples.flatten = i.values ∧
    ∀ t ∈ tuples, t.map Bind.column = i.columns
  values : ∀ b ∈ i.values, b.value.ReadFrom ts
  returning : ∀ c ∈ i.returning, ∃ t ∈ ts, Query.item? t = some c

namespace Query

open Cursor

variable {ts : List Token} {texts : List String} {bare bare' : Nat} {c d : Cursor}

theorem takePosition_spec {position : Nat} (hc : c.tokens <:+ ts) (hk : c.kind = .dollar)
    (h : takePosition bare c = .ok (position, bare', d)) :
    (BindValue.param position).ReadFrom ts ∧ d.tokens <:+ c.tokens := by
  unfold takePosition at h
  split at h
  · dsimp only at h
    split at h
    · cases h
    · rename_i hpos
      split at h
      · rename_i hlt
        cases h
        exact ⟨⟨Nat.pos_of_ne_zero hpos, fun _ => hlt⟩, c.advance.advance_suffix.trans c.advance_suffix⟩
      · cases h
  · rename_i hnext
    cases h
    refine ⟨⟨by omega, fun hts => ?_⟩, c.advance_suffix⟩
    have hcursor := allNumbered_of_suffix hc hts
    obtain ⟨tokens, length⟩ := c
    match tokens with
    | [] => cases hk
    | [t] => simp_all [allNumbered]
    | t :: u :: tokens => simp_all [allNumbered]

theorem takeInteger_spec {n : Int} (h : takeInteger c = .ok (n, d)) :
    (0 ≤ n ∧ n < 2 ^ 63) ∧ d = c.advance := by
  unfold takeInteger at h
  dsimp only at h
  split at h
  · cases h
    exact ⟨by omega, rfl⟩
  · cases h

theorem takeOperand_spec {v : BindValue} (hc : c.Within ts texts)
    (h : takeOperand bare c = .ok (some (v, bare', d))) :
    v.isOperand = true ∧ v.ReadFrom ts ∧ d.Within ts (texts ++ textsOf [v]) := by
  unfold takeOperand at h
  split at h
  · rename_i hk
    obtain ⟨⟨position, bare1, c1⟩, h1, h⟩ := bind_eq_ok.1 h
    cases h
    obtain ⟨hposition, hd⟩ := takePosition_spec hc.suffix hk h1
    exact ⟨rfl, hposition, (hc.of_suffix hd).add_textless rfl⟩
  · rename_i hk
    cases h
    have hread := hc.read
    rw [quotedTexts_of_kind hk] at hread
    exact ⟨rfl, trivial, hread⟩
  · obtain ⟨⟨n, c1⟩, h1, h⟩ := bind_eq_ok.1 h
    cases h
    obtain ⟨hn, rfl⟩ := takeInteger_spec h1
    exact ⟨rfl, hn, hc.advance.add_textless rfl⟩
  · cases h

theorem takeCondition_spec {condition? : Option Condition} (hc : c.Within ts texts)
    (h : takeCondition bare c = .ok (condition?, bare', d)) :
    (∀ condition ∈ condition?, condition.ReadFrom ts) ∧
      d.Within ts (texts ++ textsOf (condition?.toList.map fun c => c.bind.value)) := by
  have hcol (name : String) : (takeParts c).1.column? = some name →
      ∃ t ∈ c.tokens, column? t = some name := by
    intro hname
    obtain ⟨t, ht, htn⟩ := mem_of_takeSome (fun _ => rfl) hname
    exact ⟨t, (takeSome_suffix connective? c).subset ht, htn⟩
  have hparts := hc.of_suffix (takeParts_suffix c)
  rw [takeCondition_eq] at h
  generalize takeParts c = p at h hcol hparts
  obtain ⟨⟨chain, column, comparison⟩, c1⟩ := p
  dsimp only at h hcol hparts
  split at h
  · cases h
  · rename_i value bare1 c2 hop
    cases h
    obtain ⟨hoperand, hvalue, hd⟩ := takeOperand_spec hparts hop
    cases column with
    | none => exact ⟨nofun, by simpa [Parts.condition?, condition?] using hd.forget⟩
    | some name =>
      cases comparison with
      | none => exact ⟨nofun, by simpa [Parts.condition?, condition?] using hd.forget⟩
      | some op =>
        refine ⟨?_, hd⟩
        intro condition hcondition
        cases hcondition
        obtain ⟨t, ht, hname⟩ := hcol name rfl
        exact ⟨⟨t, hc.suffix.subset ht, hname⟩, rfl, hoperand, hvalue⟩
  · cases h
    refine ⟨nofun, ?_⟩
    simp only [Option.toList_none, List.map_nil, textsOf_nil, List.append_nil]
    split
    · exact hparts
    · exact hparts.advance

theorem takeConditions_spec {conditions : List Condition} (hc : c.Within ts texts)
    (h : takeConditions bare c = .ok (conditions, d)) :
    (∀ condition ∈ conditions, condition.ReadFrom ts) ∧
      d.Within ts (texts ++ textsOf (conditions.map fun c => c.bind.value)) := by
  fun_induction takeConditions bare c generalizing d conditions texts with
  | case1 bare c hend =>
    cases h
    exact ⟨by simp, by simpa using hc⟩
  | case2 => cases h
  | case3 bare c hend condition? bare1 c1 h1 ih =>
    obtain ⟨⟨conditions', d'⟩, h2, h⟩ := bind_eq_ok.1 h
    cases h
    obtain ⟨hcondition, hc1⟩ := takeCondition_spec hc h1
    obtain ⟨hconditions, hd⟩ := ih hc1 h2
    rw [List.map_append, textsOf_append, ← List.append_assoc]
    refine ⟨?_, hd⟩
    intro condition hmem
    rcases List.mem_append.1 hmem with hmem | hmem
    · exact hcondition condition (by simpa using hmem)
    · exact hconditions condition hmem

theorem takeWhere_spec {conditions : List Condition} (hc : c.Within ts texts)
    (h : takeWhere c = .ok (conditions, d)) :
    (∀ condition ∈ conditions, condition.ReadFrom ts) ∧
      d.Within ts (texts ++ textsOf (conditions.map fun c => c.bind.value)) := by
  unfold takeWhere at h
  split at h
  · exact takeConditions_spec hc.advance h
  · cases h
    exact ⟨by simp, by simpa using hc⟩

theorem takeBound_spec {k : Keyword} {bound? : Option Nat} (h : takeBound k c = .ok (bound?, d)) :
    (∀ n ∈ bound?, n < 2 ^ 64) ∧ d.tokens <:+ c.tokens := by
  unfold takeBound at h
  split at h
  · obtain ⟨⟨n, d'⟩, h1, h⟩ := bind_eq_ok.1 h
    cases h
    obtain ⟨hn, hd⟩ := expectUnsigned_spec h1
    refine ⟨?_, hd.trans c.advance_suffix⟩
    intro m hm
    cases hm
    exact hn
  · cases h
    exact ⟨nofun, List.suffix_rfl⟩

theorem takeTable_spec {table : String} (hc : c.Within ts texts)
    (h : takeTable c = .ok (table, d)) :
    ∃ t ∈ ts, table? t = some table ∧ d.Within ts (texts ++ quotedTexts [t]) := by
  unfold takeTable at h
  split at h
  · rename_i name hname
    cases h
    have hk : c.kind ≠ .endOfInput := by
      intro hk
      unfold table? at hname
      unfold Cursor.kind at hk
      simp [Token.isColumnWord, hk] at hname
    exact ⟨c.current, hc.suffix.subset (current_mem hk), hname, hc.read⟩
  · cases h

/-- What is taken of a SELECT, clause by clause. -/
theorem takeSelect_eq_ok {s : Select} :
    takeSelect c = .ok (s, d) ↔
      s.distinct = (c.eatKeyword .distinct).1 ∧
      s.columns = (takeSelectList (c.eatKeyword .distinct).2).1 ∧
      ∃ c₁ c₂ c₃ c₄, (takeSelectList (c.eatKeyword .distinct).2).2.expectKeyword .from = .ok c₁ ∧
        takeTable c₁ = .ok (s.table, c₂) ∧ takeWhere c₂ = .ok (s.conditions, c₃) ∧
        takeBound .limit c₃ = .ok (s.limit?, c₄) ∧ takeBound .offset c₄ = .ok (s.offset?, d) := by
  constructor
  · intro h
    obtain ⟨c₁, h₁, h⟩ := bind_eq_ok.1 h
    obtain ⟨⟨table, c₂⟩, h₂, h⟩ := bind_eq_ok.1 h
    obtain ⟨⟨conditions, c₃⟩, h₃, h⟩ := bind_eq_ok.1 h
    obtain ⟨⟨limit, c₄⟩, h₄, h⟩ := bind_eq_ok.1 h
    obtain ⟨⟨offset, c₅⟩, h₅, h⟩ := bind_eq_ok.1 h
    cases h
    exact ⟨rfl, rfl, c₁, c₂, c₃, c₄, h₁, h₂, h₃, h₄, h₅⟩
  · rintro ⟨hdistinct, hcolumns, c₁, c₂, c₃, c₄, h₁, h₂, h₃, h₄, h₅⟩
    obtain ⟨distinct, columns, table, conditions, limit?, offset?⟩ := s
    subst hdistinct
    subst hcolumns
    exact bind_eq_ok.2 ⟨c₁, h₁, bind_eq_ok.2 ⟨_, h₂, bind_eq_ok.2 ⟨_, h₃,
      bind_eq_ok.2 ⟨_, h₄, bind_eq_ok.2 ⟨_, h₅, rfl⟩⟩⟩⟩⟩

theorem takeSelect_readFrom {s : Select} (hc : c.tokens <:+ ts) (h : takeSelect c = .ok (s, d)) :
    s.ReadFrom ts := by
  have heat : (c.eatKeyword .distinct).2.tokens <:+ ts := by
    unfold eatKeyword eat
    split
    · exact c.advance_suffix.trans hc
    · exact hc
  obtain ⟨-, hcolumns, c₁, c₂, c₃, c₄, h₁, h₂, h₃, h₄, h₅⟩ := takeSelect_eq_ok.1 h
  have hlist : (takeSelectList (c.eatKeyword .distinct).2).2.tokens <:+ ts :=
    (List.dropWhile_suffix _).trans heat
  obtain ⟨t, ht, htable, hc₂⟩ := takeTable_spec (.start ((expect_suffix h₁).trans hlist)) h₂
  obtain ⟨hconditions, hc₃⟩ := takeWhere_spec hc₂ h₃
  refine ⟨?_, ⟨t, ht, htable, hc₃.texts_sublist⟩, hconditions, (takeBound_spec h₄).1,
    (takeBound_spec h₅).1⟩
  intro column hcolumn
  rw [hcolumns] at hcolumn
  obtain ⟨t, ht, hitem⟩ := List.mem_filterMap.1 hcolumn
  exact ⟨t, heat.subset ((List.takeWhile_prefix _).subset ht), hitem⟩

theorem takeValue_spec {v : BindValue} (hc : c.Within ts texts)
    (h : takeValue bare c = .ok (v, bare', d)) :
    v.ReadFrom ts ∧ d.Within ts (texts ++ textsOf [v]) := by
  obtain ⟨taken?, h1, h⟩ := bind_eq_ok.1 h
  cases taken? with
  | some taken =>
    cases h
    exact (takeOperand_spec hc h1).2
  | none =>
    dsimp only at h
    split at h <;> cases h <;> exact ⟨trivial, hc.advance.add_textless rfl⟩

theorem takeValues_spec {values : List BindValue} (hc : c.Within ts texts)
    (h : takeValues bare c = .ok (values, bare', d)) :
    (∀ v ∈ values, v.ReadFrom ts) ∧ d.Within ts (texts ++ textsOf values) := by
  fun_induction takeValues bare c generalizing d bare' values texts with
  | case1 => cases h
  | case2 bare c value bare1 c1 h1 hk ih =>
    obtain ⟨⟨values', bare2, c2⟩, h2, h⟩ := bind_eq_ok.1 h
    cases h
    obtain ⟨hvalue, hc1⟩ := takeValue_spec hc h1
    obtain ⟨hvalues, hd⟩ := ih hc1.advance h2
    rw [← List.singleton_append, textsOf_append, ← List.append_assoc]
    exact ⟨by simpa using ⟨hvalue, hvalues⟩, hd⟩
  | case3 bare c value bare1 c1 h1 hk =>
    cases h
    obtain ⟨hvalue, hc1⟩ := takeValue_spec hc h1
    exact ⟨by simpa using hvalue, hc1⟩

theorem map_value_zipWith {columns : List String} {values : List BindValue}
    (h : values.length = columns.length) :
    (List.zipWith Bind.mk columns values).map Bind.value = values := by
  apply List.ext_getElem
  · simp [h]
  · simp

theorem takeTuple_spec {columns : List String} {binds : List Bind} (hc : c.Within ts texts)
    (h : takeTuple columns bare c = .ok (binds, bare', d)) :
    binds.map Bind.column = columns ∧ (∀ b ∈ binds, b.value.ReadFrom ts) ∧
      d.Within ts (texts ++ textsOf (binds.map Bind.value)) := by
  obtain ⟨c1, h1, h⟩ := bind_eq_ok.1 h
  obtain ⟨⟨values, bare1, c2⟩, h2, h⟩ := bind_eq_ok.1 h
  obtain ⟨c3, h3, h⟩ := bind_eq_ok.1 h
  obtain ⟨hvalues, hc2⟩ := takeValues_spec (hc.of_suffix (expect_suffix h1)) h2
  split at h
  · rename_i hlength
    cases h
    have hzip := map_value_zipWith hlength
    refine ⟨?_, ?_, by rw [hzip]; exact hc2.of_suffix (expect_suffix h3)⟩
    · apply List.ext_getElem
      · simp [hlength]
      · simp
    · intro b hb
      exact hvalues b.value (hzip ▸ List.mem_map_of_mem hb)
  · cases h

theorem takeTuples_spec {columns : List String} {binds : List Bind} (hc : c.Within ts texts)
    (h : takeTuples columns bare c = .ok (binds, d)) :
    (∃ tuples : List (List Bind), tuples ≠ [] ∧ tuples.flatten = binds ∧
      ∀ t ∈ tuples, t.map Bind.column = columns) ∧
      (∀ b ∈ binds, b.value.ReadFrom ts) ∧ d.Within ts (texts ++ textsOf (binds.map Bind.value)) := by
  fun_induction takeTuples columns bare c generalizing d binds texts with
  | case1 => cases h
  | case2 bare c binds1 bare1 c1 h1 hk ih =>
    obtain ⟨⟨binds2, c2⟩, h2, h⟩ := bind_eq_ok.1 h
    cases h
    obtain ⟨hcolumns, hvalues, hc1⟩ := takeTuple_spec hc h1
    obtain ⟨⟨tuples, -, hflatten, htuples⟩, hmore, hd⟩ := ih hc1.advance h2
    rw [List.map_append, textsOf_append, ← List.append_assoc]
    refine ⟨⟨binds1 :: tuples, by simp, by simp [hflatten], ?_⟩, ?_, hd⟩
    · simpa using ⟨hcolumns, htuples⟩
    · intro b hb
      rcases List.mem_append.1 hb with hb | hb
      · exact hvalues b hb
      · exact hmore b hb
  | case3 bare c binds1 bare1 c1 h1 hk =>
    cases h
    obtain ⟨hcolumns, hvalues, hc1⟩ := takeTuple_spec hc h1
    exact ⟨⟨[binds1], by simp, by simp, by simpa using hcolumns⟩, hvalues, hc1⟩

theorem takeConflict_suffix {conflict? : Option ConflictAction}
    (h : takeConflict c = .ok (conflict?, d)) : d.tokens <:+ c.tokens := by
  unfold takeConflict at h
  split at h
  · dsimp only at h
    split at h
    · cases h
      exact c.advance.advance_suffix.trans c.advance_suffix
    · cases h
  · cases h
    exact List.suffix_rfl

theorem takeReturning_spec {returning : List String} (h : takeReturning c = .ok (returning, d)) :
    (∀ a ∈ returning, ∃ t ∈ c.tokens, item? t = some a) ∧ d.tokens <:+ c.tokens := by
  unfold takeReturning at h
  split at h
  · obtain ⟨-, hitems, hd⟩ := commaSeparated_spec (fun _ => rfl) h
    refine ⟨?_, hd.trans c.advance_suffix⟩
    intro a ha
    obtain ⟨t, ht, hta⟩ := hitems a ha
    exact ⟨t, c.advance_suffix.subset ht, hta⟩
  · cases h
    exact ⟨by simp, List.suffix_rfl⟩

theorem takeInsert_readFrom {i : Insert} (hc : c.tokens <:+ ts) (h : takeInsert c = .ok (i, d)) :
    i.ReadFrom ts := by
  obtain ⟨⟨conflict, c1⟩, h1, h⟩ := bind_eq_ok.1 h
  obtain ⟨c2, h2, h⟩ := bind_eq_ok.1 h
  obtain ⟨⟨table, c3⟩, h3, h⟩ := bind_eq_ok.1 h
  obtain ⟨c4, h4, h⟩ := bind_eq_ok.1 h
  obtain ⟨⟨columns, c5⟩, h5, h⟩ := bind_eq_ok.1 h
  obtain ⟨c6, h6, h⟩ := bind_eq_ok.1 h
  obtain ⟨c7, h7, h⟩ := bind_eq_ok.1 h
  obtain ⟨⟨values, c8⟩, h8, h⟩ := bind_eq_ok.1 h
  obtain ⟨⟨returning, c9⟩, h9, h⟩ := bind_eq_ok.1 h
  cases h
  have hc2 := (expect_suffix h2).trans ((takeConflict_suffix h1).trans hc)
  obtain ⟨t, ht, htable, hc3⟩ := takeTable_spec (.start hc2) h3
  have hc4 := hc3.of_suffix (expect_suffix h4)
  obtain ⟨hne, hcolumns, hc5⟩ := commaSeparated_spec (fun _ => rfl) h5
  have hc7 := hc4.of_suffix ((expect_suffix h7).trans ((expect_suffix h6).trans hc5))
  obtain ⟨htuples, hvalues, hc8⟩ := takeTuples_spec hc7 h8
  obtain ⟨hreturning, -⟩ := takeReturning_spec h9
  refine ⟨⟨t, ht, htable, hc8.texts_sublist⟩, hne, ?_, htuples, hvalues, ?_⟩
  · intro a ha
    obtain ⟨t, ht, hta⟩ := hcolumns a ha
    exact ⟨t, hc4.suffix.subset ht, hta⟩
  · intro a ha
    obtain ⟨t, ht, hta⟩ := hreturning a ha
    exact ⟨t, hc8.suffix.subset ht, hta⟩

end Query

def Statement.ReadFrom (ts : List Token) : Statement → Prop
  | select s => s.ReadFrom ts
  | insert i => i.ReadFrom ts

/-- The texts among the values of a statement, in their order. -/
def Statement.texts (s : Statement) : List String := textsOf (s.binds.map Bind.value)

theorem Statement.ReadFrom.table {ts : List Token} {s : Statement} (h : s.ReadFrom ts) :
    TableReadFrom ts s.table s.texts := by
  cases s with
  | select s =>
    have htable := Select.ReadFrom.table h
    rwa [Statement.texts, Statement.binds, List.map_map]
  | insert i => exact Insert.ReadFrom.table h

theorem Statement.ReadFrom.values {ts : List Token} {s : Statement} (h : s.ReadFrom ts) :
    ∀ b ∈ s.binds, b.value.ReadFrom ts := by
  cases s with
  | select s =>
    intro b hb
    obtain ⟨c, hc, rfl⟩ := List.mem_map.1 hb
    exact (Select.ReadFrom.conditions h c hc).value
  | insert i => exact Insert.ReadFrom.values h

theorem readFrom_of_parseTokens {ts : List Token} {n : Nat} {s : Statement}
    (h : Query.parseTokens ⟨ts, n⟩ = .ok s) : s.ReadFrom ts := by
  obtain ⟨⟨statement, c⟩, h1, h⟩ := bind_eq_ok.1 h
  have hs : statement.ReadFrom ts := by
    unfold Query.takeStatement at h1
    split at h1
    · obtain ⟨⟨select, d⟩, h2, h1⟩ := bind_eq_ok.1 h1
      cases h1
      exact Query.takeSelect_readFrom (Cursor.advance_suffix _) h2
    · obtain ⟨⟨insert, d⟩, h2, h1⟩ := bind_eq_ok.1 h1
      cases h1
      exact Query.takeInsert_readFrom (Cursor.advance_suffix _) h2
    · cases h1
  dsimp only at h
  split at h <;> cases h
  exact hs

theorem Condition.ReadFrom.regular {ts : List Token} {c : Condition} (h : c.ReadFrom ts)
    (hc : c.bind.position < 2 ^ 64) : c.Regular :=
  ⟨h.bind, h.operand, BindValue.inRange_of_readFrom h.value hc⟩

/-- Full tuples one after the other bind the columns in turn. -/
theorem column_of_flatten {columns : List String} {tuples : List (List Bind)}
    (h : ∀ t ∈ tuples, t.map Bind.column = columns) :
    columns.length ∣ tuples.flatten.length ∧ ∀ j < tuples.flatten.length,
      tuples.flatten[j]?.map Bind.column = columns[j % columns.length]? := by
  induction tuples with
  | nil => simp
  | cons t tuples ih =>
    have ht := h t (by simp)
    have hlength : t.length = columns.length := by rw [← ht, List.length_map]
    obtain ⟨hdvd, hcolumn⟩ := ih fun u hu => h u (by simp [hu])
    rw [List.flatten_cons, List.length_append, hlength]
    refine ⟨(Nat.dvd_add_right (Nat.dvd_refl _)).2 hdvd, ?_⟩
    intro j hj
    by_cases hlt : j < columns.length
    · rw [List.getElem?_append_left (by omega), Nat.mod_eq_of_lt hlt, ← List.getElem?_map, ht]
    · rw [List.getElem?_append_right (by omega), hlength, hcolumn _ (by omega),
        ← Nat.mod_eq_sub_mod (by omega)]

/-- A statement that was read is regular, unless a placeholder without a number of its own got one
beyond 64 bits. -/
theorem Statement.ReadFrom.regular {ts : List Token} {s : Statement} (h : s.ReadFrom ts)
    (hs : ∀ b ∈ s.binds, b.position < 2 ^ 64) : s.Regular := by
  cases s with
  | select s =>
    refine ⟨?_, h.limit, h.offset⟩
    intro c hc
    exact (h.conditions c hc).regular (hs c.bind (List.mem_map_of_mem hc))
  | insert i =>
    obtain ⟨tuples, hne, hflatten, htuples⟩ := h.tuples
    obtain ⟨hfull, hcolumn⟩ := column_of_flatten htuples
    rw [hflatten] at hfull hcolumn
    refine ⟨h.columns_ne, ?_, hfull, hcolumn, ?_⟩
    · obtain ⟨t, more, rfl⟩ := List.exists_cons_of_ne_nil hne
      intro hnil
      have ht := htuples t (by simp)
      have : t = [] := by
        rw [← hflatten, List.flatten_cons] at hnil
        exact (List.append_eq_nil_iff.1 hnil).1
      subst this
      exact h.columns_ne ht.symm
    · intro b hb
      exact BindValue.inRange_of_readFrom (h.values b hb) (hs b hb)

end TypedQueries
