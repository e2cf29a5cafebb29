import Mathlib.Data.List.Infix
import TypedQueries.Proofs.InsertTuples
import TypedQueries.Query.Parser

/-!
The loop that reads a WHERE clause. A condition begins with up to three parts, a connective, a column
and a comparison; then comes an operand, or a token is passed over. Token by token, the loop goes on
with the parts that it has found so far, and an operand ends them.
-/

namespace TypedQueries

namespace Cursor

theorem takeSome_cons_of_some {α : Type} {f : Token → Option α} {t : Token} {a : α}
    (h : f t = some a) (ts : List Token) (n : Nat) :
    (Cursor.mk (t :: ts) n).takeSome f = (some a, ⟨ts, n⟩) := by
  simp [takeSome, h]

theorem takeSome_cons_of_none {α : Type} {f : Token → Option α} {t : Token} (h : f t = none)
    (ts : List Token) (n : Nat) :
    (Cursor.mk (t :: ts) n).takeSome f = (none, ⟨t :: ts, n⟩) := by
  simp [takeSome, h]

theorem advance_suffix (c : Cursor) : c.advance.tokens <:+ c.tokens := List.tail_suffix _

theorem takeSome_suffix {α : Type} (f : Token → Option α) (c : Cursor) :
    (c.takeSome f).2.tokens <:+ c.tokens := by
  unfold takeSome
  split
  · exact c.advance_suffix
  · exact List.suffix_rfl

theorem takeSome_length {α : Type} (f : Token → Option α) (c : Cursor) :
    (c.takeSome f).2.length = c.length := by
  unfold takeSome
  split <;> rfl

end Cursor

namespace Query

open Cursor

/-- The parts of a condition in front of its value. -/
structure Parts where
  chain? : Option Connective
  column? : Option String
  comparison? : Option Comparison
  deriving DecidableEq, Repr

namespace Parts

/-- The condition with the given value, if no part is missing. -/
def condition? (p : Parts) (value : BindValue) : Option Condition :=
  Query.condition? p.chain? p.column? p.comparison? (some value)

/-- Neither a column nor a comparison was found. -/
def isBlank (p : Parts) : Bool := p.column?.isNone && p.comparison?.isNone

end Parts

/-- Takes the parts of a condition as far as they are there. -/
def takeParts (c : Cursor) : Parts × Cursor :=
  let (chain, c) := c.takeSome connective?
  let (column, c) := c.takeSome column?
  let (comparison, c) := c.takeSome comparison?
  (⟨chain, column, comparison⟩, c)

/-- A condition is its parts and then an operand, or a token that is passed over. -/
theorem takeCondition_eq (bare : Nat) (c : Cursor) :
    takeCondition bare c =
      match takeOperand bare (takeParts c).2 with
      | .error e => .error e
      | .ok (some (value, bare, d)) => .ok ((takeParts c).1.condition? value, bare, d)
      | .ok none => .ok (none, bare,
          if endsWhere (takeParts c).2.kind then (takeParts c).2 else (takeParts c).2.advance) := rfl

theorem takeParts_suffix (c : Cursor) : (takeParts c).2.tokens <:+ c.tokens :=
  (takeSome_suffix _ _).trans ((takeSome_suffix _ _).trans (takeSome_suffix _ _))

theorem takeParts_length (c : Cursor) : (takeParts c).2.length = c.length :=
  (takeSome_length _ _).trans ((takeSome_length _ _).trans (takeSome_length _ _))

theorem takeConditions_of_endsWhere {c : Cursor} (h : endsWhere c.kind = true) (bare : Nat) :
    takeConditions bare c = .ok ([], c) := by
  rw [takeConditions, dif_pos h]

theorem takeConditions_of_error {bare : Nat} {c : Cursor} {e : SyntaxError}
    (hc : endsWhere c.kind = false) (h : takeCondition bare c = .error e) :
    takeConditions bare c = .error e := by
  rw [takeConditions, dif_neg (by simp [hc])]
  split <;> rename_i h' <;> rw [h] at h' <;> cases h'
  rfl

theorem takeConditions_of_ok {bare bare' : Nat} {c d : Cursor} {made : Option Condition}
    (hc : endsWhere c.kind = false) (h : takeCondition bare c = .ok (made, bare', d)) :
    takeConditions bare c =
      (takeConditions bare' d).map fun (conditions, e) => (made.toList ++ conditions, e) := by
  rw [takeConditions, dif_neg (by simp [hc])]
  split <;> rename_i h' <;> rw [h] at h' <;> cases h'
  cases takeConditions bare' d <;> rfl

section Fillers

/-- A token that the loop goes over without making a value of it. -/
def isFiller : TokenKind → Bool
  | .dollar | .string | .integer => false
  | kind => !endsWhere kind

theorem takeOperand_of_isFiller {c : Cursor} (h : isFiller c.kind = true) (bare : Nat) :
    takeOperand bare c = .ok none := by
  unfold takeOperand
  split <;> rename_i hk
  · simp [hk, isFiller] at h
  · simp [hk, isFiller] at h
  · simp [hk, isFiller] at h
  · rfl

theorem endsWhere_of_isFiller {kind : TokenKind} (h : isFiller kind = true) :
    endsWhere kind = false := by
  cases kind <;> simp_all [isFiller, endsWhere]

theorem takeOperand_of_endsWhere {c : Cursor} (h : endsWhere c.kind = true) (bare : Nat) :
    takeOperand bare c = .ok none := by
  unfold takeOperand
  split <;> rename_i hk
  · simp [hk, endsWhere] at h
  · simp [hk, endsWhere] at h
  · simp [hk, endsWhere] at h
  · rfl

theorem isFiller_of_connective? {t : Token} {k : Connective} (h : connective? t = some k) :
    isFiller t.kind = true := by
  unfold connective? at h
  split at h <;> rename_i hk
  · rw [hk]
    rfl
  · rw [hk]
    rfl
  · cases h

theorem isFiller_of_isColumnWord {t : Token} (h : t.isColumnWord = true) :
    isFiller t.kind = true := by
  unfold Token.isColumnWord at h
  split at h <;> rename_i hk
  · rw [hk]
    rfl
  · rename_i k
    rw [hk]
    cases k <;> first | rfl | exact absurd h (by decide)
  · cases h

theorem isFiller_of_column? {t : Token} {name : String} (h : column? t = some name) :
    isFiller t.kind = true := by
  unfold column? at h
  split at h
  · rename_i hw
    exact isFiller_of_isColumnWord hw
  · cases h

theorem eq_none_of_endsWhere {α : Type} {f : Token → Option α}
    (hf : ∀ {t a}, f t = some a → isFiller t.kind = true) {c : Cursor}
    (h : endsWhere c.kind = true) : f c.current = none := by
  cases ha : f c.current with
  | none => rfl
  | some a =>
    have hgo : endsWhere c.kind = false := endsWhere_of_isFiller (hf ha)
    rw [h] at hgo
    cases hgo

theorem takeSome_of_endsWhere {α : Type} {f : Token → Option α}
    (hf : ∀ {t a}, f t = some a → isFiller t.kind = true) {c : Cursor}
    (h : endsWhere c.kind = true) : c.takeSome f = (none, c) := by
  rw [takeSome, eq_none_of_endsWhere hf h]

theorem isFiller_of_comparison? {t : Token} {op : Comparison} (h : comparison? t = some op) :
    isFiller t.kind = true := by
  unfold comparison? at h
  split at h <;> first | (rename_i hk; rw [hk]; rfl) | cases h

/-- At the end of a clause no part is found. -/
theorem takeParts_of_endsWhere {c : Cursor} (h : endsWhere c.kind = true) : (takeParts c).2 = c := by
  unfold takeParts
  rw [takeSome_of_endsWhere isFiller_of_connective? h]
  simp only
  rw [takeSome_of_endsWhere isFiller_of_column? h]
  simp only
  rw [takeSome_of_endsWhere isFiller_of_comparison? h]

section Invariant

variable {β : Type} {g : Cursor → β} (hg : ∀ c, isFiller c.kind = true → g c = g c.advance)

include hg

/-- What is the same behind a filler is the same behind a token that was taken as one. -/
theorem apply_takeSome {α : Type} {f : Token → Option α}
    (hf : ∀ {t a}, f t = some a → isFiller t.kind = true) (c : Cursor) :
    g (c.takeSome f).2 = g c := by
  unfold takeSome
  split
  · rename_i a ha
    exact (hg c (hf ha)).symm
  · rfl

theorem apply_takeParts (c : Cursor) : g (takeParts c).2 = g c := by
  unfold takeParts
  simp only
  rw [apply_takeSome hg isFiller_of_comparison?, apply_takeSome hg isFiller_of_column?,
    apply_takeSome hg isFiller_of_connective?]

end Invariant

end Fillers

/-! Operands. -/

/-- An operand is a placeholder without a number, one with the integer behind it, or one other token. -/
theorem takeOperand_rest {bare bare' : Nat} {c d : Cursor} {value : BindValue}
    (h : takeOperand bare c = .ok (some (value, bare', d))) :
    c.kind = .dollar ∧ c.next.kind ≠ .integer ∧ bare' = bare + 1 ∧ d = c.advance ∨
      c.kind = .dollar ∧ c.next.kind = .integer ∧ bare' = bare ∧ d = c.advance.advance ∨
      c.kind ≠ .dollar ∧ bare' = bare ∧ d = c.advance := by
  obtain ⟨⟨w, d'⟩, hw, heq⟩ := Option.map_eq_some_iff.1 (takeOperand_eq_ok h).1.symm
  cases heq
  unfold written? at hw
  split at hw <;> rename_i hk
  · split at hw <;> rename_i hnext <;> cases hw
    · exact Or.inr (Or.inl ⟨hk, hnext, rfl, rfl⟩)
    · exact Or.inl ⟨hk, hnext, rfl, rfl⟩
  · cases hw
    exact Or.inr (Or.inr ⟨by simp [hk], rfl, rfl⟩)
  · cases hw
    exact Or.inr (Or.inr ⟨by simp [hk], rfl, rfl⟩)
  · cases hw

theorem isFiller_of_takeOperand {bare : Nat} {c : Cursor} (h : takeOperand bare c = .ok none)
    (hgo : endsWhere c.kind = false) : isFiller c.kind = true := by
  have hnone := Option.map_eq_none_iff.1 (takeOperand_eq_ok h).1.symm
  unfold written? at hnone
  split at hnone
  · split at hnone <;> cases hnone
  · cases hnone
  · cases hnone
  · unfold isFiller
    split <;> simp_all

theorem kind_ne_dollar_of_isFiller {kind : TokenKind} (h : isFiller kind = true) :
    kind ≠ .dollar := by
  rintro rfl
  cases h

/-- The number of placeholders among tokens that have no number. -/
def bareIn (ts : List Token) : Nat := (numbersIn ts).count none

theorem bareIn_cons_of_ne {t : Token} (h : t.kind ≠ .dollar) (ts : List Token) :
    bareIn (t :: ts) = bareIn ts := by
  rw [bareIn, numbersIn_cons_of_ne h, bareIn]

/-- The count goes up by the placeholders without a number that are taken. -/
theorem bare_of_takeOperand {bare bare' n : Nat} {t : Token} {ts : List Token} {d : Cursor}
    {value : BindValue} (h : takeOperand bare ⟨t :: ts, n⟩ = .ok (some (value, bare', d))) :
    bare' + bareIn d.tokens = bare + bareIn (t :: ts) := by
  rcases takeOperand_rest h with ⟨hk, hnext, rfl, rfl⟩ | ⟨hk, hnext, rfl, rfl⟩ | ⟨hk, rfl, rfl⟩
  · have ht : t.kind = .dollar := hk
    have hnumber : ts.head?.bind Token.number? = none := by
      cases ts with
      | nil => rfl
      | cons u us => exact if_neg hnext
    simp only [bareIn, numbersIn, ht, ↓reduceIte, hnumber, List.count_cons_self, Cursor.advance_cons]
    omega
  · have ht : t.kind = .dollar := hk
    cases ts with
    | nil => cases hnext
    | cons u us =>
      have hu : u.kind = .integer := hnext
      simp [bareIn, numbersIn, ht, hu, Token.number?]
  · have ht : t.kind ≠ .dollar := hk
    rw [bareIn_cons_of_ne ht, Cursor.advance_cons]

section Operands

variable {n : Nat}

/-- A cursor with more tokens behind its own. -/
def append (more : List Token) (c : Cursor) : Cursor := ⟨c.tokens ++ more, c.length⟩

theorem takeOperand_append {ts more : List Token} (hts : ts ≠ [])
    (hm : (Cursor.mk more n).kind ≠ .integer) (bare : Nat) :
    takeOperand bare ⟨ts ++ more, n⟩ =
      (takeOperand bare ⟨ts, n⟩).map (Option.map (Prod.map id (Prod.map id (append more)))) := by
  obtain ⟨t, us, rfl⟩ := List.exists_cons_of_ne_nil hts
  have hkind (vs : List Token) : (Cursor.mk (t :: vs) n).kind = t.kind := rfl
  simp only [takeOperand, List.cons_append, hkind]
  split
  · have hposition : takePosition bare ⟨t :: (us ++ more), n⟩ =
        (takePosition bare ⟨t :: us, n⟩).map (Prod.map id (Prod.map id (append more))) := by
      cases us with
      | nil =>
        have hnext : (Cursor.mk (t :: ([] ++ more)) n).next.kind ≠ .integer := hm
        have hend : (Cursor.mk [t] n).next.kind ≠ .integer := by rintro ⟨⟩
        rw [takePosition, takePosition, if_neg hnext, if_neg hend]
        rfl
      | cons u us =>
        have hnext (vs : List Token) : (Cursor.mk (t :: u :: vs) n).next = u := rfl
        simp only [takePosition, List.cons_append, hnext]
        split
        · split
          · rfl
          · split <;> rfl
        · rfl
    rw [hposition]
    cases takePosition bare ⟨t :: us, n⟩ <;> rfl
  · rfl
  · have hinteger : takeInteger ⟨t :: (us ++ more), n⟩ =
        (takeInteger ⟨t :: us, n⟩).map (Prod.map id (append more)) := by
      have hcurrent (vs : List Token) : (Cursor.mk (t :: vs) n).current = t := rfl
      simp only [takeInteger, hcurrent]
      split <;> rfl
    rw [hinteger]
    cases takeInteger ⟨t :: us, n⟩ <;> rfl
  · rfl

end Operands

/-! Token by token. The loop may go on with parts that were found before. -/

namespace Parts

def empty : Parts := ⟨none, none, none⟩

/-- What is found with one more token. A token that is no part at its place ends the search: it is a
value or passed over. -/
def next (p : Parts) (t : Token) : Parts :=
  if p = empty ∧ (Query.connective? t).isSome then ⟨Query.connective? t, none, none⟩
  else if p.isBlank ∧ (Query.column? t).isSome then { p with column? := Query.column? t }
  else if p.comparison? = none ∧ (Query.comparison? t).isSome then
    { p with comparison? := Query.comparison? t }
  else empty

/-- Takes the parts that were not found before. -/
def take (p : Parts) (c : Cursor) : Parts × Cursor :=
  let (chain, c) := if p = empty then c.takeSome Query.connective? else (p.chain?, c)
  let (column, c) := if p.isBlank then c.takeSome Query.column? else (p.column?, c)
  let (comparison, c) :=
    if p.comparison? = none then c.takeSome Query.comparison? else (p.comparison?, c)
  (⟨chain, column, comparison⟩, c)

end Parts

/-- Conditions in front of those that are taken. -/
def prepend (made : List Condition) (taken : Except SyntaxError (List Condition × Cursor)) :
    Except SyntaxError (List Condition × Cursor) :=
  taken.map fun result => (made ++ result.1, result.2)

theorem prepend_nil (taken : Except SyntaxError (List Condition × Cursor)) :
    prepend [] taken = taken := by
  cases taken <;> rfl

theorem prepend_append (made more : List Condition)
    (taken : Except SyntaxError (List Condition × Cursor)) :
    prepend (made ++ more) taken = prepend made (prepend more taken) := by
  cases taken with
  | error e => rfl
  | ok result => simp [prepend, Except.map]

theorem prepend_eq_ok {made conditions : List Condition} {d : Cursor}
    {taken : Except SyntaxError (List Condition × Cursor)} :
    prepend made taken = .ok (conditions, d) ↔
      ∃ more, taken = .ok (more, d) ∧ conditions = made ++ more := by
  constructor
  · intro h
    obtain ⟨⟨more, e⟩, hmore, heq⟩ := map_eq_ok.1 h
    cases heq
    exact ⟨more, hmore, rfl⟩
  · rintro ⟨more, rfl, rfl⟩
    rfl

/-- The rest of a clause behind the parts of a condition. -/
def takeValueAnd (bare : Nat) (p : Parts × Cursor) : Except SyntaxError (List Condition × Cursor) :=
  match takeOperand bare p.2 with
  | .error e => .error e
  | .ok (some (value, bare, d)) => prepend (p.1.condition? value).toList (takeConditions bare d)
  | .ok none => takeConditions bare (if endsWhere p.2.kind then p.2 else p.2.advance)

theorem takeConditions_eq (bare : Nat) (c : Cursor) :
    takeConditions bare c = takeValueAnd bare (takeParts c) := by
  unfold takeValueAnd
  by_cases hend : endsWhere c.kind = true
  · rw [takeParts_of_endsWhere hend, takeOperand_of_endsWhere hend, if_pos hend]
  · simp only [Bool.not_eq_true] at hend
    have hstep := takeCondition_eq bare c
    split <;> rename_i hop <;> rw [hop] at hstep
    · exact takeConditions_of_error hend hstep
    · exact takeConditions_of_ok hend hstep
    · rw [takeConditions_of_ok hend hstep]
      exact prepend_nil _

/-- The rest of a clause, of which some parts of a condition were found before. -/
def takeConditionsFrom (p : Parts) (bare : Nat) (c : Cursor) :
    Except SyntaxError (List Condition × Cursor) :=
  takeValueAnd bare (p.take c)

theorem takeConditionsFrom_empty (bare : Nat) (c : Cursor) :
    takeConditionsFrom .empty bare c = takeConditions bare c :=
  (takeConditions_eq bare c).symm

section Tokens

variable {p : Parts} {t : Token} {ts : List Token} {bare n : Nat}

/-- A token that is a part at its place is taken, and the other parts are looked for behind it. -/
theorem Parts.take_cons (p : Parts) (t : Token) (ts : List Token) (n : Nat) :
    p.take ⟨t :: ts, n⟩ =
      if p.next t = empty then (p, ⟨t :: ts, n⟩) else (p.next t).take ⟨ts, n⟩ := by
  obtain ⟨chain?, column?, comparison?⟩ := p
  have hcurrent : (Cursor.mk (t :: ts) n).current = t := rfl
  have hadvance : (Cursor.mk (t :: ts) n).advance = ⟨ts, n⟩ := rfl
  cases hk : Query.connective? t <;> cases hc : Query.column? t <;>
    cases ho : Query.comparison? t <;> cases chain? <;> cases column? <;> cases comparison? <;>
    simp [take, next, empty, isBlank, takeSome, hk, hc, ho, hcurrent, hadvance]

/-- A token without a value is taken, or passed over. -/
theorem takeConditionsFrom_cons (ht : isFiller t.kind = true) :
    takeConditionsFrom p bare ⟨t :: ts, n⟩ = takeConditionsFrom (p.next t) bare ⟨ts, n⟩ := by
  rw [takeConditionsFrom, Parts.take_cons]
  split
  · rename_i hnext
    have hgo : endsWhere t.kind = false := endsWhere_of_isFiller ht
    have hkind : (Cursor.mk (t :: ts) n).kind = t.kind := rfl
    have hfiller : isFiller (Cursor.mk (t :: ts) n).kind = true := ht
    have hop := takeOperand_of_isFiller hfiller bare
    rw [hnext, takeConditionsFrom_empty, takeValueAnd]
    simp only [hop, hkind, hgo]
    rfl
  · rfl

theorem takeConditionsFrom_append {words : List Token} (h : ∀ t ∈ words, isFiller t.kind = true)
    (p : Parts) (bare : Nat) (ts : List Token) :
    takeConditionsFrom p bare ⟨words ++ ts, n⟩ =
      takeConditionsFrom (words.foldl Parts.next p) bare ⟨ts, n⟩ := by
  induction words generalizing p with
  | nil => rfl
  | cons t words ih =>
    rw [List.forall_mem_cons] at h
    rw [List.cons_append, takeConditionsFrom_cons h.1, ih h.2, List.foldl_cons]

/-- A value is no part, and neither is the end of a clause. -/
theorem Parts.next_of_not_isFiller (h : isFiller t.kind = false) (p : Parts) : p.next t = empty := by
  have hnone {α : Type} {f : Token → Option α} (hf : ∀ {a}, f t = some a → isFiller t.kind = true) :
      f t = none := by
    cases ht : f t with
    | none => rfl
    | some a => simp [hf ht] at h
  simp [next, hnone isFiller_of_connective?, hnone isFiller_of_column?, hnone isFiller_of_comparison?]

theorem takeConditionsFrom_of_not_isFiller (h : isFiller t.kind = false) :
    takeConditionsFrom p bare ⟨t :: ts, n⟩ = takeValueAnd bare (p, ⟨t :: ts, n⟩) := by
  rw [takeConditionsFrom, Parts.take_cons, if_pos (Parts.next_of_not_isFiller h p)]

/-- A value makes a condition of the parts in front of it, if they are all there. The loop goes on
behind it, with no parts. -/
theorem exists_of_not_isFiller {first : List Token} (ht : isFiller t.kind = false)
    (hgo : endsWhere t.kind = false) (hfirst : (Cursor.mk first n).kind ≠ .integer)
    {result : List Condition × Cursor}
    (h : takeConditionsFrom p bare ⟨t :: ts ++ first, n⟩ = .ok result) :
    ∃ made bare' us, us <:+ ts ∧ ts.foldl Parts.next .empty = us.foldl Parts.next .empty ∧
      bare' + bareIn us = bare + bareIn (t :: ts) ∧ ∀ more, (Cursor.mk more n).kind ≠ .integer →
        takeConditionsFrom p bare ⟨t :: ts ++ more, n⟩ =
          prepend made (takeConditionsFrom .empty bare' ⟨us ++ more, n⟩) := by
  have happend (more : List Token) (hmore : (Cursor.mk more n).kind ≠ .integer) :=
    takeOperand_append (List.cons_ne_nil t ts) hmore bare
  have heq (more : List Token) :
      takeConditionsFrom p bare ⟨t :: ts ++ more, n⟩ = takeValueAnd bare (p, ⟨t :: ts ++ more, n⟩) :=
    takeConditionsFrom_of_not_isFiller ht
  rcases hop : takeOperand bare ⟨t :: ts, n⟩ with e | (_ | ⟨value, bare', d⟩)
  · rw [heq, takeValueAnd, happend first hfirst, hop] at h
    cases h
  · exact absurd (isFiller_of_takeOperand hop hgo) (by simp [ht])
  · have hrest : d = ⟨ts, n⟩ ∨ (Cursor.mk ts n).kind = .integer ∧ d = ⟨ts.tail, n⟩ := by
      rcases takeOperand_rest hop with ⟨-, -, -, rfl⟩ | ⟨-, hinteger, -, rfl⟩ | ⟨-, -, rfl⟩
      · exact Or.inl rfl
      · exact Or.inr ⟨hinteger, rfl⟩
      · exact Or.inl rfl
    refine ⟨(p.condition? value).toList, bare', d.tokens, ?_, ?_, bare_of_takeOperand hop,
      fun more hmore => ?_⟩
    · rcases hrest with rfl | ⟨-, rfl⟩
      · exact List.suffix_rfl
      · exact List.tail_suffix ts
    · rcases hrest with rfl | ⟨hinteger, rfl⟩
      · rfl
      · cases ts with
        | nil => rfl
        | cons u us =>
          have hu : isFiller u.kind = false := by
            have hu : u.kind = .integer := hinteger
            rw [hu]
            rfl
          exact congrArg (us.foldl Parts.next ·) (Parts.next_of_not_isFiller hu .empty)
    · have hd : append more d = ⟨d.tokens ++ more, n⟩ := by
        rcases hrest with rfl | ⟨-, rfl⟩ <;> rfl
      rw [heq, takeValueAnd, happend more hmore, hop, takeConditionsFrom_empty, ← hd]
      rfl

/-- The loop comes to a token behind a clause with the parts that are found in the clause, after it
has read whole conditions that depend on the clause alone and counted its placeholders. -/
theorem exists_takeConditionsFrom {clause first : List Token}
    (hclause : ∀ t ∈ clause, endsWhere t.kind = false)
    (hfirst : (Cursor.mk first n).kind ≠ .integer) {result : List Condition × Cursor}
    (h : takeConditionsFrom p bare ⟨clause ++ first, n⟩ = .ok result) :
    ∃ kept, ∀ more, (Cursor.mk more n).kind ≠ .integer →
      takeConditionsFrom p bare ⟨clause ++ more, n⟩ =
        prepend kept (takeConditionsFrom (clause.foldl Parts.next p) (bare + bareIn clause)
          ⟨more, n⟩) := by
  induction hn : clause.length using Nat.strongRecOn generalizing clause p bare result with
  | ind size ih =>
    cases clause with
    | nil =>
      refine ⟨[], fun more _ => ?_⟩
      rw [prepend_nil, List.nil_append, List.foldl_nil]
      rfl
    | cons t ts =>
      rw [List.forall_mem_cons] at hclause
      by_cases ht : isFiller t.kind = true
      · rw [List.cons_append, takeConditionsFrom_cons ht] at h
        obtain ⟨kept, hmore⟩ := ih ts.length (by simp [← hn]) hclause.2 h rfl
        refine ⟨kept, fun more hkind => ?_⟩
        rw [List.cons_append, takeConditionsFrom_cons ht, hmore more hkind, List.foldl_cons,
          bareIn_cons_of_ne (kind_ne_dollar_of_isFiller ht)]
      · have ht : isFiller t.kind = false := by simpa using ht
        obtain ⟨made, bare₁, us, hus, hparts, hbare, hstep⟩ :=
          exists_of_not_isFiller ht hclause.1 hfirst h
        rw [hstep first hfirst] at h
        obtain ⟨more, hrest, -⟩ := prepend_eq_ok.1 h
        have hlt : us.length < size := by
          have hle := hus.length_le
          simp only [← hn, List.length_cons]
          omega
        obtain ⟨kept, hmore⟩ :=
          ih us.length hlt (fun u hu => hclause.2 u (hus.subset hu)) hrest rfl
        refine ⟨made ++ kept, fun more hkind => ?_⟩
        rw [hstep more hkind, hmore more hkind, hbare, List.foldl_cons,
          Parts.next_of_not_isFiller ht, hparts, prepend_append]

end Tokens

end Query

end TypedQueries
