import TypedQueries.Proofs.Cursors

/-!
Lists of tokens made of parts: parts one behind the other, and parts with commas between them. A
cursor takes single tokens with commas between them if and only if they are such parts.
-/

namespace TypedQueries

/-- The number that the decimal digits of a token stand for. -/
def Token.number (t : Token) : Nat := Nat.ofDigitChars 10 t.literal.toList 0

@[simp]
theorem Token.digitsValue_literal (t : Token) : Cursor.digitsValue t.literal = t.number :=
  Nat.ofDigitChars_eq_foldl.symm

/-- The number that a token is, if it is an integer. -/
def Token.number? (t : Token) : Option Nat :=
  if t.kind = .integer then some t.number else none

/-- The placeholders among tokens, each with the number behind it, if there is one. -/
def numbersIn : List Token → List (Option Nat)
  | [] => []
  | t :: ts =>
    if t.kind = .dollar then ts.head?.bind Token.number? :: numbersIn ts else numbersIn ts

theorem numbersIn_cons_of_ne {t : Token} (h : t.kind ≠ .dollar) (ts : List Token) :
    numbersIn (t :: ts) = numbersIn ts := if_neg h

theorem numbersIn_append {us : List Token} (h : us.head?.bind Token.number? = none)
    (ts : List Token) : numbersIn (ts ++ us) = numbersIn ts ++ numbersIn us := by
  induction ts with
  | nil => rfl
  | cons t ts ih =>
    have hhead : (ts ++ us).head?.bind Token.number? = ts.head?.bind Token.number? := by
      cases ts with
      | nil => exact h
      | cons _ _ => rfl
    simp only [List.cons_append, numbersIn, ih, hhead]
    split <;> rfl

theorem numbersIn_append_of_ne {ts : List Token} (h : ∀ t ∈ ts, t.kind ≠ .dollar)
    (us : List Token) : numbersIn (ts ++ us) = numbersIn us := by
  induction ts with
  | nil => rfl
  | cons t ts ih =>
    obtain ⟨ht, hts⟩ := List.forall_mem_cons.1 h
    rw [List.cons_append, numbersIn_cons_of_ne ht, ih hts]

theorem numbersIn_of_ne {ts : List Token} (h : ∀ t ∈ ts, t.kind ≠ .dollar) : numbersIn ts = [] := by
  simpa [numbersIn] using numbersIn_append_of_ne h []

/-- Parts one behind the other. -/
inductive InSequence {α : Type} (P : List Token → α → Prop) : List Token → List α → Prop
  | nil : InSequence P [] []
  | cons {ts us : List Token} {a : α} {as : List α} (h : P ts a) (hrest : InSequence P us as) :
      InSequence P (ts ++ us) (a :: as)

/-- One or more parts, with commas between them. -/
inductive CommaSeparated {α : Type} (P : List Token → α → Prop) : List Token → List α → Prop
  | one {ts : List Token} {a : α} (h : P ts a) : CommaSeparated P ts [a]
  | cons {ts us : List Token} {comma : Token} {a : α} {as : List α} (h : P ts a)
      (hcomma : comma.kind = .comma) (hrest : CommaSeparated P us as) :
      CommaSeparated P (ts ++ comma :: us) (a :: as)

/-- A part of one token. -/
def OneToken {α : Type} (Q : Token → α → Prop) (ts : List Token) (a : α) : Prop :=
  ∃ t, ts = [t] ∧ Q t a

theorem InSequence.exists_imp {α : Type} {P Q : List Token → α → Prop} {ts : List Token}
    {as : List α} (h : InSequence P ts as) (hPQ : ∀ us a, P us a → ∃ b, Q us b) :
    ∃ bs, InSequence Q ts bs := by
  induction h with
  | nil => exact ⟨[], .nil⟩
  | cons h _ ih =>
    obtain ⟨b, hb⟩ := hPQ _ _ h
    obtain ⟨bs, hbs⟩ := ih
    exact ⟨b :: bs, .cons hb hbs⟩

namespace CommaSeparated

variable {α : Type} {P : List Token → α → Prop} {ts : List Token} {as : List α}

theorem exists_imp {Q : List Token → α → Prop} (h : CommaSeparated P ts as)
    (hPQ : ∀ us a, P us a → ∃ b, Q us b) : ∃ bs, CommaSeparated Q ts bs := by
  induction h with
  | one h =>
    obtain ⟨b, hb⟩ := hPQ _ _ h
    exact ⟨[b], .one hb⟩
  | cons h hcomma _ ih =>
    obtain ⟨b, hb⟩ := hPQ _ _ h
    obtain ⟨bs, hbs⟩ := ih
    exact ⟨b :: bs, .cons hb hcomma hbs⟩

theorem forall_value {R : α → Prop} (hP : ∀ us a, P us a → R a) (h : CommaSeparated P ts as) :
    ∀ a ∈ as, R a := by
  induction h with
  | one h => simpa using hP _ _ h
  | cons h _ _ ih => exact List.forall_mem_cons.2 ⟨hP _ _ h, ih⟩

/-- A kind that is in no part, and not that of a comma, is in none of the tokens. -/
theorem kind_ne {k : TokenKind} (hk : k ≠ .comma) (hP : ∀ us a, P us a → ∀ t ∈ us, t.kind ≠ k)
    (h : CommaSeparated P ts as) : ∀ t ∈ ts, t.kind ≠ k := by
  induction h with
  | one h => exact hP _ _ h
  | @cons _ _ comma _ _ h hcomma _ ih =>
    have hne : comma.kind ≠ k := by
      rw [hcomma]
      exact hk.symm
    exact List.forall_mem_append.2 ⟨hP _ _ h, List.forall_mem_cons.2 ⟨hne, ih⟩⟩

theorem kind_ne_of_oneToken {Q : Token → α → Prop} {k : TokenKind} (hk : k ≠ .comma)
    (hQ : ∀ {t a}, Q t a → t.kind ≠ k) (h : CommaSeparated (OneToken Q) ts as) :
    ∀ t ∈ ts, t.kind ≠ k := by
  refine h.kind_ne hk ?_
  rintro us a ⟨t, rfl, ht⟩
  simpa using hQ ht

end CommaSeparated

namespace Cursor

variable {α : Type} {item : Token → Option α} {Q : Token → α → Prop}

theorem exists_of_commaSeparated (hitem : ∀ {t a}, item t = some a ↔ Q t a)
    (hend : ∀ {t a}, Q t a → t.kind ≠ .endOfInput) {c d : Cursor} {as : List α} {expected : String}
    (h : c.commaSeparated item expected = .ok (as, d)) :
    ∃ ts, CommaSeparated (OneToken Q) ts as ∧ c = ⟨ts ++ d.tokens, d.length⟩ := by
  fun_induction Cursor.commaSeparated item expected c generalizing d as with
  | case1 => cases h
  | case2 c a ha hk ih =>
    obtain ⟨⟨as', c₁⟩, h₁, h⟩ := bind_eq_ok.1 h
    cases h
    have ha := hitem.1 ha
    have heq : c = ⟨c.current :: c.advance.tokens, c.advance.length⟩ := eq_of_kind_ne (hend ha)
    obtain ⟨comma, hcomma, hadvance⟩ := exists_of_kind hk (by simp)
    obtain ⟨ts, hts, hrest⟩ := ih h₁
    refine ⟨[c.current] ++ comma :: ts, .cons ⟨_, rfl, ha⟩ hcomma hts, ?_⟩
    rw [heq, hadvance, hrest]
    rfl
  | case3 c a ha hk =>
    cases h
    have ha := hitem.1 ha
    exact ⟨[c.current], .one ⟨_, rfl, ha⟩, eq_of_kind_ne (hend ha)⟩

theorem commaSeparated_of_oneToken (hitem : ∀ {t a}, item t = some a ↔ Q t a) {ts : List Token}
    {as : List α} (h : CommaSeparated (OneToken Q) ts as) {rest : List Token} {n : Nat}
    (hrest : (Cursor.mk rest n).kind ≠ .comma) (expected : String) :
    (Cursor.mk (ts ++ rest) n).commaSeparated item expected = .ok (as, ⟨rest, n⟩) := by
  induction h with
  | one h =>
    obtain ⟨t, rfl, ht⟩ := h
    rw [Cursor.commaSeparated]
    simp [hitem.2 ht, hrest]
  | cons h hcomma _ ih =>
    obtain ⟨t, rfl, ht⟩ := h
    rw [Cursor.commaSeparated]
    simp only [List.cons_append, List.nil_append, current_cons, hitem.2 ht, advance_cons, kind_cons,
      hcomma, ↓reduceDIte]
    exact bind_eq_ok.2 ⟨_, ih, rfl⟩

end Cursor

end TypedQueries
