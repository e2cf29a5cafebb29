import TypedQueries.Lexical.Cursor

/-!
What a cursor does on a token that is given, and what is known of the tokens of a cursor that has
taken one.
-/

namespace TypedQueries.Cursor

@[simp]
theorem current_cons (t : Token) (ts : List Token) (n : Nat) : (Cursor.mk (t :: ts) n).current = t :=
  rfl

@[simp]
theorem kind_cons (t : Token) (ts : List Token) (n : Nat) :
    (Cursor.mk (t :: ts) n).kind = t.kind := rfl

@[simp]
theorem advance_cons (t : Token) (ts : List Token) (n : Nat) :
    (Cursor.mk (t :: ts) n).advance = ⟨ts, n⟩ := rfl

@[simp]
theorem next_cons (t : Token) (ts : List Token) (n : Nat) :
    (Cursor.mk (t :: ts) n).next = (Cursor.mk ts n).current := rfl

theorem expect_cons {t : Token} {kind : TokenKind} (h : t.kind = kind) (expected : String)
    (ts : List Token) (n : Nat) : (Cursor.mk (t :: ts) n).expect kind expected = .ok ⟨ts, n⟩ := by
  simp [expect, h]

theorem eq_of_kind_ne {c : Cursor} (h : c.kind ≠ .endOfInput) :
    c = ⟨c.current :: c.advance.tokens, c.advance.length⟩ := by
  obtain ⟨tokens, n⟩ := c
  cases tokens with
  | nil => exact absurd rfl h
  | cons t ts => rfl

/-- Where no token has the kind of the end of input, only the end has it. -/
theorem tokens_eq_nil {c : Cursor} (htokens : ∀ t ∈ c.tokens, t.kind ≠ .endOfInput)
    (hk : c.kind = .endOfInput) : c.tokens = [] := by
  obtain ⟨tokens, n⟩ := c
  cases tokens with
  | nil => rfl
  | cons t ts => exact absurd hk (htokens t List.mem_cons_self)

theorem exists_of_kind {c : Cursor} {kind : TokenKind} (h : c.kind = kind)
    (hk : kind ≠ .endOfInput) :
    ∃ t, t.kind = kind ∧ c = ⟨t :: c.advance.tokens, c.advance.length⟩ :=
  ⟨c.current, h, eq_of_kind_ne (h ▸ hk)⟩

theorem exists_of_expect {c d : Cursor} {kind : TokenKind} {expected : String}
    (h : c.expect kind expected = .ok d) (hk : kind ≠ .endOfInput) :
    ∃ t, t.kind = kind ∧ c = ⟨t :: d.tokens, d.length⟩ := by
  unfold expect at h
  split at h
  · rename_i hc
    cases h
    exact exists_of_kind hc hk
  · cases h

end TypedQueries.Cursor
