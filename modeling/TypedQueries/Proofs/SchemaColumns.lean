import TypedQueries.Proofs.Cursors
import TypedQueries.Proofs.SchemaLanguage

/-!
The columns of a table, as the schema language describes them and as the grammar takes them. What a
step of the grammar takes is a part of the language; and it takes such a part if that is followed by
a token that can stand behind it.
-/

namespace TypedQueries

namespace Schema

open Cursor

variable {index : Nat}

/-! One token. -/

theorem nameOf?_eq_some_iff {t : Token} {name : String} : nameOf? t = some name ↔ IsName t name := by
  constructor
  · intro h
    unfold nameOf? at h
    split at h <;> rename_i hk <;> cases h
    · exact .quoted hk
    · exact .ident hk
    · exact .keyword hk
  · rintro (h | h | h) <;> simp [nameOf?, h]

theorem exists_of_takeName {expected name : String} {c d : Cursor}
    (h : takeName expected c = .ok (name, d)) :
    ∃ t, IsName t name ∧ c = ⟨t :: d.tokens, d.length⟩ := by
  unfold takeName at h
  split at h
  · rename_i hname
    cases h
    refine ⟨c.current, nameOf?_eq_some_iff.1 hname, eq_of_kind_ne fun hend => ?_⟩
    have hend : c.current.kind = .endOfInput := hend
    simp [nameOf?, hend] at hname
  · cases h

theorem IsName.takeName {t : Token} {name : String} (h : IsName t name) (expected : String)
    (rest : List Token) (n : Nat) :
    takeName expected ⟨t :: rest, n⟩ = .ok (name, ⟨rest, n⟩) := by
  simp [Schema.takeName, nameOf?_eq_some_iff.2 h]

theorem exists_of_takeTypeArgument {c d : Cursor} {m : Nat}
    (h : takeTypeArgument index c = .ok (m, d)) :
    ∃ t, IsArgument t m ∧ c = ⟨t :: d.tokens, d.length⟩ := by
  unfold takeTypeArgument at h
  split at h
  · rename_i hk
    dsimp only at h
    split at h
    · rename_i hbound
      cases h
      exact ⟨c.current, ⟨hk, c.current.digitsValue_literal.symm, hbound⟩,
        eq_of_kind_ne (by simp [hk])⟩
    · cases h
  · cases h

theorem IsArgument.takeTypeArgument {t : Token} {m : Nat} (h : IsArgument t m) (rest : List Token)
    (n : Nat) : takeTypeArgument index ⟨t :: rest, n⟩ = .ok (m, ⟨rest, n⟩) := by
  have hbound : m < 0x100000000 := h.bound
  simp [Schema.takeTypeArgument, h.kind, t.digitsValue_literal, h.value, hbound]

theorem isDefaultLiteral_iff {t : Token} : isDefaultLiteral t.kind = true ↔ IsLiteral t := by
  unfold isDefaultLiteral IsLiteral
  split <;> simp_all

theorem exists_of_takeDefaultLiteral {c d : Cursor} {value : String}
    (h : takeDefaultLiteral c = .ok (value, d)) :
    ∃ t, IsLiteral t ∧ value = t.literal ∧ c = ⟨t :: d.tokens, d.length⟩ := by
  unfold takeDefaultLiteral at h
  split at h
  · rename_i hk
    cases h
    refine ⟨c.current, isDefaultLiteral_iff.1 hk, rfl, eq_of_kind_ne fun hend => ?_⟩
    rw [hend] at hk
    cases hk
  · cases h

theorem IsLiteral.takeDefaultLiteral {t : Token} (h : IsLiteral t) (rest : List Token) (n : Nat) :
    takeDefaultLiteral ⟨t :: rest, n⟩ = .ok (t.literal, ⟨rest, n⟩) := by
  simp [Schema.takeDefaultLiteral, isDefaultLiteral_iff.2 h]

/-! Types and their arguments. -/

theorem exists_of_takeTypeArguments {more : Nat} {c d : Cursor} {ns : List Nat}
    (h : takeTypeArguments index more c = .ok (ns, d)) :
    ns.length ≤ more + 1 ∧ ∃ ts right, CommaSeparated (OneToken IsArgument) ts ns ∧
      right.kind = .rightParen ∧ c = ⟨ts ++ right :: d.tokens, d.length⟩ := by
  induction more generalizing c d ns with
  | zero =>
    rw [takeTypeArguments] at h
    obtain ⟨⟨m, c₁⟩, h₁, h⟩ := bind_eq_ok.1 h
    obtain ⟨c₂, h₂, h⟩ := bind_eq_ok.1 h
    cases h
    obtain ⟨t, ht, rfl⟩ := exists_of_takeTypeArgument h₁
    obtain ⟨right, hright, rfl⟩ := exists_of_expect (inColumn_eq_ok.1 h₂) (by simp)
    exact ⟨Nat.le_refl _, [t], right, .one ⟨t, rfl, ht⟩, hright, rfl⟩
  | succ more ih =>
    rw [takeTypeArguments] at h
    obtain ⟨⟨m, c₁⟩, h₁, h⟩ := bind_eq_ok.1 h
    dsimp only at h
    obtain ⟨t, ht, htake⟩ := exists_of_takeTypeArgument h₁
    split at h
    · rename_i hcomma
      obtain ⟨⟨ms, c₂⟩, h₂, h⟩ := bind_eq_ok.1 h
      cases h
      obtain ⟨comma, hcomma, heq⟩ := exists_of_kind hcomma (by simp)
      obtain ⟨hlength, ts, right, hts, hright, hrest⟩ := ih h₂
      rw [htake, heq, hrest]
      exact ⟨Nat.succ_le_succ hlength, t :: comma :: ts, right,
        .cons ⟨t, rfl, ht⟩ hcomma hts, hright, rfl⟩
    · obtain ⟨c₂, h₂, h⟩ := bind_eq_ok.1 h
      cases h
      obtain ⟨right, hright, rfl⟩ := exists_of_expect (inColumn_eq_ok.1 h₂) (by simp)
      exact ⟨by simp, [t], right, .one ⟨t, rfl, ht⟩, hright, htake⟩

theorem takeTypeArguments_of_commaSeparated {more : Nat} {ts : List Token} {ns : List Nat}
    (h : CommaSeparated (OneToken IsArgument) ts ns) (hlength : ns.length ≤ more + 1) {right : Token}
    (hright : right.kind = .rightParen) (rest : List Token) (n : Nat) :
    takeTypeArguments index more ⟨ts ++ right :: rest, n⟩ = .ok (ns, ⟨rest, n⟩) := by
  induction h generalizing more with
  | one h =>
    obtain ⟨t, rfl, ht⟩ := h
    have htake : takeTypeArgument index ⟨t :: right :: rest, n⟩ = .ok (_, ⟨right :: rest, n⟩) :=
      ht.takeTypeArgument (right :: rest) n
    have hclose : closeTypeArguments index ⟨right :: rest, n⟩ = .ok ⟨rest, n⟩ :=
      inColumn_eq_ok.2 (expect_cons hright "')'" rest n)
    cases more with
    | zero =>
      rw [takeTypeArguments]
      exact bind_eq_ok.2 ⟨_, htake, bind_eq_ok.2 ⟨_, hclose, rfl⟩⟩
    | succ more =>
      rw [takeTypeArguments]
      refine bind_eq_ok.2 ⟨_, htake, ?_⟩
      simp only [kind_cons, hright, reduceCtorEq, ↓reduceIte]
      exact bind_eq_ok.2 ⟨_, hclose, rfl⟩
  | @cons ts us comma m ms h hcomma hrest ih =>
    obtain ⟨t, rfl, ht⟩ := h
    cases more with
    | zero => cases hrest <;> simp at hlength
    | succ more =>
      rw [takeTypeArguments]
      refine bind_eq_ok.2 ⟨_, ht.takeTypeArgument (comma :: (us ++ right :: rest)) n, ?_⟩
      simp only [kind_cons, hcomma, ↓reduceIte, advance_cons]
      exact bind_eq_ok.2 ⟨_, ih (Nat.le_of_succ_le_succ hlength), rfl⟩

/-- What may stand behind a type or a modifier: another modifier, or the end of the column. -/
def endsPart : TokenKind → Bool
  | .keyword .primary | .keyword .not | .keyword .null | .keyword .unique | .keyword .default => true
  | .comma | .rightParen => true
  | _ => false

theorem exists_of_typeArguments {more : Nat} {c d : Cursor} {ns : List Nat}
    (h : typeArguments index more c = .ok (ns, d)) :
    ns = [] ∧ c = d ∨ ns ≠ [] ∧ ns.length ≤ more + 1 ∧
      ∃ ts, AreArguments ts ns ∧ c = ⟨ts ++ d.tokens, d.length⟩ := by
  unfold typeArguments at h
  split at h
  · rename_i hk
    obtain ⟨left, hleft, heq⟩ := exists_of_kind hk (by simp)
    obtain ⟨hlength, ts, right, hts, hright, hrest⟩ := exists_of_takeTypeArguments h
    refine Or.inr ⟨by cases hts <;> simp, hlength, left :: (ts ++ [right]), .mk hleft hts hright, ?_⟩
    rw [heq, hrest]
    simp
  · cases h
    exact Or.inl ⟨rfl, rfl⟩

theorem AreArguments.typeArguments {more : Nat} {ts : List Token} {ns : List Nat}
    (h : AreArguments ts ns) (hlength : ns.length ≤ more + 1) (rest : List Token) (n : Nat) :
    typeArguments index more ⟨ts ++ rest, n⟩ = .ok (ns, ⟨rest, n⟩) := by
  obtain ⟨hleft, hts, hright⟩ := h
  simpa [Schema.typeArguments, hleft] using
    takeTypeArguments_of_commaSeparated hts hlength hright rest n

theorem typeArguments_of_endsPart {c : Cursor} (h : endsPart c.kind = true) (more : Nat) :
    typeArguments index more c = .ok ([], c) := by
  have hleft : c.kind ≠ .leftParen := fun hk => by rw [hk] at h; cases h
  rw [typeArguments, if_neg hleft]

section

variable {word : String}

theorem builtin?_eq_some_iff {type : DataType} :
    DataType.builtin? word = some type ↔ (word, type) ∈ builtinTypes := by
  unfold DataType.builtin?
  split <;> simp_all [builtinTypes, eq_comm]

theorem builtin?_eq_varchar_iff {length : Option Nat} :
    DataType.builtin? word = some (.varchar length) ↔ word = "VARCHAR" ∧ length = none := by
  unfold DataType.builtin?
  split <;> simp_all [eq_comm]

theorem builtin?_eq_decimal_iff {precision scale : Option Nat} :
    DataType.builtin? word = some (.decimal precision scale) ↔
      (word = "DECIMAL" ∨ word = "NUMERIC") ∧ precision = none ∧ scale = none := by
  unfold DataType.builtin?
  split <;> simp_all [eq_comm]

end

theorem exists_of_takeDataType {c d : Cursor} {type : DataType}
    (h : takeDataType index c = .ok (type, d)) :
    ∃ ts, IsDataType ts type ∧ c = ⟨ts ++ d.tokens, d.length⟩ := by
  unfold takeDataType at h
  split at h
  · rename_i hk
    cases h
    exact ⟨[c.current], .enum hk, eq_of_kind_ne (by simp [hk])⟩
  · rename_i hk
    have heq : c = ⟨c.current :: c.advance.tokens, c.advance.length⟩ := eq_of_kind_ne (by simp [hk])
    split at h
    · cases h
    · rename_i length hname
      obtain ⟨⟨ns, c₁⟩, h₁, h⟩ := bind_eq_ok.1 h
      cases h
      obtain ⟨hword, rfl⟩ := builtin?_eq_varchar_iff.1 hname
      rcases exists_of_typeArguments h₁ with ⟨rfl, hrest⟩ | ⟨hne, hlength, ts, hts, hrest⟩
      · exact ⟨[c.current], .builtin hk (builtin?_eq_some_iff.1 hname), by rw [← hrest]; exact heq⟩
      · obtain ⟨m, rfl⟩ : ∃ m, ns = [m] := List.length_eq_one_iff.1 (by
          have := List.length_pos_iff.2 hne
          omega)
        exact ⟨c.current :: ts, .varchar hk hword hts, by rw [heq, hrest]; rfl⟩
    · rename_i precision scale hname
      obtain ⟨⟨ns, c₁⟩, h₁, h⟩ := bind_eq_ok.1 h
      cases h
      obtain ⟨hword, rfl, rfl⟩ := builtin?_eq_decimal_iff.1 hname
      rcases exists_of_typeArguments h₁ with ⟨rfl, hrest⟩ | ⟨hne, hlength, ts, hts, hrest⟩
      · exact ⟨[c.current], .builtin hk (builtin?_eq_some_iff.1 hname), by rw [← hrest]; exact heq⟩
      · refine ⟨c.current :: ts, ?_, by rw [heq, hrest]; rfl⟩
        rcases ns with _ | ⟨m, _ | ⟨k, _ | _⟩⟩
        · exact absurd rfl hne
        · exact .decimal hk hword hts
        · exact .scaled hk hword hts
        · simp at hlength
    · rename_i hname
      cases h
      exact ⟨[c.current], .builtin hk (builtin?_eq_some_iff.1 hname), heq⟩
  · cases h

section

variable {t : Token} {ts : List Token} {n : Nat} (hk : t.kind = .ident)
include hk

theorem takeDataType_varchar (hword : t.literal = "VARCHAR") :
    takeDataType index ⟨t :: ts, n⟩ = (typeArguments index 0 ⟨ts, n⟩ >>= fun (arguments, c) =>
      pure (.varchar arguments[0]?, c)) := by
  simp only [takeDataType, kind_cons, hk, current_cons, builtin?_eq_varchar_iff.2 ⟨hword, rfl⟩]
  rfl

theorem takeDataType_decimal (hword : t.literal = "DECIMAL" ∨ t.literal = "NUMERIC") :
    takeDataType index ⟨t :: ts, n⟩ = (typeArguments index 1 ⟨ts, n⟩ >>= fun (arguments, c) =>
      pure (.decimal arguments[0]? arguments[1]?, c)) := by
  simp only [takeDataType, kind_cons, hk, current_cons, builtin?_eq_decimal_iff.2 ⟨hword, rfl, rfl⟩]
  rfl

theorem takeDataType_builtin {type : DataType} (hname : DataType.builtin? t.literal = some type)
    (hts : endsPart (Cursor.mk ts n).kind = true) :
    takeDataType index ⟨t :: ts, n⟩ = .ok (type, ⟨ts, n⟩) := by
  cases type with
  | varchar length =>
    obtain ⟨hword, rfl⟩ := builtin?_eq_varchar_iff.1 hname
    rw [takeDataType_varchar hk hword, typeArguments_of_endsPart hts]
    rfl
  | decimal precision scale =>
    obtain ⟨hword, rfl, rfl⟩ := builtin?_eq_decimal_iff.1 hname
    rw [takeDataType_decimal hk hword, typeArguments_of_endsPart hts]
    rfl
  | _ => simp [takeDataType, hk, hname]

end

theorem IsDataType.takeDataType {ts : List Token} {type : DataType} (h : IsDataType ts type)
    {rest : List Token} {n : Nat} (hrest : endsPart (Cursor.mk rest n).kind = true) :
    takeDataType index ⟨ts ++ rest, n⟩ = .ok (type, ⟨rest, n⟩) := by
  cases h with
  | enum h => simp [Schema.takeDataType, h]
  | builtin h hname => exact takeDataType_builtin h (builtin?_eq_some_iff.2 hname) hrest
  | varchar h hword harguments =>
    rw [List.cons_append, takeDataType_varchar h hword, harguments.typeArguments (by simp)]
    rfl
  | decimal h hword harguments =>
    rw [List.cons_append, takeDataType_decimal h hword, harguments.typeArguments (by simp)]
    rfl
  | scaled h hword harguments =>
    rw [List.cons_append, takeDataType_decimal h hword, harguments.typeArguments (by simp)]
    rfl

/-! Defaults and other modifiers. -/

theorem onCurrentTime_iff {c : Cursor} :
    onCurrentTime c = true ↔
      c.kind = .ident ∧ c.next.kind = .leftParen ∨ IsCurrentTime c.current := by
  have hkind : c.kind = c.current.kind := rfl
  simp only [onCurrentTime, hkind, IsCurrentTime, Bool.and_eq_true, Bool.or_eq_true, beq_iff_eq]
  tauto

section

variable {now : Clock} {type : DataType}

theorem writesTime_of_holdsTime (h : type.holdsTime = true) :
    WritesTime now type (now.currentTime type) := by
  unfold DataType.holdsTime at h
  split at h
  · exact .timestamp
  · exact .date
  · cases h

theorem WritesTime.holdsTime {value : String} (h : WritesTime now type value) :
    type.holdsTime = true := by
  cases h <;> rfl

theorem WritesTime.eq_currentTime {value : String} (h : WritesTime now type value) :
    value = now.currentTime type := by
  cases h <;> rfl

theorem exists_of_takeDefault {c d : Cursor} {value : String}
    (h : takeDefault now type c = .ok (value, d)) :
    ∃ ts, IsDefault now type ts value ∧ c = ⟨ts ++ d.tokens, d.length⟩ := by
  unfold takeDefault at h
  split at h
  · rename_i htime
    obtain ⟨htime, hcurrent⟩ := Bool.and_eq_true_iff.1 htime
    have hkind : c.kind = .ident := by
      rcases onCurrentTime_iff.1 hcurrent with ⟨hk, -⟩ | ⟨hk, -⟩ <;> exact hk
    have heq : c = ⟨c.current :: c.advance.tokens, c.advance.length⟩ :=
      eq_of_kind_ne (by simp [hkind])
    split at h
    · rename_i hleft
      obtain ⟨c₁, h₁, h⟩ := bind_eq_ok.1 h
      cases h
      obtain ⟨left, hleft, hadvance⟩ := exists_of_kind hleft (by simp)
      obtain ⟨right, hright, hrest⟩ := exists_of_expect h₁ (by simp)
      have hkinds : [c.current, left, right].map Token.kind =
          [.ident, .leftParen, .rightParen] := by
        simp [hleft, hright, show c.current.kind = .ident from hkind]
      exact ⟨[c.current, left, right], .call (writesTime_of_holdsTime htime) hkinds, by rw [heq, hadvance, hrest]; rfl⟩
    · rename_i hleft
      cases h
      have hword : IsCurrentTime c.current :=
        (onCurrentTime_iff.1 hcurrent).resolve_left fun ⟨_, hk⟩ => hleft hk
      exact ⟨[c.current], .current (writesTime_of_holdsTime htime) hword, heq⟩
  · rename_i htime
    split at h
    · rename_i htyped
      simp only [Bool.and_eq_true, Bool.or_eq_true, beq_iff_eq] at htyped
      obtain ⟨hfirst, -⟩ := htyped
      obtain ⟨u, hu, rfl, hrest⟩ := exists_of_takeDefaultLiteral h
      have heq : c = ⟨c.current :: c.advance.tokens, c.advance.length⟩ :=
        eq_of_kind_ne (by rcases hfirst with hk | hk <;> simp [hk])
      have hother (hword : IsCurrentTime c.current) (value : String) :
          ¬ WritesTime now type value := fun hwrites =>
        htime (Bool.and_eq_true_iff.2 ⟨hwrites.holdsTime, onCurrentTime_iff.2 (Or.inr hword)⟩)
      exact ⟨[c.current, u], .typed hfirst hu hother, by rw [heq, hrest]; rfl⟩
    · obtain ⟨t, ht, rfl, hrest⟩ := exists_of_takeDefaultLiteral h
      exact ⟨[t], .literal ht, hrest⟩

theorem IsDefault.takeDefault {ts : List Token} {value : String} (h : IsDefault now type ts value)
    {rest : List Token} {n : Nat} (hrest : endsPart (Cursor.mk rest n).kind = true) :
    takeDefault now type ⟨ts ++ rest, n⟩ = .ok (value, ⟨rest, n⟩) := by
  have hnext : (Cursor.mk rest n).current.kind ≠ .leftParen ∧
      isDefaultLiteral (Cursor.mk rest n).current.kind = false := by
    have hends : endsPart (Cursor.mk rest n).current.kind = true := hrest
    unfold endsPart at hends
    split at hends <;> simp_all [isDefaultLiteral]
  cases h with
  | call htime hkinds =>
    simp only [List.map_eq_cons_iff, List.map_eq_nil_iff] at hkinds
    obtain ⟨t, _, rfl, ht, left, _, rfl, hleft, right, _, rfl, hright, rfl⟩ := hkinds
    have hcurrent : onCurrentTime ⟨t :: left :: right :: rest, n⟩ = true :=
      onCurrentTime_iff.2 (Or.inl ⟨ht, hleft⟩)
    simp [Schema.takeDefault, htime.holdsTime, htime.eq_currentTime, hcurrent, hleft,
      expect_cons hright]
  | @current t _ htime hword =>
    have hcurrent : onCurrentTime ⟨t :: rest, n⟩ = true := onCurrentTime_iff.2 (Or.inr hword)
    simp [Schema.takeDefault, htime.holdsTime, htime.eq_currentTime, hcurrent, hnext.1]
  | @literal t hliteral =>
    have hcurrent : onCurrentTime ⟨t :: rest, n⟩ = false := by
      rcases hliteral with h | h | h | h <;> simp [onCurrentTime, h]
    simp [Schema.takeDefault, hcurrent, hnext.2, hliteral.takeDefaultLiteral]
  | @typed t u ht hu hother =>
    have htime : (type.holdsTime && onCurrentTime ⟨t :: u :: rest, n⟩) = false := by
      have hleft : u.kind ≠ .leftParen := by
        rcases hu with h | h | h | h <;> simp [h]
      rw [Bool.and_eq_false_iff, Bool.eq_false_iff, Bool.eq_false_iff, ← not_and_or]
      rintro ⟨hholds, hcurrent⟩
      rcases onCurrentTime_iff.1 hcurrent with ⟨-, hk⟩ | hword
      · exact hleft hk
      · exact hother hword _ (writesTime_of_holdsTime hholds)
    simp [Schema.takeDefault, htime, ht, isDefaultLiteral_iff.2 hu, hu.takeDefaultLiteral]

theorem exists_of_takeModifier {c d : Cursor} {m : Modifier}
    (h : takeModifier now index type c = .ok (m, d)) :
    ∃ ts, IsModifier now type ts m ∧ c = ⟨ts ++ d.tokens, d.length⟩ := by
  unfold takeModifier at h
  split at h
  · rename_i hk
    obtain ⟨c₁, h₁, h⟩ := bind_eq_ok.1 h
    cases h
    obtain ⟨t, ht, heq⟩ := exists_of_kind hk (by simp)
    obtain ⟨u, hu, hrest⟩ := exists_of_expect (inColumn_eq_ok.1 h₁) (by simp)
    exact ⟨[t, u], .primaryKey (by simp [ht, hu]), by rw [heq, hrest]; rfl⟩
  · rename_i hk
    obtain ⟨c₁, h₁, h⟩ := bind_eq_ok.1 h
    cases h
    obtain ⟨t, ht, heq⟩ := exists_of_kind hk (by simp)
    obtain ⟨u, hu, hrest⟩ := exists_of_expect (inColumn_eq_ok.1 h₁) (by simp)
    exact ⟨[t, u], .notNull (by simp [ht, hu]), by rw [heq, hrest]; rfl⟩
  · rename_i hk
    cases h
    obtain ⟨t, ht, heq⟩ := exists_of_kind hk (by simp)
    exact ⟨[t], .null ht, heq⟩
  · rename_i hk
    cases h
    obtain ⟨t, ht, heq⟩ := exists_of_kind hk (by simp)
    exact ⟨[t], .unique ht, heq⟩
  · rename_i hk
    obtain ⟨⟨value, c₁⟩, h₁, h⟩ := bind_eq_ok.1 h
    cases h
    obtain ⟨t, ht, heq⟩ := exists_of_kind hk (by simp)
    obtain ⟨ts, hts, hrest⟩ := exists_of_takeDefault (inColumn_eq_ok.1 h₁)
    exact ⟨t :: ts, .default ht hts, by rw [heq, hrest]; rfl⟩
  · cases h

theorem IsModifier.takeModifier {ts : List Token} {m : Modifier} (h : IsModifier now type ts m)
    {rest : List Token} {n : Nat} (hrest : endsPart (Cursor.mk rest n).kind = true) :
    takeModifier now index type ⟨ts ++ rest, n⟩ = .ok (m, ⟨rest, n⟩) := by
  cases h with
  | primaryKey hkinds =>
    simp only [List.map_eq_cons_iff, List.map_eq_nil_iff] at hkinds
    obtain ⟨t, _, rfl, ht, u, _, rfl, hu, rfl⟩ := hkinds
    simp [Schema.takeModifier, ht, expectKeyword, expect_cons hu]
  | notNull hkinds =>
    simp only [List.map_eq_cons_iff, List.map_eq_nil_iff] at hkinds
    obtain ⟨t, _, rfl, ht, u, _, rfl, hu, rfl⟩ := hkinds
    simp [Schema.takeModifier, ht, expectKeyword, expect_cons hu]
  | null ht => simp [Schema.takeModifier, ht]
  | unique ht => simp [Schema.takeModifier, ht]
  | default ht hvalue =>
    simp [Schema.takeModifier, ht, hvalue.takeDefault hrest]

theorem kind_of_isModifier {ts : List Token} {m : Modifier} (h : IsModifier now type ts m)
    (us : List Token) (n : Nat) :
    ∃ k, (Cursor.mk (ts ++ us) n).kind = .keyword k ∧ endsPart (.keyword k) = true := by
  cases h with
  | primaryKey hkinds =>
    simp only [List.map_eq_cons_iff] at hkinds
    obtain ⟨t, _, rfl, ht, -⟩ := hkinds
    exact ⟨_, ht, rfl⟩
  | notNull hkinds =>
    simp only [List.map_eq_cons_iff] at hkinds
    obtain ⟨t, _, rfl, ht, -⟩ := hkinds
    exact ⟨_, ht, rfl⟩
  | null ht => exact ⟨_, ht, rfl⟩
  | unique ht => exact ⟨_, ht, rfl⟩
  | default ht _ => exact ⟨_, ht, rfl⟩

/-- The tokens at which a column ends. -/
def endsField (kind : TokenKind) : Prop := kind = .comma ∨ kind = .rightParen

theorem exists_of_takeModifiers {c d : Cursor} {ms : List Modifier}
    (h : takeModifiers now index type c = .ok (ms, d)) :
    ∃ ts, InSequence (IsModifier now type) ts ms ∧ c = ⟨ts ++ d.tokens, d.length⟩ := by
  fun_induction takeModifiers now index type c generalizing d ms with
  | case1 c hc =>
    cases h
    exact ⟨[], .nil, rfl⟩
  | case2 => cases h
  | case3 c hc m c₁ h₁ ih =>
    obtain ⟨⟨ms', c₂⟩, h₂, h⟩ := bind_eq_ok.1 h
    cases h
    obtain ⟨ts, hts, heq⟩ := exists_of_takeModifier h₁
    obtain ⟨us, hus, hrest⟩ := ih h₂
    exact ⟨ts ++ us, .cons hts hus, by rw [heq, hrest]; simp⟩

theorem takeModifiers_of_inSequence {ts : List Token} {ms : List Modifier}
    (h : InSequence (IsModifier now type) ts ms) {rest : List Token} {n : Nat}
    (hrest : endsField (Cursor.mk rest n).kind) :
    endsPart (Cursor.mk (ts ++ rest) n).kind = true ∧
      takeModifiers now index type ⟨ts ++ rest, n⟩ = .ok (ms, ⟨rest, n⟩) := by
  induction h with
  | nil =>
    refine ⟨by rcases hrest with h | h <;> simp [h, endsPart], ?_⟩
    rw [takeModifiers]
    exact if_pos hrest
  | @cons ts us m ms h _ ih =>
    obtain ⟨hends, hus⟩ := ih
    obtain ⟨k, hk, hpart⟩ := kind_of_isModifier h (us ++ rest) n
    have htake : takeModifier now index type ⟨ts ++ (us ++ rest), n⟩ = .ok (m, ⟨us ++ rest, n⟩) :=
      h.takeModifier hends
    rw [List.append_assoc, takeModifiers, if_neg (by simp [hk])]
    refine ⟨by rw [hk, hpart], ?_⟩
    split <;> rename_i h' <;> rw [htake] at h' <;> cases h'
    exact bind_eq_ok.2 ⟨_, hus, rfl⟩

end

/-! Columns, tables and enumerations. -/

section

variable {now : Clock}

theorem exists_of_takeField {c d : Cursor} {f : Field} (h : takeField now index c = .ok (f, d)) :
    ∃ ts, IsField now ts f ∧ c = ⟨ts ++ d.tokens, d.length⟩ := by
  obtain ⟨⟨name, c₁⟩, h₁, h⟩ := bind_eq_ok.1 h
  obtain ⟨⟨type, c₂⟩, h₂, h⟩ := bind_eq_ok.1 h
  obtain ⟨⟨ms, c₃⟩, h₃, h⟩ := bind_eq_ok.1 h
  cases h
  obtain ⟨t, ht, rfl⟩ := exists_of_takeName (inColumn_eq_ok.1 h₁)
  obtain ⟨ts, hts, heq⟩ := exists_of_takeDataType h₂
  obtain ⟨us, hus, hrest⟩ := exists_of_takeModifiers h₃
  rw [heq, hrest, Field.foldl_modify]
  exact ⟨t :: (ts ++ us), .mk ht hts hus, by simp⟩

theorem IsField.takeField {ts : List Token} {f : Field} (h : IsField now ts f) {rest : List Token}
    {n : Nat} (hrest : endsField (Cursor.mk rest n).kind) :
    takeField now index ⟨ts ++ rest, n⟩ = .ok (f, ⟨rest, n⟩) := by
  obtain ⟨hname, htype, hms⟩ := h
  obtain ⟨hends, htake⟩ := takeModifiers_of_inSequence hms hrest
  rw [List.cons_append, List.append_assoc, Schema.takeField]
  refine bind_eq_ok.2 ⟨_, inColumn_eq_ok.2 (hname.takeName _ _ _), bind_eq_ok.2 ⟨_, htype.takeDataType hends,
    bind_eq_ok.2 ⟨_, htake, ?_⟩⟩⟩
  simp only [Field.foldl_modify]
  rfl

end

end Schema

end TypedQueries
