import TypedQueries.Proofs.Unplaced
import TypedQueries.Schema.Parser

/-!
The schema grammar does not read the places of tokens either: every step of it commutes with leaving
them out. An error keeps the number of the column definition that it is in.
-/

namespace TypedQueries.Schema

open Cursor

theorem takeName_unplaced (expected : String) (c : Cursor) :
    takeName expected c.unplaced = unplacedResult (Prod.map id unplaced) (takeName expected c) := by
  have h : nameOf? c.current.unplaced = nameOf? c.current := rfl
  simp only [takeName, current_unplaced, h, advance_unplaced, unexpected_unplaced]
  split <;> rfl

theorem inColumn_unplaced {α : Type} (f : α → α) (index : Nat) (x : Except SyntaxError α) :
    inColumn index (unplacedResult f x) = unplacedResult f (inColumn index x) := by
  cases x <;> rfl

theorem takeTypeArgument_unplaced (index : Nat) (c : Cursor) :
    takeTypeArgument index c.unplaced =
      unplacedResult (Prod.map id unplaced) (takeTypeArgument index c) := by
  simp only [takeTypeArgument, kind_unplaced, current_unplaced, Token.literal_unplaced,
    advance_unplaced, unexpected_unplaced]
  split
  · split <;> rfl
  · rfl

theorem closeTypeArguments_unplaced (index : Nat) (c : Cursor) :
    closeTypeArguments index c.unplaced = unplacedResult unplaced (closeTypeArguments index c) := by
  rw [closeTypeArguments, expect_unplaced, inColumn_unplaced, closeTypeArguments]

theorem takeTypeArguments_unplaced (index more : Nat) (c : Cursor) :
    takeTypeArguments index more c.unplaced =
      unplacedResult (Prod.map id unplaced) (takeTypeArguments index more c) := by
  induction more generalizing c with
  | zero =>
    rw [takeTypeArguments, takeTypeArguments, takeTypeArgument_unplaced]
    apply unplacedResult_bind
    rintro ⟨n, c⟩
    simp only [Prod.map, id, closeTypeArguments_unplaced]
    exact unplacedResult_bind (by intro _; rfl) _
  | succ more ih =>
    rw [takeTypeArguments, takeTypeArguments, takeTypeArgument_unplaced]
    apply unplacedResult_bind
    rintro ⟨n, c⟩
    simp only [Prod.map, id, kind_unplaced, advance_unplaced, ih, closeTypeArguments_unplaced]
    split <;> exact unplacedResult_bind (by intro _; rfl) _

theorem typeArguments_unplaced (index more : Nat) (c : Cursor) :
    typeArguments index more c.unplaced =
      unplacedResult (Prod.map id unplaced) (typeArguments index more c) := by
  simp only [typeArguments, kind_unplaced, advance_unplaced, takeTypeArguments_unplaced]
  split <;> rfl

theorem takeDataType_unplaced (index : Nat) (c : Cursor) :
    takeDataType index c.unplaced =
      unplacedResult (Prod.map id unplaced) (takeDataType index c) := by
  simp only [takeDataType, kind_unplaced, current_unplaced, Token.literal_unplaced,
    advance_unplaced, typeArguments_unplaced, unexpected_unplaced]
  split
  · rfl
  · split
    · rfl
    · exact unplacedResult_bind (by intro _; rfl) _
    · exact unplacedResult_bind (by intro _; rfl) _
    · rfl
  · rfl

theorem takeDefaultLiteral_unplaced (c : Cursor) :
    takeDefaultLiteral c.unplaced =
      unplacedResult (Prod.map id unplaced) (takeDefaultLiteral c) := by
  simp only [takeDefaultLiteral, kind_unplaced, current_unplaced, Token.literal_unplaced,
    advance_unplaced, unexpected_unplaced]
  split <;> rfl

theorem onCurrentTime_unplaced (c : Cursor) : onCurrentTime c.unplaced = onCurrentTime c := by
  simp [onCurrentTime]

theorem takeDefault_unplaced (now : Clock) (type : DataType) (c : Cursor) :
    takeDefault now type c.unplaced =
      unplacedResult (Prod.map id unplaced) (takeDefault now type c) := by
  simp only [takeDefault, onCurrentTime_unplaced, next_unplaced, Token.kind_unplaced,
    kind_unplaced, advance_unplaced, expect_unplaced, takeDefaultLiteral_unplaced]
  split
  · split
    · exact unplacedResult_bind (by intro _; rfl) _
    · rfl
  · split <;> rfl

theorem takeModifier_unplaced (now : Clock) (index : Nat) (type : DataType) (c : Cursor) :
    takeModifier now index type c.unplaced =
      unplacedResult (Prod.map id unplaced) (takeModifier now index type c) := by
  simp only [takeModifier, kind_unplaced, advance_unplaced, expectKeyword, expect_unplaced,
    takeDefault_unplaced, inColumn_unplaced, unexpected_unplaced]
  split
  · exact unplacedResult_bind (by intro _; rfl) _
  · exact unplacedResult_bind (by intro _; rfl) _
  · rfl
  · rfl
  · exact unplacedResult_bind (by intro _; rfl) _
  · rfl

theorem takeModifiers_unplaced (now : Clock) (index : Nat) (type : DataType) (c : Cursor) :
    takeModifiers now index type c.unplaced =
      unplacedResult (Prod.map id unplaced) (takeModifiers now index type c) := by
  fun_induction takeModifiers now index type c with
  | case1 c hc =>
    rw [takeModifiers]
    simp [hc, unplacedResult]
  | case2 c hc e h =>
    rw [takeModifiers]
    simp only [kind_unplaced, hc, ↓reduceIte]
    split <;> rename_i h' <;> rw [takeModifier_unplaced, h] at h' <;> cases h'
    rfl
  | case3 c hc m d h ih =>
    rw [takeModifiers]
    simp only [kind_unplaced, hc, ↓reduceIte]
    split <;> rename_i h' <;> rw [takeModifier_unplaced, h] at h' <;> cases h'
    simp only [id, ih]
    exact unplacedResult_bind (by intro _; rfl) _

theorem takeField_unplaced (now : Clock) (index : Nat) (c : Cursor) :
    takeField now index c.unplaced =
      unplacedResult (Prod.map id unplaced) (takeField now index c) := by
  simp only [takeField, takeName_unplaced, inColumn_unplaced]
  apply unplacedResult_bind
  rintro ⟨name, c⟩
  simp only [Prod.map, id, takeDataType_unplaced]
  apply unplacedResult_bind
  rintro ⟨type, c⟩
  simp only [Prod.map, id, takeModifiers_unplaced]
  exact unplacedResult_bind (by intro _; rfl) _

theorem takeFields_unplaced (now : Clock) (index : Nat) (c : Cursor) :
    takeFields now index c.unplaced =
      unplacedResult (Prod.map id unplaced) (takeFields now index c) := by
  fun_induction takeFields now index c with
  | case1 index c e h =>
    rw [takeFields]
    split <;> rename_i h' <;> rw [takeField_unplaced, h] at h' <;> cases h'
    rfl
  | case2 index c f d h hk ih =>
    rw [takeFields]
    split <;> rename_i h' <;> rw [takeField_unplaced, h] at h' <;> cases h'
    simp only [id, kind_unplaced, hk, ↓reduceDIte, advance_unplaced, ih]
    exact unplacedResult_bind (by intro _; rfl) _
  | case3 index c f d h hk =>
    rw [takeFields]
    split <;> rename_i h' <;> rw [takeField_unplaced, h] at h' <;> cases h'
    simp only [id, kind_unplaced, hk, ↓reduceDIte, expect_unplaced]
    exact unplacedResult_bind (by intro _; rfl) _

theorem skipIfNotExists_unplaced (c : Cursor) :
    skipIfNotExists c.unplaced = unplacedResult unplaced (skipIfNotExists c) := by
  simp only [skipIfNotExists, kind_unplaced, advance_unplaced, expectKeyword, expect_unplaced]
  split
  · exact unplacedResult_bind (fun c => expect_unplaced c _ _) _
  · rfl

theorem takeTable_unplaced (now : Clock) (c : Cursor) :
    takeTable now c.unplaced = unplacedResult (Prod.map id unplaced) (takeTable now c) := by
  simp only [takeTable, skipIfNotExists_unplaced]
  apply unplacedResult_bind
  intro c
  rw [takeName_unplaced]
  apply unplacedResult_bind
  rintro ⟨name, c⟩
  simp only [Prod.map, id, expect_unplaced]
  apply unplacedResult_bind
  intro c
  rw [takeFields_unplaced]
  exact unplacedResult_bind (by intro _; rfl) _

theorem takeEnumeration_unplaced (c : Cursor) :
    takeEnumeration c.unplaced = unplacedResult (Prod.map id unplaced) (takeEnumeration c) := by
  simp only [takeEnumeration, expectKeyword, takeName_unplaced]
  apply unplacedResult_bind
  rintro ⟨name, c⟩
  simp only [Prod.map, id, expect_unplaced]
  apply unplacedResult_bind
  intro c
  rw [expect_unplaced]
  apply unplacedResult_bind
  intro c
  rw [expect_unplaced]
  apply unplacedResult_bind
  intro c
  rw [commaSeparated_unplaced enumValue? _ fun _ => rfl]
  apply unplacedResult_bind
  rintro ⟨values, c⟩
  simp only [Prod.map, id, expect_unplaced]
  exact unplacedResult_bind (by intro _; rfl) _

theorem takeDeclaration_unplaced (now : Clock) (c : Cursor) :
    takeDeclaration now c.unplaced =
      unplacedResult (Prod.map id unplaced) (takeDeclaration now c) := by
  simp only [takeDeclaration, kind_unplaced, advance_unplaced, takeTable_unplaced,
    takeEnumeration_unplaced, unexpected_unplaced]
  split
  · exact unplacedResult_bind (by intro _; rfl) _
  · exact unplacedResult_bind (by intro _; rfl) _
  · rfl

section

variable {now : Clock} {c : Cursor}

theorem takeItems_of_endOfInput (hk : c.kind = .endOfInput) : takeItems now c = .ok [] := by
  rw [takeItems]
  split <;> simp_all

theorem takeItems_of_semicolon (hk : c.kind = .semicolon) :
    takeItems now c = takeItems now c.advance := by
  rw [takeItems]
  split <;> simp_all

theorem takeItems_of_create (hk : c.kind = .keyword .create) :
    takeItems now c = (takeDeclaration now c.advance >>= fun (item, d) => do
      let items ← takeItems now d
      return item :: items) := by
  rw [takeItems.eq_def now c]
  split
  · simp_all
  · simp_all
  · split <;> rename_i h <;> rw [h] <;> rfl
  · rename_i hother
    exact absurd hk hother

theorem takeItems_of_other (hend : c.kind ≠ .endOfInput) (hsemicolon : c.kind ≠ .semicolon)
    (hcreate : c.kind ≠ .keyword .create) : takeItems now c = .error (c.unexpected "CREATE") := by
  rw [takeItems]
  split <;> simp_all

end

theorem takeItems_unplaced (now : Clock) (c : Cursor) :
    takeItems now c.unplaced = unplacedResult id (takeItems now c) := by
  fun_induction takeItems now c with
  | case1 c hk => rw [takeItems_of_endOfInput (by rwa [kind_unplaced]), unplacedResult, id]
  | case2 c hk ih => rw [takeItems_of_semicolon (by rwa [kind_unplaced]), advance_unplaced, ih]
  | case3 c hk e h =>
    rw [takeItems_of_create (by rwa [kind_unplaced]), advance_unplaced, takeDeclaration_unplaced, h]
    rfl
  | case4 c hk item d h ih =>
    rw [takeItems_of_create (by rwa [kind_unplaced]), advance_unplaced, takeDeclaration_unplaced, h]
    change (takeItems now d.unplaced >>= fun items => pure (item :: items)) = _
    rw [ih]
    exact unplacedResult_bind (by intro _; rfl) _
  | case5 c hend hsemicolon hcreate =>
    rw [takeItems_of_other (by rwa [kind_unplaced]) (by rwa [kind_unplaced])
      (by rwa [kind_unplaced]), unexpected_unplaced]
    rfl

end TypedQueries.Schema
