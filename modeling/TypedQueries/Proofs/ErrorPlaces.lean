import TypedQueries.Proofs.TokenSpans
import TypedQueries.Proofs.UnplacedSchema
import TypedQueries.Proofs.WhereLoop

/-!
Where errors are. Each step of the two grammars either fails at a token that is still ahead of it,
or it goes on with a part of what was ahead. So the error of a rejected text is at a token of the
text, the end of input included.
-/

namespace TypedQueries

/-- The error has the place of the token, and if it names the text that was found, then this is the
token's. -/
structure SyntaxError.IsAt (e : SyntaxError) (t : Token) : Prop where
  span_eq : e.span = t.span
  found_eq : ∀ text ∈ e.fault.found?, text = t.literal

namespace SyntaxError

theorem isAt_unexpected (expected : String) (t : Token) : (unexpected expected t).IsAt t :=
  ⟨rfl, fun _ h => (Option.some.inj h).symm⟩

theorem isAt_ofToken {t : Token} {fault : SyntaxFault} (h : fault.found? = none) :
    (ofToken t fault).IsAt t :=
  ⟨rfl, fun _ htext => absurd (h.symm.trans htext) (by simp)⟩

theorem IsAt.inField {e : SyntaxError} {t : Token} (h : e.IsAt t) (index : Nat) :
    (e.inField index).IsAt t :=
  ⟨h.span_eq, h.found_eq⟩

end SyntaxError

namespace Cursor

/-- The tokens that are not yet taken, and the end of input. -/
def ahead (c : Cursor) : List Token := c.tokens ++ [Token.endOfInput c.length]

theorem ahead_ofSource (source : String) : (ofSource source).ahead = tokenize source := rfl

theorem ahead_suffix {c d : Cursor} (h : d.tokens <:+ c.tokens) (hlength : d.length = c.length) :
    d.ahead <:+ c.ahead := by
  obtain ⟨taken, htaken⟩ := h
  exact ⟨taken, by rw [ahead, ahead, ← htaken, hlength, List.append_assoc]⟩

theorem ahead_advance (c : Cursor) : c.advance.ahead <:+ c.ahead :=
  ahead_suffix c.advance_suffix rfl

theorem current_mem_ahead (c : Cursor) : c.current ∈ c.ahead := by
  obtain ⟨tokens, n⟩ := c
  cases tokens with
  | nil => exact List.mem_singleton.2 rfl
  | cons t ts => exact List.mem_cons_self

theorem next_mem_ahead (c : Cursor) : c.next ∈ c.ahead :=
  c.ahead_advance.subset c.advance.current_mem_ahead

/-- The error is at a token ahead. -/
def Blames (c : Cursor) (e : SyntaxError) : Prop := ∃ t ∈ c.ahead, e.IsAt t

theorem Blames.of_suffix {c d : Cursor} {e : SyntaxError} (h : d.Blames e)
    (hd : d.ahead <:+ c.ahead) : c.Blames e := by
  obtain ⟨t, ht, he⟩ := h
  exact ⟨t, hd.subset ht, he⟩

theorem Blames.inField {c : Cursor} {e : SyntaxError} (h : c.Blames e) (index : Nat) :
    c.Blames (e.inField index) := by
  obtain ⟨t, ht, he⟩ := h
  exact ⟨t, ht, he.inField index⟩

theorem blames_unexpected (c : Cursor) (expected : String) : c.Blames (c.unexpected expected) :=
  ⟨c.current, c.current_mem_ahead, SyntaxError.isAt_unexpected expected c.current⟩

theorem blames_current (c : Cursor) {fault : SyntaxFault} (h : fault.found? = none) :
    c.Blames (.ofToken c.current fault) :=
  ⟨c.current, c.current_mem_ahead, SyntaxError.isAt_ofToken h⟩

theorem blames_next (c : Cursor) {fault : SyntaxFault} (h : fault.found? = none) :
    c.Blames (.ofToken c.next fault) :=
  ⟨c.next, c.next_mem_ahead, SyntaxError.isAt_ofToken h⟩

/-- What a step from the cursor comes to: an error at a token ahead, or a result behind which a part
of what was ahead is left. -/
def ReadsOn {α : Type} (c : Cursor) (rest : α → Cursor) : Except SyntaxError α → Prop
  | .error e => c.Blames e
  | .ok a => (rest a).ahead <:+ c.ahead

namespace ReadsOn

variable {α β : Type} {c d : Cursor} {rest : α → Cursor} {rest' : β → Cursor}
  {x : Except SyntaxError α} {k : α → Except SyntaxError β}

theorem blames (h : c.ReadsOn rest x) {e : SyntaxError} (he : x = .error e) : c.Blames e := by
  rwa [he] at h

theorem suffix (h : c.ReadsOn rest x) {a : α} (ha : x = .ok a) : (rest a).ahead <:+ c.ahead := by
  rwa [ha] at h

theorem of_suffix (h : d.ReadsOn rest x) (hd : d.ahead <:+ c.ahead) : c.ReadsOn rest x := by
  cases x with
  | error e => exact Blames.of_suffix h hd
  | ok a => exact List.IsSuffix.trans h hd

theorem bind (hx : c.ReadsOn rest x)
    (hk : ∀ a, (rest a).ahead <:+ c.ahead → c.ReadsOn rest' (k a)) : c.ReadsOn rest' (x >>= k) := by
  cases x with
  | error e => exact hx
  | ok a => exact hk a hx

/-- A step and then another from where the first leaves off. -/
theorem andThen (hx : c.ReadsOn rest x) (hk : ∀ a, (rest a).ReadsOn rest' (k a)) :
    c.ReadsOn rest' (x >>= k) :=
  hx.bind fun a ha => (hk a).of_suffix ha

theorem map (hx : c.ReadsOn rest x) {f : α → β} (hf : ∀ a, rest' (f a) = rest a) :
    c.ReadsOn rest' (x >>= fun a => pure (f a)) :=
  hx.bind fun a ha => by
    show (rest' (f a)).ahead <:+ c.ahead
    rwa [hf a]

end ReadsOn

theorem readsOn_expect (c : Cursor) (kind : TokenKind) (expected : String) :
    c.ReadsOn id (c.expect kind expected) := by
  unfold expect
  split
  · exact c.ahead_advance
  · exact c.blames_unexpected expected

theorem readsOn_commaSeparated {α : Type} (item : Token → Option α) (expected : String)
    (c : Cursor) : c.ReadsOn Prod.snd (c.commaSeparated item expected) := by
  fun_induction commaSeparated item expected c with
  | case1 c => exact c.blames_unexpected expected
  | case2 c a ha hk ih =>
    have hrest : c.advance.advance.ahead <:+ c.ahead :=
      c.advance.ahead_advance.trans c.ahead_advance
    exact (ih.of_suffix hrest).map fun _ => rfl
  | case3 c => exact c.ahead_advance

theorem readsOn_expectUnsigned (c : Cursor) (expected : String) :
    c.ReadsOn Prod.snd (c.expectUnsigned expected) := by
  unfold expectUnsigned
  split
  · dsimp only
    split
    · exact c.ahead_advance
    · exact c.blames_current rfl
  · exact c.blames_unexpected expected

end Cursor

open Cursor

namespace Schema

/-! The schema grammar. -/

theorem readsOn_takeName (expected : String) (c : Cursor) :
    c.ReadsOn Prod.snd (takeName expected c) := by
  unfold takeName
  split
  · exact c.ahead_advance
  · exact c.blames_unexpected expected

theorem readsOn_inColumn {α : Type} {rest : α → Cursor} {c : Cursor} {x : Except SyntaxError α}
    (h : c.ReadsOn rest x) (index : Nat) : c.ReadsOn rest (inColumn index x) := by
  cases x with
  | error e => exact h.inField index
  | ok a => exact h

theorem readsOn_takeTypeArgument (index : Nat) (c : Cursor) :
    c.ReadsOn Prod.snd (takeTypeArgument index c) := by
  unfold takeTypeArgument
  split
  · dsimp only
    split
    · exact c.ahead_advance
    · exact (c.blames_current rfl).inField index
  · exact (c.blames_unexpected _).inField index

theorem readsOn_takeTypeArguments (index more : Nat) (c : Cursor) :
    c.ReadsOn Prod.snd (takeTypeArguments index more c) := by
  have hlast (n : Nat) (d : Cursor) : d.ReadsOn Prod.snd (do
      let d ← closeTypeArguments index d
      return ([n], d)) :=
    (readsOn_inColumn (d.readsOn_expect _ _) index).map fun _ => rfl
  induction more generalizing c with
  | zero => exact (readsOn_takeTypeArgument index c).andThen fun (n, d) => hlast n d
  | succ more ih =>
    refine (readsOn_takeTypeArgument index c).andThen fun (n, d) => ?_
    dsimp only
    split
    · exact ((ih d.advance).of_suffix d.ahead_advance).map fun _ => rfl
    · exact hlast n d

theorem readsOn_typeArguments (index more : Nat) (c : Cursor) :
    c.ReadsOn Prod.snd (typeArguments index more c) := by
  unfold typeArguments
  split
  · exact (readsOn_takeTypeArguments index more c.advance).of_suffix c.ahead_advance
  · exact List.suffix_rfl

theorem readsOn_takeDataType (index : Nat) (c : Cursor) :
    c.ReadsOn Prod.snd (takeDataType index c) := by
  unfold takeDataType
  split
  · exact c.ahead_advance
  · split
    · exact ⟨c.current, c.current_mem_ahead, rfl, fun _ h => (Option.some.inj h).symm⟩
    · exact ((readsOn_typeArguments index 0 c.advance).of_suffix c.ahead_advance).map fun _ => rfl
    · exact ((readsOn_typeArguments index 1 c.advance).of_suffix c.ahead_advance).map fun _ => rfl
    · exact c.ahead_advance
  · exact (c.blames_unexpected _).inField index

theorem readsOn_takeDefaultLiteral (c : Cursor) : c.ReadsOn Prod.snd (takeDefaultLiteral c) := by
  unfold takeDefaultLiteral
  split
  · exact c.ahead_advance
  · exact c.blames_unexpected _

theorem readsOn_takeDefault (now : Clock) (type : DataType) (c : Cursor) :
    c.ReadsOn Prod.snd (takeDefault now type c) := by
  unfold takeDefault
  split
  · split
    · have hrest : c.advance.advance.ahead <:+ c.ahead :=
        c.advance.ahead_advance.trans c.ahead_advance
      exact ((c.advance.advance.readsOn_expect _ _).of_suffix hrest).map fun _ => rfl
    · exact c.ahead_advance
  · split
    · exact (readsOn_takeDefaultLiteral c.advance).of_suffix c.ahead_advance
    · exact readsOn_takeDefaultLiteral c

theorem readsOn_takeModifier (now : Clock) (index : Nat) (type : DataType) (c : Cursor) :
    c.ReadsOn Prod.snd (takeModifier now index type c) := by
  have hword (k : Keyword) (m : Modifier) : c.ReadsOn Prod.snd (do
      let d ← inColumn index (c.advance.expectKeyword k)
      return (m, d)) :=
    ((readsOn_inColumn (c.advance.readsOn_expect _ _) index).of_suffix c.ahead_advance).map fun _ => rfl
  unfold takeModifier
  split
  · exact hword .key .primaryKey
  · exact hword .null .notNull
  · exact c.ahead_advance
  · exact c.ahead_advance
  · have hvalue := readsOn_inColumn (readsOn_takeDefault now type c.advance) index
    exact (hvalue.of_suffix c.ahead_advance).map fun _ => rfl
  · exact (c.blames_unexpected _).inField index

theorem readsOn_takeModifiers (now : Clock) (index : Nat) (type : DataType) (c : Cursor) :
    c.ReadsOn Prod.snd (takeModifiers now index type c) := by
  fun_induction takeModifiers now index type c with
  | case1 => exact List.suffix_rfl
  | case2 c _ e h => exact (readsOn_takeModifier now index type c).blames h
  | case3 c _ m d h ih =>
    have hd := (readsOn_takeModifier now index type c).suffix h
    exact (ih.of_suffix hd).map fun _ => rfl

theorem readsOn_takeField (now : Clock) (index : Nat) (c : Cursor) :
    c.ReadsOn Prod.snd (takeField now index c) :=
  (readsOn_inColumn (readsOn_takeName _ c) index).andThen fun (_, c) =>
    (readsOn_takeDataType index c).andThen fun (type, c) =>
      (readsOn_takeModifiers now index type c).map fun _ => rfl

theorem readsOn_takeFields (now : Clock) (index : Nat) (c : Cursor) :
    c.ReadsOn Prod.snd (takeFields now index c) := by
  fun_induction takeFields now index c with
  | case1 index c e h => exact (readsOn_takeField now index c).blames h
  | case2 index c f d h hk ih =>
    have hd := (readsOn_takeField now index c).suffix h
    exact (ih.of_suffix (d.ahead_advance.trans hd)).map fun _ => rfl
  | case3 index c f d h hk =>
    have hd := (readsOn_takeField now index c).suffix h
    exact ((d.readsOn_expect _ _).of_suffix hd).map fun _ => rfl

theorem readsOn_skipIfNotExists (c : Cursor) : c.ReadsOn id (skipIfNotExists c) := by
  unfold skipIfNotExists
  split
  · refine ReadsOn.of_suffix ?_ c.ahead_advance
    exact (c.advance.readsOn_expect _ _).andThen fun d => d.readsOn_expect _ _
  · exact List.suffix_rfl

theorem readsOn_takeTable (now : Clock) (c : Cursor) : c.ReadsOn Prod.snd (takeTable now c) :=
  (readsOn_skipIfNotExists c).andThen fun c => (readsOn_takeName _ c).andThen fun (_, c) =>
    (c.readsOn_expect _ _).andThen fun c => (readsOn_takeFields now 0 c).map fun _ => rfl

theorem readsOn_takeEnumeration (c : Cursor) : c.ReadsOn Prod.snd (takeEnumeration c) :=
  (readsOn_takeName _ c).andThen fun (_, c) => (c.readsOn_expect _ _).andThen fun c =>
    (c.readsOn_expect _ _).andThen fun c => (c.readsOn_expect _ _).andThen fun c =>
      (readsOn_commaSeparated _ _ c).andThen fun (_, c) => (c.readsOn_expect _ _).map fun _ => rfl

theorem readsOn_takeDeclaration (now : Clock) (c : Cursor) :
    c.ReadsOn Prod.snd (takeDeclaration now c) := by
  unfold takeDeclaration
  split
  · exact ((readsOn_takeTable now c.advance).of_suffix c.ahead_advance).map fun _ => rfl
  · exact ((readsOn_takeEnumeration c.advance).of_suffix c.ahead_advance).map fun _ => rfl
  · exact c.blames_unexpected _

theorem blames_of_takeItems {now : Clock} {c : Cursor} {e : SyntaxError}
    (h : takeItems now c = .error e) : c.Blames e := by
  fun_induction takeItems now c with
  | case1 => cases h
  | case2 c _ ih => exact (ih h).of_suffix c.ahead_advance
  | case3 c _ e' h' =>
    cases h
    exact ((readsOn_takeDeclaration now c.advance).blames h').of_suffix c.ahead_advance
  | case4 c _ item d h' ih =>
    have hd := ((readsOn_takeDeclaration now c.advance).suffix h').trans c.ahead_advance
    exact (ih (eq_error_of_bind_pure h)).of_suffix hd
  | case5 c =>
    cases h
    exact c.blames_unexpected _

end Schema

namespace Query

/-! The query grammar. -/

theorem readsOn_takeTable (c : Cursor) : c.ReadsOn Prod.snd (takeTable c) := by
  unfold takeTable
  split
  · exact c.ahead_advance
  · exact c.blames_unexpected _

theorem readsOn_takePosition (bare : Nat) (c : Cursor) :
    c.ReadsOn (fun taken => taken.2.2) (takePosition bare c) := by
  unfold takePosition
  split
  · dsimp only
    split
    · exact c.blames_next rfl
    · split
      · exact c.advance.ahead_advance.trans c.ahead_advance
      · exact c.blames_next rfl
  · exact c.ahead_advance

theorem readsOn_takeInteger (c : Cursor) : c.ReadsOn Prod.snd (takeInteger c) := by
  unfold takeInteger
  dsimp only
  split
  · exact c.ahead_advance
  · exact c.blames_current rfl

/-- Where no operand is found the cursor stays. -/
theorem readsOn_takeOperand (bare : Nat) (c : Cursor) :
    c.ReadsOn (fun taken? => (taken?.map fun taken => taken.2.2).getD c) (takeOperand bare c) := by
  unfold takeOperand
  split
  · exact (readsOn_takePosition bare c).map fun _ => rfl
  · exact c.ahead_advance
  · exact (readsOn_takeInteger c).map fun _ => rfl
  · exact List.suffix_rfl

theorem readsOn_takeCondition (bare : Nat) (c : Cursor) :
    c.ReadsOn (fun taken => taken.2.2) (takeCondition bare c) := by
  have hparts : (takeParts c).2.ahead <:+ c.ahead :=
    ahead_suffix (takeParts_suffix c) (takeParts_length c)
  have hoperand := (readsOn_takeOperand bare (takeParts c).2).of_suffix hparts
  rw [takeCondition_eq]
  split <;> rename_i h <;> rw [h] at hoperand
  · exact hoperand
  · exact hoperand
  · show (ite _ _ _ : Cursor).ahead <:+ c.ahead
    split
    · exact hparts
    · exact (takeParts c).2.ahead_advance.trans hparts

theorem readsOn_takeConditions (bare : Nat) (c : Cursor) :
    c.ReadsOn Prod.snd (takeConditions bare c) := by
  fun_induction takeConditions bare c with
  | case1 => exact List.suffix_rfl
  | case2 bare c _ e h => exact (readsOn_takeCondition bare c).blames h
  | case3 bare c _ made bare' d h ih =>
    have hd := (readsOn_takeCondition bare c).suffix h
    exact (ih.of_suffix hd).map fun _ => rfl

theorem readsOn_takeWhere (c : Cursor) : c.ReadsOn Prod.snd (takeWhere c) := by
  unfold takeWhere
  split
  · exact (readsOn_takeConditions 0 c.advance).of_suffix c.ahead_advance
  · exact List.suffix_rfl

theorem readsOn_takeBound (k : Keyword) (c : Cursor) : c.ReadsOn Prod.snd (takeBound k c) := by
  unfold takeBound
  split
  · exact ((c.advance.readsOn_expectUnsigned _).of_suffix c.ahead_advance).map fun _ => rfl
  · exact List.suffix_rfl

theorem readsOn_takeSelect (c : Cursor) : c.ReadsOn Prod.snd (takeSelect c) := by
  have heat : (c.eatKeyword .distinct).2.ahead <:+ c.ahead := by
    unfold eatKeyword eat
    split
    · exact c.ahead_advance
    · exact List.suffix_rfl
  have hlist (d : Cursor) : (takeSelectList d).2.ahead <:+ d.ahead :=
    ahead_suffix (List.dropWhile_suffix _) rfl
  refine ReadsOn.of_suffix ?_ ((hlist _).trans heat)
  exact (readsOn_expect _ _ _).andThen fun c => (readsOn_takeTable c).andThen fun (_, c) =>
    (readsOn_takeWhere c).andThen fun (_, c) => (readsOn_takeBound .limit c).andThen fun (_, c) =>
      (readsOn_takeBound .offset c).map fun _ => rfl

theorem readsOn_takeValue (bare : Nat) (c : Cursor) :
    c.ReadsOn (fun taken => taken.2.2) (takeValue bare c) := by
  refine (readsOn_takeOperand bare c).bind fun taken? htaken => ?_
  cases taken? with
  | some taken => exact htaken
  | none =>
    dsimp only
    split
    · exact c.ahead_advance
    · exact c.ahead_advance
    · exact c.ahead_advance
    · exact c.blames_unexpected _

theorem readsOn_takeValues (bare : Nat) (c : Cursor) :
    c.ReadsOn (fun taken => taken.2.2) (takeValues bare c) := by
  fun_induction takeValues bare c with
  | case1 bare c e h => exact (readsOn_takeValue bare c).blames h
  | case2 bare c value bare' d h hk ih =>
    have hd := (readsOn_takeValue bare c).suffix h
    exact (ih.of_suffix (d.ahead_advance.trans hd)).map fun _ => rfl
  | case3 bare c value bare' d h hk => exact (readsOn_takeValue bare c).suffix h

/-- A tuple of the wrong length is blamed on its parenthesis, which is taken long before. -/
theorem readsOn_takeTuple (columns : List String) (bare : Nat) (c : Cursor) :
    c.ReadsOn (fun taken => taken.2.2) (takeTuple columns bare c) := by
  refine (c.readsOn_expect _ _).bind fun d hd => ?_
  refine ((readsOn_takeValues bare d).of_suffix hd).bind fun (values, bare, d) hd => ?_
  refine ((d.readsOn_expect _ _).of_suffix hd).bind fun d hd => ?_
  split
  · exact hd
  · exact c.blames_current rfl

theorem readsOn_takeTuples (columns : List String) (bare : Nat) (c : Cursor) :
    c.ReadsOn Prod.snd (takeTuples columns bare c) := by
  fun_induction takeTuples columns bare c with
  | case1 bare c e h => exact (readsOn_takeTuple columns bare c).blames h
  | case2 bare c binds bare' d h hk ih =>
    have hd := (readsOn_takeTuple columns bare c).suffix h
    exact (ih.of_suffix (d.ahead_advance.trans hd)).map fun _ => rfl
  | case3 bare c binds bare' d h hk => exact (readsOn_takeTuple columns bare c).suffix h

theorem readsOn_takeConflict (c : Cursor) : c.ReadsOn Prod.snd (takeConflict c) := by
  unfold takeConflict
  split
  · refine ReadsOn.of_suffix ?_ c.ahead_advance
    dsimp only
    split
    · exact c.advance.ahead_advance
    · exact c.advance.blames_unexpected _
  · exact List.suffix_rfl

theorem readsOn_takeReturning (c : Cursor) : c.ReadsOn Prod.snd (takeReturning c) := by
  unfold takeReturning
  split
  · exact (readsOn_commaSeparated _ _ c.advance).of_suffix c.ahead_advance
  · exact List.suffix_rfl

theorem readsOn_takeInsert (c : Cursor) : c.ReadsOn Prod.snd (takeInsert c) :=
  (readsOn_takeConflict c).andThen fun (_, c) => (c.readsOn_expect _ _).andThen fun c =>
    (readsOn_takeTable c).andThen fun (_, c) => (c.readsOn_expect _ _).andThen fun c =>
      (readsOn_commaSeparated _ _ c).andThen fun (columns, c) =>
        (c.readsOn_expect _ _).andThen fun c => (c.readsOn_expect _ _).andThen fun c =>
          (readsOn_takeTuples columns 0 c).andThen fun (_, c) =>
            (readsOn_takeReturning c).map fun _ => rfl

theorem readsOn_takeStatement (c : Cursor) : c.ReadsOn Prod.snd (takeStatement c) := by
  unfold takeStatement
  split
  · exact ((readsOn_takeSelect c.advance).of_suffix c.ahead_advance).map fun _ => rfl
  · exact ((readsOn_takeInsert c.advance).of_suffix c.ahead_advance).map fun _ => rfl
  · exact c.blames_unexpected _

theorem blames_of_parseQuery {source : String} {e : SyntaxError}
    (h : parseQuery source = .error e) : (ofSource source).Blames e := by
  have hreads : (ofSource source).ReadsOn (fun _ => ofSource source) (parseQuery source) := by
    refine (readsOn_takeStatement (ofSource source)).bind fun (s, c) hc => ?_
    dsimp only
    split
    · exact List.suffix_rfl
    · exact (c.blames_unexpected _).of_suffix hc
  exact hreads.blames h

end Query

theorem covers_tokenize (source : String) : Covers 0 source.toList (tokenize source) := by
  have hcovers := covers_tokensFrom 0 source.toList
  rwa [Nat.zero_add, Text.byteLength_toList] at hcovers

/-- The error of a text that either grammar rejects is at a token of the text, or at its end: it has
the place of the token, in range and on the boundaries of characters, and the text that it says was
found is the token's. -/
theorem exists_token_of_error {source : String} {e : SyntaxError}
    (h : parseQuery source = .error e ∨ ∃ now, parseSchema now source = .error e) :
    ∃ t ∈ tokenize source, e.span = t.span ∧
      (∀ text, e.fault.found? = some text → text = t.literal) ∧
      e.span.start ≤ e.span.stop ∧ e.span.stop ≤ source.utf8ByteSize ∧
      String.Pos.Raw.IsValid source ⟨e.span.start⟩ ∧
      String.Pos.Raw.IsValid source ⟨e.span.stop⟩ := by
  have hblames : (ofSource source).Blames e := by
    rcases h with h | ⟨now, h⟩
    · exact Query.blames_of_parseQuery h
    · exact Schema.blames_of_takeItems h
  obtain ⟨t, ht, hat⟩ := hblames
  obtain ⟨hle, hstart, hstop⟩ := (covers_tokenize source).accounts.valid t ht
  rw [hat.span_eq]
  exact ⟨t, ht, rfl, hat.found_eq, hle, hstop.le_rawEndPos, hstart, hstop⟩

/-- A letter of two bytes stands in front of the type that does not exist. -/
theorem exists_token_of_error_foo :
    parseSchema (⟨2024, 1, 1, 0, 0, 0⟩ : Moment) "CREATE TABLE t (a TEXT DEFAULT 'é', b foo)" =
        .error ⟨.unknownDataType "FOO", ⟨39, 42⟩, some 1⟩ ∧
      ∃ t ∈ tokenize "CREATE TABLE t (a TEXT DEFAULT 'é', b foo)", ⟨39, 42⟩ = t.span ∧
        (∀ text, some "FOO" = some text → text = t.literal) ∧ 39 ≤ 42 ∧ 42 ≤ 43 ∧
        String.Pos.Raw.IsValid "CREATE TABLE t (a TEXT DEFAULT 'é', b foo)" ⟨39⟩ ∧
        String.Pos.Raw.IsValid "CREATE TABLE t (a TEXT DEFAULT 'é', b foo)" ⟨42⟩ := by
  have h : parseSchema (⟨2024, 1, 1, 0, 0, 0⟩ : Moment) "CREATE TABLE t (a TEXT DEFAULT 'é', b foo)" =
      .error ⟨.unknownDataType "FOO", ⟨39, 42⟩, some 1⟩ := by
    decide +kernel
  exact ⟨h, exists_token_of_error (.inr ⟨_, h⟩)⟩

end TypedQueries
