import TypedQueries.Proofs.BoundArguments

/-!
String literals of Go and their values. A decoder that knows the rules of the language and nothing of
how a text was quoted gives back the text. So no two texts have the same literal, and a method runs
the text of its query as the statement was rendered.
-/

namespace TypedQueries

namespace Quoted

/-- The value of a hexadecimal digit, in small letters or in capitals. -/
def hexDigit? (c : Char) : Option Nat :=
  if '0' ≤ c ∧ c ≤ '9' then some (c.toNat - '0'.toNat)
  else if 'a' ≤ c ∧ c ≤ 'f' then some (c.toNat - 'a'.toNat + 10)
  else if 'A' ≤ c ∧ c ≤ 'F' then some (c.toNat - 'A'.toNat + 10)
  else none

/-- The number that hexadecimal digits stand for. -/
def hexNumber? (digits : List Char) : Option Nat :=
  digits.foldlM (fun n c => (hexDigit? c).map (16 * n + ·)) 0

/-- The character with a code point. A surrogate is none. -/
def codePoint? (n : Nat) : Option Char := if n.isValidChar then some (Char.ofNat n) else none

/-- What a backslash makes of the character behind it. -/
def escaped? : Char → Option Char
  | '"' => some '"'
  | '\\' => some '\\'
  | 'n' => some '\n'
  | 'r' => some '\r'
  | 't' => some '\t'
  | _ => none

/-- The value of what stands between the quotes of a literal. A quote or a line feed cannot stand
there as it is, and a backslash must begin an escape. -/
def decodeBody : List Char → Option (List Char)
  | [] => some []
  | '\\' :: 'u' :: d₁ :: d₂ :: d₃ :: d₄ :: rest => do
    let c ← codePoint? (← hexNumber? [d₁, d₂, d₃, d₄])
    (decodeBody rest).map (c :: ·)
  | '\\' :: d :: rest => do
    let c ← escaped? d
    (decodeBody rest).map (c :: ·)
  | c :: rest =>
    if c = '"' ∨ c = '\\' ∨ c = '\n' then none else (decodeBody rest).map (c :: ·)

/-- The value of a literal: one pair of quotes, with a body between them. -/
def decode? (literal : String) : Option String :=
  match literal.toList with
  | '"' :: rest =>
    if rest.getLast? = some '"' then (decodeBody rest.dropLast).map String.ofList else none
  | _ => none

/-- Whether a text ends in a backslash that waits for what it escapes. -/
def leavesOpen (cs : List Char) : Bool := cs.foldl (fun isOpen c => !isOpen && c == '\\') false

theorem leavesOpen_append {cs : List Char} (h : leavesOpen cs = false) (ds : List Char) :
    leavesOpen (cs ++ ds) = leavesOpen ds := by
  rw [leavesOpen, List.foldl_append, ← leavesOpen, h, ← leavesOpen]

/-- A text that can stand between two quotes: it has no control characters, every quote in it is
escaped, and no backslash is left open at its end. -/
structure IsBody (cs : List Char) : Prop where
  printable : ∀ c ∈ cs, isControl c = false
  escaped : ∀ before after, cs = before ++ '"' :: after → leavesOpen before = true
  closed : leavesOpen cs = false

theorem isBody_nil : IsBody [] :=
  ⟨nofun, fun before after h => by simp at h, rfl⟩

theorem isBody_singleton {c : Char} (hcontrol : isControl c = false) (hquote : c ≠ '"')
    (hbackslash : c ≠ '\\') : IsBody [c] := by
  refine ⟨by simpa using hcontrol, fun before after h => ?_, by simpa [leavesOpen] using hbackslash⟩
  rcases List.append_eq_singleton_iff.1 h.symm with ⟨-, h⟩ | ⟨-, h⟩
  · exact absurd (List.cons.inj h).1.symm hquote
  · cases h

/-- A backslash and one character, whichever it is. -/
theorem isBody_pair {c : Char} (hcontrol : isControl c = false) : IsBody ['\\', c] := by
  refine ⟨?_, fun before after h => ?_, by simp [leavesOpen]⟩
  · simpa using ⟨by decide, hcontrol⟩
  · rcases List.cons_eq_append_iff.1 h with ⟨rfl, hrest⟩ | ⟨front, rfl, hrest⟩
    · exact absurd (List.cons.inj hrest).1 (by decide)
    · rcases List.append_eq_singleton_iff.1 hrest.symm with ⟨rfl, -⟩ | ⟨-, hnil⟩
      · rfl
      · cases hnil

theorem IsBody.append {cs ds : List Char} (hcs : IsBody cs) (hds : IsBody ds) :
    IsBody (cs ++ ds) := by
  refine ⟨fun c hc => ?_, fun before after h => ?_, ?_⟩
  · exact (List.mem_append.1 hc).elim (hcs.printable c) (hds.printable c)
  · rcases List.append_eq_append_iff.1 h with ⟨front, rfl, hfront⟩ | ⟨back, hback, hafter⟩
    · rw [leavesOpen_append hcs.closed]
      exact hds.escaped front after hfront
    · cases back with
      | nil => exact absurd (hds.escaped [] after hafter.symm) (by decide)
      | cons c back =>
        cases hafter
        exact hcs.escaped before back hback
  · rw [leavesOpen_append hcs.closed, hds.closed]

theorem isBody_flatMap {f : Char → List Char} {cs : List Char} (h : ∀ c ∈ cs, IsBody (f c)) :
    IsBody (cs.flatMap f) := by
  induction cs with
  | nil => exact isBody_nil
  | cons c cs ih =>
    rw [List.forall_mem_cons] at h
    exact h.1.append (ih h.2)

/-- Four digits are enough for a control character, and they are no more than digits. -/
theorem hex4_of_isControl {c : Char} (h : isControl c = true) :
    (∃ d₁ d₂ d₃ d₄, hex4 c.toNat = [d₁, d₂, d₃, d₄]) ∧ hexNumber? (hex4 c.toNat) = some c.toNat ∧
      IsBody (hex4 c.toNat) := by
  have hlt : c.toNat < 160 := by
    simp only [isControl, Bool.or_eq_true, Bool.and_eq_true, decide_eq_true_eq] at h
    omega
  have hall : ∀ n < 160, (hex4 n).length = 4 ∧ hexNumber? (hex4 n) = some n ∧
      (hex4 n).all (fun d => !isControl d && d != '"' && d != '\\') = true := by decide +kernel
  obtain ⟨hlength, hnumber, hdigits⟩ := hall c.toNat hlt
  refine ⟨?_, hnumber, ?_⟩
  · match hex4 c.toNat, hlength with
    | [d₁, d₂, d₃, d₄], _ => exact ⟨d₁, d₂, d₃, d₄, rfl⟩
  · rw [← List.flatMap_singleton' (hex4 c.toNat)]
    refine isBody_flatMap fun d hd => ?_
    have hplain := List.all_eq_true.1 hdigits d hd
    simp only [Bool.and_eq_true, Bool.not_eq_true', bne_iff_ne] at hplain
    obtain ⟨⟨hcontrol, hquote⟩, hbackslash⟩ := hplain
    exact isBody_singleton hcontrol hquote hbackslash

/-- An escape is one of the pairs that the decoder knows, a code point, or the character itself. -/
theorem escape_cases (c : Char) :
    (∃ d, escape c = ['\\', d] ∧ d ≠ 'u' ∧ escaped? d = some c ∧ isControl d = false) ∨
      (isControl c = true ∧ escape c = '\\' :: 'u' :: hex4 c.toNat) ∨
      (isControl c = false ∧ c ≠ '"' ∧ c ≠ '\\' ∧ escape c = [c]) := by
  unfold escape
  split_ifs with hquote hbackslash hfeed hreturn htab hcontrol
  · exact Or.inl ⟨'"', rfl, by decide, by rw [hquote]; rfl, by decide⟩
  · exact Or.inl ⟨'\\', rfl, by decide, by rw [hbackslash]; rfl, by decide⟩
  · exact Or.inl ⟨'n', rfl, by decide, by rw [hfeed]; rfl, by decide⟩
  · exact Or.inl ⟨'r', rfl, by decide, by rw [hreturn]; rfl, by decide⟩
  · exact Or.inl ⟨'t', rfl, by decide, by rw [htab]; rfl, by decide⟩
  · exact Or.inr (Or.inl ⟨hcontrol, rfl⟩)
  · exact Or.inr (Or.inr ⟨by simpa using hcontrol, hquote, hbackslash, rfl⟩)

theorem isBody_escape (c : Char) : IsBody (escape c) := by
  rcases escape_cases c with ⟨d, h, -, -, hcontrol⟩ | ⟨hcontrol, h⟩ |
    ⟨hcontrol, hquote, hbackslash, h⟩
  · rw [h]
    exact isBody_pair hcontrol
  · rw [h]
    exact (isBody_pair (by decide) : IsBody ['\\', 'u']).append (hex4_of_isControl hcontrol).2.2
  · rw [h]
    exact isBody_singleton hcontrol hquote hbackslash

theorem decodeBody_pair {c d : Char} (hu : d ≠ 'u') (hd : escaped? d = some c) (rest : List Char) :
    decodeBody ('\\' :: d :: rest) = (decodeBody rest).map (c :: ·) := by
  rw [decodeBody, hd]
  · rfl
  · exact fun _ _ _ _ _ h _ => hu h

theorem decodeBody_plain {c : Char} (hquote : c ≠ '"') (hbackslash : c ≠ '\\') (hfeed : c ≠ '\n')
    (rest : List Char) : decodeBody (c :: rest) = (decodeBody rest).map (c :: ·) := by
  rw [decodeBody, if_neg (by simp [hquote, hbackslash, hfeed])]
  · exact fun _ _ _ _ _ h _ => hbackslash h
  · exact fun _ _ h _ => hbackslash h

theorem codePoint?_toNat (c : Char) : codePoint? c.toNat = some c := by
  have hvalid : c.toNat.isValidChar := c.valid
  rw [codePoint?, if_pos hvalid, Char.ofNat_toNat]

/-- What stands behind an escape does not change what the escape means, even if it is more digits. -/
theorem decodeBody_escape_append (c : Char) (rest : List Char) :
    decodeBody (escape c ++ rest) = (decodeBody rest).map (c :: ·) := by
  rcases escape_cases c with ⟨d, h, hu, hd, -⟩ | ⟨hcontrol, h⟩ | ⟨hcontrol, hquote, hbackslash, h⟩
  · rw [h]
    exact decodeBody_pair hu hd rest
  · obtain ⟨⟨d₁, d₂, d₃, d₄, hdigits⟩, hnumber, -⟩ := hex4_of_isControl hcontrol
    rw [hdigits] at hnumber
    rw [h, hdigits]
    simp only [List.cons_append, List.nil_append, decodeBody, hnumber, Option.bind_eq_bind,
      Option.bind_some, codePoint?_toNat]
  · have hfeed : c ≠ '\n' := by
      rintro rfl
      exact absurd hcontrol (by decide)
    rw [h]
    exact decodeBody_plain hquote hbackslash hfeed rest

theorem decodeBody_flatMap_escape (cs : List Char) : decodeBody (cs.flatMap escape) = some cs := by
  induction cs with
  | nil => rfl
  | cons c cs ih => rw [List.flatMap_cons, decodeBody_escape_append, ih, Option.map_some]

theorem toList_encode (v : String) :
    (encode v).toList = '"' :: v.toList.flatMap escape ++ ['"'] := by
  rw [encode, String.toList_ofList]

theorem decode?_encode (v : String) : decode? (encode v) = some v := by
  have hlast : (v.toList.flatMap escape ++ ['"']).getLast? = some '"' := List.getLast?_concat
  rw [decode?, toList_encode]
  simp only [List.cons_append, hlast, if_true, List.dropLast_concat, decodeBody_flatMap_escape,
    Option.map_some, String.ofList_toList]

end Quoted

/-- A quoted text is one literal with the text as its value: what stands between its two quotes has no
control character, no quote that is not escaped and no backslash that is left open, and decoding it
gives the text. Hence no two texts have the same literal, and a method hands the database the text
of its statement. -/
theorem encode_denotes :
    (∀ v, ∃ body, (Quoted.encode v).toList = '"' :: body ++ ['"'] ∧ Quoted.IsBody body ∧
        Quoted.decode? (Quoted.encode v) = some v) ∧
      Function.Injective Quoted.encode ∧
      ∀ r name kind s q, generate r name kind s = .ok q →
        ∃ literal more, q.function.queryValues.map GoExpr.render = [literal] ∧
          Quoted.decode? literal = some s.withDensePositions.render ∧
          q.function.databaseArguments = [.ident "ctx" :: .ident "query" :: more] := by
  refine ⟨fun v => ?_, fun v w h => ?_, fun r name kind s q h => ?_⟩
  · exact ⟨_, Quoted.toList_encode v, Quoted.isBody_flatMap fun c _ => Quoted.isBody_escape c,
      Quoted.decode?_encode v⟩
  · have hdecode := congrArg Quoted.decode? h
    rwa [Quoted.decode?_encode, Quoted.decode?_encode, Option.some.injEq] at hdecode
  · obtain ⟨_, _, _, _, hq⟩ := exists_generated h
    rw [hq.function_eq]
    refine ⟨_, (Method.arguments q.params?).drop 2, ?_, Quoted.decode?_encode _, ?_⟩
    · rw [Method.queryValues_function]
      rfl
    · exact Method.databaseArguments_function ..

/-- A condition on a title with a quote and a line feed, behind a placeholder that is renumbered. -/
def quotedTasks : Statement :=
  .select ⟨false, [], "tasks", [⟨none, "ID", .gt, ⟨"ID", .param 5⟩⟩,
    ⟨some .and, "TITLE", .eq, ⟨"TITLE", .literal (.string "a\"\n")⟩⟩], none, none⟩

/-- A control character in front of a digit, and a backslash in front of what looks like a code
point; and a method that runs a text with a quote and a line feed. -/
theorem encode_denotes_digits :
    Quoted.encode "\x018\\u0041" = "\"\\u00018\\\\u0041\"" ∧
      Quoted.decode? "\"\\u00018\\\\u0041\"" = some "\x018\\u0041" ∧
      ∃ q literal, generate taskRegistry "QuotedTasks" .many quotedTasks = .ok q ∧
        q.function.queryValues.map GoExpr.render = [literal] ∧
        Quoted.decode? literal =
          some "SELECT * FROM tasks WHERE id > $1 AND title = 'a\"\n';" := by
  have hencode : Quoted.encode "\x018\\u0041" = "\"\\u00018\\\\u0041\"" := by decide +kernel
  obtain ⟨body, -, -, hdecode⟩ := encode_denotes.1 "\x018\\u0041"
  refine ⟨hencode, hencode ▸ hdecode, ?_⟩
  have hok : (generate taskRegistry "QuotedTasks" .many quotedTasks).toOption.isSome = true := by
    decide +kernel
  have hsql : quotedTasks.withDensePositions.render =
      "SELECT * FROM tasks WHERE id > $1 AND title = 'a\"\n';" := by decide +kernel
  obtain ⟨q, hq⟩ := Option.isSome_iff_exists.1 hok
  have hq := toOption_eq_some.1 hq
  obtain ⟨literal, more, hliteral, hvalue, -⟩ := encode_denotes.2.2 _ _ _ _ q hq
  exact ⟨q, literal, hq, hliteral, hsql ▸ hvalue⟩

end TypedQueries
