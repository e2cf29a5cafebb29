import TypedQueries.Proofs.ClauseReadings
import TypedQueries.Proofs.DensePositions
import TypedQueries.Proofs.InsertGrammar

/-!
The positions of placeholders, told from the tokens of a text. A placeholder with a number has that
position. One without a number has its place among those without a number, whatever numbers the
others have and whether or not their conditions are complete. So the two kinds may share a position.
-/

namespace TypedQueries

/-- A placeholder as it is written, and whether the statement has it. -/
structure Occurrence where
  number? : Option Nat
  kept : Bool
  deriving DecidableEq, Repr

namespace Occurrence

def isBare (o : Occurrence) : Bool := o.number?.isNone

/-- How many of the placeholders before place `i` the statement has. -/
def keptBefore (os : List Occurrence) (i : Nat) : Nat := (os.take i).countP kept

/-- How many of the placeholders up to place `i`, itself included, have no number. -/
def bareUpTo (os : List Occurrence) (i : Nat) : Nat := (os.take (i + 1)).countP isBare

/-- The positions of the kept ones, behind `bare` placeholders without a number. -/
def positionsFrom (bare : Nat) : List Occurrence → List Nat
  | [] => []
  | o :: os =>
    (if o.kept then [o.number?.getD (bare + 1)] else []) ++
      positionsFrom (bare + if o.isBare then 1 else 0) os

theorem getD_number? (o : Occurrence) (bare : Nat) :
    o.number?.getD (bare + if o.isBare then 1 else 0) = o.number?.getD (bare + 1) := by
  obtain ⟨number?, kept⟩ := o
  cases number? <;> rfl

theorem length_positionsFrom (bare : Nat) (os : List Occurrence) :
    (positionsFrom bare os).length = os.countP kept := by
  induction os generalizing bare with
  | nil => rfl
  | cons o os ih =>
    rw [positionsFrom, List.length_append, ih, List.countP_cons, Nat.add_comm]
    cases h : o.kept <;> simp

theorem getElem?_positionsFrom {os : List Occurrence} {i : Nat} {o : Occurrence}
    (h : os[i]? = some o) (hkept : o.kept = true) (bare : Nat) :
    (positionsFrom bare os)[keptBefore os i]? = some (o.number?.getD (bare + bareUpTo os i)) := by
  induction os generalizing bare i with
  | nil => cases h
  | cons p os ih =>
    cases i with
    | zero =>
      cases h
      simpa [positionsFrom, keptBefore, bareUpTo, hkept] using (getD_number? o bare).symm
    | succ i =>
      have hbefore : keptBefore (p :: os) (i + 1) = keptBefore os i + if p.kept then 1 else 0 :=
        List.countP_cons
      have hupTo : bareUpTo (p :: os) (i + 1) = bareUpTo os i + if p.isBare then 1 else 0 :=
        List.countP_cons
      rw [hbefore, hupTo, positionsFrom, ← Nat.add_assoc, Nat.add_right_comm, ← ih h]
      cases hp : p.kept <;> simp

end Occurrence

/-- What a value is as a placeholder, if it is one. -/
def WrittenValue.number? : WrittenValue → Option (Option Nat)
  | bare => some none
  | given (.param n) => some (some n)
  | given (.literal _) => none

namespace Query

open Cursor

/-- The tokens from a cursor to the end of a WHERE clause. -/
def clause (c : Cursor) : List Token := c.tokens.takeWhile fun t => !endsWhere t.kind

theorem clause_cons {t : Token} (h : endsWhere t.kind = false) (ts : List Token) (n : Nat) :
    clause ⟨t :: ts, n⟩ = t :: clause ⟨ts, n⟩ :=
  List.takeWhile_cons_of_pos (by simp [h])

theorem numbersIn_clause_advance {c : Cursor} (h : isFiller c.kind = true) :
    numbersIn (clause c) = numbersIn (clause c.advance) := by
  obtain ⟨ts, n⟩ := c
  cases ts with
  | nil => rfl
  | cons t ts =>
    have hdollar : t.kind ≠ .dollar := by
      intro hk
      rw [kind_cons, hk] at h
      cases h
    have hgo : endsWhere t.kind = false := endsWhere_of_isFiller h
    rw [clause_cons hgo, numbersIn_cons_of_ne hdollar, advance_cons]

theorem head?_clause_bind (ts : List Token) (n : Nat) :
    (clause ⟨ts, n⟩).head?.bind Token.number? = (Cursor.mk ts n).current.number? := by
  cases ts with
  | nil => rfl
  | cons t ts =>
    by_cases h : endsWhere t.kind = true
    · have hne : t.kind ≠ .integer := by
        intro hk
        rw [hk] at h
        cases h
      simp [clause, h, Token.number?, hne]
    · rw [clause_cons (by simpa using h)]
      rfl

theorem numbersIn_clause_of_written? {c d : Cursor} {w : WrittenValue}
    (h : written? c = some (w, d)) :
    numbersIn (clause c) = w.number?.toList ++ numbersIn (clause d) := by
  obtain ⟨ts, n⟩ := c
  cases ts with
  | nil => cases h
  | cons t ts =>
    unfold written? at h
    split at h <;> rename_i hk <;> rw [kind_cons] at hk
    · have hcons : numbersIn (clause ⟨t :: ts, n⟩) =
          (Cursor.mk ts n).current.number? :: numbersIn (clause ⟨ts, n⟩) := by
        rw [clause_cons (by rw [hk]; rfl), numbersIn, if_pos hk, head?_clause_bind]
      rw [hcons]
      split at h <;> rename_i hnext <;> cases h <;> rw [next_cons] at hnext
      · obtain ⟨u, hu, heq⟩ := exists_of_kind (c := ⟨ts, n⟩) hnext (by simp)
        have hclause : numbersIn (clause ⟨ts, n⟩) = numbersIn (clause (advance ⟨ts, n⟩)) := by
          rw [heq, clause_cons (by rw [hu]; rfl), numbersIn_cons_of_ne (by simp [hu]), advance_cons]
        rw [hclause, Token.number?, if_pos hnext]
        rfl
      · rw [Token.number?, if_neg hnext]
        rfl
    · cases h
      rw [clause_cons (by rw [hk]; rfl), numbersIn_cons_of_ne (by simp [hk])]
      rfl
    · cases h
      rw [clause_cons (by rw [hk]; rfl), numbersIn_cons_of_ne (by simp [hk])]
      rfl
    · cases h

theorem isFiller_of_written? {c : Cursor} (h : written? c = none)
    (hgo : endsWhere c.kind = false) : isFiller c.kind = true := by
  unfold written? at h
  split at h
  · split at h <;> cases h
  · cases h
  · cases h
  · unfold isFiller
    split <;> simp_all

theorem numbersIn_clause_skip {c : Cursor} (h : written? c = none) :
    numbersIn (clause (skip c)) = numbersIn (clause c) := by
  unfold skip
  split
  · rfl
  · rename_i hgo
    exact (numbersIn_clause_advance (isFiller_of_written? h (by simpa using hgo))).symm

/-- The loop over a WHERE clause comes to all its placeholders, in order. -/
theorem filterMap_readings (c : Cursor) :
    (readings c).filterMap (fun r => r.value.number?) = numbersIn (clause c) := by
  have hparts (c : Cursor) : numbersIn (clause (takeParts c).2) = numbersIn (clause c) :=
    apply_takeParts (g := fun c => numbersIn (clause c)) (fun _ h => numbersIn_clause_advance h) c
  fun_induction readings c with
  | case1 c hend =>
    have hclause : clause c = [] := by
      obtain ⟨ts, n⟩ := c
      cases ts with
      | nil => rfl
      | cons t ts =>
        rw [kind_cons] at hend
        simp [clause, hend]
    rw [hclause]
    rfl
  | case2 c hend w d hw ih =>
    rw [← hparts c, numbersIn_clause_of_written? hw, ← ih, filterMap_cons_toList]
  | case3 c hend hw ih => rw [ih, numbersIn_clause_skip hw, hparts c]

/-- Neither the column nor the comparison is missing. -/
def Parts.isComplete (p : Parts) : Bool := p.column?.isSome && p.comparison?.isSome

theorem Parts.filterMap_condition? (p : Parts) (v : BindValue) :
    (p.condition? v).toList.filterMap (fun c => c.bind.value.position?) =
      if p.isComplete then v.position?.toList else [] := by
  obtain ⟨chain?, column?, comparison?⟩ := p
  cases column? with
  | none => rfl
  | some column =>
    cases comparison? with
    | none => rfl
    | some comparison => cases v <;> rfl

/-- The value as a placeholder, if it is one; it is kept if its condition is complete. -/
def Reading.occurrence? (r : Reading) : Option Occurrence :=
  r.value.number?.map (Occurrence.mk · r.parts.isComplete)

theorem number?_occurrence? (r : Reading) :
    r.occurrence?.map Occurrence.number? = r.value.number? := by
  rw [Reading.occurrence?, Option.map_map]
  exact Option.map_id_apply

end Query

namespace Occurrence

/-- A value counts on and has a position as its placeholder does, if it is one. -/
theorem positionsFrom_number? (bare : Nat) (w : WrittenValue) (kept : Bool) (os : List Occurrence) :
    positionsFrom bare ((w.number?.map (mk · kept)).toList ++ os) =
      (if kept then (w.value (bare + 1)).position?.toList else []) ++
        positionsFrom (bare + [w].count .bare) os := by
  cases w with
  | bare => rfl
  | given v =>
    cases v with
    | param n => rfl
    | literal _ => cases kept <;> rfl

theorem positionsFrom_conditionsFrom (bare : Nat) (rs : List Query.Reading) :
    (Query.conditionsFrom bare rs).filterMap (fun c => c.bind.value.position?) =
      positionsFrom bare (rs.filterMap Query.Reading.occurrence?) := by
  induction rs generalizing bare with
  | nil => rfl
  | cons r rs ih =>
    rw [Query.conditionsFrom, List.filterMap_append, ih, r.parts.filterMap_condition?,
      filterMap_cons_toList, Query.Reading.occurrence?, positionsFrom_number?]

theorem positionsFrom_valuesFrom (bare : Nat) (ws : List WrittenValue) :
    (WrittenValue.valuesFrom bare ws).filterMap BindValue.position? =
      positionsFrom bare ((ws.filterMap WrittenValue.number?).map (mk · true)) := by
  rw [List.map_filterMap]
  induction ws generalizing bare with
  | nil => rfl
  | cons w ws ih =>
    rw [WrittenValue.valuesFrom, filterMap_cons_toList, ih, filterMap_cons_toList,
      positionsFrom_number?]
    rfl

end Occurrence

namespace Query

theorem numbersIn_of_commaSeparated {α : Type} {P : List Token → α → Prop}
    {f : α → List (Option Nat)} (hP : ∀ us a, P us a → numbersIn us = f a) {ts : List Token}
    {as : List α} (h : CommaSeparated P ts as) : numbersIn ts = as.flatMap f := by
  induction h with
  | one h => simpa using hP _ _ h
  | @cons ts us comma a as h hcomma _ ih =>
    have hhead : (comma :: us).head?.bind Token.number? = none := if_neg (by simp [hcomma])
    rw [numbersIn_append hhead, hP _ _ h, numbersIn_cons_of_ne (by simp [hcomma]), ih,
      List.flatMap_cons]

theorem IsValue.numbersIn_eq {ts : List Token} {w : WrittenValue} (h : IsValue ts w) :
    numbersIn ts = w.number?.toList := by
  cases h with
  | operand h _ => cases h <;> simp_all [numbersIn, WrittenValue.number?, Token.number?]
  | true h | false h | null h => simp [h, numbersIn, WrittenValue.number?]

theorem IsTuple.numbersIn_eq {width : Nat} {ts : List Token} {ws : List WrittenValue}
    (h : IsTuple width ts ws) : numbersIn ts = ws.filterMap WrittenValue.number? := by
  cases h with
  | @mk left right ts ws hleft hts hright _ =>
    have hhead : [right].head?.bind Token.number? = none := if_neg (by simp [hright])
    rw [numbersIn_cons_of_ne (by simp [hleft]), numbersIn_append hhead,
      numbersIn_cons_of_ne (by simp [hright]),
      numbersIn_of_commaSeparated (fun _ _ hvalue => hvalue.numbersIn_eq) hts,
      List.filterMap_eq_flatMap_toList]
    exact List.append_nil _

theorem IsColumnWord.kind_ne_dollar {t : Token} (h : IsColumnWord t) : t.kind ≠ .dollar := by
  rcases h with h | ⟨k, -, h⟩ <;> simp [h]

theorem kind_ne_dollar_of_isColumnWord_or {t : Token} {k : TokenKind} (hk : k ≠ .dollar)
    (h : t.kind = k ∨ IsColumnWord t) : t.kind ≠ .dollar := by
  rcases h with rfl | h
  · exact hk
  · exact h.kind_ne_dollar

theorem IsConflict.kind_ne_dollar {ts : List Token} {action? : Option ConflictAction}
    (h : IsConflict ts action?) : ∀ t ∈ ts, t.kind ≠ .dollar := by
  cases h <;> simp_all

theorem IsReturning.kind_ne_dollar {ts : List Token} {names : List String}
    (h : IsReturning ts names) : ∀ t ∈ ts, t.kind ≠ .dollar := by
  cases h with
  | none => simp
  | some ht hts =>
    have hitems := hts.kind_ne_of_oneToken (by simp) fun hitem =>
      kind_ne_dollar_of_isColumnWord_or (by simp) hitem.1
    exact List.forall_mem_cons.2 ⟨by simp [ht], hitems⟩

theorem IsReturning.head?_bind {ts : List Token} {names : List String} (h : IsReturning ts names) :
    ts.head?.bind Token.number? = Option.none := by
  cases h with
  | none => rfl
  | some ht _ => simp [Token.number?, ht]

theorem AreBinds.map_value {columns : List String} {ws : List WrittenValue} {binds : List Bind}
    (hcolumns : columns ≠ []) (h : AreBinds columns ws binds) :
    binds.map Bind.value = WrittenValue.valuesFrom 0 ws := by
  apply List.ext_getElem?
  intro j
  have hlt : j % columns.length < columns.length := Nat.mod_lt _ (List.length_pos_iff.2 hcolumns)
  rw [List.getElem?_map, h j, WrittenValue.getElem?_valuesFrom, List.getElem?_eq_getElem hlt,
    Nat.zero_add]
  cases ws[j]? <;> rfl

end Query

/-- The placeholders of an INSERT statement are those of its tuples, and the statement has them all. -/
theorem IsInsert.placeholders {ts : List Token} {i : Insert} (h : IsInsert ts i) :
    (Statement.insert i).placeholders = Occurrence.positionsFrom 0 ((numbersIn ts).map (⟨·, true⟩)) := by
  obtain ⟨hinsert, hconflict, hinto, htable, hleft, hcolumns, hright, hvalues, htuples, hbinds,
    hreturning⟩ := h
  have hne : i.columns ≠ [] := by
    intro hnil
    rw [hnil] at hcolumns
    cases hcolumns
  -- no placeholder stands in front of the tuples, and none behind them
  have hbefore := hcolumns.kind_ne_of_oneToken (by simp) fun hcolumn => hcolumn.1.kind_ne_dollar
  have htable := Query.kind_ne_dollar_of_isColumnWord_or (by simp) htable.1
  have htokens := Query.numbersIn_of_commaSeparated (fun _ _ htuple => htuple.numbersIn_eq) htuples
  rw [numbersIn_cons_of_ne (by simp [hinsert]), numbersIn_append_of_ne hconflict.kind_ne_dollar,
    numbersIn_cons_of_ne (by simp [hinto]), numbersIn_cons_of_ne htable,
    numbersIn_cons_of_ne (by simp [hleft]), numbersIn_append_of_ne hbefore,
    numbersIn_cons_of_ne (by simp [hright]), numbersIn_cons_of_ne (by simp [hvalues]),
    numbersIn_append hreturning.head?_bind, numbersIn_of_ne hreturning.kind_ne_dollar, List.append_nil,
    htokens, List.flatMap_def, ← List.filterMap_flatten, ← Occurrence.positionsFrom_valuesFrom,
    ← hbinds.map_value hne, List.filterMap_map]
  rfl

/-- A text that is read as an INSERT statement is one up to its first semicolon. -/
theorem isInsert_of_parseTokens {ts : List Token} {n : Nat} {i : Insert}
    (hts : ∀ t ∈ ts, t.kind ≠ .endOfInput) (h : Query.parseTokens ⟨ts, n⟩ = .ok (.insert i)) :
    IsInsert (firstStatement ts) i := by
  obtain ⟨⟨statement, c⟩, hstatement, h⟩ := bind_eq_ok.1 h
  dsimp only at h
  split at h
  · rename_i hend
    cases h
    obtain ⟨us, hus, heq⟩ := Query.exists_of_takeStatement hstatement
    obtain ⟨rfl, rfl⟩ := Cursor.mk.inj heq
    have hend := hend.imp_right (Cursor.tokens_eq_nil fun t ht => hts t (List.mem_append_right us ht))
    rw [firstStatement_append hus.kind_ne_semicolon hend]
    exact hus
  · cases h

namespace Statement

/-- The tokens in which a statement of the given form has its values: the WHERE clause of a SELECT,
and all of an INSERT. -/
def valueTokens (source : String) : Statement → List Token
  | select _ => Query.clause ⟨Query.behindWhere (sourceTokens source), source.utf8ByteSize⟩
  | insert _ => firstStatement (sourceTokens source)

/-- The placeholders in a text, of a statement of the given form. -/
def occurrences (source : String) : Statement → List Occurrence
  | select _ =>
    (Query.readings ⟨Query.behindWhere (sourceTokens source), source.utf8ByteSize⟩).filterMap
      Query.Reading.occurrence?
  | insert _ => (numbersIn (firstStatement (sourceTokens source))).map (⟨·, true⟩)

theorem map_number?_occurrences (source : String) (s : Statement) :
    (s.occurrences source).map Occurrence.number? = numbersIn (s.valueTokens source) := by
  cases s with
  | select _ =>
    simp only [occurrences, valueTokens, List.map_filterMap, Query.number?_occurrence?]
    exact Query.filterMap_readings _
  | insert _ =>
    rw [occurrences, List.map_map]
    exact List.map_id _

end Statement

theorem placeholders_of_parseQuery {source : String} {s : Statement} (h : parseQuery source = .ok s) :
    s.placeholders = Occurrence.positionsFrom 0 (s.occurrences source) := by
  rw [Query.parseQuery_eq] at h
  cases s with
  | select s =>
    rw [Statement.occurrences, ← Occurrence.positionsFrom_conditionsFrom,
      ← Query.conditions_of_parseTokens h, Statement.placeholders, Statement.binds, List.filterMap_map]
    rfl
  | insert i =>
    exact (isInsert_of_parseTokens (fun _ ht => kind_ne_endOfInput_of_mem ht) h).placeholders

/-- A placeholder without a number has its place among those without a number, one with a number has
that. So two of a statement's placeholders, of which one has a number, share a position if and only
if that number is the place of the other. -/
theorem parseQuery_positions {source : String} {s : Statement} (h : parseQuery source = .ok s) :
    let os := s.occurrences source
    let place (i : Nat) := s.placeholders[Occurrence.keptBefore os i]?
    os.map Occurrence.number? = numbersIn (s.valueTokens source) ∧
      s.placeholders.length = os.countP Occurrence.kept ∧
      (∀ i o, os[i]? = some o → o.kept = true →
        place i = some (o.number?.getD (Occurrence.bareUpTo os i))) ∧
      ∀ i j n, os[i]? = some ⟨none, true⟩ → os[j]? = some ⟨some n, true⟩ →
        (place i = place j ↔ n = Occurrence.bareUpTo os i) := by
  intro os place
  have hplaceholders : s.placeholders = Occurrence.positionsFrom 0 os := placeholders_of_parseQuery h
  have hplace : ∀ i o, os[i]? = some o → o.kept = true →
      place i = some (o.number?.getD (Occurrence.bareUpTo os i)) := by
    intro i o ho hkept
    simpa only [Nat.zero_add, ← hplaceholders] using Occurrence.getElem?_positionsFrom ho hkept 0
  refine ⟨s.map_number?_occurrences source, ?_, hplace, ?_⟩
  · rw [hplaceholders, Occurrence.length_positionsFrom]
  · intro i j n hi hj
    rw [hplace i _ hi rfl, hplace j _ hj rfl]
    simp [eq_comm]

/-- The second placeholder belongs to no complete condition, and still the last one is the third. -/
theorem parseQuery_positions_dropped :
    let source := "SELECT * FROM users WHERE id = $ AND name $ AND age > $2 AND email = $"
    ∃ s, parseQuery source = .ok s ∧
      s.occurrences source = [⟨none, true⟩, ⟨none, false⟩, ⟨some 2, true⟩, ⟨none, true⟩] ∧
      s.placeholders[2]? = some 3 ∧ s.placeholders[2]? ≠ s.placeholders[1]? := by
  intro source
  obtain ⟨s, h, hos⟩ : ∃ s, parseQuery source = .ok s ∧
      s.occurrences source = [⟨none, true⟩, ⟨none, false⟩, ⟨some 2, true⟩, ⟨none, true⟩] :=
    ⟨.select ⟨false, ["*"], "users", [⟨none, "ID", .eq, ⟨"ID", .param 1⟩⟩,
      ⟨some .and, "AGE", .gt, ⟨"AGE", .param 2⟩⟩, ⟨some .and, "EMAIL", .eq, ⟨"EMAIL", .param 3⟩⟩],
      none, none⟩, by decide +kernel, by decide +kernel⟩
  obtain ⟨-, -, hplace, hshare⟩ := parseQuery_positions h
  rw [hos] at hplace hshare
  exact ⟨_, h, hos, hplace 3 _ rfl rfl, fun heq => absurd ((hshare 3 2 2 rfl rfl).1 heq) (by decide)⟩

/-- Two placeholders that are written differently are one parameter. -/
theorem parseQuery_positions_mixed :
    let source := "SELECT * FROM users WHERE id = $1 AND email = $"
    ∃ s : Select, parseQuery source = .ok (.select s) ∧
      (Statement.select s).occurrences source = [⟨some 1, true⟩, ⟨none, true⟩] ∧
      (Statement.select s).placeholders = [1, 1] := by
  refine ⟨⟨false, ["*"], "users", [⟨none, "ID", .eq, ⟨"ID", .param 1⟩⟩,
    ⟨some .and, "EMAIL", .eq, ⟨"EMAIL", .param 1⟩⟩], none, none⟩, ?_, ?_, ?_⟩ <;> decide +kernel

end TypedQueries
