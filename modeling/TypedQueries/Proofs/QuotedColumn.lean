import TypedQueries.Proofs.InsertTuples
import TypedQueries.Proofs.Lexemes
import TypedQueries.Proofs.Provenance

/-!
A column that is written in double quotes is a text, not a name. The query is accepted, but a select
list loses the column. In a WHERE clause the word was a part of a condition, and the text is a value:
it ends the parts that are pending in front of it, and what comes after it has to do without the
column. One condition at most is lost, gained, or chained in another way.
-/

namespace TypedQueries

/-- Two lists of conditions that differ at one place at most: in a condition that only one of them
has, or in the connective of a condition that both have. -/
inductive ChangedAtOne : List Condition → List Condition → Prop
  | same (cs : List Condition) : ChangedAtOne cs cs
  | lost (front : List Condition) (c : Condition) (back : List Condition) :
      ChangedAtOne (front ++ c :: back) (front ++ back)
  | gained (front : List Condition) (c : Condition) (back : List Condition) :
      ChangedAtOne (front ++ back) (front ++ c :: back)
  | chained (front : List Condition) (c : Condition) (chain? : Option Connective)
      (back : List Condition) :
      ChangedAtOne (front ++ c :: back) (front ++ { c with chain? := chain? } :: back)

namespace Query

open Cursor

/-- Whether a token is a connective or a column. -/
def isWord (t : Token) : Bool := (connective? t).isSome || (column? t).isSome

/-- A comparison with a value behind it and nothing but words in front: the tokens in front of the
value, and the value as it is written. -/
def compared? (c : Cursor) : Option (List Token × WrittenValue) :=
  match c.tokens.dropWhile isWord with
  | [] => none
  | t :: rest =>
    if (comparison? t).isSome then
      (written? ⟨rest, c.length⟩).map fun taken => (c.tokens.takeWhile isWord ++ [t], taken.1)
    else none

/-- The condition that parts come to with what follows them, if a bare placeholder has the given
position. -/
def Parts.completed? (p : Parts) (position : Nat) (c : Cursor) : Option Condition :=
  (compared? c).bind fun found => (found.1.foldl next p).condition? (found.2.value position)

section

variable {p : Parts} {t : Token} {ts : List Token} {bare n : Nat}

theorem isFiller_of_isWord (h : isWord t = true) : isFiller t.kind = true := by
  simp only [isWord, Bool.or_eq_true, Option.isSome_iff_exists] at h
  rcases h with ⟨k, hk⟩ | ⟨name, hname⟩
  · exact isFiller_of_connective? hk
  · exact isFiller_of_column? hname

theorem comparison?_of_isWord (h : isWord t = true) : comparison? t = none := by
  unfold comparison?
  split <;> rename_i hk <;>
    first | rfl | simp [isWord, connective?, column?, Token.isColumnWord, hk] at h

theorem eq_none_of_isWord (h : isWord t = false) : connective? t = none ∧ column? t = none := by
  simpa [isWord] using h

theorem isWord_of_dropWhile {rest : List Token} (h : ts.dropWhile isWord = t :: rest) :
    isWord t = false := by
  have hhead := List.head?_dropWhile_not isWord ts
  simpa [h] using hhead

namespace Parts

theorem take_nil (p : Parts) (n : Nat) : p.take ⟨[], n⟩ = (p, ⟨[], n⟩) := by
  obtain ⟨chain?, column?, comparison?⟩ := p
  cases chain? <;> cases column? <;> cases comparison? <;> rfl

theorem take_of_comparison? {op : Comparison} (h : p.comparison? = some op) (c : Cursor) :
    p.take c = (p, c) := by
  obtain ⟨chain?, column?, comparison?⟩ := p
  cases h
  cases chain? <;> cases column? <;> rfl

theorem comparison?_next_of_isWord (hp : p.comparison? = none) (ht : isWord t = true) :
    (p.next t).comparison? = none := by
  unfold next
  split
  · rfl
  · split
    · exact hp
    · split
      · rename_i h
        simp [comparison?_of_isWord ht] at h
      · rfl

theorem comparison?_foldl_next (hp : p.comparison? = none) (h : ∀ t ∈ ts, isWord t = true) :
    (ts.foldl next p).comparison? = none := by
  induction ts generalizing p with
  | nil => exact hp
  | cons t ts ih =>
    rw [List.forall_mem_cons] at h
    exact ih (comparison?_next_of_isWord hp h.1) h.2

theorem condition?_of_comparison? (h : p.comparison? = none) (value : BindValue) :
    p.condition? value = none := by
  simp [condition?, Query.condition?, h]

end Parts

/-- Behind the parts, what is taken depends on them for the first condition only. -/
theorem exists_takeValueAnd (bare : Nat) (c : Cursor) :
    ∃ taken, ∀ p : Parts, takeValueAnd bare (p, c) =
      prepend ((written? c).bind fun taken => p.condition? (taken.1.value (bare + 1))).toList taken := by
  unfold takeValueAnd
  dsimp only
  cases hop : takeOperand bare c with
  | error e => exact ⟨.error e, fun p => rfl⟩
  | ok taken? =>
    obtain ⟨rfl, -⟩ := takeOperand_eq_ok hop
    cases written? c with
    | none =>
      refine ⟨takeConditions bare (if endsWhere c.kind then c else c.advance), fun p => ?_⟩
      exact (prepend_nil _).symm
    | some taken =>
      exact ⟨takeConditions (bare + [taken.1].count .bare) taken.2, fun p => rfl⟩

/-- What follows the parts of a condition that has no comparison completes it, or is taken as without
them. -/
theorem exists_takeConditionsFrom_completed? (bare : Nat) (c : Cursor) :
    ∃ taken, ∀ p : Parts, p.comparison? = none →
      takeConditionsFrom p bare c = prepend (p.completed? (bare + 1) c).toList taken := by
  obtain ⟨ts, n⟩ := c
  have hwords : ∀ t ∈ ts.takeWhile isWord, isWord t = true :=
    List.all_eq_true.1 List.all_takeWhile
  have hsplit (p : Parts) : takeConditionsFrom p bare ⟨ts, n⟩ =
      takeConditionsFrom ((ts.takeWhile isWord).foldl Parts.next p) bare
        ⟨ts.dropWhile isWord, n⟩ := by
    rw [← takeConditionsFrom_append fun t ht => isFiller_of_isWord (hwords t ht),
      List.takeWhile_append_dropWhile]
  cases hrest : ts.dropWhile isWord with
  | nil =>
    obtain ⟨taken, htaken⟩ := exists_takeValueAnd bare ⟨[], n⟩
    refine ⟨taken, fun p hp => ?_⟩
    have hnone : written? ⟨[], n⟩ = none := rfl
    rw [hsplit, hrest, takeConditionsFrom, Parts.take_nil, htaken, hnone]
    simp [Parts.completed?, compared?, hrest]
  | cons t rest =>
    obtain ⟨hconnective, hcolumn⟩ := eq_none_of_isWord (isWord_of_dropWhile hrest)
    cases hop : comparison? t with
    | none =>
      obtain ⟨taken, htaken⟩ := exists_takeValueAnd bare ⟨t :: rest, n⟩
      refine ⟨taken, fun p hp => ?_⟩
      have hnext (q : Parts) : q.next t = .empty := by
        simp [Parts.next, hconnective, hcolumn, hop]
      have hnone := Parts.condition?_of_comparison? (Parts.comparison?_foldl_next hp hwords)
      rw [hsplit, hrest, takeConditionsFrom, Parts.take_cons, if_pos (hnext _), htaken]
      simp [Parts.completed?, compared?, hrest, hop, hnone]
    | some op =>
      obtain ⟨taken, htaken⟩ := exists_takeValueAnd bare ⟨rest, n⟩
      refine ⟨taken, fun p hp => ?_⟩
      have hnext : ((ts.takeWhile isWord).foldl Parts.next p).next t =
          { (ts.takeWhile isWord).foldl Parts.next p with comparison? := some op } := by
        simp [Parts.next, hconnective, hcolumn, hop, Parts.comparison?_foldl_next hp hwords]
      have htake : (((ts.takeWhile isWord).foldl Parts.next p).next t).take ⟨rest, n⟩ =
          (((ts.takeWhile isWord).foldl Parts.next p).next t, ⟨rest, n⟩) :=
        Parts.take_of_comparison? (by rw [hnext]) _
      rw [hsplit, hrest, takeConditionsFrom_cons (isFiller_of_comparison? hop), takeConditionsFrom,
        htake, htaken]
      simp [Parts.completed?, compared?, hrest, hop, Option.bind_map, Function.comp_def]

end

/-- The parts that are found behind a beginning of a clause. -/
def pending (clause : List Token) : Parts := clause.foldl Parts.next .empty

theorem column?_of_connective? {t : Token} {k : Connective} (h : connective? t = some k) :
    column? t = none := by
  unfold connective? at h
  split at h <;> rename_i hk
  · simp [column?, Token.isColumnWord, hk, Keyword.isQueryReserved, Keyword.queryReserved]
  · simp [column?, Token.isColumnWord, hk, Keyword.isQueryReserved, Keyword.queryReserved]
  · cases h

theorem connective?_of_column? {t : Token} {name : String} (h : column? t = some name) :
    connective? t = none := by
  cases hk : connective? t with
  | none => rfl
  | some k =>
    rw [column?_of_connective? hk] at h
    cases h

namespace Parts

variable {p : Parts} {t : Token} {name : String}

theorem next_of_column? (ht : Query.column? t = some name) :
    p.next t = if p.isBlank then { p with column? := some name } else empty := by
  have hword : isWord t = true := by simp [isWord, ht]
  simp [next, ht, connective?_of_column? ht, comparison?_of_isWord hword]

theorem next_of_column?_some (hp : p.column?.isSome) (ht : isWord t = true) : p.next t = empty := by
  have hne : p ≠ empty := by
    rintro rfl
    cases hp
  have hblank : p.isBlank = false := by
    cases hc : p.column? with
    | none => simp [hc] at hp
    | some => simp [isBlank, hc]
  simp [next, hne, hblank, comparison?_of_isWord ht]

end Parts

/-- Behind a word or from it on, words are taken for the same column, if for one at all. -/
theorem column?_foldl_next {w : Token} {ws : List Token} (hw : isWord w = true)
    (hws : ∀ t ∈ ws, isWord t = true) {a b : String}
    (ha : (ws.foldl Parts.next .empty).column? = some a)
    (hb : ((w :: ws).foldl Parts.next .empty).column? = some b) : a = b := by
  induction ws generalizing w a b with
  | nil => cases ha
  | cons v vs ih =>
    rw [List.forall_mem_cons] at hws
    rw [List.foldl_cons] at ha
    rw [List.foldl_cons, List.foldl_cons] at hb
    by_cases hpass : (Parts.next .empty w).next v = .empty
    · -- the second word is passed over, and the runs have changed places
      rw [hpass] at hb
      exact (ih hws.1 hws.2 hb ha).symm
    · -- the first word is a connective and the second one a column
      obtain ⟨k, hk⟩ : ∃ k, connective? w = some k := by
        refine Option.isSome_iff_exists.1 (Option.ne_none_iff_isSome.1 fun hnone => hpass ?_)
        obtain ⟨name, hname⟩ : ∃ name, column? w = some name := by
          simpa [isWord, hnone, Option.isSome_iff_exists] using hw
        rw [Parts.next_of_column? hname]
        exact Parts.next_of_column?_some rfl hws.1
      have hchain : Parts.next .empty w = ⟨some k, none, none⟩ := by simp [Parts.next, hk]
      obtain ⟨name, hname⟩ : ∃ name, column? v = some name := by
        refine Option.isSome_iff_exists.1 (Option.ne_none_iff_isSome.1 fun hnone => hpass ?_)
        rw [hchain]
        simp [Parts.next, Parts.empty, hnone, comparison?_of_isWord hws.1]
      rw [hchain] at hb
      have hfirst : Parts.next .empty v = ⟨none, some name, none⟩ := Parts.next_of_column? hname
      have hsecond : Parts.next ⟨some k, none, none⟩ v = ⟨some k, some name, none⟩ :=
        Parts.next_of_column? hname
      rw [hfirst] at ha
      rw [hsecond] at hb
      cases vs with
      | nil =>
        cases ha
        cases hb
        rfl
      | cons u us =>
        rw [List.foldl_cons, Parts.next_of_column?_some rfl (hws.2 u (by simp))] at ha hb
        exact Option.some.inj (ha.symm.trans hb)

theorem exists_of_compared? {c : Cursor} {ts : List Token} {w : WrittenValue}
    (h : compared? c = some (ts, w)) :
    ∃ words t op, ts = words ++ [t] ∧ (∀ t ∈ words, isWord t = true) ∧ isWord t = false ∧
      comparison? t = some op := by
  unfold compared? at h
  split at h
  · cases h
  · rename_i t rest hrest
    split at h
    · rename_i hop
      obtain ⟨op, hop⟩ := Option.isSome_iff_exists.1 hop
      obtain ⟨taken, -, h⟩ := Option.map_eq_some_iff.1 h
      cases h
      exact ⟨_, t, op, rfl, List.all_eq_true.1 List.all_takeWhile, isWord_of_dropWhile hrest, hop⟩
    · cases h

/-- A column that is pending makes a difference to one condition at most. -/
theorem changedAtOne_completed? (chain? : Option Connective) (name : String) (position : Nat)
    (c : Cursor) (front back : List Condition) :
    ChangedAtOne (front ++ (((Parts.mk chain? (some name) none).completed? position c).toList ++ back))
      (front ++ ((Parts.empty.completed? position c).toList ++ back)) := by
  unfold Parts.completed?
  cases hcompared : compared? c with
  | none => exact .same _
  | some found =>
    obtain ⟨words, t, op, hwords, hall, ht, hop⟩ := exists_of_compared? hcompared
    obtain ⟨hconnective, hcolumn⟩ := eq_none_of_isWord ht
    have hlast {p : Parts} (hp : p.comparison? = none) :
        found.1.foldl Parts.next p =
          { words.foldl Parts.next p with comparison? := some op } := by
      rw [hwords, List.foldl_append, List.foldl_cons, List.foldl_nil]
      simp [Parts.next, hconnective, hcolumn, hop, Parts.comparison?_foldl_next hp hall]
    have hsame {a b : String}
        (ha : (words.foldl Parts.next ⟨chain?, some name, none⟩).column? = some a)
        (hb : (words.foldl Parts.next .empty).column? = some b) : a = b := by
      cases words with
      | nil => cases hb
      | cons w ws =>
        rw [List.forall_mem_cons] at hall
        rw [List.foldl_cons, Parts.next_of_column?_some rfl hall.1] at ha
        exact column?_foldl_next hall.1 hall.2 ha hb
    simp only [Option.bind_some, hlast (p := ⟨chain?, some name, none⟩) rfl,
      hlast (p := .empty) rfl]
    cases ha : (words.foldl Parts.next ⟨chain?, some name, none⟩).column? <;>
      cases hb : (words.foldl Parts.next .empty).column? <;>
      simp only [Parts.condition?, Query.condition?]
    · exact .same _
    · exact .gained front _ back
    · exact .lost front _ back
    · obtain rfl := hsame ha hb
      exact .chained front _ _ back

/-- How the conditions of a clause change if the word `t` in it, behind `clause`, is made the given
text. Both clauses have the conditions of `clause`. The word is taken with the parts that are pending
there, and what comes after it may complete them. The text is a value for these parts, and what comes
after it is taken by itself. A placeholder there that has no number has the position behind those
in `clause`. -/
def Requoted (clause : List Token) (t : Token) (text : String) (after : Cursor)
    (xs ys : List Condition) : Prop :=
  ∃ front back d, takeConditions 0 ⟨clause, after.length⟩ = .ok (front, d) ∧
    xs = front ++ ((((pending clause).next t).completed? (bareIn clause + 1) after).toList ++ back) ∧
    ys = front ++ (((pending clause).condition? (.literal (.string text))).toList ++
      ((Parts.empty.completed? (bareIn clause + 1) after).toList ++ back))

theorem Requoted.changedAtOne {clause : List Token} {t : Token} {text name : String} {after : Cursor}
    {xs ys : List Condition} (h : Requoted clause t text after xs ys)
    (ht : column? t = some name) : ChangedAtOne xs ys := by
  obtain ⟨front, back, d, -, rfl, rfl⟩ := h
  rw [Parts.next_of_column? ht]
  split
  · rename_i hblank
    generalize pending clause = p at hblank ⊢
    obtain ⟨chain?, column?, comparison?⟩ := p
    simp only [Parts.isBlank, Bool.and_eq_true, Option.isNone_iff_eq_none] at hblank
    obtain ⟨rfl, rfl⟩ := hblank
    exact changedAtOne_completed? chain? name _ after front back
  · cases (pending clause).condition? (.literal (.string text)) with
    | none => exact .same _
    | some made => exact .gained front made _

section Clause

variable {n : Nat} {clause after : List Token} {t t' : Token} {name : String}

theorem takeConditionsFrom_nil (p : Parts) (bare n : Nat) :
    takeConditionsFrom p bare ⟨[], n⟩ = .ok ([], ⟨[], n⟩) := by
  rw [takeConditionsFrom, Parts.take_nil]
  exact takeConditions_of_endsWhere rfl bare

theorem takeConditionsFrom_of_string (ht : t.kind = .string) (p : Parts) (bare : Nat) :
    takeConditionsFrom p bare ⟨t :: after, n⟩ =
      prepend (p.condition? (.literal (.string t.literal))).toList
        (takeConditionsFrom .empty bare ⟨after, n⟩) := by
  have hop : takeOperand bare ⟨t :: after, n⟩ =
      .ok (some (.literal (.string t.literal), bare, ⟨after, n⟩)) := by
    simp [takeOperand, ht]
  rw [takeConditionsFrom_of_not_isFiller (by rw [ht]; rfl), takeValueAnd, takeConditionsFrom_empty]
  dsimp only
  rw [hop]

/-- What a text in the place of a word does to a clause. -/
theorem takeConditions_requoted (hclause : ∀ u ∈ clause, endsWhere u.kind = false)
    (ht : column? t = some name) (ht' : t'.kind = .string) {xs : List Condition} {d : Cursor}
    (h : takeConditions 0 ⟨clause ++ t :: after, n⟩ = .ok (xs, d)) :
    ∃ ys, takeConditions 0 ⟨clause ++ t' :: after, n⟩ = .ok (ys, d) ∧
      Requoted clause t t'.literal ⟨after, n⟩ xs ys := by
  have hfiller := isFiller_of_column? ht
  have hkind : (Cursor.mk (t :: after) n).kind ≠ .integer := by
    intro hk
    rw [show t.kind = .integer from hk] at hfiller
    cases hfiller
  have hkind' : (Cursor.mk (t' :: after) n).kind ≠ .integer := by simp [ht']
  simp only [← takeConditionsFrom_empty] at h ⊢
  obtain ⟨front, hclause⟩ := exists_takeConditionsFrom hclause hkind h
  rw [Nat.zero_add] at hclause
  obtain ⟨taken, htaken⟩ := exists_takeConditionsFrom_completed? (bareIn clause) ⟨after, n⟩
  have hnext : ((pending clause).next t).comparison? = none := by
    rw [Parts.next_of_column? ht]
    split
    · rename_i hblank
      simp only [Parts.isBlank, Bool.and_eq_true, Option.isNone_iff_eq_none] at hblank
      exact hblank.2
    · rfl
  have hfront : takeConditions 0 ⟨clause, n⟩ = .ok (front, ⟨[], n⟩) := by
    have hend := hclause [] (by rintro ⟨⟩)
    rw [List.append_nil, takeConditionsFrom_nil, takeConditionsFrom_empty] at hend
    rw [hend, prepend, Except.map, List.append_nil]
  rw [hclause _ hkind, takeConditionsFrom_cons hfiller] at h
  rw [hclause _ hkind', takeConditionsFrom_of_string ht', htaken _ rfl]
  have h : prepend front (takeConditionsFrom ((pending clause).next t) (bareIn clause) ⟨after, n⟩) =
    .ok (xs, d) := h
  rw [htaken _ hnext] at h
  obtain ⟨more, hmore, rfl⟩ := prepend_eq_ok.1 h
  obtain ⟨back, rfl, rfl⟩ := prepend_eq_ok.1 hmore
  exact ⟨_, rfl, front, back, _, hfront, rfl, rfl⟩

end Clause

section Statement

variable {c e : Cursor} {s : Select}

theorem parseTokens_select :
    parseTokens c = .ok (.select s) ↔ c.kind = .keyword .select ∧
      ∃ e, takeSelect c.advance = .ok (s, e) ∧ (e.kind = .semicolon ∨ e.kind = .endOfInput) := by
  constructor
  · intro h
    obtain ⟨⟨statement, e⟩, hstatement, h⟩ := bind_eq_ok.1 h
    dsimp only at h
    split at h
    · rename_i hend
      cases h
      unfold takeStatement at hstatement
      split at hstatement
      · rename_i hk
        obtain ⟨⟨select, e'⟩, hselect, hpure⟩ := bind_eq_ok.1 hstatement
        cases hpure
        exact ⟨hk, e, hselect, hend⟩
      · obtain ⟨⟨insert, e'⟩, -, hpure⟩ := bind_eq_ok.1 hstatement
        cases hpure
      · cases hstatement
    · cases h
  · rintro ⟨hk, e, hselect, hend⟩
    refine bind_eq_ok.2 ⟨(.select s, e), ?_, if_pos hend⟩
    simp only [takeStatement, hk]
    exact bind_eq_ok.2 ⟨_, hselect, rfl⟩

end Statement

section Requoting

variable {n : Nat} {t t' : Token} {name : String} {before after : List Token} {s : Select}
  {e : Cursor}

theorem eat_append {ts more : List Token} {kind : TokenKind} (hkind : kind ≠ .endOfInput)
    (h : (Cursor.mk more n).kind ≠ kind) :
    (Cursor.mk (ts ++ more) n).eat kind = (((Cursor.mk ts n).eat kind).1,
      ⟨((Cursor.mk ts n).eat kind).2.tokens ++ more, n⟩) := by
  cases ts with
  | nil =>
    have hend : (Cursor.mk [] n).kind ≠ kind := fun hk => hkind hk.symm
    rw [List.nil_append, eat, if_neg h, eat, if_neg hend]
    rfl
  | cons t ts =>
    by_cases hk : t.kind = kind <;> simp [eat, hk]

theorem takeSelectList_append {ts : List Token} (hts : ∀ u ∈ ts, u.kind ≠ .keyword .from)
    (more : List Token) :
    takeSelectList ⟨ts ++ more, n⟩ = (ts.filterMap item? ++ (takeSelectList ⟨more, n⟩).1,
      (takeSelectList ⟨more, n⟩).2) := by
  have hlist : ∀ u ∈ ts, (u.kind != .keyword .from) = true := by simpa using hts
  simp only [takeSelectList, List.takeWhile_append_of_pos hlist,
    List.dropWhile_append_of_pos hlist, List.filterMap_append]

theorem filterMap_item?_eat_distinct (ts : List Token) :
    ((Cursor.mk ts n).eatKeyword .distinct).2.tokens.filterMap item? = ts.filterMap item? := by
  cases ts with
  | nil => rfl
  | cons t ts =>
    by_cases hk : t.kind = .keyword .distinct
    · have hnone : item? t = none := by
        simp [item?, Token.isColumnWord, hk, Keyword.isQueryReserved, Keyword.queryReserved]
      simp [eatKeyword, eat, hk, hnone]
    · simp [eatKeyword, eat, hk]

/-- DISTINCT and the beginning of a select list. -/
theorem takeSelectList_eat_distinct (n : Nat) {u : Token} (more : List Token)
    (hbefore : ∀ u ∈ before, u.kind ≠ .keyword .from) (hu : u.kind ≠ .keyword .distinct) :
    ((Cursor.mk (before ++ u :: more) n).eatKeyword .distinct).1 =
        ((Cursor.mk before n).eatKeyword .distinct).1 ∧
      takeSelectList ((Cursor.mk (before ++ u :: more) n).eatKeyword .distinct).2 =
        (before.filterMap item? ++ (takeSelectList ⟨u :: more, n⟩).1,
          (takeSelectList ⟨u :: more, n⟩).2) := by
  have heat : (Cursor.mk (before ++ u :: more) n).eatKeyword .distinct =
      (((Cursor.mk before n).eatKeyword .distinct).1,
        ⟨((Cursor.mk before n).eatKeyword .distinct).2.tokens ++ u :: more, n⟩) :=
    eat_append (by simp) hu
  have hrest : ∀ u ∈ ((Cursor.mk before n).eatKeyword .distinct).2.tokens,
      u.kind ≠ .keyword .from := by
    intro u hu
    apply hbefore u
    simp only [eatKeyword, eat] at hu
    split at hu
    · exact List.mem_of_mem_tail hu
    · exact hu
  rw [heat, takeSelectList_append hrest, filterMap_item?_eat_distinct]
  exact ⟨rfl, rfl⟩

theorem kind_of_column? (ht : column? t = some name) {k : Keyword}
    (hk : k.isQueryReserved = true) : t.kind ≠ .keyword k := by
  intro htk
  simp [column?, Token.isColumnWord, htk, hk] at ht

theorem item?_of_column? (ht : column? t = some name) : item? t = some name := by
  unfold column? at ht
  split at ht
  · rename_i hword
    simpa [item?, hword] using ht
  · cases ht

/-- A select list loses a name that is made a text. -/
theorem takeSelect_requoted_list (hbefore : ∀ u ∈ before, u.kind ≠ .keyword .from)
    (ht : column? t = some name) (ht' : t'.kind = .string)
    (h : takeSelect ⟨before ++ t :: after, n⟩ = .ok (s, e)) :
    ∃ back, s.columns = before.filterMap item? ++ name :: back ∧
      takeSelect ⟨before ++ t' :: after, n⟩ =
        .ok ({ s with columns := before.filterMap item? ++ back }, e) := by
  have hfrom := kind_of_column? ht (k := .from) (by decide)
  have hdistinct := kind_of_column? ht (k := .distinct) (by decide)
  have hcons {u : Token} (hu : u.kind ≠ .keyword .from) :
      takeSelectList ⟨u :: after, n⟩ = ((item? u).toList ++ (takeSelectList ⟨after, n⟩).1,
        (takeSelectList ⟨after, n⟩).2) := by
    have happend := takeSelectList_append (n := n) (by simpa using hu : ∀ v ∈ [u], _) after
    cases hitem : item? u <;> simpa [hitem] using happend
  have hitem' : item? t' = none := by simp [item?, Token.isColumnWord, ht']
  obtain ⟨heat, hlist⟩ := takeSelectList_eat_distinct n after hbefore hdistinct
  obtain ⟨heat', hlist'⟩ := takeSelectList_eat_distinct n after hbefore
    (by simp [ht'] : t'.kind ≠ .keyword .distinct)
  rw [hcons hfrom, item?_of_column? ht] at hlist
  rw [hcons (by simp [ht']), hitem'] at hlist'
  obtain ⟨hd, hcolumns, c₁, c₂, c₃, c₄, h₁, h₂, h₃, h₄, h₅⟩ := takeSelect_eq_ok.1 h
  rw [hlist] at hcolumns h₁
  refine ⟨(takeSelectList ⟨after, n⟩).1, hcolumns, takeSelect_eq_ok.2
    ⟨hd.trans (heat.trans heat'.symm), ?_, c₁, c₂, c₃, c₄, ?_, h₂, h₃, h₄, h₅⟩⟩
  · rw [hlist']
    rfl
  · rwa [hlist']

theorem takeTable_cons_eq_ok {d : Cursor} {ts : List Token} :
    takeTable ⟨t :: ts, n⟩ = .ok (name, d) ↔ table? t = some name ∧ d = ⟨ts, n⟩ := by
  unfold takeTable
  rw [Cursor.current_cons, Cursor.advance_cons]
  cases table? t with
  | none => simp
  | some other => simp [eq_comm]

/-- A WHERE clause in which a word is made a text. -/
theorem takeSelect_requoted_where {list clause : List Token} {fromToken table whereToken : Token}
    (hlist : ∀ u ∈ list, u.kind ≠ .keyword .from) (hfrom : fromToken.kind = .keyword .from)
    (hwhere : whereToken.kind = .keyword .where)
    (hclause : ∀ u ∈ clause, endsWhere u.kind = false) (ht : column? t = some name)
    (ht' : t'.kind = .string)
    (h : takeSelect ⟨list ++ fromToken :: table :: whereToken :: (clause ++ t :: after), n⟩ =
      .ok (s, e)) :
    ∃ conditions, Requoted clause t t'.literal ⟨after, n⟩ s.conditions conditions ∧
      takeSelect ⟨list ++ fromToken :: table :: whereToken :: (clause ++ t' :: after), n⟩ =
        .ok ({ s with conditions := conditions }, e) := by
  have hdistinct : fromToken.kind ≠ .keyword .distinct := by simp [hfrom]
  have hnil (more : List Token) :
      takeSelectList ⟨fromToken :: more, n⟩ = ([], ⟨fromToken :: more, n⟩) := by
    simp [takeSelectList, hfrom]
  obtain ⟨hd, hcolumns, c₁, c₂, c₃, c₄, h₁, h₂, h₃, h₄, h₅⟩ := takeSelect_eq_ok.1 h
  obtain ⟨heat, hitems⟩ := takeSelectList_eat_distinct n
    (table :: whereToken :: (clause ++ t :: after)) hlist hdistinct
  obtain ⟨heat', hitems'⟩ := takeSelectList_eat_distinct n
    (table :: whereToken :: (clause ++ t' :: after)) hlist hdistinct
  rw [hnil] at hitems hitems'
  have hexpect (more : List Token) :
      (Cursor.mk (fromToken :: more) n).expectKeyword .from = .ok ⟨more, n⟩ := by
    simp [expectKeyword, expect, hfrom]
  have hskip (more : List Token) :
      takeWhere ⟨whereToken :: more, n⟩ = takeConditions 0 ⟨more, n⟩ := by
    simp [takeWhere, hwhere]
  rw [hitems] at hcolumns h₁
  rw [hexpect] at h₁
  cases h₁
  obtain ⟨hname, rfl⟩ := takeTable_cons_eq_ok.1 h₂
  rw [hskip] at h₃
  obtain ⟨conditions, hconditions, hrequoted⟩ :=
    takeConditions_requoted hclause ht ht' h₃
  refine ⟨conditions, hrequoted, takeSelect_eq_ok.2 ⟨hd.trans (heat.trans heat'.symm), ?_,
    ⟨table :: whereToken :: (clause ++ t' :: after), n⟩, ⟨whereToken :: (clause ++ t' :: after), n⟩,
    c₃, c₄, ?_, takeTable_cons_eq_ok.2 ⟨hname, rfl⟩, ?_, h₄, h₅⟩⟩
  · rw [hitems']
    exact hcolumns
  · rw [hitems']
    exact hexpect _
  · rw [hskip]
    exact hconditions

end Requoting

end Query

/-- The lexemes in front of one that stands in the select list. -/
def InSelectList (before : List Lexeme) : Prop := ∀ m ∈ before, m.kind ≠ .keyword .from

/-- The lexemes in front of one that stands in the WHERE clause: a select list with FROM, a table
and WHERE behind it, and the beginning of the clause. -/
def InWhere (before clause : List Lexeme) : Prop :=
  ∃ list fromWord table whereWord,
    before = list ++ fromWord :: table :: whereWord :: clause ∧ InSelectList list ∧
    fromWord.kind = .keyword .from ∧ whereWord.kind = .keyword .where ∧
    ∀ m ∈ clause, Query.endsWhere m.kind = false

theorem InWhere.of_cons {m : Lexeme} {before clause : List Lexeme} (h : InWhere (m :: before) clause)
    (hm : m.kind ≠ .keyword .from) : InWhere before clause := by
  obtain ⟨list, fromWord, table, whereWord, hbefore, hlist, hfrom, hrest⟩ := h
  cases list with
  | nil =>
    rw [List.nil_append, List.cons.injEq] at hbefore
    exact absurd hfrom (hbefore.1 ▸ hm)
  | cons m' list =>
    rw [List.cons_append, List.cons.injEq] at hbefore
    exact ⟨list, fromWord, table, whereWord, hbefore.2, (List.forall_mem_cons.1 hlist).2, hfrom,
      hrest⟩

namespace Lexeme

variable {l : Lexeme}

theorem kind_quoted (l : Lexeme) : l.quoted.token.kind = .string := rfl

theorem literal_quoted (l : Lexeme) : l.quoted.token.literal = String.ofList l.raw := by
  simp [token, literal, quoted, unquote]

end Lexeme

/-- The text of lexemes in which one word is put into double quotes. -/
def requote (before : List Lexeme) (l : Lexeme) (after : List Lexeme) (last : List Char) : String :=
  String.ofList (Lexeme.textOf (before ++ l.quoted :: after) last)

/-- A query is accepted with a column in double quotes, too. Its select list loses the column, and its
conditions change at one place at most, as what is pending in front of the column and what comes
after it have it. -/
theorem parseQuery_requote {source : String} {s : Select} {before after : List Lexeme} {l : Lexeme}
    {last : List Char} (hsource : Lexeme.ofText source.toList = (before ++ l :: after, last))
    (hl : l.token.isColumnWord = true) (h : parseQuery source = .ok (.select s)) :
    (InSelectList before → ∃ back,
      s.columns = (before.map Lexeme.token).filterMap Query.item? ++ l.literal :: back ∧
      parseQuery (requote before l after last) = .ok (.select { s with
        columns := (before.map Lexeme.token).filterMap Query.item? ++ back })) ∧
    (∀ clause, InWhere before clause → ∃ conditions,
      Query.Requoted (clause.map Lexeme.token) l.token (String.ofList l.raw)
        ⟨after.map Lexeme.token, 0⟩ s.conditions conditions ∧
      ChangedAtOne s.conditions conditions ∧
      parseQuery (requote before l after last) =
        .ok (.select { s with conditions := conditions })) := by
  have hmem : l ∈ (Lexeme.ofText source.toList).1 := by simp [hsource]
  have hword := (Lexeme.isWord_of_isColumnWord hmem hl).1
  have hcolumn : Query.column? l.token = some l.literal := by
    rw [Query.column?, if_pos hl]
    rfl
  have htokens : tokensOf source.toList =
      before.map Lexeme.token ++ l.token :: after.map Lexeme.token := by
    simp [tokensOf, hsource]
  have htokens' : tokensOf (requote before l after last).toList =
      before.map Lexeme.token ++ l.quoted.token :: after.map Lexeme.token := by
    simp [tokensOf, requote, Lexeme.ofText_quoted hsource hword]
  rw [parseQuery_eq_ok_iff_tokensOf, htokens] at h
  simp only [parseQuery_eq_ok_iff_tokensOf, htokens', Query.parseTokens_select] at h ⊢
  obtain ⟨hselect, e, h, hend⟩ := h
  cases before with
  | nil => exact absurd hselect (Query.kind_of_column? hcolumn (by decide))
  | cons m before =>
    have hkind : m.kind = .keyword .select := hselect
    simp only [List.map_cons, List.cons_append, Cursor.advance_cons] at h ⊢
    constructor
    · intro hlist
      have hbefore : ∀ u ∈ before.map Lexeme.token, u.kind ≠ .keyword .from := by
        simpa using fun u hu => hlist u (List.mem_cons_of_mem m hu)
      obtain ⟨back, hcolumns, hrequote⟩ :=
        Query.takeSelect_requoted_list hbefore hcolumn l.kind_quoted h
      have hitem : Query.item? m.token = none := by
        simp [Query.item?, Token.isColumnWord, hkind, Keyword.isQueryReserved,
          Keyword.queryReserved]
      rw [List.filterMap_cons_none hitem]
      exact ⟨back, hcolumns, hkind, e, hrequote, hend⟩
    · intro clause hwhere
      obtain ⟨list, fromWord, table, whereWord, rfl, hlist, hfrom, hwhere, hclause⟩ :=
        hwhere.of_cons (by simp [hkind])
      have hlist' : ∀ u ∈ list.map Lexeme.token, u.kind ≠ .keyword .from :=
        List.forall_mem_map.2 hlist
      have hclause' : ∀ u ∈ clause.map Lexeme.token, Query.endsWhere u.kind = false := by
        simpa using hclause
      simp only [List.map_append, List.map_cons, List.append_assoc, List.cons_append] at h ⊢
      obtain ⟨conditions, hrequoted, hrequote⟩ := Query.takeSelect_requoted_where
        hlist' hfrom hwhere hclause' hcolumn l.kind_quoted h
      rw [Lexeme.literal_quoted] at hrequoted
      exact ⟨conditions, hrequoted, hrequoted.changedAtOne hcolumn, hkind, e, hrequote, hend⟩

/-- A query with a column in each place where one may be put into quotes. -/
def titledBooks : Select :=
  ⟨false, ["ID", "TITLE"], "books", [⟨none, "YEAR", .gt, ⟨"YEAR", .literal (.integer 1900)⟩⟩],
    none, none⟩

def titledBooksText : String := "SELECT id, title FROM books WHERE year > 1900"

def titledBooksLexemes : List Lexeme := (Lexeme.ofText titledBooksText.toList).1

theorem parseQuery_requote_titledBooks :
    (∃ back, titledBooks.columns = ["ID"] ++ "TITLE" :: back ∧
      parseQuery "SELECT id, \"title\" FROM books WHERE year > 1900" =
        .ok (.select { titledBooks with columns := ["ID"] ++ back })) ∧
    ∃ conditions, Query.Requoted [] (Lexeme.token ⟨[' '], .ident, "year".toList⟩) "year"
        ⟨(titledBooksLexemes.drop 8).map Lexeme.token, 0⟩ titledBooks.conditions conditions ∧
      parseQuery "SELECT id, title FROM books WHERE \"year\" > 1900" =
        .ok (.select { titledBooks with conditions := conditions }) := by
  have hparse : parseQuery titledBooksText = .ok (.select titledBooks) := by decide +kernel
  constructor
  · have hsource : Lexeme.ofText titledBooksText.toList = (titledBooksLexemes.take 3 ++
        ⟨[' '], .ident, "title".toList⟩ :: titledBooksLexemes.drop 4, []) := by decide +kernel
    have hlist : InSelectList (titledBooksLexemes.take 3) := by
      unfold InSelectList
      decide +kernel
    have hitems : ((titledBooksLexemes.take 3).map Lexeme.token).filterMap Query.item? = ["ID"] := by
      decide +kernel
    have htext : requote (titledBooksLexemes.take 3) ⟨[' '], .ident, "title".toList⟩
        (titledBooksLexemes.drop 4) [] =
          "SELECT id, \"title\" FROM books WHERE year > 1900" := by decide +kernel
    have hliteral : Lexeme.literal ⟨[' '], .ident, "title".toList⟩ = "TITLE" := by decide +kernel
    have hrequote := (parseQuery_requote hsource (by decide) hparse).1 hlist
    rwa [hitems, htext, hliteral] at hrequote
  · have hsource : Lexeme.ofText titledBooksText.toList = (titledBooksLexemes.take 7 ++
        ⟨[' '], .ident, "year".toList⟩ :: titledBooksLexemes.drop 8, []) := by decide +kernel
    have hbefore : titledBooksLexemes.take 7 = titledBooksLexemes.take 4 ++
        [⟨[' '], .keyword .from, "FROM".toList⟩, ⟨[' '], .ident, "books".toList⟩,
          ⟨[' '], .keyword .where, "WHERE".toList⟩] := by decide +kernel
    have hlist : InSelectList (titledBooksLexemes.take 4) := by
      unfold InSelectList
      decide +kernel
    have htext : requote (titledBooksLexemes.take 7) ⟨[' '], .ident, "year".toList⟩
        (titledBooksLexemes.drop 8) [] =
          "SELECT id, title FROM books WHERE \"year\" > 1900" := by decide +kernel
    obtain ⟨conditions, hrequoted, -, hrequote⟩ :=
      (parseQuery_requote hsource (by decide) hparse).2 []
        ⟨_, _, _, _, hbefore, hlist, rfl, rfl, by simp⟩
    rw [htext] at hrequote
    exact ⟨conditions, hrequoted, hrequote⟩

/-- Behind a comparison, the text is its value. -/
example :
    parseQuery "SELECT id FROM t WHERE a = b AND c > 1" = .ok (.select
        ⟨false, ["ID"], "t", [⟨some .and, "C", .gt, ⟨"C", .literal (.integer 1)⟩⟩], none, none⟩) ∧
      parseQuery "SELECT id FROM t WHERE a = \"b\" AND c > 1" = .ok (.select
        ⟨false, ["ID"], "t", [⟨none, "A", .eq, ⟨"A", .literal (.string "b")⟩⟩,
          ⟨some .and, "C", .gt, ⟨"C", .literal (.integer 1)⟩⟩], none, none⟩) := by
  decide +kernel

/-- A select list drops a name in quotes, where an INSERT rejects it. -/
theorem parseQuery_quoted_ne :
    parseQuery "SELECT id, name FROM t" =
        .ok (.select ⟨false, ["ID", "NAME"], "t", [], none, none⟩) ∧
      parseQuery "SELECT \"id\", name FROM t" =
        .ok (.select ⟨false, ["NAME"], "t", [], none, none⟩) ∧
      (parseQuery "INSERT INTO t (\"id\") VALUES (1)").toOption = none ∧
      (parseQuery "INSERT INTO t (id) VALUES (1) RETURNING \"id\"").toOption = none := by
  decide +kernel

end TypedQueries
