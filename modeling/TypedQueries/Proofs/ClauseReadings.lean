import TypedQueries.Proofs.InsertTuples
import TypedQueries.Proofs.QuotedColumn

/-!
The values that the loop over a WHERE clause comes to, each as it is written and with the parts of a
condition that were found in front of it. Nothing is counted on the way and nothing is dropped. The
conditions of the clause are the complete ones among them, and a placeholder without a number has
its place among all of them, complete or not.
-/

namespace TypedQueries

theorem filterMap_cons_toList {α β : Type} (f : α → Option β) (a : α) (as : List α) :
    (a :: as).filterMap f = (f a).toList ++ as.filterMap f := by
  rw [List.filterMap_cons]
  cases f a <;> rfl

namespace Query

open Cursor

theorem size_written? {c d : Cursor} {w : WrittenValue} (h : written? c = some (w, d)) :
    d.size < c.size := by
  have hle := c.advance.size_advance_le
  have hlt : c.kind ≠ .endOfInput → c.advance.size < c.size := size_advance_lt
  unfold written? at h
  split at h <;> rename_i hk <;>
    simp only [hk, ne_eq, reduceCtorEq, not_false_eq_true, forall_const] at hlt
  · split at h <;> cases h <;> omega
  · cases h
    exact hlt
  · cases h
    exact hlt
  · cases h

/-- Parts were taken, or the cursor is where it was. -/
theorem size_takeParts (c : Cursor) : (takeParts c).2.size < c.size ∨ (takeParts c).2 = c := by
  have hchain := takeSome_cases (f := connective?) (fun _ => rfl) c
  have hcolumn := takeSome_cases (f := column?) (fun _ => rfl) (c.takeSome connective?).2
  have hcomparison := takeSome_cases (f := comparison?) (fun _ => rfl)
    ((c.takeSome connective?).2.takeSome column?).2
  unfold takeParts
  grind

/-- A value of a WHERE clause, and the parts of a condition in front of it. -/
structure Reading where
  parts : Parts
  value : WrittenValue
  deriving DecidableEq, Repr

/-- Where the loop goes on if no operand stands behind the parts of a condition. -/
def skip (c : Cursor) : Cursor := if endsWhere c.kind then c else c.advance

theorem size_skip_takeParts {c : Cursor} (h : endsWhere c.kind = false) :
    (skip (takeParts c).2).size < c.size := by
  unfold skip
  rcases size_takeParts c with hlt | heq
  · split
    · exact hlt
    · exact Nat.lt_of_le_of_lt (size_advance_le _) hlt
  · rw [heq, h, if_neg (by simp)]
    apply size_advance_lt
    intro hk
    rw [hk] at h
    cases h

/-- The values of a WHERE clause, in the order in which the loop comes to them. -/
def readings (c : Cursor) : List Reading :=
  if _hc : endsWhere c.kind then []
  else
    match _h : written? (takeParts c).2 with
    | some (w, d) => ⟨(takeParts c).1, w⟩ :: readings d
    | none => readings (skip (takeParts c).2)
termination_by c.size
decreasing_by
  · have hlt := size_written? _h
    have hle : (takeParts c).2.size ≤ c.size := (takeParts_suffix c).length_le
    omega
  · exact size_skip_takeParts (by simpa using _hc)

theorem written?_of_endsWhere {c : Cursor} (h : endsWhere c.kind = true) : written? c = none := by
  unfold written?
  split <;> rename_i hk <;> first | rfl | (rw [hk] at h; cases h)

theorem readings_of_endsWhere {c : Cursor} (h : endsWhere c.kind = true) : readings c = [] := by
  rw [readings, dif_pos h]

theorem readings_of_some {c d : Cursor} {w : WrittenValue}
    (h : written? (takeParts c).2 = some (w, d)) :
    readings c = ⟨(takeParts c).1, w⟩ :: readings d := by
  have hc : ¬ endsWhere c.kind = true := fun hend => by
    rw [takeParts_of_endsWhere hend, written?_of_endsWhere hend] at h
    cases h
  rw [readings, dif_neg hc]
  split <;> rename_i h' <;> rw [h] at h' <;> cases h'
  rfl

theorem readings_of_none {c : Cursor} (h : written? (takeParts c).2 = none) :
    readings c = readings (skip (takeParts c).2) := by
  by_cases hc : endsWhere c.kind = true
  · rw [takeParts_of_endsWhere hc, skip, if_pos hc]
  · rw [readings, dif_neg hc]
    split
    · rename_i h'
      rw [h] at h'
      cases h'
    · rfl

/-- The complete conditions among readings, behind `bare` placeholders without a number. -/
def conditionsFrom (bare : Nat) : List Reading → List Condition
  | [] => []
  | r :: rs => (r.parts.condition? (r.value.value (bare + 1))).toList ++
      conditionsFrom (bare + [r.value].count .bare) rs

/-- A WHERE clause is taken for the complete conditions that it is read for. -/
theorem conditions_of_takeConditions {bare : Nat} {c d : Cursor} {conditions : List Condition}
    (h : takeConditions bare c = .ok (conditions, d)) :
    conditions = conditionsFrom bare (readings c) := by
  fun_induction takeConditions bare c generalizing d conditions with
  | case1 bare c hend =>
    cases h
    rw [readings_of_endsWhere hend]
    rfl
  | case2 => cases h
  | case3 bare c hend made bare' c' hmade ih =>
    obtain ⟨⟨more, e⟩, hmore, h⟩ := bind_eq_ok.1 h
    cases h
    rw [ih hmore]
    rw [takeCondition_eq] at hmade
    split at hmade
    · cases hmade
    · rename_i value bare₁ c₁ hoperand
      cases hmade
      obtain ⟨⟨w, c₂⟩, hw, heq⟩ := Option.map_eq_some_iff.1 (takeOperand_eq_ok hoperand).1.symm
      cases heq
      rw [readings_of_some hw]
      rfl
    · rename_i hoperand
      cases hmade
      have hw := Option.map_eq_none_iff.1 (takeOperand_eq_ok hoperand).1.symm
      rw [readings_of_none hw]
      rfl

/-- The tokens behind WHERE, of a SELECT that has the word. -/
def behindWhere (ts : List Token) : List Token :=
  match ts.dropWhile fun t => t.kind != .keyword .from with
  | _ :: _ :: word :: clause => if word.kind = .keyword .where then clause else []
  | _ => []

/-- What is left of a select list begins with the first FROM. -/
theorem takeSelectList_snd {c : Cursor} (h : c.kind = .keyword .select) :
    (takeSelectList (c.advance.eatKeyword .distinct).2).2 =
      ⟨c.tokens.dropWhile fun t => t.kind != .keyword .from, c.length⟩ := by
  obtain ⟨t, ht, heq⟩ := exists_of_kind h (by simp)
  have hselect : c.tokens.dropWhile (fun t => t.kind != .keyword .from) =
      c.advance.tokens.dropWhile fun t => t.kind != .keyword .from := by
    rw [heq]
    exact List.dropWhile_cons_of_pos (by simp [ht])
  rw [hselect]
  by_cases hdistinct : c.advance.kind = .keyword .distinct
  · obtain ⟨u, hu, hadvance⟩ := exists_of_kind hdistinct (by simp)
    have hskip : c.advance.tokens.dropWhile (fun t => t.kind != .keyword .from) =
        c.advance.advance.tokens.dropWhile fun t => t.kind != .keyword .from := by
      rw [hadvance]
      exact List.dropWhile_cons_of_pos (by simp [hu])
    rw [hskip, eatKeyword, eat, if_pos hdistinct]
    rfl
  · rw [eatKeyword, eat, if_neg hdistinct]
    rfl

/-- The conditions of a SELECT that was read are those of what stands behind its WHERE. -/
theorem conditions_of_parseTokens {ts : List Token} {n : Nat} {s : Select}
    (h : parseTokens ⟨ts, n⟩ = .ok (.select s)) :
    s.conditions = conditionsFrom 0 (readings ⟨behindWhere ts, n⟩) := by
  obtain ⟨hselect, e, h, -⟩ := parseTokens_select.1 h
  obtain ⟨-, -, c₁, c₂, c₃, c₄, h₁, h₂, h₃, -, -⟩ := takeSelect_eq_ok.1 h
  rw [takeSelectList_snd hselect] at h₁
  obtain ⟨word, -, hlist⟩ := exists_of_expect h₁ (by simp)
  obtain ⟨table, -, rfl⟩ := exists_of_takeTable h₂
  obtain ⟨us, m⟩ := c₂
  obtain ⟨hfrom, rfl⟩ := Cursor.mk.inj hlist
  unfold takeWhere at h₃
  split at h₃
  · rename_i hwhere
    have hbehind : behindWhere ts = us.tail := by
      rw [behindWhere, hfrom]
      cases us with
      | nil => cases hwhere
      | cons u us => exact if_pos hwhere
    rw [hbehind]
    exact conditions_of_takeConditions h₃
  · rename_i hwhere
    have hbehind : behindWhere ts = [] := by
      rw [behindWhere, hfrom]
      cases us with
      | nil => rfl
      | cons u us => exact if_neg hwhere
    rw [hbehind, readings_of_endsWhere rfl]
    exact congrArg Prod.fst (Except.ok.inj h₃).symm

end Query

end TypedQueries
