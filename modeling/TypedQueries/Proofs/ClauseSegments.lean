import TypedQueries.Proofs.ClauseReadings
import TypedQueries.Proofs.StatementTokens

/-!
WHERE clauses that are segments with connectives between them. Of a segment the column, the
comparison and the value may be missing. What is kept are the complete segments, whatever stands
beside them. The connective in front of a segment is passed over if the loop found no value before
it, so that a condition may lose the connective that joins it to the one before.
-/

namespace TypedQueries

/-- What a condition says, without its connective. -/
def Condition.compared (c : Condition) : String × Comparison × Bind :=
  (c.column, c.comparison, c.bind)

/-- A part, or nothing. -/
inductive Optionally {α : Type} (P : List Token → α → Prop) : List Token → Option α → Prop
  | absent : Optionally P [] none
  | present {ts : List Token} {a : α} (h : P ts a) : Optionally P ts (some a)

theorem Optionally.eq_nil {α : Type} {P : List Token → α → Prop} {ts : List Token}
    (h : Optionally P ts none) : ts = [] := by
  cases h
  rfl

/-- A token that is there is taken, and nothing is taken if the next token is none of its kind. -/
theorem Optionally.takeSome {α : Type} {f : Token → Option α} {Q : Token → α → Prop}
    (hf : ∀ t a, Q t a → f t = some a) {ts us : List Token} {a? : Option α} {n : Nat}
    (h : Optionally (OneToken Q) ts a?) (hus : a? = none → f (Cursor.mk us n).current = none) :
    (Cursor.mk (ts ++ us) n).takeSome f = (a?, ⟨us, n⟩) := by
  cases h with
  | absent => simp [Cursor.takeSome, hus rfl]
  | present h =>
    obtain ⟨t, rfl, ht⟩ := h
    exact Cursor.takeSome_cons_of_some (hf t _ ht) us n

namespace Query

open Cursor

def IsConnective (t : Token) (k : Connective) : Prop := t.kind = .keyword k.keyword

def IsComparison (t : Token) (op : Comparison) : Prop := t.kind = op.kind

/-- What may stand between two connectives. -/
structure Segment where
  column? : Option String
  comparison? : Option Comparison
  value? : Option WrittenValue
  deriving DecidableEq, Repr

inductive IsSegment : List Token → Segment → Prop
  | mk {ts us vs : List Token} {g : Segment} (hcolumn : Optionally (OneToken IsColumn) ts g.column?)
      (hcomparison : Optionally (OneToken IsComparison) us g.comparison?)
      (hvalue : Optionally IsOperand vs g.value?) : IsSegment (ts ++ (us ++ vs)) g

theorem IsSegment.eq_nil {ts : List Token} (h : IsSegment ts ⟨none, none, none⟩) : ts = [] := by
  obtain ⟨hcolumn, hcomparison, hvalue⟩ := h
  rw [hcolumn.eq_nil, hcomparison.eq_nil, hvalue.eq_nil]
  rfl

/-- A first segment, and more with a connective in front of each. -/
inductive IsClause : List Token → Segment → List (Connective × Segment) → Prop
  | one {ts : List Token} {g : Segment} (h : IsSegment ts g) : IsClause ts g []
  | cons {ts us : List Token} {t : Token} {g first : Segment} {k : Connective}
      {more : List (Connective × Segment)} (h : IsSegment ts g) (hk : IsConnective t k)
      (hrest : IsClause us first more) : IsClause (ts ++ t :: us) g ((k, first) :: more)

/-! One token. -/

theorem IsConnective.connective? {t : Token} {k : Connective} (h : IsConnective t k) :
    connective? t = some k := by
  have h : t.kind = .keyword k.keyword := h
  cases k <;> simp [Query.connective?, h, Connective.keyword]

theorem IsComparison.comparison? {t : Token} {op : Comparison} (h : IsComparison t op) :
    comparison? t = some op := by
  have h : t.kind = op.kind := h
  cases op <;> simp [Query.comparison?, h, Comparison.kind]

theorem IsComparison.eq_none {t : Token} {op : Comparison} (h : IsComparison t op) :
    connective? t = none ∧ column? t = none := by
  have h : t.kind = op.kind := h
  cases op <;> simp [connective?, column?, Token.isColumnWord, h, Comparison.kind]

/-- A cursor behind a segment: it is on a connective, or the clause ends. -/
def Stops (c : Cursor) : Prop := (∃ k, IsConnective c.current k) ∨ endsWhere c.kind = true

theorem eq_none_of_stops {c : Cursor} (h : Stops c) :
    column? c.current = none ∧ comparison? c.current = none ∧ written? c = none := by
  rcases h with ⟨k, hk⟩ | h
  · have hkind : c.kind = .keyword k.keyword := hk
    refine ⟨column?_of_connective? hk.connective?, ?_, ?_⟩
    · exact comparison?_of_isWord (by simp [isWord, hk.connective?])
    · simp [written?, hkind]
  · exact ⟨eq_none_of_endsWhere isFiller_of_column? h, eq_none_of_endsWhere isFiller_of_comparison? h,
      written?_of_endsWhere h⟩

theorem kind_ne_integer_of_stops {c : Cursor} (h : Stops c) : c.kind ≠ .integer := by
  intro hk
  have hwritten := (eq_none_of_stops h).2.2
  simp [written?, hk] at hwritten

theorem IsOperand.eq_none {vs : List Token} {w : WrittenValue} (h : IsOperand vs w)
    (us : List Token) (n : Nat) :
    connective? (Cursor.mk (vs ++ us) n).current = none ∧
      column? (Cursor.mk (vs ++ us) n).current = none ∧
      comparison? (Cursor.mk (vs ++ us) n).current = none := by
  cases h <;> simp_all [connective?, column?, comparison?, Token.isColumnWord]

/-! The loop over segments. -/

/-- Parts that are there are taken. A connective behind them is taken only if nothing is there. -/
theorem takeParts_of_optionally {ls ts us vs : List Token} {lead? : Option Connective}
    {column? : Option String} {comparison? : Option Comparison} {n : Nat}
    (hlead : Optionally (OneToken IsConnective) ls lead?)
    (hcolumn : Optionally (OneToken IsColumn) ts column?)
    (hcomparison : Optionally (OneToken IsComparison) us comparison?)
    (hstart : lead? = none → column? = none → comparison? = none →
      connective? (Cursor.mk vs n).current = none)
    (hvs : Query.column? (Cursor.mk vs n).current = none ∧
      Query.comparison? (Cursor.mk vs n).current = none) :
    takeParts ⟨ls ++ (ts ++ (us ++ vs)), n⟩ = (⟨lead?, column?, comparison?⟩, ⟨vs, n⟩) := by
  have h₁ : lead? = none → connective? (Cursor.mk (ts ++ (us ++ vs)) n).current = none := by
    intro hnone
    cases hcolumn with
    | absent =>
      cases hcomparison with
      | absent => exact hstart hnone rfl rfl
      | present h =>
        obtain ⟨t, rfl, ht⟩ := h
        exact ht.eq_none.1
    | present h =>
      obtain ⟨t, rfl, ht⟩ := h
      exact connective?_of_column? (column?_eq_some_iff.2 ht)
  have h₂ : column? = none → Query.column? (Cursor.mk (us ++ vs) n).current = none := by
    intro _
    cases hcomparison with
    | absent => exact hvs.1
    | present h =>
      obtain ⟨t, rfl, ht⟩ := h
      exact ht.eq_none.2
  unfold takeParts
  rw [hlead.takeSome (fun _ _ ht => ht.connective?) h₁]
  simp only
  rw [hcolumn.takeSome (fun _ _ ht => column?_eq_some_iff.2 ht) h₂]
  simp only
  rw [hcomparison.takeSome (fun _ _ ht => ht.comparison?) fun _ => hvs.2]

namespace Segment

/-- Whether the loop passes over the connective behind a segment, which it comes to with the given
one. It does if it finds a part of a condition, be it that connective, and then no value. -/
def hidesNext (lead? : Option Connective) (g : Segment) : Bool :=
  g.value?.isNone && (lead?.isSome || g.column?.isSome || g.comparison?.isSome)

theorem eq_of_hidesNext {lead? : Option Connective} {g : Segment} (h : g.hidesNext lead? = false)
    (hvalue : g.value? = none) : lead? = none ∧ g = ⟨none, none, none⟩ := by
  obtain ⟨column?, comparison?, value?⟩ := g
  cases lead? <;> cases column? <;> cases comparison? <;> simp_all [hidesNext]

/-- Segments, each with the connective that the loop comes to it with. -/
def leads : Option Connective → Segment → List (Connective × Segment) →
    List (Option Connective × Segment)
  | lead?, g, [] => [(lead?, g)]
  | lead?, g, (k, first) :: more =>
    (lead?, g) :: leads (if g.hidesNext lead? then none else some k) first more

theorem map_snd_leads (lead? : Option Connective) (g : Segment) (more : List (Connective × Segment)) :
    (leads lead? g more).map Prod.snd = g :: more.map Prod.snd := by
  induction more generalizing lead? g with
  | nil => rfl
  | cons p more ih =>
    obtain ⟨k, first⟩ := p
    rw [leads, List.map_cons, ih]
    rfl

/-- The value of a segment, with the parts in front of it. -/
def reading? (lead? : Option Connective) (g : Segment) : Option Reading :=
  g.value?.map (Reading.mk ⟨lead?, g.column?, g.comparison?⟩)

end Segment

/-- One segment: the loop reads its value, or goes on behind the token that stops it. -/
theorem readings_of_isSegment {ls ts us : List Token} {lead? : Option Connective} {g : Segment}
    {n : Nat} (hlead : Optionally (OneToken IsConnective) ls lead?) (h : IsSegment ts g)
    (hus : Stops ⟨us, n⟩)
    (hstart : g.value? = none → g.hidesNext lead? = false →
      connective? (Cursor.mk us n).current = none) :
    readings ⟨ls ++ (ts ++ us), n⟩ = (g.reading? lead?).toList ++
      readings (if g.value?.isSome then ⟨us, n⟩ else skip ⟨us, n⟩) := by
  obtain @⟨ts, us', vs, ⟨column?, comparison?, value?⟩, hcolumn, hcomparison, hvalue⟩ := h
  rw [List.append_assoc, List.append_assoc]
  cases hvalue with
  | absent =>
    obtain ⟨hnone₁, hnone₂, hwritten⟩ := eq_none_of_stops hus
    have hparts := takeParts_of_optionally hlead hcolumn hcomparison
      (fun h₁ h₂ h₃ => hstart rfl (by simp_all [Segment.hidesNext])) ⟨hnone₁, hnone₂⟩
    rw [List.nil_append, readings_of_none (by rw [hparts]; exact hwritten), hparts]
    rfl
  | present hvs =>
    obtain ⟨hnone, hnones⟩ := hvs.eq_none us n
    have hparts := takeParts_of_optionally hlead hcolumn hcomparison (fun _ _ _ => hnone) hnones
    have hwritten := hvs.written? (kind_ne_integer_of_stops hus)
    rw [readings_of_some (by rw [hparts]; exact hwritten), hparts]
    rfl

/-- A clause: the loop reads the values of the segments, with the connectives it came with. -/
theorem readings_of_isClause {ts rest : List Token} {first : Segment}
    {more : List (Connective × Segment)} {n : Nat} (h : IsClause ts first more)
    (hrest : endsWhere (Cursor.mk rest n).kind = true) {ls : List Token} {lead? : Option Connective}
    (hlead : Optionally (OneToken IsConnective) ls lead?) :
    readings ⟨ls ++ (ts ++ rest), n⟩ =
      (Segment.leads lead? first more).filterMap fun p => p.2.reading? p.1 := by
  induction h generalizing ls lead? with
  | @one ts g h =>
    have hskip : skip ⟨rest, n⟩ = ⟨rest, n⟩ := if_pos hrest
    have hconnective := eq_none_of_endsWhere isFiller_of_connective? hrest
    rw [readings_of_isSegment hlead h (Or.inr hrest) fun _ _ => hconnective, hskip, ite_self,
      readings_of_endsWhere hrest, Segment.leads, filterMap_cons_toList]
    rfl
  | @cons ts us t g first k more h hk _ ih =>
    have hstops : Stops ⟨t :: (us ++ rest), n⟩ := Or.inl ⟨k, hk⟩
    have hnext := ih (.present ⟨t, rfl, hk⟩)
    rw [List.append_assoc, List.cons_append, Segment.leads, filterMap_cons_toList]
    cases hhides : g.hidesNext lead? with
    | true =>
      -- the connective is passed over
      have hnone : g.value? = none := by simp_all [Segment.hidesNext]
      have hskip : skip ⟨t :: (us ++ rest), n⟩ = ⟨us ++ rest, n⟩ := by
        have hgo := endsWhere_of_isFiller (isFiller_of_connective? hk.connective?)
        simp [skip, hgo]
      rw [readings_of_isSegment hlead h hstops fun _ hhides' => by simp_all]
      simpa [hnone, hskip] using ih .absent
    | false =>
      cases hvalue : g.value? with
      | some w =>
        rw [readings_of_isSegment hlead h hstops fun hnone => by simp_all]
        simpa [hvalue] using hnext
      | none =>
        -- there is nothing, and the connective is taken as that of the next segment
        obtain ⟨rfl, rfl⟩ := Segment.eq_of_hidesNext hhides hvalue
        rw [hlead.eq_nil, h.eq_nil]
        exact hnext

/-- What is behind a WHERE is read segment by segment. -/
theorem conditions_of_isClause {source : String} {s : Select} {ts rest : List Token}
    {first : Segment} {more : List (Connective × Segment)}
    (h : parseQuery source = .ok (.select s))
    (hwhere : behindWhere (tokensOf source.toList) = ts ++ rest) (hts : IsClause ts first more)
    (hrest : endsWhere (Cursor.mk rest 0).kind = true) :
    s.conditions = conditionsFrom 0
      ((Segment.leads none first more).filterMap fun p => p.2.reading? p.1) := by
  rw [conditions_of_parseTokens (parseQuery_eq_ok_iff_tokensOf.1 h), hwhere,
    ← readings_of_isClause hts hrest .absent]
  rfl

/-! What is kept of segments. -/

namespace Segment

def isBare (g : Segment) : Bool := g.value? == some .bare

def isComplete (g : Segment) : Bool :=
  g.column?.isSome && g.comparison?.isSome && g.value?.isSome

/-- The column, the comparison and the bind of a complete segment, if a bare placeholder has the
given position. -/
def comparison (position : Nat) (g : Segment) : Option (String × Comparison × Bind) := do
  let column ← g.column?
  let comparison ← g.comparison?
  let value ← g.value?
  return (column, comparison, ⟨column, value.value position⟩)

/-- The complete ones among segments. The `m`-th bare placeholder of all segments has the
position `m`. -/
def kept (gs : List Segment) : List (String × Comparison × Bind) :=
  gs.zipIdx.filterMap fun p => p.1.comparison ((gs.take (p.2 + 1)).countP isBare)

/-- The complete ones among segments, behind `bare` placeholders without a number. -/
def keptFrom (bare : Nat) : List Segment → List (String × Comparison × Bind)
  | [] => []
  | g :: gs => (g.comparison (bare + 1)).toList ++ keptFrom (bare + if g.isBare then 1 else 0) gs

theorem comparison_add (g : Segment) (bare : Nat) :
    g.comparison (bare + if g.isBare then 1 else 0) = g.comparison (bare + 1) := by
  obtain ⟨column?, comparison?, value?⟩ := g
  rcases value? with - | - | v
  · simp [comparison]
  · rfl
  · rfl

theorem keptFrom_eq (bare : Nat) (gs : List Segment) :
    keptFrom bare gs =
      gs.zipIdx.filterMap fun p => p.1.comparison (bare + (gs.take (p.2 + 1)).countP isBare) := by
  induction gs generalizing bare with
  | nil => rfl
  | cons g gs ih =>
    have hfirst : g.comparison (bare + ((g :: gs).take 1).countP isBare) = g.comparison (bare + 1) := by
      rw [← comparison_add g bare]
      simp [List.countP_cons]
    rw [keptFrom, ih, List.zipIdx_cons', filterMap_cons_toList, List.filterMap_map]
    refine congrArg₂ (fun a b => Option.toList a ++ b) hfirst.symm (List.filterMap_congr fun p _ => ?_)
    have hcount : ((g :: gs).take (p.2 + 1 + 1)).countP isBare =
        (if g.isBare then 1 else 0) + (gs.take (p.2 + 1)).countP isBare := by
      rw [List.take_succ_cons, List.countP_cons, Nat.add_comm]
    rw [Nat.add_assoc, ← hcount]
    rfl

/-- The condition of a complete segment that the loop comes to with the given connective. -/
def condition? (lead? : Option Connective) (position : Nat) (g : Segment) : Option Condition :=
  Query.condition? lead? g.column? g.comparison? (g.value?.map (WrittenValue.value position))

theorem conditionsFrom_reading? (bare : Nat) (lead? : Option Connective) (g : Segment)
    (rs : List Reading) :
    conditionsFrom bare ((g.reading? lead?).toList ++ rs) =
      (g.condition? lead? (bare + 1)).toList ++ conditionsFrom (bare + if g.isBare then 1 else 0) rs := by
  obtain ⟨column?, comparison?, value?⟩ := g
  rcases value? with - | - | v
  · cases column? <;> cases comparison? <;> rfl
  · rfl
  · rfl

theorem map_compared_condition? (lead? : Option Connective) (position : Nat) (g : Segment) :
    (g.condition? lead? position).toList.map Condition.compared = (g.comparison position).toList := by
  obtain ⟨column?, comparison?, value?⟩ := g
  cases column? <;> cases comparison? <;> cases value? <;> rfl

theorem map_chain?_condition? (lead? : Option Connective) (position : Nat) (g : Segment) :
    (g.condition? lead? position).toList.map Condition.chain? =
      if g.isComplete then [lead?] else [] := by
  obtain ⟨column?, comparison?, value?⟩ := g
  cases column? <;> cases comparison? <;> cases value? <;> rfl

variable (bare : Nat) (ps : List (Option Connective × Segment))

theorem map_compared_conditionsFrom :
    (conditionsFrom bare (ps.filterMap fun p => p.2.reading? p.1)).map Condition.compared =
      keptFrom bare (ps.map Prod.snd) := by
  induction ps generalizing bare with
  | nil => rfl
  | cons p ps ih =>
    rw [filterMap_cons_toList, conditionsFrom_reading?, List.map_append, map_compared_condition?, ih]
    rfl

theorem map_chain?_conditionsFrom :
    (conditionsFrom bare (ps.filterMap fun p => p.2.reading? p.1)).map Condition.chain? =
      (ps.filter fun p => p.2.isComplete).map Prod.fst := by
  induction ps generalizing bare with
  | nil => rfl
  | cons p ps ih =>
    rw [filterMap_cons_toList, conditionsFrom_reading?, List.map_append, map_chain?_condition?, ih,
      List.filter_cons]
    cases p.2.isComplete <;> rfl

end Segment

theorem isSegment_of_complete {t u : Token} {vs : List Token} {name : String} {op : Comparison}
    {w : WrittenValue} (ht : IsColumn t name) (hu : IsComparison u op) (hvs : IsOperand vs w) :
    IsSegment (t :: u :: vs) ⟨some name, some op, some w⟩ :=
  @IsSegment.mk [t] [u] vs _ (.present ⟨t, rfl, ht⟩) (.present ⟨u, rfl, hu⟩) (.present hvs)

theorem isSegment_of_number (name : String) (n : Nat) (h : column? (wordToken name) = some name) :
    IsSegment [wordToken name, Comparison.eq.token, symbolToken .dollar '$', numberToken n]
      ⟨some name, some .eq, some (.given (.param n))⟩ := by
  have hvalue : IsOperand [symbolToken .dollar '$', numberToken n]
      (.given (.param (numberToken n).number)) := .numbered rfl rfl
  rw [number_numberToken] at hvalue
  exact isSegment_of_complete (column?_eq_some_iff.1 h) rfl hvalue

/-- A condition behind a connective. -/
def renderJoined (k : Connective) (c : Condition) : String := " " ++ k.text ++ " " ++ c.render

theorem renderChained_of_isSome {cs : List Condition} (h : ∀ c ∈ cs, c.chain?.isSome = true) :
    ∃ ks : List Connective, ks.length = cs.length ∧
      renderChained cs = String.join (List.zipWith renderJoined ks cs) := by
  induction cs with
  | nil => exact ⟨[], rfl, rfl⟩
  | cons c cs ih =>
    obtain ⟨hc, hcs⟩ := List.forall_mem_cons.1 h
    obtain ⟨k, hk⟩ := Option.isSome_iff_exists.1 hc
    obtain ⟨ks, hlength, hks⟩ := ih hcs
    refine ⟨k :: ks, by simp [hlength], ?_⟩
    rw [renderChained, hk, hks, List.zipWith_cons_cons, String.join_cons]
    rfl

section Clause

variable {source : String} {s : Select} {ts rest : List Token} {first : Segment}
  {more : List (Connective × Segment)}

/-- The conditions of a SELECT are the complete segments of its WHERE clause, in order. No segment
changes what is made of another. -/
theorem parseQuery_keeps_segments (h : parseQuery source = .ok (.select s))
    (hwhere : behindWhere (tokensOf source.toList) = ts ++ rest) (hts : IsClause ts first more)
    (hrest : endsWhere (Cursor.mk rest 0).kind = true) :
    s.conditions.map Condition.compared = Segment.kept (first :: more.map Prod.snd) := by
  rw [conditions_of_isClause h hwhere hts hrest, Segment.map_compared_conditionsFrom,
    Segment.map_snd_leads, Segment.keptFrom_eq]
  simp only [Nat.zero_add]
  rfl

/-- A segment without a value and one with nothing but a value stand between complete ones. -/
theorem parseQuery_keeps_segments_users :
    let source := "SELECT * FROM users WHERE id = $ AND name = OR $ AND age > $"
    ∃ s, parseQuery source = .ok (.select s) ∧ s.conditions.map Condition.compared =
      [("ID", .eq, ⟨"ID", .param 1⟩), ("AGE", .gt, ⟨"AGE", .param 3⟩)] := by
  intro source
  obtain ⟨s, h⟩ : ∃ s, parseQuery source = .ok (.select s) :=
    ⟨⟨false, ["*"], "users", [⟨none, "ID", .eq, ⟨"ID", .param 1⟩⟩,
      ⟨some .and, "AGE", .gt, ⟨"AGE", .param 3⟩⟩], none, none⟩, by decide +kernel⟩
  let dollar := symbolToken .dollar '$'
  have hid : IsSegment [wordToken "ID", Comparison.eq.token, dollar]
      ⟨some "ID", some .eq, some .bare⟩ :=
    isSegment_of_complete (column?_eq_some_iff.1 (by decide)) rfl (.bare rfl)
  have hname : IsSegment [wordToken "NAME", Comparison.eq.token] ⟨some "NAME", some .eq, none⟩ :=
    @IsSegment.mk [_] [_] [] _ (.present ⟨_, rfl, column?_eq_some_iff.1 (by decide)⟩)
      (.present ⟨_, rfl, rfl⟩) .absent
  have hvalue : IsSegment [dollar] ⟨none, none, some .bare⟩ :=
    @IsSegment.mk [] [] [_] _ .absent .absent (.present (.bare rfl))
  have hage : IsSegment [wordToken "AGE", Comparison.gt.token, dollar]
      ⟨some "AGE", some .gt, some .bare⟩ :=
    isSegment_of_complete (column?_eq_some_iff.1 (by decide)) rfl (.bare rfl)
  have hts := IsClause.cons (k := .and) (t := keywordToken .and) hid rfl
    (.cons (k := .or) (t := keywordToken .or) hname rfl
      (.cons (k := .and) (t := keywordToken .and) hvalue rfl (.one hage)))
  exact ⟨s, h, parseQuery_keeps_segments h (by decide +kernel : _ = _ ++ []) hts rfl⟩

/-- The connective of a condition is the one that the loop comes to its segment with. All conditions
behind the first are joined to the one before if and only if all complete segments behind the first
are come to with a connective, and then each is written behind AND or OR. -/
theorem parseQuery_chained_iff (h : parseQuery source = .ok (.select s))
    (hwhere : behindWhere (tokensOf source.toList) = ts ++ rest) (hts : IsClause ts first more)
    (hrest : endsWhere (Cursor.mk rest 0).kind = true) :
    let complete := (Segment.leads none first more).filter fun p => p.2.isComplete
    s.conditions.map Condition.chain? = complete.map Prod.fst ∧
      ((∀ c ∈ s.conditions.tail, c.chain?.isSome = true) ↔
        ∀ p ∈ complete.tail, p.1.isSome = true) ∧
      ((∀ p ∈ complete.tail, p.1.isSome = true) → ∀ c cs, s.conditions = c :: cs →
        ∃ ks : List Connective, ks.length = cs.length ∧ renderWhere s.conditions =
          " WHERE " ++ c.render ++ String.join (List.zipWith renderJoined ks cs)) := by
  intro complete
  have hchains : s.conditions.map Condition.chain? = complete.map Prod.fst := by
    rw [conditions_of_isClause h hwhere hts hrest]
    exact Segment.map_chain?_conditionsFrom 0 _
  have hiff : (∀ c ∈ s.conditions.tail, c.chain?.isSome = true) ↔
      ∀ p ∈ complete.tail, p.1.isSome = true := by
    have htail : s.conditions.tail.map Condition.chain? = complete.tail.map Prod.fst := by
      rw [List.map_tail, List.map_tail, hchains]
    have hall : (∀ k? ∈ s.conditions.tail.map Condition.chain?, k?.isSome = true) ↔
        ∀ k? ∈ complete.tail.map Prod.fst, k?.isSome = true := by
      rw [htail]
    rwa [List.forall_mem_map, List.forall_mem_map] at hall
  refine ⟨hchains, hiff, fun hjoined c cs hcs => ?_⟩
  have hchained : ∀ d ∈ cs, d.chain?.isSome = true := by simpa [hcs] using hiff.2 hjoined
  obtain ⟨ks, hlength, hks⟩ := renderChained_of_isSome hchained
  refine ⟨ks, hlength, ?_⟩
  rw [hcs, renderWhere, hks]

/-- A segment without a comparison stands between complete ones, and its connectives are found. -/
theorem parseQuery_chained_users :
    let source := "SELECT * FROM users WHERE id = $1 AND name $3 OR email = $2"
    ∃ s, parseQuery source = .ok (.select s) ∧
      s.conditions.map Condition.chain? = [none, some .or] ∧
      ∀ c ∈ s.conditions.tail, c.chain?.isSome = true := by
  intro source
  obtain ⟨s, h⟩ : ∃ s, parseQuery source = .ok (.select s) :=
    ⟨⟨false, ["*"], "users", [⟨none, "ID", .eq, ⟨"ID", .param 1⟩⟩,
      ⟨some .or, "EMAIL", .eq, ⟨"EMAIL", .param 2⟩⟩], none, none⟩, by decide +kernel⟩
  have hname : IsSegment [wordToken "NAME", symbolToken .dollar '$', numberToken 3]
      ⟨some "NAME", none, some (.given (.param 3))⟩ :=
    @IsSegment.mk [_] [] [_, _] _ (.present ⟨_, rfl, column?_eq_some_iff.1 (by decide)⟩) .absent
      (.present (.numbered rfl rfl))
  have hid := isSegment_of_number "ID" 1 (by decide)
  have hemail := isSegment_of_number "EMAIL" 2 (by decide)
  have hts := IsClause.cons (k := .and) (t := keywordToken .and) hid rfl
    (.cons (k := .or) (t := keywordToken .or) hname rfl (.one hemail))
  obtain ⟨hchains, hiff, -⟩ :=
    parseQuery_chained_iff h (by decide +kernel : _ = _ ++ []) hts rfl
  exact ⟨s, h, hchains, hiff.2 (by decide)⟩

/-- Behind a segment without a value the connective is lost, and two comparisons stand side by
side. -/
theorem parseQuery_chain_lost :
    let source := "SELECT * FROM users WHERE id = $1 AND name = AND email = $2"
    (∃ ts first more, behindWhere (tokensOf source.toList) = ts ∧ IsClause ts first more) ∧
      ∃ s, parseQuery source = .ok (.select s) ∧
        s.conditions.map Condition.chain? = [none, none] ∧
        renderWhere s.conditions = " WHERE id = $1 email = $2" := by
  intro source
  have hname : IsSegment [wordToken "NAME", Comparison.eq.token] ⟨some "NAME", some .eq, none⟩ :=
    @IsSegment.mk [_] [_] [] _ (.present ⟨_, rfl, column?_eq_some_iff.1 (by decide)⟩)
      (.present ⟨_, rfl, rfl⟩) .absent
  have hid := isSegment_of_number "ID" 1 (by decide)
  have hemail := isSegment_of_number "EMAIL" 2 (by decide)
  have hts := IsClause.cons (k := .and) (t := keywordToken .and) hid rfl
    (.cons (k := .and) (t := keywordToken .and) hname rfl (.one hemail))
  refine ⟨⟨_, _, _, by decide +kernel, hts⟩, ?_⟩
  exact ⟨⟨false, ["*"], "users", [⟨none, "ID", .eq, ⟨"ID", .param 1⟩⟩,
    ⟨none, "EMAIL", .eq, ⟨"EMAIL", .param 2⟩⟩], none, none⟩, by decide +kernel, rfl, by decide +kernel⟩

end Clause

end Query

end TypedQueries
