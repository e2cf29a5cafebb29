import TypedQueries.Generation.Query
import TypedQueries.Proofs.DensePositions
import TypedQueries.Proofs.ParamFields

/-!
Placeholders and arguments of a generated method line up. The text of the query has the positions
from 1 to some `N`, the struct of parameters has a field for each of them, and the one call of the
database gets these fields in order.
-/

namespace TypedQueries

/-- A call, as what is called and with what. -/
abbrev GoCall := GoExpr × List GoExpr

namespace GoExpr

mutual

/-- All calls in an expression. -/
def calls : GoExpr → List GoCall
  | ident _ => []
  | str _ => []
  | nil => []
  | selector base _ => base.calls
  | call function arguments => (function, arguments) :: (function.calls ++ callsOfList arguments)
  | address inner => inner.calls
  | notEqual left right => left.calls ++ right.calls

def callsOfList : List GoExpr → List GoCall
  | [] => []
  | e :: es => e.calls ++ callsOfList es

end

theorem callsOfList_eq_nil {es : List GoExpr} (h : ∀ e ∈ es, e.calls = []) : callsOfList es = [] := by
  induction es with
  | nil => rfl
  | cons e es ih =>
    rw [callsOfList, h e (by simp), ih fun f hf => h f (by simp [hf])]
    rfl

/-- A method of the database handle `q.db`. -/
def isDatabaseMethod : GoExpr → Bool
  | selector (selector (ident owner) handle) _ => owner == "q" && handle == "db"
  | _ => false

end GoExpr

namespace GoStmt

mutual

/-- All calls in a statement, in order. -/
def calls : GoStmt → List GoCall
  | define _ value => value.calls
  | assign _ value => value.calls
  | declare _ _ => []
  | branch none condition body => condition.calls ++ callsOfBody body
  | branch (some init) condition body => init.calls ++ condition.calls ++ callsOfBody body
  | loop condition body => condition.calls ++ callsOfBody body
  | defer call => call.calls
  | giveBack results => GoExpr.callsOfList results

def callsOfBody : List GoStmt → List GoCall
  | [] => []
  | s :: ss => s.calls ++ callsOfBody ss

end

mutual

/-- All values that a statement gives to a variable, in order. -/
def valuesOf (name : String) : GoStmt → List GoExpr
  | define names value => if names.contains name then [value] else []
  | assign names value => if names.contains name then [value] else []
  | declare _ _ => []
  | branch none _ body => valuesOfBody name body
  | branch (some init) _ body => init.valuesOf name ++ valuesOfBody name body
  | loop _ body => valuesOfBody name body
  | defer _ => []
  | giveBack _ => []

def valuesOfBody (name : String) : List GoStmt → List GoExpr
  | [] => []
  | s :: ss => s.valuesOf name ++ valuesOfBody name ss

end

end GoStmt

namespace GoFunc

/-- The arguments of each call of the database. -/
def databaseArguments (f : GoFunc) : List (List GoExpr) :=
  ((GoStmt.callsOfBody f.body).filter fun call => call.1.isDatabaseMethod).map Prod.snd

/-- What the variable `query` holds, one after the other. -/
def queryValues (f : GoFunc) : List GoExpr := GoStmt.valuesOfBody "query" f.body

end GoFunc

namespace Method

theorem callsOfList_scanTargets (owner : String) (fields : List String) :
    GoExpr.callsOfList (scanTargets owner fields) = [] := by
  apply GoExpr.callsOfList_eq_nil
  intro e he
  obtain ⟨field, -, rfl⟩ := List.mem_map.1 he
  rfl

theorem callsOfList_arguments (params? : Option GoStruct) :
    GoExpr.callsOfList (arguments params?) = [] := by
  apply GoExpr.callsOfList_eq_nil
  intro e he
  simp only [arguments, List.cons_append, List.nil_append, List.mem_cons, List.mem_map] at he
  rcases he with rfl | rfl | ⟨field, -, rfl⟩ <;> rfl

/-- A method calls the database once, with the arguments that were made for it. -/
theorem databaseArguments_function (name sql : String) (d : Decoding) (params? : Option GoStruct) :
    (function name sql d params?).databaseArguments = [arguments params?] := by
  have hscan := callsOfList_scanTargets
  have harguments := callsOfList_arguments params?
  obtain ⟨shape, targets⟩ := d
  cases shape <;>
    simp [GoFunc.databaseArguments, function, body, singleBody, listBody, GoStmt.callsOfBody,
      GoStmt.calls, GoStmt.returnOnError, GoExpr.calls, GoExpr.callsOfList, callDatabase, callOn,
      hscan, harguments, GoExpr.isDatabaseMethod, err, result]

/-- A method runs the one text that it was made for. -/
theorem queryValues_function (name sql : String) (d : Decoding) (params? : Option GoStruct) :
    (function name sql d params?).queryValues = [.str sql] := by
  obtain ⟨shape, targets⟩ := d
  cases shape <;>
    simp [GoFunc.queryValues, function, body, singleBody, listBody, GoStmt.valuesOfBody,
      GoStmt.valuesOf, GoStmt.returnOnError]

end Method

/-- The Go type of what a statement binds to a column: that of the table's column, as a pointer if
the statement is an INSERT and the column may be null; or a string, if the name is not that of a
column but of an enumeration. -/
def Registry.IsParamType (r : Registry) (t : Table) (s : Statement) (column : String)
    (type : GoType) : Prop :=
  match t.field? column with
  | some f => ∃ plain, r.goType f.dataType = .ok plain ∧ type =
      match s with
      | .insert _ => if f.nullable then .pointer plain else plain
      | .select _ => plain
  | none => (r.enumeration? column).isSome ∧ type = .string

/-- Looking for a resolved column is looking for the column of the table. -/
theorem column?_of_mapM_resolveField {r : Registry} {fields : List Field}
    {columns : List ResolvedColumn} (h : fields.mapM r.resolveField = .ok columns) (name : String) :
    match fields.find? fun f => Text.equalIgnoringCase f.name name with
    | some f => ∃ type, r.goType f.dataType = .ok type ∧
        column? columns name = some ⟨f.name, type, f.nullable⟩
    | none => column? columns name = none := by
  induction fields generalizing columns with
  | nil =>
    cases h
    rfl
  | cons f fields ih =>
    obtain ⟨c, cs, hc, hcs, rfl⟩ := mapM_cons_eq_ok.1 h
    obtain ⟨type, htype, hc⟩ := bind_eq_ok.1 hc
    cases hc
    cases hf : Text.equalIgnoringCase f.name name with
    | true =>
      simp only [List.find?_cons, hf]
      exact ⟨type, htype, by simp [column?, hf]⟩
    | false =>
      have hskip : column? (⟨f.name, type, f.nullable⟩ :: cs) name = column? cs name := by
        simp [column?, hf]
      simp only [List.find?_cons, hf, hskip]
      exact ih hcs

theorem Registry.isParamType_of_bindType {r : Registry} {t : Table} {columns : List ResolvedColumn}
    {s : Statement} {name : String} {type : GoType} (hc : r.resolveTable t = .ok columns)
    (h : Params.bindType r t columns s.takesPointers name = .ok type) :
    r.IsParamType t s name type := by
  have hcolumn := column?_of_mapM_resolveField hc name
  unfold IsParamType Table.field?
  split <;> rename_i hfield
  · simp only [hfield] at hcolumn
    obtain ⟨plain, hplain, hcolumn⟩ := hcolumn
    refine ⟨plain, hplain, ?_⟩
    simp only [Params.bindType, hcolumn, Except.ok.injEq] at h
    subst h
    cases s <;> simp [Statement.takesPointers]
  · simp only [hfield] at hcolumn
    simp only [Params.bindType, hcolumn] at h
    cases he : r.enumeration? name with
    | none => simp [he] at h
    | some e =>
      simp only [he] at h
      split at h
      · cases h
        exact ⟨rfl, rfl⟩
      · cases h

/-- The generated query `q` for the statement `s` passes what its text asks for: `dense` is `s` with
its positions renumbered in ascending order, from 1 to their number, and `q` runs its text. -/
structure PassesParams (r : Registry) (t : Table) (s dense : Statement) (q : GeneratedQuery) :
    Prop where
  renumbered : ∃ f, StrictMonoOn f {p | p ∈ s.placeholders} ∧ dense = s.mapPositions f
  positions : ∀ k, k ∈ dense.placeholders ↔ 1 ≤ k ∧ k ≤ s.arity
  text : q.function.queryValues = [.str dense.render]
  without : s.arity = 0 → q.params? = none ∧ q.function.params = [⟨"ctx", .context⟩] ∧
    q.function.databaseArguments = [[.ident "ctx", .ident "query"]]
  fields : s.arity ≠ 0 → ∃ record, q.params? = some record ∧ record.fields.length = s.arity ∧
    q.function.params = [⟨"ctx", .context⟩, ⟨"params", .named record.name⟩] ∧
    q.function.databaseArguments = [.ident "ctx" :: .ident "query" ::
      record.fields.map fun f => .selector (.ident "params") f.name] ∧
    ∀ k f, record.fields[k]? = some f → ∃ b, Params.firstAt dense.binds (k + 1) = some b ∧
      r.IsParamType t s b.column f.type

/-- The `k`-th field has the type of the first bind at position `k + 1`. -/
theorem firstAt_of_getElem?_fields {typeOf : String → Except CompileError GoType}
    {binds : List Bind} {entries : List (Nat × Params.TypedColumn)} {n k : Nat} {f : GoField}
    (h : Params.byPosition typeOf binds = .ok entries)
    (hkeys : entries.map Prod.fst = List.range' 1 n)
    (hf : (Params.fields [] entries)[k]? = some f) :
    ∃ b, Params.firstAt binds (k + 1) = some b ∧ typeOf b.column = .ok f.type := by
  have htype : (entries.map fun entry => entry.2.type)[k]? = some f.type := by
    rw [← Params.map_type_fields [], List.getElem?_map, hf]
    rfl
  rw [List.getElem?_map] at htype
  obtain ⟨⟨position, c⟩, hentry, hc⟩ := Option.map_eq_some_iff.1 htype
  obtain rfl : position = k + 1 := Params.position_of_getElem? hkeys hentry
  obtain ⟨b, hb, -, hbtype⟩ := ((Params.byPosition_spec h).2 _ _).1 (List.mem_of_getElem? hentry)
  exact ⟨b, hb, by rw [hbtype, ← hc]⟩

/-- If a query is generated, its placeholders and its arguments line up. -/
theorem generate_passesParams {r : Registry} {name : String} {kind : QueryKind} {s : Statement}
    {q : GeneratedQuery} (hs : ∀ p ∈ s.placeholders, 1 ≤ p)
    (h : generate r name kind s = .ok q) :
    ∃ t dense, r.table s.table = .ok t ∧ PassesParams r t s dense q := by
  obtain ⟨t, columns, d, entries, hq⟩ := exists_generated h
  have hdense := Statement.mem_placeholders_withDensePositions hs
  have hkeys := Params.keys_byPosition hq.bound fun k =>
    Statement.mem_placeholders.symm.trans (hdense k)
  have hlength : entries.length = s.arity := by simpa using congrArg List.length hkeys
  refine ⟨t, s.withDensePositions, hq.table, ⟨_, Statement.strictMonoOn_densePosition hs, rfl⟩,
    hdense, ?_, ?_, ?_⟩
  · rw [hq.function_eq, Method.queryValues_function]
  · intro hzero
    have hnil : entries = [] := List.length_eq_zero_iff.1 (hlength.trans hzero)
    have hparams : q.params? = none := by rw [hq.params, if_pos hnil]
    rw [hq.function_eq, hparams]
    exact ⟨rfl, rfl, Method.databaseArguments_function ..⟩
  · intro hne
    have hparams := hq.params_of_ne_nil (List.length_pos_iff.1 (by omega))
    rw [hq.function_eq, hparams]
    refine ⟨_, rfl, ?_, rfl, Method.databaseArguments_function .., ?_⟩
    · simpa [hlength] using congrArg List.length (Params.map_type_fields [] entries)
    · intro k f hf
      obtain ⟨b, hb, htype⟩ := firstAt_of_getElem?_fields hq.bound hkeys hf
      exact ⟨b, hb, Registry.isParamType_of_bindType hq.resolved htype⟩

/-- A table with a column that may be null, and an enumeration. -/
def taskRegistry : Registry :=
  (Registry.empty.insertAll [.enumeration ⟨"level", ["low", "high"]⟩,
    .table ⟨"tasks", [⟨"id", .int, true, none, true, false⟩, .plain "title" .text,
      .plain "level" (.enum "level")]⟩]).1

/-- Positions out of order, with gaps and repetitions, between literals. -/
def addTasks : Insert :=
  ⟨none, "tasks", ["TITLE", "ID"],
    [⟨"TITLE", .param 9⟩, ⟨"ID", .param 4⟩, ⟨"TITLE", .literal .null⟩, ⟨"ID", .param 9⟩,
      ⟨"TITLE", .param 4⟩, ⟨"ID", .param 7⟩], []⟩

theorem generate_passesParams_addTasks :
    (∀ p ∈ (Statement.insert addTasks).placeholders, 1 ≤ p) ∧
      ∃ q, generate taskRegistry "AddTasks" .exec (.insert addTasks) = .ok q ∧
        ∃ t dense, taskRegistry.table "tasks" = .ok t ∧
          PassesParams taskRegistry t (.insert addTasks) dense q := by
  have hs : ∀ p ∈ (Statement.insert addTasks).placeholders, 1 ≤ p := by decide
  refine ⟨hs, ?_⟩
  have hok : (generate taskRegistry "AddTasks" .exec (.insert addTasks)).isOk = true := by
    decide +kernel
  cases h : generate taskRegistry "AddTasks" .exec (.insert addTasks) with
  | error e =>
    rw [h] at hok
    cases hok
  | ok q => exact ⟨q, rfl, generate_passesParams hs h⟩

end TypedQueries
