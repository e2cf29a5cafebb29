import TypedQueries.Fallible
import TypedQueries.Generation.Params
import TypedQueries.Query.Block
import TypedQueries.Query.Positions
import TypedQueries.Query.Printer

/-!
From a statement to a Go method that runs it, decodes its rows and returns them.
-/

namespace TypedQueries

/-- What a method returns besides an error. -/
inductive ResultShape where
  | single (row : GoType)
  | list (row : GoType)
  | none
  deriving DecidableEq, Repr

def ResultShape.types : ResultShape → List GoType
  | single row => [row, .error]
  | list row => [.slice row, .error]
  | none => [.error]

/-- The method for a query, with the struct of its parameters if it has any. -/
structure GeneratedQuery where
  name : String
  shape : ResultShape
  params? : Option GoStruct
  function : GoFunc
  deriving Repr

def GeneratedQuery.decls (q : GeneratedQuery) : List GoDecl :=
  q.params?.toList.map GoDecl.struct ++ [.func q.function]

/-- The shape of a result and the fields of a row that its columns are decoded into. -/
structure Decoding where
  shape : ResultShape
  targets : List String
  deriving DecidableEq, Repr

namespace Table

/-- The row fields of all columns, in order. -/
def rowFields (t : Table) : List String := t.fields.map fun f => Naming.exported f.name

/-- The row field of one column. -/
def rowField (t : Table) (column : String) : Except CompileError String :=
  match t.field? column with
  | some f => .ok (Naming.exported f.name)
  | none => .error (.unknownColumn t.name (Text.lower column))

end Table

/-- A SELECT gives one row or a list of rows. A star stands for all columns. -/
def Select.decoding (s : Select) (kind : QueryKind) (t : Table) : Except CompileError Decoding := do
  let shape ← match kind with
    | .one => pure (ResultShape.single t.rowType)
    | .many => pure (ResultShape.list t.rowType)
    | .exec =>
      throw (.unimplemented s!"exec query selecting from '{t.name}'; use one or many")
  let targets ← if s.selectsAll then pure t.rowFields else s.columns.mapM t.rowField
  return ⟨shape, targets⟩

/-- An INSERT gives nothing unless it has a RETURNING list. -/
def Insert.decoding (i : Insert) (kind : QueryKind) (t : Table) : Except CompileError Decoding := do
  let _ ← i.columns.mapM t.rowField
  if i.returning.isEmpty then return ⟨.none, []⟩
  else
    let shape := match kind with
      | .one | .exec => ResultShape.single t.rowType
      | .many => ResultShape.list t.rowType
    let targets ← if i.returnsAll then pure t.rowFields else i.returning.mapM t.rowField
    return ⟨shape, targets⟩

namespace Statement

def decoding (s : Statement) (kind : QueryKind) (t : Table) : Except CompileError Decoding :=
  match s with
  | select s => s.decoding kind t
  | insert i => i.decoding kind t

/-- Whether parameters for columns that may be null are pointers. -/
def takesPointers : Statement → Bool
  | select _ => false
  | insert _ => true

end Statement

namespace Method

def err : GoExpr := .ident "err"

def result : GoExpr := .ident "result"

/-- A call of a method of a variable. -/
def callOn (owner name : String) (arguments : List GoExpr) : GoExpr :=
  .call (.selector (.ident owner) name) arguments

/-- A call of a method of the database handle. -/
def callDatabase (name : String) (arguments : List GoExpr) : GoExpr :=
  .call (.selector (.selector (.ident "q") "db") name) arguments

/-- The addresses of fields of a variable. -/
def scanTargets (owner : String) (fields : List String) : List GoExpr :=
  fields.map fun field => .address (.selector (.ident owner) field)

def singleBody (row : GoType) (arguments : List GoExpr) (targets : List String) : List GoStmt :=
  [.declare "result" row,
    .define ["row"] (callDatabase "QueryRow" arguments),
    .returnOnError (some (.define ["err"] (callOn "row" "Scan" (scanTargets "result" targets))))
      [result, err],
    .giveBack [result, .nil]]

def listBody (row : GoType) (arguments : List GoExpr) (targets : List String) : List GoStmt :=
  [.declare "result" (.slice row),
    .define ["rows", "err"] (callDatabase "Query" arguments),
    .returnOnError none [.nil, err],
    .defer (callOn "rows" "Close" []),
    .loop (callOn "rows" "Next" [])
      [.declare "item" row,
        .returnOnError (some (.define ["err"] (callOn "rows" "Scan" (scanTargets "item" targets))))
          [.nil, err],
        .assign ["result"] (.call (.ident "append") [result, .ident "item"])],
    .returnOnError (some (.define ["err"] (callOn "rows" "Err" []))) [.nil, err],
    .giveBack [result, .nil]]

/-- What the database call gets: the context, the query text and the parameters in order. -/
def arguments (params? : Option GoStruct) : List GoExpr :=
  let fields := match params? with
    | some record => record.fields
    | none => []
  [.ident "ctx", .ident "query"] ++ fields.map fun f => .selector (.ident "params") f.name

def body (sql : String) (d : Decoding) (arguments : List GoExpr) : List GoStmt :=
  .define ["query"] (.str sql) ::
    match d.shape with
    | .single row => singleBody row arguments d.targets
    | .list row => listBody row arguments d.targets
    | .none => [.giveBack [callDatabase "Exec" arguments]]

/-- The method of `*Queries` that runs `sql`. -/
def function (name sql : String) (d : Decoding) (params? : Option GoStruct) : GoFunc :=
  let params := match params? with
    | some record => [GoParam.mk "params" (.named record.name)]
    | none => []
  { receiver? := some ⟨"q", .pointer (.named "Queries")⟩
    name := name
    params := ⟨"ctx", .context⟩ :: params
    results := d.shape.types
    body := body sql d (arguments params?) }

end Method

/-- The method for a statement on the tables of a registry. -/
def generate (r : Registry) (name : String) (kind : QueryKind) (s : Statement) :
    Except CompileError GeneratedQuery := do
  let table ← r.table s.table
  let columns ← r.resolveTable table
  let dense := s.withDensePositions
  let decoding ← dense.decoding kind table
  let params ← Params.struct? name
    (Params.bindType r table columns dense.takesPointers) dense.binds
  return ⟨name, decoding.shape, params, Method.function name dense.render decoding params⟩

theorem Statement.takesPointers_withDensePositions (s : Statement) :
    s.withDensePositions.takesPointers = s.takesPointers := by
  cases s <;> rfl

/-- What a query is generated from: the table with its resolved columns, what the rows are decoded
into, and the columns bound at the positions. -/
structure Generated (r : Registry) (name : String) (kind : QueryKind) (s : Statement)
    (q : GeneratedQuery) (t : Table) (columns : List ResolvedColumn) (d : Decoding)
    (entries : List (Nat × Params.TypedColumn)) : Prop where
  table : r.table s.table = .ok t
  resolved : r.resolveTable t = .ok columns
  decoded : s.withDensePositions.decoding kind t = .ok d
  bound : Params.byPosition (Params.bindType r t columns s.takesPointers)
    s.withDensePositions.binds = .ok entries
  params : q.params? =
    if entries = [] then none else some ⟨name ++ "Params", Params.fields [] entries⟩
  query : q = ⟨name, d.shape, q.params?,
    Method.function name s.withDensePositions.render d q.params?⟩

theorem exists_generated {r : Registry} {name : String} {kind : QueryKind} {s : Statement}
    {q : GeneratedQuery} (h : generate r name kind s = .ok q) :
    ∃ t columns d entries, Generated r name kind s q t columns d entries := by
  obtain ⟨t, ht, h⟩ := bind_eq_ok.1 h
  obtain ⟨columns, hcolumns, h⟩ := bind_eq_ok.1 h
  obtain ⟨d, hd, h⟩ := bind_eq_ok.1 h
  obtain ⟨params?, hparams, h⟩ := bind_eq_ok.1 h
  obtain ⟨entries, hentries, hparams⟩ := bind_eq_ok.1 hparams
  rw [Statement.takesPointers_withDensePositions] at hentries
  cases h
  refine ⟨t, columns, d, entries, ht, hcolumns, hd, hentries, ?_, rfl⟩
  cases entries with
  | nil =>
    cases hparams
    rfl
  | cons entry entries =>
    cases hparams
    rfl

namespace Generated

variable {r : Registry} {name : String} {kind : QueryKind} {s : Statement} {q : GeneratedQuery}
  {t : Table} {columns : List ResolvedColumn} {d : Decoding}
  {entries : List (Nat × Params.TypedColumn)}

theorem name_eq (h : Generated r name kind s q t columns d entries) : q.name = name :=
  congrArg GeneratedQuery.name h.query

theorem shape_eq (h : Generated r name kind s q t columns d entries) : q.shape = d.shape :=
  congrArg GeneratedQuery.shape h.query

theorem function_eq (h : Generated r name kind s q t columns d entries) :
    q.function = Method.function name s.withDensePositions.render d q.params? :=
  congrArg GeneratedQuery.function h.query

theorem params_of_ne_nil (h : Generated r name kind s q t columns d entries) (hne : entries ≠ []) :
    q.params? = some ⟨name ++ "Params", Params.fields [] entries⟩ := by
  rw [h.params, if_neg hne]

theorem record_eq {record : GoStruct} (h : Generated r name kind s q t columns d entries)
    (hrecord : q.params? = some record) :
    record = ⟨name ++ "Params", Params.fields [] entries⟩ := by
  rw [h.params] at hrecord
  split at hrecord
  · cases hrecord
  · exact (Option.some.inj hrecord).symm

end Generated

end TypedQueries
