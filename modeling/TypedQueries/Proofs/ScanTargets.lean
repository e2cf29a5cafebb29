import TypedQueries.Proofs.BoundArguments
import TypedQueries.Proofs.CaseForms
import TypedQueries.Query.Parser

/-!
What a generated method decodes, against what its query gives. The method scans a row once, into
fields of its row type. These are the fields of the query's result columns if the query asks for a
star alone or for names alone; a star among other items stands for too few of them.
-/

namespace TypedQueries

/-- A method of the name `Scan`, of whatever it is called on. -/
def GoExpr.isScan : GoExpr → Bool
  | selector _ name => name == "Scan"
  | _ => false

/-- What each call of a method `Scan` is given. -/
def GoFunc.scanArguments (f : GoFunc) : List (List GoExpr) :=
  ((GoStmt.callsOfBody f.body).filter fun call => call.1.isScan).map Prod.snd

/-- A method with a result scans once, into the fields that it was made for. -/
theorem Method.scanArguments_function (name sql : String) {d : Decoding} (params? : Option GoStruct)
    (h : d.shape ≠ .none) :
    ∃ owner, (function name sql d params?).scanArguments = [scanTargets owner d.targets] := by
  have hscan := callsOfList_scanTargets
  have harguments := callsOfList_arguments params?
  obtain ⟨shape, targets⟩ := d
  cases shape with
  | single row =>
    exact ⟨"result", by simp [GoFunc.scanArguments, function, body, singleBody, GoStmt.callsOfBody,
      GoStmt.calls, GoStmt.returnOnError, GoExpr.calls, GoExpr.callsOfList, callDatabase, callOn,
      hscan, harguments, GoExpr.isScan, err, result]⟩
  | list row =>
    exact ⟨"item", by simp [GoFunc.scanArguments, function, body, listBody, GoStmt.callsOfBody,
      GoStmt.calls, GoStmt.returnOnError, GoExpr.calls, GoExpr.callsOfList, callDatabase, callOn,
      hscan, harguments, GoExpr.isScan, err, result]⟩
  | none => exact absurd rfl h

/-- What a statement asks for, a star or a column at a time. -/
def Statement.resultItems : Statement → List String
  | select s => if s.columns.isEmpty then ["*"] else s.columns
  | insert i => i.returning

/-- The text `sql` asks for `items`: they stand between SELECT and FROM, or behind RETURNING. -/
inductive AsksFor (items : List String) : String → Prop
  | select (distinct : Bool) (more : String) : AsksFor items
      ("SELECT " ++ (if distinct then "DISTINCT " else "") ++ renderColumns items ++ " FROM " ++ more)
  | insert (front : String) :
      AsksFor items ("INSERT " ++ front ++ " RETURNING " ++ renderColumns items ++ ";")

theorem Statement.asksFor_render {s : Statement} (h : s.resultItems ≠ []) :
    AsksFor s.resultItems s.render := by
  cases s with
  | select s =>
    have hstar : renderColumns ["*"] = "*" := by decide +kernel
    have hcolumns : (if s.columns.isEmpty then "*" else renderColumns s.columns) =
        renderColumns (Statement.select s).resultItems := by
      rw [resultItems, apply_ite renderColumns, hstar]
    rw [render]
    unfold Select.render
    rw [hcolumns]
    simpa only [String.append_assoc] using
      AsksFor.select s.distinct (s.table ++ renderWhere s.conditions ++
        renderBound "LIMIT" s.limit? ++ renderBound "OFFSET" s.offset? ++ ";")
  | insert i =>
    rw [render]
    unfold Insert.render
    extract_lets conflict returning
    have hreturning : returning = " RETURNING " ++ renderColumns (Statement.insert i).resultItems :=
      if_neg (by simpa [resultItems] using h)
    rw [hreturning]
    simpa only [String.append_assoc] using
      AsksFor.insert (conflict ++ "INTO " ++ i.table ++ " (" ++ renderColumns i.columns ++
        ") VALUES " ++ ", ".intercalate ((tuplesOf i.columns.length i.values).map renderTuple))

namespace Table

/-- The row field of the column that a name stands for, if it stands for one. -/
def resultField? (t : Table) (name : String) : Option String :=
  (t.field? name).map fun f => Naming.exported f.name

theorem rowField_eq_ok_iff {t : Table} {column field : String} :
    t.rowField column = .ok field ↔ t.resultField? column = some field := by
  unfold rowField resultField?
  cases t.field? column <;> simp

/-- The row fields of the columns that a query gives for `items`, in order. A star is all columns, and
a name is the column that it stands for in the text of the query, where it is in lower case. -/
def resultFields (t : Table) (items : List String) : List (Option String) :=
  items.flatMap fun item =>
    if item = "*" then t.rowFields.map some else [t.resultField? (Text.lower item)]

section

variable {t : Table} {items : List String}

theorem resultFields_append (xs ys : List String) :
    t.resultFields (xs ++ ys) = t.resultFields xs ++ t.resultFields ys :=
  List.flatMap_append

theorem resultFields_star : t.resultFields ["*"] = t.rowFields.map some := by
  simp [resultFields]

/-- Names alone give one field each. -/
theorem resultFields_of_not_mem (h : "*" ∉ items) :
    t.resultFields items = items.map fun item => t.resultField? (Text.lower item) := by
  induction items with
  | nil => rfl
  | cons item items ih =>
    simp only [List.mem_cons, not_or] at h
    have hrest := ih h.2
    unfold resultFields at hrest ⊢
    rw [List.flatMap_cons, hrest, if_neg (Ne.symm h.1)]
    rfl

theorem resultFields_eq_nil_iff :
    t.resultFields items = [] ↔ ∀ item ∈ items, item = "*" ∧ t.fields = [] := by
  simp only [resultFields, List.flatMap_eq_nil_iff]
  refine forall₂_congr fun item _ => ?_
  split <;> simp_all [rowFields]

end

/-- One star, or names alone; in a table without columns, stars alone. -/
def Plain (t : Table) (items : List String) : Prop :=
  items = ["*"] ∨ "*" ∉ items ∨ t.fields = [] ∧ ∀ item ∈ items, item = "*"

section

variable {t : Table} {items : List String}

/-- A list with a star gives as many columns as the table has if and only if it is plain. -/
theorem length_rowFields_eq_iff (h : "*" ∈ items) :
    t.rowFields.length = (t.resultFields items).length ↔ t.Plain items := by
  obtain ⟨before, after, rfl⟩ := List.append_of_mem h
  have hlength : (t.resultFields (before ++ "*" :: after)).length =
      (t.resultFields before).length + (t.rowFields.length + (t.resultFields after).length) := by
    rw [← List.singleton_append, resultFields_append, resultFields_append, resultFields_star]
    simp
  have hnil : t.rowFields.length = (t.resultFields (before ++ "*" :: after)).length ↔
      t.resultFields before = [] ∧ t.resultFields after = [] := by
    rw [hlength, ← List.length_eq_zero_iff, ← List.length_eq_zero_iff]
    omega
  rw [hnil, resultFields_eq_nil_iff, resultFields_eq_nil_iff]
  constructor
  · rintro ⟨hbefore, hafter⟩
    by_cases hfields : t.fields = []
    · refine Or.inr (Or.inr ⟨hfields, fun item hitem => ?_⟩)
      rcases List.mem_append.1 hitem with hitem | hitem
      · exact (hbefore item hitem).1
      · rcases List.mem_cons.1 hitem with rfl | hitem
        · rfl
        · exact (hafter item hitem).1
    · have hnone {xs : List String} (hxs : ∀ item ∈ xs, item = "*" ∧ t.fields = []) : xs = [] :=
        List.eq_nil_iff_forall_not_mem.2 fun item hitem => hfields (hxs item hitem).2
      exact Or.inl (by rw [hnone hbefore, hnone hafter]; rfl)
  · rintro (hone | hnot | ⟨hfields, hstars⟩)
    · cases before with
      | nil =>
        cases hone
        simp
      | cons item before => simp at hone
    · exact absurd h hnot
    · exact ⟨fun item hitem => ⟨hstars item (by simp [hitem]), hfields⟩,
        fun item hitem => ⟨hstars item (by simp [hitem]), hfields⟩⟩

theorem rowFields_eq_iff (h : "*" ∈ items) :
    t.rowFields.map some = t.resultFields items ↔ t.Plain items := by
  constructor
  · intro heq
    rw [← length_rowFields_eq_iff h, ← heq, List.length_map]
  · rintro (rfl | hnot | ⟨hfields, hstars⟩)
    · exact resultFields_star.symm
    · exact absurd h hnot
    · have hnil : t.resultFields items = [] :=
        resultFields_eq_nil_iff.2 fun item hitem => ⟨hstars item hitem, hfields⟩
      rw [hnil, rowFields, hfields]
      rfl

theorem map_some_of_mapM_rowField {targets : List String} (h : items.mapM t.rowField = .ok targets) :
    targets.map some = items.map t.resultField? := by
  induction items generalizing targets with
  | nil =>
    cases h
    rfl
  | cons item items ih =>
    obtain ⟨field, fields, hfield, hfields, rfl⟩ := mapM_cons_eq_ok.1 h
    rw [List.map_cons, List.map_cons, ih hfields, rowField_eq_ok_iff.1 hfield]

end

end Table

/-- A SELECT scans all fields if a star is asked for, else the field of each name. -/
theorem Select.targets_of_decoding {s : Select} {kind : QueryKind} {t : Table} {d : Decoding}
    (h : s.decoding kind t = .ok d) :
    s.selectsAll = true ∧ d.targets = t.rowFields ∨
      s.selectsAll = false ∧ s.columns.mapM t.rowField = .ok d.targets := by
  unfold decoding at h
  cases hall : s.selectsAll with
  | true =>
    simp only [hall, ↓reduceIte] at h
    cases kind <;> cases h <;> exact Or.inl ⟨rfl, rfl⟩
  | false =>
    simp only [hall, Bool.false_eq_true, ↓reduceIte] at h
    cases kind with
    | exec => cases h
    | _ =>
      obtain ⟨shape, -, h⟩ := bind_eq_ok.1 h
      obtain ⟨targets, htargets, h⟩ := bind_eq_ok.1 h
      cases h
      exact Or.inr ⟨rfl, htargets⟩

theorem Insert.targets_of_decoding {i : Insert} {kind : QueryKind} {t : Table} {d : Decoding}
    (h : i.decoding kind t = .ok d) (hshape : d.shape ≠ .none) :
    i.returning ≠ [] ∧ (i.returnsAll = true ∧ d.targets = t.rowFields ∨
      i.returnsAll = false ∧ i.returning.mapM t.rowField = .ok d.targets) := by
  obtain ⟨columns, -, h⟩ := bind_eq_ok.1 h
  split at h
  · cases h
    exact absurd rfl hshape
  · rename_i hreturning
    refine ⟨by simpa using hreturning, ?_⟩
    cases hall : i.returnsAll with
    | true =>
      simp only [hall, ↓reduceIte] at h
      cases h
      exact Or.inl ⟨rfl, rfl⟩
    | false =>
      simp only [hall, Bool.false_eq_true, ↓reduceIte] at h
      obtain ⟨targets, htargets, h⟩ := bind_eq_ok.1 h
      cases h
      exact Or.inr ⟨rfl, htargets⟩

theorem Statement.mem_resultItems_select (s : Select) :
    "*" ∈ (Statement.select s).resultItems ↔ s.selectsAll = true := by
  rw [resultItems, Select.selectsAll]
  cases s.columns <;> simp

theorem Statement.targets_of_decoding {s : Statement} {kind : QueryKind} {t : Table} {d : Decoding}
    (h : s.decoding kind t = .ok d) (hshape : d.shape ≠ .none) :
    s.resultItems ≠ [] ∧ ("*" ∈ s.resultItems ∧ d.targets = t.rowFields ∨
      "*" ∉ s.resultItems ∧ s.resultItems.mapM t.rowField = .ok d.targets) := by
  cases s with
  | select s =>
    have hne : (Statement.select s).resultItems ≠ [] := by
      rw [resultItems]
      cases s.columns <;> simp
    rw [mem_resultItems_select]
    refine ⟨hne, (Select.targets_of_decoding h).imp_right fun ⟨hall, htargets⟩ => ?_⟩
    have hcolumns : (Statement.select s).resultItems = s.columns := by
      rw [Select.selectsAll, Bool.or_eq_false_iff] at hall
      rw [resultItems, hall.1]
      rfl
    exact ⟨by simp [hall], by rw [hcolumns, htargets]⟩
  | insert i =>
    obtain ⟨hne, htargets⟩ := Insert.targets_of_decoding h hshape
    have hall : "*" ∈ i.returning ↔ i.returnsAll = true := by simp [Insert.returnsAll]
    rw [resultItems, hall]
    exact ⟨hne, by simpa using htargets⟩

theorem Statement.resultItems_withDensePositions (s : Statement) :
    s.withDensePositions.resultItems = s.resultItems := by
  cases s <;> rfl

/-- A method scans as many fields as its query gives columns if and only if the query asks for one
star or for names alone. Then it scans the fields of these columns if and only if each name stands
for the same field in lower case, as the text has it. -/
theorem generate_scans_iff {r : Registry} {name : String} {kind : QueryKind} {s : Statement}
    {q : GeneratedQuery} (h : generate r name kind s = .ok q) (hshape : q.shape ≠ .none) :
    ∃ t sql owner targets, r.table s.table = .ok t ∧ q.function.queryValues = [.str sql] ∧
      AsksFor s.resultItems sql ∧
      q.function.scanArguments = [Method.scanTargets owner targets] ∧
      (targets.length = (t.resultFields s.resultItems).length ↔ t.Plain s.resultItems) ∧
      (targets.map some = t.resultFields s.resultItems ↔ t.Plain s.resultItems ∧
        ("*" ∉ s.resultItems →
          ∀ column ∈ s.resultItems, t.resultField? (Text.lower column) = t.resultField? column)) := by
  obtain ⟨t, columns, d, entries, hq⟩ := exists_generated h
  rw [hq.shape_eq] at hshape
  obtain ⟨hne, htargets⟩ := Statement.targets_of_decoding hq.decoded hshape
  have hasks := Statement.asksFor_render hne
  obtain ⟨owner, hscan⟩ := Method.scanArguments_function name s.withDensePositions.render q.params?
    hshape
  rw [Statement.resultItems_withDensePositions] at htargets hasks
  rw [hq.function_eq]
  refine ⟨t, _, owner, d.targets, hq.table, Method.queryValues_function .., hasks, hscan, ?_⟩
  rcases htargets with ⟨hstar, htargets⟩ | ⟨hstar, htargets⟩
  · rw [htargets, Table.length_rowFields_eq_iff hstar, Table.rowFields_eq_iff hstar]
    simp [hstar]
  · have hplain : t.Plain s.resultItems := Or.inr (Or.inl hstar)
    have hmap := Table.map_some_of_mapM_rowField htargets
    have hlength : d.targets.length = s.resultItems.length := by
      simpa using congrArg List.length hmap
    rw [hmap, Table.resultFields_of_not_mem hstar, List.length_map, List.map_inj_left]
    simp [hplain, hstar, hlength, eq_comm]

/-- A seven-bit name stands for the same column in lower case. -/
theorem Table.resultField?_lower (t : Table) {column : String}
    (h : ∀ c ∈ column.toList, Text.isAscii c = true) :
    t.resultField? (Text.lower column) = t.resultField? column := by
  have htwice (c : Char) : c.toLower.toLower = c.toLower :=
    Text.apply_toLower (f := Char.toLower) (by decide +kernel) c
  have hlower : (Text.lower column).toList.map Char.toLower = column.toList.map Char.toLower := by
    rw [Text.lower, String.toList_ofList, Text.lowerFrom_of_isAscii [] h, List.map_map]
    exact List.map_congr_left fun c _ => htwice c
  simp only [resultField?, field?, Text.equalIgnoringCase, hlower]

/-- Two columns by name, not in the order of the table. -/
def titledTasks : Select := ⟨false, ["TITLE", "ID"], "tasks", [], none, none⟩

theorem generate_scans_titledTasks :
    ∃ q, generate taskRegistry "TitledTasks" .many (.select titledTasks) = .ok q ∧
      q.shape ≠ .none ∧ ∃ t owner targets, taskRegistry.table "tasks" = .ok t ∧
        q.function.scanArguments = [Method.scanTargets owner targets] ∧
        targets.map some = t.resultFields ["TITLE", "ID"] := by
  have hshape : (generate taskRegistry "TitledTasks" .many (.select titledTasks)).toOption.map
      (fun q => q.shape) = some (.list (.named "Tasks")) := by decide +kernel
  cases h : generate taskRegistry "TitledTasks" .many (.select titledTasks) with
  | error e => simp [h, Except.toOption] at hshape
  | ok q =>
    simp only [h, Except.toOption, Option.map_some, Option.some.injEq] at hshape
    obtain ⟨t, sql, owner, targets, ht, -, -, hscan, -, htargets⟩ :=
      generate_scans_iff h (by simp [hshape])
    refine ⟨q, rfl, by simp [hshape], t, owner, targets, ht, hscan, htargets.2 ⟨?_, ?_⟩⟩
    · exact Or.inr (Or.inl (by decide))
    · intro _ column hcolumn
      have hascii : ["TITLE", "ID"].all (fun column => column.toList.all Text.isAscii) = true := by
        decide +kernel
      simp only [List.all_eq_true] at hascii
      exact t.resultField?_lower (hascii column hcolumn)

/-- A star and a column. -/
def starAndId : Select := ⟨false, ["*", "ID"], "tasks", [], none, none⟩

/-- A row of four columns is scanned into three fields. -/
theorem generate_scans_fewer :
    parseQuery "SELECT *, id FROM tasks" = .ok (.select starAndId) ∧
      ∃ t q, taskRegistry.table "tasks" = .ok t ∧
        generate taskRegistry "StarAndId" .one (.select starAndId) = .ok q ∧ q.shape ≠ .none ∧
        q.function.queryValues.map GoExpr.render = ["\"SELECT *, id FROM tasks;\""] ∧
        q.function.scanArguments.map List.length = [3] ∧
        (t.resultFields ["*", "ID"]).length = 4 := by
  have hgenerated : (generate taskRegistry "StarAndId" .one (.select starAndId)).toOption.map
      (fun q => (q.shape, q.function.queryValues.map GoExpr.render,
        q.function.scanArguments.map List.length)) =
      some (.single (.named "Tasks"), ["\"SELECT *, id FROM tasks;\""], [3]) := by
    decide +kernel
  have htable : (taskRegistry.table "tasks").toOption.map
      (fun t => (t.resultFields ["*", "ID"]).length) = some 4 := by
    decide +kernel
  refine ⟨by decide +kernel, ?_⟩
  cases ht : taskRegistry.table "tasks" with
  | error e => simp [ht, Except.toOption] at htable
  | ok t =>
    cases hq : generate taskRegistry "StarAndId" .one (.select starAndId) with
    | error e => simp [hq, Except.toOption] at hgenerated
    | ok q =>
      simp only [ht, hq, Except.toOption, Option.map_some, Option.some.injEq, Prod.mk.injEq]
        at htable hgenerated
      obtain ⟨hshape, htext, hscan⟩ := hgenerated
      exact ⟨t, q, rfl, rfl, by simp [hshape], htext, hscan, htable⟩

end TypedQueries
