import TypedQueries.Proofs.AddedQueries
import TypedQueries.Proofs.DeclarationOrder

/-!
The types of all columns are looked up once, when a schema is accepted. Whatever is added to the
compilation afterwards, no later look-up of a type fails: not for a query, and not when the sources
are rendered.
-/

namespace TypedQueries

/-- The error is not that of an unknown type, whichever query it arose in. -/
def CompileError.IsTyped (e : CompileError) : Prop := ∀ name, e.root ≠ .unknownType name

namespace Registry

/-- The columns of every table have types that are known. -/
def Typed (r : Registry) : Prop := ∀ t ∈ r.tables, ∃ columns, r.resolveTable t = .ok columns

variable {r : Registry}

theorem typed_of_checked {items : List SchemaItem} (h : checked items = .ok r) :
    r.Indexed ∧ r.Typed := by
  obtain ⟨hitems, htyped⟩ := checked_eq_ok_iff.1 h
  exact ⟨(indexed_of_ofItems hitems).1, htyped⟩

theorem Indexed.mem_tables_of_get? (hr : r.Indexed) {name : String} {t : Table}
    (h : r.get? name = some (.table t)) : t ∈ r.tables :=
  mem_tables.2 (hr.get?_eq_some_iff.1 h).1

theorem Indexed.mem_tables_of_table (hr : r.Indexed) {name : String} {t : Table}
    (h : r.table name = .ok t) : t ∈ r.tables := by
  unfold table at h
  split at h
  · rename_i found
    cases h
    exact hr.mem_tables_of_get? found
  · cases h

/-- A name that cannot be resolved is not there at all. -/
theorem Typed.resolve_error (hr : r.Indexed) (ht : r.Typed) {name : String} {e : CompileError}
    (h : r.resolve name = .error e) : e = .unknownTable name := by
  unfold resolve at h
  split at h
  · rename_i t found
    obtain ⟨columns, hcolumns⟩ := ht t (hr.mem_tables_of_get? found)
    rw [hcolumns] at h
    cases h
  · cases h
  · cases h
    rfl

theorem Typed.exists_rowStruct (ht : r.Typed) {t : Table} (h : t ∈ r.tables) :
    ∃ row, r.rowStruct t = .ok row := by
  obtain ⟨columns, hcolumns⟩ := ht t h
  exact ⟨_, bind_eq_ok.2 ⟨columns, hcolumns, rfl⟩⟩

theorem Typed.exists_goDecls (ht : r.Typed) : ∃ decls, r.goDecls = .ok decls := by
  apply exists_mapM_eq_ok_iff.2
  intro item hitem
  cases item with
  | table t =>
    obtain ⟨row, hrow⟩ := ht.exists_rowStruct (mem_tables.2 hitem)
    exact ⟨.struct row, map_eq_ok.2 ⟨row, hrow, rfl⟩⟩
  | enumeration e => exact ⟨_, rfl⟩

end Registry

open CompileError (IsTyped)

theorem Table.rowField_failsOnly (t : Table) (column : String) :
    FailsOnly IsTyped (t.rowField column) := by
  unfold rowField
  split
  · exact .ok _
  · exact .error nofun

/-- Both kinds of statements end with the row fields of all columns or of the columns they name. -/
theorem Table.targets_failsOnly (t : Table) (all : Bool) (columns : List String)
    (shape : ResultShape) :
    FailsOnly IsTyped (if all = true then do
        let targets ← pure t.rowFields
        return Decoding.mk shape targets
      else do
        let targets ← columns.mapM t.rowField
        return Decoding.mk shape targets) := by
  split
  · exact .ok _
  · exact .bind (.mapM fun column _ => t.rowField_failsOnly column) fun targets _ => .ok _

theorem Select.decoding_failsOnly (s : Select) (kind : QueryKind) (t : Table) :
    FailsOnly IsTyped (s.decoding kind t) := by
  cases kind with
  | one => exact t.targets_failsOnly s.selectsAll s.columns _
  | many => exact t.targets_failsOnly s.selectsAll s.columns _
  | exec => exact .error nofun

theorem Insert.decoding_failsOnly (i : Insert) (kind : QueryKind) (t : Table) :
    FailsOnly IsTyped (i.decoding kind t) := by
  refine .bind (.mapM fun column _ => t.rowField_failsOnly column) fun _ _ => ?_
  split
  · exact .ok _
  · exact t.targets_failsOnly i.returnsAll i.returning _

theorem Statement.decoding_failsOnly (s : Statement) (kind : QueryKind) (t : Table) :
    FailsOnly IsTyped (s.decoding kind t) := by
  cases s with
  | select s => exact s.decoding_failsOnly kind t
  | insert i => exact i.decoding_failsOnly kind t

namespace Params

theorem bindType_failsOnly (r : Registry) (t : Table) (columns : List ResolvedColumn)
    (pointers : Bool) (name : String) : FailsOnly IsTyped (bindType r t columns pointers name) := by
  unfold bindType
  split
  · exact .ok _
  · split
    · split
      · exact .ok _
      · exact .error nofun
    · exact .error nofun

theorem struct?_failsOnly {typeOf : String → Except CompileError GoType}
    (h : ∀ name, FailsOnly IsTyped (typeOf name)) (query : String) (binds : List Bind) :
    FailsOnly IsTyped (struct? query typeOf binds) := by
  refine .bind (.foldlM (fun entries b _ => (h b.column).bind fun type _ => ?_) []) fun entries _ => ?_
  · split <;> exact .ok _
  · split <;> exact .ok _

end Params

section

variable {r : Registry}

theorem generate_failsOnly (hr : r.Indexed) (ht : r.Typed) (name : String) (kind : QueryKind)
    (s : Statement) : FailsOnly IsTyped (generate r name kind s) := by
  have htable : FailsOnly IsTyped (r.table s.table) := by
    unfold Registry.table
    split
    · exact .ok _
    · exact .error nofun
  refine htable.bind fun t hfound => ?_
  obtain ⟨columns, hcolumns⟩ := ht t (hr.mem_tables_of_table hfound)
  rw [hcolumns]
  refine .bind (.ok columns) fun columns _ => ?_
  refine (s.withDensePositions.decoding_failsOnly kind t).bind fun decoding _ => ?_
  exact .bind (Params.struct?_failsOnly (Params.bindType_failsOnly r t columns _) name _)
    fun _ _ => .ok _

theorem QueryBlock.compile_failsOnly (hr : r.Indexed) (ht : r.Typed) (b : QueryBlock) :
    FailsOnly IsTyped (b.compile r) := by
  have hkind : FailsOnly IsTyped (QueryKind.ofText b.kind) := by
    unfold QueryKind.ofText
    split <;> first | exact .ok _ | exact .error nofun
  have hstatement : FailsOnly IsTyped ((parseQuery b.sql).mapError .malformed) := by
    cases parseQuery b.sql with
    | error e => exact .error nofun
    | ok s => exact .ok s
  exact hkind.bind fun kind _ => hstatement.bind fun s _ => generate_failsOnly hr ht b.name kind s

end

namespace Compilation

section

variable {r : Registry} {c : Compilation} {blocks : List QueryBlock}

theorem Holds.addBlock_isTyped (h : c.Holds r blocks) (hr : r.Indexed) (ht : r.Typed)
    {b : QueryBlock} {e : CompileError} (he : (c.addBlock b).2 = some e) : e.IsTyped := by
  rcases addBlock_cases c b with ⟨_, -, heq⟩ | ⟨-, ⟨cause, hcause, heq⟩ | ⟨_, -, heq⟩⟩ <;>
    rw [heq] at he <;> cases he
  · exact nofun
  · rw [h.registry] at hcause
    exact b.compile_failsOnly hr ht cause hcause

/-- A call fails at a block, and what was added before this block has not changed the registry. -/
theorem Holds.add_isTyped (h : c.Holds r blocks) (hr : r.Indexed) (ht : r.Typed) {call : Addition}
    {e : CompileError} (he : (c.add call).2 = some e) : e.IsTyped := by
  rw [add_eq_addBlocks] at he
  obtain ⟨b, -, -, hfails⟩ := exists_of_addBlocks_error he
  exact (h.addBlocks call.blocks).addBlock_isTyped hr ht (congrArg Prod.snd hfails)

theorem exists_render (ht : c.registry.Typed) (package : String) (d : Driver) :
    ∃ sources, c.render package d = .ok sources := by
  obtain ⟨decls, hdecls⟩ := ht.exists_goDecls
  exact ⟨_, bind_eq_ok.2 ⟨_, map_eq_ok.2 ⟨_, bind_eq_ok.2 ⟨decls, hdecls, rfl⟩, rfl⟩, rfl⟩⟩

theorem exists_of_ofSchema {now : Clock} {schema : String} (h : ofSchema now schema = .ok c) :
    ∃ r, c = ofRegistry r ∧ r.Indexed ∧ r.Typed := by
  obtain ⟨items, -, h⟩ := bind_eq_ok.1 h
  obtain ⟨r, hr, heq⟩ := map_eq_ok.1 h
  exact ⟨r, heq.symm, Registry.typed_of_checked hr⟩

end

/-- Nowhere in a compilation does the look-up of a type fail. -/
structure KnowsTypes (c : Compilation) : Prop where
  /-- A call that adds queries fails for another reason, if it fails. -/
  add_error : ∀ call e, (c.add call).2 = some e → ∀ name, e.root ≠ .unknownType name
  render_ok : ∀ package d, ∃ sources, c.render package d = .ok sources
  /-- The table that a query names has its columns, -/
  resolveTable_ok : ∀ name t, c.registry.table name = .ok t →
    ∃ columns, c.registry.resolveTable t = .ok columns
  /-- and only a name that stands for nothing cannot be resolved. -/
  resolve_error : ∀ name e, c.registry.resolve name = .error e → e = .unknownTable name
  rowStruct_ok : ∀ t ∈ c.registry.tables, ∃ row, c.registry.rowStruct t = .ok row
  goDecls_ok : ∃ decls, c.registry.goDecls = .ok decls

/-- After a schema is accepted no type is unknown, whatever is added and whether or not this
succeeds. -/
theorem knowsTypes_addEach {now : Clock} {schema : String} {c : Compilation}
    (h : ofSchema now schema = .ok c) (calls : List Addition) : (c.addEach calls).KnowsTypes := by
  obtain ⟨r, rfl, hr, ht⟩ := exists_of_ofSchema h
  have hholds := (holds_ofRegistry r).addEach calls
  generalize (ofRegistry r).addEach calls = c at hholds ⊢
  obtain rfl := hholds.registry
  exact {
    add_error := fun call e he => hholds.add_isTyped hr ht he
    render_ok := exists_render ht
    resolveTable_ok := fun name t hfound => ht t (hr.mem_tables_of_table hfound)
    resolve_error := fun name e he => ht.resolve_error hr he
    rowStruct_ok := fun t htable => ht.exists_rowStruct htable
    goDecls_ok := ht.exists_goDecls }

/-- A column has the type of an enumeration that is declared behind it, in other letters. -/
def moodSchema : String :=
  "CREATE TABLE notes (id INT, mood \"Mood\"); CREATE TYPE mood AS ENUM ('good', 'bad');"

theorem knowsTypes_moodSchema :
    ∃ c, ofSchema (⟨2024, 3, 9, 14, 5, 0⟩ : Moment) moodSchema = .ok c ∧
      (c.addEach [.block ⟨"Missing", "one", "SELECT * FROM moods", "a.sql"⟩,
        .file "b.sql" "-- name: Notes :many\nSELECT * FROM notes WHERE mood = $1;"]).KnowsTypes := by
  have hok : (ofSchema (⟨2024, 3, 9, 14, 5, 0⟩ : Moment) moodSchema).isOk = true := by decide +kernel
  cases h : ofSchema (⟨2024, 3, 9, 14, 5, 0⟩ : Moment) moodSchema with
  | error e =>
    rw [h] at hok
    cases hok
  | ok c => exact ⟨c, rfl, knowsTypes_addEach h _⟩

end Compilation

end TypedQueries
