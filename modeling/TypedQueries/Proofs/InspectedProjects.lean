import TypedQueries.Project.Inspect
import TypedQueries.Proofs.AddedQueries
import TypedQueries.Proofs.DeclarationOrder
import TypedQueries.Proofs.SchemaGrammar

/-!
Inspection of projects that compile. A block that compiles is inspected with the statement that its
query is generated from, so the inspected queries are the compiled ones, in order. A schema that was
read once is read at any other time, with the same names.
-/

namespace TypedQueries

theorem exists_parseSchema_later {now : Clock} (later : Clock) {source : String}
    {items : List SchemaItem} (h : parseSchema now source = .ok items) :
    ∃ items', parseSchema later source = .ok items' ∧
      items'.map SchemaItem.name = items.map SchemaItem.name := by
  have hschema : IsSchema now (sourceTokens source) items :=
    Schema.isSchema_of_takeItems (fun t ht => kind_ne_endOfInput_of_mem ht) h
  obtain ⟨items', hitems, hnames⟩ := hschema.exists_later later
  exact ⟨items', Schema.takeItems_of_isSchema hitems source.utf8ByteSize, hnames⟩

/-- The blocks of a query file. -/
def Disk.fileBlocks (d : Disk) (path : Path) : Except ProjectError (List QueryBlock) :=
  (d.readFile path).map (QueryBlock.ofText path.text)

namespace Compilation

/-- The result of adding a query file, without what is reported. -/
theorem result_addQueryFile (c : Compilation) (d : Disk) (path : Path) :
    (c.addQueryFile d path).result = d.fileBlocks path >>= fun blocks =>
      match c.addBlocks blocks with
      | (_, some e) => .error (.compile e)
      | (after, none) => .ok after := by
  simp only [addQueryFile, Logged.result_bind, Logged.result_of, Logged.result_report,
    Disk.fileBlocks]
  cases d.readFile path with
  | error e => rfl
  | ok text =>
    dsimp only [Except.map, bind, Except.bind]
    rcases c.addBlocks (QueryBlock.ofText path.text text) with ⟨after, - | e⟩ <;> rfl

theorem addQueryFile_eq_ok_iff {c after : Compilation} {d : Disk} {path : Path} :
    (c.addQueryFile d path).result = .ok after ↔
      ∃ blocks, d.fileBlocks path = .ok blocks ∧ c.addBlocks blocks = (after, none) := by
  rw [result_addQueryFile, bind_eq_ok]
  refine exists_congr fun blocks => and_congr_right fun _ => ?_
  rcases c.addBlocks blocks with ⟨_, - | e⟩ <;> simp

/-- Query files that are all added give the queries of all their blocks. -/
theorem Holds.exists_of_addQueryFiles {r : Registry} {blocks : List QueryBlock}
    {c after : Compilation} {d : Disk} {paths : List Path} (hc : c.Holds r blocks)
    (h : (c.addQueryFiles d paths).result = .ok after) :
    ∃ parts, paths.mapM d.fileBlocks = .ok parts ∧ after.Holds r (blocks ++ parts.flatten) := by
  induction paths generalizing c blocks with
  | nil =>
    cases h
    exact ⟨[], rfl, by simpa using hc⟩
  | cons path paths ih =>
    rw [addQueryFiles, Logged.result_bind] at h
    obtain ⟨middle, hfile, h⟩ := bind_eq_ok.1 h
    obtain ⟨bs, hbs, hadded⟩ := addQueryFile_eq_ok_iff.1 hfile
    -- no block fails, so all blocks of the file are held
    have hmiddle := hc.addBlocks bs
    rw [leading_of_addBlocks_ok (by rw [hadded]), hadded] at hmiddle
    obtain ⟨parts, hparts, hafter⟩ := ih hmiddle h
    exact ⟨bs :: parts, mapM_cons_eq_ok.2 ⟨bs, parts, hbs, hparts, rfl⟩, by simpa using hafter⟩

end Compilation

/-- An inspected query shows the statement that a query was generated from, with its name. -/
structure InspectedQuery.Gives (r : Registry) (i : InspectedQuery) (q : GeneratedQuery) : Prop where
  name : q.name = i.block.name
  statement : parseQuery i.block.sql = .ok i.statement
  generate : ∃ kind, QueryKind.ofText i.block.kind = .ok kind ∧
    generate r i.block.name kind i.statement = .ok q

theorem InspectedQuery.map_name_of_gives {r : Registry} {is : List InspectedQuery}
    {qs : List GeneratedQuery} (h : List.Forall₂ (Gives r) is qs) :
    is.map (fun i => i.block.name) = qs.map GeneratedQuery.name := by
  induction h with
  | nil => rfl
  | cons hq _ ih => rw [List.map_cons, List.map_cons, ih, hq.name]

namespace QueryBlock

theorem exists_inspect_of_compile {r : Registry} {b : QueryBlock} {q : GeneratedQuery}
    (h : b.compile r = .ok q) : ∃ i, b.inspect = .ok i ∧ i.Gives r q := by
  have hname := name_of_compile h
  obtain ⟨kind, hkind, h⟩ := bind_eq_ok.1 h
  obtain ⟨s, hs, h⟩ := bind_eq_ok.1 h
  rw [mapError_eq_ok] at hs
  exact ⟨⟨b, s⟩, by rw [inspect, hs], hname, hs, kind, hkind, h⟩

/-- Blocks that compile are inspected in the order of their queries. -/
theorem exists_mapM_inspect {r : Registry} {bs : List QueryBlock} {qs : List GeneratedQuery}
    (h : List.Forall₂ (fun b q => b.compile r = .ok q) bs qs) :
    ∃ is, bs.mapM inspect = .ok is ∧ List.Forall₂ (InspectedQuery.Gives r) is qs := by
  induction h with
  | nil => exact ⟨[], rfl, .nil⟩
  | cons hq _ ih =>
    obtain ⟨i, hi, hgives⟩ := exists_inspect_of_compile hq
    obtain ⟨is, his, hrest⟩ := ih
    exact ⟨i :: is, mapM_cons_eq_ok.2 ⟨i, is, hi, his, rfl⟩, .cons hgives hrest⟩

end QueryBlock

/-- The files are inspected one by one, as all their blocks are. -/
theorem Disk.exists_mapM_inspectFile {d : Disk} {paths : List Path} {parts : List (List QueryBlock)}
    {is : List InspectedQuery} (hparts : paths.mapM d.fileBlocks = .ok parts)
    (h : parts.flatten.mapM QueryBlock.inspect = .ok is) :
    ∃ lists, paths.mapM d.inspectFile = .ok lists ∧ lists.flatten = is := by
  induction paths generalizing parts is with
  | nil =>
    cases hparts
    cases h
    exact ⟨[], rfl, rfl⟩
  | cons path paths ih =>
    obtain ⟨bs, parts, hbs, hrest, rfl⟩ := mapM_cons_eq_ok.1 hparts
    obtain ⟨text, htext, rfl⟩ := map_eq_ok.1 hbs
    rw [List.flatten_cons, List.mapM_append] at h
    obtain ⟨first, hfirst, h⟩ := bind_eq_ok.1 h
    obtain ⟨others, hothers, h⟩ := bind_eq_ok.1 h
    cases h
    obtain ⟨lists, hlists, rfl⟩ := ih hrest hothers
    have hfile : d.inspectFile path = .ok first := bind_eq_ok.2 ⟨text, htext, hfirst⟩
    exact ⟨first :: lists, mapM_cons_eq_ok.2 ⟨first, lists, hfile, hlists, rfl⟩, rfl⟩

namespace Config

variable {c : Config} {now : Clock} {d : Disk}

theorem compile_of_check (h : (c.check now d).result = .ok ()) :
    ∃ compilation, (c.compile now d).result = .ok compilation := by
  rw [check, Logged.result_bind] at h
  obtain ⟨compilation, hcompile, -⟩ := bind_eq_ok.1 h
  exact ⟨compilation, hcompile⟩

/-- A project that compiles has a schema and query files that can be read, and holds the queries of
all blocks in them. -/
theorem exists_of_compile {compilation : Compilation}
    (h : (c.compile now d).result = .ok compilation) :
    ∃ schema items files parts, d.readFile c.schema = .ok schema ∧
      parseSchema now schema = .ok items ∧ compilation.registry.items = items ∧
      queryFiles d c.queries = .ok files ∧ files.mapM d.fileBlocks = .ok parts ∧
      compilation.Holds compilation.registry parts.flatten := by
  simp only [compile, loadSchema, Logged.result_bind, Logged.result_of, Logged.result_report] at h
  obtain ⟨schema, hschema, h⟩ := bind_eq_ok.1 h
  obtain ⟨start, hstart, h⟩ := bind_eq_ok.1 h
  obtain ⟨-, -, h⟩ := bind_eq_ok.1 h
  obtain ⟨files, hfiles, h⟩ := bind_eq_ok.1 h
  obtain ⟨last, hlast, h⟩ := bind_eq_ok.1 h
  cases h
  obtain ⟨items, hitems, hstart⟩ := bind_eq_ok.1 (mapError_eq_ok.1 hstart)
  obtain ⟨r, hr, rfl⟩ := map_eq_ok.1 hstart
  have hregistry := (Registry.indexed_of_ofItems (Registry.checked_eq_ok_iff.1 hr).1).2
  obtain ⟨parts, hparts, hholds⟩ := (Compilation.holds_ofRegistry r).exists_of_addQueryFiles hlast
  obtain rfl := hholds.registry
  exact ⟨schema, items, files, parts, hschema, mapError_eq_ok.1 hitems, hregistry, hfiles, hparts,
    hholds⟩

/-- If a project passes its check, its schema is shown at any time, with the names that the registry
has, and its queries are shown one for one, each with the statement that it was generated from. -/
theorem inspect_of_check (h : (c.check now d).result = .ok ()) :
    ∃ compilation inspected, (c.compile now d).result = .ok compilation ∧
      c.inspectSchema now d = .ok compilation.registry.items ∧
      (∀ later, ∃ items, c.inspectSchema later d = .ok items ∧
        items.map SchemaItem.name = compilation.registry.items.map SchemaItem.name) ∧
      c.inspectQueries d = .ok inspected ∧
      inspected.map (fun i => i.block.name) = compilation.queries.map GeneratedQuery.name ∧
      List.Forall₂ (InspectedQuery.Gives compilation.registry) inspected compilation.queries := by
  obtain ⟨compilation, hcompile⟩ := compile_of_check h
  obtain ⟨schema, items, files, parts, hschema, hitems, rfl, hfiles, hparts, hholds⟩ :=
    exists_of_compile hcompile
  obtain ⟨inspected, hinspected, hgives⟩ := QueryBlock.exists_mapM_inspect hholds.queries
  obtain ⟨lists, hlists, rfl⟩ := Disk.exists_mapM_inspectFile hparts hinspected
  refine ⟨compilation, _, hcompile, ?_, fun later => ?_, ?_,
    InspectedQuery.map_name_of_gives hgives, hgives⟩
  · exact bind_eq_ok.2 ⟨schema, hschema, mapError_eq_ok.2 hitems⟩
  · obtain ⟨items, hlater, hnames⟩ := exists_parseSchema_later later hitems
    exact ⟨items, bind_eq_ok.2 ⟨schema, hschema, mapError_eq_ok.2 hlater⟩, hnames⟩
  · exact bind_eq_ok.2 ⟨files, hfiles, map_eq_ok.2 ⟨lists, hlists, rfl⟩⟩

/-- A project whose schema has a default that depends on the time, with two queries in one file. -/
def taskDisk : Disk where
  tree := [("schema.sql", .file (.text "CREATE TABLE tasks (id INT, due DATE DEFAULT now());")),
      ("queries.sql", Entry.file (.text ("-- name: GetTask :one\n" ++
        "SELECT * FROM tasks WHERE id = $1;\n-- name: ListTasks :many\n" ++
        "SELECT * FROM tasks;\n")))].foldl (fun t file => t.set [file.1] file.2) FileTree.empty
  workingDirectory := []

def taskProject : Config := ⟨⟨"schema.sql"⟩, ⟨"queries.sql"⟩, .sqlite3, ⟨"queries.go"⟩, "db"⟩

theorem inspect_of_check_taskProject :
    (taskProject.check (⟨2024, 3, 9, 14, 5, 0⟩ : Moment) taskDisk).result = .ok () ∧
      ∃ compilation inspected items,
        (taskProject.compile (⟨2024, 3, 9, 14, 5, 0⟩ : Moment) taskDisk).result = .ok compilation ∧
        taskProject.inspectSchema (⟨2025, 1, 1, 0, 0, 0⟩ : Moment) taskDisk = .ok items ∧
        items.map SchemaItem.name = compilation.registry.items.map SchemaItem.name ∧
        taskProject.inspectQueries taskDisk = .ok inspected ∧
        inspected.map (fun i => i.block.name) = ["GetTask", "ListTasks"] ∧
        List.Forall₂ (InspectedQuery.Gives compilation.registry) inspected
          compilation.queries := by
  have hcheck : (taskProject.check (⟨2024, 3, 9, 14, 5, 0⟩ : Moment) taskDisk).result = .ok () := by
    decide +kernel
  have hnames : (taskProject.inspectQueries taskDisk).toOption.map
      (List.map fun i => i.block.name) = some ["GetTask", "ListTasks"] := by decide +kernel
  obtain ⟨compilation, inspected, hcompile, -, hschema, hqueries, -, hgives⟩ :=
    inspect_of_check hcheck
  obtain ⟨items, hitems, hdeclared⟩ := hschema (⟨2025, 1, 1, 0, 0, 0⟩ : Moment)
  rw [hqueries] at hnames
  exact ⟨hcheck, compilation, inspected, items, hcompile, hitems, hdeclared, hqueries,
    Option.some.inj hnames, hgives⟩

end Config

end TypedQueries
