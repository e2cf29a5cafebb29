import TypedQueries.Proofs.KnownTypes
import TypedQueries.Proofs.ParamFields
import TypedQueries.Proofs.Qualifiers

/-!
The imports of the queries file, against the types that stand in its declarations. Types of columns
may need the package `time`; a method needs `context` for its first parameter, and nothing else, not
even for the variables in its body. So what is imported is what is needed.
-/

namespace TypedQueries

namespace GoType

/-- The type refers to no other package by its name. -/
def Unqualified (type : GoType) : Prop := ∀ package name, type.base ≠ qualified package name

theorem package?_eq_time_of_base {type : GoType} (h : type.base = time) :
    type.package? = some "time" := by
  rw [package?, h]

theorem Unqualified.package?_eq_some_iff {type : GoType} (h : type.Unqualified) {p : String} :
    type.package? = some p ↔ p = "time" ∧ type.base = time := by
  unfold package?
  split
  · rename_i htime
    simp [htime, eq_comm]
  · rename_i package name hbase
    exact absurd hbase (h package name)
  · rename_i htime _
    exact ⟨nofun, fun h => absurd h.2 htime⟩

theorem usesTime_iff (type : GoType) : type.usesTime = true ↔ type.package? = some "time" := by
  induction type with
  | pointer inner ih => exact ih
  | slice inner ih => exact ih
  | qualified package name => simp [usesTime, package?, base]
  | _ => simp [usesTime, package?, base]

end GoType

namespace GoStmt

mutual

/-- The names of the variables that a statement declares. -/
def bound : GoStmt → List String
  | define names _ => names
  | assign _ _ => []
  | declare name _ => [name]
  | branch none _ body => boundOfBody body
  | branch (some init) _ body => init.bound ++ boundOfBody body
  | loop _ body => boundOfBody body
  | defer _ => []
  | giveBack _ => []

def boundOfBody : List GoStmt → List String
  | [] => []
  | s :: ss => s.bound ++ boundOfBody ss

end

end GoStmt

/-- The names of the receiver, the parameters and the local variables. -/
def GoDecl.bound : GoDecl → List String
  | func f => (f.receiver?.toList ++ f.params).map GoParam.name ++ GoStmt.boundOfBody f.body
  | _ => []

/-- The printed code refers to a package: the name has a dot behind it and is no variable. -/
def GoDecl.Uses (d : GoDecl) (package : String) : Prop :=
  Qualifies package d.lexemes ∧ package ∉ d.bound

def GoFile.types (f : GoFile) : List GoType := f.decls.flatMap GoDecl.types

/-- The file imports what it uses, once each, and nothing else. -/
structure GoFile.ImportsUsed (f : GoFile) : Prop where
  /-- The type `time.Time` is used, as it is or under pointers and slices. -/
  time_iff : "time" ∈ f.imports ↔ ∃ type ∈ f.types, type.base = .time
  context_iff : "context" ∈ f.imports ↔ ∃ g, .func g ∈ f.decls
  only : ∀ p ∈ f.imports, p = "time" ∨ p = "context"
  /-- The packages are those that the types refer to. -/
  package_iff : ∀ p, p ∈ f.imports ↔ ∃ type ∈ f.types, type.package? = some p
  /-- They are those that the printed code refers to. -/
  uses_iff : ∀ p, p ∈ f.imports ↔ ∃ d ∈ f.decls, d.Uses p
  nodup : f.imports.Nodup

/-- The declaration of the imports, with a line for each package. -/
def importBlock : List String → String
  | [] => ""
  | packages =>
    "\nimport (\n" ++ String.join (packages.map fun p => "\t\"" ++ p ++ "\"\n") ++ ")\n"

/-- The text of a generated file: a comment line, the package clause, the imports, and the lexemes of
the declarations, in which no other types stand than those of the file. -/
structure GoFile.Prints (f : GoFile) (package text : String) : Prop where
  text_eq : text = "// Code generated by shogunc. DO NOT EDIT.\n\npackage " ++ package ++ "\n" ++
    importBlock f.imports ++
    String.join (f.decls.map fun d => "\n" ++ GoLexeme.spell d.lexemes ++ "\n")
  types_eq : GoPiece.types (f.decls.flatMap GoDecl.pieces) = f.types

/-- What is known of the types in a declaration of the queries file. -/
inductive GoDecl.Modest : GoDecl → Prop
  | struct {s : GoStruct} (h : ∀ f ∈ s.fields, f.type.Unqualified) : Modest (.struct s)
  | enum (e : GoEnum) : Modest (.enum e)
  | func {f : GoFunc} (hcontext : .context ∈ (GoDecl.func f).types)
      (h : ∀ type ∈ (GoDecl.func f).types, type = .context ∨ type.package? = none)
      (hmem : "context" ∈ (GoDecl.func f).qualifiers)
      (hqualifiers : ∀ p ∈ (GoDecl.func f).qualifiers, p = "context" ∨ p ∈ (GoDecl.func f).bound)
      (hbound : "context" ∉ (GoDecl.func f).bound) : Modest (.func f)

namespace GoDecl.Modest

variable {d : GoDecl}

theorem usesTime_iff (h : d.Modest) :
    d.usesTime = true ↔ ∃ type ∈ d.types, type.package? = some "time" := by
  cases h with
  | struct h => simp [usesTime, GoStruct.usesTime, types, GoType.usesTime_iff]
  | enum e => simp [usesTime, types, GoType.package?, GoType.base]
  | @func f _ h =>
    have hnone : ∀ type ∈ (GoDecl.func f).types, type.package? ≠ some "time" := by
      intro type htype
      rcases h type htype with rfl | hnone
      · decide
      · simp [hnone]
    refine iff_of_false ?_ ?_
    · simp only [usesTime, GoFunc.usesTime, Bool.or_eq_true, List.any_eq_true, GoType.usesTime_iff]
      rintro (⟨p, hp, htime⟩ | ⟨type, htype, htime⟩)
      · have hparam : p.type ∈ (GoDecl.func f).types := by
          simp only [types, List.mem_append, List.mem_map]
          exact Or.inl (Or.inl ⟨p, Or.inr hp, rfl⟩)
        exact hnone p.type hparam htime
      · exact hnone type (by simp [types, htype]) htime
    · rintro ⟨type, htype, htime⟩
      exact hnone type htype htime

theorem package?_cases (h : d.Modest) {type : GoType} (htype : type ∈ d.types) {p : String}
    (hp : type.package? = some p) :
    p = "time" ∧ type.base = .time ∨ p = "context" ∧ ∃ f, d = .func f := by
  cases h with
  | struct h =>
    obtain ⟨f, hf, rfl⟩ := List.mem_map.1 htype
    exact Or.inl ((h f hf).package?_eq_some_iff.1 hp)
  | enum e =>
    simp only [types, List.mem_cons, List.mem_map] at htype
    rcases htype with rfl | ⟨_, _, rfl⟩ <;> cases hp
  | @func f _ h =>
    rcases h type htype with rfl | hnone
    · exact Or.inr ⟨Option.some.inj hp.symm, f, rfl⟩
    · rw [hnone] at hp
      cases hp

/-- The packages that the code refers to are those of the types. -/
theorem uses_iff (h : d.Modest) {p : String} :
    d.Uses p ↔ ∃ type ∈ d.types, type.package? = some p := by
  rw [Uses, qualifies_iff]
  cases h with
  | struct h => simp [qualifiers, bound, types]
  | enum e => simp [qualifiers, bound, types, GoType.package?, GoType.base]
  | func hcontext h hmem hqualifiers hbound =>
    constructor
    · rintro ⟨hp, hfree⟩
      rcases hqualifiers p hp with rfl | hp
      · exact ⟨.context, hcontext, rfl⟩
      · exact absurd hp hfree
    · rintro ⟨type, htype, hp⟩
      rcases h type htype with rfl | hnone
      · cases hp
        exact ⟨hmem, hbound⟩
      · rw [hnone] at hp
        cases hp

end GoDecl.Modest

section

variable {r : Registry}

theorem Registry.unqualified_of_goType {dataType : DataType} {type : GoType}
    (h : r.goType dataType = .ok type) : type.Unqualified := by
  intro package name hbase
  cases dataType with
  | enum n =>
    simp only [goType] at h
    split at h <;> cases h
    cases hbase
  | _ =>
    cases h
    cases hbase

theorem Registry.unqualified_of_resolveTable {t : Table} {columns : List ResolvedColumn}
    (h : r.resolveTable t = .ok columns) : ∀ c ∈ columns, c.type.Unqualified := by
  refine forall_of_mapM_eq_ok (fun f _ c hc => ?_) h
  obtain ⟨type, htype, hc⟩ := bind_eq_ok.1 hc
  cases hc
  exact unqualified_of_goType htype

theorem Registry.modest_of_goDecl {item : SchemaItem} {d : GoDecl} (h : r.goDecl item = .ok d) :
    d.Modest ∧ ∀ f, d ≠ .func f := by
  cases item with
  | table t =>
    obtain ⟨row, hrow, rfl⟩ := map_eq_ok.1 h
    obtain ⟨columns, hcolumns, hrow⟩ := bind_eq_ok.1 hrow
    cases hrow
    refine ⟨.struct fun f hf => ?_, nofun⟩
    obtain ⟨c, hc, rfl⟩ := List.mem_map.1 hf
    have htype := unqualified_of_resolveTable hcolumns c hc
    rw [ResolvedColumn.goField]
    split <;> exact htype
  | enumeration e =>
    cases h
    exact ⟨.enum _, nofun⟩

namespace Params

theorem unqualified_of_bindType {t : Table} {columns : List ResolvedColumn} {pointers : Bool}
    {name : String} {type : GoType} (hcolumns : r.resolveTable t = .ok columns)
    (h : bindType r t columns pointers name = .ok type) : type.Unqualified := by
  unfold bindType at h
  split at h
  · rename_i c hc
    have htype := Registry.unqualified_of_resolveTable hcolumns c (List.mem_of_find?_eq_some hc)
    cases h
    split <;> exact htype
  · split at h
    · split at h <;> cases h
      exact nofun
    · cases h

theorem unqualified_of_byPosition {typeOf : String → Except CompileError GoType}
    {binds : List Bind} {entries : List (Nat × TypedColumn)}
    (htype : ∀ column type, typeOf column = .ok type → type.Unqualified)
    (h : byPosition typeOf binds = .ok entries) :
    ∀ f ∈ fields [] entries, f.type.Unqualified := by
  intro f hf
  have hmem : f.type ∈ entries.map fun entry => entry.2.type := by
    rw [← map_type_fields []]
    exact List.mem_map_of_mem hf
  obtain ⟨⟨k, c⟩, hentry, hc⟩ := List.mem_map.1 hmem
  obtain ⟨b, -, -, hb⟩ := ((byPosition_spec h).2 k c).1 hentry
  exact hc ▸ htype b.column c.type hb

end Params

theorem Table.package?_rowType (t : Table) : t.rowType.package? = none := rfl

/-- The row fields that a result is decoded into do not change its shape. -/
theorem Table.shape_of_targets {t : Table} {all : Bool} {columns : List String} {shape : ResultShape}
    {d : Decoding}
    (h : (if all = true then do
        let targets ← pure t.rowFields
        return Decoding.mk shape targets
      else do
        let targets ← columns.mapM t.rowField
        return Decoding.mk shape targets) = .ok d) : d.shape = shape := by
  split at h
  · cases h
    rfl
  · obtain ⟨targets, -, h⟩ := bind_eq_ok.1 h
    cases h
    rfl

/-- The rows of a result are those of the table. -/
theorem Statement.row_of_decoding {s : Statement} {kind : QueryKind} {t : Table} {d : Decoding}
    (h : s.decoding kind t = .ok d) {row : GoType}
    (hrow : d.shape = .single row ∨ d.shape = .list row) : row = t.rowType := by
  have hshape : d.shape = .none ∨ d.shape = .single t.rowType ∨ d.shape = .list t.rowType := by
    cases s with
    | select s =>
      cases kind with
      | one => exact Or.inr (Or.inl (Table.shape_of_targets h))
      | many => exact Or.inr (Or.inr (Table.shape_of_targets h))
      | exec => cases h
    | insert i =>
      obtain ⟨columns, -, h⟩ := bind_eq_ok.1 h
      split at h
      · cases h
        exact Or.inl rfl
      · cases kind with
        | many => exact Or.inr (Or.inr (Table.shape_of_targets h))
        | _ => exact Or.inr (Or.inl (Table.shape_of_targets h))
  grind

namespace Method

/-- Only the first parameter of a method needs a package. -/
theorem package?_of_mem_types {name sql : String} {d : Decoding} {params? : Option GoStruct}
    (hrow : ∀ row, d.shape = .single row ∨ d.shape = .list row → row.package? = none) :
    ∀ type ∈ (GoDecl.func (function name sql d params?)).types,
      type = .context ∨ type.package? = none := by
  have hqueries : (GoType.pointer (.named "Queries")).package? = none := rfl
  have hrecord (record : String) : (GoType.named record).package? = none := rfl
  have herror : GoType.error.package? = none := rfl
  have hslice (row : GoType) : (GoType.slice row).package? = row.package? := rfl
  obtain ⟨shape, targets⟩ := d
  cases shape with
  | single row =>
    have hrow := hrow row (Or.inl rfl)
    cases params? <;>
      simp [function, GoDecl.types, ResultShape.types, body, singleBody, GoStmt.localTypesOfBody,
        GoStmt.localTypes, GoStmt.returnOnError, hqueries, hrecord, herror, hrow]
  | list row =>
    have hrow := hrow row (Or.inr rfl)
    cases params? <;>
      simp [function, GoDecl.types, ResultShape.types, body, listBody, GoStmt.localTypesOfBody,
        GoStmt.localTypes, GoStmt.returnOnError, hqueries, hrecord, herror, hslice, hrow]
  | none =>
    cases params? <;>
      simp [function, GoDecl.types, ResultShape.types, body, GoStmt.localTypesOfBody,
        GoStmt.localTypes, hqueries, hrecord, herror]

/-- What a database call gets selects from the parameters only. -/
theorem eq_of_mem_qualifiers_arguments {params? : Option GoStruct} {p : String}
    (h : p ∈ GoExpr.qualifiersOfList (arguments params?)) : params?.isSome ∧ p = "params" := by
  cases params? <;>
    simp_all [GoExpr.qualifiersOfList_eq_flatMap, arguments, GoExpr.qualifiers, GoExpr.ending,
      Before.words]

theorem eq_of_mem_qualifiers_scanTargets {owner : String} {fields : List String} {p : String}
    (h : p ∈ GoExpr.qualifiersOfList (scanTargets owner fields)) : p = owner := by
  simp_all [GoExpr.qualifiersOfList_eq_flatMap, scanTargets, GoExpr.qualifiers, GoExpr.ending,
    Before.words]

/-- The other names that a body selects from are the receiver and its own variables. -/
theorem mem_qualifiers_body {sql : String} {d : Decoding} {arguments : List GoExpr}
    (hrow : ∀ row, d.shape = .single row ∨ d.shape = .list row → row.package? = none) {p : String}
    (hp : p ∈ GoStmt.qualifiersOfBody (body sql d arguments)) :
    p ∈ GoExpr.qualifiersOfList arguments ∨ p = "q" ∨
      p ∈ GoStmt.boundOfBody (body sql d arguments) := by
  have hslice (row : GoType) : (GoType.slice row).package? = row.package? := rfl
  have htargets (owner : String) := @eq_of_mem_qualifiers_scanTargets owner d.targets p
  obtain ⟨shape, targets⟩ := d
  cases shape with
  | single row =>
    have hrow := hrow row (Or.inl rfl)
    have htargets := htargets "result"
    simp only [body, singleBody, GoStmt.returnOnError, GoStmt.qualifiersOfBody, GoStmt.qualifiers,
      GoStmt.boundOfBody, GoStmt.bound, GoExpr.qualifiers, GoExpr.qualifiersOfList, GoExpr.ending,
      Before.words, callDatabase, callOn, result, err, hrow] at hp ⊢
    grind
  | list row =>
    have hrow := hrow row (Or.inr rfl)
    have htargets := htargets "item"
    simp only [body, listBody, GoStmt.returnOnError, GoStmt.qualifiersOfBody, GoStmt.qualifiers,
      GoStmt.boundOfBody, GoStmt.bound, GoExpr.qualifiers, GoExpr.qualifiersOfList, GoExpr.ending,
      Before.words, callDatabase, callOn, result, err, hslice, hrow] at hp ⊢
    grind
  | none =>
    simp only [body, GoStmt.qualifiersOfBody, GoStmt.qualifiers, GoStmt.boundOfBody, GoStmt.bound,
      GoExpr.qualifiers, GoExpr.qualifiersOfList, GoExpr.ending, Before.words, callDatabase] at hp ⊢
    grind

theorem bound_of_mem_qualifiers {name sql : String} {d : Decoding} {params? : Option GoStruct}
    (hrow : ∀ row, d.shape = .single row ∨ d.shape = .list row → row.package? = none) {p : String}
    (hp : p ∈ (GoDecl.func (function name sql d params?)).qualifiers) :
    p = "context" ∨ p ∈ (GoDecl.func (function name sql d params?)).bound := by
  have htypes : ∀ type ∈ (GoDecl.func (function name sql d params?)).types,
      p ∈ type.package?.toList → p = "context" := by
    intro type htype hp
    rcases package?_of_mem_types hrow type htype with rfl | hnone
    · exact List.mem_singleton.1 hp
    · simp [hnone] at hp
  simp only [GoDecl.qualifiers, List.mem_append, List.mem_flatMap] at hp
  rcases hp with (⟨param, hparam, hp⟩ | ⟨type, htype, hp⟩) | hp
  · refine .inl (htypes param.type ?_ hp)
    simp only [GoDecl.types, List.mem_append, List.mem_map]
    exact .inl (.inl ⟨param, hparam, rfl⟩)
  · exact .inl (htypes type (by simp [GoDecl.types, htype]) hp)
  · rcases mem_qualifiers_body hrow hp with hp | rfl | hp
    · obtain ⟨hsome, rfl⟩ := eq_of_mem_qualifiers_arguments hp
      obtain ⟨record, rfl⟩ := Option.isSome_iff_exists.1 hsome
      simp [function, GoDecl.bound]
    · simp [function, GoDecl.bound]
    · exact .inr (List.mem_append_right _ hp)

theorem context_notMem_bound (name sql : String) (d : Decoding) (params? : Option GoStruct) :
    "context" ∉ (GoDecl.func (function name sql d params?)).bound := by
  obtain ⟨shape, targets⟩ := d
  cases shape <;> cases params? <;>
    simp [function, GoDecl.bound, body, singleBody, listBody, GoStmt.returnOnError,
      GoStmt.boundOfBody, GoStmt.bound]

theorem modest_function (name sql : String) {d : Decoding} (params? : Option GoStruct)
    (hrow : ∀ row, d.shape = .single row ∨ d.shape = .list row → row.package? = none) :
    (GoDecl.func (function name sql d params?)).Modest := by
  refine .func ?_ (package?_of_mem_types hrow) ?_ (fun p => bound_of_mem_qualifiers hrow)
    (context_notMem_bound name sql d params?)
  · simp [function, GoDecl.types]
  · simp [function, GoDecl.qualifiers, GoType.package?, GoType.base, GoType.context]

end Method

theorem modest_of_generate {name : String} {kind : QueryKind} {s : Statement} {q : GeneratedQuery}
    (h : generate r name kind s = .ok q) : ∀ d ∈ q.decls, d.Modest := by
  obtain ⟨t, columns, decoding, entries, hq⟩ := exists_generated h
  intro d hd
  rcases List.mem_append.1 hd with hd | hd
  · obtain ⟨record, hrecord, rfl⟩ := List.mem_map.1 hd
    obtain rfl := hq.record_eq (Option.mem_toList.1 hrecord)
    exact .struct (Params.unqualified_of_byPosition
      (fun _ _ => Params.unqualified_of_bindType hq.resolved) hq.bound)
  · rw [List.mem_singleton.1 hd, hq.function_eq]
    refine Method.modest_function _ _ _ fun row hrow => ?_
    rw [Statement.row_of_decoding hq.decoded hrow, t.package?_rowType]

theorem QueryBlock.modest_of_compile {bs : List QueryBlock} {qs : List GeneratedQuery}
    (h : List.Forall₂ (fun b q => b.compile r = .ok q) bs qs) :
    ∀ q ∈ qs, ∀ d ∈ q.decls, d.Modest := by
  induction h with
  | nil => exact nofun
  | cons hq _ ih =>
    obtain ⟨kind, -, hq⟩ := bind_eq_ok.1 hq
    obtain ⟨s, -, hq⟩ := bind_eq_ok.1 hq
    exact List.forall_mem_cons.2 ⟨modest_of_generate hq, ih⟩

end

/-- A file that imports `context` for functions and `time` where a declaration says so imports what
it uses, if its declarations are modest. -/
theorem GoFile.importsUsed_of_modest {f : GoFile} (hmodest : ∀ d ∈ f.decls, d.Modest)
    (hnodup : f.imports.Nodup)
    (himports : ∀ p, p ∈ f.imports ↔ p = "context" ∧ (∃ g, .func g ∈ f.decls) ∨
      p = "time" ∧ ∃ d ∈ f.decls, d.usesTime = true) : f.ImportsUsed := by
  have hpackage (p : String) : p ∈ f.imports ↔ ∃ type ∈ f.types, type.package? = some p := by
    rw [himports]
    constructor
    · rintro (⟨rfl, g, hg⟩ | ⟨rfl, d, hd, htime⟩)
      · cases hmodest _ hg with
        | func hcontext => exact ⟨.context, List.mem_flatMap.2 ⟨_, hg, hcontext⟩, rfl⟩
      · obtain ⟨type, htype, htime⟩ := (hmodest d hd).usesTime_iff.1 htime
        exact ⟨type, List.mem_flatMap.2 ⟨d, hd, htype⟩, htime⟩
    · rintro ⟨type, htype, hp⟩
      obtain ⟨d, hd, htype⟩ := List.mem_flatMap.1 htype
      rcases (hmodest d hd).package?_cases htype hp with ⟨rfl, -⟩ | ⟨rfl, g, rfl⟩
      · exact Or.inr ⟨rfl, d, hd, (hmodest d hd).usesTime_iff.2 ⟨type, htype, hp⟩⟩
      · exact Or.inl ⟨rfl, g, hd⟩
  have huses (p : String) : p ∈ f.imports ↔ ∃ d ∈ f.decls, d.Uses p := by
    rw [hpackage]
    constructor
    · rintro ⟨type, htype, hp⟩
      obtain ⟨d, hd, htype⟩ := List.mem_flatMap.1 htype
      exact ⟨d, hd, (hmodest d hd).uses_iff.2 ⟨type, htype, hp⟩⟩
    · rintro ⟨d, hd, hp⟩
      obtain ⟨type, htype, hp⟩ := (hmodest d hd).uses_iff.1 hp
      exact ⟨type, List.mem_flatMap.2 ⟨d, hd, htype⟩, hp⟩
  refine ⟨?_, ?_, ?_, hpackage, huses, hnodup⟩
  · rw [hpackage]
    refine exists_congr fun type => and_congr_right fun htype => ?_
    refine ⟨fun hp => ?_, GoType.package?_eq_time_of_base⟩
    obtain ⟨d, hd, htype⟩ := List.mem_flatMap.1 htype
    rcases (hmodest d hd).package?_cases htype hp with ⟨-, htime⟩ | ⟨hne, -⟩
    · exact htime
    · exact absurd hne (by decide)
  · simp [himports]
  · intro p hp
    rcases (himports p).1 hp with ⟨rfl, -⟩ | ⟨rfl, -⟩
    · exact Or.inr rfl
    · exact Or.inl rfl

/-- The names of these packages are printed as they are. -/
theorem GoFile.renderImports_eq {imports : List String}
    (h : ∀ p ∈ imports, p = "time" ∨ p = "context") :
    renderImports imports = importBlock imports := by
  have hquoted : ∀ p ∈ imports, Quoted.encode p = "\"" ++ p ++ "\"" := by
    intro p hp
    rcases h p hp with rfl | rfl <;> decide
  cases imports with
  | nil => rfl
  | cons first rest =>
    rw [renderImports, importBlock, if_neg (by simp)]
    · refine congrArg (fun lines => "\nimport (\n" ++ String.join lines ++ ")\n") ?_
      refine List.map_congr_left fun p hp => ?_
      rw [hquoted p hp]
      simp [← String.toList_inj]
    · exact List.cons_ne_nil first rest

theorem GoFile.prints_render {f : GoFile} (hheader : f.header? = some generatedHeader)
    (hused : f.ImportsUsed) : f.Prints f.package f.render where
  text_eq := by
    rw [render, hheader, renderImports_eq hused.only]
    simp only [GoDecl.render_eq_spell]
    simp [generatedHeader, toString, ← String.toList_inj]
  types_eq := by
    rw [GoPiece.types, List.filterMap_flatMap, types]
    exact List.flatMap_congr fun d _ => d.types_pieces

namespace Compilation

section

variable {r : Registry} {c : Compilation} {blocks : List QueryBlock}

/-- The declarations of the schema are no functions, and each query has one. -/
theorem Holds.importsUsed (h : c.Holds r blocks) {package : String} {f : GoFile}
    (hf : queriesFile package c.registry c.queries = .ok f) : f.ImportsUsed := by
  obtain ⟨types, htypes, hf⟩ := bind_eq_ok.1 hf
  cases hf
  have hitems : ∀ d ∈ types, d.Modest ∧ ∀ f, d ≠ .func f :=
    forall_of_mapM_eq_ok (fun item _ d hd => Registry.modest_of_goDecl hd) htypes
  have hqueries := QueryBlock.modest_of_compile h.queries
  have hfunc : (∃ g, .func g ∈ types ++ c.queries.flatMap GeneratedQuery.decls) ↔
      c.queries ≠ [] := by
    simp only [List.mem_append, List.mem_flatMap]
    constructor
    · rintro ⟨g, hg | ⟨q, hq, -⟩⟩
      · exact absurd rfl ((hitems _ hg).2 g)
      · exact List.ne_nil_of_mem hq
    · intro hne
      obtain ⟨q, hq⟩ := List.exists_mem_of_ne_nil _ hne
      exact ⟨q.function, Or.inr ⟨q, hq, by simp [GeneratedQuery.decls]⟩⟩
  refine GoFile.importsUsed_of_modest ?_ ?_ fun p => ?_
  · intro d hd
    rcases List.mem_append.1 hd with hd | hd
    · exact (hitems d hd).1
    · obtain ⟨q, hq, hd⟩ := List.mem_flatMap.1 hd
      exact hqueries q hq d hd
  · dsimp only
    split <;> split <;> decide
  · rw [hfunc, ← List.any_eq_true, Ne, ← List.isEmpty_iff, List.mem_append]
    refine or_congr ?_ ?_
    · split <;> rename_i hempty <;> simp [hempty]
    · split <;> rename_i htime <;> simp [htime]

end

/-- Whatever was added to a compilation, its sources are rendered if and only if the types of all
columns are known. Then the queries file imports exactly what it uses. -/
theorem importsUsed_of_render (r : Registry) (calls : List Addition) (package : String) (d : Driver) :
    let c := (ofRegistry r).addEach calls
    ((∃ sources, c.render package d = .ok sources) ↔ r.Typed) ∧
      ∀ sources, c.render package d = .ok sources →
        ∃ f, queriesFile package c.registry c.queries = .ok f ∧ f.Prints package sources.queries ∧
          f.ImportsUsed := by
  intro c
  have h : c.Holds r _ := (holds_ofRegistry r).addEach calls
  have hrender {sources : GeneratedSources} (hsources : c.render package d = .ok sources) :
      ∃ f, queriesFile package c.registry c.queries = .ok f ∧ sources.queries = f.render := by
    obtain ⟨text, htext, hsources⟩ := bind_eq_ok.1 hsources
    obtain ⟨f, hf, rfl⟩ := map_eq_ok.1 htext
    cases hsources
    exact ⟨f, hf, rfl⟩
  refine ⟨⟨?_, fun ht => exists_render (h.registry ▸ ht) package d⟩, ?_⟩
  · rintro ⟨sources, hsources⟩ t ht
    obtain ⟨f, hf, -⟩ := hrender hsources
    obtain ⟨types, htypes, -⟩ := bind_eq_ok.1 hf
    rw [h.registry] at htypes
    obtain ⟨decl, hdecl⟩ := exists_mapM_eq_ok_iff.1 ⟨types, htypes⟩ _ (Registry.mem_tables.1 ht)
    obtain ⟨row, hrow, -⟩ := map_eq_ok.1 hdecl
    obtain ⟨columns, hcolumns, -⟩ := bind_eq_ok.1 hrow
    exact ⟨columns, hcolumns⟩
  · intro sources hsources
    obtain ⟨f, hf, htext⟩ := hrender hsources
    have hused := h.importsUsed hf
    refine ⟨f, hf, ?_, hused⟩
    obtain ⟨types, -, hf⟩ := bind_eq_ok.1 hf
    cases hf
    rw [htext]
    exact GoFile.prints_render rfl hused

/-- A time that may be missing, in a column and in a parameter. -/
def shiftRegistry : Registry :=
  (Registry.empty.insertAll
    [.table ⟨"shifts", [.plain "id" .int, .plain "ends_at" .timestamp]⟩]).1

/-- The second block fails, and the first is there. -/
def shiftCalls : List Addition :=
  [.block ⟨"AddShift", "exec", "INSERT INTO shifts (ends_at) VALUES ($1)", "a.sql"⟩,
    .block ⟨"Missing", "many", "SELECT * FROM breaks", "a.sql"⟩]

theorem importsUsed_shifts :
    ∃ (sources : GeneratedSources) (f : GoFile),
      ((ofRegistry shiftRegistry).addEach shiftCalls).render "db" .postgres = .ok sources ∧
        f.Prints "db" sources.queries ∧ f.imports = ["context", "time"] ∧ f.ImportsUsed := by
  have hok : (((ofRegistry shiftRegistry).addEach shiftCalls).render "db" .postgres).toOption.isSome =
      true := by decide +kernel
  have himports : (queriesFile "db" ((ofRegistry shiftRegistry).addEach shiftCalls).registry
      ((ofRegistry shiftRegistry).addEach shiftCalls).queries).toOption.map GoFile.imports =
      some ["context", "time"] := by decide +kernel
  obtain ⟨sources, hsources⟩ := Option.isSome_iff_exists.1 hok
  have hsources := toOption_eq_some.1 hsources
  obtain ⟨f, hf, htext, hused⟩ :=
    (importsUsed_of_render shiftRegistry shiftCalls "db" .postgres).2 sources hsources
  rw [hf] at himports
  exact ⟨sources, f, hsources, htext, Option.some.inj himports, hused⟩

end Compilation

end TypedQueries
