import Mathlib.Data.List.Nodup
import Mathlib.Data.List.TakeWhile
import TypedQueries.Proofs.CaseForms
import TypedQueries.Proofs.KnownTypes

/-!
The names that the queries file declares at its top level: a type for each table and enumeration, a
constant for each value of an enumeration, and a struct for the parameters of each query that has
some. Names of types have no underscore, so a constant tells which type it belongs to. No name is
declared twice if and only if the types have different names, the values of each enumeration give
different constants, and no struct of parameters has the name of a type or a constant.
-/

namespace TypedQueries

namespace Text

theorem eq_underscore_of_mem_upperChar {c : Char} (h : '_' ∈ upperChar c) : c = '_' := by
  unfold upperChar at h
  split at h
  · rename_i hc
    have hall := forall_isAscii (p := fun c => c.toUpper != '_' || c == '_') (by decide +kernel) hc
    simpa [← List.mem_singleton.1 h] using hall
  · exact eq_of_formsAvoid (by decide +kernel) h

theorem eq_underscore_of_mem_lowerChar {c : Char} (h : '_' ∈ lowerChar c) : c = '_' := by
  unfold lowerChar at h
  split at h
  · rename_i hc
    have hall := forall_isAscii (p := fun c => c.toLower != '_' || c == '_') (by decide +kernel) hc
    simpa [← List.mem_singleton.1 h] using hall
  · exact eq_of_formsAvoid (by decide +kernel) h

theorem underscore_notMem_lowerFrom (before : List Char) {cs : List Char} (h : '_' ∉ cs) :
    '_' ∉ lowerFrom before cs := by
  intro hmem
  rcases mem_of_forall₂ (forall₂_lowerFrom before cs) hmem with hmem | hsigma
  · obtain ⟨c, hc, hform⟩ := List.mem_flatMap.1 hmem
    obtain rfl := eq_underscore_of_mem_lowerChar hform
    exact h hc
  · cases hsigma

end Text

namespace Naming

theorem isAlphanumeric_of_mem_words {cs word : List Char} {c : Char} (hw : word ∈ words cs)
    (hc : c ∈ word) : Text.isAlphanumeric c = true := by
  fun_induction words cs with
  | case1 => cases hw
  | case2 d ds hd ih =>
    rcases List.mem_cons.1 hw with rfl | hw
    · rcases List.mem_cons.1 hc with rfl | hc
      · exact hd
      · exact List.mem_takeWhile_imp hc
    · exact ih hw
  | case3 d ds hd ih => exact ih hw

theorem underscore_notMem_capitalized {word : List Char} (h : '_' ∉ word) :
    '_' ∉ capitalized word := by
  cases word with
  | nil => exact h
  | cons c cs =>
    rw [List.mem_cons, not_or] at h
    have hfirst : '_' ∉ Text.upperChar c := fun hmem =>
      h.1 (Text.eq_underscore_of_mem_upperChar hmem).symm
    rw [capitalized]
    split <;> rw [List.mem_append, not_or]
    · exact ⟨hfirst, h.2⟩
    · exact ⟨hfirst, Text.underscore_notMem_lowerFrom [] h.2⟩

theorem underscore_notMem_exported (name : String) : '_' ∉ (exported name).toList := by
  have hwords : '_' ∉ (words name.toList).flatMap capitalized := by
    intro hmem
    obtain ⟨word, hword, hmem⟩ := List.mem_flatMap.1 hmem
    refine underscore_notMem_capitalized (fun hunderscore => ?_) hmem
    have halphanumeric := isAlphanumeric_of_mem_words hword hunderscore
    exact absurd halphanumeric (by decide +kernel)
  rw [exported, String.toList_ofList]
  generalize (words name.toList).flatMap capitalized = cs at hwords
  cases cs with
  | nil => decide
  | cons c cs =>
    rw [guarded]
    split
    · exact fun h => hwords (List.mem_of_ne_of_mem (by decide) h)
    · exact hwords

/-- What a constant has behind the underscore. -/
def memberName (value : String) : List Char :=
  match value.toList with
  | c :: _ => if c.isDigit then (exported value).toList.drop 1 else (exported value).toList
  | [] => (exported value).toList

theorem toList_member (type value : String) :
    (member type value).toList = type.toList ++ '_' :: memberName value := by
  have hmember : member type value = type ++ "_" ++ String.ofList (memberName value) := rfl
  simp [hmember]

theorem member_inj {type value value' : String} :
    member type value = member type value' ↔ memberName value = memberName value' := by
  rw [← String.toList_inj, toList_member, toList_member, List.append_cancel_left_eq,
    List.cons_inj_right]

end Naming

/-- The names that a declaration adds to the top level of its package. A method adds none. -/
def GoDecl.names : GoDecl → List String
  | struct s => [s.name]
  | enum e => e.name :: e.members.map Prod.fst
  | func f => if f.receiver?.isSome then [] else [f.name]

def GoFile.names (f : GoFile) : List String := f.decls.flatMap GoDecl.names

namespace SchemaItem

/-- The name of the type for an item. -/
def goName (item : SchemaItem) : String := Naming.exported item.name

/-- The names for an item: its type, and the constants of an enumeration. -/
def goNames : SchemaItem → List String
  | table t => [Naming.exported t.name]
  | enumeration e =>
    Naming.exported e.name :: e.values.map (Naming.member (Naming.exported e.name))

/-- What stands in front of the first underscore. -/
def typePart (name : String) : List Char := name.toList.takeWhile (· != '_')

theorem typePart_goName (item : SchemaItem) : typePart item.goName = item.goName.toList := by
  unfold typePart
  rw [List.takeWhile_eq_self_iff]
  intro c hc
  simp only [bne_iff_ne]
  rintro rfl
  exact Naming.underscore_notMem_exported item.name hc

/-- All names for an item show its type. -/
theorem typePart_of_mem_goNames {item : SchemaItem} {name : String} (h : name ∈ item.goNames) :
    typePart name = item.goName.toList := by
  cases item with
  | table t =>
    rw [List.mem_singleton.1 h]
    exact typePart_goName (.table t)
  | enumeration e =>
    have htype := typePart_goName (.enumeration e)
    rcases List.mem_cons.1 h with rfl | h
    · exact htype
    · obtain ⟨value, -, rfl⟩ := List.mem_map.1 h
      unfold typePart at htype ⊢
      rw [Naming.toList_member, List.takeWhile_append]
      rw [show Naming.exported e.name = (SchemaItem.enumeration e).goName from rfl, htype]
      simp

theorem goName_mem_goNames (item : SchemaItem) : item.goName ∈ item.goNames := by
  cases item <;> exact List.mem_cons_self

theorem disjoint_goNames_iff {item other : SchemaItem} :
    item.goNames.Disjoint other.goNames ↔ item.goName ≠ other.goName := by
  constructor
  · intro h heq
    exact h item.goName_mem_goNames (heq ▸ other.goName_mem_goNames)
  · intro hne name hname hother
    have htype := (typePart_of_mem_goNames hname).symm.trans (typePart_of_mem_goNames hother)
    exact hne (String.toList_inj.1 htype)

/-- Constants of one enumeration are different if and only if they are behind the underscore. -/
theorem nodup_goNames_iff (e : Enumeration) :
    (SchemaItem.enumeration e).goNames.Nodup ↔ (e.values.map Naming.memberName).Nodup := by
  have hfresh : Naming.exported e.name ∉
      e.values.map (Naming.member (Naming.exported e.name)) := by
    intro h
    obtain ⟨value, -, heq⟩ := List.mem_map.1 h
    refine Naming.underscore_notMem_exported e.name ?_
    rw [← heq, Naming.toList_member]
    simp
  rw [goNames, List.nodup_cons, and_iff_right hfresh]
  simp only [List.Nodup, List.pairwise_map, ne_eq, Naming.member_inj]

theorem nodup_flatMap_goNames_iff {items : List SchemaItem} :
    (items.flatMap goNames).Nodup ↔ (items.map goName).Nodup ∧
      ∀ e, .enumeration e ∈ items → (e.values.map Naming.memberName).Nodup := by
  have hpairs : items.Pairwise (fun a b => a.goNames.Disjoint b.goNames) ↔
      (items.map goName).Nodup := by
    simp only [List.Nodup, List.pairwise_map, disjoint_goNames_iff]
  have hitems : (∀ item ∈ items, item.goNames.Nodup) ↔
      ∀ e, .enumeration e ∈ items → (e.values.map Naming.memberName).Nodup := by
    constructor
    · intro h e he
      exact (nodup_goNames_iff e).1 (h _ he)
    · intro h item hitem
      cases item with
      | table t => exact List.nodup_singleton _
      | enumeration e => exact (nodup_goNames_iff e).2 (h e hitem)
  rw [List.nodup_flatMap, hitems, and_comm]
  exact and_congr_left' hpairs

end SchemaItem

section

variable {r : Registry}

theorem Registry.names_of_goDecl {item : SchemaItem} {decl : GoDecl} (h : r.goDecl item = .ok decl) :
    decl.names = item.goNames := by
  cases item with
  | table t =>
    obtain ⟨row, hrow, rfl⟩ := map_eq_ok.1 h
    obtain ⟨columns, -, hrow⟩ := bind_eq_ok.1 hrow
    cases hrow
    rfl
  | enumeration e =>
    cases h
    simp [GoDecl.names, Enumeration.goEnum, SchemaItem.goNames, Function.comp_def]

theorem Registry.names_of_goDecls {decls : List GoDecl} (h : r.goDecls = .ok decls) :
    decls.flatMap GoDecl.names = r.items.flatMap SchemaItem.goNames := by
  unfold goDecls at h
  generalize r.items = items at h ⊢
  induction items generalizing decls with
  | nil =>
    cases h
    rfl
  | cons item items ih =>
    obtain ⟨decl, more, hdecl, hmore, rfl⟩ := mapM_cons_eq_ok.1 h
    rw [List.flatMap_cons, List.flatMap_cons, names_of_goDecl hdecl, ih hmore]

/-- The name of the struct of a query's parameters, if it has any. -/
def GeneratedQuery.paramsName? (q : GeneratedQuery) : Option String :=
  q.params?.map fun _ => q.name ++ "Params"

theorem names_of_generate {name : String} {kind : QueryKind} {s : Statement} {q : GeneratedQuery}
    (h : generate r name kind s = .ok q) :
    q.decls.flatMap GoDecl.names = q.paramsName?.toList := by
  obtain ⟨_, _, _, _, hq⟩ := exists_generated h
  cases hparams : q.params? with
  | none =>
    simp [GeneratedQuery.decls, GeneratedQuery.paramsName?, GoDecl.names, Method.function,
      hq.function_eq, hparams]
  | some record =>
    have hname : record.name = name ++ "Params" := congrArg GoStruct.name (hq.record_eq hparams)
    simp [GeneratedQuery.decls, GeneratedQuery.paramsName?, GoDecl.names, Method.function,
      hq.function_eq, hq.name_eq, hparams, hname]

theorem QueryBlock.names_of_compile {bs : List QueryBlock} {qs : List GeneratedQuery}
    (h : List.Forall₂ (fun b q => b.compile r = .ok q) bs qs) :
    (qs.flatMap GeneratedQuery.decls).flatMap GoDecl.names =
      qs.filterMap GeneratedQuery.paramsName? := by
  induction h with
  | nil => rfl
  | cons hq _ ih =>
    obtain ⟨kind, -, hq⟩ := bind_eq_ok.1 hq
    obtain ⟨statement, -, hq⟩ := bind_eq_ok.1 hq
    rw [List.flatMap_cons, List.flatMap_append, ih, names_of_generate hq, List.filterMap_cons]
    split <;> simp_all

end

/-- Whether some struct of parameters takes a name of the schema. -/
theorem disjoint_paramsName?_iff {items : List SchemaItem} {qs : List GeneratedQuery} :
    (items.flatMap SchemaItem.goNames).Disjoint (qs.filterMap GeneratedQuery.paramsName?) ↔
      ∀ q ∈ qs, q.params? ≠ none → ∀ item ∈ items, q.name ++ "Params" ∉ item.goNames := by
  constructor
  · intro h q hq hparams item hitem hmem
    obtain ⟨record, hrecord⟩ := Option.ne_none_iff_exists'.1 hparams
    have hname : q.paramsName? = some (q.name ++ "Params") := by
      simp [GeneratedQuery.paramsName?, hrecord]
    exact h (List.mem_flatMap.2 ⟨item, hitem, hmem⟩) (List.mem_filterMap.2 ⟨q, hq, hname⟩)
  · intro h name hitems hqs
    obtain ⟨item, hitem, hmem⟩ := List.mem_flatMap.1 hitems
    obtain ⟨q, hq, hname⟩ := List.mem_filterMap.1 hqs
    obtain ⟨record, hrecord, rfl⟩ := Option.map_eq_some_iff.1 hname
    exact h q hq (by simp [hrecord]) item hitem hmem

namespace Compilation

variable {r : Registry} {c : Compilation} {blocks : List QueryBlock}

/-- Structs of parameters are called after their queries, whose names differ. -/
theorem Holds.nodup_paramsName? (h : c.Holds r blocks) :
    (c.queries.filterMap GeneratedQuery.paramsName?).Nodup := by
  have hnames : (c.queries.map GeneratedQuery.name).Nodup := h.map_name ▸ h.nodup
  rw [List.Nodup, List.pairwise_map] at hnames
  rw [List.Nodup, List.pairwise_filterMap]
  refine hnames.imp fun {q q'} hne name hname name' hname' heq => hne ?_
  obtain ⟨_, -, rfl⟩ := Option.map_eq_some_iff.1 hname
  obtain ⟨_, -, rfl⟩ := Option.map_eq_some_iff.1 hname'
  simpa [← String.toList_inj] using heq

theorem Holds.names_of_queriesFile (h : c.Holds r blocks) {package : String} {f : GoFile}
    (hf : queriesFile package c.registry c.queries = .ok f) :
    f.names = c.registry.items.flatMap SchemaItem.goNames ++
      c.queries.filterMap GeneratedQuery.paramsName? := by
  obtain ⟨decls, hdecls, hf⟩ := bind_eq_ok.1 hf
  cases hf
  rw [GoFile.names, List.flatMap_append, Registry.names_of_goDecls hdecls,
    QueryBlock.names_of_compile h.queries]

/-- After a schema is accepted and calls have added queries, the sources can be rendered. In the
queries file no name is declared twice if and only if the types of the schema have different names,
each enumeration has different constants, and no query's parameters take a name of the schema. -/
theorem nodup_names_iff {now : Clock} {schema : String} {c : Compilation}
    (h : ofSchema now schema = .ok c) (calls : List Addition) (package : String) (d : Driver) :
    ∃ f, queriesFile package (c.addEach calls).registry (c.addEach calls).queries = .ok f ∧
      (c.addEach calls).render package d = .ok ⟨f.render, renderDbFile package d⟩ ∧
      (f.names.Nodup ↔
        (c.registry.items.map SchemaItem.goName).Nodup ∧
        (∀ e, .enumeration e ∈ c.registry.items → (e.values.map Naming.memberName).Nodup) ∧
        ∀ q ∈ (c.addEach calls).queries, q.params? ≠ none →
          ∀ item ∈ c.registry.items, q.name ++ "Params" ∉ item.goNames) := by
  obtain ⟨r, rfl, -, ht⟩ := exists_of_ofSchema h
  have hholds := (holds_ofRegistry r).addEach calls
  have hitems : (ofRegistry r).registry.items = r.items := rfl
  generalize (ofRegistry r).addEach calls = c at hholds ⊢
  obtain rfl := hholds.registry
  obtain ⟨decls, hdecls⟩ := ht.exists_goDecls
  have hf : queriesFile package c.registry c.queries = .ok _ := bind_eq_ok.2 ⟨decls, hdecls, rfl⟩
  refine ⟨_, hf, bind_eq_ok.2 ⟨_, map_eq_ok.2 ⟨_, hf, rfl⟩, rfl⟩, ?_⟩
  rw [hholds.names_of_queriesFile hf, List.nodup_append', SchemaItem.nodup_flatMap_goNames_iff,
    disjoint_paramsName?_iff, and_iff_right hholds.nodup_paramsName?, hitems, and_assoc]

/-- A query whose parameters have a struct, on a schema with an enumeration. -/
def notedMoods : Addition :=
  .file "notes.sql" "-- name: NotesIn :many\nSELECT * FROM notes WHERE mood = $1;"

theorem nodup_names_notedMoods :
    ∃ c f, ofSchema (⟨2024, 3, 9, 14, 5, 0⟩ : Moment) moodSchema = .ok c ∧
      queriesFile "db" (c.addEach [notedMoods]).registry (c.addEach [notedMoods]).queries = .ok f ∧
      f.names.Nodup := by
  have hitems : (ofSchema (⟨2024, 3, 9, 14, 5, 0⟩ : Moment) moodSchema).toOption.map (·.registry.items) =
      some moodItems := by decide +kernel
  have hqueries : (ofSchema (⟨2024, 3, 9, 14, 5, 0⟩ : Moment) moodSchema).toOption.map
      (fun c => (c.addEach [notedMoods]).queries.map GeneratedQuery.name) = some ["NotesIn"] := by
    decide +kernel
  cases h : ofSchema (⟨2024, 3, 9, 14, 5, 0⟩ : Moment) moodSchema with
  | error e => simp [h, Except.toOption] at hitems
  | ok c =>
    simp only [h, Except.toOption, Option.map_some, Option.some.injEq] at hitems hqueries
    obtain ⟨f, hf, -, hiff⟩ := nodup_names_iff h [notedMoods] "db" .sqlite3
    refine ⟨c, f, rfl, hf, hiff.2 ⟨?_, ?_, ?_⟩⟩
    · rw [hitems]
      decide +kernel
    · intro e he
      have he : e = ⟨"mood", ["good", "bad"]⟩ := by simpa [hitems, moodItems] using he
      subst he
      decide +kernel
    · intro q hq _ item hitem
      have hname : q.name ∈ ["NotesIn"] := hqueries ▸ List.mem_map_of_mem hq
      have hfree : ∀ item ∈ moodItems, "NotesIn" ++ "Params" ∉ item.goNames := by decide +kernel
      rw [List.mem_singleton.1 hname]
      exact hfree item (hitems ▸ hitem)

/-- Two tables whose names differ, but not as names of Go types. -/
def userRoleSchema : String :=
  "CREATE TABLE user_role (id INT); CREATE TABLE \"userRole\" (id INT);"

def userRoleFile : Addition := .file "roles.sql" "-- name: Roles :many\nSELECT * FROM user_role;"

/-- Schema and query are accepted, and the queries file declares one type twice. -/
theorem names_userRole_twice :
    ∃ c f, ofSchema (⟨2024, 3, 9, 14, 5, 0⟩ : Moment) userRoleSchema = .ok c ∧
      (∀ e, .enumeration e ∈ c.registry.items → e.values.Nodup) ∧
      (c.add userRoleFile).2 = none ∧
      queriesFile "db" (c.add userRoleFile).1.registry (c.add userRoleFile).1.queries = .ok f ∧
      f.names = ["UserRole", "UserRole"] ∧ ¬ f.names.Nodup := by
  have hloaded : (ofSchema (⟨2024, 3, 9, 14, 5, 0⟩ : Moment) userRoleSchema).toOption.map
      (fun c => (c.registry.items, (c.add userRoleFile).2,
        (queriesFile "db" (c.add userRoleFile).1.registry
          (c.add userRoleFile).1.queries).toOption.map GoFile.names)) =
      some ([.table ⟨"user_role", [.plain "id" .int]⟩, .table ⟨"userRole", [.plain "id" .int]⟩], none,
        some ["UserRole", "UserRole"]) := by decide +kernel
  cases h : ofSchema (⟨2024, 3, 9, 14, 5, 0⟩ : Moment) userRoleSchema with
  | error e => simp [h, Except.toOption] at hloaded
  | ok c =>
    simp only [h, Except.toOption, Option.map_some, Option.some.injEq, Prod.mk.injEq] at hloaded
    obtain ⟨hitems, hadded, hnames⟩ := hloaded
    cases hf : queriesFile "db" (c.add userRoleFile).1.registry (c.add userRoleFile).1.queries with
    | error e => simp [hf] at hnames
    | ok f =>
      have hnames : f.names = ["UserRole", "UserRole"] := by simpa [hf] using hnames
      refine ⟨c, f, rfl, ?_, hadded, hf, hnames, by simp [hnames]⟩
      intro e he
      simp [hitems] at he

end Compilation

end TypedQueries
