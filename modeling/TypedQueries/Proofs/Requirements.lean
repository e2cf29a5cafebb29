import TypedQueries.Proofs.BoundArguments
import TypedQueries.Proofs.CharTables
import TypedQueries.Proofs.RegistryIndex

/-!
What a statement must meet so that a method can be generated for it. The requirements have an order:
the table is there, the types of its columns are known, the kind fits the statement, the columns that
the statement names are there, and so are the columns that it binds. A method is generated exactly if
all of them are met, and otherwise the error is that of the first that is not.
-/

namespace TypedQueries

/-- Something that must hold, and the error if it does not. -/
structure Requirement (ε : Type) where
  met : Prop
  error : ε

/-- The error is that of the first requirement that is not met. -/
inductive FirstUnmet {ε : Type} (e : ε) : List (Requirement ε) → Prop
  | here {q : Requirement ε} {qs : List (Requirement ε)} (hq : ¬ q.met) (he : q.error = e) :
      FirstUnmet e (q :: qs)
  | later {q : Requirement ε} {qs : List (Requirement ε)} (hq : q.met) (hqs : FirstUnmet e qs) :
      FirstUnmet e (q :: qs)

/-- The computation succeeds exactly if all requirements are met, and fails exactly with the error of
the first that is not. -/
structure Enforces {ε α : Type} (x : Except ε α) (qs : List (Requirement ε)) : Prop where
  succeeds_iff : (∃ a, x = .ok a) ↔ ∀ q ∈ qs, q.met
  fails_iff : ∀ e, x = .error e ↔ FirstUnmet e qs

section

variable {ε α β : Type}

theorem firstUnmet_cons {e : ε} {q : Requirement ε} {qs : List (Requirement ε)} :
    FirstUnmet e (q :: qs) ↔ ¬ q.met ∧ q.error = e ∨ q.met ∧ FirstUnmet e qs := by
  constructor
  · rintro (⟨hq, he⟩ | ⟨hq, hqs⟩)
    · exact Or.inl ⟨hq, he⟩
    · exact Or.inr ⟨hq, hqs⟩
  · rintro (⟨hq, he⟩ | ⟨hq, hqs⟩)
    · exact .here hq he
    · exact .later hq hqs

theorem firstUnmet_append {e : ε} {qs ps : List (Requirement ε)} :
    FirstUnmet e (qs ++ ps) ↔ FirstUnmet e qs ∨ (∀ q ∈ qs, q.met) ∧ FirstUnmet e ps := by
  induction qs with
  | nil => simpa using nofun
  | cons q qs ih =>
    rw [List.cons_append, firstUnmet_cons, firstUnmet_cons, ih, List.forall_mem_cons]
    tauto

namespace Enforces

theorem ok (a : α) : Enforces (.ok a : Except ε α) [] :=
  ⟨by simp, fun e => ⟨nofun, nofun⟩⟩

/-- One requirement is enforced if the computation succeeds where it is met and fails where not. -/
theorem single {x : Except ε α} {P : Prop} {e : ε} (hok : P → ∃ a, x = .ok a)
    (herror : ¬ P → x = .error e) : Enforces x [⟨P, e⟩] := by
  by_cases hP : P
  · obtain ⟨a, rfl⟩ := hok hP
    exact ⟨by simp [hP], fun e' => by simp [firstUnmet_cons, hP]; nofun⟩
  · rw [herror hP]
    exact ⟨by simp [hP], fun e' => by simp [firstUnmet_cons, hP]⟩

theorem bind {x : Except ε α} {f : α → Except ε β} {qs ps : List (Requirement ε)}
    (hx : Enforces x qs) (hf : ∀ a, x = .ok a → Enforces (f a) ps) :
    Enforces (x >>= f) (qs ++ ps) := by
  cases x with
  | error e =>
    have hunmet : ¬ ∀ q ∈ qs, q.met := fun h => nomatch (hx.succeeds_iff.2 h).choose_spec
    refine ⟨⟨nofun, fun h => absurd (fun q hq => h q (by simp [hq])) hunmet⟩, fun e' => ?_⟩
    rw [firstUnmet_append, ← hx.fails_iff, or_iff_left fun h => hunmet h.1]
    exact ⟨fun h => by cases h; rfl, fun h => by cases h; rfl⟩
  | ok a =>
    have hmet : ∀ q ∈ qs, q.met := hx.succeeds_iff.1 ⟨a, rfl⟩
    have ha := hf a rfl
    refine ⟨ha.succeeds_iff.trans ⟨fun h q hq => ?_, fun h q hq => h q (by simp [hq])⟩, fun e => ?_⟩
    · exact (List.mem_append.1 hq).elim (hmet q) (h q)
    · rw [firstUnmet_append, ← hx.fails_iff, ← ha.fails_iff, or_iff_right nofun, and_iff_right hmet]
      rfl

theorem mapM {f : α → Except ε β} {qs : α → List (Requirement ε)} {xs : List α}
    (h : ∀ x ∈ xs, Enforces (f x) (qs x)) : Enforces (xs.mapM f) (xs.flatMap qs) := by
  induction xs with
  | nil => exact ok []
  | cons x xs ih =>
    rw [List.forall_mem_cons] at h
    rw [List.mapM_cons, List.flatMap_cons, ← List.append_nil (xs.flatMap qs)]
    exact h.1.bind fun y _ => (ih h.2).bind fun ys _ => ok (y :: ys)

theorem foldlM {f : β → α → Except ε β} {qs : α → List (Requirement ε)} {xs : List α}
    (h : ∀ b, ∀ x ∈ xs, Enforces (f b x) (qs x)) (init : β) :
    Enforces (xs.foldlM f init) (xs.flatMap qs) := by
  induction xs generalizing init with
  | nil => exact ok init
  | cons x xs ih =>
    rw [List.foldlM_cons, List.flatMap_cons]
    exact (h init x List.mem_cons_self).bind fun b _ =>
      ih (fun b y hy => h b y (List.mem_cons_of_mem x hy)) b

end Enforces

end

namespace Text

/-- The seven-bit letters. -/
def letterRuns : CharSet := [⟨65, 90, 1⟩, ⟨97, 122, 1⟩]

theorem isCaseIgnorable_toLower (c : Char) : isCaseIgnorable c.toLower = isCaseIgnorable c := by
  have hapart : CharSet.apart letterRuns caseIgnorableRuns = true := by decide +kernel
  have hletters : ∀ n < 128, (Char.ofNat n).toLower = Char.ofNat n ∨
      letterRuns.contains (Char.ofNat n).toLower = true ∧
        letterRuns.contains (Char.ofNat n) = true := by decide +kernel
  refine apply_toLower (fun n hn => ?_) c
  rcases hletters n hn with hsame | ⟨hsmall, hcapital⟩
  · rw [hsame]
  · rw [isCaseIgnorable, isCaseIgnorable, CharSet.contains_of_apart hapart hsmall,
      CharSet.contains_of_apart hapart hcapital]

theorem startsCased_map_toLower (cs : List Char) :
    startsCased (cs.map Char.toLower) = startsCased cs := by
  have hcased (c : Char) : isCased c.toLower = isCased c := apply_toLower (by decide +kernel) c
  induction cs with
  | nil => rfl
  | cons c cs ih =>
    cases hc : isCaseIgnorable c with
    | true => simpa [startsCased, isCaseIgnorable_toLower, hc] using ih
    | false => simp [startsCased, isCaseIgnorable_toLower, hc, hcased]

theorem lowerFrom_map_toLower (before cs : List Char) :
    lowerFrom (before.map Char.toLower) (cs.map Char.toLower) = lowerFrom before cs := by
  have hlower (c : Char) : lowerChar c.toLower = lowerChar c := apply_toLower (by decide +kernel) c
  have hsigma (c : Char) : (c.toLower = 'Σ') = (c = 'Σ') :=
    apply_toLower (f := fun c => c = 'Σ') (by decide +kernel) c
  induction cs generalizing before with
  | nil => rfl
  | cons c cs ih =>
    have hrest := ih (c :: before)
    rw [List.map_cons] at hrest
    simp only [List.map_cons, lowerFrom, lowerSigma, startsCased_map_toLower, hlower, hsigma, hrest]

/-- Names that differ in the case of ASCII letters only have the same lower case. -/
theorem lower_eq_of_equalIgnoringCase {s t : String} (h : equalIgnoringCase s t = true) :
    lower s = lower t := by
  have hmap : s.toList.map Char.toLower = t.toList.map Char.toLower := beq_iff_eq.1 h
  have hs := lowerFrom_map_toLower [] s.toList
  have ht := lowerFrom_map_toLower [] t.toList
  rw [hmap] at hs
  rw [lower, lower, ← hs, ht]

end Text

namespace Registry

/-- The table stands in the registry under the name. -/
def HasTable (r : Registry) (name : String) (t : Table) : Prop :=
  .table t ∈ r.items ∧ Text.lower t.name = Text.lower name

/-- An enumeration stands in the registry under the name. -/
def HasEnumeration (r : Registry) (name : String) : Prop :=
  ∃ e, .enumeration e ∈ r.items ∧ Text.lower e.name = Text.lower name

end Registry

/-- The table has a column of the name, up to the case of ASCII letters. -/
def Table.HasColumn (t : Table) (column : String) : Prop :=
  ∃ f ∈ t.fields, Text.equalIgnoringCase f.name column = true

/-- A column that has the type of an enumeration must have one that is registered. -/
def Registry.typeRequirements (r : Registry) (f : Field) : List (Requirement CompileError) :=
  match f.dataType with
  | .enum name => [⟨r.HasEnumeration name, .unknownType name⟩]
  | _ => []

/-- A column that is written to or read must be one of the table. -/
def Table.columnRequirement (t : Table) (column : String) : Requirement CompileError :=
  ⟨t.HasColumn column, .unknownColumn t.name (Text.lower column)⟩

/-- A column that is bound, to a placeholder or to a literal, must be one of the table or have the
name of an enumeration, up to the case of ASCII letters. -/
def Registry.bindRequirement (r : Registry) (t : Table) (b : Bind) : Requirement CompileError :=
  ⟨t.HasColumn b.column ∨
      ∃ e, .enumeration e ∈ r.items ∧ Text.equalIgnoringCase e.name b.column = true,
    .unknownColumn t.name (Text.lower b.column)⟩

namespace Statement

/-- A SELECT must give rows. -/
def kindRequirements (kind : QueryKind) (t : Table) : Statement → List (Requirement CompileError)
  | select _ =>
    [⟨kind ≠ .exec, .unimplemented s!"exec query selecting from '{t.name}'; use one or many"⟩]
  | insert _ => []

/-- The columns that a statement writes to or reads by name. A list with a star names none. -/
def namedColumns : Statement → List String
  | select s => if "*" ∈ s.columns then [] else s.columns
  | insert i => i.columns ++ if "*" ∈ i.returning then [] else i.returning

/-- All that a statement on the table `t` must meet, in order. -/
def requirements (r : Registry) (kind : QueryKind) (t : Table) (s : Statement) :
    List (Requirement CompileError) :=
  t.fields.flatMap r.typeRequirements ++ (s.kindRequirements kind t ++
    (s.namedColumns.map t.columnRequirement ++ s.binds.map (r.bindRequirement t)))

end Statement

namespace Registry.Indexed

variable {r : Registry}

theorem table_eq_ok_iff (hr : r.Indexed) {name : String} {t : Table} :
    r.table name = .ok t ↔ r.HasTable name t := by
  have hget : r.get? name = some (.table t) ↔ r.HasTable name t := hr.get?_eq_some_iff
  rw [← hget, table]
  split
  · simp_all
  · rename_i hnot
    simpa using hnot t

theorem table_eq_error (hr : r.Indexed) {name : String} (h : ∀ t, ¬ r.HasTable name t) :
    r.table name = .error (.unknownTable name) := by
  have hnone (t : Table) : r.get? name ≠ some (.table t) := fun ht => h t (hr.get?_eq_some_iff.1 ht)
  unfold table
  split
  · rename_i t ht
    exact absurd ht (hnone t)
  · rfl

theorem enumeration?_eq_some_iff (hr : r.Indexed) {name : String} {e : Enumeration} :
    r.enumeration? name = some e ↔ .enumeration e ∈ r.items ∧ Text.lower e.name = Text.lower name := by
  have hget : r.get? name = some (.enumeration e) ↔
      .enumeration e ∈ r.items ∧ Text.lower e.name = Text.lower name := hr.get?_eq_some_iff
  rw [← hget, enumeration?]
  split
  · simp_all
  · rename_i hnot
    simpa using hnot e

end Registry.Indexed

section

variable {r : Registry} {t : Table}

theorem Registry.Indexed.enforces_goType (hr : r.Indexed) (f : Field) :
    Enforces (r.goType f.dataType) (r.typeRequirements f) := by
  unfold typeRequirements
  cases f.dataType with
  | enum name =>
    refine .single (fun ⟨e, he⟩ => ?_) fun hnone => ?_
    · exact ⟨_, by rw [goType, hr.enumeration?_eq_some_iff.2 he]⟩
    · have henum : r.enumeration? name = none :=
        Option.eq_none_iff_forall_ne_some.2 fun e he =>
          hnone ⟨e, hr.enumeration?_eq_some_iff.1 he⟩
      rw [goType, henum]
  | _ => exact .ok _

theorem Registry.Indexed.enforces_resolveTable (hr : r.Indexed) (t : Table) :
    Enforces (r.resolveTable t) (t.fields.flatMap r.typeRequirements) := by
  refine .mapM fun f _ => ?_
  rw [← List.append_nil (r.typeRequirements f)]
  exact (hr.enforces_goType f).bind fun type _ => .ok _

theorem Table.field?_eq_none_iff {column : String} :
    t.field? column = none ↔ ¬ t.HasColumn column := by
  simp [field?, HasColumn]

theorem Table.enforces_rowField (t : Table) (column : String) :
    Enforces (t.rowField column) [t.columnRequirement column] := by
  refine .single (fun hcolumn => ?_) fun hcolumn => ?_
  · have hfield : t.field? column ≠ none := fun h => t.field?_eq_none_iff.1 h hcolumn
    obtain ⟨f, hf⟩ := Option.ne_none_iff_exists'.1 hfield
    exact ⟨_, by rw [rowField, hf]⟩
  · rw [rowField, t.field?_eq_none_iff.2 hcolumn]

theorem Table.enforces_rowFields (t : Table) (columns : List String) :
    Enforces (columns.mapM t.rowField) (columns.map t.columnRequirement) := by
  rw [List.map_eq_flatMap]
  exact .mapM fun column _ => t.enforces_rowField column

/-- A list with a star is not looked at; otherwise each of its columns is looked up. -/
theorem Table.enforces_targets (t : Table) (all : Bool) {columns named : List String}
    (hnamed : named = if all = true then [] else columns) (shape : ResultShape) :
    Enforces (if all = true then do
        let targets ← pure t.rowFields
        return Decoding.mk shape targets
      else do
        let targets ← columns.mapM t.rowField
        return Decoding.mk shape targets) (named.map t.columnRequirement) := by
  subst hnamed
  cases all with
  | true => exact .ok _
  | false =>
    rw [← List.append_nil (List.map _ _)]
    exact (t.enforces_rowFields columns).bind fun targets _ => .ok _

theorem Select.enforces_decoding (s : Select) (kind : QueryKind) (t : Table) :
    Enforces (s.decoding kind t) ((Statement.select s).kindRequirements kind t ++
      (Statement.select s).namedColumns.map t.columnRequirement) := by
  have hnamed : (Statement.select s).namedColumns =
      if s.selectsAll = true then [] else s.columns := by
    rw [Statement.namedColumns, selectsAll]
    cases s.columns <;> simp
  have hbind {shape? : Except CompileError ResultShape}
      (h : Enforces shape? ((Statement.select s).kindRequirements kind t)) :=
    h.bind fun shape _ => t.enforces_targets s.selectsAll hnamed shape
  cases kind with
  | one => exact hbind (.single (fun _ => ⟨.single t.rowType, rfl⟩) fun h => absurd nofun h)
  | many => exact hbind (.single (fun _ => ⟨.list t.rowType, rfl⟩) fun h => absurd nofun h)
  | exec => exact hbind (.single (fun h => absurd rfl h) fun _ => rfl)

theorem Insert.enforces_decoding (i : Insert) (kind : QueryKind) (t : Table) :
    Enforces (i.decoding kind t) ((Statement.insert i).namedColumns.map t.columnRequirement) := by
  rw [Statement.namedColumns, List.map_append]
  refine (t.enforces_rowFields i.columns).bind fun _ _ => ?_
  have hnamed : (if "*" ∈ i.returning then [] else i.returning) =
      if i.returnsAll = true then [] else i.returning := by
    simp [returnsAll]
  split
  · rename_i hempty
    rw [List.isEmpty_iff.1 hempty]
    exact .ok _
  · exact t.enforces_targets i.returnsAll hnamed _

theorem Statement.enforces_decoding (s : Statement) (kind : QueryKind) (t : Table) :
    Enforces (s.decoding kind t)
      (s.kindRequirements kind t ++ s.namedColumns.map t.columnRequirement) := by
  cases s with
  | select s => exact s.enforces_decoding kind t
  | insert i => exact i.enforces_decoding kind t

theorem Params.enforces_bindType (hr : r.Indexed) {columns : List ResolvedColumn}
    (hcolumns : r.resolveTable t = .ok columns) (pointers : Bool) (b : Bind) :
    Enforces (bindType r t columns pointers b.column) [r.bindRequirement t b] := by
  have hcolumn := column?_of_mapM_resolveField hcolumns b.column
  cases hfield : t.field? b.column with
  | some f =>
    have hhas : t.HasColumn b.column := by
      by_contra hnot
      rw [t.field?_eq_none_iff.2 hnot] at hfield
      cases hfield
    unfold Table.field? at hfield
    simp only [hfield] at hcolumn
    obtain ⟨type, -, hcolumn⟩ := hcolumn
    simp only [bindType, hcolumn]
    exact .single (fun _ => ⟨_, rfl⟩) fun h => absurd (Or.inl hhas) h
  | none =>
    have hhas := t.field?_eq_none_iff.1 hfield
    unfold Table.field? at hfield
    simp only [hfield] at hcolumn
    simp only [bindType, hcolumn]
    refine .single (fun hmet => ?_) fun hunmet => ?_
    · obtain ⟨e, he, hname⟩ := hmet.resolve_left hhas
      have henum := hr.enumeration?_eq_some_iff.2 ⟨he, Text.lower_eq_of_equalIgnoringCase hname⟩
      exact ⟨.string, by simp only [henum, hname, if_true]⟩
    · split
      · rename_i e henum
        refine if_neg fun hname => hunmet (Or.inr ⟨e, ?_, hname⟩)
        exact (hr.enumeration?_eq_some_iff.1 henum).1
      · rfl

theorem Params.enforces_struct? {typeOf : String → Except CompileError GoType}
    {q : Bind → Requirement CompileError} (h : ∀ b, Enforces (typeOf b.column) [q b])
    (query : String) (binds : List Bind) : Enforces (struct? query typeOf binds) (binds.map q) := by
  rw [← List.append_nil (binds.map q), List.map_eq_flatMap]
  refine .bind (.foldlM (fun entries b _ => ?_) []) fun entries _ => ?_
  · rw [← List.append_nil [q b]]
    refine (h b).bind fun type _ => ?_
    split <;> exact .ok _
  · split <;> exact .ok _

/-- Renumbering the placeholders changes no requirement. -/
theorem Statement.map_bindRequirement_withDensePositions (s : Statement) :
    s.withDensePositions.binds.map (r.bindRequirement t) = s.binds.map (r.bindRequirement t) := by
  rw [withDensePositions, binds_mapBinds, List.map_map]
  refine List.map_congr_left fun b _ => ?_
  simp only [Function.comp_apply, Registry.bindRequirement, Bind.column_renumber]

theorem enforces_generate (hr : r.Indexed) {s : Statement} (ht : r.HasTable s.table t) (name : String)
    (kind : QueryKind) : Enforces (generate r name kind s) (s.requirements r kind t) := by
  have hdecoding : s.withDensePositions.decoding kind t = s.decoding kind t := by cases s <;> rfl
  unfold generate
  rw [hr.table_eq_ok_iff.2 ht]
  refine (hr.enforces_resolveTable t).bind fun columns hcolumns => ?_
  rw [← List.append_assoc]
  refine .bind (hdecoding ▸ s.enforces_decoding kind t) fun d _ => ?_
  rw [← s.map_bindRequirement_withDensePositions, ← List.append_nil (List.map _ _)]
  exact (Params.enforces_struct? (Params.enforces_bindType hr hcolumns _) name _).bind fun _ _ => .ok _

end

/-- In a registry into which items were inserted, whichever of them failed, a method is generated for
a statement exactly if its table is there and all requirements on it are met. Otherwise the error is
that of the table, or of the first requirement that is not met. -/
theorem generate_enforces (items : List SchemaItem) (name : String) (kind : QueryKind)
    (s : Statement) :
    let r := Registry.empty.insertEach items
    ((∀ t, ¬ r.HasTable s.table t) → generate r name kind s = .error (.unknownTable s.table)) ∧
      ∀ t, r.HasTable s.table t → Enforces (generate r name kind s) (s.requirements r kind t) := by
  intro r
  have hr : r.Indexed := Registry.indexed_empty.insertEach items
  refine ⟨fun hnone => ?_, fun t ht => enforces_generate hr ht name kind⟩
  unfold generate
  rw [hr.table_eq_error hnone]
  rfl

/-- The second enumeration has the name of the table in other letters and is not taken up. -/
def gradedItems : List SchemaItem :=
  [.table ⟨"tasks", [.plain "id" .int, .plain "level" (.enum "Grade")]⟩,
    .enumeration ⟨"grade", ["low", "high"]⟩, .enumeration ⟨"TASKS", []⟩]

/-- A condition on the name of an enumeration, and one on a name that stands for nothing. -/
def gradedTasks : Statement :=
  .select ⟨false, ["ID"], "Tasks", [⟨none, "GRADE", .eq, ⟨"GRADE", .param 1⟩⟩,
    ⟨some .and, "SIZE", .gt, ⟨"SIZE", .literal (.integer 3)⟩⟩], none, none⟩

/-- The size is the first requirement that is not met, as the kind fits. An enumeration is no table,
whatever the kind is. -/
theorem generate_enforces_gradedTasks :
    let r := Registry.empty.insertEach gradedItems
    (∃ t, r.HasTable "Tasks" t) ∧
      generate r "GradedTasks" .many gradedTasks = .error (.unknownColumn "tasks" "size") ∧
      generate r "Grades" .exec (.select ⟨false, ["*"], "Grade", [], none, none⟩) =
        .error (.unknownTable "Grade") := by
  intro r
  have hitems : r.items = gradedItems.take 2 := by decide +kernel
  have htable : r.HasTable "Tasks" ⟨"tasks", [.plain "id" .int, .plain "level" (.enum "Grade")]⟩ := by
    rw [Registry.HasTable, hitems]
    decide +kernel
  have hgrade : ∀ t, ¬ r.HasTable "Grade" t := by
    rintro t ⟨ht, hkey⟩
    rw [hitems] at ht
    obtain rfl : t = _ := by simpa [gradedItems] using ht
    revert hkey
    decide +kernel
  refine ⟨⟨_, htable⟩, ?_, (generate_enforces gradedItems _ _ (.select _)).1 hgrade⟩
  have hsize : Text.lower "SIZE" = "size" := by decide +kernel
  rw [← hsize, ((generate_enforces gradedItems "GradedTasks" .many gradedTasks).2 _ htable).fails_iff]
  refine .later ⟨⟨"grade", ["low", "high"]⟩, ?_, by decide +kernel⟩ (.later nofun (.later ?_ (.later
    (Or.inr ⟨⟨"grade", ["low", "high"]⟩, ?_, by decide +kernel⟩) (.here ?_ rfl))))
  · rw [hitems]
    decide
  · show ∃ f ∈ _, _
    decide +kernel
  · rw [hitems]
    decide
  · rintro (hcolumn | ⟨e, he, hname⟩)
    · revert hcolumn
      show ¬ ∃ f ∈ _, _
      decide +kernel
    · rw [hitems] at he
      obtain rfl : e = _ := by simpa [gradedItems] using he
      revert hname
      decide +kernel

end TypedQueries
