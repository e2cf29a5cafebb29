import TypedQueries.Compilation
import TypedQueries.Proofs.RegistryIndex

/-!
The order of declarations does not count. What is made of a registry depends on what its names lead
to, and that is the same for registries of the same items.
-/

namespace TypedQueries

namespace Registry

/-- Every name leads to the same item in both registries. -/
def Agree (r r' : Registry) : Prop := ∀ name, r.get? name = r'.get? name

namespace Agree

variable {r r' : Registry}

theorem of_perm (h : r.Indexed) (h' : r'.Indexed) (hitems : r.items.Perm r'.items) : r.Agree r' := by
  intro name
  apply Option.ext
  intro item
  rw [h.get?_eq_some_iff, h'.get?_eq_some_iff, hitems.mem_iff]

theorem table (h : r.Agree r') (name : String) : r.table name = r'.table name := by
  unfold Registry.table
  rw [h name]

theorem enumeration? (h : r.Agree r') (name : String) :
    r.enumeration? name = r'.enumeration? name := by
  unfold Registry.enumeration?
  rw [h name]

theorem goType (h : r.Agree r') (type : DataType) : r.goType type = r'.goType type := by
  cases type with
  | enum name => simp only [Registry.goType, h.enumeration? name]
  | _ => rfl

theorem resolveTable (h : r.Agree r') (t : Table) : r.resolveTable t = r'.resolveTable t := by
  have hfield : r.resolveField = r'.resolveField := by
    funext f
    unfold Registry.resolveField
    rw [h.goType f.dataType]
  unfold Registry.resolveTable
  rw [hfield]

theorem bindType (h : r.Agree r') (t : Table) (columns : List ResolvedColumn) (pointers : Bool) :
    Params.bindType r t columns pointers = Params.bindType r' t columns pointers := by
  funext name
  unfold Params.bindType
  rw [h.enumeration? name]

theorem generate (h : r.Agree r') (name : String) (kind : QueryKind) (s : Statement) :
    generate r name kind s = generate r' name kind s := by
  have htable : r.resolveTable = r'.resolveTable := funext h.resolveTable
  have hbind : Params.bindType r = Params.bindType r' := by
    funext t columns pointers
    exact h.bindType t columns pointers
  unfold TypedQueries.generate
  rw [h.table, htable, hbind]

end Agree

section

variable {r d : Registry} {items : List SchemaItem}

theorem items_of_insertAll (h : r.insertAll items = (d, none)) : d.items = r.items ++ items := by
  induction items generalizing r with
  | nil =>
    cases h
    exact (List.append_nil _).symm
  | cons item items ih =>
    rcases insert_cases r item with ⟨-, heq⟩ | ⟨-, heq⟩ <;> simp only [insertAll, heq] at h
    · cases h
    · simpa using ih h

theorem Indexed.insertAll (hr : r.Indexed) (items : List SchemaItem) :
    (r.insertAll items).1.Indexed := by
  induction items generalizing r with
  | nil => exact hr
  | cons item items ih =>
    rcases insert_cases r item with ⟨-, heq⟩ | ⟨hnew, heq⟩ <;> simp only [Registry.insertAll, heq]
    · exact hr
    · exact ih (hr.append hnew)

/-- Items of different keys are all taken up. -/
theorem insertAll_of_nodup (hr : r.Indexed) (h : ((r.items ++ items).map SchemaItem.key).Nodup) :
    (r.insertAll items).2 = none := by
  induction items generalizing r with
  | nil => rfl
  | cons item items ih =>
    have hnew : r.index.lookup item.key = none := by
      rw [hr.lookup_eq_none]
      intro stored hstored hkey
      rw [List.map_append, List.nodup_append] at h
      exact h.2.2 _ (List.mem_map_of_mem hstored) _ (List.mem_map_of_mem List.mem_cons_self) hkey
    rcases insert_cases r item with ⟨htaken, -⟩ | ⟨-, heq⟩
    · simp [hnew] at htaken
    · simp only [insertAll, heq]
      exact ih (hr.append hnew) (by simpa using h)

theorem indexed_of_ofItems (h : ofItems items = .ok r) : r.Indexed ∧ r.items = items := by
  have hindexed := indexed_empty.insertAll items
  unfold ofItems at h
  split at h
  · rename_i heq
    cases h
    rw [heq] at hindexed
    exact ⟨hindexed, items_of_insertAll heq⟩
  · cases h

theorem exists_ofItems_iff : (∃ r, ofItems items = .ok r) ↔ (items.map SchemaItem.key).Nodup := by
  constructor
  · rintro ⟨r, h⟩
    obtain ⟨hindexed, rfl⟩ := indexed_of_ofItems h
    exact hindexed.nodup_keys
  · intro h
    have hnone : (empty.insertAll items).2 = none := insertAll_of_nodup indexed_empty h
    refine ⟨(empty.insertAll items).1, ?_⟩
    unfold ofItems
    split
    · rename_i heq
      rw [heq]
    · rename_i heq
      rw [heq] at hnone
      cases hnone

theorem mem_tables {t : Table} : t ∈ r.tables ↔ .table t ∈ r.items := by
  unfold tables
  rw [List.mem_filterMap]
  constructor
  · rintro ⟨item, hitem, h⟩
    cases item <;> cases h
    exact hitem
  · intro h
    exact ⟨_, h, rfl⟩

theorem checked_eq_ok_iff :
    checked items = .ok r ↔
      ofItems items = .ok r ∧ ∀ t ∈ r.tables, ∃ columns, r.resolveTable t = .ok columns := by
  rw [← exists_mapM_eq_ok_iff]
  constructor
  · intro h
    obtain ⟨r', hr', h⟩ := bind_eq_ok.1 h
    obtain ⟨columns, hcolumns, h⟩ := bind_eq_ok.1 h
    cases h
    exact ⟨hr', columns, hcolumns⟩
  · rintro ⟨hr, columns, hcolumns⟩
    exact bind_eq_ok.2 ⟨r, hr, bind_eq_ok.2 ⟨columns, hcolumns, rfl⟩⟩

end

section

variable {items items' : List SchemaItem}

theorem agree_of_ofItems (hitems : items.Perm items') {r r' : Registry} (h : ofItems items = .ok r)
    (h' : ofItems items' = .ok r') : r.Agree r' := by
  obtain ⟨hindexed, rfl⟩ := indexed_of_ofItems h
  obtain ⟨hindexed', rfl⟩ := indexed_of_ofItems h'
  exact .of_perm hindexed hindexed' hitems

/-- A registry of the same items in another order passes the check too. -/
theorem exists_checked_of_perm (hitems : items.Perm items') {r : Registry}
    (h : checked items = .ok r) : ∃ r', checked items' = .ok r' := by
  obtain ⟨hr, htables⟩ := checked_eq_ok_iff.1 h
  have hnodup := exists_ofItems_iff.1 ⟨r, hr⟩
  obtain ⟨r', hr'⟩ := exists_ofItems_iff.2 ((hitems.map SchemaItem.key).nodup_iff.1 hnodup)
  have hagree := agree_of_ofItems hitems hr hr'
  obtain ⟨-, rfl⟩ := indexed_of_ofItems hr
  obtain ⟨-, rfl⟩ := indexed_of_ofItems hr'
  refine ⟨r', checked_eq_ok_iff.2 ⟨hr', ?_⟩⟩
  intro t ht
  rw [← hagree.resolveTable]
  exact htables t (mem_tables.2 (hitems.mem_iff.2 (mem_tables.1 ht)))

end

end Registry

/-- Of the same declarations in two orders either both are accepted or none; and if they are, every
statement gives the same query or the same error against both. -/
theorem generate_of_perm {items items' : List SchemaItem} (hitems : items.Perm items') :
    ((∃ r, Registry.checked items = .ok r) ↔ ∃ r', Registry.checked items' = .ok r') ∧
      ∀ r r', Registry.checked items = .ok r → Registry.checked items' = .ok r' →
        ∀ name kind s, generate r name kind s = generate r' name kind s := by
  refine ⟨⟨?_, ?_⟩, ?_⟩
  · rintro ⟨r, h⟩
    exact Registry.exists_checked_of_perm hitems h
  · rintro ⟨r', h'⟩
    exact Registry.exists_checked_of_perm hitems.symm h'
  · intro r r' h h'
    have hr := (Registry.checked_eq_ok_iff.1 h).1
    have hr' := (Registry.checked_eq_ok_iff.1 h').1
    exact (Registry.agree_of_ofItems hitems hr hr').generate

/-- A table with a column of an enumeration that is declared behind it, under a name in other
letters. -/
def moodItems : List SchemaItem :=
  [.table ⟨"notes", [.plain "id" .int, .plain "mood" (.enum "Mood")]⟩,
    .enumeration ⟨"mood", ["good", "bad"]⟩]

theorem generate_of_perm_moodItems :
    moodItems.Perm moodItems.reverse ∧
      ∃ r r', Registry.checked moodItems = .ok r ∧ Registry.checked moodItems.reverse = .ok r' ∧
        ∀ name kind s, generate r name kind s = generate r' name kind s := by
  have hitems : moodItems.Perm moodItems.reverse := (List.reverse_perm moodItems).symm
  obtain ⟨hiff, hgenerate⟩ := generate_of_perm hitems
  have hok : (Registry.checked moodItems).isOk = true := by decide +kernel
  cases h : Registry.checked moodItems with
  | error e =>
    rw [h] at hok
    cases hok
  | ok r =>
    obtain ⟨r', h'⟩ := hiff.1 ⟨r, h⟩
    exact ⟨hitems, r, r', rfl, h', hgenerate r r' h h'⟩

end TypedQueries
