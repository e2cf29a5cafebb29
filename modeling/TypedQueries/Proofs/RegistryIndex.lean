import Mathlib.Data.List.Nodup
import TypedQueries.Registry

/-!
Insertions into a registry, one after the other, some of which may fail. One insertion keeps the index
in step with the items, and so does every sequence of them. What a name leads to is then decided by
the items alone.
-/

namespace TypedQueries

/-- With a new key in front, a look-up finds what is new or what it found before. -/
theorem lookup_cons_of_new {β : Type} {entries : List (String × β)} {key other : String} {b b' : β}
    (hnew : entries.lookup key = none) :
    ((key, b) :: entries).lookup other = some b' ↔
      key = other ∧ b = b' ∨ entries.lookup other = some b' := by
  rw [List.lookup_cons]
  by_cases h : other = key
  · subst h
    simp [hnew]
  · simp [beq_eq_false_iff_ne.2 h, Ne.symm h]

/-- The key under which an item stands in an index: its name in lower case. -/
def SchemaItem.key (item : SchemaItem) : String := Text.lower item.name

namespace Registry

/-- The index leads from the key of each item to its place, and from no other key; and no two items
have the same key. -/
structure Indexed (r : Registry) : Prop where
  lookup_index : ∀ key place,
    r.index.lookup key = some place ↔ ∃ item, r.items[place]? = some item ∧ item.key = key
  nodup_keys : (r.items.map SchemaItem.key).Nodup

theorem indexed_empty : empty.Indexed :=
  ⟨fun key place => by simp [empty], List.nodup_nil⟩

section

variable {r : Registry} {item : SchemaItem}

theorem getElem?_append_singleton {items : List SchemaItem} {other : SchemaItem} {place : Nat} :
    (items ++ [item])[place]? = some other ↔
      items[place]? = some other ∨ place = items.length ∧ other = item := by
  rw [List.getElem?_append]
  split
  · rename_i hlt
    simp [Nat.ne_of_lt hlt]
  · rename_i hle
    rw [List.getElem?_singleton, List.getElem?_eq_none (Nat.le_of_not_lt hle)]
    grind

/-- An insertion does one of two things. -/
theorem insert_cases (r : Registry) (item : SchemaItem) :
    (r.index.lookup item.key).isSome ∧
        r.insert item = (r, some (.duplicateDeclaration item.name)) ∨
      r.index.lookup item.key = none ∧
        r.insert item = (⟨r.items ++ [item], (item.key, r.items.length) :: r.index⟩, none) := by
  have hkey : Text.lower item.name = item.key := rfl
  cases h : r.index.lookup item.key with
  | some place => exact Or.inl ⟨rfl, by simp [insert, hkey, h]⟩
  | none => exact Or.inr ⟨rfl, by simp [insert, hkey, h]⟩

namespace Indexed

theorem isSome_lookup (h : r.Indexed) (key : String) :
    (r.index.lookup key).isSome ↔ ∃ item ∈ r.items, item.key = key := by
  rw [Option.isSome_iff_exists]
  constructor
  · rintro ⟨place, hplace⟩
    obtain ⟨item, hitem, hkey⟩ := (h.lookup_index key place).1 hplace
    exact ⟨item, List.mem_of_getElem? hitem, hkey⟩
  · rintro ⟨item, hitem, hkey⟩
    obtain ⟨place, hplace⟩ := List.mem_iff_getElem?.1 hitem
    exact ⟨place, (h.lookup_index key place).2 ⟨item, hplace, hkey⟩⟩

theorem lookup_eq_none (h : r.Indexed) (key : String) :
    r.index.lookup key = none ↔ ∀ item ∈ r.items, item.key ≠ key := by
  rw [← Option.not_isSome_iff_eq_none, h.isSome_lookup]
  simp

/-- What is added at the end has the place behind all others, and no other place changes. -/
theorem append (h : r.Indexed) (hnew : r.index.lookup item.key = none) :
    (Registry.mk (r.items ++ [item]) ((item.key, r.items.length) :: r.index)).Indexed := by
  have hfresh := (h.lookup_eq_none item.key).1 hnew
  constructor
  · intro key place
    simp only [lookup_cons_of_new hnew, h.lookup_index, getElem?_append_singleton]
    constructor
    · rintro (⟨rfl, rfl⟩ | ⟨other, hold, hkey⟩)
      · exact ⟨item, Or.inr ⟨rfl, rfl⟩, rfl⟩
      · exact ⟨other, Or.inl hold, hkey⟩
    · rintro ⟨other, hold | ⟨rfl, rfl⟩, hkey⟩
      · exact Or.inr ⟨other, hold, hkey⟩
      · exact Or.inl ⟨hkey, rfl⟩
  · rw [List.map_append, List.map_singleton, ← List.concat_eq_append, List.nodup_concat]
    refine ⟨?_, h.nodup_keys⟩
    intro hmem
    obtain ⟨other, hother, hkey⟩ := List.mem_map.1 hmem
    exact hfresh other hother hkey

theorem insert (h : r.Indexed) (item : SchemaItem) : (r.insert item).1.Indexed := by
  rcases insert_cases r item with ⟨-, heq⟩ | ⟨hnew, heq⟩
  · rw [heq]
    exact h
  · rw [heq]
    exact h.append hnew

theorem insert_eq_error_iff (h : r.Indexed) (item : SchemaItem) :
    (r.insert item).2 = some (.duplicateDeclaration item.name) ↔
      ∃ stored ∈ r.items, stored.key = item.key := by
  rw [← h.isSome_lookup]
  rcases insert_cases r item with ⟨htaken, heq⟩ | ⟨hnew, heq⟩
  · simp [heq, htaken]
  · simp [heq, hnew]

theorem get?_eq_some_iff (h : r.Indexed) {name : String} :
    r.get? name = some item ↔ item ∈ r.items ∧ item.key = Text.lower name := by
  unfold get?
  simp only [Option.bind_eq_bind, Option.bind_eq_some_iff, h.lookup_index]
  constructor
  · rintro ⟨place, ⟨other, hother, hkey⟩, hplace⟩
    cases hother.symm.trans hplace
    exact ⟨List.mem_of_getElem? hplace, hkey⟩
  · rintro ⟨hitem, hkey⟩
    obtain ⟨place, hplace⟩ := List.mem_iff_getElem?.1 hitem
    exact ⟨place, ⟨item, hplace, hkey⟩, hplace⟩

theorem get?_eq_none_iff (h : r.Indexed) {name : String} :
    r.get? name = none ↔ ∀ item ∈ r.items, item.key ≠ Text.lower name := by
  rw [Option.eq_none_iff_forall_ne_some]
  constructor
  · intro hnone item hitem hkey
    exact hnone item (h.get?_eq_some_iff.2 ⟨hitem, hkey⟩)
  · intro hall item hitem
    obtain ⟨hmem, hkey⟩ := h.get?_eq_some_iff.1 hitem
    exact hall item hmem hkey

end Indexed

end

/-- Inserts items one by one, and goes on behind those that fail. -/
def insertEach (r : Registry) (items : List SchemaItem) : Registry :=
  items.foldl (fun r item => (r.insert item).1) r

/-- The items, in order, whose insertion succeeds when they are inserted one by one. -/
def accepted (r : Registry) : List SchemaItem → List SchemaItem
  | [] => []
  | item :: items =>
    match r.insert item with
    | (after, none) => item :: after.accepted items
    | (after, some _) => after.accepted items

theorem Indexed.insertEach {r : Registry} (h : r.Indexed) (items : List SchemaItem) :
    (r.insertEach items).Indexed := by
  induction items generalizing r with
  | nil => exact h
  | cons item items ih => exact ih (h.insert item)

/-- Nothing but what succeeds is added, behind what was there. -/
theorem items_insertEach (r : Registry) (items : List SchemaItem) :
    (r.insertEach items).items = r.items ++ r.accepted items := by
  induction items generalizing r with
  | nil => simp [insertEach, accepted]
  | cons item items ih =>
    have hstep : r.insertEach (item :: items) = (r.insert item).1.insertEach items := rfl
    rw [hstep, ih]
    rcases insert_cases r item with ⟨-, heq⟩ | ⟨-, heq⟩
    · simp [accepted, heq]
    · simp [accepted, heq]

/-- What a registry is, into which items were inserted one by one, whichever of them failed. -/
structure Collects (items : List SchemaItem) (r : Registry) : Prop where
  /-- The index and the items are in step. -/
  indexed : r.Indexed
  /-- The items are those whose insertion succeeded, in their order. -/
  items_eq : r.items = empty.accepted items
  /-- Later insertions leave every item in its place. -/
  stays : ∀ more, r.items <+: (r.insertEach more).items
  /-- An insertion fails for one reason, -/
  insert_fails_iff : ∀ item, (r.insert item).2 = some (.duplicateDeclaration item.name) ↔
    ∃ stored ∈ r.items, Text.lower stored.name = Text.lower item.name
  /-- with one error, and without effect. -/
  insert_error : ∀ item e, (r.insert item).2 = some e →
    e = .duplicateDeclaration item.name ∧ (r.insert item).1 = r
  /-- A name leads to the one item whose name has its lower case, -/
  get?_some : ∀ name item, r.get? name = some item ↔
    (item ∈ r.items ∧ Text.lower item.name = Text.lower name) ∧
      ∀ other ∈ r.items, Text.lower other.name = Text.lower name → other = item
  /-- and to none if there is no such item. -/
  get?_none : ∀ name, r.get? name = none ↔
    ∀ item ∈ r.items, Text.lower item.name ≠ Text.lower name

theorem collects_insertEach (items : List SchemaItem) : (empty.insertEach items).Collects items := by
  have h : (empty.insertEach items).Indexed := indexed_empty.insertEach items
  refine ⟨h, items_insertEach empty items, ?_, h.insert_eq_error_iff, ?_, ?_,
    fun _ => h.get?_eq_none_iff⟩
  · intro more
    rw [items_insertEach (empty.insertEach items) more]
    exact List.prefix_append _ _
  · intro item e he
    rcases insert_cases (empty.insertEach items) item with ⟨-, heq⟩ | ⟨-, heq⟩ <;>
      rw [heq] at he ⊢ <;> cases he
    exact ⟨rfl, rfl⟩
  · intro name item
    rw [h.get?_eq_some_iff]
    refine ⟨fun hitem => ⟨hitem, fun other hother hkey => ?_⟩, And.left⟩
    exact List.inj_on_of_nodup_map h.nodup_keys hother hitem.1 (hkey.trans hitem.2.symm)

/-- The last sigma of a word has a small form of its own, and one capital becomes two characters. -/
example :
    (empty.insertEach (["ΟΔΟΣ", "οδος", "οδοσ", "\u0130", "i\u0307", "I"].map fun name =>
      .enumeration ⟨name, []⟩)).items.map SchemaItem.name = ["ΟΔΟΣ", "οδοσ", "\u0130", "I"] := by
  decide +kernel

end Registry

end TypedQueries
