import Mathlib.Data.Char
import Mathlib.Data.List.Lex
import Mathlib.Data.String.Basic
import TypedQueries.Files.Tree
import TypedQueries.Proofs.FollowedPaths
import TypedQueries.Proofs.SiblingPaths

/-!
Paths to what lies below a directory. Names of entries put behind a path, one after the other, are
its last components; so the paths below a directory are ordered as the names that lead there, and
the last name decides on the extension.
-/

namespace TypedQueries

theorem slash_notMem_of_isEntryName {n : String} (h : isEntryName n = true) : '/' ∉ n.toList := by
  simp only [isEntryName, Bool.and_eq_true] at h
  simpa using h.2

namespace Path

variable {p : Path} {n : String}

/-- The text behind the leading slash of an absolute path. -/
def body (p : Path) : List Char := if p.isAbsolute then p.text.toList.drop 1 else p.text.toList

theorem toList_text (p : Path) :
    p.text.toList = (if p.isAbsolute then ['/'] else []) ++ p.body := by
  unfold body
  cases habsolute : p.isAbsolute with
  | false => rfl
  | true =>
    obtain ⟨rest, hrest⟩ : ∃ rest, p.text.toList = '/' :: rest := by
      rw [isAbsolute, beq_iff_eq] at habsolute
      exact List.head?_eq_some_iff.1 habsolute
    simp [hrest]

theorem pieces_append (hp : p.text ≠ "") (more : String) :
    (Path.mk (p.text ++ more)).isAbsolute = p.isAbsolute ∧
      (Path.mk (p.text ++ more)).pieces = cutAtSlashes (p.body ++ more.toList) := by
  obtain ⟨c, cs, hcs⟩ : ∃ c cs, p.text.toList = c :: cs :=
    List.exists_cons_of_ne_nil fun h => hp (String.toList_inj.1 h)
  have habsolute : (Path.mk (p.text ++ more)).isAbsolute = p.isAbsolute := by
    simp [isAbsolute, hcs]
  refine ⟨habsolute, ?_⟩
  rw [pieces, habsolute, body]
  cases p.isAbsolute <;> simp [hcs]

/-- The pieces of a relative path are put behind those of a path, from its last one on if that is
empty. -/
theorem pieces_join_of_relative {q : Path} (hp : p.text ≠ "") (hq : q.isAbsolute = false) :
    (p.join q).isAbsolute = p.isAbsolute ∧
      ((p.join q).pieces = p.pieces ++ q.pieces ∨
        ∃ front, p.pieces = front ++ [[]] ∧ (p.join q).pieces = front ++ q.pieces) := by
  rw [join, if_neg (by simp [hq])]
  have hpieces : p.pieces = cutAtSlashes p.body := rfl
  have hpieces' : q.pieces = cutAtSlashes q.text.toList := by
    rw [pieces, if_neg (by simp [hq])]
  split
  · -- the text ends in a slash, so that nothing stands behind its last cut.
    rename_i hend
    obtain ⟨habsolute, hjoin⟩ := pieces_append hp q.text
    refine ⟨habsolute, .inr ?_⟩
    rw [hjoin, hpieces, hpieces']
    rcases p.body.eq_nil_or_concat with hbody | ⟨init, c, hbody⟩
    · exact ⟨[], by simp [hbody, cutAtSlashes], by simp [hbody]⟩
    · have hc : c = '/' := by
        rw [toList_text, hbody] at hend
        simpa using hend
      refine ⟨cutAtSlashes init, ?_⟩
      rw [hbody, hc]
      simp [cutAtSlashes_append, cutAtSlashes]
  · obtain ⟨habsolute, hjoin⟩ := pieces_append hp ("/" ++ q.text)
    rw [String.append_assoc]
    refine ⟨habsolute, .inl ?_⟩
    rw [hjoin, hpieces, hpieces']
    simp [cutAtSlashes_append]

theorem pieces_mk (hn : '/' ∉ n.toList) : (Path.mk n).pieces = [n.toList] := by
  simp [pieces, isAbsolute_mk hn, cutAtSlashes_of_notMem hn]

/-- A name is put behind the last piece of a path, or in its place if that is empty. -/
theorem pieces_join (hp : p.text ≠ "") (hn : '/' ∉ n.toList) :
    (p.join ⟨n⟩).isAbsolute = p.isAbsolute ∧
      ((p.join ⟨n⟩).pieces = p.pieces ++ [n.toList] ∨
        ∃ front, p.pieces = front ++ [[]] ∧ (p.join ⟨n⟩).pieces = front ++ [n.toList]) := by
  have hjoin := pieces_join_of_relative hp (isAbsolute_mk hn)
  rwa [pieces_mk hn] at hjoin

theorem text_join_ne_empty (hp : p.text ≠ "") (hn : '/' ∉ n.toList) : (p.join ⟨n⟩).text ≠ "" := by
  rw [join, if_neg (by simp [isAbsolute_mk hn])]
  split <;> simp [hp]

/-- What the components of a path begin with, if that is no name. -/
def lead (p : Path) : List Component :=
  if p.isAbsolute then [.root] else if p.pieces.head? = some ['.'] then [.current] else []

theorem components_eq (p : Path) : p.components = p.lead ++ p.pieces.filterMap component? := by
  have hdot : component? ['.'] = none := rfl
  rw [components, lead]
  split
  · rfl
  · split
    · rename_i rest heq
      simp [heq, hdot]
    · rename_i hne
      have hhead : p.pieces.head? ≠ some ['.'] := by
        intro h
        obtain ⟨rest, hrest⟩ := List.head?_eq_some_iff.1 h
        exact hne rest hrest
      rw [if_neg hhead, List.nil_append]

theorem lead_join {q : Path} (hp : p.text ≠ "") (hq : q.isAbsolute = false) :
    (p.join q).lead = p.lead := by
  obtain ⟨habsolute, hpieces⟩ := pieces_join_of_relative hp hq
  rw [lead, lead, habsolute]
  cases hp' : p.isAbsolute with
  | true => rfl
  | false =>
    have hhead : (p.join q).pieces.head? = p.pieces.head? := by
      rcases hpieces with hpieces | ⟨front, hfront, hpieces⟩
      · have hne : p.pieces ≠ [] := cutAtSlashes_ne_nil _
        rw [hpieces, List.head?_append_of_ne_nil _ hne]
      · have hne : front ≠ [] := by
          rintro rfl
          exact head?_pieces hp' hp (by rw [hfront]; rfl)
        rw [hpieces, hfront, List.head?_append_of_ne_nil _ hne, List.head?_append_of_ne_nil _ hne]
    rw [hhead]

/-- A relative path put behind a path goes on with its components, but for the dot in front. -/
theorem components_join_of_relative {q : Path} (hp : p.text ≠ "") (hq : q.isAbsolute = false) :
    (p.join q).components = p.components ++ q.pieces.filterMap component? := by
  have hempty : component? [] = none := rfl
  rw [components_eq, components_eq, lead_join hp hq]
  rcases (pieces_join_of_relative hp hq).2 with hpieces | ⟨front, hfront, hpieces⟩
  · simp [hpieces]
  · simp [hpieces, hfront, hempty]

/-- A name put behind a path is its last component. -/
theorem components_join (hp : p.text ≠ "") (hn : isEntryName n = true) :
    (p.join ⟨n⟩).components = p.components ++ [.name n] := by
  have hslash := slash_notMem_of_isEntryName hn
  rw [components_join_of_relative hp (isAbsolute_mk hslash), pieces_mk hslash]
  simp [component?_of_isEntryName hn]

/-- The path that goes on from a path through the given names. -/
def down (p : Path) (names : Place) : Path := names.foldl (fun p name => p.join ⟨name⟩) p

theorem components_down {names : Place} (hp : p.text ≠ "")
    (hnames : ∀ n ∈ names, isEntryName n = true) :
    (p.down names).components = p.components ++ names.map Component.name := by
  induction names generalizing p with
  | nil => simp [down]
  | cons n names ih =>
    rw [List.forall_mem_cons] at hnames
    have hjoin := text_join_ne_empty hp (slash_notMem_of_isEntryName hnames.1)
    have hrest := ih hjoin hnames.2
    rw [components_join hp hnames.1] at hrest
    simpa [down] using hrest

/-- A stem that is not empty, a dot, and the extension, which has no dot. -/
def HasExtension (name extension : String) : Prop :=
  ∃ stem, stem ≠ "" ∧ '.' ∉ extension.toList ∧ name = stem ++ "." ++ extension

theorem extension?_eq_some_iff {name extension : String} (hname : p.fileName? = some name) :
    p.extension? = some extension ↔ HasExtension name extension := by
  rw [extension?, hname]
  dsimp only [bind, Option.bind]
  constructor
  · intro h
    split at h
    · cases h
    · cases h
    · rename_i dot last rest hdrop
      obtain rfl := Option.some.inj h
      have hdot : dot = '.' := by
        have hhead := List.head?_dropWhile_not (· != '.') name.toList.reverse
        simpa [hdrop] using hhead
      have hfree : '.' ∉ name.toList.reverse.takeWhile (· != '.') := fun hmem => by
        simpa using (List.all_eq_true.1 List.all_takeWhile) '.' hmem
      have hparts := List.takeWhile_append_dropWhile (p := (· != '.')) (l := name.toList.reverse)
      rw [hdrop, hdot] at hparts
      generalize name.toList.reverse.takeWhile (· != '.') = word at hfree hparts
      refine ⟨String.ofList (last :: rest).reverse, by simp [← String.toList_inj], by simpa, ?_⟩
      rw [← String.toList_inj, ← List.reverse_inj, ← hparts]
      simp
  · rintro ⟨stem, hstem, hdot, rfl⟩
    have hne : stem.toList.reverse ≠ [] := fun h =>
      hstem (String.toList_inj.1 (List.reverse_eq_nil_iff.1 h))
    obtain ⟨last, rest, hrest⟩ := List.exists_cons_of_ne_nil hne
    have hfree : ∀ c ∈ extension.toList.reverse, (c != '.') = true := fun c hc => by
      rw [List.mem_reverse] at hc
      simpa using ne_of_mem_of_not_mem hc hdot
    have hreverse : (stem ++ "." ++ extension).toList.reverse =
        extension.toList.reverse ++ '.' :: last :: rest := by simp [hrest]
    rw [hreverse, List.dropWhile_append_of_pos hfree, List.takeWhile_append_of_pos hfree]
    simp

/-- The last of the names decides on the extension. -/
theorem extension?_down {names : Place} (hp : p.text ≠ "")
    (hnames : ∀ n ∈ names, isEntryName n = true) (hne : names ≠ []) (extension : String) :
    (p.down names).extension? = some extension ↔
      ∃ name, names.getLast? = some name ∧ HasExtension name extension := by
  have hlast := List.getLast?_eq_some_getLast hne
  have hname : (p.down names).fileName? = some (names.getLast hne) := by
    rw [fileName?, components_down hp hnames, List.getLast?_append, List.getLast?_map, hlast]
    rfl
  rw [extension?_eq_some_iff hname, hlast]
  simp

end Path

section Order

theorem lexLe_append {α : Type} [BEq α] [LawfulBEq α] (le : α → α → Bool) (front as bs : List α) :
    lexLe le (front ++ as) (front ++ bs) = lexLe le as bs := by
  induction front with
  | nil => rfl
  | cons a front ih => simpa [lexLe] using ih

/-- An order that agrees with a linear one on keys agrees with it on lists of keys. -/
theorem lexLe_map {α β : Type} [LinearOrder α] [BEq β] [LawfulBEq β] {le : β → β → Bool}
    {key : α → β} (hkey : Function.Injective key)
    (hle : ∀ a b, le (key a) (key b) = decide (a ≤ b)) (as bs : List α) :
    lexLe le (as.map key) (bs.map key) = decide (as ≤ bs) := by
  induction as generalizing bs with
  | nil =>
    have hnil : [] ≤ bs := not_lt.1 (List.not_lt_nil bs)
    simp [lexLe, hnil]
  | cons a as ih =>
    cases bs with
    | nil => simp [lexLe]
    | cons b bs =>
      have hcons : a :: as ≤ b :: bs ↔ a < b ∨ a = b ∧ as ≤ bs := by
        rw [← not_lt, ← not_lt]
        exact List.cons_le_cons_iff
      rw [List.map_cons, List.map_cons, lexLe, hle, ih, Bool.eq_iff_iff, decide_eq_true_iff, hcons]
      by_cases hab : a = b
      · simp [hab]
      · simp [hkey.ne hab, hab, le_iff_lt_or_eq]

theorem toNat_injective : Function.Injective Char.toNat := fun _ _ h => Char.toNat_inj.1 h

theorem Component.key_name_injective : Function.Injective fun n => (Component.name n).key := by
  intro n m h
  exact String.toList_inj.1 (List.map_injective_iff.2 toNat_injective (List.cons.inj h).2)

theorem lexLe_key_name (n m : String) :
    lexLe Nat.ble (Component.name n).key (Component.name m).key = decide (n ≤ m) := by
  have hchar : ∀ c d : Char, Nat.ble c.toNat d.toNat = decide (c ≤ d) := fun c d => by
    rw [Bool.eq_iff_iff, Nat.ble_eq, decide_eq_true_iff]
    exact Iff.rfl
  have hchars := lexLe_map toNat_injective hchar n.toList m.toList
  simpa [Component.key, lexLe, String.le_iff_toList_le] using hchars

end Order

namespace Path

variable {p : Path}

/-- The paths below a directory are ordered by the names that lead to them. -/
theorem le_down {as bs : Place} (hp : p.text ≠ "") (has : ∀ n ∈ as, isEntryName n = true)
    (hbs : ∀ n ∈ bs, isEntryName n = true) : (p.down as).le (p.down bs) = decide (as ≤ bs) := by
  rw [le, key, key, components_down hp has, components_down hp hbs, List.map_append,
    List.map_append, lexLe_append, List.map_map, List.map_map]
  exact lexLe_map Component.key_name_injective lexLe_key_name as bs

end Path

end TypedQueries
