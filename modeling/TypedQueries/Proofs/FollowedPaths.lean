import Mathlib.Data.List.Induction
import TypedQueries.Fallible
import TypedQueries.Files.Tree
import TypedQueries.Proofs.SiblingPaths

/-!
How paths are followed. What a path leads to depends on the entries along its route only. So where
directories were added to a disk and nothing else, every path leads to what it led to before, unless
it passes through one of them.
-/

namespace TypedQueries

namespace FileTree

variable {t u : FileTree} {place q : Place} {pieces : List (List Char)}

theorem walk_append (t : FileTree) (place : Place) (front back : List (List Char)) :
    t.walk place (front ++ back) = t.walk place front >>= fun q => t.walk q back := by
  induction front generalizing place with
  | nil => rfl
  | cons piece front ih =>
    rw [List.cons_append, walk, walk]
    repeat' split
    all_goals first | exact ih _ | rfl

/-- A piece that names nothing leads nowhere else. -/
theorem eq_of_walk_singleton {place q : Place} {piece : List Char} (hpiece : component? piece = none)
    (h : t.walk place [piece] = .ok q) : q = place := by
  rw [walk] at h
  split at h
  · cases h
  · cases h
  · simp only [hpiece, walk, Except.ok.injEq] at h
    exact h.symm

/-- Trailing pieces that name nothing can be left out. -/
theorem walk_trimBack {place q : Place} (absolute : Bool) {before : List (List Char)}
    (h : t.walk place before.reverse = .ok q) :
    t.walk place (trimBack absolute before).reverse = .ok q := by
  fun_induction trimBack absolute before with
  | case1 => exact h
  | case2 piece before htrim ih =>
    have hpiece : component? piece = none := by
      rw [component?, if_pos (htrim.imp_right And.left)]
    rw [List.reverse_cons, walk_append] at h
    obtain ⟨q', hq', h⟩ := bind_eq_ok.1 h
    obtain rfl := eq_of_walk_singleton hpiece h
    exact ih hq'
  | case3 => exact h

/-- A path still leads to a directory if no directory on its way was lost. -/
theorem walk_of_directory (hkept : ∀ place, t.get? place = some .directory →
      u.get? place = some .directory) (h : t.walk place pieces = .ok q)
    (hq : t.get? q = some .directory) : u.walk place pieces = .ok q := by
  induction pieces generalizing place with
  | nil => exact h
  | cons piece pieces ih =>
    rw [walk] at h ⊢
    split at h
    · cases h
    · cases h
    · rename_i hplace
      rw [hkept place hplace]
      rcases hpiece : component? piece with - | (- | - | - | n) <;> simp only [hpiece] at h ⊢
      case some.name =>
        split at h
        · -- the name is that of a directory: it is the end, or the path goes on from there
          have hname : t.get? (place ++ [n]) = some .directory := by
            cases pieces with
            | nil =>
              cases h
              exact hq
            | cons next pieces =>
              rw [walk] at h
              split at h <;> first | assumption | cases h
          rw [hkept _ hname]
          exact ih h
        · cases h
      all_goals exact ih h

theorem self_mem_passed (place : Place) (components : List Component) :
    place ∈ Place.passed place components := by
  fun_induction Place.passed place components <;> simp_all

/-- What pieces lead to depends on the entries that they pass only. -/
theorem walk_congr
    (h : ∀ q ∈ Place.passed place (pieces.filterMap component?), t.get? q = u.get? q) :
    t.walk place pieces = u.walk place pieces := by
  induction pieces generalizing place with
  | nil => rfl
  | cons piece pieces ih =>
    have hplace : t.get? place = u.get? place := h place (self_mem_passed _ _)
    rw [walk, walk, hplace]
    split
    · rfl
    · rfl
    · rcases hpiece : component? piece with - | (- | - | - | n) <;>
        simp only [List.filterMap_cons, hpiece, Place.passed, List.forall_mem_cons] at h ⊢
      case some.name =>
        rw [h.2 _ (self_mem_passed _ _), ih h.2]
      case some.parent => exact ih h.2
      all_goals exact ih h

theorem mem_passed_of_walk (h : t.walk place pieces = .ok q) :
    q ∈ Place.passed place (pieces.filterMap component?) := by
  induction pieces generalizing place with
  | nil =>
    cases h
    exact List.mem_singleton_self _
  | cons piece pieces ih =>
    rw [walk] at h
    split at h
    · cases h
    · cases h
    · rcases hpiece : component? piece with - | (- | - | - | n) <;>
        simp only [List.filterMap_cons, hpiece, Place.passed, List.mem_cons] at h ⊢
      case some.name =>
        split at h
        · exact .inr (ih h)
        · cases h
      case some.parent => exact .inr (ih h)
      all_goals exact ih h

/-- A path that leads somewhere passes through what is there. -/
theorem isSome_of_walk (h : t.walk place pieces = .ok q) (hq : (t.get? q).isSome) :
    ∀ r ∈ Place.passed place (pieces.filterMap component?), (t.get? r).isSome := by
  induction pieces generalizing place with
  | nil =>
    cases h
    simpa [Place.passed] using hq
  | cons piece pieces ih =>
    rw [walk] at h
    split at h
    · cases h
    · cases h
    · rename_i hplace
      rcases hpiece : component? piece with - | (- | - | - | n) <;>
        simp only [List.filterMap_cons, hpiece, Place.passed, List.forall_mem_cons] at h ⊢
      case some.name =>
        split at h
        · exact ⟨by simp [hplace], ih h⟩
        · cases h
      case some.parent => exact ⟨by simp [hplace], ih h⟩
      all_goals exact ih h

/-- What stands in a tree stands in a directory. -/
def Closed (t : FileTree) : Prop :=
  ∀ (place : Place) (n : String), (t.get? (place ++ [n])).isSome → t.get? place = some .directory

theorem Closed.directory (ht : t.Closed) (hbelow : place <+: q) (hne : place ≠ q)
    (hq : (t.get? q).isSome) : t.get? place = some .directory := by
  obtain ⟨names, rfl⟩ := hbelow
  induction names using List.reverseRecOn with
  | nil => exact absurd (List.append_nil place).symm hne
  | append_singleton names n ih =>
    rw [← List.append_assoc] at hq
    have hparent := ht _ _ hq
    by_cases hnames : names = []
    · rwa [hnames, List.append_nil] at hparent
    · exact ih (by simpa using hnames) (by simp [hparent])

/-- Without steps upwards a path only goes deeper. -/
theorem prefix_of_walk (hup : ∀ piece ∈ pieces, component? piece ≠ some .parent)
    (h : t.walk place pieces = .ok q) : place <+: q := by
  induction pieces generalizing place with
  | nil =>
    cases h
    exact List.prefix_rfl
  | cons piece pieces ih =>
    obtain ⟨hpiece, hup⟩ := List.forall_mem_cons.1 hup
    rw [walk] at h
    split at h
    · cases h
    · cases h
    · split at h
      · split at h
        · exact (List.prefix_append _ _).trans (ih hup h)
        · cases h
      · rename_i hparent
        exact absurd hparent hpiece
      · exact ih hup h

/-- A place where something stands is the root or has names throughout. -/
theorem all_isEntryName_of_get? {place : Place} {entry : Entry} (h : t.get? place = some entry) :
    place.all isEntryName = true := by
  rw [get?] at h
  split at h
  · rename_i hroot
    rw [hroot]
    rfl
  · obtain ⟨front, back, hentries, -⟩ := List.lookup_eq_some_iff.1 h
    have hproper := t.proper place (by simp [hentries])
    rw [Place.isProper, Bool.and_eq_true] at hproper
    exact hproper.2

end FileTree

theorem isEntryName_of_component? {piece : List Char} {n : String}
    (h : component? piece = some (.name n)) (hslash : '/' ∉ piece) : isEntryName n = true := by
  rw [component?] at h
  split at h
  · cases h
  · rename_i hnamed
    split at h
    · cases h
    · rename_i hparent
      cases h
      rw [not_or] at hnamed
      simp [isEntryName, ← String.toList_inj, hnamed, hparent, hslash]

theorem component?_of_isEntryName {n : String} (h : isEntryName n = true) :
    component? n.toList = some (.name n) := by
  simp only [isEntryName, Bool.and_eq_true, bne_iff_ne, ne_eq, ← String.toList_inj] at h
  obtain ⟨⟨⟨hempty, hdot⟩, hdots⟩, -⟩ := h
  have hnamed : ¬(n.toList = [] ∨ n.toList = ['.']) := not_or.2 ⟨hempty, hdot⟩
  have hparent : n.toList ≠ ['.', '.'] := hdots
  rw [component?, if_neg hnamed, if_neg hparent, String.ofList_toList]

/-- The components of a path pass through the same places as its pieces. -/
theorem Path.passed_components (p : Path) (place : Place) :
    Place.passed place p.components = Place.passed place (p.pieces.filterMap component?) := by
  unfold components
  split
  · rfl
  · split
    · rename_i rest hpieces
      have hdot : component? ['.'] = none := rfl
      rw [hpieces, List.filterMap_cons, hdot]
      rfl
    · rfl

theorem Path.mem_components_of_mem_pieces (p : Path) {piece : List Char} {c : Component}
    (hpiece : piece ∈ p.pieces) (hc : component? piece = some c) : c ∈ p.components := by
  have hmem : c ∈ p.pieces.filterMap component? := List.mem_filterMap.2 ⟨piece, hpiece, hc⟩
  unfold components
  split
  · exact List.mem_cons_of_mem _ hmem
  · split
    · rename_i rest hpieces
      have hdot : component? ['.'] = none := rfl
      rw [hpieces, List.filterMap_cons, hdot] at hmem
      exact List.mem_cons_of_mem _ hmem
    · exact hmem

namespace Disk

variable {d later : Disk} {p : Path} {place : Place}

theorem find_eq_ok_iff {entry : Entry} : d.find p = .ok (place, entry) ↔
    p.text ≠ "" ∧ d.tree.walk (d.start p) p.pieces = .ok place ∧
      d.tree.get? place = some entry := by
  rw [find, bind_eq_ok]
  constructor
  · rintro ⟨q, hlocate, h⟩
    rw [locate] at hlocate
    split at hlocate
    · cases hlocate
    · rename_i htext
      split at h
      · cases h
        exact ⟨htext, hlocate, by assumption⟩
      · cases h
  · rintro ⟨htext, hwalk, hget⟩
    refine ⟨place, by rw [locate, if_neg htext, hwalk], ?_⟩
    rw [hget]
    rfl

/-- What a path leads to depends on the entries along its route only. -/
theorem find_congr (hstart : later.workingDirectory = d.workingDirectory)
    (h : ∀ q ∈ d.route p, later.tree.get? q = d.tree.get? q) : later.find p = d.find p := by
  have hroute : d.route p = Place.passed (d.start p) (p.pieces.filterMap component?) :=
    p.passed_components _
  have hlocate : later.locate p = d.locate p := by
    have hstart : later.start p = d.start p := by simp [start, hstart]
    rw [locate, locate, hstart, FileTree.walk_congr (by rwa [← hroute])]
  rw [find, find, hlocate]
  cases hplace : d.locate p with
  | error e => rfl
  | ok place =>
    have hmem : place ∈ d.route p := by
      rw [locate] at hplace
      split at hplace
      · cases hplace
      · rw [hroute]
        exact FileTree.mem_passed_of_walk hplace
    simp only [bind, Except.bind, h place hmem]

/-- The content of the file that a path leads to. -/
def content? (d : Disk) (p : Path) : Option Content :=
  match d.find p with
  | .ok (_, .file content) => some content
  | _ => none

/-- A later disk with the files of an earlier one and no others. It may have more directories. -/
structure SameFiles (d later : Disk) : Prop where
  workingDirectory : later.workingDirectory = d.workingDirectory
  file : ∀ place content, later.tree.get? place = some (.file content) ↔
    d.tree.get? place = some (.file content)
  directory : ∀ place, d.tree.get? place = some .directory →
    later.tree.get? place = some .directory

namespace SameFiles

theorem refl (d : Disk) : d.SameFiles d := ⟨rfl, fun _ _ => Iff.rfl, fun _ h => h⟩

theorem trans {last : Disk} (h : d.SameFiles later) (h' : later.SameFiles last) :
    d.SameFiles last where
  workingDirectory := h'.workingDirectory.trans h.workingDirectory
  file place content := (h'.file place content).trans (h.file place content)
  directory place hplace := h'.directory place (h.directory place hplace)

theorem get? {entry : Entry} (h : d.SameFiles later) (hentry : d.tree.get? place = some entry) :
    later.tree.get? place = some entry := by
  cases entry with
  | directory => exact h.directory place hentry
  | file content => exact (h.file place content).2 hentry

theorem find_of_ok (h : d.SameFiles later) {found : Place × Entry} (hfound : d.find p = .ok found) :
    later.find p = .ok found := by
  rw [← hfound]
  refine find_congr h.workingDirectory fun q hq => ?_
  have hthere : (d.tree.get? q).isSome := by
    obtain ⟨-, hwalk, hentry⟩ := find_eq_ok_iff.1 hfound
    exact FileTree.isSome_of_walk hwalk (by simp [hentry]) q (by rwa [← p.passed_components])
  obtain ⟨entry, hentry⟩ := Option.isSome_iff_exists.1 hthere
  rw [hentry, h.get? hentry]

/-- A path leads to what it led to, or nowhere as before, unless it passes through a directory that is
new. -/
theorem find_eq_or (h : d.SameFiles later) (p : Path) :
    later.find p = d.find p ∨
      ∃ q ∈ d.route p, d.tree.get? q = none ∧ later.tree.get? q = some .directory := by
  by_cases hnew : ∃ q ∈ d.route p, d.tree.get? q = none ∧ later.tree.get? q = some .directory
  · exact .inr hnew
  refine .inl (find_congr h.workingDirectory fun q hq => ?_)
  cases hentry : d.tree.get? q with
  | some entry => exact h.get? hentry
  | none =>
    cases hlater : later.tree.get? q with
    | none => rfl
    | some entry =>
      cases entry with
      | directory => exact absurd ⟨q, hq, hentry, hlater⟩ hnew
      | file content =>
        rw [(h.file q content).1 hlater] at hentry
        cases hentry

/-- A file that a path without steps upwards leads to was there before, and so was the way to it. -/
theorem walk_of_file (h : d.SameFiles later) (ht : d.tree.Closed) {pieces : List (List Char)}
    (hup : ∀ piece ∈ pieces, component? piece ≠ some .parent) {q : Place} {content : Content}
    (hwalk : later.tree.walk place pieces = .ok q) (hq : d.tree.get? q = some (.file content)) :
    d.tree.walk place pieces = .ok q := by
  have hsome : (d.tree.get? q).isSome := by simp [hq]
  induction pieces generalizing place with
  | nil => exact hwalk
  | cons piece pieces ih =>
    have hbelow := FileTree.prefix_of_walk hup hwalk
    have hups := (List.forall_mem_cons.1 hup).2
    rw [FileTree.walk] at hwalk ⊢
    split at hwalk
    · cases hwalk
    · cases hwalk
    · rename_i hplace
      have hne : place ≠ q := by
        rintro rfl
        rw [(h.file place content).2 hq] at hplace
        cases hplace
      rw [ht.directory hbelow hne hsome]
      rcases hpiece : component? piece with - | (- | - | - | n) <;> simp only [hpiece] at hwalk ⊢
      case some.name =>
        split at hwalk
        · have hdeeper := FileTree.prefix_of_walk hups hwalk
          have hname : (d.tree.get? (place ++ [n])).isSome := by
            by_cases heq : place ++ [n] = q
            · rwa [heq]
            · simp [ht.directory hdeeper heq hsome]
          rw [if_pos hname]
          exact ih hups hwalk
        · cases hwalk
      all_goals exact ih hups hwalk

/-- A path without steps upwards has the content that it had. -/
theorem content?_eq (h : d.SameFiles later) (ht : d.tree.Closed) (hup : .parent ∉ p.components) :
    later.content? p = d.content? p := by
  have hup : ∀ piece ∈ p.pieces, component? piece ≠ some .parent := fun piece hpiece hparent =>
    hup (p.mem_components_of_mem_pieces hpiece hparent)
  have hback {q : Place} {content : Content} (hfound : later.find p = .ok (q, .file content)) :
      d.find p = .ok (q, .file content) := by
    obtain ⟨htext, hwalk, hentry⟩ := find_eq_ok_iff.1 hfound
    have hfile := (h.file q content).1 hentry
    have hstart : later.start p = d.start p := by simp [start, h.workingDirectory]
    rw [hstart] at hwalk
    exact find_eq_ok_iff.2 ⟨htext, h.walk_of_file ht hup hwalk hfile, hfile⟩
  unfold content?
  split
  · rename_i hfound
    rw [hback hfound]
  · rename_i hnone
    split
    · rename_i q content hfound
      exact absurd (h.find_of_ok hfound) (hnone q content)
    · rfl

end SameFiles

/-- Every file is as it was, and so is all that paths lead to, up to directories that are new. -/
structure Kept (d later : Disk) : Prop where
  sameFiles : d.SameFiles later
  /-- What a path led to, it still leads to. -/
  find_of_ok : ∀ p found, d.find p = .ok found → later.find p = .ok found
  /-- Where it led nowhere, it still does, unless it passes through a directory that is new. -/
  find_eq_or : ∀ p, later.find p = d.find p ∨
    ∃ q ∈ d.route p, d.tree.get? q = none ∧ later.tree.get? q = some .directory
  /-- Where every entry stands in a directory, only a step upwards out of a new directory can lead to
  a file that the path did not lead to before. -/
  content?_eq : d.tree.Closed → ∀ p, .parent ∉ p.components → later.content? p = d.content? p

theorem SameFiles.kept (h : d.SameFiles later) : d.Kept later :=
  ⟨h, fun _ _ => h.find_of_ok, h.find_eq_or, fun ht _ => h.content?_eq ht⟩

end Disk

end TypedQueries
