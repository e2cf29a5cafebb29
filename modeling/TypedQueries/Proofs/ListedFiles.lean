import Mathlib.Data.List.Induction
import Mathlib.Data.List.Nodup
import Mathlib.Data.List.Sort
import TypedQueries.Project.Compile
import TypedQueries.Proofs.NestedPaths

/-!
The query files of a directory. They are the files below it with the extension of queries, in the
order of the names that lead to them. The order in which a tree has its entries does not count.
-/

namespace TypedQueries

namespace FileTree

variable {t u : FileTree} {place : Place} {entry : Entry}

theorem mem_entries_iff : (place, entry) ∈ t.entries ↔ place ≠ [] ∧ t.get? place = some entry := by
  constructor
  · intro h
    have hproper := t.proper place (List.mem_map_of_mem h)
    have hne : place ≠ [] := by
      rintro rfl
      cases hproper
    obtain ⟨front, back, hentries⟩ := List.append_of_mem h
    have hnodup := t.nodup
    rw [hentries, List.map_append, List.map_cons] at hnodup
    refine ⟨hne, ?_⟩
    rw [get?, if_neg hne, List.lookup_eq_some_iff]
    refine ⟨front, back, hentries, fun e he => ?_⟩
    have hmem : e.1 ∈ front.map Prod.fst := List.mem_map_of_mem he
    have hother : place ≠ e.1 := fun heq =>
      (List.nodup_append'.1 hnodup).2.2 (heq ▸ hmem) List.mem_cons_self
    simpa using hother
  · rintro ⟨hne, h⟩
    rw [get?, if_neg hne] at h
    obtain ⟨front, back, hentries, -⟩ := List.lookup_eq_some_iff.1 h
    simp [hentries]

/-- Trees with the same entries have the same at each place. -/
theorem get?_of_perm (h : t.entries.Perm u.entries) (place : Place) :
    t.get? place = u.get? place := by
  by_cases hroot : place = []
  · rw [get?, get?, if_pos hroot, if_pos hroot]
  · ext entry
    have hmem := h.mem_iff (a := (place, entry))
    rw [mem_entries_iff, mem_entries_iff] at hmem
    simpa [hroot] using hmem

theorem isEntryName_of_get? {names : Place} (h : t.get? (place ++ names) = some entry) :
    ∀ n ∈ names, isEntryName n = true := fun n hn =>
  List.all_eq_true.1 (all_isEntryName_of_get? h) n (List.mem_append_right place hn)

theorem closed_of_entries (h : ∀ e ∈ t.entries, t.get? e.1.dropLast = some .directory) :
    t.Closed := by
  intro place n hthere
  obtain ⟨entry, hentry⟩ := Option.isSome_iff_exists.1 hthere
  have hmem : (place ++ [n], entry) ∈ t.entries := mem_entries_iff.2 ⟨by simp, hentry⟩
  simpa using h _ hmem

/-- The names that lead from a directory to what lies below it. -/
def under? (directory names : Place) : Option Place :=
  if directory.isPrefixOf names ∧ names ≠ directory then some (names.drop directory.length)
  else none

theorem under?_eq_some_iff {directory names rest : Place} :
    under? directory names = some rest ↔ rest ≠ [] ∧ names = directory ++ rest := by
  rw [under?, Option.ite_none_right_eq_some, List.isPrefixOf_iff_prefix]
  constructor
  · rintro ⟨⟨⟨more, rfl⟩, hne⟩, hrest⟩
    obtain rfl : more = rest := by simpa using hrest
    simpa using hne
  · rintro ⟨hne, rfl⟩
    simpa using hne

theorem below_eq (t : FileTree) (directory : Place) :
    t.below directory = t.entries.filterMap fun e => (under? directory e.1).map (·, e.2) := by
  refine List.filterMap_congr ?_
  rintro ⟨names, entry⟩ -
  dsimp only
  rw [under?]
  split <;> rfl

theorem mem_below_iff {names : Place} :
    (names, entry) ∈ t.below place ↔ names ≠ [] ∧ t.get? (place ++ names) = some entry := by
  simp only [below_eq, List.mem_filterMap, Option.map_eq_some_iff, under?_eq_some_iff,
    Prod.mk.injEq]
  constructor
  · rintro ⟨⟨_, _⟩, hmem, rest, ⟨hne, rfl⟩, rfl, rfl⟩
    exact ⟨hne, (mem_entries_iff.1 hmem).2⟩
  · rintro ⟨hne, h⟩
    exact ⟨_, mem_entries_iff.2 ⟨by simp [hne], h⟩, names, ⟨hne, rfl⟩, rfl, rfl⟩

theorem nodup_below (t : FileTree) (place : Place) : ((t.below place).map Prod.fst).Nodup := by
  have hnames : (t.below place).map Prod.fst =
      (t.entries.map Prod.fst).filterMap (under? place) := by
    rw [below_eq, List.map_filterMap, List.filterMap_map]
    refine List.filterMap_congr fun e _ => ?_
    simp [Option.map_map, Function.comp_def]
  rw [hnames]
  refine t.nodup.filterMap fun names names' rest h h' => ?_
  rw [(under?_eq_some_iff.1 h).2, (under?_eq_some_iff.1 h').2]

end FileTree

/-- A file below a directory, under the names that lead to it from there, with the extension of
queries. -/
structure IsQueryFile (t : FileTree) (directory names : Place) : Prop where
  file : ∃ content, t.get? (directory ++ names) = some (.file content)
  extension : ∃ name, names.getLast? = some name ∧ Path.HasExtension name "sql"

/-- An entry that is listed, if it lies below the path. -/
def isListed (path : Path) : Place × Entry → Bool
  | (_, .directory) => false
  | (names, .file _) => (path.down names).extension? == some queryExtension

theorem IsQueryFile.isEntryName {t : FileTree} {directory names : Place}
    (h : IsQueryFile t directory names) : ∀ n ∈ names, isEntryName n = true := by
  obtain ⟨content, hfile⟩ := h.file
  exact FileTree.isEntryName_of_get? hfile

theorem isQueryFile_congr {t u : FileTree} (h : ∀ place, t.get? place = u.get? place)
    {directory names : Place} : IsQueryFile t directory names ↔ IsQueryFile u directory names := by
  constructor
  · rintro ⟨⟨content, hfile⟩, hextension⟩
    exact ⟨⟨content, by rw [← h, hfile]⟩, hextension⟩
  · rintro ⟨⟨content, hfile⟩, hextension⟩
    exact ⟨⟨content, by rw [h, hfile]⟩, hextension⟩

theorem mem_listed_iff {t : FileTree} {path : Path} (hpath : path.text ≠ "")
    {directory names : Place} :
    names ∈ ((t.below directory).filter (isListed path)).map Prod.fst ↔
      IsQueryFile t directory names := by
  simp only [List.mem_map, List.mem_filter, Prod.exists, exists_and_right, exists_eq_right,
    FileTree.mem_below_iff]
  constructor
  · rintro ⟨- | content, ⟨hne, hentry⟩, hlisted⟩
    · cases hlisted
    · have hextension := Path.extension?_down hpath (FileTree.isEntryName_of_get? hentry) hne "sql"
      exact ⟨⟨content, hentry⟩, hextension.1 (beq_iff_eq.1 hlisted)⟩
  · intro h
    obtain ⟨content, hfile⟩ := h.file
    obtain ⟨name, hlast, hextension⟩ := h.extension
    have hne : names ≠ [] := by
      rintro rfl
      cases hlast
    have hlisted := (Path.extension?_down hpath h.isEntryName hne "sql").2 ⟨name, hlast, hextension⟩
    exact ⟨.file content, ⟨hne, hfile⟩, beq_iff_eq.2 hlisted⟩

theorem queryPaths_eq (path : Path) (entries : List (Place × Entry)) :
    queryPaths path entries =
      ((entries.filter (isListed path)).map Prod.fst).map path.down := by
  induction entries with
  | nil => rfl
  | cons e entries ih =>
    rw [queryPaths] at ih ⊢
    obtain ⟨names, - | content⟩ := e
    · simpa [isListed] using ih
    · have hdown : names.foldl (fun p name => p.join ⟨name⟩) path = path.down names := rfl
      by_cases hextension : (path.down names).extension? = some queryExtension
      · simpa [isListed, hdown, hextension] using ih
      · simpa [isListed, hdown, hextension] using ih

namespace Disk

variable {d : Disk} {path : Path} {place : Place}

theorem exists_places_of_directory (h : d.find path = .ok (place, .directory)) :
    ∃ places : List Place, queryFiles d path = .ok (places.map path.down) ∧
      places.Pairwise (· < ·) ∧ ∀ names, names ∈ places ↔ IsQueryFile d.tree place names := by
  obtain ⟨htext, -, -⟩ := find_eq_ok_iff.1 h
  let listed := ((d.tree.below place).filter (isListed path)).map Prod.fst
  have hlisted : ∀ {names}, names ∈ listed ↔ IsQueryFile d.tree place names := mem_listed_iff htext
  have hperm := List.mergeSort_perm listed fun a b => decide (a ≤ b)
  refine ⟨listed.mergeSort fun a b => decide (a ≤ b), ?_, ?_, fun names => ?_⟩
  · rw [queryFiles, h]
    dsimp only
    rw [queryPaths_eq, List.map_mergeSort]
    exact fun as has bs hbs =>
      (Path.le_down htext (hlisted.1 has).isEntryName (hlisted.1 hbs).isEntryName).symm
  · have hnodup : listed.Nodup := (d.tree.nodup_below place).sublist (List.filter_sublist.map _)
    have hsorted := List.pairwise_mergeSort' (· ≤ ·) listed
    exact hsorted.imp₂ (fun a b hle hne => lt_of_le_of_ne hle hne) (hperm.nodup_iff.2 hnodup)
  · rw [hperm.mem_iff, hlisted]

/-- A path goes on to what stands in the directory that it leads to. -/
theorem walk_join {n : String} (hpath : path.text ≠ "")
    (hwalk : d.tree.walk (d.start path) path.pieces = .ok place)
    (hdirectory : d.tree.get? place = some .directory) (hn : isEntryName n = true)
    (hthere : (d.tree.get? (place ++ [n])).isSome) :
    d.tree.walk (d.start (path.join ⟨n⟩)) (path.join ⟨n⟩).pieces = .ok (place ++ [n]) := by
  have hlast : d.tree.walk place [n.toList] = .ok (place ++ [n]) := by
    simp [FileTree.walk, hdirectory, component?_of_isEntryName hn, hthere]
  obtain ⟨habsolute, hpieces⟩ := Path.pieces_join hpath (slash_notMem_of_isEntryName hn)
  rw [start, habsolute]
  rcases hpieces with hpieces | ⟨front, hfront, hpieces⟩
  · rw [hpieces, FileTree.walk_append]
    exact bind_eq_ok.2 ⟨place, hwalk, hlast⟩
  · -- the empty piece at the end of the path leads nowhere else.
    rw [hfront, FileTree.walk_append] at hwalk
    obtain ⟨q, hwalk, hempty⟩ := bind_eq_ok.1 hwalk
    obtain rfl := FileTree.eq_of_walk_singleton rfl hempty
    rw [hpieces, FileTree.walk_append]
    exact bind_eq_ok.2 ⟨place, hwalk, hlast⟩

/-- The path through the names below a directory leads to the entry there. -/
theorem find_down {names : Place} {entry : Entry} (hclosed : d.tree.Closed) (hpath : path.text ≠ "")
    (hwalk : d.tree.walk (d.start path) path.pieces = .ok place)
    (hentry : d.tree.get? (place ++ names) = some entry) :
    d.find (path.down names) = .ok (place ++ names, entry) := by
  induction names generalizing path place with
  | nil => exact find_eq_ok_iff.2 ⟨hpath, by simpa [Path.down] using hwalk, hentry⟩
  | cons n names ih =>
    have hsplit : place ++ n :: names = (place ++ [n]) ++ names := by simp
    have hn : isEntryName n = true := FileTree.isEntryName_of_get? hentry n List.mem_cons_self
    have hdirectory : d.tree.get? place = some .directory :=
      hclosed.directory (List.prefix_append place (n :: names)) (by simp) (by rw [hentry]; rfl)
    have hthere : (d.tree.get? (place ++ [n])).isSome := by
      cases names with
      | nil => rw [hentry]; rfl
      | cons m names =>
        rw [hsplit] at hentry
        rw [hclosed.directory (List.prefix_append _ (m :: names)) (by simp) (by rw [hentry]; rfl)]
        rfl
    rw [hsplit] at hentry ⊢
    exact ih (Path.text_join_ne_empty hpath (slash_notMem_of_isEntryName hn))
      (walk_join hpath hwalk hdirectory hn hthere) hentry

theorem find_of_perm {d' : Disk} (hdirectory : d'.workingDirectory = d.workingDirectory)
    (h : d'.tree.entries.Perm d.tree.entries) (path : Path) : d'.find path = d.find path :=
  find_congr hdirectory fun q _ => FileTree.get?_of_perm h q

/-- The names of the query files are the same in both trees, and there is one list of them in
strictly ascending order. -/
theorem queryFiles_of_perm {d' : Disk} (hdirectory : d'.workingDirectory = d.workingDirectory)
    (hperm : d'.tree.entries.Perm d.tree.entries) (path : Path) :
    queryFiles d' path = queryFiles d path := by
  have hfind := find_of_perm hdirectory hperm path
  rcases h : d.find path with e | ⟨place, - | content⟩
  · rw [queryFiles, queryFiles, hfind, h]
  · obtain ⟨places, hfiles, hascending, hmem⟩ := exists_places_of_directory h
    obtain ⟨places', hfiles', hascending', hmem'⟩ := exists_places_of_directory (hfind.trans h)
    have hsame : places' = places := hascending'.eq_of_mem_iff hascending fun names => by
      rw [hmem, hmem', isQueryFile_congr (FileTree.get?_of_perm hperm)]
    rw [hfiles, hfiles', hsame]
  · rw [queryFiles, queryFiles, hfind, h]

/-- The names from a directory to its query files, and the paths to these from a path to the
directory. -/
structure Lists (d : Disk) (path : Path) (directory : Place) (places : List Place) : Prop where
  ascending : places.Pairwise (· < ·)
  mem_iff : ∀ names, names ∈ places ↔ IsQueryFile d.tree directory names
  components : ∀ names ∈ places,
    (path.down names).components = path.components ++ names.map Component.name
  find : d.tree.Closed → ∀ names ∈ places, ∃ content,
    d.find (path.down names) = .ok (directory ++ names, .file content)

/-- A file is listed alone. A directory is listed by the query files below it, in strictly ascending
order of the names that lead to them. The order of the entries in a tree does not count. -/
theorem queryFiles_lists (d : Disk) (path : Path) :
    (∀ place content, d.find path = .ok (place, .file content) → queryFiles d path = .ok [path]) ∧
      (∀ place, d.find path = .ok (place, .directory) →
        ∃ places, queryFiles d path = .ok (places.map path.down) ∧ d.Lists path place places) ∧
      ∀ d' : Disk, d'.workingDirectory = d.workingDirectory →
        d'.tree.entries.Perm d.tree.entries → queryFiles d' path = queryFiles d path := by
  refine ⟨fun place content h => by rw [queryFiles, h], fun place h => ?_,
    fun d' hdirectory hperm => queryFiles_of_perm hdirectory hperm path⟩
  obtain ⟨htext, hwalk, -⟩ := find_eq_ok_iff.1 h
  obtain ⟨places, hfiles, hascending, hmem⟩ := exists_places_of_directory h
  refine ⟨places, hfiles, hascending, hmem, fun names hnames => ?_, fun hclosed names hnames => ?_⟩
  · exact Path.components_down htext ((hmem names).1 hnames).isEntryName
  · obtain ⟨content, hfile⟩ := ((hmem names).1 hnames).file
    exact ⟨content, find_down hclosed htext hwalk hfile⟩

/-- A directory whose query files come in another order by their whole texts, with a name that is an
extension only. -/
def queryDisk : Disk where
  tree := [(["q"], .directory), (["q", "a.sql"], .file (.text "")), (["q", "a"], .directory),
      (["q", "a", "z.sql"], .file (.text "")), (["q", ".sql"], .file (.text "")),
      (["q", "a-b.sql"], .file (.text "")),
      (["q", "notes.md"], Entry.file (.text ""))].foldl (fun t e => t.set e.1 e.2) FileTree.empty
  workingDirectory := []

theorem queryFiles_lists_queryDisk :
    queryDisk.find ⟨"q/"⟩ = .ok (["q"], .directory) ∧ queryDisk.tree.Closed ∧
      queryFiles queryDisk ⟨"q/"⟩ = .ok [⟨"q/a/z.sql"⟩, ⟨"q/a-b.sql"⟩, ⟨"q/a.sql"⟩] ∧
      (∃ places, queryFiles queryDisk ⟨"q/"⟩ = .ok (places.map (Path.down ⟨"q/"⟩)) ∧
        queryDisk.Lists ⟨"q/"⟩ ["q"] places) ∧
      (∃ d : Disk, d.tree.entries = queryDisk.tree.entries.reverse ∧
        queryFiles d ⟨"q/"⟩ = queryFiles queryDisk ⟨"q/"⟩) ∧
      queryDisk.find ⟨"q/notes.md"⟩ = .ok (["q", "notes.md"], .file (.text "")) ∧
      queryFiles queryDisk ⟨"q/notes.md"⟩ = .ok [⟨"q/notes.md"⟩] := by
  have hdirectory : queryDisk.find ⟨"q/"⟩ = .ok (["q"], .directory) := by decide +kernel
  have hpaths : queryPaths ⟨"q/"⟩ (queryDisk.tree.below ["q"]) =
      [⟨"q/a.sql"⟩, ⟨"q/a/z.sql"⟩, ⟨"q/a-b.sql"⟩] := by decide +kernel
  have hfiles : queryFiles queryDisk ⟨"q/"⟩ = .ok [⟨"q/a/z.sql"⟩, ⟨"q/a-b.sql"⟩, ⟨"q/a.sql"⟩] := by
    rw [queryFiles, hdirectory]
    dsimp only
    have hlater : Path.le ⟨"q/a.sql"⟩ ⟨"q/a/z.sql"⟩ = false := by decide +kernel
    have hnested : Path.le ⟨"q/a/z.sql"⟩ ⟨"q/a-b.sql"⟩ = true := by decide +kernel
    have hdash : Path.le ⟨"q/a.sql"⟩ ⟨"q/a-b.sql"⟩ = false := by decide +kernel
    rw [hpaths]
    simp [List.mergeSort, hlater, hnested, hdash]
  have hfile : queryDisk.find ⟨"q/notes.md"⟩ = .ok (["q", "notes.md"], .file (.text "")) := by
    decide +kernel
  have hclosed : queryDisk.tree.Closed := FileTree.closed_of_entries (by decide +kernel)
  let d : Disk := ⟨⟨queryDisk.tree.entries.reverse, by simp [queryDisk.tree.nodup],
    fun place h => queryDisk.tree.proper place (by simpa using h)⟩, queryDisk.workingDirectory⟩
  have hreversed : queryFiles d ⟨"q/"⟩ = queryFiles queryDisk ⟨"q/"⟩ :=
    (queryFiles_lists _ _).2.2 d rfl (List.reverse_perm _)
  exact ⟨hdirectory, hclosed, hfiles, (queryFiles_lists _ _).2.1 _ hdirectory, ⟨d, rfl, hreversed⟩,
    hfile, (queryFiles_lists _ _).1 _ _ hfile⟩

end Disk

end TypedQueries
