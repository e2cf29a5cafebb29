import TypedQueries.Project.Write
import TypedQueries.Proofs.FollowedPaths

/-!
What a run that fails leaves on the disk, whatever the system refuses. Until the first file is moved
to its place there are new directories and temporary files only, and a failure removes the latter, so
that every file is as it was. Behind that only one thing can go wrong: a directory stands where the
driver's preamble should go, and the output is new by then.
-/

namespace TypedQueries

theorem FileTree.isProper_of_get? {t : FileTree} {place : Place} {content : Content}
    (h : t.get? place = some (.file content)) : place.isProper = true := by
  have hall := all_isEntryName_of_get? h
  have hne : place ≠ [] := by
    rintro rfl
    cases h
  simp [Place.isProper, hall, hne]

namespace Disk

variable {d later : Disk} {p : Path} {place : Place}

/-! Directories. -/

/-- A directory is only made where nothing stands. -/
theorem sameFiles_set_directory (hnew : d.tree.get? place = none) :
    d.SameFiles { d with tree := d.tree.set place .directory } where
  workingDirectory := rfl
  file other content := by
    by_cases heq : other = place
    · subst heq
      by_cases hproper : Place.isProper other = true
      · simp [FileTree.get?_set_self hproper, hnew]
      · simp [FileTree.set, hproper]
    · simp [FileTree.get?_set_of_ne heq]
  directory other hother := by
    have hne : other ≠ place := by
      rintro rfl
      simp [hnew] at hother
    simp [FileTree.get?_set_of_ne hne, hother]

theorem sameFiles_makeDirectory (h : d.makeDirectory p = .ok later) : d.SameFiles later := by
  rw [makeDirectory] at h
  obtain ⟨⟨place, piece?⟩, -, h⟩ := bind_eq_ok.1 h
  split at h
  · split at h
    · split at h
      · cases h
      · rename_i hnew
        cases h
        exact sameFiles_set_directory (by simpa using hnew)
    · cases h
  · cases h

theorem sameFiles_makeChain (d : Disk) (ps : List Path) : d.SameFiles (d.makeChain ps).1 := by
  induction ps generalizing d with
  | nil => exact .refl d
  | cons p above ih =>
    rw [makeChain]
    split
    · exact .refl d
    · split
      · rename_i hmade
        exact sameFiles_makeDirectory hmade
      · have habove := ih d
        split <;> rename_i hchain <;> rw [hchain] at habove
        · exact habove
        · split
          · rename_i hmade
            exact habove.trans (sameFiles_makeDirectory hmade)
          · split <;> exact habove
      · split <;> exact .refl d

/-! Temporary files. -/

/-- A later disk with the files of an earlier one, temporary files where nothing stood, and no others.
It may have more directories. -/
structure SameFilesBut (temporaries : List (Place × String)) (d later : Disk) : Prop where
  workingDirectory : later.workingDirectory = d.workingDirectory
  file : ∀ place content, place ∉ temporaries.map Prod.fst →
    (later.tree.get? place = some (.file content) ↔ d.tree.get? place = some (.file content))
  directory : ∀ place, d.tree.get? place = some .directory →
    later.tree.get? place = some .directory
  temporary : ∀ f ∈ temporaries, d.tree.get? f.1 = none ∧
    later.tree.get? f.1 = some (.file (.text f.2))
  nodup : (temporaries.map Prod.fst).Nodup

theorem sameFilesBut_nil : SameFilesBut [] d later ↔ d.SameFiles later :=
  ⟨fun h => ⟨h.workingDirectory, fun place content => h.file place content nofun, h.directory⟩,
    fun h => ⟨h.workingDirectory, fun place content _ => h.file place content, h.directory, nofun,
      List.nodup_nil⟩⟩

namespace SameFilesBut

variable {host : Host} {temporaries : List (Place × String)} {temporary : Place} {text : String}

theorem trans {last : Disk} (h : SameFilesBut temporaries d later) (h' : later.SameFiles last) :
    SameFilesBut temporaries d last where
  workingDirectory := h'.workingDirectory.trans h.workingDirectory
  file place content hplace := (h'.file place content).trans (h.file place content hplace)
  directory place hplace := h'.directory place (h.directory place hplace)
  temporary f hf := ⟨(h.temporary f hf).1, (h'.file _ _).2 (h.temporary f hf).2⟩
  nodup := h.nodup

theorem perm {others : List (Place × String)} (h : SameFilesBut temporaries d later)
    (hperm : temporaries.Perm others) : SameFilesBut others d later where
  workingDirectory := h.workingDirectory
  file place content hplace :=
    h.file place content fun hmem => hplace ((hperm.map Prod.fst).mem_iff.1 hmem)
  directory := h.directory
  temporary f hf := h.temporary f (hperm.mem_iff.2 hf)
  nodup := (hperm.map Prod.fst).nodup_iff.1 h.nodup

/-- Nothing stood before where nothing stands now. -/
theorem get?_eq_none (h : SameFilesBut temporaries d later) (hnone : later.tree.get? place = none) :
    place ∉ temporaries.map Prod.fst ∧ d.tree.get? place = none := by
  have hplace : place ∉ temporaries.map Prod.fst := by
    intro hmem
    obtain ⟨f, hf, rfl⟩ := List.mem_map.1 hmem
    rw [(h.temporary f hf).2] at hnone
    cases hnone
  refine ⟨hplace, ?_⟩
  cases hentry : d.tree.get? place with
  | none => rfl
  | some entry =>
    cases entry with
    | directory =>
      rw [h.directory place hentry] at hnone
      cases hnone
    | file content =>
      rw [(h.file place content hplace).2 hentry] at hnone
      cases hnone

/-- A temporary file is made where nothing stands. -/
theorem cons (h : SameFilesBut temporaries d later) (hnew : later.tree.get? temporary = none)
    (hproper : Place.isProper temporary = true) (text : String) :
    SameFilesBut ((temporary, text) :: temporaries) d
      { later with tree := later.tree.set temporary (.file (.text text)) } := by
  obtain ⟨hmem, hnone⟩ := h.get?_eq_none hnew
  refine ⟨h.workingDirectory, fun place content hplace => ?_, fun place hplace => ?_, ?_, ?_⟩
  · simp only [List.map_cons, List.mem_cons, not_or] at hplace
    rw [FileTree.get?_set_of_ne hplace.1]
    exact h.file place content hplace.2
  · have hne : place ≠ temporary := by
      rintro rfl
      rw [hnone] at hplace
      cases hplace
    rw [FileTree.get?_set_of_ne hne]
    exact h.directory place hplace
  · refine List.forall_mem_cons.2 ⟨⟨hnone, FileTree.get?_set_self hproper⟩, fun f hf => ?_⟩
    have hne : f.1 ≠ temporary := ne_of_mem_of_not_mem (List.mem_map_of_mem hf) hmem
    rw [FileTree.get?_set_of_ne hne]
    exact h.temporary f hf
  · exact List.nodup_cons.2 ⟨hmem, h.nodup⟩

theorem createTemporary (h : SameFilesBut temporaries d later) {last : Disk}
    (hcreate : later.createTemporary host p = .ok (temporary, last)) :
    SameFilesBut ((temporary, "") :: temporaries) d last := by
  obtain ⟨⟨place, entry⟩, hfind, hcreate⟩ := bind_eq_ok.1 hcreate
  cases entry with
  | file content => cases hcreate
  | directory =>
    dsimp only at hcreate
    split at hcreate <;> cases hcreate
    obtain ⟨-, -, hdirectory⟩ := find_eq_ok_iff.1 hfind
    have hall := FileTree.all_isEntryName_of_get? hdirectory
    refine h.cons (host.get?_name _ _) ?_ ""
    rw [Place.isProper, List.all_append, hall]
    simp [host.isEntryName_name]

theorem writeTemporary {old : String} (h : SameFilesBut ((temporary, old) :: temporaries) d later)
    {last : Disk} (hwrite : later.writeTemporary host temporary text = .ok last) :
    SameFilesBut ((temporary, text) :: temporaries) d last := by
  rw [Disk.writeTemporary] at hwrite
  split at hwrite <;> cases hwrite
  obtain ⟨⟨hnone, hold⟩, hothers⟩ := List.forall_mem_cons.1 h.temporary
  obtain ⟨hmem, hnodup⟩ := List.nodup_cons.1 h.nodup
  refine ⟨h.workingDirectory, fun place content hplace => ?_, fun place hplace => ?_, ?_, h.nodup⟩
  · have hne : place ≠ temporary := fun heq => hplace (by simp [heq])
    rw [FileTree.get?_set_of_ne hne]
    exact h.file place content hplace
  · have hne : place ≠ temporary := by
      rintro rfl
      rw [show d.tree.get? place = none from hnone] at hplace
      cases hplace
    rw [FileTree.get?_set_of_ne hne]
    exact h.directory place hplace
  · have hproper := FileTree.isProper_of_get? hold
    refine List.forall_mem_cons.2 ⟨⟨hnone, FileTree.get?_set_self hproper⟩, fun f hf => ?_⟩
    have hne : f.1 ≠ temporary := ne_of_mem_of_not_mem (List.mem_map_of_mem hf) hmem
    rw [FileTree.get?_set_of_ne hne]
    exact hothers f hf

theorem discard (h : SameFilesBut ((temporary, text) :: temporaries) d later) :
    SameFilesBut temporaries d (later.discard [temporary]) := by
  obtain ⟨⟨hnone, hfile⟩, hothers⟩ := List.forall_mem_cons.1 h.temporary
  obtain ⟨hmem, hnodup⟩ := List.nodup_cons.1 h.nodup
  have hroot : temporary ≠ [] := by
    rintro rfl
    cases hfile
  have hget {q : Place} (hq : q ≠ temporary) :
      (later.discard [temporary]).tree.get? q = later.tree.get? q := FileTree.get?_remove_of_ne hq
  have hgone : (later.discard [temporary]).tree.get? temporary = none :=
    FileTree.get?_remove_self hroot
  refine ⟨h.workingDirectory, fun place content hplace => ?_, fun place hplace => ?_,
    fun f hf => ?_, hnodup⟩
  · by_cases heq : place = temporary
    · rw [heq, hgone, show d.tree.get? temporary = none from hnone]
    · rw [hget heq]
      exact h.file place content (by simp [heq, hplace])
  · have hne : place ≠ temporary := by
      rintro rfl
      rw [show d.tree.get? place = none from hnone] at hplace
      cases hplace
    rw [hget hne]
    exact h.directory place hplace
  · have hne : f.1 ≠ temporary := ne_of_mem_of_not_mem (List.mem_map_of_mem hf) hmem
    rw [hget hne]
    exact hothers f hf

/-- Staging a file adds it, or fails and leaves no trace of it but directories. -/
theorem stage (h : SameFilesBut temporaries d later) (host : Host) (p : Path) (text : String) :
    (∃ last e, later.stage host p text = (last, .error e) ∧ SameFilesBut temporaries d last) ∨
      ∃ last temporary, later.stage host p text = (last, .ok temporary) ∧
        SameFilesBut ((temporary, text) :: temporaries) d last := by
  have hmake := h.trans (sameFiles_makeChain later p.stagingDirectory.ancestors)
  rw [Disk.stage]
  split <;> rename_i hmade <;> rw [makeDirectories] at hmade <;> rw [hmade] at hmake
  · exact .inl ⟨_, _, rfl, hmake⟩
  · split
    · exact .inl ⟨_, _, rfl, hmake⟩
    · rename_i hcreate
      have hcreated := hmake.createTemporary hcreate
      split
      · exact .inl ⟨_, _, rfl, hcreated.discard⟩
      · rename_i hwrite
        exact .inr ⟨_, _, rfl, hcreated.writeTemporary hwrite⟩

theorem stageAll (h : SameFilesBut temporaries d later) (host : Host)
    (files : List (Path × String)) :
    (∃ last e, later.stageAll host files = (last, .error e) ∧ SameFilesBut temporaries d last) ∨
      ∃ last places, later.stageAll host files = (last, .ok places) ∧
        places.length = files.length ∧
        SameFilesBut (places.zip (files.map Prod.snd) ++ temporaries) d last := by
  induction files generalizing later temporaries with
  | nil => exact .inr ⟨later, [], rfl, rfl, h⟩
  | cons file files ih =>
    obtain ⟨p, text⟩ := file
    rw [Disk.stageAll]
    rcases h.stage host p text with ⟨last, e, heq, hlast⟩ | ⟨staged, temporary, heq, hstaged⟩
    · rw [heq]
      exact .inl ⟨last, e, rfl, hlast⟩
    · rw [heq]
      rcases ih hstaged with ⟨last, e, heq, hlast⟩ | ⟨last, places, heq, hlength, hlast⟩
      · exact .inl ⟨_, e, by simp only [heq], hlast.discard⟩
      · refine .inr ⟨last, temporary :: places, by simp only [heq], by simp [hlength], ?_⟩
        exact hlast.perm List.perm_middle

end SameFilesBut

/-! Where a path ends. -/

/-- The place of an entry that a path ends in: the directory that it leads through is there, and
behind that the path has one name. -/
inductive EndsAt (d : Disk) (p : Path) : Place → Prop
  | mk {front : List (List Char)} {piece : List Char} {directory : Place} {n : String}
      (hpieces : p.pieces = front ++ [piece]) (hpiece : component? piece = some (.name n))
      (hwalk : d.tree.walk (d.start p) front = .ok directory)
      (hdirectory : d.tree.get? directory = some .directory) : EndsAt d p (directory ++ [n])

namespace EndsAt

theorem isProper (h : d.EndsAt p place) : place.isProper = true := by
  obtain @⟨front, piece, directory, n, hpieces, hpiece, -, hdirectory⟩ := h
  have hmem : piece ∈ p.pieces := by simp [hpieces]
  have hn := isEntryName_of_component? hpiece (slash_notMem_of_mem_cutAtSlashes hmem)
  have hall := FileTree.all_isEntryName_of_get? hdirectory
  rw [List.all_eq_true] at hall
  simp_all [Place.isProper]

theorem find (h : d.EndsAt p place) {entry : Entry} (hentry : d.tree.get? place = some entry) :
    d.find p = .ok (place, entry) := by
  obtain @⟨front, piece, directory, n, hpieces, hpiece, hwalk, hdirectory⟩ := h
  have htext := p.text_ne_empty hpieces (ne_nil_of_component? hpiece).1
  have hlast : d.tree.walk directory [piece] = .ok (directory ++ [n]) := by
    simp [FileTree.walk, hdirectory, hpiece, hentry]
  refine find_eq_ok_iff.2 ⟨htext, ?_, hentry⟩
  rw [hpieces, FileTree.walk_append]
  exact bind_eq_ok.2 ⟨directory, hwalk, hlast⟩

theorem of_directories (h : d.EndsAt p place) (hstart : later.workingDirectory = d.workingDirectory)
    (hkept : ∀ q, d.tree.get? q = some .directory → later.tree.get? q = some .directory) :
    later.EndsAt p place := by
  obtain ⟨hpieces, hpiece, hwalk, hdirectory⟩ := h
  have hstart : later.start p = d.start p := by simp [start, hstart]
  refine .mk hpieces hpiece ?_ (hkept _ hdirectory)
  rw [hstart]
  exact FileTree.walk_of_directory hkept hwalk hdirectory

/-- A file can be moved there unless a directory is in the way. -/
theorem rename (h : d.EndsAt p place) {source : Place} {entry : Entry}
    (hsource : d.tree.get? source = some entry) :
    d.rename source p =
      if d.tree.get? place = some .directory then .error .isDirectory
      else .ok { d with tree := (d.tree.remove source).set place entry } := by
  obtain @⟨front, piece, directory, n, hpieces, hpiece, hwalk, hdirectory⟩ := h
  have hne := (ne_nil_of_component? hpiece).1
  have hlastPiece : d.lastPiece p = .ok (directory, some piece) := by
    rw [lastPiece, if_neg (p.text_ne_empty hpieces hne), hpieces, List.reverse_concat]
    simp only [List.dropWhile_cons, List.isEmpty_iff, hne, ↓reduceIte, List.reverse_reverse]
    exact bind_eq_ok.2 ⟨directory, hwalk, by rw [hdirectory]; rfl⟩
  rw [Disk.rename, hlastPiece, hpieces]
  simp only [bind, Except.bind, hpiece, List.getLast?_concat, Option.some.injEq, hne, ↓reduceIte,
    hsource]
  rfl

/-- A path with another file name ends beside the first one. -/
theorem withFileName (h : d.EndsAt p place) {name : String} (hname : isEntryName name = true) :
    d.EndsAt (p.withFileName name) (place.dropLast ++ [name]) := by
  obtain @⟨front, piece, directory, n, hpieces, hpiece, hwalk, hdirectory⟩ := h
  have hparts : '/' ∉ name.toList ∧ name.toList ≠ [] := by
    simp only [isEntryName, Bool.and_eq_true, bne_iff_ne, ne_eq, Bool.not_eq_true',
      List.contains_eq_mem, decide_eq_false_iff_not] at hname
    exact ⟨hname.2, fun h => hname.1.1.1 (String.toList_inj.1 h)⟩
  obtain ⟨habsolute, hsibling⟩ := Path.pieces_withFileName hpieces hpiece hparts.1 hparts.2
  have hstart : d.start (p.withFileName name) = d.start p := by rw [start, start, habsolute]
  rw [List.dropLast_concat]
  refine .mk hsibling (component?_of_isEntryName hname) ?_ hdirectory
  rw [hstart]
  exact FileTree.walk_trimBack _ (by rwa [List.reverse_reverse])

end EndsAt

/-- A path whose last piece is not empty has that piece as its last one. -/
theorem pieces_of_lastPiece {directory : Place} {piece : List Char}
    (h : d.lastPiece p = .ok (directory, some piece)) (hslash : p.pieces.getLast? ≠ some []) :
    ∃ front, p.pieces = front ++ [piece] ∧ d.tree.walk (d.start p) front = .ok directory ∧
      d.tree.get? directory = some .directory := by
  rw [lastPiece] at h
  split at h
  · cases h
  · split at h
    · cases h
    · rename_i last before hbefore
      obtain ⟨place, hwalk, h⟩ := bind_eq_ok.1 h
      split at h <;> cases h
      rename_i hplace
      -- no slash stands at the end, so that nothing was left out there
      have hreverse : p.pieces.reverse = piece :: before := by
        rw [← List.head?_reverse] at hslash
        cases hr : p.pieces.reverse with
        | nil => simp [hr] at hbefore
        | cons first rest =>
          have hfirst : first ≠ [] := by simpa [hr] using hslash
          simpa [hr, List.dropWhile_cons, hfirst] using hbefore
      refine ⟨before.reverse, ?_, hwalk, hplace⟩
      rw [← List.reverse_cons, ← hreverse, List.reverse_reverse]

theorem exists_endsAt_of_rename {source : Place} (h : d.rename source p = .ok later) :
    ∃ place, d.EndsAt p place := by
  rw [Disk.rename] at h
  obtain ⟨⟨directory, piece?⟩, hlast, h⟩ := bind_eq_ok.1 h
  split at h
  · rename_i place piece heq
    cases heq
    split at h
    · rename_i n hpiece
      split at h
      · cases h
      · rename_i hslash
        obtain ⟨front, hpieces, hwalk, hdirectory⟩ := pieces_of_lastPiece hlast hslash
        exact ⟨_, .mk hpieces hpiece hwalk hdirectory⟩
    · cases h
  · cases h

/-- Files are moved up to the first that cannot be moved. -/
theorem exists_of_persistAll {files : List (Place × Path)} {log : Logged Unit} {e : ProjectError}
    (h : d.persistAll files = (later, log)) (he : log.result = .error e) :
    ∃ moved temporary p rest last fault, files = moved ++ (temporary, p) :: rest ∧
      moved.foldlM (fun d file => d.rename file.1 file.2) d = .ok last ∧
      last.rename temporary p = .error fault ∧
      later = last.discard (temporary :: rest.map Prod.fst) ∧ e = .disk p fault := by
  induction files generalizing d log with
  | nil =>
    cases h
    cases he
  | cons file files ih =>
    obtain ⟨temporary, p⟩ := file
    rw [persistAll] at h
    split at h <;> rename_i hrename
    · cases h
      cases he
      exact ⟨[], temporary, p, files, d, _, rfl, rfl, hrename, rfl, rfl⟩
    · cases h
      obtain ⟨moved, next, q, rest, last, fault, rfl, hmoved, hfault, hlater, rfl⟩ := ih rfl he
      refine ⟨(temporary, p) :: moved, next, q, rest, last, fault, rfl, ?_, hfault, hlater, rfl⟩
      rw [List.foldlM_cons]
      exact bind_eq_ok.2 ⟨_, hrename, hmoved⟩

/-! Two files, of which the second cannot be moved. -/

/-- A run that moved its first file and not its second. The first is at its place, every other file
is as it was, and a directory is where the second should go. -/
structure HalfWritten (d later : Disk) (first : Path × String) (second : Path) : Prop where
  first_there : ∃ place, later.find first.1 = .ok (place, .file (.text first.2)) ∧
    ∀ other ≠ place, ∀ content, later.tree.get? other = some (.file content) ↔
      d.tree.get? other = some (.file content)
  second_directory : later.isDirectory second = true

section

variable {staged moved : Disk} {t₁ t₂ : Place} {text more : String}

/-- What moving the first of two temporary files does: directories and the files that were there stay,
and the first file is at its place, where the second one may have been. -/
theorem SameFilesBut.get?_of_rename (h : SameFilesBut [(t₁, text), (t₂, more)] d staged)
    (hends : staged.EndsAt p place) (hfree : staged.tree.get? place ≠ some .directory)
    (hmoved : moved = { staged with
      tree := (staged.tree.remove t₁).set place (.file (.text text)) }) :
    (∀ q, staged.tree.get? q = some .directory → moved.tree.get? q = some .directory) ∧
      moved.tree.get? place = some (.file (.text text)) ∧
      (t₂ ≠ place → moved.tree.get? t₂ = some (.file (.text more))) ∧
      ∀ other ≠ place, other ≠ t₂ → ∀ content, moved.tree.get? other = some (.file content) ↔
        d.tree.get? other = some (.file content) := by
  have hfirst := (h.temporary (t₁, text) (by simp)).2
  have hsecond := (h.temporary (t₂, more) (by simp)).2
  have hdistinct : t₂ ≠ t₁ := by
    have hnodup := h.nodup
    simp only [List.map_cons, List.map_nil, List.nodup_cons, List.mem_singleton] at hnodup
    exact fun heq => hnodup.1 heq.symm
  have hone := h.discard
  have hget {q : Place} (hq : q ≠ place) :
      moved.tree.get? q = (staged.tree.remove t₁).get? q := by
    rw [hmoved]
    exact FileTree.get?_set_of_ne hq
  refine ⟨fun q hq => ?_, ?_, fun hne => ?_, fun other hother hne content => ?_⟩
  · have hqplace : q ≠ place := by
      rintro rfl
      exact hfree hq
    have hqfirst : q ≠ t₁ := by
      rintro rfl
      rw [hfirst] at hq
      cases hq
    rwa [hget hqplace, FileTree.get?_remove_of_ne hqfirst]
  · rw [hmoved]
    exact FileTree.get?_set_self hends.isProper
  · rw [hget hne, FileTree.get?_remove_of_ne hdistinct]
    exact hsecond
  · rw [hget hother]
    exact hone.file other content (by simpa using hne)

/-- The same with the second temporary file removed. -/
theorem SameFilesBut.get?_discard_of_rename (h : SameFilesBut [(t₁, text), (t₂, more)] d staged)
    (hends : staged.EndsAt p place) (hfree : staged.tree.get? place ≠ some .directory)
    (hmoved : moved = { staged with
      tree := (staged.tree.remove t₁).set place (.file (.text text)) }) :
    (∀ q, staged.tree.get? q = some .directory →
        (moved.discard [t₂]).tree.get? q = some .directory) ∧
      (moved.discard [t₂]).tree.get? t₂ = none ∧
      (t₂ ≠ place → (moved.discard [t₂]).tree.get? place = some (.file (.text text))) ∧
      ∀ other ≠ place, ∀ content, (moved.discard [t₂]).tree.get? other = some (.file content) ↔
        d.tree.get? other = some (.file content) := by
  obtain ⟨hdirectory, hplace, hthere, hothers⟩ := h.get?_of_rename hends hfree hmoved
  obtain ⟨hnew, hsecond⟩ := h.temporary (t₂, more) (by simp)
  have hget {q : Place} (hq : q ≠ t₂) : (moved.discard [t₂]).tree.get? q = moved.tree.get? q :=
    FileTree.get?_remove_of_ne hq
  have hgone : (moved.discard [t₂]).tree.get? t₂ = none := by
    refine FileTree.get?_remove_self ?_
    rintro rfl
    cases hnew
  refine ⟨fun q hq => ?_, hgone, fun hne => (hget (Ne.symm hne)).trans hplace,
    fun other hother content => ?_⟩
  · have hne : q ≠ t₂ := by
      rintro rfl
      rw [hsecond] at hq
      cases hq
    exact (hget hne).trans (hdirectory q hq)
  · by_cases heq : other = t₂
    · rw [heq, hgone, show d.tree.get? t₂ = none from hnew]
    · rw [hget heq]
      exact hothers other hother heq content

/-- Beside a file that was moved to its place, only a directory at its own path is in the way of
another one. Then the other one is removed, and with it the first if they had one place. -/
theorem halfWritten_of_rename {output : Path} {name : String} {fault : DiskError}
    (h : SameFilesBut [(t₁, text), (t₂, more)] d staged) (hname : isEntryName name = true)
    (hfirst : staged.rename t₁ output = .ok moved)
    (hsecond : moved.rename t₂ (output.withFileName name) = .error fault) :
    d.SameFiles (moved.discard [t₂]) ∨
      d.HalfWritten (moved.discard [t₂]) (output, text) (output.withFileName name) ∧
        fault = .isDirectory := by
  obtain ⟨place, hends⟩ := exists_endsAt_of_rename hfirst
  rw [hends.rename (h.temporary (t₁, text) (by simp)).2] at hfirst
  split at hfirst <;> rename_i hfree
  · cases hfirst
  have hmoved := (Except.ok.inj hfirst).symm
  obtain ⟨hdirectory, -, hthere, -⟩ := h.get?_of_rename hends hfree hmoved
  obtain ⟨hkept, hgone, hplace, hothers⟩ := h.get?_discard_of_rename hends hfree hmoved
  have hworking : moved.workingDirectory = staged.workingDirectory := by rw [hmoved]
  by_cases heq : t₂ = place
  · -- the second temporary file had been replaced by the first file
    refine .inl ⟨hworking.trans h.workingDirectory, fun other content => ?_,
      fun q hq => hkept q (h.directory q hq)⟩
    by_cases hother : other = place
    · have hnew : d.tree.get? t₂ = none := (h.temporary (t₂, more) (by simp)).1
      rw [hother, ← heq, hgone, hnew]
    · exact hothers other hother content
  · -- the directory that the first file is in is that of the second
    have hbeside := (hends.of_directories hworking hdirectory).withFileName hname
    rw [hbeside.rename (hthere heq)] at hsecond
    split at hsecond <;> cases hsecond
    rename_i hblocked
    have hlast : (moved.discard [t₂]).EndsAt output place := hends.of_directories hworking hkept
    have hblockedLast : (moved.discard [t₂]).tree.get? (place.dropLast ++ [name]) =
        some .directory := by
      refine (FileTree.get?_remove_of_ne ?_).trans hblocked
      intro heq'
      rw [heq', hthere heq] at hblocked
      cases hblocked
    refine .inr ⟨⟨⟨place, hlast.find (hplace heq), hothers⟩, ?_⟩, rfl⟩
    rw [isDirectory, (hlast.withFileName hname).find hblockedLast]

end

end Disk

namespace Config

theorem isEntryName_preambleName : isEntryName preambleName = true := by decide

/-- Whatever the system refuses, a run that fails leaves every file as it was, and what paths lead to
changes by new directories only. There is one exception: the output is replaced if a directory stands
at the path of the preamble. -/
theorem kept_of_generateFiles {c : Config} {host : Host} {now : Clock} {d later : Disk}
    {log : Logged Unit} {e : ProjectError} (h : c.generateFiles host now d = (later, log))
    (he : log.result = .error e) :
    d.Kept later ∨
      ∃ sources, (c.generate now d).result = .ok sources ∧
        d.HalfWritten later (c.output, sources.queries) c.preambleOutput ∧
        e = .disk c.preambleOutput .isDirectory := by
  simp only [generateFiles] at h
  split at h <;> rename_i hsources <;> cases h
  · exact .inl (Disk.SameFiles.refl d).kept
  · rename_i sources
    rw [Logged.result_bind, hsources] at he
    have hstart : Disk.SameFilesBut [] d d := Disk.sameFilesBut_nil.2 (.refl d)
    rw [Disk.write] at he ⊢
    rcases hstart.stageAll host (c.outputs sources) with
      ⟨last, fault, hstage, hlast⟩ | ⟨staged, places, hstage, hlength, hstaged⟩
    · rw [hstage]
      exact .inl (Disk.sameFilesBut_nil.1 hlast).kept
    · rw [hstage] at he ⊢
      obtain ⟨t₁, t₂, rfl⟩ := List.length_eq_two.1 hlength
      have hstaged : Disk.SameFilesBut [(t₁, sources.queries), (t₂, sources.db)] d staged := hstaged
      obtain ⟨moved, temporary, p, rest, last, fault, hfiles, hmoved, hfault, hlater, rfl⟩ :=
        Disk.exists_of_persistAll rfl he
      rw [hlater]
      -- of the two files, only the output can have been moved before the failure
      rcases moved with _ | ⟨first, _ | ⟨second, moved⟩⟩
      · cases hmoved
        cases hfiles
        exact .inl (Disk.sameFilesBut_nil.1 hstaged.discard.discard).kept
      · cases hfiles
        rw [List.foldlM_cons] at hmoved
        obtain ⟨_, hfirst, hmoved⟩ := bind_eq_ok.1 hmoved
        cases hmoved
        rcases Disk.halfWritten_of_rename hstaged isEntryName_preambleName hfirst hfault with
          hsame | ⟨hhalf, rfl⟩
        · exact .inl hsame.kept
        · exact .inr ⟨sources, hsources, hhalf, rfl⟩
      · simp [outputs] at hfiles

/-- An empty project with an old output, and a directory at the path of the preamble. -/
def blockedDisk : Disk where
  tree := [("shogunc.yml", .file (.text ("sql:\n  schema: schema.sql\n  queries: queries.sql\n" ++
      "  driver: sqlite3\n  output: queries.go\n"))), ("schema.sql", .file (.text "")),
      ("queries.sql", .file (.text "")), ("queries.go", .file (.text "old")),
      ("db.go", Entry.directory)].foldl (fun t file => t.set [file.1] file.2) FileTree.empty
  workingDirectory := []

def blockedProject : Config :=
  ⟨⟨"schema.sql"⟩, ⟨"queries.sql"⟩, .sqlite3, ⟨"queries.go"⟩, "db"⟩

/-- A system without space for another file. -/
def fullHost : Host :=
  { Host.willing with
    writingFault? := fun _ _ _ => some (.refused "No space left on device (os error 28)") }

theorem kept_fullHost :
    (blockedProject.generateFiles fullHost (⟨2024, 3, 9, 14, 5, 0⟩ : Moment) blockedDisk).2.result =
        .error (.disk ⟨"/./.tmpxxxxxxxxxxx"⟩ (.refused "No space left on device (os error 28)")) ∧
      blockedDisk.Kept
        (blockedProject.generateFiles fullHost (⟨2024, 3, 9, 14, 5, 0⟩ : Moment) blockedDisk).1 := by
  have herror : (blockedProject.generateFiles fullHost (⟨2024, 3, 9, 14, 5, 0⟩ : Moment)
      blockedDisk).2.result = .error (.disk ⟨"/./.tmpxxxxxxxxxxx"⟩
        (.refused "No space left on device (os error 28)")) := by decide +kernel
  refine ⟨herror, ?_⟩
  obtain hkept | ⟨_, _, _, hfault⟩ := kept_of_generateFiles rfl herror
  · exact hkept
  · simp at hfault

/-- A new directory on the way to the output opens a path to a preamble that was there already. -/
example :
    let project : Config := { blockedProject with output := ⟨"new/../out.go"⟩ }
    let before : Disk := { blockedDisk with
      tree := (blockedDisk.tree.set ["db.go"] (.file (.text "old"))).set ["out.go"] .directory }
    let after := project.generateFiles .willing (⟨2024, 3, 9, 14, 5, 0⟩ : Moment) before
    after.2.result = .error (.disk project.output .isDirectory) ∧
      before.content? project.preambleOutput = none ∧
      after.1.content? project.preambleOutput = some (.text "old") := by
  decide +kernel

/-- A run that fails at the preamble has replaced the output by then. -/
theorem output_replaced_blockedProject :
    Config.load blockedDisk ⟨"shogunc.yml"⟩ = .ok blockedProject ∧
      (blockedProject.generateFiles .willing (⟨2024, 3, 9, 14, 5, 0⟩ : Moment) blockedDisk).2.result =
        .error (.disk blockedProject.preambleOutput .isDirectory) ∧
      blockedDisk.read blockedProject.output = .ok "old" ∧
      (blockedProject.generateFiles .willing (⟨2024, 3, 9, 14, 5, 0⟩ : Moment) blockedDisk).1.read
        blockedProject.output = .ok "// Code generated by shogunc. DO NOT EDIT.\n\npackage db\n" := by
  decide +kernel

end Config

end TypedQueries
