import TypedQueries.Config.Load
import TypedQueries.Proofs.FailedRuns
import TypedQueries.Proofs.NestedPaths

/-!
Where the two generated files go. If the path of the output ends in a name, the path of the preamble
has another name in its place; behind any other path it comes as one more component. The output is
as it is written in the configuration or, if that is the current directory only, the directory of
the configuration itself.
-/

namespace TypedQueries

namespace Path

/-- The components that pieces stand for, behind the slash of an absolute path. -/
def componentsOf (absolute : Bool) (pieces : List (List Char)) : List Component :=
  (if absolute then [.root] else if pieces.head? = some ['.'] then [.current] else []) ++
    pieces.filterMap component?

theorem components_eq_componentsOf (p : Path) :
    p.components = componentsOf p.isAbsolute p.pieces := by
  rw [components_eq, lead, componentsOf]

theorem componentsOf_concat {absolute : Bool} {front : List (List Char)}
    (h : absolute = true ∨ front ≠ []) (piece : List Char) :
    componentsOf absolute (front ++ [piece]) =
      componentsOf absolute front ++ (component? piece).toList := by
  have hlast : [piece].filterMap component? = (component? piece).toList := by
    cases hpiece : component? piece <;> simp [hpiece]
  rw [componentsOf, componentsOf, List.filterMap_append, hlast, List.append_assoc]
  rcases h with rfl | hne
  · rfl
  · rw [List.head?_append_of_ne_nil _ hne]

/-- Trailing pieces that name nothing are no components. -/
theorem componentsOf_trimBack (absolute : Bool) (before : List (List Char)) :
    componentsOf absolute (trimBack absolute before).reverse =
      componentsOf absolute before.reverse := by
  fun_induction trimBack absolute before with
  | case1 => rfl
  | case2 piece before htrim ih =>
    have hnone : component? piece = none := by
      rw [component?, if_pos (htrim.imp_right And.left)]
    rw [ih, List.reverse_cons]
    by_cases hfront : absolute = true ∨ before ≠ []
    · rw [componentsOf_concat (hfront.imp_right (by simp)), hnone]
      simp
    · -- a dot that is the only piece of a relative path is kept.
      simp only [not_or, Bool.not_eq_true, not_not] at hfront
      obtain ⟨rfl, rfl⟩ := hfront
      obtain rfl : piece = [] := by simpa using htrim
      rfl
  | case3 => rfl

theorem trimBack_eq_cons {absolute : Bool} {pieces before : List (List Char)} {piece : List Char}
    (h : trimBack absolute pieces = piece :: before) :
    piece ≠ [] ∧ (piece = ['.'] → absolute = false ∧ before = []) := by
  fun_induction trimBack absolute pieces with
  | case1 => cases h
  | case2 first rest _ ih => exact ih h
  | case3 first rest hkept =>
    obtain ⟨rfl, rfl⟩ := List.cons.inj h
    simp only [not_or, not_and, not_not, Bool.not_eq_true] at hkept
    exact hkept

theorem component?_ne_none {piece : List Char} (hne : piece ≠ []) (hdot : piece ≠ ['.']) :
    ∃ last, last ≠ .root ∧ component? piece = some last := by
  rw [component?, if_neg (not_or.2 ⟨hne, hdot⟩)]
  split
  · exact ⟨.parent, by simp, rfl⟩
  · exact ⟨_, by simp, rfl⟩

/-- The last of the pieces that are kept is a component. -/
theorem exists_last_componentsOf {absolute : Bool} {pieces before : List (List Char)}
    {piece : List Char} (h : trimBack absolute pieces = piece :: before) :
    ∃ last, last ≠ .root ∧ componentsOf absolute (before.reverse ++ [piece]) =
      componentsOf absolute before.reverse ++ [last] := by
  obtain ⟨hne, hdot⟩ := trimBack_eq_cons h
  by_cases hpiece : piece = ['.']
  · obtain ⟨rfl, rfl⟩ := hdot hpiece
    exact ⟨.current, by simp, by rw [hpiece]; rfl⟩
  · obtain ⟨last, hroot, hlast⟩ := component?_ne_none hne hpiece
    refine ⟨last, hroot, ?_⟩
    by_cases hfront : absolute = true ∨ before.reverse ≠ []
    · rw [componentsOf_concat hfront, hlast]
      rfl
    · simp only [not_or, Bool.not_eq_true, not_not] at hfront
      simp [componentsOf, hfront, hpiece, hlast]

/-- What a path starts with, up to one of its slashes, has the components of these pieces. -/
theorem components_ofPieces {p : Path} {kept : List (List Char)} (htext : p.text ≠ "")
    (hstart : kept <+: p.pieces) :
    (ofPieces p.isAbsolute kept).components = componentsOf p.isAbsolute kept := by
  have hslash : ∀ piece ∈ kept, '/' ∉ piece := fun piece hpiece =>
    slash_notMem_of_mem_cutAtSlashes (hstart.subset hpiece)
  have hhead : p.isAbsolute = false → kept.head? ≠ some [] := by
    intro habsolute hempty
    obtain ⟨rest, hrest⟩ := hstart
    refine head?_pieces habsolute htext ?_
    rw [← hrest, List.head?_append, hempty, Option.some_or]
  cases kept with
  | nil => cases p.isAbsolute <;> decide
  | cons piece kept =>
    rw [components_eq_componentsOf, isAbsolute_ofPieces hslash hhead,
      pieces_ofPieces (by simp) hslash hhead]

/-- A path without components and the root have no parent. The parent of any other path has its
components but the last. -/
theorem parent?_cases (p : Path) :
    (p.parent? = none ∧ (p.components = [] ∨ p.components = [.root])) ∨
      ∃ q last, p.parent? = some q ∧ last ≠ .root ∧ p.components = q.components ++ [last] := by
  have htrim := componentsOf_trimBack p.isAbsolute p.pieces.reverse
  rw [List.reverse_reverse, ← components_eq_componentsOf] at htrim
  rw [parent?, ← htrim]
  cases hback : trimBack p.isAbsolute p.pieces.reverse with
  | nil =>
    refine .inl ⟨by rw [above]; rfl, ?_⟩
    cases p.isAbsolute <;> simp [componentsOf]
  | cons piece before =>
    have htext : p.text ≠ "" := by
      intro h
      simp [pieces, isAbsolute, h, cutAtSlashes, trimBack] at hback
    have hbefore : before <:+ p.pieces.reverse :=
      (List.suffix_cons piece before).trans (hback ▸ trimBack_suffix _ _)
    have hstart : (trimBack p.isAbsolute before).reverse <+: p.pieces := by
      rw [← List.reverse_suffix, List.reverse_reverse]
      exact (trimBack_suffix _ _).trans hbefore
    obtain ⟨last, hroot, hlast⟩ := exists_last_componentsOf hback
    refine .inr ⟨_, last, by rw [above]; rfl, hroot, ?_⟩
    rw [components_ofPieces htext hstart, componentsOf_trimBack, List.reverse_cons, hlast]

theorem map_components_parent? {p : Path} {front : List Component} {last : Component}
    (h : p.components = front ++ [last]) (hroot : last ≠ .root) :
    p.parent?.map components = some front := by
  rcases p.parent?_cases with ⟨-, hnil | hsingle⟩ | ⟨q, last', hparent, -, hq⟩
  · simp [hnil] at h
  · have hlast : last = .root := by simpa [hsingle] using (congrArg List.getLast? h).symm
    exact absurd hlast hroot
  · rw [hparent, Option.map_some, (List.append_inj' (hq.symm.trans h) rfl).1]

theorem components_parent?_ne (p : Path) : p.parent?.map components ≠ some p.components := by
  rcases p.parent?_cases with ⟨hparent, -⟩ | ⟨q, last, hparent, -, hq⟩
  · simp [hparent]
  · simp [hparent, hq]

theorem fileName?_eq_some_iff {p : Path} {n : String} :
    p.fileName? = some n ↔ ∃ front, p.components = front ++ [.name n] := by
  rw [← List.getLast?_eq_some_iff, fileName?]
  split <;> simp_all

theorem join_of_text_eq_empty {p : Path} (hp : p.text = "") (q : Path) : p.join q = q := by
  rw [join, hp]
  split <;> simp

theorem components_of_text_eq_empty {p : Path} (hp : p.text = "") : p.components = [] := by
  obtain ⟨text⟩ := p
  obtain rfl := hp
  decide

/-- A name put behind any path is its last component. -/
theorem components_join_name (p : Path) {n : String} (hn : isEntryName n = true) :
    (p.join ⟨n⟩).components = p.components ++ [.name n] := by
  by_cases hp : p.text = ""
  · have hslash := slash_notMem_of_isEntryName hn
    have hname := component?_of_isEntryName hn
    have hdot : n.toList ≠ ['.'] := (ne_nil_of_component? hname).2
    rw [join_of_text_eq_empty hp, components_of_text_eq_empty hp, components_eq_componentsOf,
      isAbsolute_mk hslash, pieces_mk hslash]
    simp [componentsOf, hdot, hname]
  · exact components_join hp hn

section WithFileName

variable {p : Path} {name : String} (hname : isEntryName name = true)
include hname

/-- Another file name takes the place of the last component, if that is a name. -/
theorem components_withFileName {n : String} {front : List Component}
    (h : p.components = front ++ [.name n]) :
    (p.withFileName name).components = front ++ [.name name] := by
  have hparent := map_components_parent? h (by simp)
  obtain ⟨q, hq, rfl⟩ := Option.map_eq_some_iff.1 hparent
  rw [withFileName, fileName?_eq_some_iff.2 ⟨_, h⟩, hq, ← components_join_name q hname]
  rfl

theorem components_withFileName_of_none (h : p.fileName? = none) :
    (p.withFileName name).components = p.components ++ [.name name] := by
  rw [withFileName, h, ← components_join_name p hname]

theorem components_withFileName_eq_iff :
    (p.withFileName name).components = p.components ↔ p.fileName? = some name := by
  cases h : p.fileName? with
  | none => simp [components_withFileName_of_none hname h]
  | some n =>
    obtain ⟨front, hfront⟩ := fileName?_eq_some_iff.1 h
    simp [components_withFileName hname hfront, hfront, eq_comm]

theorem parent?_withFileName_eq_iff :
    (p.withFileName name).parent?.map components = p.parent?.map components ↔
      p.fileName?.isSome := by
  cases h : p.fileName? with
  | none =>
    have hlast := components_withFileName_of_none hname h
    simpa [map_components_parent? hlast] using (components_parent?_ne p).symm
  | some n =>
    obtain ⟨front, hfront⟩ := fileName?_eq_some_iff.1 h
    have hlast := components_withFileName hname hfront
    simp [map_components_parent? hlast, map_components_parent? hfront]

end WithFileName

theorem fileName?_congr {p q : Path} (h : p.components.getLast? = q.components.getLast?) :
    p.fileName? = q.fileName? := by
  rw [fileName?, fileName?, h]

theorem component?_ne_current (piece : List Char) : component? piece ≠ some .current := by
  rw [component?]
  split
  · simp
  · split <;> simp

/-- A relative path whose pieces name nothing is the current directory. -/
theorem components_eq_current_iff {q : Path} (hq : q.isAbsolute = false) (htext : q.text ≠ "") :
    q.components = [.current] ↔ q.pieces.filterMap component? = [] := by
  have hne : q.pieces ≠ [] := cutAtSlashes_ne_nil _
  obtain ⟨first, rest, hpieces⟩ := List.exists_cons_of_ne_nil hne
  have hfirst : first ≠ [] := by simpa [hpieces] using head?_pieces hq htext
  rw [components_eq_componentsOf, hq, hpieces, componentsOf]
  by_cases hdot : first = ['.']
  · simp [hdot]
  · obtain ⟨last, -, hlast⟩ := component?_ne_none hfirst hdot
    have hcurrent : last ≠ .current := fun h => component?_ne_current first (h ▸ hlast)
    simp [hdot, hlast, hcurrent]

/-- The file name of a path that is seen from another one is its own. The current directory is the
other path itself. -/
theorem fileName?_join (p : Path) {q : Path} (htext : q.text ≠ "") :
    (p.join q).fileName? = if q.components = [.current] then p.fileName? else q.fileName? := by
  cases hq : q.isAbsolute with
  | true =>
    have hroot : q.components ≠ [.current] := by simp [components, hq]
    rw [join, if_pos hq, if_neg hroot]
  | false =>
    by_cases hp : p.text = ""
    · rw [join_of_text_eq_empty hp]
      split
      · rename_i hcurrent
        simp [fileName?, hcurrent, components_of_text_eq_empty hp]
      · rfl
    · have hjoin := components_join_of_relative hp hq
      split
      · rename_i hcurrent
        have hnone := (components_eq_current_iff hq htext).1 hcurrent
        exact fileName?_congr (by rw [hjoin, hnone, List.append_nil])
      · rename_i hother
        have hsome := mt (components_eq_current_iff hq htext).2 hother
        refine fileName?_congr ?_
        rw [hjoin, q.components_eq, List.getLast?_append_of_ne_nil _ hsome,
          List.getLast?_append_of_ne_nil _ hsome]

end Path

namespace Config

/-- The directory that the paths in the configuration file at a path are seen from. -/
def base (path : Path) : Path := path.parent?.getD ⟨""⟩

/-- What a configuration is loaded from: a text that is read as one in which nothing is wrong. -/
theorem loadWith_eq_ok_iff {read : String → Except SettingFault Config} {d : Disk} {path : Path}
    {c : Config} :
    loadWith read d path = .ok c ↔ ∃ source written, d.read path = .ok source ∧
      read source = .ok written ∧ written.fault? = none ∧ c = written.seenFrom (base path) := by
  constructor
  · intro h
    obtain ⟨source, hread, h⟩ := bind_eq_ok.1 h
    obtain ⟨written, hwritten, h⟩ := bind_eq_ok.1 h
    refine ⟨source, written, mapError_eq_ok.1 hread, mapError_eq_ok.1 hwritten, ?_⟩
    cases hfault : written.fault? with
    | some message => simp [hfault, throw, throwThe, MonadExceptOf.throw] at h
    | none =>
      rw [hfault] at h
      exact ⟨rfl, (pure_eq_ok.1 h).symm⟩
  · rintro ⟨source, written, hread, hwritten, hfault, rfl⟩
    refine bind_eq_ok.2 ⟨source, mapError_eq_ok.2 hread, ?_⟩
    refine bind_eq_ok.2 ⟨written, mapError_eq_ok.2 hwritten, ?_⟩
    rw [hfault]
    rfl

theorem output_of_fault?_eq_none {c : Config} (h : c.fault? = none) :
    c.output.text ≠ "" ∧ c.output.fileName? ≠ some preambleName := by
  unfold fault? at h
  split_ifs at h
  exact ⟨‹_›, ‹_›⟩

/-- However a configuration is read, its two files have one path if and only if the output is written
as the current directory and the directory of the configuration has the name of the preamble. They
have one parent if and only if the output is written with a file name, or as the current directory
where that has a name. -/
theorem preambleOutput_beside_iff {read : String → Except SettingFault Config} {d : Disk}
    {path : Path} {c : Config} (h : loadWith read d path = .ok c) :
    ∃ source written, d.read path = .ok source ∧ read source = .ok written ∧
      c = written.seenFrom (base path) ∧
      (c.preambleOutput.components = c.output.components ↔
        written.output.components = [.current] ∧ (base path).fileName? = some preambleName) ∧
      (c.preambleOutput.parent?.map Path.components = c.output.parent?.map Path.components ↔
        written.output.fileName?.isSome ∨
          written.output.components = [.current] ∧ (base path).fileName?.isSome) := by
  obtain ⟨source, written, hread, hwritten, hfault, hc⟩ := loadWith_eq_ok_iff.1 h
  obtain ⟨htext, hname⟩ := output_of_fault?_eq_none hfault
  refine ⟨source, written, hread, hwritten, hc, ?_⟩
  have houtput : c.output = (base path).join written.output := by rw [hc]; rfl
  rw [preambleOutput, Path.components_withFileName_eq_iff isEntryName_preambleName,
    Path.parent?_withFileName_eq_iff isEntryName_preambleName, houtput, Path.fileName?_join _ htext]
  by_cases hcurrent : written.output.components = [.current]
  · have hnone : written.output.fileName? = none := by simp [Path.fileName?, hcurrent]
    simp [hcurrent, hnone]
  · simp [hcurrent, hname]

def projectText (output : String) : String :=
  "sql:\n  schema: s.sql\n  queries: q.sql\n  driver: postgres\n  output: " ++ output ++ "\n"

/-- A configuration file in a directory that has the name of the preamble. -/
def projectDisk (output : String) : Disk where
  tree := (FileTree.empty.set ["db.go"] .directory).set ["db.go", "shogunc.yml"]
    (.file (.text (projectText output)))
  workingDirectory := []

def projectIn (directory output : String) : Config :=
  ⟨⟨directory ++ "s.sql"⟩, ⟨directory ++ "q.sql"⟩, .postgres, ⟨directory ++ output⟩, "db"⟩

/-- Pieces that name nothing, in front of the file name and behind it, make no difference. -/
theorem preambleOutput_beside_queries :
    loadWith ofText (projectDisk "../gen//queries.go/.") ⟨"/db.go/shogunc.yml"⟩ =
        .ok (projectIn "/db.go/" "../gen//queries.go/.") ∧
      (projectIn "/db.go/" "../gen//queries.go/.").preambleOutput = ⟨"/db.go/../gen/db.go"⟩ ∧
      (projectIn "/db.go/" "../gen//queries.go/.").preambleOutput.components ≠
        (projectIn "/db.go/" "../gen//queries.go/.").output.components ∧
      (projectIn "/db.go/" "../gen//queries.go/.").preambleOutput.parent?.map Path.components =
        (projectIn "/db.go/" "../gen//queries.go/.").output.parent?.map Path.components := by
  have hread : (projectDisk "../gen//queries.go/.").read ⟨"/db.go/shogunc.yml"⟩ =
      .ok (projectText "../gen//queries.go/.") := by decide +kernel
  have hwritten : ofText (projectText "../gen//queries.go/.") =
      .ok (projectIn "" "../gen//queries.go/.") := by decide +kernel
  have hload := loadWith_eq_ok_iff.2 ⟨_, _, hread, hwritten, by decide +kernel, rfl⟩
  have hseen : (projectIn "" "../gen//queries.go/.").seenFrom (base ⟨"/db.go/shogunc.yml"⟩) =
      projectIn "/db.go/" "../gen//queries.go/." := by decide +kernel
  rw [hseen] at hload
  obtain ⟨source, written, hread', hwritten', -, hpath, hparent⟩ := preambleOutput_beside_iff hload
  obtain rfl := Except.ok.inj (hread'.symm.trans hread)
  obtain rfl := Except.ok.inj (hwritten'.symm.trans hwritten)
  exact ⟨hload, by decide +kernel, mt hpath.1 (by decide +kernel), hparent.2 (by decide +kernel)⟩

/-- The current directory passes for an output, and is the path of the preamble; behind a directory
above another one, the preamble is in that directory and not beside it. -/
theorem preambleOutput_of_directories :
    load (projectDisk ".") ⟨"/db.go/shogunc.yml"⟩ = .ok (projectIn "/db.go/" ".") ∧
      (projectIn "/db.go/" ".").preambleOutput.components =
        (projectIn "/db.go/" ".").output.components ∧
      load (projectDisk "gen/..") ⟨"/db.go/shogunc.yml"⟩ = .ok (projectIn "/db.go/" "gen/..") ∧
      (projectIn "/db.go/" "gen/..").preambleOutput.parent?.map Path.components ≠
        (projectIn "/db.go/" "gen/..").output.parent?.map Path.components := by
  decide +kernel

end Config

end TypedQueries
