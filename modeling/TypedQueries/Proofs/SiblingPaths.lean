import Mathlib.Data.List.Basic
import TypedQueries.Files.Path

/-!
Paths are cut at their slashes and put together again. A path with another file name goes through
the pieces of the first one up to its last, less the trailing ones that name nothing.
-/

namespace TypedQueries

theorem cutAtSlashes_ne_nil (cs : List Char) : cutAtSlashes cs ≠ [] := by
  cases cs with
  | nil => simp [cutAtSlashes]
  | cons c cs =>
    rw [cutAtSlashes]
    repeat' split
    all_goals simp

theorem cutAtSlashes_cons_of_ne {c : Char} (hc : c ≠ '/') (cs : List Char) :
    ∃ piece pieces, cutAtSlashes cs = piece :: pieces ∧
      cutAtSlashes (c :: cs) = (c :: piece) :: pieces := by
  obtain ⟨piece, pieces, h⟩ := List.exists_cons_of_ne_nil (cutAtSlashes_ne_nil cs)
  exact ⟨piece, pieces, h, by simp [cutAtSlashes, hc, h]⟩

theorem slash_notMem_of_mem_cutAtSlashes {cs piece : List Char} (h : piece ∈ cutAtSlashes cs) :
    '/' ∉ piece := by
  induction cs generalizing piece with
  | nil => simp_all [cutAtSlashes]
  | cons c cs ih =>
    by_cases hc : c = '/'
    · rw [cutAtSlashes, if_pos hc, List.mem_cons] at h
      rcases h with rfl | h
      · simp
      · exact ih h
    · obtain ⟨first, pieces, hcs, heq⟩ := cutAtSlashes_cons_of_ne hc cs
      rw [heq, List.mem_cons] at h
      rcases h with rfl | h
      · have hfirst : '/' ∉ first := ih (by simp [hcs])
        simpa [Ne.symm hc] using hfirst
      · exact ih (by simp [hcs, h])

theorem cutAtSlashes_of_notMem {piece : List Char} (h : '/' ∉ piece) :
    cutAtSlashes piece = [piece] := by
  induction piece with
  | nil => rfl
  | cons c cs ih =>
    rw [List.mem_cons, not_or] at h
    simp [cutAtSlashes, Ne.symm h.1, ih h.2]

theorem cutAtSlashes_append (front back : List Char) :
    cutAtSlashes (front ++ '/' :: back) = cutAtSlashes front ++ cutAtSlashes back := by
  induction front with
  | nil => simp [cutAtSlashes]
  | cons c front ih =>
    by_cases hc : c = '/'
    · simp [cutAtSlashes, hc, ih]
    · obtain ⟨piece, pieces, hfront, -⟩ := cutAtSlashes_cons_of_ne hc front
      simp [cutAtSlashes, hc, ih, hfront]

theorem cutAtSlashes_joinWithSlashes {pieces : List (List Char)} (hne : pieces ≠ [])
    (h : ∀ piece ∈ pieces, '/' ∉ piece) : cutAtSlashes (joinWithSlashes pieces) = pieces := by
  fun_induction joinWithSlashes pieces with
  | case1 => exact absurd rfl hne
  | case2 piece => exact cutAtSlashes_of_notMem (h piece (by simp))
  | case3 piece pieces hpieces ih =>
    rw [List.forall_mem_cons] at h
    rw [cutAtSlashes_append, cutAtSlashes_of_notMem h.1, ih hpieces h.2, List.singleton_append]

theorem joinWithSlashes_concat {pieces : List (List Char)} (hne : pieces ≠ []) (last : List Char) :
    joinWithSlashes (pieces ++ [last]) = joinWithSlashes pieces ++ '/' :: last := by
  fun_induction joinWithSlashes pieces with
  | case1 => exact absurd rfl hne
  | case2 piece => rfl
  | case3 piece pieces hpieces ih =>
    rw [List.cons_append, joinWithSlashes, ih hpieces]
    · simp
    · simp

theorem getLast?_joinWithSlashes (front : List (List Char)) {last : List Char} (hlast : last ≠ []) :
    (joinWithSlashes (front ++ [last])).getLast? = last.getLast? := by
  cases front with
  | nil => rfl
  | cons piece front =>
    rw [joinWithSlashes_concat (by simp)]
    simp [List.getLast?_cons, List.getLast?_eq_some_getLast hlast]

theorem ne_nil_of_component? {piece : List Char} {n : String}
    (h : component? piece = some (.name n)) : piece ≠ [] ∧ piece ≠ ['.'] := by
  constructor <;> (rintro rfl; simp [component?] at h)

theorem trimBack_suffix (absolute : Bool) (pieces : List (List Char)) :
    trimBack absolute pieces <:+ pieces := by
  fun_induction trimBack absolute pieces with
  | case1 => exact List.suffix_rfl
  | case2 piece before _ ih => exact ih.trans (List.suffix_cons piece before)
  | case3 => exact List.suffix_rfl

theorem head?_trimBack (absolute : Bool) (pieces : List (List Char)) :
    (trimBack absolute pieces).head? ≠ some [] := by
  fun_induction trimBack absolute pieces with
  | case1 => simp
  | case2 piece before _ ih => exact ih
  | case3 piece before h =>
    rw [not_or] at h
    simpa using h.1

namespace Path

variable {p : Path} {front : List (List Char)} {piece : List Char} {n : String}

theorem text_ne_empty (hp : p.pieces = front ++ [piece]) (hpiece : piece ≠ []) : p.text ≠ "" := by
  intro h
  have hpieces : p.pieces = [[]] := by simp [pieces, isAbsolute, h, cutAtSlashes]
  rw [hpieces] at hp
  cases front with
  | nil => simp_all
  | cons _ _ => simp at hp

/-- A relative path does not start with a slash. -/
theorem head?_pieces (habsolute : p.isAbsolute = false) (htext : p.text ≠ "") :
    p.pieces.head? ≠ some [] := by
  obtain ⟨c, cs, hcs⟩ : ∃ c cs, p.text.toList = c :: cs :=
    List.exists_cons_of_ne_nil fun h => htext (String.toList_inj.1 h)
  have hc : c ≠ '/' := by simpa [isAbsolute, hcs] using habsolute
  obtain ⟨first, pieces, -, heq⟩ := cutAtSlashes_cons_of_ne hc cs
  simp [Path.pieces, habsolute, hcs, heq]

theorem fileName?_of_pieces (hp : p.pieces = front ++ [piece])
    (hpiece : component? piece = some (.name n)) : p.fileName? = some n := by
  have hlast : p.components.getLast? = some (.name n) := by
    rw [components, hp]
    split
    · simp [hpiece, List.getLast?_cons]
    · split
      · rename_i rest heq
        cases front with
        | nil =>
          obtain rfl := (List.cons.inj heq).1
          exact absurd rfl (ne_nil_of_component? hpiece).2
        | cons first front =>
          obtain rfl := (List.cons.inj heq).2
          simp [hpiece, List.getLast?_cons]
      · simp [hpiece]
  rw [fileName?, hlast]

theorem parent?_of_pieces (hp : p.pieces = front ++ [piece])
    (hpiece : component? piece = some (.name n)) :
    p.parent? = some (ofPieces p.isAbsolute (trimBack p.isAbsolute front.reverse).reverse) := by
  have htrim : trimBack p.isAbsolute (piece :: front.reverse) = piece :: front.reverse := by
    simp [trimBack, ne_nil_of_component? hpiece]
  rw [parent?, hp, List.reverse_concat, htrim, above, List.head?_cons]

theorem toList_ofPieces (absolute : Bool) (pieces : List (List Char)) :
    (ofPieces absolute pieces).text.toList =
      (if absolute then ['/'] else []) ++ joinWithSlashes pieces :=
  String.toList_ofList

theorem isAbsolute_ofPieces {absolute : Bool} {pieces : List (List Char)}
    (h : ∀ piece ∈ pieces, '/' ∉ piece) (hhead : absolute = false → pieces.head? ≠ some []) :
    (ofPieces absolute pieces).isAbsolute = absolute := by
  rw [isAbsolute, toList_ofPieces]
  cases absolute with
  | true => rfl
  | false =>
    match pieces with
    | [] => rfl
    | [] :: _ => exact absurd rfl (hhead rfl)
    | (c :: cs) :: rest =>
      have hc : c ≠ '/' := by
        rintro rfl
        exact h _ List.mem_cons_self List.mem_cons_self
      cases rest <;> simp [joinWithSlashes, hc]

theorem pieces_ofPieces {absolute : Bool} {pieces : List (List Char)} (hne : pieces ≠ [])
    (h : ∀ piece ∈ pieces, '/' ∉ piece) (hhead : absolute = false → pieces.head? ≠ some []) :
    (ofPieces absolute pieces).pieces = pieces := by
  rw [Path.pieces, isAbsolute_ofPieces h hhead, toList_ofPieces]
  cases absolute <;> simp [cutAtSlashes_joinWithSlashes hne h]

theorem isAbsolute_mk (hn : '/' ∉ n.toList) : (Path.mk n).isAbsolute = false := by
  simpa [isAbsolute] using fun h => hn (List.mem_of_head? h)

theorem join_ofPieces {absolute : Bool} {pieces : List (List Char)}
    (h : ∀ piece ∈ pieces, '/' ∉ piece) (hlast : pieces.getLast? ≠ some []) {name : String}
    (hname : '/' ∉ name.toList) :
    (ofPieces absolute pieces).join ⟨name⟩ = ofPieces absolute (pieces ++ [name.toList]) := by
  rw [join, isAbsolute_mk hname, toList_ofPieces]
  rcases pieces.eq_nil_or_concat with rfl | ⟨init, last, rfl⟩
  · cases absolute <;> simp [ofPieces, joinWithSlashes]
  · have hne : last ≠ [] := by simpa using hlast
    have hend : ((if absolute then ['/'] else []) ++
        joinWithSlashes (init ++ [last])).getLast? = some (last.getLast hne) := by
      rw [List.getLast?_append, getLast?_joinWithSlashes init hne,
        List.getLast?_eq_some_getLast hne, Option.some_or]
    have hslash : last.getLast hne ≠ '/' := fun heq =>
      h last (by simp) (heq ▸ List.getLast_mem hne)
    rw [List.concat_eq_append] at *
    rw [hend]
    have htext : (ofPieces absolute (init ++ [last])).text ++ "/" ++ name =
        (ofPieces absolute (init ++ [last] ++ [name.toList])).text := by
      have hinit : init ++ [last] ≠ [] := by simp
      rw [← String.toList_inj, String.toList_append, String.toList_append, toList_ofPieces,
        toList_ofPieces, joinWithSlashes_concat hinit]
      simp
    simp [hslash, htext]

/-- A path with another file name starts where the path does. It goes through the same pieces up to
the last, without those that name nothing right in front of that. -/
theorem pieces_withFileName (hp : p.pieces = front ++ [piece])
    (hpiece : component? piece = some (.name n)) {name : String} (hname : '/' ∉ name.toList)
    (hne : name.toList ≠ []) :
    (p.withFileName name).isAbsolute = p.isAbsolute ∧ (p.withFileName name).pieces =
      (trimBack p.isAbsolute front.reverse).reverse ++ [name.toList] := by
  obtain ⟨kept, hkept⟩ : ∃ kept, kept = (trimBack p.isAbsolute front.reverse).reverse := ⟨_, rfl⟩
  have hstart : kept <+: front := by
    rw [hkept, ← List.reverse_suffix, List.reverse_reverse]
    exact trimBack_suffix _ _
  have hslash : ∀ q ∈ kept, '/' ∉ q := fun q hq =>
    slash_notMem_of_mem_cutAtSlashes (by simpa [hp] using .inl (hstart.subset hq) : q ∈ p.pieces)
  have hlast : kept.getLast? ≠ some [] := by
    rw [hkept, List.getLast?_reverse]
    exact head?_trimBack _ _
  have hpath : p.withFileName name = ofPieces p.isAbsolute (kept ++ [name.toList]) := by
    rw [withFileName, fileName?_of_pieces hp hpiece, parent?_of_pieces hp hpiece, ← hkept]
    exact join_ofPieces hslash hlast hname
  have hall : ∀ q ∈ kept ++ [name.toList], '/' ∉ q :=
    List.forall_mem_append.2 ⟨hslash, by simpa using hname⟩
  have hhead : p.isAbsolute = false → (kept ++ [name.toList]).head? ≠ some [] := by
    intro habsolute
    have hfirst := head?_pieces habsolute (text_ne_empty hp (ne_nil_of_component? hpiece).1)
    obtain ⟨rest, rfl⟩ := hstart
    cases kept with
    | nil => simpa using hne
    | cons first kept => simpa [hp] using hfirst
  rw [hpath, isAbsolute_ofPieces hall hhead, pieces_ofPieces (by simp) hall hhead, hkept]
  exact ⟨rfl, rfl⟩

end Path

end TypedQueries
