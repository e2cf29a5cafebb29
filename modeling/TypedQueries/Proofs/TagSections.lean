import Mathlib.Data.List.TakeWhile
import TypedQueries.Query.Block

/-!
Query files, line by line. A file is a preamble without tag lines and sections, each of which starts
with a tag line and has no other. The blocks of the file are those of its sections, so that no line
behind the first tag line is lost, and none is in two blocks.
-/

namespace TypedQueries

namespace Text

/-- The lines of a text. Each ends at a line feed or at a carriage return with a line feed behind it,
but for the last, which may end where the text ends. Other carriage returns belong to their lines. -/
inductive SplitsInto : List Char → List (List Char) → Prop
  | nil : SplitsInto [] []
  | last {line : List Char} (hne : line ≠ []) (hfeed : '\n' ∉ line) : SplitsInto line [line]
  | feed {line rest : List Char} {ls : List (List Char)} (hfeed : '\n' ∉ line)
      (hreturn : line.getLast? ≠ some '\r') (h : SplitsInto rest ls) :
      SplitsInto (line ++ '\n' :: rest) (line :: ls)
  | returnFeed {line rest : List Char} {ls : List (List Char)} (hfeed : '\n' ∉ line)
      (h : SplitsInto rest ls) : SplitsInto (line ++ '\r' :: '\n' :: rest) (line :: ls)

theorem forall_not_isLineFeed {cs : List Char} (h : '\n' ∉ cs) :
    ∀ c ∈ cs, (!isLineFeed c) = true := by
  rintro c hc
  simp only [isLineFeed, Bool.not_eq_true', beq_eq_false_iff_ne]
  rintro rfl
  exact h hc

theorem lines_of_notMem {cs : List Char} (h : '\n' ∉ cs) :
    lines cs = if cs.isEmpty then [] else [cs] := by
  have hdrop : cs.dropWhile (fun c => !isLineFeed c) = [] :=
    List.dropWhile_eq_nil_iff.2 (forall_not_isLineFeed h)
  rw [lines]
  split
  · rfl
  · rename_i hcons
    rw [hdrop] at hcons
    cases hcons

theorem lines_append_feed {line : List Char} (h : '\n' ∉ line) (rest : List Char) :
    lines (line ++ '\n' :: rest) = dropReturn line :: lines rest := by
  have hline := forall_not_isLineFeed h
  have hdrop : (line ++ '\n' :: rest).dropWhile (fun c => !isLineFeed c) = '\n' :: rest := by
    rw [List.dropWhile_append_of_pos hline]
    rfl
  have htake : (line ++ '\n' :: rest).takeWhile (fun c => !isLineFeed c) = line := by
    rw [List.takeWhile_append_of_pos hline]
    simp [isLineFeed]
  rw [lines]
  split <;> rename_i hcons <;> rw [hdrop] at hcons <;> cases hcons
  rw [htake]

theorem dropReturn_of_ne {line : List Char} (h : line.getLast? ≠ some '\r') :
    dropReturn line = line := if_neg h

theorem dropReturn_concat (line : List Char) : dropReturn (line ++ ['\r']) = line := by
  simp [dropReturn]

theorem lines_of_splitsInto {cs : List Char} {ls : List (List Char)} (h : SplitsInto cs ls) :
    lines cs = ls := by
  induction h with
  | nil => exact lines_of_notMem (by simp)
  | last hne hfeed => rw [lines_of_notMem hfeed, if_neg (by simpa using hne)]
  | feed hfeed hreturn _ ih => rw [lines_append_feed hfeed, dropReturn_of_ne hreturn, ih]
  | @returnFeed line rest ls hfeed _ ih =>
    have hfeed' : '\n' ∉ line ++ ['\r'] := by simpa using hfeed
    rw [← List.singleton_append, ← List.append_assoc, lines_append_feed hfeed', dropReturn_concat,
      ih]

theorem splitsInto_lines (cs : List Char) : SplitsInto cs (lines cs) := by
  fun_induction lines cs with
  | case1 cs hdrop hempty =>
    rw [List.isEmpty_iff.1 hempty]
    exact .nil
  | case2 cs hdrop hne =>
    have hfeed := List.dropWhile_eq_nil_iff.1 hdrop
    refine .last (by simpa using hne) fun hmem => ?_
    exact absurd (hfeed '\n' hmem) (by decide)
  | case3 cs c rest hdrop ih =>
    have hsplit := List.takeWhile_append_dropWhile (p := fun c => !isLineFeed c) (l := cs)
    have hfeed : '\n' ∉ cs.takeWhile fun c => !isLineFeed c := fun hmem =>
      absurd (List.mem_takeWhile_imp hmem) (by decide)
    have hc : isLineFeed c = true := by
      refine List.find?_some (l := cs) ?_
      rw [List.find?_eq_head?_dropWhile_not, hdrop]
      rfl
    obtain rfl : c = '\n' := beq_iff_eq.1 hc
    rw [hdrop] at hsplit
    generalize (cs.takeWhile fun c => !isLineFeed c) = line at hsplit hfeed
    subst hsplit
    by_cases hreturn : line.getLast? = some '\r'
    · obtain ⟨front, rfl⟩ := List.getLast?_eq_some_iff.1 hreturn
      rw [dropReturn_concat, List.append_assoc]
      exact .returnFeed (fun hmem => hfeed (by simp [hmem])) ih
    · rw [dropReturn_of_ne hreturn]
      exact .feed hfeed hreturn ih

end Text

namespace QueryBlock

/-- The text does not go on with characters of the class. -/
def Stops (p : Char → Bool) (rest : List Char) : Prop := ∀ c ∈ rest.head?, p c = false

section
variable {p : Char → Bool} {cs ds rest rest' : List Char}

theorem stops_cons {c : Char} (h : p c = false) : Stops p (c :: rest) := by
  rintro d ⟨⟩
  exact h

theorem dropWhile_append_of_stops (h : ∀ c ∈ cs, p c = true) (hrest : Stops p rest) :
    (cs ++ rest).dropWhile p = rest := by
  rw [List.dropWhile_append_of_pos h]
  cases rest with
  | nil => rfl
  | cons c rest => exact List.dropWhile_cons_of_neg (by simp [hrest c rfl])

theorem takeWhile_append_of_stops (h : ∀ c ∈ cs, p c = true) (hrest : Stops p rest) :
    (cs ++ rest).takeWhile p = cs := by
  rw [List.takeWhile_append_of_pos h]
  cases rest with
  | nil => simp
  | cons c rest => rw [List.takeWhile_cons_of_neg (by simp [hrest c rfl]), List.append_nil]

theorem append_inj_of_stops (hcs : ∀ c ∈ cs, p c = true) (hds : ∀ c ∈ ds, p c = true)
    (hrest : Stops p rest) (hrest' : Stops p rest') (h : cs ++ rest = ds ++ rest') :
    cs = ds ∧ rest = rest' := by
  have hfront := congrArg (List.takeWhile p) h
  have hback := congrArg (List.dropWhile p) h
  rw [takeWhile_append_of_stops hcs hrest, takeWhile_append_of_stops hds hrest'] at hfront
  rw [dropWhile_append_of_stops hcs hrest, dropWhile_append_of_stops hds hrest'] at hback
  exact ⟨hfront, hback⟩

end

def IsBlanks (cs : List Char) : Prop := ∀ c ∈ cs, isTagBlank c = true

def IsWord (cs : List Char) : Prop := cs ≠ [] ∧ ∀ c ∈ cs, isTagWord c = true

theorem isTagBlank_of_isTagWord {c : Char} (h : isTagWord c = true) : isTagBlank c = false := by
  by_contra hblank
  simp only [isTagBlank, Bool.not_eq_false, Bool.or_eq_true, beq_iff_eq] at hblank
  rcases hblank with (((rfl | rfl) | rfl) | rfl) | rfl <;> exact absurd h (by decide)

theorem isTagWord_of_isTagBlank {c : Char} (h : isTagBlank c = true) : isTagWord c = false := by
  by_contra hword
  rw [isTagBlank_of_isTagWord (by simpa using hword)] at h
  cases h

theorem IsWord.stops {word : List Char} (h : IsWord word) (rest : List Char) :
    Stops isTagBlank (word ++ rest) := by
  obtain ⟨c, cs, rfl⟩ := List.exists_cons_of_ne_nil h.1
  exact stops_cons (isTagBlank_of_isTagWord (h.2 c (by simp)))

theorem IsBlanks.stops {blanks : List Char} (h : IsBlanks blanks) (rest : List Char) :
    Stops isTagWord (blanks ++ ':' :: rest) := by
  cases blanks with
  | nil => exact stops_cons (by decide)
  | cons c cs => exact stops_cons (isTagWord_of_isTagBlank (h c (by simp)))

/-- The parts of a tag line: its two words, and the blanks in front of `name:`, of the first word and
of the colon behind it. -/
structure Tag where
  labelGap : List Char
  nameGap : List Char
  name : List Char
  colonGap : List Char
  kind : List Char
  labelGap_blanks : IsBlanks labelGap
  nameGap_blanks : IsBlanks nameGap
  name_word : IsWord name
  colonGap_blanks : IsBlanks colonGap
  kind_word : IsWord kind

namespace Tag

def line (t : Tag) : List Char :=
  ['-', '-'] ++ (t.labelGap ++ (['n', 'a', 'm', 'e', ':'] ++
    (t.nameGap ++ (t.name ++ (t.colonGap ++ ':' :: t.kind)))))

theorem stops_label (rest : List Char) : Stops isTagBlank (['n', 'a', 'm', 'e', ':'] ++ rest) :=
  stops_cons (by decide)

theorem stops_colon (rest : List Char) : Stops isTagBlank (':' :: rest) := stops_cons (by decide)

/-- A line is a tag line in at most one way. -/
theorem line_injective : Function.Injective line := by
  intro s t h
  obtain ⟨hlabel, h⟩ := append_inj_of_stops s.labelGap_blanks t.labelGap_blanks
    (stops_label _) (stops_label _) (List.append_cancel_left h)
  obtain ⟨hgap, h⟩ := append_inj_of_stops s.nameGap_blanks t.nameGap_blanks
    (s.name_word.stops _) (t.name_word.stops _) (List.append_cancel_left h)
  obtain ⟨hname, h⟩ := append_inj_of_stops s.name_word.2 t.name_word.2
    (s.colonGap_blanks.stops _) (t.colonGap_blanks.stops _) h
  obtain ⟨hcolon, h⟩ := append_inj_of_stops s.colonGap_blanks t.colonGap_blanks
    (stops_colon _) (stops_colon _) h
  have hkind := (List.cons.inj h).2
  cases s
  cases t
  congr

end Tag

theorem tag?_line (t : Tag) : tag? t.line = some (t.name, t.kind) := by
  have hlabel (rest : List Char) :
      (t.labelGap ++ 'n' :: rest).dropWhile isTagBlank = 'n' :: rest :=
    dropWhile_append_of_stops t.labelGap_blanks (stops_cons (by decide))
  have hwords : (!t.name.isEmpty && !t.kind.isEmpty && t.kind.all isTagWord) = true := by
    simpa [t.name_word.1, t.kind_word.1] using t.kind_word.2
  simp only [Tag.line, List.cons_append, List.nil_append, tag?, hlabel,
    dropWhile_append_of_stops t.nameGap_blanks (t.name_word.stops _),
    takeWhile_append_of_stops t.name_word.2 (t.colonGap_blanks.stops _),
    dropWhile_append_of_stops t.name_word.2 (t.colonGap_blanks.stops _),
    dropWhile_append_of_stops t.colonGap_blanks (Tag.stops_colon _), hwords, if_true]

theorem exists_line_of_tag? {name kind line : List Char} (h : tag? line = some (name, kind)) :
    ∃ t : Tag, t.line = line ∧ t.name = name ∧ t.kind = kind := by
  have hcut (p : Char → Bool) (cs : List Char) := List.takeWhile_append_dropWhile (p := p) (l := cs)
  unfold tag? at h
  split at h
  · rename_i rest
    split at h
    · rename_i rest₂ hrest
      dsimp only at h
      split at h
      · rename_i kind' hrest₂
        split at h
        · rename_i hwords
          simp only [Bool.and_eq_true, Bool.not_eq_true', List.isEmpty_eq_false_iff,
            List.all_eq_true] at hwords
          obtain ⟨⟨hname, hkind⟩, hword⟩ := hwords
          cases h
          -- each part is what was taken there, and the parts behind it are what was dropped
          let t : Tag :=
            { labelGap := rest.takeWhile isTagBlank
              nameGap := rest₂.takeWhile isTagBlank
              name := (rest₂.dropWhile isTagBlank).takeWhile isTagWord
              colonGap := ((rest₂.dropWhile isTagBlank).dropWhile isTagWord).takeWhile isTagBlank
              kind := kind
              labelGap_blanks := fun _ => List.mem_takeWhile_imp
              nameGap_blanks := fun _ => List.mem_takeWhile_imp
              name_word := ⟨hname, fun _ => List.mem_takeWhile_imp⟩
              colonGap_blanks := fun _ => List.mem_takeWhile_imp
              kind_word := ⟨hkind, hword⟩ }
          refine ⟨t, ?_, rfl, rfl⟩
          simp only [Tag.line, t, ← hrest₂, hcut, List.cons_append, List.nil_append, ← hrest]
        · cases h
      · cases h
    · cases h
  · cases h

/-- The line is no tag line. -/
def Untagged (line : List Char) : Prop := ∀ t : Tag, t.line ≠ line

theorem tag?_eq_none_iff {line : List Char} : tag? line = none ↔ Untagged line := by
  constructor
  · rintro h t rfl
    rw [tag?_line] at h
    cases h
  · intro h
    by_contra hne
    obtain ⟨⟨name, kind⟩, hsome⟩ := Option.ne_none_iff_exists'.1 hne
    obtain ⟨t, hline, -⟩ := exists_line_of_tag? hsome
    exact h t hline

/-- The text of lines that each end in a line feed. -/
def closedText (lines : List (List Char)) : String :=
  String.join (lines.map fun line => String.ofList line ++ "\n")

theorem closedText_cons (line : List Char) (lines : List (List Char)) :
    closedText (line :: lines) = String.ofList line ++ "\n" ++ closedText lines := by
  rw [closedText, List.map_cons, String.join_cons, closedText]

theorem closedText_append (lines more : List (List Char)) :
    closedText (lines ++ more) = closedText lines ++ closedText more := by
  rw [closedText, List.map_append, String.join_append, closedText, closedText]

theorem ofList_joinLines (lines : List (List Char)) :
    String.ofList (joinLines lines) = closedText lines := by
  induction lines with
  | nil => rfl
  | cons line lines ih =>
    rw [closedText_cons, ← ih, joinLines, List.flatMap_cons, String.ofList_append,
      String.ofList_append]
    rfl

/-- A tag line and the lines behind it, up to the next tag line. -/
structure TagSection where
  tag : Tag
  body : List (List Char)
  untagged : ∀ line ∈ body, Untagged line

namespace TagSection

def lines (s : TagSection) : List (List Char) := s.tag.line :: s.body

/-- The block of a section has the name with its first letter as a capital, the kind as it is, and
each line behind the tag line with a line feed. -/
def block (file : String) (s : TagSection) : QueryBlock :=
  ⟨String.ofList (s.tag.name.modifyHead Char.toUpper), String.ofList s.tag.kind,
    closedText s.body, file⟩

end TagSection

theorem exists_sections (lines : List (List Char)) :
    ∃ (preamble : List (List Char)) (sections : List TagSection),
      (∀ line ∈ preamble, Untagged line) ∧
      lines = preamble ++ sections.flatMap TagSection.lines := by
  induction lines with
  | nil => exact ⟨[], [], nofun, rfl⟩
  | cons line lines ih =>
    obtain ⟨preamble, sections, hpreamble, rfl⟩ := ih
    cases h : tag? line with
    | none =>
      have hline : Untagged line := tag?_eq_none_iff.1 h
      exact ⟨line :: preamble, sections, List.forall_mem_cons.2 ⟨hline, hpreamble⟩, rfl⟩
    | some words =>
      -- what was the preamble so far is the body of a new section
      obtain ⟨t, rfl, -⟩ := exists_line_of_tag? h
      exact ⟨[], ⟨t, preamble, hpreamble⟩ :: sections, nofun, rfl⟩

theorem isAscii_of_isTagWord {c : Char} (h : isTagWord c = true) : Text.isAscii c = true := by
  have hle : c.val ≤ 122 := by
    rcases Bool.or_eq_true_iff.1 h with h | h
    · rcases Bool.or_eq_true_iff.1 h with h | hdigit
      · rcases Bool.or_eq_true_iff.1 h with hupper | hlower
        · exact UInt32.le_trans (of_decide_eq_true hupper).2 (by decide)
        · exact of_decide_eq_true (Bool.and_eq_true_iff.1 hlower).2
      · exact UInt32.le_trans (of_decide_eq_true (Bool.and_eq_true_iff.1 hdigit).2) (by decide)
    · rw [beq_iff_eq.1 h]
      decide
  exact decide_eq_true (Nat.lt_of_le_of_lt (UInt32.le_iff_toNat_le.1 hle) (by decide))

theorem IsWord.capitalize_eq {word : List Char} (h : IsWord word) :
    capitalize word = word.modifyHead Char.toUpper := by
  obtain ⟨c, cs, rfl⟩ := List.exists_cons_of_ne_nil h.1
  rw [capitalize, Text.upperChar_of_isAscii (isAscii_of_isTagWord (h.2 c (by simp)))]
  rfl

theorem ofLines_append_of_untagged (file : String) {front : List (List Char)}
    (h : ∀ line ∈ front, Untagged line) (rest : List (List Char)) :
    ofLines file (front ++ rest) = ofLines file rest := by
  induction front with
  | nil => rfl
  | cons line front ih =>
    rw [List.forall_mem_cons] at h
    rw [List.cons_append, ofLines, tag?_eq_none_iff.2 h.1]
    exact ih h.2

/-- The body of a section is what is taken up to the next tag line. -/
theorem takeWhile_body (s : TagSection) (sections : List TagSection) :
    (s.body ++ sections.flatMap TagSection.lines).takeWhile (fun l => (tag? l).isNone) = s.body := by
  have hbody : ∀ line ∈ s.body, (tag? line).isNone = true := fun line hline => by
    rw [tag?_eq_none_iff.2 (s.untagged line hline)]
    rfl
  rw [List.takeWhile_append_of_pos hbody]
  cases sections with
  | nil => simp
  | cons next sections => simp [TagSection.lines, tag?_line]

theorem ofLines_sections (file : String) (sections : List TagSection) :
    ofLines file (sections.flatMap TagSection.lines) = sections.map (TagSection.block file) := by
  induction sections with
  | nil => rfl
  | cons s sections ih =>
    rw [List.flatMap_cons, TagSection.lines, List.cons_append, ofLines, tag?_line]
    simp only [takeWhile_body, s.tag.name_word.capitalize_eq, ofList_joinLines,
      ofLines_append_of_untagged file s.untagged, ih]
    rfl

/-- The lines of sections are the tag lines, each in front of the text of its block. -/
theorem closedText_sections (file : String) (sections : List TagSection) :
    closedText (sections.flatMap TagSection.lines) =
      String.join (sections.map fun s => String.ofList s.tag.line ++ "\n" ++ (s.block file).sql) := by
  induction sections with
  | nil => rfl
  | cons s sections ih =>
    rw [List.flatMap_cons, closedText_append, ih, TagSection.lines, closedText_cons, List.map_cons,
      String.join_cons, TagSection.block]

/-- A line is a tag line in at most one way. The blocks of a file are those of the sections behind
its preamble, and the tag lines with the texts of their blocks are all lines behind the preamble. -/
theorem ofText_eq_iff (file text : String) (blocks : List QueryBlock) :
    Function.Injective Tag.line ∧
      (ofText file text = blocks ↔
        ∃ (lines preamble : List (List Char)) (sections : List TagSection),
          Text.SplitsInto text.toList lines ∧ (∀ line ∈ preamble, Untagged line) ∧
          lines = preamble ++ sections.flatMap TagSection.lines ∧
          blocks = sections.map (TagSection.block file) ∧
          closedText (lines.drop preamble.length) =
            String.join (((sections.map TagSection.tag).zip blocks).map fun p =>
              String.ofList p.1.line ++ "\n" ++ p.2.sql)) := by
  refine ⟨Tag.line_injective, ?_, ?_⟩
  · rintro rfl
    obtain ⟨preamble, sections, hpreamble, hlines⟩ := exists_sections (Text.lines text.toList)
    have hblocks : ofText file text = sections.map (TagSection.block file) := by
      rw [ofText, hlines, ofLines_append_of_untagged file hpreamble, ofLines_sections]
    refine ⟨_, preamble, sections, Text.splitsInto_lines _, hpreamble, hlines, hblocks, ?_⟩
    rw [hlines, List.drop_left, closedText_sections file, hblocks, List.zip_map', List.map_map]
    rfl
  · rintro ⟨lines, preamble, sections, hsplit, hpreamble, rfl, rfl, -⟩
    rw [ofText, Text.lines_of_splitsInto hsplit, ofLines_append_of_untagged file hpreamble,
      ofLines_sections]

example : ofText "a.sql" "x\r\n--name:get:one\r\nb\r\r\n-- name: c :many \nd" =
    [⟨"Get", "one", "b\r\n-- name: c :many \nd\n", "a.sql"⟩] := by
  cbv

end QueryBlock

end TypedQueries
