import TypedQueries.Proofs.AddedQueries
import TypedQueries.Proofs.TagSections

/-!
Query files one behind the other. If the first ends with a whole line and the second begins with a
tag line, then the blocks of the two are the blocks of the joint text, and adding the joint text is
adding the first file and then the second.
-/

namespace TypedQueries

namespace Text

/-- The text is empty, or its last line ends with a line feed. -/
def EndsLine (cs : List Char) : Prop := cs = [] ∨ cs.getLast? = some '\n'

theorem EndsLine.of_append {line rest : List Char} (h : EndsLine (line ++ '\n' :: rest)) :
    EndsLine rest := by
  rcases List.eq_nil_or_concat rest with rfl | ⟨front, c, rfl⟩
  · exact Or.inl rfl
  · rcases h with h | h
    · simp at h
    · exact Or.inr (by simpa [List.getLast?_append, List.getLast?_cons] using h)

/-- The lines of a text behind one that ends with a whole line are lines of their own. -/
theorem SplitsInto.append {cs ds : List Char} {ls ms : List (List Char)} (h : SplitsInto cs ls)
    (hcs : EndsLine cs) (hds : SplitsInto ds ms) : SplitsInto (cs ++ ds) (ls ++ ms) := by
  induction h with
  | nil => exact hds
  | @last line hne hfeed =>
    rcases hcs with hcs | hcs
    · exact absurd hcs hne
    · exact absurd (List.mem_of_getLast? hcs) hfeed
  | feed hfeed hreturn _ ih =>
    rw [List.append_assoc]
    exact .feed hfeed hreturn (ih hcs.of_append)
  | @returnFeed line rest ls hfeed _ ih =>
    have hends : EndsLine ((line ++ ['\r']) ++ '\n' :: rest) := by simpa using hcs
    rw [List.append_assoc]
    exact .returnFeed hfeed (ih hends.of_append)

end Text

namespace QueryBlock

/-- The first line of the text is a tag line. -/
def StartsWithTag (text : String) : Prop :=
  ∃ (t : Tag) (ls : List (List Char)), Text.SplitsInto text.toList (t.line :: ls)

/-- Lines of which the first is a tag line are sections, without a preamble. -/
theorem exists_sections_of_tag (t : Tag) (ls : List (List Char)) :
    ∃ sections : List TagSection, t.line :: ls = sections.flatMap TagSection.lines := by
  obtain ⟨preamble, sections, hpreamble, heq⟩ := exists_sections (t.line :: ls)
  cases preamble with
  | nil => exact ⟨sections, heq⟩
  | cons line preamble =>
    have hline : t.line = line := (List.cons.inj heq).1
    exact absurd hline (hpreamble line (by simp) t)

/-- A tag line closes the block in front of it. -/
theorem ofLines_append (file : String) (ls : List (List Char)) (t : Tag) (ms : List (List Char)) :
    ofLines file (ls ++ t.line :: ms) = ofLines file ls ++ ofLines file (t.line :: ms) := by
  obtain ⟨preamble, sections, hpreamble, rfl⟩ := exists_sections ls
  obtain ⟨more, hmore⟩ := exists_sections_of_tag t ms
  rw [hmore, List.append_assoc, ← List.flatMap_append, ofLines_append_of_untagged file hpreamble,
    ofLines_append_of_untagged file hpreamble, ofLines_sections, ofLines_sections, ofLines_sections,
    List.map_append]

theorem ofText_append {first second : String} (hfirst : Text.EndsLine first.toList)
    (hsecond : StartsWithTag second) (file : String) :
    ofText file (first ++ second) = ofText file first ++ ofText file second := by
  obtain ⟨t, ms, hms⟩ := hsecond
  have hlines := (Text.splitsInto_lines first.toList).append hfirst hms
  rw [ofText, String.toList_append, Text.lines_of_splitsInto hlines, ofLines_append, ofText, ofText,
    Text.lines_of_splitsInto hms]

end QueryBlock

namespace Compilation

/-- Blocks behind others are added to what these leave, unless one of these fails. -/
theorem addBlocks_append (c : Compilation) (bs ds : List QueryBlock) :
    c.addBlocks (bs ++ ds) =
      match c.addBlocks bs with
      | (after, none) => after.addBlocks ds
      | (after, some e) => (after, some e) := by
  induction bs generalizing c with
  | nil => rfl
  | cons b bs ih =>
    rcases h : c.addBlock b with ⟨after, _ | e⟩
    · simp only [List.cons_append, addBlocks, h]
      exact ih after
    · simp only [List.cons_append, addBlocks, h]

/-- The blocks of two files are those of the joint text. Where the first file is added without an
error, the joint text leads to the same compilation and to the same error as the second file added
behind the first; where the first fails, the joint text fails alike. -/
theorem addFile_append {first second : String} (hfirst : Text.EndsLine first.toList)
    (hsecond : QueryBlock.StartsWithTag second) (file : String) :
    QueryBlock.ofText file (first ++ second) =
        QueryBlock.ofText file first ++ QueryBlock.ofText file second ∧
      ∀ c : Compilation,
        ((c.addFile file first).2 = none →
          c.addFile file (first ++ second) = (c.addFile file first).1.addFile file second) ∧
        ∀ e, (c.addFile file first).2 = some e →
          c.addFile file (first ++ second) = c.addFile file first := by
  have hblocks := QueryBlock.ofText_append hfirst hsecond file
  refine ⟨hblocks, fun c => ?_⟩
  have hjoint : c.addFile file (first ++ second) =
      match c.addFile file first with
      | (after, none) => after.addFile file second
      | (after, some e) => (after, some e) := by
    rw [addFile, hblocks]
    exact addBlocks_append c _ _
  rcases hadd : c.addFile file first with ⟨after, _ | e⟩
  · rw [hadd] at hjoint
    refine ⟨fun _ => hjoint, fun e he => ?_⟩
    cases he
  · rw [hadd] at hjoint
    refine ⟨fun he => ?_, fun _ _ => hjoint⟩
    cases he

/-- Its only line but the tag line ends with a carriage return and a line feed. -/
def getFile : String := "-- name: get :one\r\nSELECT * FROM notes;\r\n"

/-- It begins with a tag line, and it has a name of the file above again. -/
def listFile : String := "--name:list:many\nSELECT id FROM notes\n-- name: Get :exec"

def notesRegistry : Registry := ⟨[.table ⟨"notes", [.plain "id" .int]⟩], [("notes", 0)]⟩

theorem addFile_append_listFile :
    Text.EndsLine getFile.toList ∧ QueryBlock.StartsWithTag listFile ∧
      ((ofRegistry notesRegistry).addFile "a.sql" getFile).2 = none ∧
      (ofRegistry notesRegistry).addFile "a.sql" (getFile ++ listFile) =
        ((ofRegistry notesRegistry).addFile "a.sql" getFile).1.addFile "a.sql" listFile ∧
      ((ofRegistry notesRegistry).addFile "a.sql" (getFile ++ listFile)).2 =
        some (.duplicateQuery "Get" "a.sql" "a.sql") := by
  have hfirst : Text.EndsLine getFile.toList := Or.inr (by decide)
  have hsecond : QueryBlock.StartsWithTag listFile := by
    have htag : QueryBlock.tag? "--name:list:many".toList =
        some ("list".toList, "many".toList) := by
      decide
    obtain ⟨t, hline, -⟩ := QueryBlock.exists_line_of_tag? htag
    have hlines : Text.lines listFile.toList = ["--name:list:many".toList,
        "SELECT id FROM notes".toList, "-- name: Get :exec".toList] := by
      decide +kernel
    have hsplit := Text.splitsInto_lines listFile.toList
    rw [hlines, ← hline] at hsplit
    exact ⟨t, _, hsplit⟩
  have hok : ((ofRegistry notesRegistry).addFile "a.sql" getFile).2 = none := by decide +kernel
  exact ⟨hfirst, hsecond, hok, ((addFile_append hfirst hsecond "a.sql").2 _).1 hok,
    by decide +kernel⟩

end Compilation

end TypedQueries
