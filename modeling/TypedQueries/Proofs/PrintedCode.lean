import TypedQueries.Proofs.AlignedRows
import TypedQueries.Target.Declaration

/-!
The printed code as a sequence of lexemes, in which every type is one piece. The text of a declaration
is that of its pieces, and the types among them are those of its fields, of its constants, of its
parameters and results, and of the variables in its body.
-/

namespace TypedQueries

/-- A lexeme of printed code. -/
inductive GoLexeme where
  /-- A keyword or a name, whatever its characters are. -/
  | word (name : String)
  /-- A single character: of an operator or a bracket, a blank, a tab or a line break. -/
  | sign (c : Char)
  /-- A string literal, by its value. -/
  | literal (value : String)
  /-- A literal between backquotes. -/
  | raw (content : String)
  deriving DecidableEq

namespace GoLexeme

@[simp]
def text : GoLexeme → String
  | word name => name
  | sign c => String.ofList [c]
  | literal value => Quoted.encode value
  | raw content => "`" ++ content ++ "`"

def signs (s : String) : List GoLexeme := s.toList.map sign

def spell (ls : List GoLexeme) : String := String.join (ls.map text)

@[simp]
theorem spell_nil : spell [] = "" := rfl

@[simp]
theorem spell_cons (l : GoLexeme) (ls : List GoLexeme) : spell (l :: ls) = l.text ++ spell ls := by
  simp [spell]

@[simp]
theorem spell_append (ls ls' : List GoLexeme) : spell (ls ++ ls') = spell ls ++ spell ls' := by
  simp [spell]

@[simp]
theorem spell_map_sign (cs : List Char) : spell (cs.map sign) = String.ofList cs := by
  induction cs with
  | nil => rfl
  | cons c cs ih => simp [ih]

@[simp]
theorem spell_replicate_sign (n : Nat) (c : Char) :
    spell (List.replicate n (sign c)) = String.ofList (List.replicate n c) := by
  rw [← spell_map_sign, List.map_replicate]

@[simp]
theorem spell_signs (s : String) : spell (signs s) = s := by
  simp [signs]

end GoLexeme

open GoLexeme (spell signs)

/-- A part of printed code: a lexeme, or a type as a whole. -/
inductive GoPiece where
  | lexeme (l : GoLexeme)
  | type (t : GoType)

def GoType.lexemes : GoType → List GoLexeme
  | string => [.word "string"]
  | int => [.word "int"]
  | float64 => [.word "float64"]
  | bool => [.word "bool"]
  | time => [.word "time", .sign '.', .word "Time"]
  | error => [.word "error"]
  | named name => [.word name]
  | qualified package name => [.word package, .sign '.', .word name]
  | pointer inner => .sign '*' :: inner.lexemes
  | slice inner => .sign '[' :: .sign ']' :: inner.lexemes

theorem GoType.spell_lexemes (type : GoType) : spell type.lexemes = type.render := by
  induction type with
  | pointer inner ih => simp [lexemes, render, ih]
  | slice inner ih => simp [lexemes, render, ih, ← String.toList_inj]
  | _ => simp [lexemes, render, toString, ← String.toList_inj]

namespace GoPiece

def lexemes : GoPiece → List GoLexeme
  | .lexeme l => [l]
  | .type t => t.lexemes

def type? : GoPiece → Option GoType
  | .lexeme _ => none
  | .type t => some t

/-- Lexemes without a type. -/
def plain (ls : List GoLexeme) : List GoPiece := ls.map lexeme

def flatten (ps : List GoPiece) : List GoLexeme := ps.flatMap lexemes

def types (ps : List GoPiece) : List GoType := ps.filterMap type?

@[simp]
theorem flatten_nil : flatten [] = [] := rfl

@[simp]
theorem flatten_cons (p : GoPiece) (ps : List GoPiece) :
    flatten (p :: ps) = p.lexemes ++ flatten ps :=
  List.flatMap_cons

@[simp]
theorem flatten_append (ps qs : List GoPiece) : flatten (ps ++ qs) = flatten ps ++ flatten qs :=
  List.flatMap_append

@[simp]
theorem flatten_plain (ls : List GoLexeme) : flatten (plain ls) = ls := by
  induction ls with
  | nil => rfl
  | cons l ls ih => exact congrArg (l :: ·) ih

@[simp]
theorem types_nil : types [] = [] := rfl

@[simp]
theorem types_type (type : GoType) (ps : List GoPiece) :
    types (.type type :: ps) = type :: types ps := rfl

@[simp]
theorem types_append (ps qs : List GoPiece) : types (ps ++ qs) = types ps ++ types qs :=
  List.filterMap_append

@[simp]
theorem types_plain (ls : List GoLexeme) : types (plain ls) = [] := by
  simp [types, plain, type?]

end GoPiece

open GoPiece (plain)

namespace GoExpr

mutual

def lexemes : GoExpr → List GoLexeme
  | ident name => [.word name]
  | str value => [.literal value]
  | nil => [.word "nil"]
  | selector base name => base.lexemes ++ [.sign '.', .word name]
  | call function arguments => function.lexemes ++ .sign '(' :: lexemesOfList arguments ++ [.sign ')']
  | address inner => .sign '&' :: inner.lexemes
  | notEqual left right => left.lexemes ++ signs " != " ++ right.lexemes

def lexemesOfList : List GoExpr → List GoLexeme
  | [] => []
  | e :: es => e.lexemes ++ lexemesOfMore es

def lexemesOfMore : List GoExpr → List GoLexeme
  | [] => []
  | e :: es => signs ", " ++ e.lexemes ++ lexemesOfMore es

end

mutual

theorem spell_lexemes (e : GoExpr) : spell e.lexemes = e.render := by
  cases e with
  | ident name => simp [lexemes, render]
  | str value => simp [lexemes, render]
  | nil => simp [lexemes, render]
  | selector base name =>
    have := spell_lexemes base
    simp [lexemes, render, this, ← String.toList_inj]
  | call function arguments =>
    have := spell_lexemes function
    have := spell_lexemesOfList arguments
    simp [lexemes, render, *, ← String.toList_inj]
  | address inner =>
    have := spell_lexemes inner
    simp [lexemes, render, this]
  | notEqual left right =>
    have := spell_lexemes left
    have := spell_lexemes right
    simp [lexemes, render, *, String.append_assoc]

theorem spell_lexemesOfList (es : List GoExpr) : spell (lexemesOfList es) = renderList es := by
  cases es with
  | nil => rfl
  | cons e es =>
    have := spell_lexemes e
    have := spell_lexemesOfMore es
    simp [lexemesOfList, renderList, *]

theorem spell_lexemesOfMore (es : List GoExpr) : spell (lexemesOfMore es) = renderMore es := by
  cases es with
  | nil => rfl
  | cons e es =>
    have := spell_lexemes e
    have := spell_lexemesOfMore es
    simp [lexemesOfMore, renderMore, *, String.append_assoc]

end

end GoExpr

namespace GoPiece

/-- Parts with a comma and a blank between any two. -/
def commaSeparated (parts : List (List GoPiece)) : List GoPiece :=
  (plain (signs ", ")).intercalate parts

theorem spell_commaSeparated (parts : List (List GoPiece)) :
    spell (flatten (commaSeparated parts)) =
      ", ".intercalate (parts.map fun ps => spell (flatten ps)) := by
  induction parts with
  | nil => rfl
  | cons part parts ih =>
    cases parts with
    | nil => simp [commaSeparated]
    | cons next parts =>
      simp only [commaSeparated] at ih ⊢
      simp [List.intercalate_cons_cons, String.intercalate_cons_cons, ih, String.append_assoc]

theorem types_commaSeparated (parts : List (List GoPiece)) :
    types (commaSeparated parts) = parts.flatMap types := by
  induction parts with
  | nil => rfl
  | cons part parts ih =>
    cases parts with
    | nil => simp [commaSeparated]
    | cons next parts =>
      simp only [commaSeparated] at ih ⊢
      simp [List.intercalate_cons_cons, ih]

end GoPiece

open GoPiece (commaSeparated spell_commaSeparated types_commaSeparated)

namespace GoStmt

/-- A line at a depth of nesting. -/
def linePieces (depth : Nat) (ps : List GoPiece) : List GoPiece :=
  plain (List.replicate depth (.sign '\t')) ++ ps ++ plain [.sign '\n']

@[simp]
theorem spell_linePieces (depth : Nat) (ps : List GoPiece) :
    spell (GoPiece.flatten (linePieces depth ps)) = line depth (spell (GoPiece.flatten ps)) := by
  simp [linePieces, line, indent, ← String.toList_inj]

@[simp]
theorem types_linePieces (depth : Nat) (ps : List GoPiece) :
    GoPiece.types (linePieces depth ps) = GoPiece.types ps := by
  simp [linePieces]

/-- Names in front of an operator and a value. -/
def settingPieces (names : List String) (operator : String) (value : GoExpr) : List GoPiece :=
  commaSeparated (names.map fun name => plain [.word name]) ++
    plain (signs operator ++ value.lexemes)

theorem spell_settingPieces (names : List String) (operator : String) (value : GoExpr) :
    spell (GoPiece.flatten (settingPieces names operator value)) =
      ", ".intercalate names ++ operator ++ value.render := by
  simp [settingPieces, spell_commaSeparated, Function.comp_def, value.spell_lexemes,
    String.append_assoc]

theorem types_settingPieces (names : List String) (operator : String) (value : GoExpr) :
    GoPiece.types (settingPieces names operator value) = [] := by
  simp [settingPieces, types_commaSeparated]

/-- The pieces without a line break, which only definitions and assignments have. -/
def simplePieces? : GoStmt → Option (List GoPiece)
  | define names value => some (settingPieces names " := " value)
  | assign names value => some (settingPieces names " = " value)
  | _ => none

mutual

def pieces (depth : Nat) : GoStmt → List GoPiece
  | define names value => linePieces depth (settingPieces names " := " value)
  | assign names value => linePieces depth (settingPieces names " = " value)
  | declare name type =>
    linePieces depth (plain [.word "var", .sign ' ', .word name, .sign ' '] ++ [.type type])
  | branch none condition body =>
    linePieces depth (plain ([.word "if", .sign ' '] ++ condition.lexemes ++ signs " \x7b")) ++
      piecesOfBody (depth + 1) body ++ linePieces depth (plain (signs "\x7d"))
  | branch (some init) condition body =>
    let first := match init.simplePieces? with
      | some ps => ps
      | none => init.pieces 0
    linePieces depth (plain [.word "if", .sign ' '] ++ first ++
        plain (signs "; " ++ condition.lexemes ++ signs " \x7b")) ++
      piecesOfBody (depth + 1) body ++ linePieces depth (plain (signs "\x7d"))
  | loop condition body =>
    linePieces depth (plain ([.word "for", .sign ' '] ++ condition.lexemes ++ signs " \x7b")) ++
      piecesOfBody (depth + 1) body ++ linePieces depth (plain (signs "\x7d"))
  | defer call => linePieces depth (plain ([.word "defer", .sign ' '] ++ call.lexemes))
  | giveBack results =>
    linePieces depth (plain (.word "return" ::
      (if results.isEmpty then [] else [.sign ' ']) ++ GoExpr.lexemesOfList results))

def piecesOfBody (depth : Nat) : List GoStmt → List GoPiece
  | [] => []
  | s :: ss => s.pieces depth ++ piecesOfBody depth ss

end

mutual

/-- The types of the variables that are declared in a statement. -/
def localTypes : GoStmt → List GoType
  | define _ _ => []
  | assign _ _ => []
  | declare _ type => [type]
  | branch none _ body => localTypesOfBody body
  | branch (some init) _ body => init.localTypes ++ localTypesOfBody body
  | loop _ body => localTypesOfBody body
  | defer _ => []
  | giveBack _ => []

def localTypesOfBody : List GoStmt → List GoType
  | [] => []
  | s :: ss => s.localTypes ++ localTypesOfBody ss

end

theorem simple?_eq (s : GoStmt) :
    s.simple? = s.simplePieces?.map fun ps => spell (GoPiece.flatten ps) := by
  cases s <;> simp [simple?, simplePieces?, spell_settingPieces, defineText, assignText]

theorem localTypes_of_simplePieces? {s : GoStmt} {ps : List GoPiece}
    (h : s.simplePieces? = some ps) : GoPiece.types ps = s.localTypes := by
  cases s <;> cases h <;> simp [types_settingPieces, localTypes]

mutual

theorem spell_pieces (depth : Nat) (s : GoStmt) :
    spell (GoPiece.flatten (s.pieces depth)) = s.render depth := by
  match s with
  | define names value => simp [pieces, render, spell_settingPieces, defineText]
  | assign names value => simp [pieces, render, spell_settingPieces, assignText]
  | declare name type =>
    simp [pieces, render, GoPiece.lexemes, type.spell_lexemes, line, ← String.toList_inj]
  | branch none condition body =>
    have hbody := spell_piecesOfBody (depth + 1) body
    simp [pieces, render, hbody, condition.spell_lexemes, line, ← String.toList_inj]
  | branch (some init) condition body =>
    have hbody := spell_piecesOfBody (depth + 1) body
    have hinit := spell_pieces 0 init
    rw [pieces, render, simple?_eq]
    cases init.simplePieces? <;>
      simp [hinit, hbody, condition.spell_lexemes, line, ← String.toList_inj]
  | loop condition body =>
    have hbody := spell_piecesOfBody (depth + 1) body
    simp [pieces, render, hbody, condition.spell_lexemes, line, ← String.toList_inj]
  | defer call => simp [pieces, render, call.spell_lexemes, line, ← String.toList_inj]
  | giveBack results =>
    cases results <;> simp [pieces, render, GoExpr.spell_lexemesOfList, line, ← String.toList_inj]

theorem spell_piecesOfBody (depth : Nat) (ss : List GoStmt) :
    spell (GoPiece.flatten (piecesOfBody depth ss)) = renderBody depth ss := by
  match ss with
  | [] => rfl
  | s :: ss =>
    have hs := spell_pieces depth s
    have hss := spell_piecesOfBody depth ss
    simp [piecesOfBody, renderBody, hs, hss]

end

mutual

theorem types_pieces (depth : Nat) (s : GoStmt) :
    GoPiece.types (s.pieces depth) = s.localTypes := by
  match s with
  | define _ _ => simp [pieces, localTypes, types_settingPieces]
  | assign _ _ => simp [pieces, localTypes, types_settingPieces]
  | declare _ _ => simp [pieces, localTypes]
  | branch none _ body =>
    have hbody := types_piecesOfBody (depth + 1) body
    simp [pieces, localTypes, hbody]
  | branch (some init) _ body =>
    have hbody := types_piecesOfBody (depth + 1) body
    have hinit := types_pieces 0 init
    rw [pieces]
    cases hsimple : init.simplePieces? with
    | none => simp [localTypes, hinit, hbody]
    | some ps => simp [localTypes, localTypes_of_simplePieces? hsimple, hbody]
  | loop _ body =>
    have hbody := types_piecesOfBody (depth + 1) body
    simp [pieces, localTypes, hbody]
  | defer _ => simp [pieces, localTypes]
  | giveBack _ => simp [pieces, localTypes]

theorem types_piecesOfBody (depth : Nat) (ss : List GoStmt) :
    GoPiece.types (piecesOfBody depth ss) = localTypesOfBody ss := by
  match ss with
  | [] => rfl
  | s :: ss =>
    have hs := types_pieces depth s
    have hss := types_piecesOfBody depth ss
    simp [piecesOfBody, localTypesOfBody, hs, hss]

end

end GoStmt

/-! Aligned rows. -/

namespace GoPiece

/-- The cells of a row from a column on, filled up to the widths. -/
def alignCells (widths : List Nat) (column : Nat) : List (List GoPiece) → List GoPiece
  | [] => []
  | [cell] => cell
  | cell :: next :: cells =>
    let blanks := widths.getD column 0 - (spell (flatten cell)).length + 1
    cell ++ plain (List.replicate blanks (.sign ' ')) ++
      alignCells widths (column + 1) (next :: cells)

def cellTexts (row : List (List GoPiece)) : List String := row.map fun cell => spell (flatten cell)

def alignLine (widths : List Nat) (row : List (List GoPiece)) : List GoPiece :=
  plain [.sign '\t'] ++ alignCells widths 0 row ++ plain [.sign '\n']

/-- Rows of cells in aligned columns. -/
def alignRows (rows : List (List (List GoPiece))) : List GoPiece :=
  rows.flatMap (alignLine (Aligned.columnWidths (rows.map cellTexts)))

theorem spell_alignCells (widths : List Nat) (column : Nat) (row : List (List GoPiece)) :
    spell (flatten (alignCells widths column row)) =
      String.join ((Aligned.place widths column (cellTexts row)).map Aligned.Placed.text) := by
  fun_induction alignCells widths column row with
  | case1 => rfl
  | case2 => simp [cellTexts, Aligned.place, Aligned.Placed.text]
  | case3 column cell next cells blanks ih =>
    simp [ih, cellTexts, Aligned.place, Aligned.Placed.text, blanks, String.append_assoc]

theorem spell_alignRows (rows : List (List (List GoPiece))) :
    spell (flatten (alignRows rows)) = Aligned.render (rows.map cellTexts) := by
  rw [Aligned.render_eq_join, alignRows]
  generalize Aligned.columnWidths (rows.map cellTexts) = widths
  induction rows with
  | nil => rfl
  | cons row rows ih =>
    rw [List.map_map, List.map_map, Function.comp_assoc] at ih
    simp [ih, alignLine, spell_alignCells, Aligned.lineText, String.append_assoc]

theorem types_alignCells (widths : List Nat) (column : Nat) (row : List (List GoPiece)) :
    types (alignCells widths column row) = row.flatMap types := by
  fun_induction alignCells widths column row with
  | case1 => rfl
  | case2 => simp
  | case3 column cell next cells blanks ih => simp [ih]

theorem types_alignRows (rows : List (List (List GoPiece))) :
    types (alignRows rows) = rows.flatMap fun row => row.flatMap types := by
  rw [alignRows]
  generalize Aligned.columnWidths (rows.map cellTexts) = widths
  induction rows with
  | nil => rfl
  | cons row rows ih => simp [ih, alignLine, types_alignCells]

end GoPiece

open GoPiece (alignRows cellTexts spell_alignRows types_alignRows)

/-! Declarations. -/

/-- The cells of a field's line. -/
def GoField.cellPieces (f : GoField) : List (List GoPiece) :=
  [plain [.word f.name], [.type f.type]] ++ (f.tag?.map fun tag => plain [.raw tag]).toList

def GoStruct.pieces (s : GoStruct) : List GoPiece :=
  plain [.word "type", .sign ' ', .word s.name, .sign ' ', .word "struct"] ++
    if s.fields.isEmpty then plain (signs "\x7b\x7d")
    else plain (signs " \x7b\n") ++ alignRows (s.fields.map GoField.cellPieces) ++
      plain (signs "\x7d")

/-- The cells of a constant's line. -/
def GoEnum.cellPieces (e : GoEnum) (member : String × String) : List (List GoPiece) :=
  [plain [.word member.1], [.type (.named e.name)], plain (signs "= " ++ [.literal member.2])]

def GoEnum.pieces (e : GoEnum) : List GoPiece :=
  plain [.word "type", .sign ' ', .word e.name, .sign ' '] ++ [.type .string] ++
    plain (signs "\n\n" ++ .word "const" :: signs " (\n") ++ alignRows (e.members.map e.cellPieces) ++
      plain (signs ")")

def GoParam.pieces (p : GoParam) : List GoPiece := plain [.word p.name, .sign ' '] ++ [.type p.type]

namespace GoFunc

def receiverPieces (f : GoFunc) : List GoPiece :=
  match f.receiver? with
  | some p => plain (signs "(") ++ p.pieces ++ plain (signs ") ")
  | none => []

def resultPieces : List GoType → List GoPiece
  | [] => []
  | [type] => plain (signs " ") ++ [.type type]
  | types => plain (signs " (") ++ commaSeparated (types.map fun type => [.type type]) ++
      plain (signs ")")

def pieces (f : GoFunc) : List GoPiece :=
  plain [.word "func", .sign ' '] ++ f.receiverPieces ++ plain [.word f.name, .sign '('] ++
    commaSeparated (f.params.map GoParam.pieces) ++ plain (signs ")") ++ resultPieces f.results ++
    plain (signs " \x7b\n") ++ GoStmt.piecesOfBody 1 f.body ++ plain (signs "\x7d")

end GoFunc

namespace GoDecl

def pieces : GoDecl → List GoPiece
  | struct s => s.pieces
  | enum e => e.pieces
  | func f => f.pieces

def lexemes (d : GoDecl) : List GoLexeme := GoPiece.flatten d.pieces

/-- All types in a declaration: those of fields; the type of an enumeration's values and, for each of
its constants, its own; those of the receiver, the parameters, the results and the local variables. -/
def types : GoDecl → List GoType
  | struct s => s.fields.map GoField.type
  | enum e => .string :: e.members.map fun _ => .named e.name
  | func f => (f.receiver?.toList ++ f.params).map GoParam.type ++ f.results ++
      GoStmt.localTypesOfBody f.body

end GoDecl

theorem GoStruct.spell_pieces (s : GoStruct) : spell (GoPiece.flatten s.pieces) = s.render := by
  have hcells : s.fields.map (cellTexts ∘ GoField.cellPieces) = s.fields.map GoField.cells := by
    refine List.map_congr_left fun f _ => ?_
    cases htag : f.tag? <;>
      simp [cellTexts, GoField.cellPieces, GoField.cells, GoPiece.lexemes, f.type.spell_lexemes, htag]
  rw [pieces, render]
  split <;> simp [spell_alignRows, hcells, toString, ← String.toList_inj]

theorem GoEnum.spell_pieces (e : GoEnum) : spell (GoPiece.flatten e.pieces) = e.render := by
  have hcells : e.members.map (cellTexts ∘ e.cellPieces) = e.members.map e.cells := by
    refine List.map_congr_left fun member _ => ?_
    simp [cellTexts, cellPieces, cells, GoPiece.lexemes, GoType.lexemes]
  simp [pieces, render, spell_alignRows, hcells, GoPiece.lexemes, GoType.lexemes, toString,
    ← String.toList_inj]

theorem GoParam.spell_pieces (p : GoParam) : spell (GoPiece.flatten p.pieces) = p.render := by
  simp [pieces, render, GoPiece.lexemes, p.type.spell_lexemes, toString, ← String.toList_inj]

theorem GoFunc.spell_resultPieces (types : List GoType) :
    spell (GoPiece.flatten (resultPieces types)) = renderResults types := by
  match types with
  | [] => rfl
  | [type] => simp [resultPieces, renderResults, GoPiece.lexemes, type.spell_lexemes]
  | first :: second :: types =>
    simp [resultPieces, renderResults, spell_commaSeparated, Function.comp_def, GoPiece.lexemes,
      GoType.spell_lexemes, String.append_assoc]

theorem GoFunc.spell_pieces (f : GoFunc) : spell (GoPiece.flatten f.pieces) = f.render := by
  unfold pieces render receiverPieces
  cases f.receiver? <;>
    simp [spell_commaSeparated, Function.comp_def, GoParam.spell_pieces, spell_resultPieces,
      GoStmt.spell_piecesOfBody, toString, ← String.toList_inj]

namespace GoDecl

/-- A declaration is printed as its lexemes. -/
theorem render_eq_spell (d : GoDecl) : d.render = spell d.lexemes := by
  cases d with
  | struct s => exact s.spell_pieces.symm
  | enum e => exact e.spell_pieces.symm
  | func f => exact f.spell_pieces.symm

/-- No other types are printed. -/
theorem types_pieces (d : GoDecl) : GoPiece.types d.pieces = d.types := by
  cases d with
  | struct s =>
    have hcells (f : GoField) : f.cellPieces.flatMap GoPiece.types = [f.type] := by
      cases htag : f.tag? <;> simp [GoField.cellPieces, htag]
    rw [pieces, GoStruct.pieces, types]
    split
    · rename_i hempty
      simp [List.isEmpty_iff.1 hempty]
    · simp [types_alignRows, List.flatMap_map, hcells, ← List.map_eq_flatMap]
  | enum e =>
    simp [pieces, GoEnum.pieces, types, types_alignRows, List.flatMap_map, GoEnum.cellPieces,
      ← List.map_eq_flatMap]
  | func f =>
    have hresults : GoPiece.types (GoFunc.resultPieces f.results) = f.results := by
      match f.results with
      | [] => rfl
      | [type] => simp [GoFunc.resultPieces]
      | first :: second :: types =>
        simp [GoFunc.resultPieces, types_commaSeparated, List.flatMap_map]
    rw [pieces, GoFunc.pieces, types, GoFunc.receiverPieces]
    cases f.receiver? <;>
      simp [types_commaSeparated, List.flatMap_map, GoParam.pieces, hresults,
        GoStmt.types_piecesOfBody, ← List.map_eq_flatMap]

end GoDecl

end TypedQueries
