import TypedQueries.Proofs.PrintedCode

/-!
Qualifiers in printed code. A word with a dot behind it and none in front is the name of a package or
of a variable. In the lexemes of a declaration these are the packages of its types and the names that
the selectors in its body start with.
-/

namespace TypedQueries

open GoLexeme (signs)
open GoPiece (flatten plain commaSeparated alignCells alignLine alignRows cellTexts)

/-- A word with a dot behind it and none in front. -/
def Qualifies (name : String) (ls : List GoLexeme) : Prop :=
  ∃ front back, ls = front ++ .word name :: .sign '.' :: back ∧ front.getLast? ≠ some (.sign '.')

/-- What stands in front of a lexeme: a dot, a word that is no selected name, or something else. -/
inductive Before where
  | dot
  | word (name : String)
  | other
  deriving DecidableEq

def Before.words : Before → List String
  | word name => [name]
  | _ => []

/-- What stands behind a lexeme. -/
def GoLexeme.after (before : Before) : GoLexeme → Before
  | word name => if before = .dot then .other else .word name
  | sign c => if c = '.' then .dot else .other
  | _ => .other

def qualifiersFrom (before : Before) : List GoLexeme → List String
  | [] => []
  | l :: ls => (if l = .sign '.' then before.words else []) ++ qualifiersFrom (l.after before) ls

namespace GoLexeme

variable {before : Before} {l : GoLexeme} {name : String}

theorem after_eq_dot_iff : l.after before = .dot ↔ l = sign '.' := by
  cases l <;> simp [after]
  split <;> simp

theorem after_eq_word_iff : l.after before = .word name ↔ l = word name ∧ before ≠ .dot := by
  cases l <;> simp [after]
  · split <;> simp [*]
  · split <;> simp

end GoLexeme

theorem mem_words_iff {before : Before} {name : String} :
    name ∈ before.words ↔ before = .word name := by
  cases before <;> simp [Before.words, eq_comm]

theorem mem_qualifiersFrom_iff {before : Before} {ls : List GoLexeme} {name : String} :
    name ∈ qualifiersFrom before ls ↔
      (∃ front back, ls = front ++ .word name :: .sign '.' :: back ∧
        front.getLast? ≠ some (.sign '.') ∧ (front = [] → before ≠ .dot)) ∨
      before = .word name ∧ ls.head? = some (.sign '.') := by
  induction ls generalizing before with
  | nil => simp [qualifiersFrom]
  | cons l ls ih =>
    have hlast (front : List GoLexeme) : (l :: front).getLast? ≠ some (.sign '.') ↔
        front.getLast? ≠ some (.sign '.') ∧ (front = [] → l ≠ .sign '.') := by
      rcases front.eq_nil_or_concat with rfl | ⟨front, last, rfl⟩ <;> simp [List.getLast?_cons]
    have hdot : name ∈ (if l = .sign '.' then before.words else []) ↔
        before = .word name ∧ l = .sign '.' := by
      split <;> simp [mem_words_iff, *]
    rw [qualifiersFrom, List.mem_append, hdot, ih, GoLexeme.after_eq_word_iff]
    simp only [ne_eq, GoLexeme.after_eq_dot_iff, List.head?_cons, Option.some.injEq]
    constructor
    · rintro (hbefore | ⟨front, back, rfl, hfront, hl⟩ | ⟨⟨rfl, hbefore⟩, hls⟩)
      · exact .inr hbefore
      · exact .inl ⟨l :: front, back, rfl, (hlast front).2 ⟨hfront, hl⟩, nofun⟩
      · obtain ⟨back, rfl⟩ := List.head?_eq_some_iff.1 hls
        exact .inl ⟨[], back, rfl, by simp, fun _ => hbefore⟩
    · rintro (⟨front, back, heq, hfront, hbefore⟩ | hbefore)
      · cases front with
        | nil =>
          cases heq
          exact .inr (.inr ⟨⟨rfl, hbefore rfl⟩, rfl⟩)
        | cons first front =>
          cases heq
          obtain ⟨hfront, hl⟩ := (hlast front).1 hfront
          exact .inr (.inl ⟨front, back, rfl, hfront, hl⟩)
      · exact .inl hbefore

theorem qualifies_iff {name : String} {ls : List GoLexeme} :
    Qualifies name ls ↔ name ∈ qualifiersFrom .other ls := by
  simp [mem_qualifiersFrom_iff, Qualifies]

theorem qualifiersFrom_append (before : Before) (ls ls' : List GoLexeme) :
    qualifiersFrom before (ls ++ ls') =
      qualifiersFrom before ls ++ qualifiersFrom (ls.foldl GoLexeme.after before) ls' := by
  induction ls generalizing before with
  | nil => rfl
  | cons l ls ih => simp [qualifiersFrom, ih]

@[simp]
theorem qualifiersFrom_nil (before : Before) : qualifiersFrom before [] = [] := rfl

/-- Another sign than a dot separates. -/
@[simp]
theorem qualifiersFrom_sign {before : Before} {c : Char} (hc : c ≠ '.') (ls : List GoLexeme) :
    qualifiersFrom before (.sign c :: ls) = qualifiersFrom .other ls := by
  simp [qualifiersFrom, GoLexeme.after, hc]

@[simp]
theorem qualifiersFrom_dot (before : Before) (ls : List GoLexeme) :
    qualifiersFrom before (.sign '.' :: ls) = before.words ++ qualifiersFrom .dot ls := by
  simp [qualifiersFrom, GoLexeme.after]

@[simp]
theorem qualifiersFrom_append_sign {before : Before} {c : Char} (hc : c ≠ '.')
    (ls ls' : List GoLexeme) :
    qualifiersFrom before (ls ++ .sign c :: ls') =
      qualifiersFrom before ls ++ qualifiersFrom .other ls' := by
  rw [qualifiersFrom_append, qualifiersFrom_sign hc]

@[simp]
theorem qualifiersFrom_word_sign {before : Before} {c : Char} (hc : c ≠ '.') (name : String)
    (ls : List GoLexeme) :
    qualifiersFrom before (.word name :: .sign c :: ls) = qualifiersFrom .other ls := by
  simp [qualifiersFrom, GoLexeme.after, hc]

/-! Types and expressions. -/

namespace GoType

/-- What is left of a type without its pointers and slices. -/
def base : GoType → GoType
  | pointer inner => inner.base
  | slice inner => inner.base
  | type => type

/-- The package that must be imported for a type, if there is one. -/
def package? (type : GoType) : Option String :=
  match type.base with
  | time => some "time"
  | qualified package _ => some package
  | _ => none

theorem qualifiersFrom_lexemes (type : GoType) :
    qualifiersFrom .other type.lexemes = type.package?.toList := by
  induction type with
  | pointer inner ih =>
    have hpackage : (pointer inner).package? = inner.package? := rfl
    simp [lexemes, hpackage, ih]
  | slice inner ih =>
    have hpackage : (slice inner).package? = inner.package? := rfl
    simp [lexemes, hpackage, ih]
  | _ => rfl

end GoType

namespace GoExpr

/-- What stands behind an expression. -/
def ending : GoExpr → Before
  | ident name => .word name
  | nil => .word "nil"
  | address inner => inner.ending
  | notEqual _ right => right.ending
  | _ => .other

mutual

/-- The names that selectors start with. -/
def qualifiers : GoExpr → List String
  | ident _ => []
  | str _ => []
  | nil => []
  | selector base _ => base.qualifiers ++ base.ending.words
  | call function arguments => function.qualifiers ++ qualifiersOfList arguments
  | address inner => inner.qualifiers
  | notEqual left right => left.qualifiers ++ right.qualifiers

def qualifiersOfList : List GoExpr → List String
  | [] => []
  | e :: es => e.qualifiers ++ qualifiersOfList es

end

theorem qualifiersOfList_eq_flatMap (es : List GoExpr) :
    qualifiersOfList es = es.flatMap qualifiers := by
  induction es with
  | nil => rfl
  | cons e es ih => rw [qualifiersOfList, ih, List.flatMap_cons]

theorem foldl_after_lexemes (e : GoExpr) : e.lexemes.foldl GoLexeme.after .other = e.ending := by
  fun_induction ending e with
  | case1 => rfl
  | case2 => rfl
  | case3 inner ih => simp [lexemes, GoLexeme.after, ih]
  | case4 left right ih => simp [lexemes, GoLexeme.after, signs, ih]
  | case5 e => cases e <;> simp_all [lexemes, GoLexeme.after]

mutual

theorem qualifiersFrom_lexemes (e : GoExpr) : qualifiersFrom .other e.lexemes = e.qualifiers := by
  match e with
  | ident _ => rfl
  | str _ => rfl
  | nil => rfl
  | selector base _ =>
    have hbase := qualifiersFrom_lexemes base
    simp [lexemes, qualifiers, qualifiersFrom_append, hbase, foldl_after_lexemes, qualifiersFrom]
  | call function arguments =>
    have hfunction := qualifiersFrom_lexemes function
    have harguments := qualifiersFrom_lexemesOfList arguments
    simp [lexemes, qualifiers, hfunction, harguments]
  | address inner =>
    have hinner := qualifiersFrom_lexemes inner
    simp [lexemes, qualifiers, hinner]
  | notEqual left right =>
    have hleft := qualifiersFrom_lexemes left
    have hright := qualifiersFrom_lexemes right
    simp [lexemes, qualifiers, signs, hleft, hright]

theorem qualifiersFrom_lexemesOfList (es : List GoExpr) :
    qualifiersFrom .other (lexemesOfList es) = qualifiersOfList es := by
  match es with
  | [] => rfl
  | e :: es =>
    have he := qualifiersFrom_lexemes e
    have hes := qualifiersFrom_lexemesOfMore e.ending es
    simp [lexemesOfList, qualifiersOfList, qualifiersFrom_append, he, foldl_after_lexemes, hes]

theorem qualifiersFrom_lexemesOfMore (before : Before) (es : List GoExpr) :
    qualifiersFrom before (lexemesOfMore es) = qualifiersOfList es := by
  match es with
  | [] => rfl
  | e :: es =>
    have he := qualifiersFrom_lexemes e
    have hes := qualifiersFrom_lexemesOfMore e.ending es
    simp [lexemesOfMore, qualifiersOfList, signs, qualifiersFrom_append, he, foldl_after_lexemes, hes]

end

end GoExpr

/-! Statements. -/

theorem qualifiersFrom_commaSeparated (parts : List (List GoPiece)) :
    qualifiersFrom .other (flatten (commaSeparated parts)) =
      parts.flatMap fun ps => qualifiersFrom .other (flatten ps) := by
  induction parts with
  | nil => rfl
  | cons part parts ih =>
    cases parts with
    | nil => simp [commaSeparated]
    | cons next parts =>
      have hcomma (before : Before) (ls : List GoLexeme) :
          qualifiersFrom before (signs ", " ++ ls) = qualifiersFrom .other ls := by
        simp [signs]
      rw [commaSeparated, List.intercalate_cons_cons, List.append_assoc, GoPiece.flatten_append,
        GoPiece.flatten_append, GoPiece.flatten_plain, qualifiersFrom_append, hcomma]
      exact congrArg (_ ++ ·) ih

@[simp]
theorem qualifiersFrom_replicate_sign {c : Char} (hc : c ≠ '.') (n : Nat) (ls : List GoLexeme) :
    qualifiersFrom .other (List.replicate n (.sign c) ++ ls) = qualifiersFrom .other ls := by
  induction n with
  | zero => rfl
  | succ n ih => simp [List.replicate_succ, hc, ih]

namespace GoStmt

@[simp]
theorem qualifiersFrom_linePieces (depth : Nat) (ps : List GoPiece) (ls : List GoLexeme) :
    qualifiersFrom .other (flatten (linePieces depth ps) ++ ls) =
      qualifiersFrom .other (flatten ps) ++ qualifiersFrom .other ls := by
  simp only [linePieces, GoPiece.flatten_append, GoPiece.flatten_plain, List.append_assoc]
  rw [qualifiersFrom_replicate_sign (by decide)]
  simp

theorem qualifiersFrom_settingPieces {names : List String} {operator : String} {value : GoExpr}
    (hoperator : ∀ before,
      qualifiersFrom before (signs operator ++ value.lexemes) = value.qualifiers) :
    qualifiersFrom .other (flatten (settingPieces names operator value)) = value.qualifiers := by
  have hnames : (names.map fun name => plain [.word name]).flatMap
      (fun ps => qualifiersFrom .other (flatten ps)) = [] := by
    simp [qualifiersFrom]
  simp only [settingPieces, GoPiece.flatten_append, GoPiece.flatten_plain]
  rw [qualifiersFrom_append, qualifiersFrom_commaSeparated, hnames, hoperator, List.nil_append]

theorem qualifiersFrom_define (names : List String) (value : GoExpr) :
    qualifiersFrom .other (flatten (settingPieces names " := " value)) = value.qualifiers :=
  qualifiersFrom_settingPieces fun _ => by simp [signs, value.qualifiersFrom_lexemes]

theorem qualifiersFrom_assign (names : List String) (value : GoExpr) :
    qualifiersFrom .other (flatten (settingPieces names " = " value)) = value.qualifiers :=
  qualifiersFrom_settingPieces fun _ => by simp [signs, value.qualifiersFrom_lexemes]

mutual

/-- The packages of the types in a statement, and the names that its selectors start with. -/
def qualifiers : GoStmt → List String
  | define _ value => value.qualifiers
  | assign _ value => value.qualifiers
  | declare _ type => type.package?.toList
  | branch none condition body => condition.qualifiers ++ qualifiersOfBody body
  | branch (some init) condition body =>
    init.qualifiers ++ condition.qualifiers ++ qualifiersOfBody body
  | loop condition body => condition.qualifiers ++ qualifiersOfBody body
  | defer call => call.qualifiers
  | giveBack results => GoExpr.qualifiersOfList results

def qualifiersOfBody : List GoStmt → List String
  | [] => []
  | s :: ss => s.qualifiers ++ qualifiersOfBody ss

end

theorem qualifiersFrom_of_simplePieces? {s : GoStmt} {ps : List GoPiece}
    (h : s.simplePieces? = some ps) : qualifiersFrom .other (flatten ps) = s.qualifiers := by
  cases s <;> cases h <;> simp [qualifiersFrom_define, qualifiersFrom_assign, qualifiers]

mutual

theorem qualifiersFrom_pieces (depth : Nat) (s : GoStmt) (ls : List GoLexeme) :
    qualifiersFrom .other (flatten (s.pieces depth) ++ ls) =
      s.qualifiers ++ qualifiersFrom .other ls := by
  match s with
  | define names value => simp [pieces, qualifiers, qualifiersFrom_define]
  | assign names value => simp [pieces, qualifiers, qualifiersFrom_assign]
  | declare name type =>
    simp [pieces, qualifiers, GoPiece.lexemes, type.qualifiersFrom_lexemes]
  | branch none condition body =>
    have hbody := qualifiersFrom_piecesOfBody (depth + 1) body
    simp [pieces, qualifiers, signs, condition.qualifiersFrom_lexemes, hbody]
  | branch (some init) condition body =>
    have hbody := qualifiersFrom_piecesOfBody (depth + 1) body
    have hinit := qualifiersFrom_pieces 0 init
    rw [pieces]
    cases hsimple : init.simplePieces? with
    | none =>
      simp [qualifiers, signs, condition.qualifiersFrom_lexemes, hinit, hbody]
    | some ps =>
      have hps := qualifiersFrom_of_simplePieces? hsimple
      simp [qualifiers, signs, condition.qualifiersFrom_lexemes, hps, hbody]
  | loop condition body =>
    have hbody := qualifiersFrom_piecesOfBody (depth + 1) body
    simp [pieces, qualifiers, signs, condition.qualifiersFrom_lexemes, hbody]
  | defer call =>
    simp [pieces, qualifiers, call.qualifiersFrom_lexemes]
  | giveBack results =>
    have hresults := GoExpr.qualifiersFrom_lexemesOfList results
    cases results with
    | nil => simp [pieces, qualifiers, GoExpr.lexemesOfList, GoExpr.qualifiersOfList, qualifiersFrom]
    | cons => simp [pieces, qualifiers, hresults]

theorem qualifiersFrom_piecesOfBody (depth : Nat) (ss : List GoStmt) (ls : List GoLexeme) :
    qualifiersFrom .other (flatten (piecesOfBody depth ss) ++ ls) =
      qualifiersOfBody ss ++ qualifiersFrom .other ls := by
  match ss with
  | [] => rfl
  | s :: ss =>
    have hs := qualifiersFrom_pieces depth s
    have hss := qualifiersFrom_piecesOfBody depth ss
    simp [piecesOfBody, qualifiersOfBody, hs, hss]

end

end GoStmt

/-! Declarations. -/

theorem qualifiersFrom_alignCells (widths : List Nat) (column : Nat) (row : List (List GoPiece)) :
    qualifiersFrom .other (flatten (alignCells widths column row)) =
      row.flatMap fun cell => qualifiersFrom .other (flatten cell) := by
  fun_induction alignCells widths column row with
  | case1 => rfl
  | case2 => simp
  | case3 column cell next cells blanks ih => simp [blanks, List.replicate_succ, ih]

theorem qualifiersFrom_alignRows (rows : List (List (List GoPiece))) :
    qualifiersFrom .other (flatten (alignRows rows)) =
      rows.flatMap fun row => row.flatMap fun cell => qualifiersFrom .other (flatten cell) := by
  rw [alignRows]
  generalize Aligned.columnWidths (rows.map cellTexts) = widths
  induction rows with
  | nil => rfl
  | cons row rows ih => simp [alignLine, qualifiersFrom_alignCells, ih]

namespace GoDecl

/-- The packages of the types in a declaration, and the names that its selectors start with. -/
def qualifiers : GoDecl → List String
  | struct s => s.fields.flatMap fun f => f.type.package?.toList
  | enum _ => []
  | func f => ((f.receiver?.toList ++ f.params).flatMap fun p => p.type.package?.toList) ++
      f.results.flatMap (fun type => type.package?.toList) ++ GoStmt.qualifiersOfBody f.body

end GoDecl

theorem GoField.qualifiersFrom_cellPieces (f : GoField) :
    f.cellPieces.flatMap (fun cell => qualifiersFrom .other (flatten cell)) =
      f.type.package?.toList := by
  cases htag : f.tag? <;>
    simp [cellPieces, htag, GoPiece.lexemes, f.type.qualifiersFrom_lexemes, qualifiersFrom]

theorem GoStruct.qualifiersFrom_pieces (s : GoStruct) :
    qualifiersFrom .other (flatten s.pieces) = (GoDecl.struct s).qualifiers := by
  rw [pieces, GoDecl.qualifiers]
  split
  · rename_i hempty
    simp [List.isEmpty_iff.1 hempty, signs]
  · simp [signs, qualifiersFrom_alignRows, List.flatMap_map, GoField.qualifiersFrom_cellPieces]

theorem GoEnum.qualifiersFrom_pieces (e : GoEnum) :
    qualifiersFrom .other (flatten e.pieces) = [] := by
  have hmember (member : String × String) :
      (e.cellPieces member).flatMap (fun cell => qualifiersFrom .other (flatten cell)) = [] := by
    simp [cellPieces, signs, GoPiece.lexemes, GoType.lexemes, qualifiersFrom]
  simp [pieces, signs, GoPiece.lexemes, GoType.lexemes, qualifiersFrom_alignRows, List.flatMap_map,
    hmember]

theorem GoFunc.qualifiersFrom_resultPieces (types : List GoType) :
    qualifiersFrom .other (flatten (resultPieces types)) =
      types.flatMap fun type => type.package?.toList := by
  match types with
  | [] => rfl
  | [type] => simp [resultPieces, signs, GoPiece.lexemes, type.qualifiersFrom_lexemes]
  | first :: second :: types =>
    simp [resultPieces, signs, qualifiersFrom_commaSeparated, List.flatMap_map, GoPiece.lexemes,
      GoType.qualifiersFrom_lexemes]

theorem GoFunc.qualifiersFrom_pieces (f : GoFunc) :
    qualifiersFrom .other (flatten f.pieces) = (GoDecl.func f).qualifiers := by
  have hbody : qualifiersFrom .other (flatten (GoStmt.piecesOfBody 1 f.body)) =
      GoStmt.qualifiersOfBody f.body := by
    simpa using GoStmt.qualifiersFrom_piecesOfBody 1 f.body []
  rw [pieces, GoDecl.qualifiers, receiverPieces]
  cases f.receiver? <;>
    simp [signs, qualifiersFrom_commaSeparated, List.flatMap_map, GoParam.pieces, GoPiece.lexemes,
      GoType.qualifiersFrom_lexemes, qualifiersFrom_resultPieces, hbody]

theorem GoDecl.qualifies_iff {d : GoDecl} {name : String} :
    Qualifies name d.lexemes ↔ name ∈ d.qualifiers := by
  rw [TypedQueries.qualifies_iff]
  cases d with
  | struct s => rw [lexemes, pieces, s.qualifiersFrom_pieces]
  | enum e => rw [lexemes, pieces, e.qualifiersFrom_pieces, qualifiers]
  | func f => rw [lexemes, pieces, f.qualifiersFrom_pieces]

end TypedQueries
