/-
This file writes the trees of the query dialect as text that is cut at its parameters.
-/

import DocumentQuery.Proofs.Dialect.Tree

namespace DocumentQuery.Dialect

/-- A placeholder names the parameter whose value stands there. -/
inductive Piece where
  | fixed (text : String)
  | placeholder (name : String)

namespace Piece

/-- A placeholder is spelled as the name of its parameter. -/
def spelling : Piece → String
  | .fixed text => text
  | .placeholder name => name

def placeholder? : Piece → Option String
  | .fixed _ => none
  | .placeholder name => some name

end Piece

/-- Pieces are spelled one behind the other. -/
def spell (pieces : List Piece) : String :=
  String.join (pieces.map Piece.spelling)

/-- The placeholders are listed in the order of the text. -/
def placeholders (pieces : List Piece) : List String :=
  pieces.filterMap Piece.placeholder?

section Spelling

variable (first second : List Piece) (text name : String)

@[simp] theorem spell_nil : spell [] = "" := by
  simp [spell]

@[simp] theorem spell_cons (piece : Piece) :
    spell (piece :: second) = piece.spelling ++ spell second := by
  simp [spell]

@[simp] theorem spell_append : spell (first ++ second) = spell first ++ spell second := by
  simp [spell]

@[simp] theorem placeholders_nil : placeholders [] = [] := rfl

@[simp] theorem placeholders_fixed :
    placeholders (.fixed text :: second) = placeholders second := rfl

@[simp] theorem placeholders_placeholder :
    placeholders (.placeholder name :: second) = name :: placeholders second := rfl

@[simp] theorem placeholders_append :
    placeholders (first ++ second) = placeholders first ++ placeholders second :=
  List.filterMap_append

end Spelling

def enclosed (pieces : List Piece) : List Piece :=
  .fixed "(" :: pieces ++ [.fixed ")"]

/-- The separator stands before each part but the first. -/
def separated (separator : String) : List (List Piece) → List Piece
  | [] => []
  | first :: rest => first ++ rest.flatMap fun part => .fixed separator :: part

/-- A property that is a keyword is quoted in brackets. -/
def propertyText (name : String) : String :=
  if Identifier.isKeyword name then "[" ++ Literal.quote name ++ "]" else "." ++ name

def pathText (path : Path) : String :=
  path.aliasName ++ String.join (path.fields.map propertyText)

def Operand.pieces : Operand → List Piece
  | .path column => [.fixed (pathText column)]
  | .parameter name => [.placeholder name]
  | .variable name => [.fixed (variablesAlias ++ "[" ++ Literal.quote name ++ "]")]

namespace Condition

/-- Each part of a connective is enclosed, and the empty connective is a constant. -/
def connectivePieces (separator constant : String) : List (List Piece) → List Piece
  | [] => [.fixed constant]
  | parts => Dialect.separated separator (parts.map enclosed)

def searchText (bare : Bool) (aliasName : String) (source : Path) : String :=
  (if bare then "EXISTS(SELECT 1 FROM " else "EXISTS(SELECT VALUE 1 FROM ") ++ aliasName ++
    " IN " ++ pathText source

mutual

/-- A condition is cut at its parameters. -/
def pieces : Condition → List Piece
  | .all conditions => connectivePieces " AND " "true" (piecesEach conditions)
  | .any conditions => connectivePieces " OR " "false" (piecesEach conditions)
  | .not condition => .fixed "NOT (" :: condition.pieces ++ [.fixed ")"]
  | .existsIn bare aliasName source none => [.fixed (searchText bare aliasName source), .fixed ")"]
  | .existsIn bare aliasName source (some condition) =>
      .fixed (searchText bare aliasName source) :: .fixed " WHERE " :: condition.pieces ++
        [.fixed ")"]
  | .compare operator left right => left.pieces ++ .fixed (" " ++ operator ++ " ") :: right.pieces
  | .call function operands =>
      .fixed (function ++ "(") :: Dialect.separated ", " (operands.map Operand.pieces) ++
        [.fixed ")"]

def piecesEach : List Condition → List (List Piece)
  | [] => []
  | condition :: rest => condition.pieces :: piecesEach rest

end

end Condition

def AggregateCall.text : AggregateCall → String
  | .call function column => function ++ "(" ++ pathText column ++ ")"
  | .distinctCount column => "DISTINCT COUNT(" ++ pathText column ++ ")"
  | .countAll => "COUNT(1)"

def originText : Origin → String
  | .container name aliasName => name ++ " " ++ aliasName
  | .aliased source aliasName => pathText source ++ " AS " ++ aliasName
  | .iterated source aliasName => aliasName ++ " IN " ++ pathText source

def joinText (join : Join) : String :=
  "JOIN " ++ join.aliasName ++ " IN (SELECT VALUE " ++ join.parameter ++ ")"

def sortKeyText (key : SortKey) : String :=
  pathText key.column ++ (if key.descending then " DESC" else " ASC")

def pageText (page : Nat × Nat) : String :=
  page.1.repr ++ " LIMIT " ++ page.2.repr

/-- An optional clause starts with its keyword. -/
def clausePieces {Content : Type} (keyword : String) (contentPieces : Content → List Piece) :
    Option Content → List Piece
  | none => []
  | some content => .fixed keyword :: contentPieces content

/-- The clauses are written in the order of the dialect. -/
def Clauses.pieces (clauses : Clauses) : List Piece :=
  clausePieces " FROM " (fun origin => [.fixed (originText origin)]) clauses.origin ++
    clauses.joins.map (fun join => .fixed (" " ++ joinText join)) ++
      clausePieces " WHERE " Condition.pieces clauses.condition ++
        clausePieces " ORDER BY "
          (fun keys => separated ", " (keys.map fun key => [.fixed (sortKeyText key)]))
          clauses.sortKeys ++
          clausePieces " OFFSET " (fun page => [.fixed (pageText page)]) clauses.page

/-- The entries of each form are written between these texts. -/
def columnsPieces (form : ProjectionForm) (parts : List (List Piece)) : List Piece :=
  match form with
  | .empty => [.fixed "VALUE \x7b\x7d"]
  | .values => .fixed "VALUE " :: separated ", " parts
  | .aliased => separated ", " parts
  | .keyed => .fixed "VALUE \x7b" :: separated ", " parts ++ [.fixed "\x7d"]

def entryPieces (form : ProjectionForm) (aliasName : Option String) (pieces : List Piece) :
    List Piece :=
  match form, aliasName with
  | .aliased, some aliasName => pieces ++ [.fixed (" AS " ++ aliasName)]
  | .keyed, some aliasName => .fixed (Literal.quote aliasName ++ ": ") :: pieces
  | _, _ => pieces

mutual

/-- An array that is no bare value is enclosed. -/
def Item.pieces (form : ProjectionForm) : Item → List Piece
  | .path column => [.fixed (pathText column)]
  | .orNull column => [.fixed (pathText column ++ " ?? null")]
  | .aggregate call => [.fixed call.text]
  | .array query =>
      if form = .values then .fixed "ARRAY(" :: query.pieces ++ [.fixed ")"]
      else .fixed "(ARRAY(" :: query.pieces ++ [.fixed "))"]
  | .single query => enclosed query.pieces

/-- A query is its columns and then its clauses. -/
def Query.pieces : Query → List Piece
  | ⟨form, items, clauses⟩ =>
      .fixed "SELECT " :: columnsPieces form (piecesOfItems form items) ++ clauses.pieces

def piecesOfItems (form : ProjectionForm) : List (Option String × Item) → List (List Piece)
  | [] => []
  | (aliasName, item) :: rest =>
      entryPieces form aliasName (item.pieces form) :: piecesOfItems form rest

end

end DocumentQuery.Dialect
