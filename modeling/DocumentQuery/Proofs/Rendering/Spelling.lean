/-
This file proves that the text of a statement is the spelling of its tree, whatever its names are.
-/

import DocumentQuery.Proofs.Dialect.Pieces
import DocumentQuery.Proofs.Rendering.Tokens

namespace DocumentQuery

open Dialect

section Parts

variable (draft : Draft)

/-- A property is written as its text. -/
theorem Draft.writeProperty_text (name : String) :
    draft.writeProperty name = draft.write (propertyText name) := by
  unfold writeProperty propertyText
  split
  · rw [write_append, write_append]
    rfl
  · rfl

/-- A path is written as its text. -/
theorem Path.write_text (path : Path) : path.write draft = draft.write (pathText path) := by
  have properties : ∀ (names : List String) (draft : Draft),
      names.foldl Draft.writeProperty draft =
        draft.write (String.join (names.map propertyText)) := by
    intro names
    induction names with
    | nil => simp [Draft.write]
    | cons name rest continued =>
        intro draft
        rw [List.foldl_cons, continued, Draft.writeProperty_text, ← Draft.write_append,
          List.map_cons, String.join_cons]
  rw [Path.write, properties, ← Draft.write_append, pathText]

/-- An aggregate is written as the text of its call. -/
theorem AggregateColumn.write_text (aggregate : AggregateColumn) :
    aggregate.write draft = draft.write aggregate.call.text := by
  have called (opening : String) (column : Path) :
      (column.write (draft.write opening)).write ")" =
        draft.write (opening ++ pathText column ++ ")") := by
    rw [Path.write_text, ← Draft.write_append, ← Draft.write_append, String.append_assoc]
  cases aggregate with
  | starCount => rfl
  | function dialectName column => exact called (dialectName ++ "(") column
  | count column distinct =>
      cases distinct with
      | true => exact called "DISTINCT COUNT(" column
      | false => exact called "COUNT(" column

/-- An origin is written as its text. -/
theorem Origin.write_text (origin : Origin) :
    origin.write draft = draft.write (originText origin) := by
  cases origin with
  | container name aliasName => simp only [write, originText, String.append_assoc]
  | aliased source aliasName =>
      simp only [write, originText, Path.write_text, ← Draft.write_append, String.append_assoc]
  | iterated source aliasName =>
      simp only [write, originText, Path.write_text, ← Draft.write_append]

theorem Join.write_text (join : Join) : join.write draft = draft.write (joinText join) := rfl

/-- A sort key is written as its text. -/
theorem SortKey.write_text (key : SortKey) :
    SortKey.write draft key = draft.write (sortKeyText key) := by
  simp only [write, sortKeyText, Path.write_text, ← Draft.write_append]

end Parts

/-- The text of the draft is the spelling of these pieces, and the draft is numbered like this. -/
structure Draft.Shows (draft : Draft) (pieces : List Piece) (numbering : Draft) : Prop where
  spelled : draft.text = spell pieces
  numbered : draft.numbering = numbering

theorem Draft.shows_self (draft : Draft) : draft.Shows [.fixed draft.text] draft.numbering :=
  ⟨by simp [Piece.spelling], rfl⟩

variable {draft numbering : Draft} {pieces : List Piece}

namespace Draft.Shows

/-- What is shown behind a draft is added to its text. -/
theorem appended {next : Draft} (shows : next.Shows ([.fixed draft.text] ++ pieces) numbering) :
    next.text = draft.text ++ spell pieces := by
  rw [shows.spelled]
  simp [Piece.spelling]

/-- Fixed text shows itself. -/
theorem write (shows : draft.Shows pieces numbering) (text : String) :
    (draft.write text).Shows (pieces ++ [.fixed text]) numbering :=
  ⟨by simp [Draft.write, shows.spelled, Piece.spelling], shows.numbered⟩

/-- Other pieces may have the same spelling. -/
theorem respell (shows : draft.Shows pieces numbering) {others : List Piece}
    (same : spell pieces = spell others) : draft.Shows others numbering :=
  ⟨shows.spelled.trans same, shows.numbered⟩

/-- A literal is shown as the placeholder that its numbering gives it. -/
theorem bind (shows : draft.Shows pieces numbering) (key : String) (value : Json) :
    (draft.writeParameter key value).Shows
      (pieces ++ [.placeholder (parameterName (cleanKey key)
        (numbering.bindValue (cleanKey key) value).2)])
      (numbering.bindValue (cleanKey key) value).1 := by
  have numbered := shows.numbered
  subst numbered
  rw [bindValue_numbering]
  exact ⟨by simp [writeParameter, Draft.write, bindValue_text, shows.spelled, Piece.spelling], rfl⟩

end Draft.Shows

/-- A comparand shows its operand. -/
theorem Comparand.write_shows (comparand : Comparand) (key : String)
    (shows : draft.Shows pieces numbering) :
    (comparand.write key draft).Shows (pieces ++ (comparand.operand key numbering).1.pieces)
      (comparand.operand key numbering).2 := by
  cases comparand with
  | literal value => exact shows.bind key value
  | column path =>
      rw [Comparand.write, Path.write_text]
      exact shows.write _
  | «variable» name =>
      have named := (((shows.write variablesAlias).write "[").write (Literal.quote name)).write "]"
      exact named.respell (by simp [operand, Operand.pieces, Piece.spelling, String.append_assoc])

/-- A test shows its condition. -/
theorem Test.write_shows (test : Test) (path : Path) (key : String)
    (shows : draft.Shows pieces numbering) :
    (test.write path key draft).Shows (pieces ++ (test.condition path key numbering).1.pieces)
      (test.condition path key numbering).2 := by
  cases test with
  | isNull =>
      have called := ((shows.write "IS_NULL(").write (pathText path)).write ")"
      rw [Test.write, Path.write_text]
      exact called.respell (by simp [condition, Condition.pieces, separated, Operand.pieces])
  | compare operator comparand =>
      simp only [Test.write, Test.condition, Path.write_text]
      by_cases between : operator.isBetween
      · have located := (shows.write (pathText path)).write (" " ++ operator.dialectName ++ " ")
        have compared := comparand.write_shows key located
        simp only [between, if_true]
        exact compared.respell (by simp [Condition.pieces, Operand.pieces])
      · have called := shows.write (operator.dialectName ++ "(")
        have located := (called.write (pathText path)).write ", "
        have compared := (comparand.write_shows key located).write ")"
        simp only [between]
        exact compared.respell (by simp [Condition.pieces, separated, Operand.pieces])

/-- The induction is on the chain. Each of its arrays is shown as a search. -/
theorem Chain.write_shows (test : Test) (key : String) (chain : Chain) (path : Path)
    (shows : draft.Shows pieces numbering) :
    (chain.write test key path draft).Shows
      (pieces ++ (chain.condition test key path numbering).1.pieces)
      (chain.condition test key path numbering).2 := by
  induction chain generalizing path draft pieces numbering with
  | property field next written => exact written (path.step field) shows
  | scalar field scalarType => exact test.write_shows (path.stepMaybe field) key shows
  | value field => exact test.write_shows (path.stepMaybe field) key shows
  | each field next written =>
      have numbered := shows.numbered
      subst numbered
      have counted : draft.nextElement.2.Shows pieces draft.numbering.nextElement.2 :=
        ⟨shows.spelled, rfl⟩
      have opened := counted.write ("EXISTS(SELECT 1 FROM " ++ draft.nextElement.1 ++ " IN ")
      have searched := (opened.write (pathText (path.stepMaybe field))).write " WHERE "
      have inner := (written (.ofAlias draft.nextElement.1) searched).write ")"
      have same : draft.numbering.nextElement.1 = draft.nextElement.1 := rfl
      simp only [Chain.write, Chain.condition, Path.write_text, same]
      exact inner.respell (by simp [Condition.pieces, Condition.searchText, Piece.spelling,
        String.append_assoc])

namespace Predicate

mutual

/-- The induction is on the predicate. What is written for it shows its condition. -/
theorem write_shows :
    ∀ (predicate : Predicate) (draft numbering : Draft) (pieces : List Piece),
      draft.Shows pieces numbering →
        (predicate.write draft).Shows (pieces ++ (predicate.condition numbering).1.pieces)
          (predicate.condition numbering).2
  | .test aliasName chain applied, draft, numbering, pieces, shows =>
      chain.write_shows applied _ _ shows
  | .and [], draft, numbering, pieces, shows => shows.write "true"
  | .or [], draft, numbering, pieces, shows => shows.write "false"
  | .and (first :: rest), draft, numbering, pieces, shows => by
      have head := (write_shows first _ numbering _ (shows.write "(")).write ")"
      have tail := writeRest_shows " AND " rest _ _ _ head
      exact tail.respell (by simp [condition, conditions, Condition.pieces, Condition.piecesEach,
        Condition.connectivePieces, separated, enclosed])
  | .or (first :: rest), draft, numbering, pieces, shows => by
      have head := (write_shows first _ numbering _ (shows.write "(")).write ")"
      have tail := writeRest_shows " OR " rest _ _ _ head
      exact tail.respell (by simp [condition, conditions, Condition.pieces, Condition.piecesEach,
        Condition.connectivePieces, separated, enclosed])
  | .not predicate, draft, numbering, pieces, shows => by
      have inner := (write_shows predicate _ numbering _ (shows.write "NOT (")).write ")"
      exact inner.respell (by simp [condition, Condition.pieces])
  | .existsIn source aliasName none, draft, numbering, pieces, shows => by
      have searched := ((shows.write ("EXISTS(SELECT VALUE 1 FROM " ++ aliasName ++ " IN ")).write
        (pathText source)).write ")"
      rw [write, Path.write_text]
      exact searched.respell (by simp [condition, Condition.pieces, Condition.searchText,
        Piece.spelling, String.append_assoc])
  | .existsIn source aliasName (some predicate), draft, numbering, pieces, shows => by
      have searched := ((shows.write ("EXISTS(SELECT VALUE 1 FROM " ++ aliasName ++ " IN ")).write
        (pathText source)).write " WHERE "
      have inner := (write_shows predicate _ numbering _ searched).write ")"
      rw [write, Path.write_text]
      exact inner.respell (by simp [condition, Condition.pieces, Condition.searchText,
        Piece.spelling, String.append_assoc])

/-- The parts of a connective behind the first one are shown after a separator each. -/
theorem writeRest_shows (separator : String) :
    ∀ (predicates : List Predicate) (draft numbering : Draft) (pieces : List Piece),
      draft.Shows pieces numbering →
        (writeRest separator predicates draft).Shows
          (pieces ++ ((Condition.piecesEach (conditions predicates numbering).1).map
            enclosed).flatMap fun part => .fixed separator :: part)
          (conditions predicates numbering).2
  | [], draft, numbering, pieces, shows => by
      simpa [writeRest, conditions, Condition.piecesEach] using shows
  | predicate :: rest, draft, numbering, pieces, shows => by
      have opened := (shows.write separator).write "("
      have head := (write_shows predicate _ numbering _ opened).write ")"
      have tail := writeRest_shows separator rest _ _ _ head
      exact tail.respell (by simp [conditions, Condition.piecesEach, enclosed])

end

end Predicate

end DocumentQuery
