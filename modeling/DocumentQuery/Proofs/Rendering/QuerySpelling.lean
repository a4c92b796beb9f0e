/-
This file proves that the text of a whole select statement is the spelling of its tree.
-/

import DocumentQuery.Compilation.Query
import DocumentQuery.Proofs.Rendering.QueryTokens
import DocumentQuery.Proofs.Rendering.Spelling

namespace DocumentQuery

open Dialect

variable {draft numbering : Draft} {pieces : List Piece}

section Clauses

/-- Joins are shown one behind the other, each after a blank. -/
theorem joins_show (joins : List Join) (shows : draft.Shows pieces numbering) :
    (joins.foldl (fun draft join => join.write (draft.write " ")) draft).Shows
      (pieces ++ joins.map fun join => .fixed (" " ++ joinText join)) numbering := by
  induction joins generalizing draft pieces with
  | nil => simpa using shows
  | cons join rest continued =>
      have joined := shows.write (" " ++ joinText join)
      rw [Draft.write_append, ← Join.write_text] at joined
      simpa using continued joined

/-- Sort keys are shown with commas between them. -/
theorem sortKeys_show (sortKeys : List SortKey) (shows : draft.Shows pieces numbering) :
    (draft.writeEach ", " SortKey.write sortKeys).Shows
      (pieces ++ separated ", " (sortKeys.map fun key => [.fixed (sortKeyText key)]))
      numbering := by
  induction sortKeys generalizing draft pieces with
  | nil => simpa [separated, Draft.writeEach] using shows
  | cons first rest continued =>
      have written := shows.write (sortKeyText first)
      rw [← SortKey.write_text] at written
      cases rest with
      | nil => simpa [separated, Draft.writeEach] using written
      | cons second others =>
          have onward := continued (written.write ", ")
          simpa [separated, Draft.writeEach] using onward

/-- A clause is written behind its opening, and a missing clause is not written. -/
def Draft.writeClause {Clause : Type} (opening : String) (write : Clause → Draft → Draft)
    (clause : Option Clause) (draft : Draft) : Draft :=
  match clause with
  | none => draft
  | some clause => write clause (draft.write opening)

namespace Select

/-- The clauses of a statement are written in a fixed order. -/
theorem writeClauses_steps (select : Select) (draft : Draft) :
    select.writeClauses draft = select.writePagination
      (Draft.writeClause " " SortKey.writeAll select.sortKeys
        (Draft.writeClause " WHERE " Predicate.write select.predicate
          (select.joins.foldl (fun draft join => join.write (draft.write " "))
            (Draft.writeClause " FROM " Origin.write select.origin draft)))) := by
  unfold writeClauses Draft.writeClause
  cases select.origin <;> cases select.predicate <;> cases select.sortKeys <;> rfl

/-- The clauses that are written show those of the tree. -/
theorem writeClauses_shows (select : Select) (shows : draft.Shows pieces numbering) :
    (select.writeClauses draft).Shows (pieces ++ (select.clauses numbering).1.pieces)
      (select.clauses numbering).2 := by
  have located : (Draft.writeClause " FROM " Origin.write select.origin draft).Shows
      (pieces ++ clausePieces " FROM " (fun origin => [.fixed (originText origin)]) select.origin)
      numbering := by
    cases select.origin with
    | none => simpa [clausePieces, Draft.writeClause] using shows
    | some origin =>
        have written := (shows.write " FROM ").write (originText origin)
        rw [← Origin.write_text] at written
        simpa [clausePieces, Draft.writeClause] using written
  have joining := joins_show select.joins located
  have conditioned : ∀ {draft : Draft} {pieces : List Piece}, draft.Shows pieces numbering →
      (Draft.writeClause " WHERE " Predicate.write select.predicate draft).Shows
        (pieces ++ clausePieces " WHERE " Condition.pieces (select.condition? numbering).1)
        (select.condition? numbering).2 := by
    intro draft pieces shows
    unfold condition?
    cases select.predicate with
    | none => simpa [clausePieces, Draft.writeClause] using shows
    | some predicate =>
        have written := predicate.write_shows _ _ _ (shows.write " WHERE ")
        simpa [clausePieces, Draft.writeClause] using written
  have ordered : ∀ {draft numbering : Draft} {pieces : List Piece}, draft.Shows pieces numbering →
      (Draft.writeClause " " SortKey.writeAll select.sortKeys draft).Shows
        (pieces ++ clausePieces " ORDER BY "
          (fun keys : List SortKey =>
            separated ", " (keys.map fun key => [.fixed (sortKeyText key)]))
          select.sortKeys)
        numbering := by
    intro draft numbering pieces shows
    cases select.sortKeys with
    | none => simpa [clausePieces, Draft.writeClause] using shows
    | some sortKeys =>
        have written := sortKeys_show sortKeys (shows.write (" " ++ "ORDER BY "))
        rw [Draft.write_append] at written
        simpa [clausePieces, Draft.writeClause, SortKey.writeAll] using written
  have paged : ∀ {draft numbering : Draft} {pieces : List Piece}, draft.Shows pieces numbering →
      (select.writePagination draft).Shows
        (pieces ++ clausePieces " OFFSET " (fun page => [.fixed (pageText page)]) select.page)
        numbering := by
    intro draft numbering pieces shows
    have written : ∀ page : Nat × Nat,
        (draft.write (" OFFSET " ++ page.1.repr ++ " LIMIT " ++ page.2.repr)).Shows
          (pieces ++ [.fixed " OFFSET ", .fixed (pageText page)]) numbering := by
      intro page
      exact (shows.write _).respell (by simp [pageText, Piece.spelling, String.append_assoc])
    unfold writePagination page
    cases select.offset with
    | none =>
        cases select.limit with
        | none => simpa [clausePieces, pagination?] using shows
        | some limit => exact written (0, limit.toNat)
    | some offset =>
        cases select.limit with
        | none => exact written (offset.toNat, 2147483647)
        | some limit => exact written (offset.toNat, limit.toNat)
  have ended := paged (ordered (conditioned joining))
  simp only [writeClauses_steps, Clauses.pieces, clauses]
  simp only [List.append_assoc] at ended ⊢
  exact ended

end Select

end Clauses

namespace Select

/-- An entry shows its item with the alias where its form puts it. -/
theorem writeEntry_shows {form : ProjectionForm} (aliasName : String) {column : Projection}
    {item : Item} {next : Draft}
    (written : ∀ (draft : Draft) (pieces : List Piece), draft.Shows pieces numbering →
      (writeItem form column draft).Shows (pieces ++ item.pieces form) next)
    (shows : draft.Shows pieces numbering) :
    (writeEntry form aliasName column draft).Shows
      (pieces ++ entryPieces form (itemAlias form aliasName) (item.pieces form)) next := by
  cases form with
  | empty => simpa [writeEntry, entryPieces] using written draft pieces shows
  | values => simpa [writeEntry, entryPieces] using written draft pieces shows
  | aliased =>
      have named := (written draft pieces shows).write (" AS " ++ aliasName)
      simpa [writeEntry, entryPieces, itemAlias] using named
  | keyed =>
      have keyed := written _ _ ((shows.write (Literal.quote aliasName)).write ": ")
      exact keyed.respell (by simp [entryPieces, itemAlias, Piece.spelling, String.append_assoc])

/-- A subquery is shown as an array or as a single value. -/
theorem subquery_shows {form : ProjectionForm} {select : Select} {query : Dialect.Query}
    {next : Draft}
    (written : ∀ (draft : Draft) (pieces : List Piece), draft.Shows pieces numbering →
      (select.write draft).Shows (pieces ++ query.pieces) next)
    (shows : draft.Shows pieces numbering) :
    (writeItem form (.subquery select) draft).Shows
      (pieces ++ (if select.asArray then Item.array query else .single query).pieces form) next := by
  unfold writeItem writeValue writeProjected
  cases select.asArray with
  | false =>
      have closed := (written _ _ (shows.write "(")).write ")"
      simpa [Item.pieces, enclosed] using closed
  | true =>
      by_cases bare : form = .values
      · have closed := (written _ _ (shows.write "ARRAY(")).write ")"
        simpa [Item.pieces, bare] using closed
      · have closed := (written _ _ (shows.write "(ARRAY(")).write "))"
        simpa [Item.pieces, bare] using closed

/-- The columns are shown with commas between them in every form. -/
theorem columns_show {form : ProjectionForm} (some : form ≠ .empty) {aliasName : String}
    {column : Projection} {rest : List (String × Projection)} {first : List Piece}
    {parts : List (List Piece)} {middle next : Draft}
    (entry : ∀ (draft : Draft) (pieces : List Piece), draft.Shows pieces numbering →
      (writeEntry form aliasName column draft).Shows (pieces ++ first) middle)
    (others : ∀ (draft : Draft) (pieces : List Piece), draft.Shows pieces middle →
      (writeOthers form rest draft).Shows (pieces ++ parts.flatMap (.fixed ", " :: ·)) next)
    (shows : draft.Shows pieces numbering) :
    (writeColumns form ((aliasName, column) :: rest) draft).Shows
      (pieces ++ columnsPieces form (first :: parts)) next := by
  cases form with
  | empty => exact absurd rfl some
  | values =>
      have written := others _ _ (entry _ _ (shows.write "VALUE "))
      simp only [columnsPieces, separated, List.append_assoc] at written ⊢
      exact written
  | aliased =>
      have written := others _ _ (entry _ _ shows)
      rw [List.append_assoc] at written
      exact written
  | keyed =>
      have written := (others _ _ (entry _ _ (shows.write "VALUE \x7b"))).write "\x7d"
      simp only [columnsPieces, separated, List.cons_append, List.append_assoc] at written ⊢
      exact written

mutual

/-- The induction is on the column. What is written for it shows its item. -/
theorem item_shows :
    ∀ (column : Projection) (form : ProjectionForm) (numbering draft : Draft)
      (pieces : List Piece), draft.Shows pieces numbering →
        (writeItem form column draft).Shows
          (pieces ++ (item form column numbering).1.pieces form) (item form column numbering).2
  | .path path, form, numbering, draft, pieces, shows => by
      have located := shows.write (pathText path)
      rw [← Path.write_text] at located
      by_cases bare : form = .values
      · simpa [writeItem, writeValue, bare, item, Item.pieces] using located
      · have ended := located.write " ?? null"
        simp only [writeItem, writeProjected, bare, item, if_false]
        exact ended.respell (by simp [Item.pieces, Piece.spelling])
  | .aggregate aggregate, form, numbering, draft, pieces, shows => by
      have written := shows.write aggregate.call.text
      rw [← AggregateColumn.write_text] at written
      unfold writeItem
      split <;> exact written
  | .subquery select, form, numbering, draft, pieces, shows =>
      subquery_shows (fun draft pieces => query_shows select numbering draft pieces) shows

/-- The text of a select statement is the spelling of its tree, and the draft is numbered as the
tree is. -/
theorem query_shows :
    ∀ (select : Select) (numbering draft : Draft) (pieces : List Piece),
      draft.Shows pieces numbering →
        (select.write draft).Shows (pieces ++ (select.query numbering).1.pieces)
          (select.query numbering).2
  | ⟨[], origin, asValue, asArray, isAggregate, joins, predicate, sortKeys, offset, limit⟩,
      numbering, draft, pieces, shows => by
      have selected := (shows.write "SELECT ").write "VALUE \x7b\x7d"
      have written := writeClauses_shows ⟨[], origin, asValue, asArray, isAggregate, joins,
        predicate, sortKeys, offset, limit⟩ selected
      rw [List.append_assoc, List.append_assoc] at written
      exact written
  | ⟨(aliasName, column) :: rest, origin, asValue, asArray, isAggregate, joins, predicate,
      sortKeys, offset, limit⟩, numbering, draft, pieces, shows => by
      have nonempty := form_nonempty ⟨(aliasName, column) :: rest, origin, asValue, asArray,
        isAggregate, joins, predicate, sortKeys, offset, limit⟩ (List.cons_ne_nil _ _)
      have selected := columns_show nonempty
        (fun draft pieces => writeEntry_shows aliasName
          fun draft pieces => item_shows column _ numbering draft pieces)
        (fun draft pieces => others_show rest _ _ draft pieces nonempty) (shows.write "SELECT ")
      have written := writeClauses_shows ⟨(aliasName, column) :: rest, origin, asValue, asArray,
        isAggregate, joins, predicate, sortKeys, offset, limit⟩ selected
      rw [List.append_assoc, List.append_assoc] at written
      exact written

/-- The columns behind the first one are shown after a comma each. -/
theorem others_show :
    ∀ (columns : List (String × Projection)) (form : ProjectionForm) (numbering draft : Draft)
      (pieces : List Piece), form ≠ .empty → draft.Shows pieces numbering →
        (writeOthers form columns draft).Shows
          (pieces ++ (piecesOfItems form (items form columns numbering).1).flatMap
            (.fixed ", " :: ·))
          (items form columns numbering).2
  | [], form, numbering, draft, pieces, _, shows => by
      simpa [writeOthers_nil, items, piecesOfItems] using shows
  | (aliasName, column) :: rest, form, numbering, draft, pieces, nonempty, shows => by
      have written := writeEntry_shows aliasName
        (fun draft pieces => item_shows column form numbering draft pieces) (shows.write ", ")
      have onward := others_show rest form _ _ _ nonempty written
      rw [writeOthers_cons nonempty, items_cons]
      simpa [piecesOfItems] using onward

end

/-- This is the tree that the text of a statement is written from. -/
def tree (select : Select) : Dialect.Query :=
  (select.query {}).1

/-- The text of a statement is the spelling of its tree, and the parameters are those of the tree's
numbering. -/
theorem text_shows (select : Select) :
    select.text.query = spell select.tree.pieces ∧
      select.text.parameters = (select.query {}).2.parameters := by
  have empty : Draft.Shows {} [] {} := ⟨by simp, rfl⟩
  have written := select.query_shows {} {} [] empty
  refine ⟨written.spelled, ?_⟩
  rw [← written.numbered]
  rfl

end Select

end DocumentQuery
