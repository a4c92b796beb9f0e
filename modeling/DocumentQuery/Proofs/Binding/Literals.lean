/-
This file lists the literals of a statement and proves that its tree has one placeholder for each.
-/

import DocumentQuery.Proofs.Binding.Parameters
import DocumentQuery.Proofs.Rendering.QuerySpelling

namespace DocumentQuery

open Dialect

/-- A literal is compared with the value at the end of a chain. -/
structure LiteralTest where
  aliasName : String
  chain : Chain
  value : Json

namespace LiteralTest

/-- The key is the cleaned name that a chain suggests for its parameter. -/
def key (test : LiteralTest) : String :=
  Draft.cleanKey (Predicate.parameterKey test.aliasName test.chain)

def binding (test : LiteralTest) : String × Json :=
  (test.key, test.value)

end LiteralTest

/-- Neither a column nor a variable is a literal. -/
def Comparand.literal? : Comparand → Option Json
  | .literal value => some value
  | .column _ | .variable _ => none

def Test.literal? : Test → Option Json
  | .isNull => none
  | .compare _ comparand => comparand.literal?

namespace Predicate

mutual

/-- Literals are listed in the order in which they are written. -/
def literalTests : Predicate → List LiteralTest
  | .test aliasName chain applied => (applied.literal?.map (LiteralTest.mk aliasName chain)).toList
  | .and predicates | .or predicates => literalTestsEach predicates
  | .not predicate => predicate.literalTests
  | .existsIn _ _ none => []
  | .existsIn _ _ (some predicate) => predicate.literalTests

def literalTestsEach : List Predicate → List LiteralTest
  | [] => []
  | predicate :: rest => predicate.literalTests ++ literalTestsEach rest

end

end Predicate

namespace Select

mutual

/-- Only a subquery has literals of its own. -/
def literalTestsOfColumn : Projection → List LiteralTest
  | .path _ | .aggregate _ => []
  | .subquery select => select.literalTests

/-- The columns of a statement are written before its condition. -/
def literalTests : Select → List LiteralTest
  | ⟨columns, _, _, _, _, _, predicate, _, _, _⟩ =>
      literalTestsOfColumns columns ++ (predicate.map Predicate.literalTests).getD []

def literalTestsOfColumns : List (String × Projection) → List LiteralTest
  | [] => []
  | (_, column) :: rest => literalTestsOfColumn column ++ literalTestsOfColumns rest

end

end Select

/-- The placeholders are the names of the literals, and the next draft has the literals bound. -/
structure Draft.Binds (draft : Draft) (literals : List (String × Json)) (pieces : List Piece)
    (next : Draft) : Prop where
  named : placeholders pieces = Ledger.names draft.bound literals
  bound : next.bound = Ledger.bindEach draft.bound literals

namespace Draft.Binds

variable {draft middle next : Draft} {literals others : List (String × Json)}
  {pieces more : List Piece}

theorem nothing (silent : placeholders pieces = []) (unchanged : next.bound = draft.bound) :
    draft.Binds [] pieces next :=
  ⟨silent, unchanged⟩

/-- Pieces without placeholders may stand around the others. -/
theorem framed {framed : List Piece} (binds : draft.Binds literals pieces next)
    (same : placeholders framed = placeholders pieces) : draft.Binds literals framed next :=
  ⟨same.trans binds.named, binds.bound⟩

/-- Pieces that are written one behind the other bind their literals in that order. -/
theorem append (first : draft.Binds literals pieces middle)
    (second : middle.Binds others more next) :
    draft.Binds (literals ++ others) (pieces ++ more) next where
  named := by
    rw [placeholders_append, first.named, second.named, first.bound, Ledger.names_append]
  bound := by rw [second.bound, first.bound, Ledger.bindEach_append]

/-- Whatever a part of a statement binds, no key and no value is repeated. -/
theorem separate (binds : draft.Binds literals pieces next)
    (separate : Ledger.Separate draft.bound) : Ledger.Separate next.bound := by
  rw [binds.bound]
  exact separate.bindEach literals

end Draft.Binds

namespace Dialect

/-- Separators are no placeholders. -/
theorem placeholders_separated (separator : String) (parts : List (List Piece)) :
    placeholders (separated separator parts) = placeholders parts.flatten := by
  cases parts with
  | nil => rfl
  | cons first rest =>
      have others : placeholders (rest.flatMap fun part => .fixed separator :: part) =
          placeholders rest.flatten := by
        induction rest with
        | nil => rfl
        | cons second rest continued =>
            rw [List.flatMap_cons, List.cons_append, placeholders_fixed, placeholders_append,
              continued, List.flatten_cons, placeholders_append]
      rw [separated, placeholders_append, others, List.flatten_cons, placeholders_append]

/-- Parentheses are no placeholders. -/
theorem placeholders_enclosed (parts : List (List Piece)) :
    placeholders (parts.map enclosed).flatten = placeholders parts.flatten := by
  induction parts with
  | nil => rfl
  | cons first rest continued => simp [enclosed, continued]

/-- A connective has the placeholders of its parts. -/
theorem placeholders_connective (separator constant : String) (parts : List (List Piece)) :
    placeholders (Condition.connectivePieces separator constant parts) =
      placeholders parts.flatten := by
  cases parts with
  | nil => rfl
  | cons first rest =>
      rw [Condition.connectivePieces, placeholders_separated, placeholders_enclosed]
      simp

/-- The ordering of a query has no placeholder. -/
theorem placeholders_sortKeys (keys : List SortKey) :
    placeholders (separated ", " (keys.map fun key => [.fixed (sortKeyText key)])) = [] := by
  rw [placeholders_separated]
  induction keys with
  | nil => rfl
  | cons key rest continued => exact continued

end Dialect

/-- Only a literal comparand is written as a placeholder. -/
theorem Comparand.operand_binds (comparand : Comparand) (key : String) (draft : Draft) :
    draft.Binds (comparand.literal?.map (Draft.cleanKey key, ·)).toList
      (comparand.operand key draft).1.pieces (comparand.operand key draft).2 := by
  cases comparand with
  | column path => exact .nothing rfl rfl
  | «variable» name => exact .nothing rfl rfl
  | literal value =>
      simp only [operand, Draft.bindValue_eq]
      exact ⟨rfl, rfl⟩

/-- A test binds its literal and nothing else. -/
theorem Test.condition_binds (test : Test) (path : Path) (key : String) (draft : Draft) :
    draft.Binds (test.literal?.map (Draft.cleanKey key, ·)).toList
      (test.condition path key draft).1.pieces (test.condition path key draft).2 := by
  cases test with
  | isNull => exact .nothing rfl rfl
  | compare operator comparand =>
      have compared := comparand.operand_binds key draft
      simp only [condition]
      split
      · exact compared.framed (by simp [Condition.pieces, Operand.pieces])
      · exact compared.framed (by simp [Condition.pieces, separated, Operand.pieces])

/-- A test is written once, however many arrays its chain goes through. -/
theorem Chain.condition_binds (test : Test) (key : String) (chain : Chain) (path : Path)
    (draft : Draft) :
    draft.Binds (test.literal?.map (Draft.cleanKey key, ·)).toList
      (chain.condition test key path draft).1.pieces (chain.condition test key path draft).2 := by
  induction chain generalizing path draft with
  | property field next continued => exact continued (path.step field) draft
  | scalar field scalarType => exact test.condition_binds (path.stepMaybe field) key draft
  | value field => exact test.condition_binds (path.stepMaybe field) key draft
  | each field next continued =>
      have inner := continued (.ofAlias draft.nextElement.1) draft.nextElement.2
      refine Draft.Binds.framed ⟨inner.named, inner.bound⟩ ?_
      simp [condition, Condition.pieces]

namespace Predicate

mutual

/-- The induction is on the predicate. Its condition has one placeholder for each literal. -/
theorem condition_binds :
    ∀ (predicate : Predicate) (draft : Draft),
      draft.Binds (predicate.literalTests.map LiteralTest.binding)
        (predicate.condition draft).1.pieces (predicate.condition draft).2
  | .test aliasName chain applied, draft => by
      have tested := Chain.condition_binds applied (parameterKey aliasName chain) chain
        (.ofAlias aliasName) draft
      rw [literalTests, ← Option.toList_map, Option.map_map]
      exact tested
  | .and predicates, draft =>
      (conditions_bind predicates draft).framed (placeholders_connective _ _ _)
  | .or predicates, draft =>
      (conditions_bind predicates draft).framed (placeholders_connective _ _ _)
  | .not predicate, draft =>
      (condition_binds predicate draft).framed (by simp [condition, Condition.pieces])
  | .existsIn source aliasName none, draft => .nothing rfl rfl
  | .existsIn source aliasName (some predicate), draft =>
      (condition_binds predicate draft).framed (by simp [condition, Condition.pieces])

/-- The conditions of a list bind their literals one behind the other. -/
theorem conditions_bind :
    ∀ (predicates : List Predicate) (draft : Draft),
      draft.Binds ((literalTestsEach predicates).map LiteralTest.binding)
        (Condition.piecesEach (conditions predicates draft).1).flatten
        (conditions predicates draft).2
  | [], draft => .nothing rfl rfl
  | predicate :: rest, draft => by
      have first := condition_binds predicate draft
      have others := conditions_bind rest (predicate.condition draft).2
      rw [literalTestsEach, List.map_append]
      exact first.append others

end

end Predicate

namespace Select

/-- Only the condition of a query has placeholders. -/
theorem placeholders_clauses (clauses : Dialect.Clauses) :
    placeholders clauses.pieces =
      placeholders ((clauses.condition.map Condition.pieces).getD []) := by
  obtain ⟨origin, joins, condition, sortKeys, page⟩ := clauses
  have origins : placeholders
      (clausePieces " FROM " (fun origin => [.fixed (originText origin)]) origin) = [] := by
    cases origin <;> rfl
  have joined : placeholders (joins.map fun join => .fixed (" " ++ joinText join)) = [] := by
    induction joins with
    | nil => rfl
    | cons join rest continued => exact continued
  have sorted : placeholders (clausePieces " ORDER BY " (fun keys : List SortKey =>
      separated ", " (keys.map fun key => [.fixed (sortKeyText key)])) sortKeys) = [] := by
    cases sortKeys with
    | none => rfl
    | some keys => exact placeholders_sortKeys keys
  have paged : placeholders
      (clausePieces " OFFSET " (fun page => [.fixed (pageText page)]) page) = [] := by
    cases page <;> rfl
  simp only [Clauses.pieces, placeholders_append, origins, joined, sorted, paged, List.nil_append,
    List.append_nil]
  cases condition <;> rfl

/-- The clauses of a statement bind the literals of its predicate. -/
theorem clauses_bind (select : Select) (draft : Draft) :
    draft.Binds (((select.predicate.map Predicate.literalTests).getD []).map LiteralTest.binding)
      (select.clauses draft).1.pieces (select.clauses draft).2 := by
  have conditioned : draft.Binds
      (((select.predicate.map Predicate.literalTests).getD []).map LiteralTest.binding)
      (((select.condition? draft).1.map Condition.pieces).getD []) (select.condition? draft).2 := by
    unfold condition?
    cases select.predicate with
    | none => exact .nothing rfl rfl
    | some predicate => exact predicate.condition_binds draft
  exact conditioned.framed (placeholders_clauses _)

/-- The placeholders of columns are those of the entries, in every form that has entries. -/
theorem placeholders_columns (form : ProjectionForm) (filled : form ≠ .empty)
    (parts : List (List Piece)) :
    placeholders (columnsPieces form parts) = placeholders parts.flatten := by
  cases form with
  | empty => exact absurd rfl filled
  | values => simp [columnsPieces, placeholders_separated]
  | aliased => simp [columnsPieces, placeholders_separated]
  | keyed => simp [columnsPieces, placeholders_separated]

/-- An alias adds no placeholder to its entry. -/
theorem placeholders_entry (form : ProjectionForm) (aliasName : Option String)
    (pieces : List Piece) :
    placeholders (entryPieces form aliasName pieces) = placeholders pieces := by
  cases form <;> cases aliasName <;> simp [entryPieces]

mutual

/-- The induction is on the column. It binds the literals of the statement inside it. -/
theorem item_binds :
    ∀ (column : Projection) (form : ProjectionForm) (draft : Draft),
      draft.Binds ((literalTestsOfColumn column).map LiteralTest.binding)
        ((item form column draft).1.pieces form) (item form column draft).2
  | .path path, form, draft => by
      simp only [item]
      split <;> exact .nothing rfl rfl
  | .aggregate aggregate, form, draft => .nothing rfl rfl
  | .subquery select, form, draft => by
      have inner := query_binds select draft
      simp only [item]
      split
      · refine inner.framed ?_
        simp only [Item.pieces]
        split <;> simp
      · exact inner.framed (by simp [Item.pieces, enclosed])

/-- A statement binds the literals of its columns before those of its condition. -/
theorem query_binds :
    ∀ (select : Select) (draft : Draft),
      draft.Binds (select.literalTests.map LiteralTest.binding) (select.query draft).1.pieces
        (select.query draft).2
  | ⟨columns, origin, asValue, asArray, isAggregate, joins, predicate, sortKeys, offset, limit⟩,
      draft => by
      have first := items_bind columns (form ⟨columns, origin, asValue, asArray, isAggregate, joins,
        predicate, sortKeys, offset, limit⟩) draft
      have second := clauses_bind ⟨columns, origin, asValue, asArray, isAggregate, joins, predicate,
        sortKeys, offset, limit⟩ (items (form ⟨columns, origin, asValue, asArray, isAggregate,
        joins, predicate, sortKeys, offset, limit⟩) columns draft).2
      rw [literalTests, List.map_append]
      refine (first.append second).framed ?_
      simp only [query, Query.pieces, List.cons_append, placeholders_fixed, placeholders_append]
      congr 1
      cases columns with
      | nil => rfl
      | cons entry rest => exact placeholders_columns _ (form_nonempty _ (List.cons_ne_nil _ _)) _

/-- The columns of a statement bind their literals one behind the other. -/
theorem items_bind :
    ∀ (columns : List (String × Projection)) (form : ProjectionForm) (draft : Draft),
      draft.Binds ((literalTestsOfColumns columns).map LiteralTest.binding)
        (piecesOfItems form (items form columns draft).1).flatten (items form columns draft).2
  | [], form, draft => .nothing rfl rfl
  | (aliasName, column) :: rest, form, draft => by
      have first := item_binds column form draft
      have others := items_bind rest form (item form column draft).2
      rw [literalTestsOfColumns, List.map_append]
      refine (first.append others).framed ?_
      simp only [items, piecesOfItems, List.flatten_cons, placeholders_append, placeholders_entry]

end

end Select

end DocumentQuery
