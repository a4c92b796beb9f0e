/-
This file proves that the text of a statement depends on its literals only through the names of
their parameters.
-/

import DocumentQuery.Proofs.Binding.Literals
import DocumentQuery.Proofs.Independence.Masking

namespace DocumentQuery

open Dialect

namespace Dialect

/-- A blank placeholder has no name. -/
def Piece.blank : Piece → Piece
  | .fixed text => .fixed text
  | .placeholder _ => .placeholder ""

/-- A template has blank placeholders. -/
def template (pieces : List Piece) : List Piece :=
  pieces.map Piece.blank

section Template

variable (first second : List Piece)

@[simp] theorem template_nil : template [] = [] := rfl

@[simp] theorem template_cons (piece : Piece) :
    template (piece :: second) = piece.blank :: template second := rfl

@[simp] theorem template_append : template (first ++ second) = template first ++ template second :=
  List.map_append

/-- Pieces are determined by their template and their placeholders. -/
theorem pieces_eq {first second : List Piece} (same : template first = template second)
    (named : placeholders first = placeholders second) : first = second := by
  induction first generalizing second with
  | nil => exact (List.map_eq_nil_iff.mp same.symm).symm
  | cons piece rest continued =>
      cases second with
      | nil => cases same
      | cons other others =>
          obtain ⟨alike, onward⟩ := List.cons.inj same
          cases piece with
          | fixed text =>
              cases other with
              | placeholder name => cases alike
              | fixed text' =>
                  cases alike
                  rw [continued onward named]
          | placeholder name =>
              cases other with
              | fixed text => cases alike
              | placeholder name' =>
                  obtain ⟨rfl, later⟩ := List.cons.inj named
                  rw [continued onward later]

/-- The template of separated parts is made of the templates of the parts. -/
theorem template_flatMap (separator : String) (parts : List (List Piece)) :
    template (parts.flatMap (.fixed separator :: ·)) =
      (parts.map template).flatMap (.fixed separator :: ·) := by
  induction parts with
  | nil => rfl
  | cons part rest continued => simp [Piece.blank, continued]

/-- Separators stand in the template as they are. -/
theorem template_separated (separator : String) (parts : List (List Piece)) :
    template (separated separator parts) = separated separator (parts.map template) := by
  cases parts with
  | nil => rfl
  | cons part rest =>
      rw [separated, template_append, template_flatMap]
      rfl

/-- A connective has the template that its parts have. -/
theorem template_connective (separator constant : String) (parts : List (List Piece)) :
    template (Condition.connectivePieces separator constant parts) =
      Condition.connectivePieces separator constant (parts.map template) := by
  cases parts with
  | nil => rfl
  | cons part rest =>
      have each : (((part :: rest).map enclosed).map template) =
          ((part :: rest).map template).map enclosed := by
        rw [List.map_map, List.map_map]
        apply List.map_congr_left
        intro pieces _
        simp [enclosed, Piece.blank]
      have connected : Condition.connectivePieces separator constant (part :: rest) =
          separated separator ((part :: rest).map enclosed) := rfl
      rw [connected, template_separated, each]
      rfl

end Template

/-- The two conditions have one template, and as many elements are numbered in both. -/
structure Condition.Alike (first second : Condition × Draft) : Prop where
  template : template first.1.pieces = template second.1.pieces
  elements : first.2.elements = second.2.elements

end Dialect

/-- Hiding a literal keeps the template of its operand. -/
theorem Comparand.operand_alike (comparand : Comparand) (key : String) (draft other : Draft) :
    template (comparand.operand key draft).1.pieces =
      template (comparand.masked.operand key other).1.pieces := by
  cases comparand <;> rfl

section Conditions

variable {draft other : Draft}

/-- Hiding the literal of a test keeps its template and the numbering of elements. -/
theorem Test.condition_alike (test : Test) (path : Path) (key : String)
    (same : draft.elements = other.elements) :
    Condition.Alike (test.condition path key draft) (test.masked.condition path key other) := by
  cases test with
  | isNull => exact ⟨rfl, same⟩
  | compare operator comparand =>
      have alike := comparand.operand_alike key draft other
      have numbered : (comparand.operand key draft).2.elements =
          (comparand.masked.operand key other).2.elements := by
        rw [Comparand.operand_elements, Comparand.operand_elements, same]
      simp only [masked, condition]
      split
      · exact ⟨by simp [Condition.pieces, alike], numbered⟩
      · exact ⟨by simp [Condition.pieces, template_separated, alike], numbered⟩

/-- The induction is on the chain. Each of its arrays takes the same alias in both conditions. -/
theorem Chain.condition_alike (test : Test) (key : String) (chain : Chain) (path : Path)
    (same : draft.elements = other.elements) :
    Condition.Alike (chain.condition test key path draft)
      (chain.condition test.masked key path other) := by
  induction chain generalizing path draft other with
  | property field next continued => exact continued (path.step field) same
  | scalar field scalarType => exact test.condition_alike (path.stepMaybe field) key same
  | value field => exact test.condition_alike (path.stepMaybe field) key same
  | each field next continued =>
      -- The alias comes from the count of elements, which no literal changes.
      have named : other.nextElement.1 = draft.nextElement.1 := by
        simp only [Draft.nextElement, same]
      have numbered : draft.nextElement.2.elements = other.nextElement.2.elements := by
        simp only [Draft.nextElement, same]
      obtain ⟨inner, counted⟩ := continued (.ofAlias draft.nextElement.1) numbered
      simp only [condition, named]
      exact ⟨by simp [Condition.pieces, inner], counted⟩

namespace Predicate

mutual

/-- The induction is on the predicate, for drafts that have numbered as many elements. -/
theorem condition_alike :
    ∀ (predicate : Predicate) (draft other : Draft), draft.elements = other.elements →
      Condition.Alike (predicate.condition draft) (predicate.masked.condition other)
  | .test aliasName chain applied, draft, other, same =>
      Chain.condition_alike applied (parameterKey aliasName chain) chain (.ofAlias aliasName) same
  | .and predicates, draft, other, same => by
      obtain ⟨parts, numbered⟩ := conditions_alike predicates draft other same
      exact ⟨by simp only [masked, condition, Condition.pieces, template_connective, parts],
        numbered⟩
  | .or predicates, draft, other, same => by
      obtain ⟨parts, numbered⟩ := conditions_alike predicates draft other same
      exact ⟨by simp only [masked, condition, Condition.pieces, template_connective, parts],
        numbered⟩
  | .not predicate, draft, other, same => by
      obtain ⟨inner, numbered⟩ := condition_alike predicate draft other same
      exact ⟨by simp [masked, condition, Condition.pieces, inner], numbered⟩
  | .existsIn source aliasName none, draft, other, same => ⟨rfl, same⟩
  | .existsIn source aliasName (some predicate), draft, other, same => by
      obtain ⟨inner, numbered⟩ := condition_alike predicate draft other same
      exact ⟨by simp [masked, condition, Condition.pieces, inner], numbered⟩

/-- The conditions of two lists have one template each and go on with the same numbers. -/
theorem conditions_alike :
    ∀ (predicates : List Predicate) (draft other : Draft), draft.elements = other.elements →
      (Condition.piecesEach (conditions predicates draft).1).map template =
          (Condition.piecesEach (conditions (maskedEach predicates) other).1).map template ∧
        (conditions predicates draft).2.elements =
          (conditions (maskedEach predicates) other).2.elements
  | [], draft, other, same => ⟨rfl, same⟩
  | predicate :: rest, draft, other, same => by
      obtain ⟨first, numbered⟩ := condition_alike predicate draft other same
      obtain ⟨others, later⟩ := conditions_alike rest _ _ numbered
      refine ⟨?_, later⟩
      simp only [maskedEach, conditions, Condition.piecesEach, List.map_cons, first, others]

end

end Predicate

end Conditions

namespace Select

/-- Hiding the literals of a statement keeps the template of its clauses. -/
theorem clauses_template (select : Select) (draft : Draft) :
    template (select.clauses draft).1.pieces = template (select.masked.clauses draft).1.pieces := by
  have conditioned :
      template (clausePieces " WHERE " Condition.pieces (select.condition? draft).1) =
        template (clausePieces " WHERE " Condition.pieces (select.masked.condition? draft).1) := by
    unfold condition? masked
    cases select.predicate with
    | none => rfl
    | some predicate =>
        have alike := (predicate.condition_alike draft draft rfl).template
        simp only [Option.map_some, clausePieces, template_cons, alike]
  simp only [clauses, Clauses.pieces, template_append, conditioned]
  rfl

/-- Hiding the literals of a statement changes the names of its placeholders only. -/
theorem tree_template (select : Select) :
    template select.tree.pieces = template select.masked.tree.pieces := by
  obtain ⟨columns, origin, asValue, asArray, isAggregate, joins, predicate, sortKeys, offset,
    limit⟩ := select
  have clauses := clauses_template ⟨columns, origin, asValue, asArray, isAggregate, joins,
    predicate, sortKeys, offset, limit⟩ (items (form ⟨columns, origin, asValue, asArray,
    isAggregate, joins, predicate, sortKeys, offset, limit⟩) columns {}).2
  simp only [tree, masked, query, Query.pieces, template_append] at clauses ⊢
  rw [clauses]
  rfl

end Select

end DocumentQuery
