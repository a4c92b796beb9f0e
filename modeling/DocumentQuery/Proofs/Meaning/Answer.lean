/-
This file evaluates whole statements: a database answers with a row for each match, or with one row
of aggregates over all of them, and it leaves out the rows outside the page.
-/

import DocumentQuery.Compilation.Query
import DocumentQuery.Proofs.Meaning.Condition
import DocumentQuery.Proofs.Meaning.Projection

namespace DocumentQuery

/-- A database decides its relations, the value of each aggregate and the order of the matches. -/
structure Engine where
  relates : Relation → Found → Found → Bool
  total : AggregateColumn → List Bindings → Json
  arrange : Option (List SortKey) → List Bindings → List Bindings
  arranged : ∀ keys found, (arrange keys found).Perm found

namespace Engine

/-- Variables are the properties of the set that is joined under their alias. -/
def interpretation (engine : Engine) (bindings : Bindings) : Interpretation where
  relates := engine.relates
  assigned name := Found.property name (bindings.entry? variablesAlias)

/-- Every aggregate of this engine counts the matches, which keep their order. -/
def counting (relates : Relation → Found → Found → Bool) : Engine where
  relates
  total _ rows := .integer rows.length
  arrange _ rows := rows
  arranged _ _ := .refl _

end Engine

/-- A parameter has the value that is bound under its name. -/
def SqlText.value? (text : SqlText) (name : String) : Found :=
  (text.parameters.find? fun parameter => parameter.name = name).map Parameter.value

/-- A join repeats each binding for every element of its parameter. -/
def Join.bind (bound : String → Found) (outer : List Bindings) (join : Join) : List Bindings :=
  outer.flatMap fun bindings =>
    (Found.elements (bound join.parameter)).map fun item => (join.aliasName, item) :: bindings

def Projection.call? : Projection → Option AggregateColumn
  | .aggregate call => some call
  | .path _ | .subquery _ => none

/-- A missing page keeps every row. -/
def paged {Row : Type} (offset limit : Option UInt32) (rows : List Row) : List Row :=
  match pagination? offset limit with
  | none => rows
  | some (offset, limit) => (rows.drop offset.toNat).take limit.toNat

/-- This is how many of so many rows are on the page. -/
def pageLength (offset limit : Option UInt32) (count : Nat) : Nat :=
  match pagination? offset limit with
  | none => count
  | some (offset, limit) => min limit.toNat (count - offset.toNat)

namespace Select

variable (engine : Engine) (bound : String → Found) (documents : List Json)

/-- The matches are the documents, with the elements of the joins, that satisfy the condition. -/
def matching (select : Select) : List Bindings :=
  (select.joins.foldl (Join.bind bound) (Origin.bind documents [] select.origin)).filter
    fun bindings => select.predicate.all fun predicate =>
      predicate.holds (engine.interpretation bindings) bindings

/-- A row is a single value, or an object of the columns. -/
def rowOf (select : Select) (bindings : Bindings) : Found :=
  match select.form with
  | .empty => some (.object [])
  | .values => Projection.singleValue documents bindings select.columns
  | .aliased | .keyed => some (.object (Projection.members documents bindings select.columns))

/-- A list of aggregates makes one row of all matches, and any other list makes one of each. -/
def produced (select : Select) : List Json :=
  let found := select.matching engine bound documents
  if select.columns.any fun column => column.2.call?.isSome then
    [.object (select.columns.filterMap fun column =>
      column.2.call?.map fun call => (column.1, engine.total call found))]
  else (engine.arrange select.sortKeys found).filterMap (select.rowOf documents)

/-- The page is cut from the rows that the statement produces. -/
def answer (select : Select) : List Json :=
  paged select.offset select.limit (select.produced engine bound documents)

end Select

section Pages

variable {Row : Type} {offset limit : Option UInt32}

/-- A page of equal rows is as long as the page allows. -/
theorem paged_replicate (count : Nat) (row : Row) :
    paged offset limit (List.replicate count row) =
      List.replicate (pageLength offset limit count) row := by
  unfold paged pageLength
  split
  next => rfl
  next offset limit _ => rw [List.drop_replicate, List.take_replicate]

/-- A page keeps rows in their order. -/
theorem paged_sublist (rows : List Row) : (paged offset limit rows).Sublist rows := by
  unfold paged
  split
  next => exact .refl rows
  next offset limit _ => exact (List.take_sublist _ _).trans (List.drop_sublist _ _)

/-- The only row is on the page that starts at it and has room for a row. -/
theorem pageLength_one (first : offset.getD 0 = 0) (room : limit ≠ some 0) :
    pageLength offset limit 1 = 1 := by
  have positive : ∀ room : UInt32, limit = some room → 1 ≤ room.toNat := by
    rintro size rfl
    have nonzero : size ≠ 0 := fun same => room (congrArg some same)
    rw [Nat.one_le_iff_ne_zero]
    exact fun zero => nonzero (UInt32.toNat_inj.mp zero)
  unfold pageLength
  cases offset with
  | none =>
      cases limit with
      | none => rfl
      | some size => exact Nat.min_eq_right (positive size rfl)
  | some start =>
      cases first
      cases limit with
      | none => rfl
      | some size => exact Nat.min_eq_right (positive size rfl)

end Pages

end DocumentQuery
