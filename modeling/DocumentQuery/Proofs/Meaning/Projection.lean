/-
This file evaluates the columns of statements on documents. It says which rows a request asks for
and which of their values are delivered.
-/

import DocumentQuery.Proofs.Meaning.Document
import DocumentQuery.Request.Basic
import DocumentQuery.Statement.Rendering

namespace DocumentQuery

/-- A container binds each of its documents, an absent source binds nothing, and an array binds each
of its elements in order. -/
def Origin.bind (documents : List Json) (bindings : Bindings) : Option Origin → List Bindings
  | none => [bindings]
  | some (.container _ aliasName) => documents.map fun document => (aliasName, document) :: bindings
  | some (.aliased source aliasName) =>
      (source.find bindings).toList.map fun value => (aliasName, value) :: bindings
  | some (.iterated source aliasName) =>
      (Found.elements (source.find bindings)).map fun item => (aliasName, item) :: bindings

/-- A subquery is the array of its rows or its single row. -/
def Select.embed (asArray : Bool) (rows : List Json) : Found :=
  match asArray, rows with
  | true, rows => some (.array rows)
  | false, [row] => some row
  | false, _ => none

/-- Under an alias, a property that is absent is replaced by null. -/
def Projection.coalesced (found : Found) : Projection → Found
  | .path _ => some (found.getD .null)
  | .aggregate _ | .subquery _ => found

mutual

/-- These rows are projected before the statement filters, orders or counts them. A list of aliases
and an object literal both build an object. -/
def Select.rows (documents : List Json) (bindings : Bindings) : Select → List Json
  | ⟨columns, origin, asValue, asArray, isAggregate, joins, predicate, sortKeys, offset, limit⟩ =>
      let select : Select := ⟨columns, origin, asValue, asArray, isAggregate, joins, predicate,
        sortKeys, offset, limit⟩
      (Origin.bind documents bindings origin).filterMap fun bindings =>
        match select.form with
        | .empty => some (.object [])
        | .values => Projection.singleValue documents bindings columns
        | .aliased | .keyed => some (.object (Projection.members documents bindings columns))

/-- An aggregate has no value on one document. -/
def Projection.value (documents : List Json) (bindings : Bindings) : Projection → Found
  | .path path => path.find bindings
  | .aggregate _ => none
  | .subquery select => Select.embed select.asArray (select.rows documents bindings)

def Projection.singleValue (documents : List Json) (bindings : Bindings) :
    List (String × Projection) → Found
  | [(_, column)] => column.value documents bindings
  | _ => none

/-- A column without a value is left out. -/
def Projection.members (documents : List Json) (bindings : Bindings) :
    List (String × Projection) → List (String × Json)
  | [] => []
  | (aliasName, column) :: rest =>
      match Projection.coalesced (column.value documents bindings) column with
      | none => Projection.members documents bindings rest
      | some value => (aliasName, value) :: Projection.members documents bindings rest

end

namespace Selection

mutual

/-- A plain column asks for the value of its property, or null without one. -/
def fieldValue (found : Found) : Field → Json
  | .column column none => (Found.property column found).getD .null
  | .column column (some nested) => value (Found.property column found) nested
  | .relationship .. => .null

/-- An array selection asks for one entry for each element. -/
def value (found : Found) : Selection → Json
  | .object fields => .object (row found fields)
  | .array elements =>
      .array ((Found.elements found).map fun item => value (some item) elements)

def row (found : Found) : List (String × Field) → List (String × Json)
  | [] => []
  | (aliasName, field) :: rest => (aliasName, fieldValue found field) :: row found rest

end

mutual

def FieldSupplied (found : Found) : Field → Prop
  | .column column (some nested) => Supplied (Found.property column found) nested
  | .column _ none | .relationship .. => True

/-- A document supplies a selection when each value that it selects fields from is present. -/
def Supplied (found : Found) : Selection → Prop
  | .object fields => found.isSome ∧ RowSupplied found fields
  | .array elements => ∀ item ∈ Found.elements found, Supplied (some item) elements

def RowSupplied (found : Found) : List (String × Field) → Prop
  | [] => True
  | (_, field) :: rest => FieldSupplied found field ∧ RowSupplied found rest

end

mutual

/-- A plain column is always delivered, because null stands for an absent property. -/
def fieldDelivered (found : Found) : Field → Found
  | .column column none => some ((Found.property column found).getD .null)
  | .column column (some nested) => delivered (Found.property column found) nested
  | .relationship .. => some .null

/-- An array is always delivered, and an object is delivered when its source is present. -/
def delivered (found : Found) : Selection → Found
  | .object fields => found.map fun _ => .object (rowDelivered found fields)
  | .array elements =>
      some (.array ((Found.elements found).filterMap fun item => delivered (some item) elements))

/-- What is not delivered has no alias in the row. -/
def rowDelivered (found : Found) : List (String × Field) → List (String × Json)
  | [] => []
  | (aliasName, field) :: rest =>
      match fieldDelivered found field with
      | none => rowDelivered found rest
      | some value => (aliasName, value) :: rowDelivered found rest

end

end Selection

end DocumentQuery
