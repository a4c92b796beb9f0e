/-
This file writes the parts of a statement into a draft.
-/

import DocumentQuery.Statement.Draft
import DocumentQuery.Statement.Select

namespace DocumentQuery

def Path.write (path : Path) (draft : Draft) : Draft :=
  path.fields.foldl Draft.writeProperty (draft.write path.aliasName)

/-- Each set of variables is joined under this alias. -/
def variablesAlias : String := "vars"

def variablesParameter : String := "@vars"

def Comparand.write (comparand : Comparand) (key : String) (draft : Draft) : Draft :=
  match comparand with
  | .literal value => draft.writeParameter key value
  | .column path => path.write draft
  | .variable name =>
      draft.write variablesAlias |>.write "[" |>.writeLiteral name |>.write "]"

/-- An operator stands between its operands or before them in parentheses. -/
def Test.write (test : Test) (path : Path) (key : String) (draft : Draft) : Draft :=
  match test with
  | .isNull => draft.write "IS_NULL(" |> path.write |>.write ")"
  | .compare operator comparand =>
      if operator.isBetween then
        path.write draft |>.write (" " ++ operator.dialectName ++ " ") |> comparand.write key
      else
        draft.write (operator.dialectName ++ "(") |> path.write |>.write ", "
          |> comparand.write key |>.write ")"

/-- Every array on the way opens a search for one of its elements. -/
def Chain.write (test : Test) (key : String) (path : Path) : Chain → Draft → Draft
  | .property field next, draft => next.write test key (path.step field) draft
  | .each field next, draft =>
      let (aliasName, draft) := draft.nextElement
      draft.write ("EXISTS(SELECT 1 FROM " ++ aliasName ++ " IN ")
        |> (path.stepMaybe field).write |>.write " WHERE "
        |> next.write test key (.ofAlias aliasName) |>.write ")"
  | .scalar field _, draft => test.write (path.stepMaybe field) key draft
  | .value field, draft => test.write (path.stepMaybe field) key draft

namespace Predicate

mutual

/-- An empty conjunction is true, and an empty disjunction is false. -/
def write : Predicate → Draft → Draft
  | .test aliasName chain applied, draft =>
      chain.write applied (parameterKey aliasName chain) (.ofAlias aliasName) draft
  | .and [], draft => draft.write "true"
  | .and (predicate :: rest), draft =>
      draft.write "(" |> predicate.write |>.write ")" |> writeRest " AND " rest
  | .or [], draft => draft.write "false"
  | .or (predicate :: rest), draft =>
      draft.write "(" |> predicate.write |>.write ")" |> writeRest " OR " rest
  | .not predicate, draft => draft.write "NOT (" |> predicate.write |>.write ")"
  | .existsIn source aliasName none, draft =>
      draft.write ("EXISTS(SELECT VALUE 1 FROM " ++ aliasName ++ " IN ") |> source.write
        |>.write ")"
  | .existsIn source aliasName (some predicate), draft =>
      draft.write ("EXISTS(SELECT VALUE 1 FROM " ++ aliasName ++ " IN ") |> source.write
        |>.write " WHERE " |> predicate.write |>.write ")"

def writeRest (separator : String) : List Predicate → Draft → Draft
  | [], draft => draft
  | predicate :: rest, draft =>
      draft.write separator |>.write "(" |> predicate.write |>.write ")"
        |> writeRest separator rest

end

end Predicate

def AggregateColumn.write (aggregate : AggregateColumn) (draft : Draft) : Draft :=
  match aggregate with
  | .count column distinct =>
      draft.write (if distinct then "DISTINCT COUNT(" else "COUNT(") |> column.write |>.write ")"
  | .function dialectName column =>
      draft.write (dialectName ++ "(") |> column.write |>.write ")"
  | .starCount => draft.write "COUNT(1)"

def Origin.write (origin : Origin) (draft : Draft) : Draft :=
  match origin with
  | .container name aliasName => draft.write (name ++ " " ++ aliasName)
  | .aliased source aliasName => source.write draft |>.write (" AS " ++ aliasName)
  | .iterated source aliasName => draft.write (aliasName ++ " IN ") |> source.write

def Join.write (join : Join) (draft : Draft) : Draft :=
  draft.write ("JOIN " ++ join.aliasName ++ " IN (SELECT VALUE " ++ join.parameter ++ ")")

def SortKey.write (draft : Draft) (key : SortKey) : Draft :=
  key.column.write draft |>.write (if key.descending then " DESC" else " ASC")

def SortKey.writeAll (sortKeys : List SortKey) (draft : Draft) : Draft :=
  draft.write "ORDER BY " |>.writeEach ", " SortKey.write sortKeys

/-- A missing limit is this one when an offset is given. -/
def unboundedLimit : UInt32 := 2147483647

/-- The dialect takes an offset and a limit together. -/
def pagination? : (offset limit : Option UInt32) → Option (UInt32 × UInt32)
  | none, none => none
  | offset, some limit => some (offset.getD 0, limit)
  | some offset, none => some (offset, unboundedLimit)

/-- The form of the column list depends on the aliases. -/
inductive ProjectionForm where
  | empty
  | values
  | aliased
  | keyed
  deriving DecidableEq, Repr

/-- An alias that is not plain becomes the key of an object literal. -/
def Select.form (select : Select) : ProjectionForm :=
  if select.columns.isEmpty then .empty
  else if select.asValue then .values
  else if select.columns.all fun column => Identifier.isPlain column.1 then .aliased
  else .keyed

namespace Select

def writePagination (select : Select) (draft : Draft) : Draft :=
  match pagination? select.offset select.limit with
  | none => draft
  | some (offset, limit) =>
      draft.write (" OFFSET " ++ toString offset.toNat ++ " LIMIT " ++ toString limit.toNat)

/-- This function writes the clauses that follow the column list. -/
def writeClauses (select : Select) (draft : Draft) : Draft :=
  let draft := match select.origin with
    | none => draft
    | some origin => origin.write (draft.write " FROM ")
  let draft := select.joins.foldl (fun draft join => join.write (draft.write " ")) draft
  let draft := match select.predicate with
    | none => draft
    | some predicate => predicate.write (draft.write " WHERE ")
  let draft := match select.sortKeys with
    | none => draft
    | some sortKeys => SortKey.writeAll sortKeys (draft.write " ")
  select.writePagination draft

mutual

def write : Select → Draft → Draft
  | ⟨columns, origin, asValue, asArray, isAggregate, joins, predicate, sortKeys, offset, limit⟩,
      draft =>
      let select : Select := ⟨columns, origin, asValue, asArray, isAggregate, joins, predicate,
        sortKeys, offset, limit⟩
      let draft := draft.write "SELECT "
      let draft := match select.form with
        | .empty => draft.write "VALUE \x7b\x7d"
        | .values => draft.write "VALUE " |> writeValues true columns
        | .aliased => writeAliased true columns draft
        | .keyed => draft.write "VALUE \x7b" |> writeKeyed true columns |>.write "\x7d"
      select.writeClauses draft

/-- A value column is written bare. -/
def writeValue : Projection → Draft → Draft
  | .path path, draft => path.write draft
  | .aggregate aggregate, draft => aggregate.write draft
  | .subquery select, draft =>
      draft.write (if select.asArray then "ARRAY(" else "(") |> select.write |>.write ")"

/-- An absent property would be left out of the result, so it becomes null. -/
def writeProjected : Projection → Draft → Draft
  | .path path, draft => path.write draft |>.write " ?? null"
  | .aggregate aggregate, draft => aggregate.write draft
  | .subquery select, draft =>
      draft.write (if select.asArray then "(ARRAY(" else "(") |> select.write
        |>.write (if select.asArray then "))" else ")")

def writeValues (first : Bool) : List (String × Projection) → Draft → Draft
  | [], draft => draft
  | (_, column) :: rest, draft =>
      (if first then draft else draft.write ", ") |> writeValue column |> writeValues false rest

def writeAliased (first : Bool) : List (String × Projection) → Draft → Draft
  | [], draft => draft
  | (aliasName, column) :: rest, draft =>
      (if first then draft else draft.write ", ") |> writeProjected column
        |>.write (" AS " ++ aliasName) |> writeAliased false rest

def writeKeyed (first : Bool) : List (String × Projection) → Draft → Draft
  | [], draft => draft
  | (aliasName, column) :: rest, draft =>
      (if first then draft else draft.write ", ").writeLiteral aliasName |>.write ": "
        |> writeProjected column |> writeKeyed false rest

end

end Select

end DocumentQuery
