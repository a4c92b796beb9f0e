/-
This file turns a request into a select statement over its collection.
-/

import DocumentQuery.Compilation.Aggregation
import DocumentQuery.Compilation.Condition
import DocumentQuery.Compilation.Selection

namespace DocumentQuery

namespace OrderElement

/-- Documents are ordered by their own columns only. -/
def sortKey (schema : Schema) (scope : Scope) (element : OrderElement) :
    Except Fault SortKey :=
  match element.target with
  | .column name fieldPath [] => do
      let (path, _) ← scope.objectPath schema name (fieldPath.getD [])
      return ⟨path, element.direction = .descending⟩
  | .column _ _ (_ :: _) => .error .orderByRelated
  | .singleColumnAggregate .. | .starCountAggregate .. => .error .orderByAggregate

/-- An empty list of elements orders nothing. -/
def sortKeys (schema : Schema) (scope : Scope) :
    List OrderElement → Except Fault (Option (List SortKey))
  | [] => .ok none
  | element :: rest => do
      return some (← (element :: rest).mapM (sortKey schema scope))

end OrderElement

namespace QueryRequest

def rootAlias (collection : String) : String :=
  "root_" ++ collection

/-- The root scope binds documents of the collection. Its type is looked up by name alone. -/
def rootScope (schema : Schema) (request : QueryRequest) : Except Fault Scope := do
  match schema.collection? request.collection with
  | none => throw (.unknownCollection request.collection)
  | some collection =>
      if !request.arguments.isEmpty then throw .collectionArguments
      if !request.relationships.isEmpty then throw .collectionRelationships
      let name := collection.resultType.base.1
      match schema.objectType? name with
      | none => throw (.missingResultType name)
      | some object => return ⟨rootAlias request.collection, name, object⟩

/-- A query selects fields or aggregates, or nothing. -/
def columns (schema : Schema) (scope : Scope) (query : Query) :
    Except Fault (Table Projection) :=
  match query.fields, query.aggregates with
  | some _, some _ => .error .aggregatesWithFields
  | some fields, none => Selection.columns schema scope fields
  | none, some aggregates => Aggregate.columns schema scope aggregates
  | none, none => .ok []

def statement (schema : Schema) (request : QueryRequest) : Except Fault Select := do
  let scope ← request.rootScope schema
  let query := request.query
  let columns ← columns schema scope query
  let predicate ← query.predicate.mapM (Expression.condition schema scope)
  let sortKeys ← match query.orderBy with
    | none => pure none
    | some elements => OrderElement.sortKeys schema scope elements
  return {
    columns
    origin := some (.container request.collection scope.aliasName)
    isAggregate := query.aggregates.isSome
    predicate
    sortKeys
    offset := query.offset
    limit := query.limit }

end QueryRequest

end DocumentQuery
