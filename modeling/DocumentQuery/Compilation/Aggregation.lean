/-
This file turns requested aggregates into the columns of a statement.
-/

import DocumentQuery.Compilation.Scope
import DocumentQuery.Identifier
import DocumentQuery.Operator
import DocumentQuery.Request.Basic
import DocumentQuery.Statement.Select

namespace DocumentQuery.Aggregate

/-- An aggregate is always written with `AS`, so its alias must be plain. -/
def checkAlias (aliasName : String) : Except Fault Unit :=
  if Identifier.isPlain aliasName then .ok () else .error (.aggregateAlias aliasName)

def column (schema : Schema) (scope : Scope) : Aggregate → Except Fault AggregateColumn
  | .starCount => .ok .starCount
  | .columnCount name fieldPath distinct => do
      let (path, _) ← scope.objectPath schema name (fieldPath.getD [])
      return .count path distinct
  | .singleColumn name fieldPath function => do
      let (path, type) ← scope.objectPath schema name (fieldPath.getD [])
      match type.required with
      | .named scalarType .scalar =>
          let definition ← Operators.aggregate scalarType function
          return .function definition.dialectName path
      | _ => .error (.aggregateOfNonScalar function name)

def columns (schema : Schema) (scope : Scope) (aggregates : Table Aggregate) :
    Except Fault (Table Projection) :=
  aggregates.mapM fun (aliasName, aggregate) => do
    checkAlias aliasName
    return (aliasName, .aggregate (← aggregate.column schema scope))

end DocumentQuery.Aggregate
