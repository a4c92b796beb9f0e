/-
This file turns requested fields into the columns of a statement.
-/

import DocumentQuery.Compilation.Alias
import DocumentQuery.Compilation.Scope
import DocumentQuery.Request.Basic
import DocumentQuery.Statement.Select

namespace DocumentQuery.Selection

def subqueryPrefix : String := "_subquery_parent_"

def checkDepth (depth : Nat) : Except Fault Unit :=
  if depth ≤ maximumNesting then .ok () else .error .deepSelection

/-- A fault inside a selection names the alias that is selected. -/
def underAlias {Value : Type} (aliasName : String) (result : Except Fault Value) :
    Except Fault Value :=
  result.mapError (.selecting aliasName)

mutual

/-- The bound aliases are those of the statement that selects the field and of the statements around
it. -/
def columnOfField (schema : Schema) (scope : Scope) (depth : Nat) (bound : List String)
    (aliasName : String) : Field → Except Fault Projection
  | .relationship _ relationship _ => .error (.relationshipField relationship)
  | .column column none => do
      let _ ← scope.property column
      return .path ⟨scope.aliasName, [column]⟩
  | .column column (some nested) => do
      let property ← scope.property column
      underAlias aliasName
        (subquery schema ⟨scope.aliasName, [column]⟩ property.type column depth bound nested)

def columnsOfFields (schema : Schema) (scope : Scope) (depth : Nat) (bound : List String) :
    List (String × Field) → Except Fault (List (String × Projection))
  | [] => .ok []
  | (aliasName, field) :: rest => do
      let column ← columnOfField schema scope depth bound aliasName field
      return (aliasName, column) :: (← columnsOfFields schema scope depth bound rest)

/-- A subquery selects from inside one object or from the elements of an array. -/
def subquery (schema : Schema) (source : Path) (type : ValueType) (field : String) (depth : Nat)
    (enclosing : List String) : Selection → Except Fault Projection
  | .object fields =>
      let aliasName := Alias.unique (subqueryPrefix ++ field) enclosing depth
      match type.required with
      | .named name .object => do
          let object ← schema.lookUpObject name
          checkDepth (depth + 1)
          let columns ← columnsOfFields schema ⟨aliasName, name, object⟩ (depth + 1)
            (enclosing ++ [aliasName]) fields
          return .subquery { columns, origin := some (.aliased source aliasName) }
      | _ => .error (.selectionMismatch field)
  | .array elements =>
      let aliasName := Alias.unique (subqueryPrefix ++ field) enclosing depth
      match type.required with
      | .array element => do
          let select ←
            selectElements schema source aliasName element (depth + 1) enclosing elements
          return .subquery select
      | _ => .error (.selectionMismatch field)

/-- The elements of an array of arrays are arrays again, and each level binds an alias of its
own. -/
def selectElements (schema : Schema) (source : Path) (aliasName : String) (element : ValueType)
    (depth : Nat) (enclosing : List String) : Selection → Except Fault Select
  | .object fields => do
      checkDepth depth
      match element.required with
      | .named name .object =>
          let object ← schema.lookUpObject name
          let columns ← columnsOfFields schema ⟨aliasName, name, object⟩ depth
            (enclosing ++ [aliasName]) fields
          return { columns, origin := some (.iterated source aliasName), asArray := true }
      | _ => .error (.elementSelectionMismatch aliasName)
  | .array elements => do
      checkDepth depth
      match element.required with
      | .array inner =>
          let bound := enclosing ++ [aliasName]
          let innerAlias := Alias.unique (Alias.numbered aliasName depth) bound depth
          let select ←
            selectElements schema (.ofAlias aliasName) innerAlias inner (depth + 1) bound elements
          return { columns := [(aliasName, .subquery select)],
                   origin := some (.iterated source aliasName), asValue := true, asArray := true }
      | _ => .error (.elementSelectionMismatch aliasName)

end

/-- The outermost statement selects at depth one and has no statement around it. -/
def columns (schema : Schema) (scope : Scope) (fields : Table Field) :
    Except Fault (Table Projection) := do
  checkDepth 1
  columnsOfFields schema scope 1 [scope.aliasName] fields

end DocumentQuery.Selection
