/-
This file resolves columns and field paths in the scope of an alias.
-/

import DocumentQuery.Fault
import DocumentQuery.Schema.Basic
import DocumentQuery.Statement.Path

namespace DocumentQuery

/-- A scope binds an alias to documents of an object type. -/
structure Scope where
  aliasName : String
  objectName : String
  object : ObjectType
  deriving DecidableEq

namespace Schema

def lookUpObject (schema : Schema) (name : String) : Except Fault ObjectType :=
  match schema.objectType? name with
  | some object => .ok object
  | none => .error (.unknownObjectType name)

/-- A field is looked up in a nested object. -/
def lookUpNested (schema : Schema) (objectName field : String) : Except Fault Property := do
  let object ← schema.lookUpObject objectName
  match object.property? field with
  | some property => .ok property
  | none => .error (.unknownNestedField field objectName)

end Schema

def checkFieldPath (fieldPath : List String) : Except Fault Unit :=
  if fieldPath.length ≤ maximumNesting then .ok () else .error .longFieldPath

namespace Scope

def property (scope : Scope) (column : String) : Except Fault Property :=
  match scope.object.property? column with
  | some property => .ok property
  | none => .error (.unknownField column scope.objectName)

end Scope

/-- A test wants a scalar at the end of its path, or takes any value found there. -/
inductive PathEnd where
  | scalar
  | anyValue
  deriving DecidableEq, Repr

namespace Chain

/-- This function opens the arrays around a named type. The pending field belongs to the first link
made. -/
def throughArrays (atName : Option String → String → NamedKind → Except Fault Chain) :
    Option String → ValueType → Except Fault Chain
  | pending, .nullable underlying _ => throughArrays atName pending underlying
  | pending, .array element => (throughArrays atName none element).map (.each pending)
  | pending, .named name kind => atName pending name kind

def afterPending : Option String → Chain → Chain
  | none, next => next
  | some field, next => .property field next

/-- The pending field is the one through which the type was reached. An array element has none. -/
def follow (schema : Schema) (pathEnd : PathEnd) :
    List String → Option String → ValueType → Except Fault Chain
  | [], pending, type =>
      match pathEnd with
      | .anyValue => .ok (.value pending)
      | .scalar =>
          throughArrays (fun pending name kind =>
            match kind with
            | .scalar => .ok (.scalar pending name)
            | .object => do
                let _ ← schema.lookUpObject name
                .error (.fieldPathEndsAtObject name)) pending type
  | field :: rest, pending, type =>
      throughArrays (fun pending name kind =>
        match kind with
        | .scalar => .error .fieldPathThroughScalar
        | .object => do
            let property ← schema.lookUpNested name field
            let next ← follow schema pathEnd rest (some field) property.type
            return afterPending pending next) pending type

/-- The chain begins at a column of the given type. -/
def ofColumn (schema : Schema) (pathEnd : PathEnd) (column : String) (type : ValueType)
    (fieldPath : List String) : Except Fault Chain := do
  checkFieldPath fieldPath
  follow schema pathEnd fieldPath (some column) type

end Chain

namespace Schema

/-- A step leaves an object by one of its properties. The whole path is named when an array is in
the way. -/
def stepInto (schema : Schema) (fieldPath : List String) (type : ValueType) (field : String) :
    Except Fault ValueType :=
  match type.required with
  | .named name .object => (schema.lookUpNested name field).map Property.type
  | .named _ .scalar => .error .fieldPathThroughScalar
  | _ => .error (.fieldPathThroughArray fieldPath)

end Schema

/-- The path crosses objects only, and its type is the type of its last field. -/
def Scope.objectPath (schema : Schema) (scope : Scope) (column : String)
    (fieldPath : List String) : Except Fault (Path × ValueType) := do
  checkFieldPath fieldPath
  let property ← scope.property column
  let type ← fieldPath.foldlM (schema.stepInto fieldPath) property.type
  return (⟨scope.aliasName, column :: fieldPath⟩, type)

end DocumentQuery
