/-
This file checks the names and type references of a schema and reports the first violation.
-/

import DocumentQuery.Identifier
import DocumentQuery.Schema.Basic

namespace DocumentQuery

inductive NameKind where
  | collection
  | objectType
  | property
  deriving DecidableEq, Repr

def NameKind.text : NameKind → String
  | .collection => "collection"
  | .objectType => "object type"
  | .property => "property"

/-- A referrer is the part of a schema that names a type. -/
inductive Referrer where
  | collection (name : String)
  | property (objectType name : String)
  deriving DecidableEq, Repr

def Referrer.text : Referrer → String
  | .collection name => "collection '" ++ name ++ "'"
  | .property objectType name => "property '" ++ objectType ++ "." ++ name ++ "'"

inductive SchemaViolation where
  | invalidIdentifier (kind : NameKind) (name : String)
  | reservedCollectionName (name : String)
  | invalidCollectionType (collection : String)
  | unknownObjectType (name : String) (referrer : Referrer)
  | unknownScalarType (name : String) (referrer : Referrer)
  deriving DecidableEq, Repr

def SchemaViolation.message : SchemaViolation → String
  | .invalidIdentifier kind name =>
      "Invalid " ++ kind.text ++ " name '" ++ name ++
        "': names must match [A-Za-z_][A-Za-z0-9_]*"
  | .reservedCollectionName name =>
      "Collection name '" ++ name ++ "' is a keyword of the query language"
  | .invalidCollectionType collection =>
      "Collection '" ++ collection ++ "' must have a named object result type"
  | .unknownObjectType name referrer =>
      "Unknown object type '" ++ name ++ "' referenced by " ++ referrer.text
  | .unknownScalarType name referrer =>
      "Unknown scalar type '" ++ name ++ "' referenced by " ++ referrer.text

namespace Schema

def checkName (kind : NameKind) (name : String) : Except SchemaViolation Unit :=
  if Identifier.isSafe name then .ok ()
  else .error (.invalidIdentifier kind name)

/-- A collection stands in the text by its name, where no quotes are available. -/
def checkCollection (schema : Schema) (name : String) (collection : Collection) :
    Except SchemaViolation Unit := do
  checkName .collection name
  if Identifier.isKeyword name then throw (.reservedCollectionName name)
  match collection.resultType.required with
  | .named typeName .object =>
      if (schema.objectType? typeName).isNone then
        throw (.unknownObjectType typeName (.collection name))
  | _ => throw (.invalidCollectionType name)

def checkReference (schema : Schema) (referrer : Referrer) (type : ValueType) :
    Except SchemaViolation Unit :=
  match type.base with
  | (name, .object) =>
      if (schema.objectType? name).isSome then .ok ()
      else .error (.unknownObjectType name referrer)
  | (name, .scalar) =>
      if schema.knowsScalar name then .ok ()
      else .error (.unknownScalarType name referrer)

def checkProperty (schema : Schema) (objectName name : String) (property : Property) :
    Except SchemaViolation Unit := do
  checkName .property name
  schema.checkReference (.property objectName name) property.type

def checkObjectType (schema : Schema) (name : String) (object : ObjectType) :
    Except SchemaViolation Unit := do
  checkName .objectType name
  object.properties.forM fun (propertyName, property) =>
    schema.checkProperty name propertyName property

/-- Collections are checked before object types, each in order. -/
def validate (schema : Schema) : Except SchemaViolation Unit := do
  schema.collections.forM fun (name, collection) => schema.checkCollection name collection
  schema.objectTypes.forM fun (name, object) => schema.checkObjectType name object

end Schema

end DocumentQuery
