/-
This file defines schemas: collections and the types of their documents.
-/

import DocumentQuery.Schema.Type
import DocumentQuery.Table

namespace DocumentQuery

structure Argument where
  name : String
  description : Option String
  type : ValueType
  deriving DecidableEq

structure Collection where
  description : Option String
  arguments : List Argument
  resultType : ValueType
  deriving DecidableEq

structure Property where
  propertyName : Option String
  description : Option String
  type : ValueType
  deriving DecidableEq

structure ObjectType where
  description : Option String
  properties : Table Property
  deriving DecidableEq

/-- A declared scalar type is only a name. -/
structure ScalarType where
  deriving DecidableEq

structure Schema where
  collections : Table Collection
  objectTypes : Table ObjectType
  scalarTypes : Table ScalarType
  deriving DecidableEq

namespace Schema

def collection? (schema : Schema) (name : String) : Option Collection :=
  schema.collections.entry? name

def objectType? (schema : Schema) (name : String) : Option ObjectType :=
  schema.objectTypes.entry? name

def knowsScalar (schema : Schema) (name : String) : Bool :=
  let declared := schema.scalarTypes.entry? name
  (BuiltInScalar.ofName? name).isSome || declared.isSome

end Schema

def ObjectType.property? (object : ObjectType) (name : String) : Option Property :=
  object.properties.entry? name

end DocumentQuery
