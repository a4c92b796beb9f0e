/-
This file describes a schema to clients: every type with the operators and functions it supports.
-/

import DocumentQuery.Operator
import DocumentQuery.Schema.Format

namespace DocumentQuery

/-- An advertised type keeps the wrappers and drops the kind of the name. -/
inductive AdvertisedType where
  | named (name : String)
  | nullable (underlying : AdvertisedType)
  | array (element : AdvertisedType)
  deriving DecidableEq, Repr

inductive AdvertisedComparison where
  | equal
  | custom (argument : AdvertisedType)
  deriving DecidableEq, Repr

structure AdvertisedScalar where
  aggregates : Table AdvertisedType
  comparisons : Table AdvertisedComparison
  deriving DecidableEq, Repr

/-- A field or argument is advertised by its description and type. -/
structure AdvertisedField where
  description : Option String
  type : AdvertisedType
  deriving DecidableEq, Repr

structure AdvertisedObject where
  description : Option String
  fields : Table AdvertisedField
  deriving DecidableEq, Repr

structure AdvertisedCollection where
  name : String
  description : Option String
  arguments : Table AdvertisedField
  type : String
  deriving DecidableEq, Repr

structure Advertisement where
  scalarTypes : Table AdvertisedScalar
  objectTypes : Table AdvertisedObject
  collections : List AdvertisedCollection
  deriving DecidableEq, Repr

namespace AdvertisedType

def ofType : ValueType → AdvertisedType
  | .array element => .array (ofType element)
  | .nullable underlying _ => .nullable (ofType underlying)
  | .named name _ => .named name

def toJson : AdvertisedType → Json
  | .named name => .object [("type", .string "named"), ("name", .string name)]
  | .nullable underlying =>
      .object [("type", .string "nullable"), ("underlying_type", underlying.toJson)]
  | .array element => .object [("type", .string "array"), ("element_type", element.toJson)]

end AdvertisedType

def AdvertisedComparison.toJson : AdvertisedComparison → Json
  | .equal => .object [("type", .string "equal")]
  | .custom argument =>
      .object [("type", .string "custom"), ("argument_type", argument.toJson)]

namespace AdvertisedScalar

/-- The null test belongs to every type and is not advertised. -/
def comparisonsOf (scalarType : String) (operators : Operators) : Table AdvertisedComparison :=
  (operators.comparisons.filter fun operator => operator.name ≠ Operators.isNull.name).map
    fun operator =>
      (operator.name, if operator.name = "eq" then .equal else .custom (.named scalarType))

def aggregatesOf (scalarType : String) (operators : Operators) : Table AdvertisedType :=
  operators.aggregates.map fun function => (function.name, .named (function.resultName scalarType))

def ofName (scalarType : String) : AdvertisedScalar :=
  match Operators.ofScalar? scalarType with
  | none => ⟨[], []⟩
  | some operators => ⟨aggregatesOf scalarType operators, comparisonsOf scalarType operators⟩

def toJson (scalar : AdvertisedScalar) : Json :=
  .object [
    ("aggregate_functions",
      .ofTable (fun result => .object [("result_type", result.toJson)]) scalar.aggregates),
    ("comparison_operators", .ofTable AdvertisedComparison.toJson scalar.comparisons)]

end AdvertisedScalar

def AdvertisedField.toJson (field : AdvertisedField) : Json :=
  .object [("description", .ofOption .string field.description), ("type", field.type.toJson)]

namespace AdvertisedObject

def ofObjectType (object : ObjectType) : AdvertisedObject :=
  ⟨object.description, object.properties.map fun (name, property) =>
    (name, ⟨property.description, .ofType property.type⟩)⟩

def toJson (object : AdvertisedObject) : Json :=
  .object [("description", .ofOption .string object.description),
    ("fields", .ofTable AdvertisedField.toJson object.fields)]

end AdvertisedObject

namespace AdvertisedCollection

def ofCollection (name : String) (collection : Collection) : AdvertisedCollection :=
  ⟨name, collection.description,
    Table.ofEntries (collection.arguments.map fun argument =>
      (argument.name, ⟨argument.description, .ofType argument.type⟩)),
    collection.resultType.base.1⟩

def toJson (collection : AdvertisedCollection) : Json :=
  .object [("name", .string collection.name),
    ("description", .ofOption .string collection.description),
    ("arguments", .ofTable AdvertisedField.toJson collection.arguments),
    ("type", .string collection.type),
    ("uniqueness_constraints", .object []),
    ("foreign_keys", .object [])]

end AdvertisedCollection

namespace Advertisement

/-- The built-in scalar types come first. -/
def ofSchema (schema : Schema) : Advertisement where
  scalarTypes := Table.ofEntries
    ((BuiltInScalar.all.map BuiltInScalar.name ++ schema.scalarTypes.names).map fun name =>
      (name, AdvertisedScalar.ofName name))
  objectTypes := schema.objectTypes.map fun (name, object) =>
    (name, AdvertisedObject.ofObjectType object)
  collections := schema.collections.map fun (name, collection) =>
    AdvertisedCollection.ofCollection name collection

def toJson (advertisement : Advertisement) : Json :=
  .object [("scalar_types", .ofTable AdvertisedScalar.toJson advertisement.scalarTypes),
    ("object_types", .ofTable AdvertisedObject.toJson advertisement.objectTypes),
    ("collections", .ofList AdvertisedCollection.toJson advertisement.collections),
    ("functions", .array []),
    ("procedures", .array [])]

end Advertisement

end DocumentQuery
