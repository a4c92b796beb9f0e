/-
This file reads and writes the document form of types and schemas.
-/

import DocumentQuery.Json.Build
import DocumentQuery.Json.Record
import DocumentQuery.Schema.Basic

namespace DocumentQuery

open Source

namespace NamedKind

def choices : Table NamedKind :=
  [("object", .object), ("scalar", .scalar)]

def text : NamedKind → String
  | .object => "object"
  | .scalar => "scalar"

end NamedKind

namespace Absence

def choices : Table Absence :=
  [("AcceptsNullOnly", .nullOnly), ("AcceptsUndefinedOnly", .undefinedOnly),
    ("AcceptsEither", .either)]

def text : Absence → String
  | .nullOnly => "AcceptsNullOnly"
  | .undefinedOnly => "AcceptsUndefinedOnly"
  | .either => "AcceptsEither"

end Absence

namespace ValueType

def variants : Variants :=
  [("array", ["elementType"]),
    ("nullable", ["underlyingType", "nullOrUndefinability"]),
    ("named", ["name", "kind"])]

def read? (tagged : Bool) : Nat → Source → Option ValueType
  | 0, _ => none
  | room + 1, source => do
      let (tag, fields) ← source.variant? variants tagged (room + 1)
      match tag with
      | "array" => return .array (← fields.required? "elementType" (read? true room))
      | "nullable" =>
          let underlying ← fields.required? "underlyingType" (read? true room)
          let absence ← fields.optional? "nullOrUndefinability" (choice? Absence.choices true room)
          return .nullable underlying absence
      | "named" =>
          let name ← fields.required? "name" string?
          let kind ← fields.required? "kind" (choice? NamedKind.choices true room)
          return .named name kind
      | _ => none

/-- An unstated absence is left out. -/
def toJson : ValueType → Json
  | .array element => .object [("type", .string "array"), ("elementType", element.toJson)]
  | .nullable underlying none =>
      .object [("type", .string "nullable"), ("underlyingType", underlying.toJson)]
  | .nullable underlying (some absence) =>
      .object [("type", .string "nullable"), ("underlyingType", underlying.toJson),
        ("nullOrUndefinability", .string absence.text)]
  | .named name kind =>
      .object [("type", .string "named"), ("name", .string name), ("kind", .string kind.text)]

def ofJson? (value : Json) : Option ValueType :=
  read? false value.height value.toSource

end ValueType

namespace Argument

def read? : Nat → Source → Option Argument
  | 0, _ => none
  | room + 1, source => do
      let fields ← source.record? ["argumentName", "description", "type"]
      let name ← fields.required? "argumentName" string?
      let description ← fields.optional? "description" string?
      let type ← fields.required? "type" (ValueType.read? false room)
      return ⟨name, description, type⟩

def toJson (argument : Argument) : Json :=
  .object [("argumentName", .string argument.name),
    ("description", .ofOption .string argument.description), ("type", argument.type.toJson)]

end Argument

namespace Collection

def read? : Nat → Source → Option Collection
  | 0, _ => none
  | room + 1, source => do
      let fields ← source.record? ["description", "arguments", "resultType"]
      let description ← fields.optional? "description" string?
      let arguments ← fields.withDefault? "arguments" [] (listOf? Argument.read? room)
      let resultType ← fields.required? "resultType" (ValueType.read? false room)
      return ⟨description, arguments, resultType⟩

def toJson (collection : Collection) : Json :=
  .object [("description", .ofOption .string collection.description),
    ("arguments", .ofList Argument.toJson collection.arguments),
    ("resultType", collection.resultType.toJson)]

end Collection

namespace Property

def read? : Nat → Source → Option Property
  | 0, _ => none
  | room + 1, source => do
      let fields ← source.record? ["propertyName", "description", "type"]
      let propertyName ← fields.optional? "propertyName" string?
      let description ← fields.optional? "description" string?
      let type ← fields.required? "type" (ValueType.read? false room)
      return ⟨propertyName, description, type⟩

/-- An absent property name is left out. -/
def toJson (property : Property) : Json :=
  .object ((match property.propertyName with
      | none => []
      | some name => [("propertyName", .string name)]) ++
    [("description", .ofOption .string property.description), ("type", property.type.toJson)])

end Property

namespace ObjectType

def read? : Nat → Source → Option ObjectType
  | 0, _ => none
  | room + 1, source => do
      let fields ← source.record? ["description", "properties"]
      let description ← fields.optional? "description" string?
      let properties ← fields.required? "properties" (tableOf? Property.read? room)
      return ⟨description, properties⟩

def toJson (object : ObjectType) : Json :=
  .object [("description", .ofOption .string object.description),
    ("properties", .ofTable Property.toJson object.properties)]

end ObjectType

namespace ScalarType

def read? : Nat → Source → Option ScalarType
  | 0, _ => none
  | _ + 1, source => do
      let _ ← source.record? []
      return {}

def toJson (_ : ScalarType) : Json :=
  .object []

end ScalarType

namespace Schema

def read? : Nat → Source → Option Schema
  | 0, _ => none
  | room + 1, source => do
      let fields ← source.record? ["collections", "objectTypes", "scalarTypes"]
      let collections ← fields.required? "collections" (tableOf? Collection.read? room)
      let objectTypes ← fields.required? "objectTypes" (tableOf? ObjectType.read? room)
      let scalarTypes ← fields.withDefault? "scalarTypes" [] (tableOf? ScalarType.read? room)
      return ⟨collections, objectTypes, scalarTypes⟩

def toJson (schema : Schema) : Json :=
  .object [("collections", .ofTable Collection.toJson schema.collections),
    ("objectTypes", .ofTable ObjectType.toJson schema.objectTypes),
    ("scalarTypes", .ofTable ScalarType.toJson schema.scalarTypes)]

def ofJson? (value : Json) : Option Schema :=
  read? value.height value.toSource

def ofText? (text : String) : Option Schema := do
  read? textRoom (← Source.ofText? text)

end Schema

end DocumentQuery
