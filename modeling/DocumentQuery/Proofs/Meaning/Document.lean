/-
This file gives paths and types their meaning on documents.
-/

import DocumentQuery.Json.Basic
import DocumentQuery.Proofs.Resolution
import DocumentQuery.Proofs.Table
import DocumentQuery.Schema.Basic
import DocumentQuery.Statement.Path

namespace DocumentQuery

/-- A path that leaves the document finds nothing. -/
abbrev Found := Option Json

namespace Found

/-- Only an object has properties. -/
def property (field : String) (found : Found) : Found :=
  found.bind (Json.member? field)

/-- An unnamed step stays where it is. -/
def propertyMaybe : Option String → Found → Found
  | none, found => found
  | some field, found => property field found

/-- A path is followed from one property to the next. -/
def along (fields : List String) (found : Found) : Found :=
  fields.foldl (fun found field => property field found) found

/-- Only an array has elements. -/
def elements : Found → List Json
  | some (.array items) => items
  | _ => []

@[simp] theorem along_nil (found : Found) : along [] found = found := rfl

@[simp] theorem along_cons (field : String) (rest : List String) (found : Found) :
    along (field :: rest) found = along rest (property field found) := rfl

end Found

/-- The innermost binder of an alias comes first. -/
abbrev Bindings := Table Json

/-- A path starts at the value of its alias. -/
def Path.find (path : Path) (bindings : Bindings) : Found :=
  Found.along path.fields <| bindings.entry? path.aliasName

/-- A part is a value at a named type. -/
structure Part where
  name : String
  kind : NamedKind
  found : Found

/-- The parts of a value lie inside the nullable and array wrappers of its type. -/
def ValueType.parts : ValueType → Found → List Part
  | .nullable underlying _, found => underlying.parts found
  | .array element, found => (Found.elements found).flatMap fun item => element.parts (some item)
  | .named name kind, found => [⟨name, kind, found⟩]

/-- The outer nullable wrappers hide no part of a value. -/
theorem ValueType.parts_required (type : ValueType) (found : Found) :
    type.required.parts found = type.parts found := by
  induction type with
  | array element => rfl
  | nullable underlying absence unwrapped => exact unwrapped
  | named name kind => rfl

namespace Schema

/-- A field path passes from each object part to a property of it. The values at its end come with
their types. -/
def reached (schema : Schema) : List String → ValueType → Found → List (ValueType × Found)
  | [], type, found => [(type, found)]
  | field :: rest, type, found =>
      (type.parts found).flatMap fun part =>
        match part.kind, schema.nested? part.name field with
        | .object, some property =>
            schema.reached rest property.type (Found.property field part.found)
        | _, _ => []

end Schema

/-- A place is a value of a document with its object type. -/
structure Place where
  object : ObjectType
  value : Json

namespace Place

def reached (schema : Schema) (place : Place) (column : String) (fieldPath : List String) :
    List (ValueType × Found) :=
  match place.object.property? column with
  | none => []
  | some property =>
      schema.reached fieldPath property.type (Found.property column (some place.value))

def find (place : Place) (column : String) (fieldPath : List String) : Found :=
  Found.along (column :: fieldPath) (some place.value)

end Place

/-- An element of an array is a place when its type is a declared object type. -/
def Schema.elementPlace? (schema : Schema) (element : ValueType) (item : Json) : Option Place :=
  match element.required with
  | .named name .object => (schema.objectType? name).map fun object => ⟨object, item⟩
  | _ => none

end DocumentQuery
