/-
This file proves that names, columns and field paths resolve alike without the nullable wrappers of
a schema.
-/

import DocumentQuery.Proofs.Nullability.Types
import Mathlib.Control.Monad.Basic

namespace DocumentQuery

variable {schema : Schema} {scope : Scope}

/-- The bare schema has the same collections without their wrappers. -/
theorem Schema.collection?_bare (name : String) :
    schema.bare.collection? name = (schema.collection? name).map Collection.bare :=
  Table.entry_map schema.collections Collection.bare name

theorem Schema.objectType?_bare (name : String) :
    schema.bare.objectType? name = (schema.objectType? name).map ObjectType.bare :=
  Table.entry_map schema.objectTypes ObjectType.bare name

theorem ObjectType.property?_bare (object : ObjectType) (name : String) :
    object.bare.property? name = (object.property? name).map Property.bare :=
  Table.entry_map object.properties Property.bare name

/-- A bare scope has the same columns without their wrappers. -/
theorem Scope.property_bare (column : String) :
    scope.bare.property column = Property.bare <$> scope.property column := by
  rw [property, property, bare, ObjectType.property?_bare]
  cases scope.object.property? column <;> rfl

namespace Schema

/-- An object type is looked up alike in the bare schema. -/
theorem lookUpObject_bare (name : String) :
    schema.bare.lookUpObject name = ObjectType.bare <$> schema.lookUpObject name := by
  rw [lookUpObject, lookUpObject, objectType?_bare]
  cases schema.objectType? name <;> rfl

/-- A property is looked up alike in the bare schema. -/
theorem lookUpNested_bare (objectName field : String) :
    schema.bare.lookUpNested objectName field =
      Property.bare <$> schema.lookUpNested objectName field := by
  simp only [lookUpNested, lookUpObject_bare, bind_map_left, map_bind, ObjectType.property?_bare]
  congr 1
  funext object
  cases object.property? field <;> rfl

/-- A step of a path goes to the same type without its wrappers. -/
theorem stepInto_bare (whole : List String) (type : ValueType) (field : String) :
    schema.bare.stepInto whole type.bare field =
      ValueType.bare <$> schema.stepInto whole type field := by
  rw [stepInto, stepInto, ValueType.required_bare]
  rcases type.required_cases with ⟨element, required⟩ | ⟨name, kind, required⟩
  · rw [required]
    rfl
  · rw [required]
    cases kind with
    | scalar => rfl
    | object =>
        simp only [ValueType.bare, lookUpNested_bare]
        cases schema.lookUpNested name field <;> rfl

/-- A path of steps goes to the same type without its wrappers. -/
theorem steps_bare (whole fieldPath : List String) (type : ValueType) :
    fieldPath.foldlM (schema.bare.stepInto whole) type.bare =
      ValueType.bare <$> fieldPath.foldlM (schema.stepInto whole) type := by
  induction fieldPath generalizing type with
  | nil => rfl
  | cons field rest continued =>
      simp only [List.foldlM_cons, stepInto_bare, bind_map_left, map_bind, continued]

end Schema

/-- An object path is the same over the bare schema, and it ends at the bare type. -/
theorem Scope.objectPath_bare (column : String) (fieldPath : List String) :
    scope.bare.objectPath schema.bare column fieldPath =
      (fun found => (found.1, found.2.bare)) <$> scope.objectPath schema column fieldPath := by
  simp only [objectPath, property_bare, bind_map_left, Property.bare, Schema.steps_bare, map_bind,
    map_pure, aliasName_bare]

namespace Chain

/-- Nullable wrappers are skipped while arrays are opened. -/
theorem throughArrays_bare {atName other : Option String → String → NamedKind → Except Fault Chain}
    (same : ∀ pending name kind, atName pending name kind = other pending name kind)
    (pending : Option String) (type : ValueType) :
    throughArrays atName pending type.bare = throughArrays other pending type := by
  induction type generalizing pending with
  | named name kind => exact same pending name kind
  | nullable underlying absence continued => exact continued pending
  | array element continued => rw [ValueType.bare, throughArrays, throughArrays, continued]

/-- The induction is on the path, because the next type is looked up in the schema. -/
theorem follow_bare (pathEnd : PathEnd) (fieldPath : List String) (pending : Option String)
    (type : ValueType) :
    follow schema.bare pathEnd fieldPath pending type.bare =
      follow schema pathEnd fieldPath pending type := by
  induction fieldPath generalizing pending type with
  | nil =>
      cases pathEnd with
      | anyValue => rfl
      | scalar =>
          refine throughArrays_bare (fun pending name kind => ?_) pending type
          cases kind with
          | scalar => rfl
          | object => simp only [Schema.lookUpObject_bare, bind_map_left]
  | cons field rest continued =>
      refine throughArrays_bare (fun pending name kind => ?_) pending type
      cases kind with
      | scalar => rfl
      | object => simp only [Schema.lookUpNested_bare, bind_map_left, Property.bare, continued]

/-- The chain of a column is the same over the bare schema. -/
theorem ofColumn_bare (pathEnd : PathEnd) (column : String) (type : ValueType)
    (fieldPath : List String) :
    ofColumn schema.bare pathEnd column type.bare fieldPath =
      ofColumn schema pathEnd column type fieldPath := by
  simp only [ofColumn, follow_bare]

end Chain

end DocumentQuery
