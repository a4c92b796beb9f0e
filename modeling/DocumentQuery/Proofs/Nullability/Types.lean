/-
This file compares schemas whose types differ in nullable wrappers only, and it removes the wrappers
from a schema.
-/

import DocumentQuery.Proofs.Resolution
import DocumentQuery.Proofs.Table

namespace DocumentQuery

namespace ValueType

/-- The same arrays stand around the same named type. A nullable wrapper may stand anywhere on
either side, any number of times. -/
inductive SameButNullable : ValueType → ValueType → Prop
  | named (name : String) (kind : NamedKind) : SameButNullable (.named name kind) (.named name kind)
  | array {element other : ValueType} (inside : SameButNullable element other) :
      SameButNullable (.array element) (.array other)
  | left {underlying other : ValueType} (absence : Option Absence)
      (inside : SameButNullable underlying other) :
      SameButNullable (.nullable underlying absence) other
  | right {type underlying : ValueType} (absence : Option Absence)
      (inside : SameButNullable type underlying) :
      SameButNullable type (.nullable underlying absence)

/-- A bare type has no nullable wrappers, neither outside its arrays nor inside them. -/
@[simp] def bare : ValueType → ValueType
  | .array element => .array element.bare
  | .nullable underlying _ => underlying.bare
  | .named name kind => .named name kind

/-- Types that differ in nullable wrappers only have one bare type. -/
theorem SameButNullable.bare_eq {type other : ValueType} (same : type.SameButNullable other) :
    type.bare = other.bare := by
  induction same with
  | named name kind => rfl
  | array _ continued => rw [bare, bare, continued]
  | left absence _ continued => exact continued
  | right absence _ continued => exact continued

/-- Types with one bare type differ in nullable wrappers only. -/
theorem SameButNullable.of_bare {type other : ValueType} (same : type.bare = other.bare) :
    type.SameButNullable other := by
  induction type generalizing other with
  | nullable underlying absence continued => exact .left absence (continued same)
  | named name kind =>
      induction other with
      | nullable underlying absence unwrapped => exact .right absence (unwrapped same)
      | array element => cases same
      | named other kind' =>
          cases same
          exact .named name kind
  | array element continued =>
      induction other with
      | nullable underlying absence unwrapped => exact .right absence (unwrapped same)
      | array other => exact .array (continued (ValueType.array.inj same))
      | named other kind => cases same

/-- Nullable wrappers are all that a bare type leaves out. -/
theorem sameButNullable_iff {type other : ValueType} :
    type.SameButNullable other ↔ type.bare = other.bare :=
  ⟨SameButNullable.bare_eq, SameButNullable.of_bare⟩

/-- A bare type keeps its named type. -/
theorem base_bare (type : ValueType) : type.bare.base = type.base := by
  induction type with
  | named name kind => rfl
  | array element continued => exact continued
  | nullable underlying absence continued => exact continued

/-- Taking off the outer wrappers first makes no difference to the bare type. -/
theorem required_bare (type : ValueType) : type.bare.required = type.required.bare := by
  induction type with
  | named name kind => rfl
  | array element => rfl
  | nullable underlying absence continued => exact continued

end ValueType

/-- Only the nullable wrappers of the type may differ. -/
structure Property.SameButNullable (property other : Property) : Prop where
  propertyName : property.propertyName = other.propertyName
  description : property.description = other.description
  type : property.type.SameButNullable other.type

/-- Only the nullable wrappers of property types may differ. -/
structure ObjectType.SameButNullable (object other : ObjectType) : Prop where
  description : object.description = other.description
  properties : object.properties.Related (fun _ => Property.SameButNullable) other.properties

/-- Only the nullable wrappers of the result type may differ. -/
structure Collection.SameButNullable (collection other : Collection) : Prop where
  description : collection.description = other.description
  arguments : collection.arguments = other.arguments
  resultType : collection.resultType.SameButNullable other.resultType

/-- Only the nullable wrappers of property types and of result types may differ. -/
structure Schema.SameButNullable (schema other : Schema) : Prop where
  collections : schema.collections.Related (fun _ => Collection.SameButNullable) other.collections
  objectTypes : schema.objectTypes.Related (fun _ => ObjectType.SameButNullable) other.objectTypes
  scalarTypes : schema.scalarTypes = other.scalarTypes

def Property.bare (property : Property) : Property :=
  { property with type := property.type.bare }

def ObjectType.bare (object : ObjectType) : ObjectType :=
  { object with properties := object.properties.map fun entry => (entry.1, entry.2.bare) }

def Collection.bare (collection : Collection) : Collection :=
  { collection with resultType := collection.resultType.bare }

/-- A bare schema has no nullable wrappers in its property types and result types. -/
def Schema.bare (schema : Schema) : Schema :=
  { schema with
    collections := schema.collections.map fun entry => (entry.1, entry.2.bare)
    objectTypes := schema.objectTypes.map fun entry => (entry.1, entry.2.bare) }

def Scope.bare (scope : Scope) : Scope :=
  { scope with object := scope.object.bare }

theorem Scope.bare_mk (aliasName objectName : String) (object : ObjectType) :
    bare ⟨aliasName, objectName, object⟩ = ⟨aliasName, objectName, object.bare⟩ :=
  rfl

@[simp] theorem Scope.aliasName_bare (scope : Scope) : scope.bare.aliasName = scope.aliasName :=
  rfl

/-- Properties differ in nullable wrappers only when their bare forms are the same. -/
theorem Property.sameButNullable_iff (property other : Property) :
    property.SameButNullable other ↔ property.bare = other.bare := by
  rw [bare, bare, Property.mk.injEq, ← ValueType.sameButNullable_iff]
  constructor
  · rintro ⟨propertyName, description, type⟩
    exact ⟨propertyName, description, type⟩
  · rintro ⟨propertyName, description, type⟩
    exact ⟨propertyName, description, type⟩

theorem ObjectType.sameButNullable_iff (object other : ObjectType) :
    object.SameButNullable other ↔ object.bare = other.bare := by
  rw [bare, bare, ObjectType.mk.injEq, ← Table.related_iff Property.sameButNullable_iff]
  constructor
  · rintro ⟨description, properties⟩
    exact ⟨description, properties⟩
  · rintro ⟨description, properties⟩
    exact ⟨description, properties⟩

theorem Collection.sameButNullable_iff (collection other : Collection) :
    collection.SameButNullable other ↔ collection.bare = other.bare := by
  rw [bare, bare, Collection.mk.injEq, ← ValueType.sameButNullable_iff]
  constructor
  · rintro ⟨description, arguments, resultType⟩
    exact ⟨description, arguments, resultType⟩
  · rintro ⟨description, arguments, resultType⟩
    exact ⟨description, arguments, resultType⟩

/-- Schemas differ in nullable wrappers only when they have the same bare schema. -/
theorem Schema.sameButNullable_iff {schema other : Schema} :
    schema.SameButNullable other ↔ schema.bare = other.bare := by
  rw [bare, bare, Schema.mk.injEq, ← Table.related_iff Collection.sameButNullable_iff,
    ← Table.related_iff ObjectType.sameButNullable_iff]
  constructor
  · rintro ⟨collections, objectTypes, scalarTypes⟩
    exact ⟨collections, objectTypes, scalarTypes⟩
  · rintro ⟨collections, objectTypes, scalarTypes⟩
    exact ⟨collections, objectTypes, scalarTypes⟩

instance (schema other : Schema) : Decidable (schema.SameButNullable other) :=
  decidable_of_iff _ Schema.sameButNullable_iff.symm

end DocumentQuery
