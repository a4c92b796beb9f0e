/-
This file says what the checks of a schema establish.
-/

import DocumentQuery.Proofs.Attempt
import DocumentQuery.Proofs.Table
import DocumentQuery.Schema.Validation

namespace DocumentQuery

/-- The name of every property can be written in a path. -/
def ObjectType.HasSafeNames (object : ObjectType) : Prop :=
  ∀ name property, object.property? name = some property → Identifier.isSafe name

namespace Schema

variable {schema : Schema}

/-- The name of every collection can be written as it is. -/
structure HasSafeNames (schema : Schema) : Prop where
  collections : ∀ name collection, schema.collection? name = some collection →
    Identifier.isPlain name
  objects : ∀ name object, schema.objectType? name = some object → object.HasSafeNames

/-- A name passes its check exactly when it is safe. -/
theorem checkName_ok {kind : NameKind} {name : String} {done : Unit} :
    checkName kind name = .ok done ↔ Identifier.isSafe name := by
  unfold checkName
  split <;> simp_all

/-- A collection passes when its name is plain and its documents have a declared object type. -/
theorem checkCollection_ok {name : String} {collection : Collection} {done : Unit} :
    schema.checkCollection name collection = .ok done ↔
      Identifier.isPlain name ∧
        ∃ typeName object, collection.resultType.required = .named typeName .object ∧
          schema.objectType? typeName = some object := by
  unfold checkCollection
  simp only [Attempt.bind_eq_ok_iff, checkName_ok, exists_const, Identifier.isPlain,
    Bool.and_eq_true, Bool.not_eq_true', and_assoc]
  refine and_congr_right fun safe => ?_
  by_cases keyword : Identifier.isKeyword name
  · simp [keyword]
  · cases shape : collection.resultType.required with
    | array element => simp [keyword]
    | nullable underlying absence => simp [keyword]
    | named typeName kind =>
        cases kind with
        | scalar => simp [keyword]
        | object => cases known : schema.objectType? typeName <;> simp [keyword, known]

/-- A property passes when its name is safe and its type refers to what is declared. -/
theorem checkProperty_ok {objectName name : String} {property : Property} {done : Unit} :
    schema.checkProperty objectName name property = .ok done ↔
      Identifier.isSafe name ∧
        schema.checkReference (.property objectName name) property.type = .ok () := by
  simp only [checkProperty, Attempt.bind_eq_ok_iff, checkName_ok, exists_const]

/-- An object type passes when its name is safe and each of its properties passes. -/
theorem checkObjectType_ok {name : String} {object : ObjectType} {done : Unit} :
    schema.checkObjectType name object = .ok done ↔
      Identifier.isSafe name ∧ ∀ entry ∈ object.properties,
        schema.checkProperty name entry.1 entry.2 = .ok () := by
  simp only [checkObjectType, Attempt.bind_eq_ok_iff, checkName_ok, exists_const,
    Attempt.forM_eq_ok_iff]

/-- A schema is valid exactly when each of its collections and object types passes. -/
theorem validate_ok :
    schema.validate = .ok () ↔
      (∀ entry ∈ schema.collections, schema.checkCollection entry.1 entry.2 = .ok ()) ∧
        ∀ entry ∈ schema.objectTypes, schema.checkObjectType entry.1 entry.2 = .ok () := by
  simp only [validate, Attempt.bind_eq_ok_iff, Attempt.forM_eq_ok_iff, exists_const]

/-- The names of a valid schema can be written in query text. -/
theorem safeNames_of_validate (valid : schema.validate = .ok ()) : schema.HasSafeNames := by
  obtain ⟨collections, objects⟩ := validate_ok.mp valid
  constructor
  · intro name collection known
    have checked := collections _ (Table.mem_of_entry known)
    exact (checkCollection_ok.mp checked).1
  · intro name object known field property located
    have checked := objects _ (Table.mem_of_entry known)
    have inside := (checkObjectType_ok.mp checked).2 _ (Table.mem_of_entry located)
    exact (checkProperty_ok.mp inside).1

end Schema

end DocumentQuery
