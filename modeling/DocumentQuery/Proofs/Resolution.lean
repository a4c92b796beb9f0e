/-
This file says when names, columns and field paths resolve.
-/

import DocumentQuery.Compilation.Scope
import DocumentQuery.Proofs.Attempt

namespace DocumentQuery

/-- Removing the outer nullable wrappers keeps the type inside all wrappers. -/
theorem ValueType.required_base (type : ValueType) : type.required.base = type.base := by
  induction type with
  | nullable underlying absence unwrapped => exact unwrapped
  | array element => rfl
  | named name kind => rfl

/-- A required type that is named is its own base. -/
theorem ValueType.base_of_required {type : ValueType} {name : String} {kind : NamedKind}
    (required : type.required = .named name kind) : type.base = (name, kind) := by
  rw [← required_base, required]
  rfl

/-- Without its outer nullable wrappers, a type is an array or is named. -/
theorem ValueType.required_cases (type : ValueType) :
    (∃ element, type.required = .array element) ∨
      ∃ name kind, type.required = .named name kind := by
  induction type with
  | nullable underlying absence unwrapped => exact unwrapped
  | array element => exact .inl ⟨element, rfl⟩
  | named name kind => exact .inr ⟨name, kind, rfl⟩

namespace Schema

/-- A field of a declared object type is a property of it. -/
def nested? (schema : Schema) (objectName field : String) : Option Property :=
  (schema.objectType? objectName).bind fun object => object.property? field

/-- An object type is looked up exactly when it is declared. -/
theorem lookUpObject_ok {schema : Schema} {name : String} {object : ObjectType} :
    schema.lookUpObject name = .ok object ↔ schema.objectType? name = some object := by
  unfold lookUpObject
  cases schema.objectType? name <;> simp

/-- A nested field is looked up exactly when a declared object type has it. -/
theorem lookUpNested_ok {schema : Schema} {name field : String} {property : Property} :
    schema.lookUpNested name field = .ok property ↔ schema.nested? name field = some property := by
  simp only [lookUpNested, Attempt.bind_eq_ok_iff, lookUpObject_ok, nested?,
    Option.bind_eq_some_iff]
  constructor
  · intro accepted
    obtain ⟨object, known, located⟩ := accepted
    refine ⟨object, known, ?_⟩
    split at located <;> simp_all
  · intro accepted
    obtain ⟨object, known, located⟩ := accepted
    exact ⟨object, known, by rw [located]⟩

end Schema

/-- A field path is accepted exactly up to the limit of nesting. -/
theorem checkFieldPath_ok {fieldPath : List String} {done : Unit} :
    checkFieldPath fieldPath = .ok done ↔ fieldPath.length ≤ maximumNesting := by
  unfold checkFieldPath
  split <;> simp_all

/-- A column resolves exactly when the object of the scope has it. -/
theorem Scope.property_ok {scope : Scope} {column : String} {property : Property} :
    scope.property column = .ok property ↔ scope.object.property? column = some property := by
  unfold Scope.property
  cases scope.object.property? column <;> simp

/-- A column has a chain exactly when its path is short enough and can be followed. -/
theorem Chain.ofColumn_ok {schema : Schema} {pathEnd : PathEnd} {column : String} {type : ValueType}
    {fieldPath : List String} {chain : Chain} :
    Chain.ofColumn schema pathEnd column type fieldPath = .ok chain ↔
      fieldPath.length ≤ maximumNesting ∧
        Chain.follow schema pathEnd fieldPath (some column) type = .ok chain := by
  simp only [Chain.ofColumn, Attempt.bind_eq_ok_iff, checkFieldPath_ok]
  constructor
  · rintro ⟨_, short, resolved⟩
    exact ⟨short, resolved⟩
  · rintro ⟨short, resolved⟩
    exact ⟨(), short, resolved⟩

namespace Schema

/-- Each field of the path is a property of the declared object type before it. -/
inductive Crosses (schema : Schema) : ValueType → List String → ValueType → Prop
  | here (type : ValueType) : Crosses schema type [] type
  | field {type last : ValueType} {name field : String} {property : Property} {rest : List String}
      (required : type.required = .named name .object)
      (located : schema.nested? name field = some property)
      (onward : Crosses schema property.type rest last) : Crosses schema type (field :: rest) last

/-- A step leads from a declared object type to one of its properties. -/
theorem stepInto_ok {schema : Schema} {fieldPath : List String} {type next : ValueType}
    {field : String} :
    schema.stepInto fieldPath type field = .ok next ↔
      ∃ name property, type.required = .named name .object ∧
        schema.nested? name field = some property ∧ property.type = next := by
  unfold stepInto
  split
  next name required =>
    simp only [Attempt.map_eq_ok_iff, lookUpNested_ok, required, ValueType.named.injEq, and_true]
    constructor
    · intro accepted
      obtain ⟨property, located, same⟩ := accepted
      exact ⟨name, property, rfl, located, same⟩
    · intro accepted
      obtain ⟨_, property, rfl, located, same⟩ := accepted
      exact ⟨property, located, same⟩
  next name required => simp [required]
  next noObject noScalar =>
    constructor
    · intro failed
      cases failed
    · intro accepted
      obtain ⟨name, _, required, _⟩ := accepted
      exact absurd required (noObject name)

/-- The steps of a path succeed exactly where the path crosses declared object types. -/
theorem steps_ok {schema : Schema} {whole fieldPath : List String} {type last : ValueType} :
    fieldPath.foldlM (schema.stepInto whole) type = .ok last ↔
      schema.Crosses type fieldPath last := by
  induction fieldPath generalizing type with
  | nil =>
      simp only [List.foldlM_nil, Attempt.pure_eq_ok_iff]
      constructor
      · rintro rfl
        exact .here type
      · intro accepted
        obtain ⟨⟩ := accepted
        rfl
  | cons field rest onward =>
      simp only [List.foldlM_cons, Attempt.bind_eq_ok_iff, stepInto_ok, onward]
      constructor
      · intro accepted
        obtain ⟨_, ⟨name, property, required, located, rfl⟩, crossed⟩ := accepted
        exact .field required located crossed
      · rintro (_ | ⟨required, located, crossed⟩)
        exact ⟨_, ⟨_, _, required, located, rfl⟩, crossed⟩

/-- A path through objects ends at one type only. -/
theorem Crosses.unique {schema : Schema} {type first second : ValueType} {fieldPath : List String}
    (one : schema.Crosses type fieldPath first) (other : schema.Crosses type fieldPath second) :
    first = second := by
  have stepped : fieldPath.foldlM (schema.stepInto fieldPath) type = .ok first := steps_ok.mpr one
  rw [steps_ok.mpr other] at stepped
  exact (Except.ok.inj stepped).symm

end Schema

/-- An object path resolves exactly when its column exists and the path behind it crosses objects
only. -/
theorem Scope.objectPath_ok {schema : Schema} {scope : Scope} {column : String}
    {fieldPath : List String} {path : Path} {last : ValueType} :
    scope.objectPath schema column fieldPath = .ok (path, last) ↔
      path = ⟨scope.aliasName, column :: fieldPath⟩ ∧ fieldPath.length ≤ maximumNesting ∧
        ∃ property, scope.object.property? column = some property ∧
          schema.Crosses property.type fieldPath last := by
  simp only [objectPath, Attempt.bind_eq_ok_iff, checkFieldPath_ok, property_ok, Schema.steps_ok,
    Attempt.pure_eq_ok_iff, Prod.mk.injEq]
  constructor
  · intro accepted
    obtain ⟨_, short, property, known, _, crossed, rfl, rfl⟩ := accepted
    exact ⟨rfl, short, property, known, crossed⟩
  · intro accepted
    obtain ⟨rfl, short, property, known, crossed⟩ := accepted
    exact ⟨(), short, property, known, last, crossed, rfl, rfl⟩

end DocumentQuery
