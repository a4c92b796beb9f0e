/-
This file states the rules by which a field path is followed, and it proves that following ends over
every schema.
-/

import DocumentQuery.Proofs.Resolution

namespace DocumentQuery

namespace Schema

variable {schema : Schema} {name field : String}

theorem lookUpObject_undeclared (unknown : schema.objectType? name = none) :
    schema.lookUpObject name = .error (.unknownObjectType name) := by
  rw [lookUpObject, unknown]

/-- An object type that is not declared has no properties. -/
theorem lookUpNested_undeclared (unknown : schema.objectType? name = none) :
    schema.lookUpNested name field = .error (.unknownObjectType name) := by
  rw [lookUpNested, lookUpObject_undeclared unknown]
  rfl

/-- A property that is not declared is not found in its object type. -/
theorem lookUpNested_absent {object : ObjectType} (known : schema.objectType? name = some object)
    (absent : object.property? field = none) :
    schema.lookUpNested name field = .error (.unknownNestedField field name) := by
  simp only [lookUpNested, lookUpObject_ok.mpr known, bind, Except.bind, absent]

end Schema

/-- A test that takes any value stops at the end of the path, whatever type is found there. -/
def PathEnd.StopsAt (pathEnd : PathEnd) (fieldPath : List String) : Prop :=
  pathEnd = .anyValue ∧ fieldPath = []

namespace Chain

/-- Each rule looks at one type. It refuses the path, ends it, or goes on inside the type or from
one of its properties. The pending field is the one through which the type was reached. -/
inductive Resolves (schema : Schema) (pathEnd : PathEnd) :
    List String → Option String → ValueType → Except Fault Chain → Prop
  | stop {pending : Option String} {type : ValueType} (any : pathEnd = .anyValue) :
      Resolves schema pathEnd [] pending type (.ok (.value pending))
  | nullable {fieldPath : List String} {pending : Option String} {underlying : ValueType}
      {absence : Option Absence} {outcome : Except Fault Chain}
      (onward : ¬ pathEnd.StopsAt fieldPath)
      (inside : Resolves schema pathEnd fieldPath pending underlying outcome) :
      Resolves schema pathEnd fieldPath pending (.nullable underlying absence) outcome
  | array {fieldPath : List String} {pending : Option String} {element : ValueType}
      {outcome : Except Fault Chain} (onward : ¬ pathEnd.StopsAt fieldPath)
      (inside : Resolves schema pathEnd fieldPath none element outcome) :
      Resolves schema pathEnd fieldPath pending (.array element) (outcome.map (.each pending))
  | scalar {pending : Option String} {name : String} (wanted : pathEnd = .scalar) :
      Resolves schema pathEnd [] pending (.scalar name) (.ok (.scalar pending name))
  | throughScalar {field : String} {rest : List String} {pending : Option String} {name : String} :
      Resolves schema pathEnd (field :: rest) pending (.scalar name)
        (.error .fieldPathThroughScalar)
  | undeclared {fieldPath : List String} {pending : Option String} {name : String}
      (onward : ¬ pathEnd.StopsAt fieldPath) (unknown : schema.objectType? name = none) :
      Resolves schema pathEnd fieldPath pending (.object name) (.error (.unknownObjectType name))
  | endsAtObject {pending : Option String} {name : String} {object : ObjectType}
      (wanted : pathEnd = .scalar) (known : schema.objectType? name = some object) :
      Resolves schema pathEnd [] pending (.object name) (.error (.fieldPathEndsAtObject name))
  | unknownField {field : String} {rest : List String} {pending : Option String} {name : String}
      {object : ObjectType} (known : schema.objectType? name = some object)
      (absent : object.property? field = none) :
      Resolves schema pathEnd (field :: rest) pending (.object name)
        (.error (.unknownNestedField field name))
  | property {field : String} {rest : List String} {pending : Option String} {name : String}
      {object : ObjectType} {property : Property} {outcome : Except Fault Chain}
      (known : schema.objectType? name = some object)
      (located : object.property? field = some property)
      (inside : Resolves schema pathEnd rest (some field) property.type outcome) :
      Resolves schema pathEnd (field :: rest) pending (.object name)
        (outcome.map (afterPending pending))

variable {schema : Schema} {pathEnd : PathEnd} {fieldPath : List String} {pending : Option String}
  {type : ValueType} {outcome : Except Fault Chain}

/-- A wrapper is opened with the whole path still to follow, and the type inside is smaller. -/
theorem resolves_of_named (onward : ¬ pathEnd.StopsAt fieldPath)
    (named : ∀ pending name kind, ∃ outcome,
      Resolves schema pathEnd fieldPath pending (.named name kind) outcome)
    (pending : Option String) :
    ∃ outcome, Resolves schema pathEnd fieldPath pending type outcome := by
  induction type generalizing pending with
  | nullable underlying absence opened =>
      obtain ⟨outcome, inside⟩ := opened pending
      exact ⟨outcome, .nullable onward inside⟩
  | array element opened =>
      obtain ⟨outcome, inside⟩ := opened none
      exact ⟨_, .array onward inside⟩
  | named name kind => exact named pending name kind

/-- A property may lead to any type, also to one that it is part of, but the path gets shorter. -/
theorem resolves_total (schema : Schema) (pathEnd : PathEnd) (fieldPath : List String)
    (pending : Option String) (type : ValueType) :
    ∃ outcome, Resolves schema pathEnd fieldPath pending type outcome := by
  induction fieldPath generalizing pending type with
  | nil =>
      cases pathEnd with
      | anyValue => exact ⟨_, .stop rfl⟩
      | scalar =>
          have onward : ¬ PathEnd.StopsAt .scalar [] := by simp [PathEnd.StopsAt]
          refine resolves_of_named onward (fun pending name kind => ?_) pending
          cases kind with
          | scalar => exact ⟨_, .scalar rfl⟩
          | object =>
              cases known : schema.objectType? name with
              | none => exact ⟨_, .undeclared onward known⟩
              | some object => exact ⟨_, .endsAtObject rfl known⟩
  | cons field rest followed =>
      have onward : ¬ pathEnd.StopsAt (field :: rest) := by simp [PathEnd.StopsAt]
      refine resolves_of_named onward (fun pending name kind => ?_) pending
      cases kind with
      | scalar => exact ⟨_, .throughScalar⟩
      | object =>
          cases known : schema.objectType? name with
          | none => exact ⟨_, .undeclared onward known⟩
          | some object =>
              cases located : object.property? field with
              | none => exact ⟨_, .unknownField known located⟩
              | some property =>
                  obtain ⟨outcome, inside⟩ := followed (some field) property.type
                  exact ⟨_, .property known located inside⟩

/-- A nullable wrapper is opened without a link. -/
theorem follow_nullable (onward : ¬ pathEnd.StopsAt fieldPath) (underlying : ValueType)
    (absence : Option Absence) :
    follow schema pathEnd fieldPath pending (.nullable underlying absence) =
      follow schema pathEnd fieldPath pending underlying := by
  cases fieldPath with
  | cons field rest => rfl
  | nil =>
      cases pathEnd with
      | anyValue => exact absurd ⟨rfl, rfl⟩ onward
      | scalar => rfl

/-- An array is followed by a link over its elements. -/
theorem follow_array (onward : ¬ pathEnd.StopsAt fieldPath) (element : ValueType) :
    follow schema pathEnd fieldPath pending (.array element) =
      (follow schema pathEnd fieldPath none element).map (.each pending) := by
  cases fieldPath with
  | cons field rest => rfl
  | nil =>
      cases pathEnd with
      | anyValue => exact absurd ⟨rfl, rfl⟩ onward
      | scalar => rfl

/-- The next field is a property of the object type. -/
theorem follow_object (field : String) (rest : List String) (name : String) :
    follow schema pathEnd (field :: rest) pending (.object name) =
      schema.lookUpNested name field >>= fun property =>
        (follow schema pathEnd rest (some field) property.type).map (afterPending pending) :=
  rfl

theorem follow_lastObject (name : String) :
    follow schema .scalar [] pending (.object name) =
      schema.lookUpObject name >>= fun _ => .error (.fieldPathEndsAtObject name) :=
  rfl

/-- A path is refused at an object type that is not declared. -/
theorem follow_undeclared (onward : ¬ pathEnd.StopsAt fieldPath) {name : String}
    (unknown : schema.objectType? name = none) :
    follow schema pathEnd fieldPath pending (.object name) = .error (.unknownObjectType name) := by
  cases fieldPath with
  | cons field rest =>
      rw [follow_object, Schema.lookUpNested_undeclared unknown]
      rfl
  | nil =>
      cases pathEnd with
      | anyValue => exact absurd ⟨rfl, rfl⟩ onward
      | scalar =>
          rw [follow_lastObject, Schema.lookUpObject_undeclared unknown]
          rfl

/-- The rules have no other outcome than the one that is computed. -/
theorem follow_of_resolves (resolved : Resolves schema pathEnd fieldPath pending type outcome) :
    follow schema pathEnd fieldPath pending type = outcome := by
  induction resolved with
  | stop any =>
      subst any
      rfl
  | nullable onward _ same => rw [follow_nullable onward, same]
  | array onward _ same => rw [follow_array onward, same]
  | scalar wanted =>
      subst wanted
      rfl
  | throughScalar => rfl
  | undeclared onward unknown => exact follow_undeclared onward unknown
  | endsAtObject wanted known =>
      subst wanted
      rw [follow_lastObject, Schema.lookUpObject_ok.mpr known]
      rfl
  | unknownField known absent =>
      rw [follow_object, Schema.lookUpNested_absent known absent]
      rfl
  | property known located _ same =>
      have found := Schema.lookUpNested_ok.mpr (Option.bind_eq_some_iff.mpr ⟨_, known, located⟩)
      rw [follow_object, found, ← same]
      rfl

end Chain

end DocumentQuery
