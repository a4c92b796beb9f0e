/-
This file proves that columns, field paths and operators are accepted exactly by the rules.
-/

import DocumentQuery.Proofs.Meaning.Relation
import DocumentQuery.Proofs.WellFormed

namespace DocumentQuery

namespace Chain

variable {schema : Schema} {pending : Option String} {type : ValueType}

/-- Opening arrays ends at the named type inside the wrappers, and the scalar type stays the same. -/
theorem throughArrays_ok {atName : Option String → String → NamedKind → Except Fault Chain}
    {chain : Chain} (resolved : throughArrays atName pending type = .ok chain) :
    ∃ inside next, atName inside type.base.1 type.base.2 = .ok next ∧
      chain.scalarType? = next.scalarType? := by
  induction type generalizing pending chain with
  | nullable underlying absence opened => exact opened resolved
  | array element opened =>
      obtain ⟨next, inner, rfl⟩ := Attempt.map_eq_ok_iff.mp resolved
      obtain ⟨inside, last, named, same⟩ := opened inner
      exact ⟨inside, last, named, same⟩
  | named name kind => exact ⟨pending, chain, resolved, rfl⟩

/-- When every named type is accepted, so is every array of it. -/
theorem throughArrays_of_ok {atName : Option String → String → NamedKind → Except Fault Chain}
    (named : ∀ inside, ∃ next, atName inside type.base.1 type.base.2 = .ok next) :
    ∃ chain, throughArrays atName pending type = .ok chain := by
  induction type generalizing pending with
  | nullable underlying absence opened => exact opened named
  | array element opened =>
      obtain ⟨next, inner⟩ := opened named
      exact ⟨.each pending next, Attempt.map_eq_ok_iff.mpr ⟨next, inner, rfl⟩⟩
  | named name kind => exact named pending

theorem scalarType_afterPending (pending : Option String) (next : Chain) :
    (afterPending pending next).scalarType? = next.scalarType? := by
  cases pending <;> rfl

/-- What the end of a path has to be. -/
def EndsWell (scalarType : Option String) (last : ValueType) : PathEnd → Prop
  | .anyValue => scalarType = none
  | .scalar => ∃ name, scalarType = some name ∧ last.base = (name, .scalar)

/-- A resolved chain follows the path to its end, and it carries the scalar type found there. -/
theorem follow_sound {pathEnd : PathEnd} {fieldPath : List String} {chain : Chain}
    (resolved : follow schema pathEnd fieldPath pending type = .ok chain) :
    ∃ last, schema.Reaches type fieldPath last ∧ EndsWell chain.scalarType? last pathEnd := by
  induction fieldPath generalizing pending type chain with
  | nil =>
      refine ⟨type, .here type, ?_⟩
      cases pathEnd with
      | anyValue =>
          cases resolved
          rfl
      | scalar =>
          obtain ⟨inside, next, named, same⟩ := throughArrays_ok resolved
          cases kind : type.base.2 with
          | object =>
              rw [kind] at named
              simp at named
          | scalar =>
              rw [kind] at named
              cases named
              exact ⟨type.base.1, same, by rw [← kind]⟩
  | cons field rest followed =>
      obtain ⟨inside, next, named, same⟩ := throughArrays_ok resolved
      cases kind : type.base.2 with
      | scalar =>
          rw [kind] at named
          cases named
      | object =>
          simp only [kind, Attempt.bind_eq_ok_iff, Schema.lookUpNested_ok, Attempt.pure_eq_ok_iff]
            at named
          obtain ⟨property, located, onward, inner, rfl⟩ := named
          rw [scalarType_afterPending] at same
          obtain ⟨last, reached, ends⟩ := followed inner
          refine ⟨last, .field (by rw [← kind]) located reached, ?_⟩
          rw [same]
          exact ends

/-- A path that ends well is resolved. -/
theorem follow_complete {pathEnd : PathEnd} {fieldPath : List String} {last : ValueType}
    {scalarType : Option String} (reached : schema.Reaches type fieldPath last)
    (ends : EndsWell scalarType last pathEnd) :
    ∃ chain, follow schema pathEnd fieldPath pending type = .ok chain := by
  induction reached generalizing pending with
  | here type =>
      cases pathEnd with
      | anyValue => exact ⟨.value pending, rfl⟩
      | scalar =>
          obtain ⟨name, _, base⟩ := ends
          apply throughArrays_of_ok
          intro inside
          exact ⟨.scalar inside name, by rw [base]⟩
  | field inside located _ followed =>
      apply throughArrays_of_ok
      intro outer
      obtain ⟨next, inner⟩ := followed ends
      rw [inside]
      exact ⟨afterPending outer next, by
        simp only [Attempt.bind_eq_ok_iff, Schema.lookUpNested_ok, Attempt.pure_eq_ok_iff]
        exact ⟨_, located, next, inner, rfl⟩⟩

end Chain

/-- A path reaches one type only. -/
theorem Schema.Reaches.unique {schema : Schema} {type first second : ValueType}
    {fieldPath : List String} (one : schema.Reaches type fieldPath first)
    (other : schema.Reaches type fieldPath second) : first = second := by
  induction one with
  | here type =>
      cases other
      rfl
  | field inside located _ same =>
      obtain _ | ⟨inside', located', onward⟩ := other
      rw [inside] at inside'
      cases inside'
      rw [located] at located'
      cases located'
      exact same onward

namespace Operators

/-- A binary comparison is registered exactly when the scalar type has its operator. -/
theorem comparison_iff {scalarType name : String} :
    (∃ operator, comparison scalarType name = .ok operator ∧ operator.isUnary = false ∧
      operator.name ≠ isNull.name) ↔ Compares scalarType name := by
  constructor
  · intro accepted
    obtain ⟨operator, found, notUnary, _⟩ := accepted
    obtain ⟨named, operators, known, member⟩ := comparison_registered found
    exact ⟨operators, operator, known, member, named, notUnary⟩
  · intro accepted
    obtain ⟨operators, operator, known, member, rfl, notUnary⟩ := accepted
    have listed : (operators.comparisons.find? fun other => other.name = operator.name).isSome := by
      rw [List.find?_isSome]
      exact ⟨operator, member, by simp⟩
    obtain ⟨other, located⟩ := Option.isSome_iff_exists.mp listed
    have sameName : other.name = operator.name := by simpa using List.find?_some located
    have binary : other.name ≠ isNull.name := by
      rw [sameName]
      simpa [unary_iff known member] using notUnary
    refine ⟨other, ?_, ?_, binary⟩
    · simp only [comparison, known, Option.bind_some, located]
    · rw [unary_iff known (List.mem_of_find?_eq_some located)]
      simpa using binary

/-- A function is found exactly when the scalar type registers it. -/
theorem aggregate_iff {scalarType name : String} :
    (∃ function, aggregate scalarType name = .ok function) ↔ Aggregates scalarType name := by
  constructor
  · intro accepted
    obtain ⟨function, found⟩ := accepted
    obtain ⟨named, operators, known, member⟩ := aggregate_registered found
    exact ⟨operators, function, known, member, named⟩
  · intro accepted
    obtain ⟨operators, function, known, member, rfl⟩ := accepted
    have listed : (operators.aggregates.find? fun other => other.name = function.name).isSome := by
      rw [List.find?_isSome]
      exact ⟨function, member, by simp⟩
    obtain ⟨other, located⟩ := Option.isSome_iff_exists.mp listed
    exact ⟨other, by simp only [aggregate, known, Option.bind_some, located]⟩

end Operators

/-- An object path resolves exactly when it crosses objects only. -/
theorem Scope.objectPath_iff {schema : Schema} {scope : Scope} {column : String}
    {fieldPath : List String} {last : ValueType} :
    (∃ path, scope.objectPath schema column fieldPath = .ok (path, last)) ↔
      scope.object.Crosses schema column fieldPath last := by
  simp only [Scope.objectPath_ok, ObjectType.Crosses]
  exact ⟨fun ⟨_, _, crossed⟩ => crossed, fun crossed => ⟨_, rfl, crossed⟩⟩

end DocumentQuery
