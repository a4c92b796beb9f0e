/-
This file proves that resolved chains reach exactly the values that a field path reaches.
-/

import DocumentQuery.Proofs.Attempt
import DocumentQuery.Proofs.Meaning.Condition
import DocumentQuery.Proofs.Resolution

namespace DocumentQuery

namespace Chain

variable {test : Found → Bool}

/-- A pending property is stepped into before the rest of the chain. -/
theorem holds_afterPending (pending : Option String) (next : Chain) (found : Found) :
    (afterPending pending next).holds test found =
      next.holds test (Found.propertyMaybe pending found) := by
  cases pending <;> rfl

/-- Opening the arrays around a named type searches the parts of the value. -/
theorem holds_throughArrays {atName : Option String → String → NamedKind → Except Fault Chain}
    {meaning : Part → Bool}
    (named : ∀ pending name kind chain found, atName pending name kind = .ok chain →
      chain.holds test found = meaning ⟨name, kind, Found.propertyMaybe pending found⟩)
    {type : ValueType} {pending : Option String} {chain : Chain} (found : Found)
    (resolved : throughArrays atName pending type = .ok chain) :
    chain.holds test found = (type.parts (Found.propertyMaybe pending found)).any meaning := by
  induction type generalizing pending chain found with
  | nullable underlying absence opened => exact opened found resolved
  | array element opened =>
      obtain ⟨next, inner, rfl⟩ := Attempt.map_eq_ok_iff.mp resolved
      simp only [holds, ValueType.parts, List.any_flatMap]
      congr 1
      funext item
      exact opened (some item) inner
  | named name kind =>
      simp only [ValueType.parts, List.any_cons, List.any_nil, Bool.or_false]
      exact named pending name kind chain found resolved

/-- A test that takes any value looks at the whole value, and the other tests look at its scalars. -/
def endHolds (test : Found → Bool) : PathEnd → ValueType → Found → Bool
  | .anyValue, _, found => test found
  | .scalar, type, found =>
      (type.parts found).any fun part => part.kind = .scalar && test part.found

/-- The chain reaches the values that the field path reaches. -/
theorem holds_follow {schema : Schema} {pathEnd : PathEnd} {fieldPath : List String}
    {pending : Option String} {type : ValueType} {chain : Chain} (found : Found)
    (resolved : follow schema pathEnd fieldPath pending type = .ok chain) :
    chain.holds test found =
      (schema.reached fieldPath type (Found.propertyMaybe pending found)).any fun (type, found) =>
        endHolds test pathEnd type found := by
  induction fieldPath generalizing pending type chain found with
  | nil =>
      cases pathEnd with
      | anyValue =>
          simp only [follow, Except.ok.injEq] at resolved
          subst resolved
          simp [holds, Schema.reached, endHolds]
      | scalar =>
          simp only [Schema.reached, List.any_cons, List.any_nil, Bool.or_false, endHolds]
          refine holds_throughArrays ?_ found resolved
          intro pending name kind chain found atName
          cases kind with
          | scalar =>
              cases atName
              simp [holds]
          | object => simp at atName
  | cons field rest followed =>
      simp only [Schema.reached, List.any_flatMap]
      refine holds_throughArrays ?_ found resolved
      intro pending name kind chain found atName
      cases kind with
      | scalar => cases atName
      | object =>
          simp only [Attempt.bind_eq_ok_iff, Schema.lookUpNested_ok, Attempt.pure_eq_ok_iff]
            at atName
          obtain ⟨property, located, next, inner, rfl⟩ := atName
          rw [holds_afterPending, followed _ inner, located]
          rfl

end Chain

end DocumentQuery
