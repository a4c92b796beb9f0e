/-
This file says which operators and functions the registry finds.
-/

import DocumentQuery.Operator
import DocumentQuery.Proofs.Table

namespace DocumentQuery.Operators

/-- A comparison that is found has the requested name and is registered for its scalar type. -/
theorem comparison_registered {scalarType name : String} {operator : ComparisonOperator}
    (found : comparison scalarType name = .ok operator) :
    operator.name = name ∧
      ∃ operators, ofScalar? scalarType = some operators ∧ operator ∈ operators.comparisons := by
  unfold comparison at found
  split at found
  next _ listed =>
    obtain ⟨operators, known, located⟩ := Option.bind_eq_some_iff.mp listed
    cases found
    refine ⟨by simpa using List.find?_some located, operators, known, ?_⟩
    exact List.mem_of_find?_eq_some located
  next => cases found

/-- An aggregate function that is found has the requested name and is registered for its scalar
type. -/
theorem aggregate_registered {scalarType name : String} {function : AggregateFunction}
    (found : aggregate scalarType name = .ok function) :
    function.name = name ∧
      ∃ operators, ofScalar? scalarType = some operators ∧ function ∈ operators.aggregates := by
  unfold aggregate at found
  split at found
  next _ listed =>
    obtain ⟨operators, known, located⟩ := Option.bind_eq_some_iff.mp listed
    cases found
    refine ⟨by simpa using List.find?_some located, operators, known, ?_⟩
    exact List.mem_of_find?_eq_some located
  next => cases found

/-- The registry knows the operators of numbers, of texts and of booleans. -/
theorem ofScalar_cases {scalarType : String} {operators : Operators}
    (known : ofScalar? scalarType = some operators) :
    operators = ofNumbers ∨ operators = ofTexts ∨ operators = ofBooleans := by
  have listed := Table.mem_of_entry known
  simp only [registry, List.mem_cons, Prod.mk.injEq, List.not_mem_nil, or_false] at listed
  rcases listed with ⟨_, rfl⟩ | ⟨_, rfl⟩ | ⟨_, rfl⟩ | ⟨_, rfl⟩ | ⟨_, rfl⟩ <;> simp

/-- The null check is the only unary operator. -/
theorem unary_iff {scalarType : String} {operators : Operators} {operator : ComparisonOperator}
    (known : ofScalar? scalarType = some operators) (member : operator ∈ operators.comparisons) :
    operator.isUnary = decide (operator.name = isNull.name) := by
  have agree : ∀ operator ∈ operators.comparisons,
      operator.isUnary = decide (operator.name = isNull.name) := by
    rcases ofScalar_cases known with rfl | rfl | rfl <;> decide
  exact agree operator member

end DocumentQuery.Operators
