/-
This file proves that a compiled condition mentions the variables that its expression compares with.
-/

import DocumentQuery.Proofs.Compilation.Condition
import DocumentQuery.Proofs.Rendering.Tree
import DocumentQuery.Proofs.Variables.Mentions
import DocumentQuery.Proofs.WellFormed

namespace DocumentQuery

open Dialect

def ComparisonOperand.variableName? : ComparisonOperand → Option String
  | .variable name => some name
  | .scalar _ | .column _ => none

def Test.variableName? : Test → Option String
  | .compare _ (.variable name) => some name
  | .compare _ (.literal _) | .compare _ (.column _) | .isNull => none

namespace Expression

mutual

/-- Variables are listed in the order in which an expression compares with them. -/
def variableNames : Expression → List String
  | .and expressions | .or expressions => variableNamesOfEach expressions
  | .not expression => expression.variableNames
  | .isNull _ | .existsIn _ none => []
  | .compare _ _ operand => operand.variableName?.toList
  | .existsIn _ (some expression) => expression.variableNames

def variableNamesOfEach : List Expression → List String
  | [] => []
  | expression :: rest => expression.variableNames ++ variableNamesOfEach rest

end

/-- An operand compares with a variable when it names one. -/
theorem comparesVariable_iff (operand : ComparisonOperand) :
    ComparesVariable operand ↔ operand.variableName?.toList ≠ [] := by
  cases operand <;> simp [ComparesVariable, ComparisonOperand.variableName?]

mutual

/-- An expression uses variables exactly when it compares with one. -/
theorem usesVariable_iff :
    ∀ expression : Expression, expression.UsesVariable ↔ expression.variableNames ≠ []
  | .and expressions | .or expressions => someUsesVariable_iff expressions
  | .not expression => usesVariable_iff expression
  | .isNull _ | .existsIn _ none => by simp [UsesVariable, variableNames]
  | .compare _ _ operand => comparesVariable_iff operand
  | .existsIn _ (some expression) => usesVariable_iff expression

/-- A list of expressions compares with a variable when some part names one. -/
theorem someUsesVariable_iff :
    ∀ expressions : List Expression,
      SomeUsesVariable expressions ↔ variableNamesOfEach expressions ≠ []
  | [] => by simp [SomeUsesVariable, variableNamesOfEach]
  | expression :: rest => by
      simp only [SomeUsesVariable, variableNamesOfEach, usesVariable_iff expression,
        someUsesVariable_iff rest, ne_eq, List.append_eq_nil_iff]
      exact Decidable.not_and_iff_not_or_not.symm

end

end Expression

/-- A test mentions the variable that it compares with and nothing else. -/
theorem Test.condition_mentions (test : Test) (path : Path) (key : String) (draft : Draft) :
    (test.condition path key draft).1.mentions = test.variableName?.toList.map .variable := by
  cases test with
  | isNull => rfl
  | compare operator comparand =>
      simp only [condition]
      cases comparand <;> split <;> rfl

/-- The searches that a chain opens mention nothing of their own. -/
theorem Chain.condition_mentions (test : Test) (key : String) (chain : Chain) (path : Path)
    (draft : Draft) :
    (chain.condition test key path draft).1.mentions = test.variableName?.toList.map .variable := by
  induction chain generalizing path draft with
  | property field next continued => exact continued (path.step field) draft
  | each field next continued => exact continued _ _
  | scalar field scalarType => exact test.condition_mentions (path.stepMaybe field) key draft
  | value field => exact test.condition_mentions (path.stepMaybe field) key draft

variable {schema : Schema} {root scope : Scope}

/-- A comparand keeps the variable of its operand. -/
theorem ComparisonOperand.comparand_variable {operand : ComparisonOperand} {comparand : Comparand}
    (compiled : operand.comparand schema root scope = .ok comparand)
    (operator : ComparisonOperator) :
    (Test.compare operator comparand).variableName? = operand.variableName? := by
  cases operand with
  | scalar value =>
      cases compiled
      rfl
  | «variable» name =>
      cases compiled
      rfl
  | column target =>
      obtain ⟨_, path, last, rfl, _⟩ := comparand_column_ok.mp compiled
      rfl

namespace Expression

mutual

/-- A compiled condition mentions the variables of its expression in their order. -/
theorem predicate_mentions :
    ∀ (expression : Expression) (scope : Scope) (depth count : Nat) (result : Predicate × Nat),
      predicate schema root scope depth count expression = .ok result →
        ∀ draft, (result.1.condition draft).1.mentions = expression.variableNames.map .variable
  | .and expressions, scope, depth, count, result, compiled, draft => by
      obtain ⟨_, predicates, next, inner, rfl⟩ := predicate_and_ok.mp compiled
      exact predicates_mention expressions scope (depth + 1) count _ inner draft
  | .or expressions, scope, depth, count, result, compiled, draft => by
      obtain ⟨_, predicates, next, inner, rfl⟩ := predicate_or_ok.mp compiled
      exact predicates_mention expressions scope (depth + 1) count _ inner draft
  | .not expression, scope, depth, count, result, compiled, draft => by
      obtain ⟨_, predicate, next, inner, rfl⟩ := predicate_not_ok.mp compiled
      exact predicate_mentions expression scope (depth + 1) count (predicate, next) inner draft
  | .isNull target, scope, depth, count, result, compiled, draft => by
      obtain ⟨_, aliasName, chain, _, rfl⟩ := predicate_isNull_ok.mp compiled
      exact chain.condition_mentions _ _ _ draft
  | .compare target name operand, scope, depth, count, result, compiled, draft => by
      obtain ⟨_, aliasName, chain, operator, comparand, _, _, other, rfl⟩ :=
        predicate_compare_ok.mp compiled
      rw [variableNames, ← ComparisonOperand.comparand_variable other operator]
      exact chain.condition_mentions _ _ _ draft
  | .existsIn collection none, scope, depth, count, result, compiled, draft => by
      obtain ⟨_, column, source, element, _, rfl⟩ := predicate_exists_ok.mp compiled
      rfl
  | .existsIn collection (some condition), scope, depth, count, result, compiled, draft => by
      obtain ⟨_, column, source, element, inner, predicate, next, _, _, continued, rfl⟩ :=
        predicate_existsWhere_ok.mp compiled
      exact predicate_mentions condition inner (depth + 1) (count + 1) (predicate, next) continued
        draft

/-- The conditions of a list mention the variables of its expressions in their order. -/
theorem predicates_mention :
    ∀ (expressions : List Expression) (scope : Scope) (depth count : Nat)
      (result : List Predicate × Nat),
      predicates schema root scope depth count expressions = .ok result →
        ∀ draft, Condition.mentionsOfEach (Predicate.conditions result.1 draft).1 =
          (variableNamesOfEach expressions).map .variable
  | [], scope, depth, count, result, compiled, draft => by
      rw [predicates_nil_ok.mp compiled]
      rfl
  | first :: rest, scope, depth, count, result, compiled, draft => by
      obtain ⟨predicate, middle, others, next, one, more, rfl⟩ := predicates_cons_ok.mp compiled
      have head := predicate_mentions first scope depth count _ one draft
      have tail := predicates_mention rest scope depth middle _ more (predicate.condition draft).2
      simp only [Predicate.conditions, Condition.mentionsOfEach, variableNamesOfEach,
        List.map_append, head, tail]

end

end Expression

end DocumentQuery
