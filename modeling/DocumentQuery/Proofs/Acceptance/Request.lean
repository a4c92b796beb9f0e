/-
This file proves that requests compile exactly when they are well formed.
-/

import DocumentQuery.Proofs.Acceptance.Expression
import DocumentQuery.Proofs.Acceptance.Selection
import DocumentQuery.Proofs.Compilation.Statement

namespace DocumentQuery

variable {schema : Schema} {scope : Scope}

namespace Aggregate

/-- An aggregate compiles exactly when it is well formed. -/
theorem column_accepts {aggregate : Aggregate} :
    (∃ compiled, aggregate.column schema scope = .ok compiled) ↔
      aggregate.WellFormed schema scope.object := by
  cases aggregate with
  | starCount => exact ⟨fun _ => trivial, fun _ => ⟨_, rfl⟩⟩
  | columnCount name fieldPath distinct =>
      simp only [column_count_ok, WellFormed, ← Scope.objectPath_iff]
      constructor
      · intro accepted
        obtain ⟨_, path, last, resolved, _⟩ := accepted
        exact ⟨last, path, resolved⟩
      · intro accepted
        obtain ⟨last, path, resolved⟩ := accepted
        exact ⟨_, path, last, resolved, rfl⟩
  | singleColumn name fieldPath function =>
      simp only [column_single_ok, WellFormed, ← Scope.objectPath_iff, ← Operators.aggregate_iff]
      constructor
      · intro accepted
        obtain ⟨_, path, last, scalarType, definition, resolved, required, registered, _⟩ := accepted
        exact ⟨last, scalarType, ⟨path, resolved⟩, required, definition, registered⟩
      · intro accepted
        obtain ⟨last, scalarType, ⟨path, resolved⟩, required, definition, registered⟩ := accepted
        exact ⟨_, path, last, scalarType, definition, resolved, required, registered, rfl⟩

/-- Aggregates compile exactly when their aliases are plain and each of them is well formed. -/
theorem columns_accepts {aggregates : Table Aggregate} :
    (∃ compiled, columns schema scope aggregates = .ok compiled) ↔
      ∀ entry ∈ aggregates, Identifier.isPlain entry.1 ∧ entry.2.WellFormed schema scope.object := by
  unfold columns
  rw [Attempt.mapM_succeeds_iff]
  apply forall₂_congr
  intro entry _
  simp only [entry_ok, ← column_accepts]
  constructor
  · intro accepted
    obtain ⟨_, plain, compiled, known, _⟩ := accepted
    exact ⟨plain, compiled, known⟩
  · intro accepted
    obtain ⟨plain, compiled, known⟩ := accepted
    exact ⟨_, plain, compiled, known, rfl⟩

end Aggregate

namespace OrderElement

/-- A sort key compiles exactly when its target is well formed. -/
theorem sortKey_accepts {element : OrderElement} :
    (∃ key, element.sortKey schema scope = .ok key) ↔
      element.target.WellFormed schema scope.object := by
  simp only [sortKey_ok]
  constructor
  · intro accepted
    obtain ⟨_, name, fieldPath, path, last, targeted, resolved, _⟩ := accepted
    rw [targeted]
    exact ⟨rfl, last, Scope.objectPath_iff.mp ⟨path, resolved⟩⟩
  · intro wellFormed
    cases target : element.target with
    | column name fieldPath crossings =>
        rw [target] at wellFormed
        obtain ⟨rfl, last, crosses⟩ := wellFormed
        obtain ⟨path, resolved⟩ := Scope.objectPath_iff.mpr crosses
        exact ⟨_, name, fieldPath, path, last, rfl, resolved, rfl⟩
    | singleColumnAggregate column function path =>
        rw [target] at wellFormed
        cases wellFormed
    | starCountAggregate path =>
        rw [target] at wellFormed
        cases wellFormed

/-- An ordering compiles element by element. -/
theorem sortKeys_accepts {elements : List OrderElement} :
    (∃ keys, sortKeys schema scope elements = .ok keys) ↔
      ∀ element ∈ elements, element.target.WellFormed schema scope.object := by
  simp only [← sortKey_accepts]
  cases elements with
  | nil => simp [sortKeys]
  | cons first rest =>
      rw [← Attempt.mapM_succeeds_iff]
      simp only [sortKeys, Attempt.bind_eq_ok_iff, Attempt.pure_eq_ok_iff]
      constructor
      · intro accepted
        obtain ⟨_, keys, ordered, _⟩ := accepted
        exact ⟨keys, ordered⟩
      · intro accepted
        obtain ⟨keys, ordered⟩ := accepted
        exact ⟨_, keys, ordered, rfl⟩

end OrderElement

namespace Expression

/-- A comparand refers to a variable exactly when the operand does. -/
theorem comparand_usesVariable {root : Scope} {operand : ComparisonOperand}
    {comparand : Comparand} {operator : ComparisonOperator}
    (compiled : operand.comparand schema root scope = .ok comparand) :
    (Test.compare operator comparand).usesVariables ↔ ComparesVariable operand := by
  cases operand with
  | scalar value =>
      cases compiled
      simp [Test.usesVariables, ComparesVariable]
  | «variable» name =>
      cases compiled
      simp [Test.usesVariables, ComparesVariable]
  | column target =>
      obtain ⟨_, path, last, rfl, _⟩ := ComparisonOperand.comparand_column_ok.mp compiled
      simp [Test.usesVariables, ComparesVariable]

mutual

/-- A compiled condition refers to a variable exactly when the expression does. -/
theorem predicate_usesVariables {root : Scope} :
    ∀ (expression : Expression) (scope : Scope) (depth count : Nat) (result : Predicate × Nat),
      predicate schema root scope depth count expression = .ok result →
        (result.1.usesVariables ↔ expression.UsesVariable)
  | .and expressions, scope, depth, count, result, compiled => by
      obtain ⟨_, predicates, next, inner, rfl⟩ := predicate_and_ok.mp compiled
      exact predicates_useVariables expressions scope (depth + 1) count _ inner
  | .or expressions, scope, depth, count, result, compiled => by
      obtain ⟨_, predicates, next, inner, rfl⟩ := predicate_or_ok.mp compiled
      exact predicates_useVariables expressions scope (depth + 1) count _ inner
  | .not expression, scope, depth, count, result, compiled => by
      obtain ⟨_, predicate, next, inner, rfl⟩ := predicate_not_ok.mp compiled
      exact predicate_usesVariables expression scope (depth + 1) count (predicate, next) inner
  | .isNull target, scope, depth, count, result, compiled => by
      obtain ⟨_, aliasName, chain, _, rfl⟩ := predicate_isNull_ok.mp compiled
      simp [Predicate.usesVariables, Test.usesVariables, UsesVariable]
  | .compare target name operand, scope, depth, count, result, compiled => by
      obtain ⟨_, aliasName, chain, operator, comparand, _, _, other, rfl⟩ :=
        predicate_compare_ok.mp compiled
      exact comparand_usesVariable other
  | .existsIn collection none, scope, depth, count, result, compiled => by
      obtain ⟨_, column, source, element, _, rfl⟩ := predicate_exists_ok.mp compiled
      simp [Predicate.usesVariables, UsesVariable]
  | .existsIn collection (some condition), scope, depth, count, result, compiled => by
      obtain ⟨_, column, source, element, inner, predicate, next, _, _, continued, rfl⟩ :=
        predicate_existsWhere_ok.mp compiled
      exact predicate_usesVariables condition inner (depth + 1) (count + 1) (predicate, next)
        continued

/-- A list refers to a variable when some part of it does. -/
theorem predicates_useVariables {root : Scope} :
    ∀ (expressions : List Expression) (scope : Scope) (depth count : Nat)
      (result : List Predicate × Nat),
      predicates schema root scope depth count expressions = .ok result →
        (Predicate.anyUsesVariables result.1 ↔ SomeUsesVariable expressions)
  | [], scope, depth, count, result, compiled => by
      rw [predicates_nil_ok.mp compiled]
      simp [Predicate.anyUsesVariables, SomeUsesVariable]
  | first :: rest, scope, depth, count, result, compiled => by
      obtain ⟨predicate, middle, others, next, one, more, rfl⟩ := predicates_cons_ok.mp compiled
      have head := predicate_usesVariables first scope depth count _ one
      have tail := predicates_useVariables rest scope depth middle _ more
      simp only [Predicate.anyUsesVariables, Bool.or_eq_true, SomeUsesVariable, head, tail]

end

/-- The condition of a query refers to a variable exactly when its expression does. -/
theorem condition_usesVariables {expression : Expression} {compiled : Predicate}
    (accepted : condition schema scope expression = .ok compiled) :
    compiled.usesVariables ↔ expression.UsesVariable := by
  obtain ⟨result, compiles, rfl⟩ := Attempt.map_eq_ok_iff.mp accepted
  exact predicate_usesVariables expression scope 1 0 result compiles

end Expression

namespace QueryRequest

/-- A query never has fields beside aggregates, and whichever it has compile by their own rules. -/
theorem columns_accepts {query : Query} :
    (∃ compiled, columns schema scope query = .ok compiled) ↔
      (query.fields = none ∨ query.aggregates = none) ∧
        (∀ fields, query.fields = some fields →
          Selection.RowWellFormed schema scope.object fields ∧
            Selection.rowLevels fields + 1 ≤ maximumNesting) ∧
          ∀ aggregates, query.aggregates = some aggregates → ∀ entry ∈ aggregates,
            Identifier.isPlain entry.1 ∧ entry.2.WellFormed schema scope.object := by
  unfold columns
  cases query.fields with
  | none =>
      cases query.aggregates with
      | none => simp
      | some aggregates => simp [Aggregate.columns_accepts]
  | some fields =>
      cases query.aggregates with
      | none => simp [Selection.columns_accepts]
      | some aggregates => simp

/-- A query without an ordering is accepted, and any other ordering is accepted element by
element. -/
theorem ordering_accepts {query : Query} :
    (∃ keys, ordering schema scope query = .ok keys) ↔
      ∀ elements, query.orderBy = some elements →
        ∀ element ∈ elements, element.target.WellFormed schema scope.object := by
  unfold ordering
  cases query.orderBy with
  | none => simp
  | some elements =>
      simp only [OrderElement.sortKeys_accepts, Option.some.injEq, forall_eq']

/-- The root scope reads the documents of the requested collection. -/
theorem rootScope_object {request : QueryRequest} {object : ObjectType}
    (plain : request.arguments = [] ∧ request.relationships = []) :
    (∃ scope, request.rootScope schema = .ok scope ∧ scope.object = object) ↔
      request.documentType? schema = some object := by
  simp only [rootScope_ok, documentType?, Option.bind_eq_some_iff, plain.1, plain.2, true_and]
  constructor
  · intro rooted
    obtain ⟨_, ⟨collection, object, known, declared, rfl⟩, rfl⟩ := rooted
    exact ⟨collection, known, declared⟩
  · intro documented
    obtain ⟨collection, known, declared⟩ := documented
    exact ⟨_, ⟨collection, object, known, declared, rfl⟩, rfl⟩

/-- Every part of a query is checked on its own. -/
theorem query_accepts {query : Query} :
    ((∃ compiled, columns schema scope query = .ok compiled) ∧
        (∃ predicate, query.predicate.mapM (Expression.condition schema scope) = .ok predicate) ∧
          ∃ keys, ordering schema scope query = .ok keys) ↔
      query.WellFormed schema scope.object := by
  simp only [columns_accepts, Attempt.optionMapM_succeeds_iff, Expression.condition_accepts,
    ordering_accepts]
  constructor
  · intro accepted
    obtain ⟨⟨oneKind, fields, aggregates⟩, predicate, ordering⟩ := accepted
    exact ⟨oneKind, fields, aggregates, predicate, ordering⟩
  · intro wellFormed
    exact ⟨⟨wellFormed.oneKind, wellFormed.fields, wellFormed.aggregates⟩, wellFormed.predicate,
      wellFormed.ordering⟩

/-- A compiled statement refers to a variable exactly when its query does. -/
theorem statement_usesVariables {request : QueryRequest} {select : Select}
    (stated : request.statement schema = .ok select) :
    select.usesVariables ↔ request.query.UsesVariable := by
  obtain ⟨scope, compiled, predicate, keys, _, _, condition, _, rfl⟩ := statement_ok.mp stated
  unfold Select.usesVariables Query.UsesVariable
  cases expression : request.query.predicate with
  | none =>
      rw [expression] at condition
      cases condition
      simp
  | some expression =>
      rw [expression, Option.mapM_some, Attempt.mapped_eq_ok_iff] at condition
      obtain ⟨predicate, accepted, rfl⟩ := condition
      simpa using Expression.condition_usesVariables accepted

/-- Only a statement with variables needs a set of them. -/
theorem textWith_accepts {select : Select} {variableSets : Option (List (Table Json))} :
    (∃ text, select.textWith variableSets = .ok text) ↔
      (select.usesVariables → ∃ first rest, variableSets = some (first :: rest)) := by
  simp only [Select.textWith_ok]
  constructor
  · intro accepted used
    obtain ⟨text, ⟨unused, _⟩ | ⟨_, first, rest, supplied, _⟩⟩ := accepted
    · rw [unused] at used
      cases used
    · exact ⟨first, rest, supplied⟩
  · intro supplied
    by_cases used : select.usesVariables
    · obtain ⟨first, rest, known⟩ := supplied used
      exact ⟨_, .inr ⟨used, first, rest, known, rfl⟩⟩
    · exact ⟨_, .inl ⟨by simpa using used, rfl⟩⟩

/-- A request compiles exactly when it follows the rules, for every schema. -/
theorem compile_accepts_wellFormed (schema : Schema) (request : QueryRequest) :
    (∃ prepared, request.compile schema = .ok prepared) ↔ request.WellFormed schema := by
  simp only [compile_ok]
  constructor
  · intro accepted
    obtain ⟨_, select, text, stated, written, _⟩ := accepted
    have supplied := textWith_accepts.mp ⟨text, written⟩
    rw [statement_usesVariables stated] at supplied
    obtain ⟨scope, compiled, predicate, keys, rooted, columns, condition, ordered, _⟩ :=
      statement_ok.mp stated
    obtain ⟨noArguments, noRelationships, _⟩ := rootScope_ok.mp rooted
    have documented : request.documentType? schema = some scope.object :=
      (rootScope_object ⟨noArguments, noRelationships⟩).mp ⟨scope, rooted, rfl⟩
    have wellFormed : request.query.WellFormed schema scope.object :=
      query_accepts.mp ⟨⟨compiled, columns⟩, ⟨predicate, condition⟩, keys, ordered⟩
    exact ⟨noArguments, noRelationships, ⟨scope.object, documented, wellFormed⟩, supplied⟩
  · intro wellFormed
    obtain ⟨object, documented, query⟩ := wellFormed.query
    obtain ⟨scope, rooted, rfl⟩ := (rootScope_object
      ⟨wellFormed.noArguments, wellFormed.noRelationships⟩).mpr documented
    obtain ⟨⟨compiled, columns⟩, ⟨predicate, condition⟩, keys, ordered⟩ := query_accepts.mpr query
    have stated := statement_ok.mpr
      ⟨scope, compiled, predicate, keys, rooted, columns, condition, ordered, rfl⟩
    have supplied := wellFormed.supplied
    rw [← statement_usesVariables stated] at supplied
    obtain ⟨text, written⟩ := textWith_accepts.mpr supplied
    exact ⟨_, _, text, stated, written, rfl⟩

end QueryRequest

end DocumentQuery
