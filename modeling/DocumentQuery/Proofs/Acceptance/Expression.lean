/-
This file proves that expressions compile exactly when they are well formed and shallow enough.
-/

import DocumentQuery.Proofs.Acceptance.Path

namespace DocumentQuery

theorem ComparisonTarget.among_object {root scope : Scope} (target : ComparisonTarget) :
    (target.among root scope).object = target.among root.object scope.object := by
  cases target <;> rfl

section Tests

variable {schema : Schema} {root scope : Scope}

/-- The chain of a target comes from a direct path that ends well. -/
theorem ComparisonTarget.chain_sound {pathEnd : PathEnd} {target : ComparisonTarget}
    {aliasName : String} {chain : Chain}
    (compiled : target.chain schema root scope pathEnd = .ok (aliasName, chain)) :
    target.IsDirect ∧ ∃ last,
      (target.among root.object scope.object).Reaches schema target.columnName target.fields last ∧
        Chain.EndsWell chain.scalarType? last pathEnd := by
  obtain ⟨direct, _, property, known, resolved⟩ := chain_ok.mp compiled
  obtain ⟨short, followed⟩ := Chain.ofColumn_ok.mp resolved
  obtain ⟨last, reached, ends⟩ := Chain.follow_sound followed
  rw [among_object] at known
  exact ⟨direct, last, ⟨short, property, known, reached⟩, ends⟩

/-- A direct path that ends well has a chain. -/
theorem ComparisonTarget.chain_complete {pathEnd : PathEnd} {target : ComparisonTarget}
    {last : ValueType} {scalarType : Option String} (direct : target.IsDirect)
    (reaches : (target.among root.object scope.object).Reaches schema target.columnName
      target.fields last)
    (ends : Chain.EndsWell scalarType last pathEnd) :
    ∃ aliasName chain, target.chain schema root scope pathEnd = .ok (aliasName, chain) := by
  obtain ⟨short, property, known, reached⟩ := reaches
  obtain ⟨chain, followed⟩ : ∃ chain, Chain.follow schema pathEnd target.fields
      (some target.columnName) property.type = .ok chain := Chain.follow_complete reached ends
  rw [← among_object] at known
  exact ⟨_, chain, chain_ok.mpr ⟨direct, rfl, property, known,
    Chain.ofColumn_ok.mpr ⟨short, followed⟩⟩⟩

/-- A null check accepts a target whenever its path is well formed, whatever it ends at. -/
theorem ComparisonTarget.isNull_accepts {target : ComparisonTarget} :
    (∃ aliasName chain, target.chain schema root scope .anyValue = .ok (aliasName, chain)) ↔
      target.WellFormed schema root.object scope.object := by
  constructor
  · intro accepted
    obtain ⟨aliasName, chain, compiled⟩ := accepted
    obtain ⟨direct, last, reached, _⟩ := chain_sound compiled
    exact ⟨direct, last, reached⟩
  · intro accepted
    obtain ⟨direct, last, reached⟩ := accepted
    have ends : Chain.EndsWell none last .anyValue := rfl
    exact chain_complete direct reached ends

/-- A comparison accepts a target exactly when its scalar type has the operator. -/
theorem ComparisonTarget.compare_accepts {target : ComparisonTarget} {name : String} :
    (∃ aliasName chain operator, target.chain schema root scope .scalar = .ok (aliasName, chain) ∧
      Expression.comparisonOperator chain name = .ok operator) ↔
      target.WellFormedFor schema root.object scope.object name := by
  constructor
  · intro accepted
    obtain ⟨aliasName, chain, operator, compiled, chosen⟩ := accepted
    obtain ⟨direct, last, reached, ends⟩ := chain_sound compiled
    obtain ⟨scalarType, same, base⟩ := ends
    obtain ⟨scalarType', same', registered⟩ := Expression.comparisonOperator_ok.mp chosen
    rw [same] at same'
    cases same'
    exact ⟨direct, last, scalarType, reached, base,
      Operators.comparison_iff.mp ⟨operator, registered⟩⟩
  · intro accepted
    obtain ⟨direct, last, scalarType, reached, base, compares⟩ := accepted
    have ends : Chain.EndsWell (some scalarType) last .scalar := ⟨scalarType, rfl, base⟩
    obtain ⟨aliasName, chain, compiled⟩ := chain_complete direct reached ends
    obtain ⟨operator, registered⟩ := Operators.comparison_iff.mpr compares
    obtain ⟨_, last', reached', ends'⟩ := chain_sound compiled
    obtain ⟨scalarType', same, base'⟩ := ends'
    obtain ⟨_, property, known, onward⟩ := reached
    obtain ⟨_, property', known', onward'⟩ := reached'
    rw [known] at known'
    cases known'
    cases onward.unique onward'
    rw [base] at base'
    cases base'
    exact ⟨aliasName, chain, operator, compiled,
      Expression.comparisonOperator_ok.mpr ⟨scalarType, same, registered⟩⟩

/-- An operand compiles exactly when it is well formed. -/
theorem ComparisonOperand.comparand_accepts {operand : ComparisonOperand} :
    (∃ comparand, operand.comparand schema root scope = .ok comparand) ↔
      operand.WellFormed schema root.object scope.object := by
  cases operand with
  | scalar value => exact ⟨fun _ => trivial, fun _ => ⟨_, rfl⟩⟩
  | «variable» name => exact ⟨fun _ => trivial, fun _ => ⟨_, rfl⟩⟩
  | column target =>
      simp only [comparand_column_ok, WellFormed, ← ComparisonTarget.among_object,
        ← Scope.objectPath_iff]
      constructor
      · intro accepted
        obtain ⟨_, direct, path, last, _, resolved⟩ := accepted
        exact ⟨direct, last, path, resolved⟩
      · intro accepted
        obtain ⟨direct, last, path, resolved⟩ := accepted
        exact ⟨_, direct, path, last, rfl, resolved⟩

/-- A search opens exactly the nested arrays that are reached through objects. -/
theorem SearchedCollection.searched_accepts {collection : SearchedCollection}
    {element : ValueType} :
    (∃ column source, Expression.searched schema scope collection =
      .ok (column, source, element)) ↔ collection.HasElements schema scope.object element := by
  simp only [Expression.searched_ok]
  constructor
  · intro accepted
    obtain ⟨column, source, fieldPath, last, rfl, resolved, required⟩ := accepted
    exact ⟨rfl, last, Scope.objectPath_iff.mp ⟨source, resolved⟩, required⟩
  · intro has
    cases collection with
    | related relationship arguments => cases has
    | unrelated name arguments => cases has
    | nested column arguments fieldPath =>
        obtain ⟨rfl, last, crosses, required⟩ := has
        obtain ⟨source, resolved⟩ := Scope.objectPath_iff.mpr crosses
        exact ⟨column, source, fieldPath, last, rfl, resolved, required⟩

end Tests

namespace Expression

variable {schema : Schema} {root : Scope}

/-- Every expression takes at least one level. -/
theorem levels_pos (expression : Expression) : 1 ≤ expression.levels := by
  cases expression with
  | existsIn collection condition =>
      cases condition <;> simp [levels]
  | and expressions => simp [levels]
  | or expressions => simp [levels]
  | not expression => simp [levels]
  | isNull target => simp [levels]
  | compare target name operand => simp [levels]

mutual

/-- The induction is on the expression, for every scope, depth and count of elements. -/
theorem predicate_accepts :
    ∀ (expression : Expression) (scope : Scope) (depth count : Nat),
      (∃ compiled next, predicate schema root scope depth count expression =
        .ok (compiled, next)) ↔
        expression.WellFormed schema root.object scope.object ∧
          depth + expression.levels ≤ maximumNesting + 1
  | .and expressions, scope, depth, count => by
      simp only [predicate_and_ok, WellFormed, levels]
      constructor
      · intro accepted
        obtain ⟨_, _, shallow, predicates, next, inner, _⟩ := accepted
        have within := (predicates_accept expressions scope (depth + 1) count (by omega)).mp
          ⟨predicates, next, inner⟩
        exact ⟨within.1, by omega⟩
      · intro accepted
        obtain ⟨wellFormed, shallow⟩ := accepted
        obtain ⟨predicates, next, inner⟩ :=
          (predicates_accept expressions scope (depth + 1) count (by omega)).mpr
            ⟨wellFormed, by omega⟩
        exact ⟨_, _, by omega, predicates, next, inner, rfl⟩
  | .or expressions, scope, depth, count => by
      simp only [predicate_or_ok, WellFormed, levels]
      constructor
      · intro accepted
        obtain ⟨_, _, shallow, predicates, next, inner, _⟩ := accepted
        have within := (predicates_accept expressions scope (depth + 1) count (by omega)).mp
          ⟨predicates, next, inner⟩
        exact ⟨within.1, by omega⟩
      · intro accepted
        obtain ⟨wellFormed, shallow⟩ := accepted
        obtain ⟨predicates, next, inner⟩ :=
          (predicates_accept expressions scope (depth + 1) count (by omega)).mpr
            ⟨wellFormed, by omega⟩
        exact ⟨_, _, by omega, predicates, next, inner, rfl⟩
  | .not expression, scope, depth, count => by
      have accepts := predicate_accepts expression scope (depth + 1) count
      simp only [predicate_not_ok, WellFormed, levels]
      constructor
      · intro accepted
        obtain ⟨_, _, shallow, inner, next, compiled, _⟩ := accepted
        have within := accepts.mp ⟨inner, next, compiled⟩
        exact ⟨within.1, by omega⟩
      · intro accepted
        obtain ⟨wellFormed, shallow⟩ := accepted
        obtain ⟨inner, next, compiled⟩ := accepts.mpr ⟨wellFormed, by omega⟩
        exact ⟨_, _, by omega, inner, next, compiled, rfl⟩
  | .isNull target, scope, depth, count => by
      simp only [predicate_isNull_ok, WellFormed, levels, ← ComparisonTarget.isNull_accepts]
      constructor
      · intro accepted
        obtain ⟨_, _, shallow, aliasName, chain, compiled, _⟩ := accepted
        exact ⟨⟨aliasName, chain, compiled⟩, by omega⟩
      · intro accepted
        obtain ⟨⟨aliasName, chain, compiled⟩, shallow⟩ := accepted
        exact ⟨_, _, by omega, aliasName, chain, compiled, rfl⟩
  | .compare target name operand, scope, depth, count => by
      simp only [predicate_compare_ok, WellFormed, levels, ← ComparisonTarget.compare_accepts,
        ← ComparisonOperand.comparand_accepts]
      constructor
      · intro accepted
        obtain ⟨_, _, shallow, aliasName, chain, operator, comparand, compiled, chosen, other, _⟩ :=
          accepted
        exact ⟨⟨⟨aliasName, chain, operator, compiled, chosen⟩, comparand, other⟩, by omega⟩
      · intro accepted
        obtain ⟨⟨⟨aliasName, chain, operator, compiled, chosen⟩, comparand, other⟩, shallow⟩ :=
          accepted
        exact ⟨_, _, by omega, aliasName, chain, operator, comparand, compiled, chosen, other, rfl⟩
  | .existsIn collection none, scope, depth, count => by
      simp only [predicate_exists_ok, WellFormed, levels, ← SearchedCollection.searched_accepts]
      constructor
      · intro accepted
        obtain ⟨_, _, shallow, column, source, element, located, _⟩ := accepted
        exact ⟨⟨element, column, source, located⟩, by omega⟩
      · intro accepted
        obtain ⟨⟨element, column, source, located⟩, shallow⟩ := accepted
        exact ⟨_, _, by omega, column, source, element, located, rfl⟩
  | .existsIn collection (some expression), scope, depth, count => by
      simp only [predicate_existsWhere_ok, WellFormed, levels,
        ← SearchedCollection.searched_accepts, elementScope_ok]
      constructor
      · intro accepted
        obtain ⟨_, _, shallow, column, source, element, inner, compiled, next, located, ⟨name,
          object, required, known, rfl⟩, continued, _⟩ := accepted
        have within := (predicate_accepts expression _ (depth + 1) (count + 1)).mp
          ⟨compiled, next, continued⟩
        exact ⟨⟨element, name, object, ⟨column, source, located⟩, required, known, within.1⟩,
          by omega⟩
      · intro accepted
        obtain ⟨⟨element, name, object, ⟨column, source, located⟩, required, known, wellFormed⟩,
          shallow⟩ := accepted
        obtain ⟨compiled, next, continued⟩ :=
          (predicate_accepts expression ⟨elementAlias (count + 1), name, object⟩ (depth + 1)
            (count + 1)).mpr ⟨wellFormed, by omega⟩
        have nested := levels_pos expression
        exact ⟨_, _, by omega, column, source, element, _, compiled, next, located,
          ⟨name, object, required, known, rfl⟩, continued, rfl⟩

/-- A list of expressions is accepted when each one is and the deepest one has room. -/
theorem predicates_accept :
    ∀ (expressions : List Expression) (scope : Scope) (depth count : Nat),
      depth ≤ maximumNesting + 1 →
        ((∃ compiled next, predicates schema root scope depth count expressions =
          .ok (compiled, next)) ↔
          AllWellFormed schema root.object scope.object expressions ∧
            depth + mostLevels expressions ≤ maximumNesting + 1)
  | [], scope, depth, count, shallow => by
      simp only [predicates_nil_ok, AllWellFormed, mostLevels, true_and]
      exact ⟨fun _ => shallow, fun _ => ⟨[], count, rfl⟩⟩
  | first :: rest, scope, depth, count, shallow => by
      have one := predicate_accepts first scope depth
      have more := fun count => predicates_accept rest scope depth count shallow
      simp only [predicates_cons_ok, AllWellFormed, mostLevels]
      constructor
      · intro accepted
        obtain ⟨_, _, predicate, middle, others, next, compiled, continued, _⟩ := accepted
        have head := (one count).mp ⟨predicate, middle, compiled⟩
        have tail := (more middle).mp ⟨others, next, continued⟩
        exact ⟨⟨head.1, tail.1⟩, by omega⟩
      · intro accepted
        obtain ⟨⟨head, tail⟩, bounded⟩ := accepted
        obtain ⟨predicate, middle, compiled⟩ := (one count).mpr ⟨head, by omega⟩
        obtain ⟨others, next, continued⟩ := (more middle).mpr ⟨tail, by omega⟩
        exact ⟨_, _, predicate, middle, others, next, compiled, continued, rfl⟩

end

/-- A condition of a collection has at most as many levels as the nesting allows. -/
theorem condition_accepts {expression : Expression} :
    (∃ compiled, condition schema root expression = .ok compiled) ↔
      expression.WellFormed schema root.object root.object ∧
        expression.levels ≤ maximumNesting := by
  have accepts : _ ↔ expression.WellFormed schema root.object root.object ∧ _ :=
    predicate_accepts expression root 1 0
  simp only [condition, Attempt.map_eq_ok_iff, Prod.exists]
  constructor
  · intro accepted
    obtain ⟨_, compiled, next, compiles, _⟩ := accepted
    have within := accepts.mp ⟨compiled, next, compiles⟩
    exact ⟨within.1, by omega⟩
  · intro accepted
    obtain ⟨wellFormed, shallow⟩ := accepted
    obtain ⟨compiled, next, compiles⟩ := accepts.mpr ⟨wellFormed, by omega⟩
    exact ⟨compiled, compiled, next, compiles, rfl⟩

end Expression

end DocumentQuery
