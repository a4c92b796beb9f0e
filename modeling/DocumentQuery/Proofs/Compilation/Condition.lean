/-
This file says when each kind of expression compiles and which condition it becomes.
-/

import DocumentQuery.Compilation.Condition
import DocumentQuery.Proofs.Resolution

namespace DocumentQuery

namespace ComparisonTarget

/-- A target is looked up in the collection or in the current object. -/
def among {Choice : Type} (root here : Choice) : ComparisonTarget → Choice
  | .column .. => here
  | .rootColumn .. => root

/-- The name of a target is that of its column, whichever scope it is looked up in. -/
def columnName : ComparisonTarget → String
  | .column name _ _ | .rootColumn name _ => name

/-- A missing field path is an empty one. -/
def fields : ComparisonTarget → List String
  | .column _ fieldPath _ | .rootColumn _ fieldPath => fieldPath.getD []

/-- No relationship is crossed before the column. -/
def IsDirect : ComparisonTarget → Prop
  | .column _ _ path => path = []
  | .rootColumn .. => True

/-- A target is located exactly when it crosses no relationship. -/
theorem locate_ok {root scope : Scope} {target : ComparisonTarget} {column : TargetColumn} :
    target.locate root scope = .ok column ↔
      target.IsDirect ∧ column = ⟨target.columnName, target.fields, target.among root scope⟩ := by
  cases target with
  | column name fieldPath path =>
      cases path with
      | nil => simp [locate, IsDirect, columnName, fields, among, eq_comm]
      | cons element rest => simp [locate, IsDirect]
  | rootColumn name fieldPath => simp [locate, IsDirect, columnName, fields, among, eq_comm]

/-- A direct target has the chain of its column, from the alias that it is looked up in. -/
theorem chain_ok {schema : Schema} {root scope : Scope} {pathEnd : PathEnd}
    {target : ComparisonTarget} {aliasName : String} {chain : Chain} :
    target.chain schema root scope pathEnd = .ok (aliasName, chain) ↔
      target.IsDirect ∧ aliasName = (target.among root scope).aliasName ∧
        ∃ property, (target.among root scope).object.property? target.columnName = some property ∧
          Chain.ofColumn schema pathEnd target.columnName property.type target.fields =
            .ok chain := by
  simp only [ComparisonTarget.chain, Attempt.bind_eq_ok_iff, locate_ok, Scope.property_ok,
    Attempt.pure_eq_ok_iff, Prod.mk.injEq]
  constructor
  · intro accepted
    obtain ⟨_, ⟨direct, rfl⟩, property, known, _, resolved, rfl, rfl⟩ := accepted
    exact ⟨direct, rfl, property, known, resolved⟩
  · intro accepted
    obtain ⟨direct, rfl, property, known, resolved⟩ := accepted
    exact ⟨_, ⟨direct, rfl⟩, property, known, chain, resolved, rfl, rfl⟩

end ComparisonTarget

/-- An operand that is a column has a path through objects only. -/
theorem ComparisonOperand.comparand_column_ok {schema : Schema} {root scope : Scope}
    {target : ComparisonTarget} {comparand : Comparand} :
    ComparisonOperand.comparand schema root scope (.column target) = .ok comparand ↔
      target.IsDirect ∧ ∃ path type, comparand = .column path ∧
        (target.among root scope).objectPath schema target.columnName target.fields =
          .ok (path, type) := by
  simp only [ComparisonOperand.comparand, Attempt.bind_eq_ok_iff, ComparisonTarget.locate_ok, Prod.exists,
    Attempt.pure_eq_ok_iff]
  constructor
  · intro accepted
    obtain ⟨_, ⟨direct, rfl⟩, path, type, resolved, rfl⟩ := accepted
    exact ⟨direct, path, type, rfl, resolved⟩
  · intro accepted
    obtain ⟨direct, path, type, rfl, resolved⟩ := accepted
    exact ⟨_, ⟨direct, rfl⟩, path, type, resolved, rfl⟩

namespace Expression

/-- Expressions are accepted down to the limit of nesting. -/
theorem checkDepth_ok {depth : Nat} {done : Unit} :
    checkDepth depth = .ok done ↔ depth ≤ maximumNesting := by
  unfold checkDepth
  split <;> simp_all

/-- A chain takes the binary operators that its scalar type registers, but no null check. -/
theorem comparisonOperator_ok {chain : Chain} {name : String} {operator : ComparisonOperator} :
    comparisonOperator chain name = .ok operator ↔
      ∃ scalarType, chain.scalarType? = some scalarType ∧
        Operators.comparison scalarType name = .ok operator ∧
          operator.isUnary = false ∧ operator.name ≠ Operators.isNull.name := by
  unfold comparisonOperator
  cases chain.scalarType? with
  | none => simp
  | some scalarType =>
      simp only [Attempt.bind_eq_ok_iff, Option.some.injEq, exists_eq_left']
      constructor
      · intro accepted
        obtain ⟨found, registered, accepted⟩ := accepted
        split at accepted
        next => simp at accepted
        next binary =>
          simp only [Attempt.pure_eq_ok_iff] at accepted
          subst accepted
          exact ⟨registered, by simpa using binary⟩
      · intro accepted
        obtain ⟨registered, notUnary, other⟩ := accepted
        exact ⟨operator, registered, by simp [notUnary, other]⟩

/-- Only a nested collection without arguments is searched, and its path ends at an array. -/
theorem searched_ok {schema : Schema} {scope : Scope} {collection : SearchedCollection}
    {column : String} {source : Path} {element : ValueType} :
    searched schema scope collection = .ok (column, source, element) ↔
      ∃ fieldPath type, collection = .nested column [] fieldPath ∧
        scope.objectPath schema column fieldPath = .ok (source, type) ∧
          type.required = .array element := by
  cases collection with
  | related relationship arguments => simp [searched]
  | unrelated name arguments => simp [searched]
  | nested name arguments fieldPath =>
      cases arguments with
      | cons argument rest => simp [searched]
      | nil =>
          simp only [searched, Attempt.bind_eq_ok_iff, Prod.exists]
          constructor
          · intro accepted
            obtain ⟨path, type, resolved, shaped⟩ := accepted
            split at shaped
            next element required =>
              simp only [Attempt.pure_eq_ok_iff, Prod.mk.injEq] at shaped
              obtain ⟨rfl, rfl, rfl⟩ := shaped
              exact ⟨fieldPath, type, rfl, resolved, required⟩
            next => simp at shaped
          · intro accepted
            obtain ⟨_, type, same, resolved, required⟩ := accepted
            cases same
            exact ⟨source, type, resolved, by simp [required]⟩

/-- The elements of a searched array have a scope exactly when their type is a declared object
type. -/
theorem elementScope_ok {schema : Schema} {column aliasName : String} {element : ValueType}
    {scope : Scope} :
    elementScope schema column aliasName element = .ok scope ↔
      ∃ name object, element.required = .named name .object ∧
        schema.objectType? name = some object ∧ scope = ⟨aliasName, name, object⟩ := by
  unfold elementScope
  split
  next name required =>
    rw [required]
    cases known : schema.objectType? name with
    | none => simp [known]
    | some object => simp [known, eq_comm]
  next other =>
    constructor
    · intro failed
      cases failed
    · intro accepted
      obtain ⟨name, _, required, _⟩ := accepted
      exact absurd required (other name)

section Predicates

variable {schema : Schema} {root scope : Scope} {depth count : Nat} {result : Predicate × Nat}

/-- A conjunction compiles one level deeper, and its parts pass the count on. -/
theorem predicate_and_ok {expressions : List Expression} :
    predicate schema root scope depth count (.and expressions) = .ok result ↔
      depth ≤ maximumNesting ∧ ∃ predicates count',
        Expression.predicates schema root scope (depth + 1) count expressions =
          .ok (predicates, count') ∧ result = (.and predicates, count') := by
  simp only [predicate, Attempt.bind_eq_ok_iff, checkDepth_ok, Prod.exists, Attempt.pure_eq_ok_iff,
    exists_const, @eq_comm _ _ result]

/-- A disjunction compiles as a conjunction does. -/
theorem predicate_or_ok {expressions : List Expression} :
    predicate schema root scope depth count (.or expressions) = .ok result ↔
      depth ≤ maximumNesting ∧ ∃ predicates count',
        Expression.predicates schema root scope (depth + 1) count expressions =
          .ok (predicates, count') ∧ result = (.or predicates, count') := by
  simp only [predicate, Attempt.bind_eq_ok_iff, checkDepth_ok, Prod.exists, Attempt.pure_eq_ok_iff,
    exists_const, @eq_comm _ _ result]

/-- A negation compiles one level deeper. -/
theorem predicate_not_ok {expression : Expression} :
    predicate schema root scope depth count (.not expression) = .ok result ↔
      depth ≤ maximumNesting ∧ ∃ inner count',
        predicate schema root scope (depth + 1) count expression = .ok (inner, count') ∧
          result = (.not inner, count') := by
  simp only [predicate, Attempt.bind_eq_ok_iff, checkDepth_ok, Prod.exists, Attempt.pure_eq_ok_iff,
    exists_const, @eq_comm _ _ result]

/-- A null check takes a chain to any value and opens no search. -/
theorem predicate_isNull_ok {target : ComparisonTarget} :
    predicate schema root scope depth count (.isNull target) = .ok result ↔
      depth ≤ maximumNesting ∧ ∃ aliasName chain,
        target.chain schema root scope .anyValue = .ok (aliasName, chain) ∧
          result = (.test aliasName chain .isNull, count) := by
  simp only [predicate, Attempt.bind_eq_ok_iff, checkDepth_ok, Prod.exists, Attempt.pure_eq_ok_iff,
    exists_const, @eq_comm _ _ result]

/-- A comparison takes a chain to a scalar, a registered operator and a comparand. -/
theorem predicate_compare_ok {target : ComparisonTarget} {name : String}
    {operand : ComparisonOperand} :
    predicate schema root scope depth count (.compare target name operand) = .ok result ↔
      depth ≤ maximumNesting ∧ ∃ aliasName chain operator comparand,
        target.chain schema root scope .scalar = .ok (aliasName, chain) ∧
          comparisonOperator chain name = .ok operator ∧
            operand.comparand schema root scope = .ok comparand ∧
              result = (.test aliasName chain (.compare operator comparand), count) := by
  simp only [predicate, Attempt.bind_eq_ok_iff, checkDepth_ok, Prod.exists, Attempt.pure_eq_ok_iff]
  constructor
  · intro accepted
    obtain ⟨_, shallow, aliasName, chain, reached, operator, known, comparand, other, rfl⟩ :=
      accepted
    exact ⟨shallow, aliasName, chain, operator, comparand, reached, known, other, rfl⟩
  · intro accepted
    obtain ⟨shallow, aliasName, chain, operator, comparand, reached, known, other, rfl⟩ := accepted
    exact ⟨(), shallow, aliasName, chain, reached, operator, known, comparand, other, rfl⟩

/-- A search without a condition binds the next element alias and needs no object type. -/
theorem predicate_exists_ok {collection : SearchedCollection} :
    predicate schema root scope depth count (.existsIn collection none) = .ok result ↔
      depth ≤ maximumNesting ∧ ∃ column source element,
        searched schema scope collection = .ok (column, source, element) ∧
          result = (.existsIn source (elementAlias (count + 1)) none, count + 1) := by
  simp only [predicate, Attempt.bind_eq_ok_iff, checkDepth_ok, Prod.exists, Attempt.pure_eq_ok_iff,
    exists_const, @eq_comm _ _ result]

/-- The condition of a search compiles in the scope of the element that it binds. -/
theorem predicate_existsWhere_ok {collection : SearchedCollection} {condition : Expression} :
    predicate schema root scope depth count (.existsIn collection (some condition)) = .ok result ↔
      depth ≤ maximumNesting ∧ ∃ column source element inner predicate' count',
        searched schema scope collection = .ok (column, source, element) ∧
          elementScope schema column (elementAlias (count + 1)) element = .ok inner ∧
            predicate schema root inner (depth + 1) (count + 1) condition =
              .ok (predicate', count') ∧
              result =
                (.existsIn source (elementAlias (count + 1)) (some predicate'), count') := by
  simp only [predicate, Attempt.bind_eq_ok_iff, checkDepth_ok, Prod.exists, Attempt.pure_eq_ok_iff]
  constructor
  · intro accepted
    obtain ⟨_, shallow, column, source, element, located, inner, opened, predicate', count',
      compiled, rfl⟩ := accepted
    exact ⟨shallow, column, source, element, inner, predicate', count', located, opened, compiled,
      rfl⟩
  · intro accepted
    obtain ⟨shallow, column, source, element, inner, predicate', count', located, opened,
      compiled, rfl⟩ := accepted
    exact ⟨(), shallow, column, source, element, located, inner, opened, predicate', count',
      compiled, rfl⟩

theorem predicates_nil_ok {result : List Predicate × Nat} :
    predicates schema root scope depth count [] = .ok result ↔ result = ([], count) := by
  simp only [predicates, Except.ok.injEq, @eq_comm _ _ result]

/-- The count goes from each expression to the next one. -/
theorem predicates_cons_ok {first : Expression} {rest : List Expression}
    {result : List Predicate × Nat} :
    predicates schema root scope depth count (first :: rest) = .ok result ↔
      ∃ predicate' middle others count',
        predicate schema root scope depth count first = .ok (predicate', middle) ∧
          predicates schema root scope depth middle rest = .ok (others, count') ∧
            result = (predicate' :: others, count') := by
  simp only [predicates, Attempt.bind_eq_ok_iff, Prod.exists, Attempt.pure_eq_ok_iff]
  constructor
  · intro accepted
    obtain ⟨predicate', middle, compiled, others, count', continued, rfl⟩ := accepted
    exact ⟨predicate', middle, others, count', compiled, continued, rfl⟩
  · intro accepted
    obtain ⟨predicate', middle, others, count', compiled, continued, rfl⟩ := accepted
    exact ⟨predicate', middle, compiled, others, count', continued, rfl⟩

end Predicates

end Expression

end DocumentQuery
