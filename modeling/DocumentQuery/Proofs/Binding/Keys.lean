/-
This file proves that the literals of a compiled statement are those of its request, each under the
last name of its target.
-/

import DocumentQuery.Proofs.Binding.Literals
import DocumentQuery.Proofs.Compilation.Statement

namespace DocumentQuery

variable {schema : Schema}

/-- The last name is the last field of the path, or the column itself. -/
def ComparisonTarget.lastName (target : ComparisonTarget) : String :=
  (target.columnName :: target.fields).getLast (List.cons_ne_nil _ _)

/-- Only a scalar is a literal. -/
def ComparisonOperand.literal? : ComparisonOperand → Option Json
  | .scalar value => some value
  | .column _ | .variable _ => none

namespace Expression

mutual

/-- Each literal is listed with the last name of the target that it is compared with. -/
def literals : Expression → List (String × Json)
  | .and expressions | .or expressions => literalsEach expressions
  | .not expression => expression.literals
  | .isNull _ => []
  | .compare target _ operand => (operand.literal?.map (target.lastName, ·)).toList
  | .existsIn _ none => []
  | .existsIn _ (some expression) => expression.literals

def literalsEach : List Expression → List (String × Json)
  | [] => []
  | expression :: rest => expression.literals ++ literalsEach rest

end

end Expression

/-- The literals of a request are those of its predicate. -/
def QueryRequest.literals (request : QueryRequest) : List (String × Json) :=
  (request.query.predicate.map Expression.literals).getD []

namespace Chain

/-- Arrays on the way keep the leaf behind them, or the pending field when there is none. -/
theorem leaf_throughArrays {atName : Option String → String → NamedKind → Except Fault Chain}
    {last : Option String}
    (named : ∀ inside name kind next, atName inside name kind = .ok next →
      next.leaf? = last.or inside)
    {pending : Option String} {type : ValueType} {chain : Chain}
    (resolved : throughArrays atName pending type = .ok chain) : chain.leaf? = last.or pending := by
  induction type generalizing pending chain with
  | nullable underlying absence opened => exact opened resolved
  | named name kind => exact named pending name kind chain resolved
  | array element opened =>
      obtain ⟨next, inner, rfl⟩ := Attempt.map_eq_ok_iff.mp resolved
      rw [leaf?, opened inner, Option.or_none]

/-- A pending field is the leaf of a chain that has none of its own. -/
theorem leaf_afterPending (pending : Option String) (next : Chain) :
    (afterPending pending next).leaf? = next.leaf?.or pending := by
  cases pending with
  | none => rw [afterPending, Option.or_none]
  | some field => rfl

/-- A chain ends in the last field that is followed, also when it goes on through arrays. -/
theorem leaf_follow {pathEnd : PathEnd} {fieldPath : List String} {pending : Option String}
    {type : ValueType} {chain : Chain}
    (resolved : follow schema pathEnd fieldPath pending type = .ok chain) :
    chain.leaf? = fieldPath.getLast?.or pending := by
  induction fieldPath generalizing pending type chain with
  | nil =>
      cases pathEnd with
      | anyValue =>
          cases resolved
          rfl
      | scalar =>
          refine leaf_throughArrays ?_ resolved
          intro inside name kind next accepted
          cases kind with
          | scalar =>
              cases accepted
              rfl
          | object => simp [Attempt.bind_eq_ok_iff] at accepted
  | cons field rest continued =>
      refine leaf_throughArrays ?_ resolved
      intro inside name kind next accepted
      cases kind with
      | scalar => cases accepted
      | object =>
          simp only [Attempt.bind_eq_ok_iff, Attempt.pure_eq_ok_iff] at accepted
          obtain ⟨property, located, after, onward, rfl⟩ := accepted
          rw [leaf_afterPending, continued onward, List.getLast?_cons]
          cases rest.getLast? <;> rfl

end Chain

/-- The chain of a target ends in its last name. -/
theorem ComparisonTarget.chain_leaf {root scope : Scope} {pathEnd : PathEnd}
    {target : ComparisonTarget} {aliasName : String} {chain : Chain}
    (compiled : target.chain schema root scope pathEnd = .ok (aliasName, chain)) :
    chain.leaf? = some target.lastName := by
  obtain ⟨_, _, property, _, resolved⟩ := chain_ok.mp compiled
  rw [Chain.leaf_follow (Chain.ofColumn_ok.mp resolved).2, lastName,
    ← List.getLast?_eq_some_getLast, List.getLast?_cons]
  cases target.fields.getLast? <;> rfl

/-- A comparand has the literal of its operand. -/
theorem ComparisonOperand.comparand_literal {root scope : Scope} {operand : ComparisonOperand}
    {comparand : Comparand} (compiled : operand.comparand schema root scope = .ok comparand) :
    comparand.literal? = operand.literal? := by
  cases operand with
  | scalar value =>
      cases compiled
      rfl
  | «variable» name =>
      cases compiled
      rfl
  | column target =>
      obtain ⟨_, path, type, rfl, _⟩ := comparand_column_ok.mp compiled
      rfl

/-- The test compares the requested literal at the end of a chain with the requested name. -/
structure LiteralTest.Meets (test : LiteralTest) (requested : String × Json) : Prop where
  leaf : test.chain.leaf? = some requested.1
  value : test.value = requested.2

/-- The alias never stands in for a missing name. -/
theorem LiteralTest.Meets.key {test : LiteralTest} {requested : String × Json}
    (meets : test.Meets requested) : test.key = Draft.cleanKey requested.1 := by
  rw [LiteralTest.key, Predicate.parameterKey, meets.leaf, Option.getD_some]

namespace Expression

variable {root : Scope}

mutual

/-- The tests of a compiled predicate meet the literals of its expression one by one. -/
theorem literalTests_meet :
    ∀ (expression : Expression) (scope : Scope) (depth count : Nat) (result : Predicate × Nat),
      predicate schema root scope depth count expression = .ok result →
        List.Forall₂ LiteralTest.Meets result.1.literalTests expression.literals
  | .and expressions, scope, depth, count, result, compiled => by
      obtain ⟨_, predicates, next, inner, rfl⟩ := predicate_and_ok.mp compiled
      exact literalTestsEach_meet expressions scope (depth + 1) count _ inner
  | .or expressions, scope, depth, count, result, compiled => by
      obtain ⟨_, predicates, next, inner, rfl⟩ := predicate_or_ok.mp compiled
      exact literalTestsEach_meet expressions scope (depth + 1) count _ inner
  | .not expression, scope, depth, count, result, compiled => by
      obtain ⟨_, predicate, next, inner, rfl⟩ := predicate_not_ok.mp compiled
      exact literalTests_meet expression scope (depth + 1) count (predicate, next) inner
  | .isNull target, scope, depth, count, result, compiled => by
      obtain ⟨_, aliasName, chain, located, rfl⟩ := predicate_isNull_ok.mp compiled
      exact .nil
  | .compare target name operand, scope, depth, count, result, compiled => by
      obtain ⟨_, aliasName, chain, operator, comparand, located, known, other, rfl⟩ :=
        predicate_compare_ok.mp compiled
      simp only [Predicate.literalTests, Test.literal?, literals,
        ComparisonOperand.comparand_literal other]
      cases operand.literal? with
      | none => exact .nil
      | some value => exact .cons ⟨ComparisonTarget.chain_leaf located, rfl⟩ .nil
  | .existsIn collection none, scope, depth, count, result, compiled => by
      obtain ⟨_, column, source, element, located, rfl⟩ := predicate_exists_ok.mp compiled
      exact .nil
  | .existsIn collection (some condition), scope, depth, count, result, compiled => by
      obtain ⟨_, column, source, element, inner, predicate, next, located, opened, continued,
        rfl⟩ := predicate_existsWhere_ok.mp compiled
      exact literalTests_meet condition inner (depth + 1) (count + 1) (predicate, next) continued

/-- The tests of a list meet the literals of its expressions one behind the other. -/
theorem literalTestsEach_meet :
    ∀ (expressions : List Expression) (scope : Scope) (depth count : Nat)
      (result : List Predicate × Nat),
      predicates schema root scope depth count expressions = .ok result →
        List.Forall₂ LiteralTest.Meets (Predicate.literalTestsEach result.1)
          (literalsEach expressions)
  | [], scope, depth, count, result, compiled => by
      rw [predicates_nil_ok.mp compiled]
      exact .nil
  | first :: rest, scope, depth, count, result, compiled => by
      obtain ⟨predicate, middle, others, next, one, more, rfl⟩ := predicates_cons_ok.mp compiled
      have here := literalTests_meet first scope depth count _ one
      exact List.rel_append here (literalTestsEach_meet rest scope depth middle _ more)

end

end Expression

namespace Selection

mutual

/-- No column of a selection has a literal. -/
theorem columnOfField_literalTests :
    ∀ (field : Field) (scope : Scope) (depth : Nat) (bound : List String) (aliasName : String)
      (projection : Projection),
      columnOfField schema scope depth bound aliasName field = .ok projection →
        Select.literalTestsOfColumn projection = []
  | .relationship query relationship arguments, scope, depth, bound, aliasName, projection,
      compiled =>
      absurd compiled columnOfField_relationship
  | .column column none, scope, depth, bound, aliasName, projection, compiled => by
      obtain ⟨_, rfl⟩ := columnOfField_plain_ok.mp compiled
      rfl
  | .column column (some nested), scope, depth, bound, aliasName, projection, compiled => by
      obtain ⟨property, _, inner⟩ := columnOfField_nested_ok.mp compiled
      exact subquery_literalTests nested _ property.type column depth bound projection inner

/-- A row of selected columns has no literal. -/
theorem columnsOfFields_literalTests :
    ∀ (fields : List (String × Field)) (scope : Scope) (depth : Nat) (bound : List String)
      (columns : List (String × Projection)),
      columnsOfFields schema scope depth bound fields = .ok columns →
        Select.literalTestsOfColumns columns = []
  | [], scope, depth, bound, columns, compiled => by
      rw [columnsOfFields_nil_ok.mp compiled]
      rfl
  | (aliasName, first) :: rest, scope, depth, bound, columns, compiled => by
      obtain ⟨projection, others, one, more, rfl⟩ := columnsOfFields_cons_ok.mp compiled
      rw [Select.literalTestsOfColumns,
        columnOfField_literalTests first scope depth bound aliasName projection one,
        columnsOfFields_literalTests rest scope depth bound others more, List.append_nil]

/-- A subquery has no literal, because it selects without a condition. -/
theorem subquery_literalTests :
    ∀ (nested : Selection) (source : Path) (type : ValueType) (field : String) (depth : Nat)
      (enclosing : List String) (projection : Projection),
      subquery schema source type field depth enclosing nested = .ok projection →
        Select.literalTestsOfColumn projection = []
  | .object fields, source, type, field, depth, enclosing, projection, compiled => by
      obtain ⟨name, object, columns, _, _, _, inner, rfl⟩ := subquery_object_ok.mp compiled
      exact (List.append_nil _).trans
        (columnsOfFields_literalTests fields _ _ _ columns inner)
  | .array elements, source, type, field, depth, enclosing, projection, compiled => by
      obtain ⟨element, select, _, inner, rfl⟩ := subquery_array_ok.mp compiled
      exact selectElements_literalTests elements source _ element (depth + 1) enclosing select inner

/-- The elements of an array are selected without a literal. -/
theorem selectElements_literalTests :
    ∀ (elements : Selection) (source : Path) (aliasName : String) (element : ValueType)
      (depth : Nat) (enclosing : List String) (select : Select),
      selectElements schema source aliasName element depth enclosing elements = .ok select →
        select.literalTests = []
  | .object fields, source, aliasName, element, depth, enclosing, select, compiled => by
      obtain ⟨_, name, object, columns, _, _, inner, rfl⟩ := selectElements_object_ok.mp compiled
      exact (List.append_nil _).trans
        (columnsOfFields_literalTests fields _ _ _ columns inner)
  | .array elements, source, aliasName, element, depth, enclosing, select, compiled => by
      obtain ⟨_, inner, embedded, _, continued, rfl⟩ := selectElements_array_ok.mp compiled
      have within := selectElements_literalTests elements _ _ inner (depth + 1) _ embedded continued
      simp [Select.literalTests, Select.literalTestsOfColumns, Select.literalTestsOfColumn, within]

end

end Selection

/-- No aggregate has a literal. -/
theorem Aggregate.columns_literalTests {scope : Scope} {aggregates : Table Aggregate}
    {compiled : Table Projection} (accepted : columns schema scope aggregates = .ok compiled) :
    Select.literalTestsOfColumns compiled = [] := by
  have applied := column_of_mem accepted
  clear accepted
  induction compiled with
  | nil => rfl
  | cons first rest continued =>
      obtain ⟨⟨_, _, call, _, same⟩, others⟩ := List.forall_mem_cons.mp applied
      obtain ⟨aliasName, projection⟩ := first
      cases same
      exact continued others

namespace QueryRequest

/-- Neither fields nor aggregates have a literal. -/
theorem columns_literalTests {scope : Scope} {query : Query} {compiled : Table Projection}
    (accepted : columns schema scope query = .ok compiled) :
    Select.literalTestsOfColumns compiled = [] := by
  rcases columns_cases accepted with ⟨fields, selected⟩ | ⟨aggregates, applied⟩ | rfl
  · exact Selection.columnsOfFields_literalTests fields _ _ _ compiled
      (Selection.columns_ok.mp selected)
  · exact Aggregate.columns_literalTests applied
  · rfl

/-- Only the condition of a compiled statement has literals. -/
theorem statement_literalTests {request : QueryRequest} {select : Select}
    (stated : request.statement schema = .ok select) :
    Select.literalTestsOfColumns select.columns = [] ∧
      List.Forall₂ LiteralTest.Meets select.literalTests request.literals := by
  obtain ⟨scope, compiled, predicate, keys, _, columns, condition, _, rfl⟩ := statement_ok.mp stated
  have none := columns_literalTests columns
  refine ⟨none, ?_⟩
  rw [Select.literalTests, none, List.nil_append, literals]
  have compiles := condition_related condition
  generalize request.query.predicate = requested at compiles ⊢
  cases compiles with
  | none => exact .nil
  | some resolved =>
      obtain ⟨count, resolved⟩ := resolved
      exact Expression.literalTests_meet _ scope 1 0 _ resolved

end QueryRequest

end DocumentQuery
