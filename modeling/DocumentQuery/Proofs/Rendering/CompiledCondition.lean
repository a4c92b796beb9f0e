/-
This file proves that the conditions compiled over a valid schema can be read.
-/

import DocumentQuery.Proofs.Compilation.Condition
import DocumentQuery.Proofs.Dialect.Readable
import DocumentQuery.Proofs.Naming
import DocumentQuery.Proofs.Registry
import DocumentQuery.Proofs.Rendering.Tree
import DocumentQuery.Proofs.Validation

namespace DocumentQuery

open Dialect

variable {schema : Schema}

namespace Schema

/-- A property that is found has a safe name. -/
theorem HasSafeNames.nested (names : schema.HasSafeNames) {objectName field : String}
    {property : Property} (located : schema.nested? objectName field = some property) :
    Identifier.isSafe field := by
  obtain ⟨object, known, inside⟩ := Option.bind_eq_some_iff.mp located
  exact names.objects objectName object known field property inside

/-- Every field that a path crosses has a safe name. -/
theorem Crosses.safe (names : schema.HasSafeNames) {type last : ValueType}
    {fields : List String} (crosses : schema.Crosses type fields last) :
    ∀ field ∈ fields, Identifier.isSafe field := by
  induction crosses with
  | here type => simp
  | field required located onward continued =>
      rw [List.forall_mem_cons]
      exact ⟨names.nested located, continued⟩

end Schema

/-- The alias is one that the compiler gives out, and the properties behind it are safe. -/
structure Scope.HasSafeNames (scope : Scope) : Prop where
  aliasName : Identifier.IsAlias scope.aliasName
  object : scope.object.HasSafeNames

/-- A column of the scope can be read. -/
theorem Scope.HasSafeNames.column {scope : Scope} (safe : scope.HasSafeNames) {column : String}
    {property : Property} (known : scope.object.property? column = some property) :
    PathReadable ⟨scope.aliasName, [column]⟩ := by
  refine ⟨safe.aliasName.plain, ?_⟩
  intro field member
  rw [List.mem_singleton.mp member]
  exact safe.object column property known

/-- An object path of the scope can be read as an operand. -/
theorem Scope.HasSafeNames.objectPath {scope : Scope} (safe : scope.HasSafeNames)
    (names : schema.HasSafeNames) {column : String} {fieldPath : List String} {path : Path}
    {last : ValueType} (resolved : scope.objectPath schema column fieldPath = .ok (path, last)) :
    (Operand.path path).Readable := by
  obtain ⟨rfl, _, property, known, crosses⟩ := Scope.objectPath_ok.mp resolved
  refine ⟨⟨safe.aliasName.plain, ?_⟩, safe.aliasName.ne_variables⟩
  rw [List.forall_mem_cons]
  exact ⟨safe.object column property known, crosses.safe names⟩

/-- A target is looked up in a scope of safe names. -/
theorem Scope.HasSafeNames.among {root scope : Scope} (here : scope.HasSafeNames)
    (rooted : root.HasSafeNames) (target : ComparisonTarget) :
    (target.among root scope).HasSafeNames := by
  cases target with
  | column name fieldPath path => exact here
  | rootColumn name fieldPath => exact rooted

theorem Path.readable_ofAlias {aliasName : String} (isAlias : Identifier.IsAlias aliasName) :
    (Operand.path (.ofAlias aliasName)).Readable :=
  ⟨⟨isAlias.plain, by simp [ofAlias]⟩, isAlias.ne_variables⟩

/-- A path with another safe field can be read. -/
theorem Path.readable_step {path : Path} {field : String}
    (readable : (Operand.path path).Readable) (safe : Identifier.isSafe field) :
    (Operand.path (path.step field)).Readable := by
  obtain ⟨⟨plain, fields⟩, other⟩ := readable
  refine ⟨⟨plain, ?_⟩, other⟩
  intro name member
  rcases List.mem_append.mp member with inside | last
  · exact fields name inside
  · rw [List.mem_singleton.mp last]
    exact safe

/-- An unnamed link adds nothing to a path. -/
theorem Path.readable_stepMaybe {path : Path} {field : Option String}
    (readable : (Operand.path path).Readable)
    (safe : ∀ name, field = some name → Identifier.isSafe name) :
    (Operand.path (path.stepMaybe field)).Readable := by
  cases field with
  | none => exact readable
  | some name => exact readable_step readable (safe name rfl)

namespace Chain

/-- Every field along the chain can be written in a path. -/
def HasSafeNames : Chain → Prop
  | .property field next => Identifier.isSafe field ∧ next.HasSafeNames
  | .each field next =>
      (∀ name, field = some name → Identifier.isSafe name) ∧ next.HasSafeNames
  | .scalar field _ | .value field => ∀ name, field = some name → Identifier.isSafe name

/-- Opening arrays adds no field but the pending one. -/
theorem safeNames_throughArrays
    {atName : Option String → String → NamedKind → Except Fault Chain}
    (named : ∀ inside name kind next, (∀ field, inside = some field → Identifier.isSafe field) →
      atName inside name kind = .ok next → next.HasSafeNames)
    {pending : Option String} (safe : ∀ field, pending = some field → Identifier.isSafe field)
    {type : ValueType} {chain : Chain} (resolved : throughArrays atName pending type = .ok chain) :
    chain.HasSafeNames := by
  induction type generalizing pending chain with
  | nullable underlying absence opened => exact opened safe resolved
  | named name kind => exact named pending name kind chain safe resolved
  | array element opened =>
      obtain ⟨next, inner, rfl⟩ := Attempt.map_eq_ok_iff.mp resolved
      exact ⟨safe, opened (by simp) inner⟩

/-- A pending field that is safe may stand in front of a chain. -/
theorem safeNames_afterPending {pending : Option String} {next : Chain}
    (safe : ∀ field, pending = some field → Identifier.isSafe field) (inner : next.HasSafeNames) :
    (afterPending pending next).HasSafeNames := by
  cases pending with
  | none => exact inner
  | some field => exact ⟨safe field rfl, inner⟩

/-- A chain that is resolved over a schema with safe names has safe names. -/
theorem safeNames_follow (names : schema.HasSafeNames) {pathEnd : PathEnd}
    {fieldPath : List String} {pending : Option String}
    (safe : ∀ field, pending = some field → Identifier.isSafe field) {type : ValueType}
    {chain : Chain} (resolved : follow schema pathEnd fieldPath pending type = .ok chain) :
    chain.HasSafeNames := by
  induction fieldPath generalizing pending type chain with
  | nil =>
      cases pathEnd with
      | anyValue =>
          cases resolved
          exact safe
      | scalar =>
          refine safeNames_throughArrays ?_ safe resolved
          intro inside name kind next safe accepted
          cases kind with
          | scalar =>
              cases accepted
              exact safe
          | object => simp [Attempt.bind_eq_ok_iff] at accepted
  | cons field rest continued =>
      refine safeNames_throughArrays ?_ safe resolved
      intro inside name kind next safe accepted
      cases kind with
      | scalar => cases accepted
      | object =>
          simp only [Attempt.bind_eq_ok_iff, Attempt.pure_eq_ok_iff, Schema.lookUpNested_ok]
            at accepted
          obtain ⟨property, located, after, onward, rfl⟩ := accepted
          apply safeNames_afterPending safe
          apply continued _ onward
          intro field same
          cases same
          exact names.nested located

/-- A chain can be read when the test at its end can be. -/
theorem condition_readable {test : Test} {key : String}
    (tested : ∀ (path : Path) (numbering : Draft), (Operand.path path).Readable →
      (test.condition path key numbering).1.Readable)
    {chain : Chain} (safe : chain.HasSafeNames) {path : Path}
    (readable : (Operand.path path).Readable) (numbering : Draft) :
    (chain.condition test key path numbering).1.Readable := by
  induction chain generalizing path numbering with
  | property field next continued =>
      obtain ⟨first, others⟩ := safe
      exact continued others (Path.readable_step readable first) numbering
  | each field next continued =>
      obtain ⟨first, others⟩ := safe
      have isAlias := Identifier.nextElement_isAlias numbering
      refine ⟨isAlias.plain, (Path.readable_stepMaybe readable first).1, ?_⟩
      exact continued others (Path.readable_ofAlias isAlias) _
  | scalar field scalarType => exact tested _ _ (Path.readable_stepMaybe readable safe)
  | value field => exact tested _ _ (Path.readable_stepMaybe readable safe)

end Chain

/-- An operator between its operands is one that the dialect has, and any other is the name of a
function. -/
def ComparisonOperator.Readable (operator : ComparisonOperator) : Prop :=
  if operator.isBetween then operator.dialectName ∈ comparisonOperators
  else Identifier.isPlain operator.dialectName

instance (operator : ComparisonOperator) : Decidable operator.Readable :=
  inferInstanceAs (Decidable (ite _ _ _))

/-- Every registered operator can be read. -/
theorem Operators.comparison_readable {scalarType name : String} {operator : ComparisonOperator}
    (found : comparison scalarType name = .ok operator) : operator.Readable := by
  obtain ⟨_, operators, known, member⟩ := comparison_registered found
  have all : ∀ operator ∈ operators.comparisons, operator.Readable := by
    rcases ofScalar_cases known with rfl | rfl | rfl <;> decide +kernel
  exact all operator member

/-- The name of a literal's parameter is read as a parameter, whatever its key was. -/
theorem isParameter_parameterName (key : String) (index : Nat) :
    isParameter (Draft.parameterName (Draft.cleanKey key) index) := by
  have clean : ∀ character ∈ (Draft.cleanKey key).toList, Identifier.isLater character := by
    intro character member
    rw [Draft.cleanKey, String.toList_map] at member
    obtain ⟨original, _, rfl⟩ := List.mem_map.mp member
    split
    next kept => simp [Identifier.isLater, kept]
    next => rfl
  have spelled : (Draft.parameterName (Draft.cleanKey key) index).toList =
      '@' :: ((Draft.cleanKey key).toList ++ '_' :: (toString index).toList) := by
    simp [Draft.parameterName]
  simp only [isParameter, spelled, List.all_append, List.all_cons, Bool.and_eq_true]
  refine ⟨List.all_eq_true.mpr clean, rfl, ?_⟩
  exact List.all_eq_true.mpr (Identifier.isLater_digits index)

/-- An operand can be read when its column can be. -/
theorem Comparand.operand_readable {comparand : Comparand}
    (located : ∀ path, comparand = .column path → (Operand.path path).Readable) (key : String)
    (numbering : Draft) : (comparand.operand key numbering).1.Readable := by
  cases comparand with
  | literal value => exact isParameter_parameterName key _
  | column path => exact located path rfl
  | «variable» name => trivial

/-- A null check of a readable path can be read. -/
theorem Test.isNull_readable (key : String) (path : Path) (numbering : Draft)
    (readable : (Operand.path path).Readable) :
    (Test.isNull.condition path key numbering).1.Readable := by
  have plain : Identifier.isPlain "IS_NULL" := by decide +kernel
  refine ⟨plain, List.cons_ne_nil _ _, ?_⟩
  intro operand member
  rw [List.mem_singleton.mp member]
  exact readable

/-- A comparison can be read when its operator and both of its operands can be. -/
theorem Test.compare_readable {operator : ComparisonOperator} (written : operator.Readable)
    {comparand : Comparand}
    (located : ∀ path, comparand = .column path → (Operand.path path).Readable) (key : String)
    (path : Path) (numbering : Draft) (readable : (Operand.path path).Readable) :
    ((Test.compare operator comparand).condition path key numbering).1.Readable := by
  have other := comparand.operand_readable located key numbering
  unfold ComparisonOperator.Readable at written
  simp only [Test.condition]
  by_cases between : operator.isBetween
  · rw [if_pos between] at written ⊢
    exact ⟨written, readable, other⟩
  · rw [if_neg between] at written ⊢
    refine ⟨written, List.cons_ne_nil _ _, ?_⟩
    intro operand member
    rcases List.mem_cons.mp member with rfl | last
    · exact readable
    · rw [List.mem_singleton.mp last]
      exact other

namespace Expression

variable {root : Scope}

/-- The chain of a target starts at an alias and has safe names. -/
theorem chain_readable (names : schema.HasSafeNames) (rooted : root.HasSafeNames) {scope : Scope}
    (here : scope.HasSafeNames) {pathEnd : PathEnd} {target : ComparisonTarget}
    {aliasName : String} {chain : Chain}
    (compiled : target.chain schema root scope pathEnd = .ok (aliasName, chain)) :
    Identifier.IsAlias aliasName ∧ chain.HasSafeNames := by
  have among := here.among rooted target
  obtain ⟨_, rfl, property, known, resolved⟩ := ComparisonTarget.chain_ok.mp compiled
  refine ⟨among.aliasName, ?_⟩
  apply Chain.safeNames_follow names _ (Chain.ofColumn_ok.mp resolved).2
  intro field same
  cases same
  exact among.object _ property known

/-- A column that something is compared with can be read. -/
theorem comparand_readable (names : schema.HasSafeNames) (rooted : root.HasSafeNames)
    {scope : Scope} (here : scope.HasSafeNames) {operand : ComparisonOperand}
    {comparand : Comparand} (compiled : operand.comparand schema root scope = .ok comparand) :
    ∀ path, comparand = .column path → (Operand.path path).Readable := by
  intro path same
  subst same
  cases operand with
  | scalar value => cases compiled
  | «variable» name => cases compiled
  | column target =>
      obtain ⟨_, located, type, same, resolved⟩ :=
        ComparisonOperand.comparand_column_ok.mp compiled
      cases same
      exact (here.among rooted target).objectPath names resolved

/-- The source of a search can be read. -/
theorem searched_readable (names : schema.HasSafeNames) {scope : Scope}
    (here : scope.HasSafeNames) {collection : SearchedCollection} {column : String}
    {source : Path} {element : ValueType}
    (located : searched schema scope collection = .ok (column, source, element)) :
    PathReadable source := by
  obtain ⟨fieldPath, type, _, resolved, _⟩ := searched_ok.mp located
  exact (here.objectPath names resolved).1

/-- The scope of an element has safe names again. -/
theorem elementScope_safeNames (names : schema.HasSafeNames) {column : String} {number : Nat}
    {element : ValueType} {inner : Scope}
    (opened : elementScope schema column (elementAlias number) element = .ok inner) :
    inner.HasSafeNames := by
  obtain ⟨name, object, _, known, rfl⟩ := elementScope_ok.mp opened
  exact ⟨Identifier.elementAlias_isAlias number, names.objects name object known⟩

mutual

/-- The numbering does not matter, since every name that a draft gives out can be read. -/
theorem predicate_readable (names : schema.HasSafeNames) (rooted : root.HasSafeNames) :
    ∀ (expression : Expression) (scope : Scope) (depth count : Nat) (result : Predicate × Nat),
      scope.HasSafeNames → predicate schema root scope depth count expression = .ok result →
        ∀ numbering, (result.1.condition numbering).1.Readable
  | .and expressions, scope, depth, count, result, here, compiled, numbering => by
      obtain ⟨_, predicates, next, inner, rfl⟩ := predicate_and_ok.mp compiled
      exact predicates_readable names rooted expressions scope (depth + 1) count _ here inner
        numbering
  | .or expressions, scope, depth, count, result, here, compiled, numbering => by
      obtain ⟨_, predicates, next, inner, rfl⟩ := predicate_or_ok.mp compiled
      exact predicates_readable names rooted expressions scope (depth + 1) count _ here inner
        numbering
  | .not expression, scope, depth, count, result, here, compiled, numbering => by
      obtain ⟨_, predicate, next, inner, rfl⟩ := predicate_not_ok.mp compiled
      exact predicate_readable names rooted expression scope (depth + 1) count (predicate, next)
        here inner numbering
  | .isNull target, scope, depth, count, result, here, compiled, numbering => by
      obtain ⟨_, aliasName, chain, located, rfl⟩ := predicate_isNull_ok.mp compiled
      obtain ⟨isAlias, safe⟩ := chain_readable names rooted here located
      exact Chain.condition_readable (Test.isNull_readable _) safe (Path.readable_ofAlias isAlias)
        numbering
  | .compare target name operand, scope, depth, count, result, here, compiled, numbering => by
      obtain ⟨_, aliasName, chain, operator, comparand, located, known, other, rfl⟩ :=
        predicate_compare_ok.mp compiled
      obtain ⟨isAlias, safe⟩ := chain_readable names rooted here located
      obtain ⟨_, _, registered, _⟩ := comparisonOperator_ok.mp known
      have written := Operators.comparison_readable registered
      have compared := comparand_readable names rooted here other
      exact Chain.condition_readable (Test.compare_readable written compared _) safe
        (Path.readable_ofAlias isAlias) numbering
  | .existsIn collection none, scope, depth, count, result, here, compiled, numbering => by
      obtain ⟨_, column, source, element, located, rfl⟩ := predicate_exists_ok.mp compiled
      exact ⟨(Identifier.elementAlias_isAlias _).plain, searched_readable names here located⟩
  | .existsIn collection (some condition), scope, depth, count, result, here, compiled,
      numbering => by
      obtain ⟨_, column, source, element, inner, predicate, next, located, opened, continued,
        rfl⟩ := predicate_existsWhere_ok.mp compiled
      have within := elementScope_safeNames names opened
      refine ⟨(Identifier.elementAlias_isAlias _).plain, searched_readable names here located, ?_⟩
      exact predicate_readable names rooted condition inner (depth + 1) (count + 1)
        (predicate, next) within continued numbering

/-- The compiled conditions of a list can be read. -/
theorem predicates_readable (names : schema.HasSafeNames) (rooted : root.HasSafeNames) :
    ∀ (expressions : List Expression) (scope : Scope) (depth count : Nat)
      (result : List Predicate × Nat), scope.HasSafeNames →
        predicates schema root scope depth count expressions = .ok result →
          ∀ numbering, Condition.ReadableEach (Predicate.conditions result.1 numbering).1
  | [], scope, depth, count, result, here, compiled, numbering => by
      rw [predicates_nil_ok.mp compiled]
      trivial
  | first :: rest, scope, depth, count, result, here, compiled, numbering => by
      obtain ⟨predicate, middle, others, next, one, more, rfl⟩ := predicates_cons_ok.mp compiled
      constructor
      · exact predicate_readable names rooted first scope depth count _ here one numbering
      · exact predicates_readable names rooted rest scope depth middle _ here more _

end

/-- A compiled condition over a schema with safe names can be read. -/
theorem condition_readable (names : schema.HasSafeNames) (rooted : root.HasSafeNames)
    {expression : Expression} {compiled : Predicate}
    (accepted : condition schema root expression = .ok compiled) (numbering : Draft) :
    (compiled.condition numbering).1.Readable := by
  obtain ⟨result, compiles, rfl⟩ := Attempt.map_eq_ok_iff.mp accepted
  exact predicate_readable names rooted expression root 1 0 result rooted compiles numbering

end Expression

end DocumentQuery
