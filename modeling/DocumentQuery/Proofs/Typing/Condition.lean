/-
This file proves that compiled conditions are well typed.
-/

import DocumentQuery.Proofs.Compilation.Condition
import DocumentQuery.Proofs.Naming
import DocumentQuery.Proofs.Registry
import DocumentQuery.Proofs.Typing.Judgement

namespace DocumentQuery

variable {schema : Schema} {context : Context}

/-- The alias has the object type of the scope in the context. -/
structure Scope.FitsIn (scope : Scope) (schema : Schema) (context : Context) : Prop where
  typed : ∃ type, context.entry? scope.aliasName = some type ∧
    type.required = .named scope.objectName .object
  declared : schema.objectType? scope.objectName = some scope.object

namespace Scope.FitsIn

variable {scope : Scope}

/-- A scope fits where its alias was bound last. -/
theorem innermost {aliasName name : String} {object : ObjectType} {type : ValueType}
    (required : type.required = .named name .object)
    (declared : schema.objectType? name = some object) (context : Context) :
    Scope.FitsIn ⟨aliasName, name, object⟩ schema ((aliasName, type) :: context) :=
  ⟨⟨type, Table.entry_first context aliasName type, required⟩, declared⟩

/-- A scope goes on to fit when another alias is bound. -/
theorem beneath (fits : scope.FitsIn schema context) {aliasName : String}
    (different : scope.aliasName ≠ aliasName) (type : ValueType) :
    scope.FitsIn schema ((aliasName, type) :: context) := by
  obtain ⟨start, found, required⟩ := fits.typed
  exact ⟨⟨start, (Table.entry_later context type different).trans found, required⟩, fits.declared⟩

/-- A path that starts with a column of the scope goes on from the type of the column. -/
theorem leaves (fits : scope.FitsIn schema context) {column : String} {property : Property}
    (known : scope.object.property? column = some property) {fields : List String}
    {last : ValueType} (crosses : schema.Crosses property.type fields last) :
    ∃ type, context.entry? scope.aliasName = some type ∧
      schema.Crosses type (column :: fields) last := by
  obtain ⟨type, found, required⟩ := fits.typed
  have located : schema.nested? scope.objectName column = some property :=
    Option.bind_eq_some_iff.mpr ⟨scope.object, fits.declared, known⟩
  exact ⟨type, found, .field required located crosses⟩

/-- An object path of the scope has the type at its end. -/
theorem objectPath (fits : scope.FitsIn schema context) {column : String}
    {fieldPath : List String} {path : Path} {last : ValueType}
    (resolved : scope.objectPath schema column fieldPath = .ok (path, last)) :
    path.HasType schema context last := by
  obtain ⟨rfl, _, property, known, crosses⟩ := Scope.objectPath_ok.mp resolved
  exact fits.leaves known crosses

/-- A target is looked up in a scope that fits. -/
theorem among {root : Scope} (fits : scope.FitsIn schema context)
    (rooted : root.FitsIn schema context) (target : ComparisonTarget) :
    (target.among root scope).FitsIn schema context := by
  cases target with
  | column name fieldPath path => exact fits
  | rootColumn name fieldPath => exact rooted

end Scope.FitsIn

namespace Chain

/-- The pending field leads from the start to a value of this type, up to null. -/
def Pends (schema : Schema) (start : ValueType) (pending : Option String) (type : ValueType) :
    Prop :=
  ∃ reached, schema.Crosses start pending.toList reached ∧ reached.required = type.required

/-- The induction is on the type. Each array makes a link that goes on from its elements. -/
theorem wellTyped_throughArrays
    {atName : Option String → String → NamedKind → Except Fault Chain}
    (named : ∀ start inside name kind next, Pends schema start inside (.named name kind) →
      atName inside name kind = .ok next → next.WellTyped schema start)
    {start : ValueType} {pending : Option String} {type : ValueType}
    (pends : Pends schema start pending type) {chain : Chain}
    (resolved : throughArrays atName pending type = .ok chain) : chain.WellTyped schema start := by
  induction type generalizing start pending chain with
  | nullable underlying absence opened => exact opened pends resolved
  | named name kind => exact named start pending name kind chain pends resolved
  | array element opened =>
      obtain ⟨next, inner, rfl⟩ := Attempt.map_eq_ok_iff.mp resolved
      obtain ⟨reached, crosses, required⟩ := pends
      exact ⟨reached, element, crosses, required, opened ⟨element, .here element, rfl⟩ inner⟩

/-- The induction is on the field path. A chain that is resolved is well typed from its start. -/
theorem wellTyped_follow {pathEnd : PathEnd} {fieldPath : List String} {start : ValueType}
    {pending : Option String} {type : ValueType} (pends : Pends schema start pending type)
    {chain : Chain} (resolved : follow schema pathEnd fieldPath pending type = .ok chain) :
    chain.WellTyped schema start := by
  -- An array starts a new alias with no field pending, so the induction is for every start.
  induction fieldPath generalizing start pending type chain with
  | nil =>
      cases pathEnd with
      | anyValue =>
          cases resolved
          obtain ⟨reached, crosses, _⟩ := pends
          exact ⟨reached, crosses⟩
      | scalar =>
          refine wellTyped_throughArrays ?_ pends resolved
          intro start inside name kind next pends accepted
          cases kind with
          | scalar =>
              cases accepted
              exact pends
          | object => simp [Attempt.bind_eq_ok_iff] at accepted
  | cons field rest continued =>
      refine wellTyped_throughArrays ?_ pends resolved
      intro start inside name kind next pends accepted
      cases kind with
      | scalar => cases accepted
      | object =>
          simp only [Attempt.bind_eq_ok_iff, Attempt.pure_eq_ok_iff, Schema.lookUpNested_ok]
            at accepted
          obtain ⟨property, located, after, onward, rfl⟩ := accepted
          obtain ⟨reached, crosses, required⟩ := pends
          have step : Pends schema reached (some field) property.type :=
            ⟨property.type, .field required located (.here property.type), rfl⟩
          have inner := continued step onward
          cases inside with
          | none =>
              obtain ⟨⟩ := crosses
              exact inner
          | some first => exact ⟨reached, crosses, inner⟩

end Chain

namespace Expression

variable {root : Scope}

/-- The chain of a target is well typed from the type of its alias. -/
theorem chain_wellTyped (rooted : root.FitsIn schema context) {scope : Scope}
    (fits : scope.FitsIn schema context) {pathEnd : PathEnd} {target : ComparisonTarget}
    {aliasName : String} {chain : Chain}
    (compiled : target.chain schema root scope pathEnd = .ok (aliasName, chain)) :
    ∃ type, context.entry? aliasName = some type ∧ chain.WellTyped schema type := by
  obtain ⟨_, rfl, property, known, resolved⟩ := ComparisonTarget.chain_ok.mp compiled
  obtain ⟨type, found, crosses⟩ :=
    (fits.among rooted target).leaves known (.here property.type)
  exact ⟨type, found,
    Chain.wellTyped_follow ⟨property.type, crosses, rfl⟩ (Chain.ofColumn_ok.mp resolved).2⟩

/-- An operand compiles to a comparand that is well typed. -/
theorem comparand_wellTyped (rooted : root.FitsIn schema context) {scope : Scope}
    (fits : scope.FitsIn schema context) {operand : ComparisonOperand} {comparand : Comparand}
    (compiled : operand.comparand schema root scope = .ok comparand) :
    comparand.WellTyped schema context := by
  cases operand with
  | scalar value =>
      cases compiled
      trivial
  | «variable» name =>
      cases compiled
      trivial
  | column target =>
      obtain ⟨_, path, type, rfl, resolved⟩ := ComparisonOperand.comparand_column_ok.mp compiled
      exact ⟨type, (fits.among rooted target).objectPath resolved⟩

/-- An operator that is found is registered for the scalar type of its chain. -/
theorem test_wellTyped {chain : Chain} {name : String} {operator : ComparisonOperator}
    (known : comparisonOperator chain name = .ok operator) {comparand : Comparand}
    (typed : comparand.WellTyped schema context) :
    (Test.compare operator comparand).WellTyped schema context chain.scalarType? := by
  obtain ⟨scalarType, ends, registered, binary, _⟩ := comparisonOperator_ok.mp known
  obtain ⟨_, operators, listed, member⟩ := Operators.comparison_registered registered
  exact ⟨⟨scalarType, operators, ends, listed, member, binary⟩, typed⟩

/-- The source of a search has an array type. -/
theorem searched_hasElements {scope : Scope} (fits : scope.FitsIn schema context)
    {collection : SearchedCollection} {column : String} {source : Path} {element : ValueType}
    (located : searched schema scope collection = .ok (column, source, element)) :
    source.HasElements schema context element := by
  obtain ⟨fieldPath, type, _, resolved, required⟩ := searched_ok.mp located
  exact ⟨type, fits.objectPath resolved, required⟩

mutual

/-- The induction is on the expression. A search binds an alias of an element, which is never that
of the root. -/
theorem predicate_wellTyped
    (apart : ∀ number, root.aliasName ≠ elementAlias number) :
    ∀ (expression : Expression) (scope : Scope) (depth count : Nat) (result : Predicate × Nat)
      (context : Context), root.FitsIn schema context → scope.FitsIn schema context →
        predicate schema root scope depth count expression = .ok result →
          result.1.WellTyped schema context
  | .and expressions, scope, depth, count, result, context, rooted, fits, compiled => by
      obtain ⟨_, predicates, next, inner, rfl⟩ := predicate_and_ok.mp compiled
      exact predicates_wellTyped apart expressions scope (depth + 1) count _ context rooted fits
        inner
  | .or expressions, scope, depth, count, result, context, rooted, fits, compiled => by
      obtain ⟨_, predicates, next, inner, rfl⟩ := predicate_or_ok.mp compiled
      exact predicates_wellTyped apart expressions scope (depth + 1) count _ context rooted fits
        inner
  | .not expression, scope, depth, count, result, context, rooted, fits, compiled => by
      obtain ⟨_, predicate, next, inner, rfl⟩ := predicate_not_ok.mp compiled
      exact predicate_wellTyped apart expression scope (depth + 1) count (predicate, next) context
        rooted fits inner
  | .isNull target, scope, depth, count, result, context, rooted, fits, compiled => by
      obtain ⟨_, aliasName, chain, located, rfl⟩ := predicate_isNull_ok.mp compiled
      exact ⟨chain_wellTyped rooted fits located, trivial⟩
  | .compare target name operand, scope, depth, count, result, context, rooted, fits, compiled => by
      obtain ⟨_, aliasName, chain, operator, comparand, located, known, other, rfl⟩ :=
        predicate_compare_ok.mp compiled
      exact ⟨chain_wellTyped rooted fits located,
        test_wellTyped known (comparand_wellTyped rooted fits other)⟩
  | .existsIn collection none, scope, depth, count, result, context, rooted, fits, compiled => by
      obtain ⟨_, column, source, element, located, rfl⟩ := predicate_exists_ok.mp compiled
      exact ⟨element, searched_hasElements fits located⟩
  | .existsIn collection (some condition), scope, depth, count, result, context, rooted, fits,
      compiled => by
      obtain ⟨_, column, source, element, inner, predicate, next, located, opened, continued,
        rfl⟩ := predicate_existsWhere_ok.mp compiled
      obtain ⟨name, object, required, declared, rfl⟩ := elementScope_ok.mp opened
      exact ⟨element, searched_hasElements fits located,
        predicate_wellTyped apart condition _ (depth + 1) (count + 1) (predicate, next) _
          (rooted.beneath (apart (count + 1)) element) (.innermost required declared context)
          continued⟩

/-- The predicates of a list are well typed. -/
theorem predicates_wellTyped
    (apart : ∀ number, root.aliasName ≠ elementAlias number) :
    ∀ (expressions : List Expression) (scope : Scope) (depth count : Nat)
      (result : List Predicate × Nat) (context : Context), root.FitsIn schema context →
        scope.FitsIn schema context →
          predicates schema root scope depth count expressions = .ok result →
            Predicate.WellTypedEach schema context result.1
  | [], scope, depth, count, result, context, rooted, fits, compiled => by
      rw [predicates_nil_ok.mp compiled]
      trivial
  | first :: rest, scope, depth, count, result, context, rooted, fits, compiled => by
      obtain ⟨predicate, middle, others, next, one, more, rfl⟩ := predicates_cons_ok.mp compiled
      constructor
      · exact predicate_wellTyped apart first scope depth count _ context rooted fits one
      · exact predicates_wellTyped apart rest scope depth middle _ context rooted fits more

end

end Expression

end DocumentQuery
