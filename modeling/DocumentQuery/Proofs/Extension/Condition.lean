/-
This file says when one schema extends another, and it proves that the larger schema resolves every
path and condition of the smaller one alike.
-/

import DocumentQuery.Proofs.Compilation.Condition
import DocumentQuery.Proofs.Table

namespace DocumentQuery

/-- The larger object type keeps every property with its type. -/
def ObjectType.Extends (larger object : ObjectType) : Prop :=
  ∀ name property, object.property? name = some property →
    ∃ kept, larger.property? name = some kept ∧ kept.type = property.type

/-- It is enough to look up each property that is listed. -/
theorem ObjectType.extends_of_entries {larger object : ObjectType}
    (kept : ∀ entry ∈ object.properties,
      (larger.property? entry.1).map Property.type = some entry.2.type) :
    larger.Extends object := by
  intro name property known
  exact Option.map_eq_some_iff.mp (kept _ (Table.mem_of_entry known))

/-- The larger schema keeps every collection with its result type and every object type with its
properties. Anything may be added, and entries may stand in any order. -/
structure Schema.Extends (larger schema : Schema) : Prop where
  collections : ∀ name collection, schema.collection? name = some collection →
    ∃ kept, larger.collection? name = some kept ∧ kept.resultType = collection.resultType
  objects : ∀ name object, schema.objectType? name = some object →
    ∃ kept, larger.objectType? name = some kept ∧ kept.Extends object

/-- The larger scope binds the same alias to documents of a larger object type. -/
structure Scope.Extends (larger scope : Scope) : Prop where
  aliasName : larger.aliasName = scope.aliasName
  object : larger.object.Extends scope.object

theorem Scope.extends_of_object {larger object : ObjectType} (wider : larger.Extends object)
    (aliasName name : String) : Scope.Extends ⟨aliasName, name, larger⟩ ⟨aliasName, name, object⟩ :=
  ⟨rfl, wider⟩

/-- A target is looked up in the larger scope of the two that correspond. -/
theorem Scope.Extends.among {root wideRoot scope wide : Scope} (outer : wideRoot.Extends root)
    (here : wide.Extends scope) (target : ComparisonTarget) :
    (target.among wideRoot wide).Extends (target.among root scope) := by
  cases target with
  | column name fieldPath path => exact here
  | rootColumn name fieldPath => exact outer

namespace Schema.Extends

variable {schema larger : Schema} {root wideRoot scope wide : Scope} {type last : ValueType}
  {fieldPath : List String} {column : String}

/-- A property that is found is found in the extension with its type. -/
theorem nested (extension : larger.Extends schema) {name field : String} {property : Property}
    (located : schema.nested? name field = some property) :
    ∃ kept, larger.nested? name field = some kept ∧ kept.type = property.type := by
  obtain ⟨object, known, inside⟩ := Option.bind_eq_some_iff.mp located
  obtain ⟨grown, declared, wider⟩ := extension.objects name object known
  obtain ⟨kept, found, same⟩ := wider field property inside
  exact ⟨kept, Option.bind_eq_some_iff.mpr ⟨grown, declared, found⟩, same⟩

/-- A path through objects crosses the same types. -/
theorem crosses (extension : larger.Extends schema)
    (crossed : schema.Crosses type fieldPath last) : larger.Crosses type fieldPath last := by
  induction crossed with
  | here type => exact .here type
  | field required located _ continued =>
      obtain ⟨kept, found, same⟩ := extension.nested located
      exact .field required found (by rw [same]; exact continued)

/-- An object path that resolves keeps its path and its end. -/
theorem objectPath (extension : larger.Extends schema) (here : wide.Extends scope) {path : Path}
    (resolved : scope.objectPath schema column fieldPath = .ok (path, last)) :
    wide.objectPath larger column fieldPath = .ok (path, last) := by
  obtain ⟨rfl, short, property, known, crossed⟩ := Scope.objectPath_ok.mp resolved
  obtain ⟨kept, found, same⟩ := here.object column property known
  rw [← same] at crossed
  rw [← here.aliasName]
  exact Scope.objectPath_ok.mpr ⟨rfl, short, kept, found, extension.crosses crossed⟩

/-- Opening arrays makes the same chain when the named type inside them does. -/
theorem throughArrays {atName atName' : Option String → String → NamedKind → Except Fault Chain}
    (atBase : ∀ inside chain, atName inside type.base.1 type.base.2 = .ok chain →
      atName' inside type.base.1 type.base.2 = .ok chain)
    {pending : Option String} {chain : Chain}
    (resolved : Chain.throughArrays atName pending type = .ok chain) :
    Chain.throughArrays atName' pending type = .ok chain := by
  induction type generalizing pending chain with
  | nullable underlying absence opened => exact opened atBase resolved
  | array element opened =>
      obtain ⟨next, inner, same⟩ := Attempt.map_eq_ok_iff.mp resolved
      exact Attempt.map_eq_ok_iff.mpr ⟨next, opened atBase inner, same⟩
  | named name kind => exact atBase pending chain resolved

/-- The induction is on the field path. Only a property is looked up on the way, so the chain that
was resolved is resolved again. -/
theorem follow (extension : larger.Extends schema) {pathEnd : PathEnd} {pending : Option String}
    {chain : Chain} (resolved : Chain.follow schema pathEnd fieldPath pending type = .ok chain) :
    Chain.follow larger pathEnd fieldPath pending type = .ok chain := by
  induction fieldPath generalizing type pending chain with
  | nil =>
      cases pathEnd with
      | anyValue => exact resolved
      | scalar =>
          refine throughArrays (fun inside chain named => ?_) resolved
          cases kind : type.base.2 with
          | scalar =>
              rw [kind] at named
              exact named
          | object =>
              -- A path that ends at an object is refused, so there is no chain to keep.
              rw [kind] at named
              simp at named
  | cons field rest continued =>
      refine throughArrays (fun inside chain named => ?_) resolved
      cases kind : type.base.2 with
      | scalar =>
          rw [kind] at named
          cases named
      | object =>
          simp only [kind, Attempt.bind_eq_ok_iff, Schema.lookUpNested_ok, Attempt.pure_eq_ok_iff]
            at named ⊢
          obtain ⟨property, located, next, inner, same⟩ := named
          obtain ⟨kept, found, sameType⟩ := extension.nested located
          rw [← sameType] at inner
          exact ⟨kept, found, next, continued inner, same⟩

/-- The chain of a target stays the same. -/
theorem chain (extension : larger.Extends schema) (outer : wideRoot.Extends root)
    (here : wide.Extends scope) {target : ComparisonTarget} {pathEnd : PathEnd}
    {aliasName : String} {chain : Chain}
    (reached : target.chain schema root scope pathEnd = .ok (aliasName, chain)) :
    target.chain larger wideRoot wide pathEnd = .ok (aliasName, chain) := by
  obtain ⟨direct, rfl, property, known, resolved⟩ := ComparisonTarget.chain_ok.mp reached
  obtain ⟨short, followed⟩ := Chain.ofColumn_ok.mp resolved
  have among := outer.among here target
  obtain ⟨kept, found, same⟩ := among.object _ property known
  rw [← same] at followed
  refine ComparisonTarget.chain_ok.mpr ⟨direct, among.aliasName.symm, kept, found, ?_⟩
  exact Chain.ofColumn_ok.mpr ⟨short, extension.follow followed⟩

/-- An operand keeps its comparand. -/
theorem comparand (extension : larger.Extends schema) (outer : wideRoot.Extends root)
    (here : wide.Extends scope) {operand : ComparisonOperand} {comparand : Comparand}
    (compiled : operand.comparand schema root scope = .ok comparand) :
    operand.comparand larger wideRoot wide = .ok comparand := by
  cases operand with
  | scalar value => exact compiled
  | «variable» name => exact compiled
  | column target =>
      obtain ⟨direct, path, last, rfl, resolved⟩ :=
        ComparisonOperand.comparand_column_ok.mp compiled
      have again := extension.objectPath (outer.among here target) resolved
      exact ComparisonOperand.comparand_column_ok.mpr ⟨direct, path, last, rfl, again⟩

/-- A search keeps its source and its elements. -/
theorem searched (extension : larger.Extends schema) (here : wide.Extends scope)
    {collection : SearchedCollection} {source : Path} {element : ValueType}
    (located : Expression.searched schema scope collection = .ok (column, source, element)) :
    Expression.searched larger wide collection = .ok (column, source, element) := by
  obtain ⟨fieldPath, last, same, resolved, required⟩ := Expression.searched_ok.mp located
  exact Expression.searched_ok.mpr
    ⟨fieldPath, last, same, extension.objectPath here resolved, required⟩

/-- The elements of a searched array have a larger object type. -/
theorem elementScope (extension : larger.Extends schema) {aliasName : String}
    {element : ValueType} {inner : Scope}
    (opened : Expression.elementScope schema column aliasName element = .ok inner) :
    ∃ wider, Expression.elementScope larger column aliasName element = .ok wider ∧
      wider.Extends inner := by
  obtain ⟨name, object, required, known, rfl⟩ := Expression.elementScope_ok.mp opened
  obtain ⟨grown, declared, wider⟩ := extension.objects name object known
  exact ⟨⟨aliasName, name, grown⟩,
    Expression.elementScope_ok.mpr ⟨name, grown, required, declared, rfl⟩, ⟨rfl, wider⟩⟩

open Expression

mutual

/-- The induction is on the expression. The root and the current scope of the larger schema extend
those of the smaller one, also inside the elements of a search. -/
theorem predicate (extension : larger.Extends schema) (outer : wideRoot.Extends root) :
    ∀ (expression : Expression) {scope wide : Scope} {depth count : Nat}
      {result : Predicate × Nat}, wide.Extends scope →
        Expression.predicate schema root scope depth count expression = .ok result →
          Expression.predicate larger wideRoot wide depth count expression = .ok result
  | .and expressions, _, _, _, _, _, here, compiled => by
      obtain ⟨shallow, parts, count', inner, rfl⟩ := predicate_and_ok.mp compiled
      exact predicate_and_ok.mpr
        ⟨shallow, parts, count', predicates extension outer expressions here inner, rfl⟩
  | .or expressions, _, _, _, _, _, here, compiled => by
      obtain ⟨shallow, parts, count', inner, rfl⟩ := predicate_or_ok.mp compiled
      exact predicate_or_ok.mpr
        ⟨shallow, parts, count', predicates extension outer expressions here inner, rfl⟩
  | .not expression, _, _, _, _, _, here, compiled => by
      obtain ⟨shallow, part, count', inner, rfl⟩ := predicate_not_ok.mp compiled
      exact predicate_not_ok.mpr
        ⟨shallow, part, count', predicate extension outer expression here inner, rfl⟩
  | .isNull target, _, _, _, _, _, here, compiled => by
      obtain ⟨shallow, aliasName, chain, reached, rfl⟩ := predicate_isNull_ok.mp compiled
      exact predicate_isNull_ok.mpr
        ⟨shallow, aliasName, chain, extension.chain outer here reached, rfl⟩
  | .compare target name operand, _, _, _, _, _, here, compiled => by
      obtain ⟨shallow, aliasName, chain, operator, other, reached, known, compared, rfl⟩ :=
        predicate_compare_ok.mp compiled
      exact predicate_compare_ok.mpr ⟨shallow, aliasName, chain, operator, other,
        extension.chain outer here reached, known, extension.comparand outer here compared, rfl⟩
  | .existsIn collection none, _, _, _, _, _, here, compiled => by
      obtain ⟨shallow, column, source, element, located, rfl⟩ := predicate_exists_ok.mp compiled
      exact predicate_exists_ok.mpr
        ⟨shallow, column, source, element, extension.searched here located, rfl⟩
  | .existsIn collection (some condition), _, _, _, _, _, here, compiled => by
      obtain ⟨shallow, column, source, element, inner, part, count', located, opened, held, rfl⟩ :=
        predicate_existsWhere_ok.mp compiled
      obtain ⟨wider, reopened, inside⟩ := extension.elementScope opened
      exact predicate_existsWhere_ok.mpr ⟨shallow, column, source, element, wider, part, count',
        extension.searched here located, reopened,
        predicate extension outer condition inside held, rfl⟩

/-- The predicates of a list stay the same. -/
theorem predicates (extension : larger.Extends schema) (outer : wideRoot.Extends root) :
    ∀ (expressions : List Expression) {scope wide : Scope} {depth count : Nat}
      {result : List Predicate × Nat}, wide.Extends scope →
        Expression.predicates schema root scope depth count expressions = .ok result →
          Expression.predicates larger wideRoot wide depth count expressions = .ok result
  | [], _, _, _, _, _, _, compiled => predicates_nil_ok.mpr (predicates_nil_ok.mp compiled)
  | first :: rest, _, _, _, _, _, here, compiled => by
      obtain ⟨part, middle, others, count', one, more, rfl⟩ := predicates_cons_ok.mp compiled
      exact predicates_cons_ok.mpr ⟨part, middle, others, count',
        predicate extension outer first here one, predicates extension outer rest here more, rfl⟩

end

/-- The condition of a query stays the same. -/
theorem condition (extension : larger.Extends schema) (outer : wideRoot.Extends root)
    {expression : Expression} {condition : Predicate}
    (compiled : Expression.condition schema root expression = .ok condition) :
    Expression.condition larger wideRoot expression = .ok condition := by
  obtain ⟨result, resolved, same⟩ := Attempt.map_eq_ok_iff.mp compiled
  exact Attempt.map_eq_ok_iff.mpr
    ⟨result, predicate extension outer expression outer resolved, same⟩

end Schema.Extends

end DocumentQuery
