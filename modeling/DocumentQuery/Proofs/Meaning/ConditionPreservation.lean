/-
This file proves that a compiled condition has the truth value of its expression.
-/

import DocumentQuery.Compilation.Statement
import DocumentQuery.Proofs.Meaning.Chain
import DocumentQuery.Proofs.Naming
import DocumentQuery.Proofs.Sample

namespace DocumentQuery

/-- A value of a named type is its own only part. -/
theorem ValueType.parts_of_required {type : ValueType} {name : String} {kind : NamedKind}
    (required : type.required = .named name kind) (found : Found) :
    type.parts found = [⟨name, kind, found⟩] := by
  rw [← type.parts_required found, required]
  rfl

/-- A path through objects reaches exactly one value. -/
theorem Schema.reached_of_crosses {schema : Schema} {type last : ValueType}
    {fieldPath : List String} (crossed : schema.Crosses type fieldPath last) (found : Found) :
    schema.reached fieldPath type found = [(last, Found.along fieldPath found)] := by
  induction crossed generalizing found with
  | here type => rfl
  | field required located _ onward =>
      simp [Schema.reached, ValueType.parts_of_required required, located, onward]

/-- A scope stands for a place when its alias is bound to the value of the place. -/
structure Scope.StandsFor (scope : Scope) (bindings : Bindings) (place : Place) : Prop where
  bound : bindings.entry? scope.aliasName = some place.value
  typed : scope.object = place.object

namespace Scope.StandsFor

variable {schema : Schema} {scope root : Scope} {bindings : Bindings} {place rootPlace : Place}

/-- A target is looked up in a scope that stands for its place. -/
theorem among (target : ComparisonTarget) (here : scope.StandsFor bindings place)
    (atRoot : root.StandsFor bindings rootPlace) :
    (target.among root scope).StandsFor bindings (target.among rootPlace place) := by
  cases target with
  | column name fieldPath path => exact here
  | rootColumn name fieldPath => exact atRoot

/-- The path of a column has the value that the place has there. -/
theorem find_objectPath (stands : scope.StandsFor bindings place) {column : String}
    {fieldPath : List String} {path : Path} {type : ValueType}
    (resolved : scope.objectPath schema column fieldPath = .ok (path, type)) :
    path.find bindings = place.find column fieldPath := by
  obtain ⟨rfl, _⟩ := Scope.objectPath_ok.mp resolved
  simp only [Path.find, stands.bound, Place.find]

/-- The request reaches exactly the value that the resolved path has. -/
theorem reached_objectPath (stands : scope.StandsFor bindings place) {column : String}
    {fieldPath : List String} {path : Path} {type : ValueType}
    (resolved : scope.objectPath schema column fieldPath = .ok (path, type)) :
    place.reached schema column fieldPath = [(type, place.find column fieldPath)] := by
  obtain ⟨_, _, property, known, crossed⟩ := Scope.objectPath_ok.mp resolved
  rw [stands.typed] at known
  simp only [Place.reached, known, Schema.reached_of_crosses crossed]
  rfl

/-- A resolved target is tested at the values that it reaches from the place. -/
theorem holds_chain (stands : scope.StandsFor bindings place) {column : String}
    {property : Property} (known : scope.object.property? column = some property)
    {pathEnd : PathEnd} {fieldPath : List String} {chain : Chain} (test : Found → Bool)
    (resolved : Chain.ofColumn schema pathEnd column property.type fieldPath = .ok chain) :
    (chain.holds test <| bindings.entry? scope.aliasName) =
      (place.reached schema column fieldPath).any fun (type, found) =>
        Chain.endHolds test pathEnd type found := by
  rw [stands.typed] at known
  obtain ⟨_, followed⟩ := Chain.ofColumn_ok.mp resolved
  rw [Chain.holds_follow _ followed, stands.bound]
  simp only [Place.reached, known]
  rfl

/-- A new binding keeps the places of the other aliases. -/
theorem bind_other (stands : scope.StandsFor bindings place) {aliasName : String} (value : Json)
    (different : scope.aliasName ≠ aliasName) :
    scope.StandsFor ((aliasName, value) :: bindings) place :=
  ⟨(Table.entry_later bindings value different).trans stands.bound, stands.typed⟩

end Scope.StandsFor

namespace Expression

variable {interpretation : Interpretation} {schema : Schema} {root scope : Scope}
  {bindings : Bindings} {rootPlace here : Place}

/-- An operand has the value of its comparand. -/
theorem find_comparand (stands : scope.StandsFor bindings here)
    (atRoot : root.StandsFor bindings rootPlace) {operand : ComparisonOperand}
    {comparand : Comparand} (compiled : operand.comparand schema root scope = .ok comparand) :
    comparand.find interpretation bindings = operand.find interpretation rootPlace here := by
  cases operand with
  | scalar value =>
      cases compiled
      rfl
  | «variable» name =>
      cases compiled
      rfl
  | column target =>
      obtain ⟨_, path, type, rfl, resolved⟩ := ComparisonOperand.comparand_column_ok.mp compiled
      exact (stands.among target atRoot).find_objectPath resolved

/-- The written operator tests a scalar part as the requested one does. -/
theorem holds_comparison {name : String} {operator : ComparisonOperator} {scalarType : String}
    (registered : Operators.comparison scalarType name = .ok operator) (comparand : Comparand)
    (part : Part) :
    (decide (part.kind = .scalar) &&
        (Test.compare operator comparand).holds interpretation bindings part.found) =
      comparesPart interpretation name (comparand.find interpretation bindings) part := by
  have relation := Operators.comparison_relation registered
  cases kind : part.kind with
  | object => simp [comparesPart, kind]
  | scalar =>
      simp only [comparesPart, kind, Test.holds, relation, decide_true, Bool.true_and]
      cases Relation.requested? name <;> rfl

/-- The elements of a searched collection are the elements of its path, at one type. -/
theorem elements_searched (stands : scope.StandsFor bindings here)
    {collection : SearchedCollection} {column : String} {source : Path} {element : ValueType}
    (located : searched schema scope collection = .ok (column, source, element)) :
    collection.elements schema here =
      (Found.elements (source.find bindings)).map fun item => (element, item) := by
  obtain ⟨fieldPath, type, rfl, resolved, required⟩ := searched_ok.mp located
  rw [stands.find_objectPath resolved]
  simp [SearchedCollection.elements, stands.reached_objectPath resolved, required]

mutual

/-- The induction is on the expression. The scopes of the root and of the current object keep
standing for their places when an element is bound. -/
theorem holds_predicate (apart : ∀ number, root.aliasName ≠ elementAlias number) :
    ∀ (expression : Expression) {scope : Scope} {bindings : Bindings} {here : Place}
      {depth count next : Nat} {compiled : Predicate},
      scope.StandsFor bindings here → root.StandsFor bindings rootPlace →
        predicate schema root scope depth count expression = .ok (compiled, next) →
          compiled.holds interpretation bindings =
            expression.holds interpretation schema rootPlace here
  | .and expressions, _, _, _, _, _, _, _, stands, atRoot, compiles => by
      obtain ⟨_, predicates, _, inner, same⟩ := predicate_and_ok.mp compiles
      cases same
      exact (holds_predicates apart expressions stands atRoot inner).1
  | .or expressions, _, _, _, _, _, _, _, stands, atRoot, compiles => by
      obtain ⟨_, predicates, _, inner, same⟩ := predicate_or_ok.mp compiles
      cases same
      exact (holds_predicates apart expressions stands atRoot inner).2
  | .not expression, _, _, _, _, _, _, _, stands, atRoot, compiles => by
      obtain ⟨_, predicate, _, inner, same⟩ := predicate_not_ok.mp compiles
      cases same
      simp only [Predicate.holds, holds, holds_predicate apart expression stands atRoot inner]
  | .isNull target, _, _, _, _, _, _, _, stands, atRoot, compiles => by
      obtain ⟨_, aliasName, chain, reached, same⟩ := predicate_isNull_ok.mp compiles
      cases same
      obtain ⟨_, rfl, property, known, resolved⟩ := ComparisonTarget.chain_ok.mp reached
      exact (stands.among target atRoot).holds_chain known _ resolved
  | .compare target name operand, _, bindings, _, _, _, _, _, stands, atRoot, compiles => by
      obtain ⟨_, aliasName, chain, operator, comparand, reached, chosen, other, same⟩ :=
        predicate_compare_ok.mp compiles
      cases same
      obtain ⟨_, rfl, property, known, resolved⟩ := ComparisonTarget.chain_ok.mp reached
      obtain ⟨scalarType, _, registered, _⟩ := comparisonOperator_ok.mp chosen
      have tested := (stands.among target atRoot).holds_chain known
        (fun found => (Test.compare operator comparand).holds interpretation bindings found)
        resolved
      simp only [Predicate.holds, holds, ← find_comparand stands atRoot other]
      refine tested.trans ?_
      simp only [Chain.endHolds, holds_comparison registered]
      rfl
  | .existsIn collection none, _, _, _, _, _, _, _, stands, _, compiles => by
      obtain ⟨_, column, source, element, located, same⟩ := predicate_exists_ok.mp compiles
      cases same
      simp only [Predicate.holds, holds, elements_searched stands located, List.isEmpty_map]
  | .existsIn collection (some expression), _, _, _, _, count, _, _, stands, atRoot, compiles => by
      obtain ⟨_, column, source, element, inner, predicate, _, located, opened, compiled, same⟩ :=
        predicate_existsWhere_ok.mp compiles
      cases same
      obtain ⟨name, object, required, known, rfl⟩ := elementScope_ok.mp opened
      simp only [Predicate.holds, holds, elements_searched stands located, List.any_map]
      congr 1
      funext item
      have place : schema.elementPlace? element item = some ⟨object, item⟩ := by
        simp [Schema.elementPlace?, required, known]
      simp only [Function.comp_apply, place]
      exact holds_predicate apart expression ⟨Table.entry_first _ _ _, rfl⟩
        (atRoot.bind_other item (apart (count + 1))) compiled

/-- All or some of the compiled predicates hold exactly when all or some of the expressions do. -/
theorem holds_predicates (apart : ∀ number, root.aliasName ≠ elementAlias number) :
    ∀ (expressions : List Expression) {scope : Scope} {bindings : Bindings} {here : Place}
      {depth count next : Nat} {compiled : List Predicate},
      scope.StandsFor bindings here → root.StandsFor bindings rootPlace →
        predicates schema root scope depth count expressions = .ok (compiled, next) →
          Predicate.allHold interpretation bindings compiled =
              allHold interpretation schema rootPlace here expressions ∧
            Predicate.anyHolds interpretation bindings compiled =
              anyHolds interpretation schema rootPlace here expressions
  | [], _, _, _, _, _, _, _, _, _, compiles => by
      cases predicates_nil_ok.mp compiles
      exact ⟨rfl, rfl⟩
  | first :: rest, _, _, _, _, _, _, _, stands, atRoot, compiles => by
      obtain ⟨predicate, _, others, _, compiled, continued, same⟩ := predicates_cons_ok.mp compiles
      cases same
      have one := holds_predicate apart first stands atRoot compiled
      have more := holds_predicates apart rest stands atRoot continued
      simp only [Predicate.allHold, Predicate.anyHolds, allHold, anyHolds, one, more, and_self]

end

/-- A compiled condition holds of a document exactly when its expression does, whatever the database
makes of the relations and whatever the variables are. -/
theorem condition_holds (interpretation : Interpretation) (schema : Schema)
    (collection objectName : String) (object : ObjectType) (expression : Expression)
    (predicate : Predicate)
    (compiled : condition schema ⟨QueryRequest.rootAlias collection, objectName, object⟩ expression =
      .ok predicate)
    (document : Json) :
    predicate.holds interpretation [(QueryRequest.rootAlias collection, document)] =
      expression.holds interpretation schema ⟨object, document⟩ ⟨object, document⟩ := by
  obtain ⟨⟨_, next⟩, compiles, rfl⟩ := Attempt.map_eq_ok_iff.mp compiled
  have stands : Scope.StandsFor ⟨QueryRequest.rootAlias collection, objectName, object⟩
      [(QueryRequest.rootAlias collection, document)] ⟨object, document⟩ :=
    ⟨Table.entry_first _ _ _, rfl⟩
  exact holds_predicate (QueryRequest.rootAlias_ne_elementAlias collection) expression stands stands
    compiles

/-- This interpretation compares values by their equality and knows no variable. -/
def plainEquality : Interpretation where
  relates relation left right := relation = .equal && left = right
  assigned _ := none

/-- The sample condition reaches its root from an element and arrays inside arrays. -/
theorem condition_holds_sample :
    condition Sample.schema Sample.scope Sample.expression = .ok Sample.predicate ∧
      Sample.predicate.holds plainEquality [(QueryRequest.rootAlias "orders", Sample.document)] =
        Sample.expression.holds plainEquality Sample.schema ⟨Sample.order, Sample.document⟩
          ⟨Sample.order, Sample.document⟩ ∧
        Sample.expression.holds plainEquality Sample.schema ⟨Sample.order, Sample.document⟩
          ⟨Sample.order, Sample.document⟩ = true :=
  ⟨rfl, condition_holds plainEquality Sample.schema "orders" "Order" Sample.order Sample.expression
    Sample.predicate rfl Sample.document, rfl⟩

end Expression

end DocumentQuery
