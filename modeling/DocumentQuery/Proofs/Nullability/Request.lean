/-
This file proves that nullable wrappers make no difference to the compiled text of a request.
-/

import DocumentQuery.Proofs.Compilation.Statement
import DocumentQuery.Proofs.Nullability.Paths
import DocumentQuery.Proofs.Sample

namespace DocumentQuery

variable {schema : Schema}

def TargetColumn.bare (column : TargetColumn) : TargetColumn :=
  { column with scope := column.scope.bare }

namespace ComparisonTarget

/-- A target is located at the same column without its wrappers. -/
theorem locate_bare (root scope : Scope) (target : ComparisonTarget) :
    target.locate root.bare scope.bare = TargetColumn.bare <$> target.locate root scope := by
  cases target with
  | rootColumn name fieldPath => rfl
  | column name fieldPath path => cases path <;> rfl

/-- The chain of a target is the same over the bare schema. -/
theorem chain_bare (root scope : Scope) (pathEnd : PathEnd) (target : ComparisonTarget) :
    target.chain schema.bare root.bare scope.bare pathEnd =
      target.chain schema root scope pathEnd := by
  simp only [chain, locate_bare, bind_map_left, TargetColumn.bare, Scope.property_bare,
    Property.bare, Chain.ofColumn_bare, Scope.aliasName_bare]

end ComparisonTarget

/-- An operand has the same comparand over the bare schema. -/
theorem ComparisonOperand.comparand_bare (root scope : Scope) (operand : ComparisonOperand) :
    operand.comparand schema.bare root.bare scope.bare = operand.comparand schema root scope := by
  cases operand with
  | scalar value => rfl
  | «variable» name => rfl
  | column target =>
      simp only [comparand, ComparisonTarget.locate_bare, bind_map_left, TargetColumn.bare,
        Scope.objectPath_bare]

namespace Expression

/-- A search has the same source, and its elements lose their wrappers. -/
theorem searched_bare (scope : Scope) (collection : SearchedCollection) :
    searched schema.bare scope.bare collection =
      (fun found => (found.1, found.2.1, found.2.2.bare)) <$> searched schema scope collection := by
  cases collection with
  | related relationship arguments => rfl
  | unrelated name arguments => rfl
  | nested column arguments fieldPath =>
      cases arguments with
      | cons argument rest => rfl
      | nil =>
          simp only [searched, Scope.objectPath_bare, bind_map_left, map_bind,
            ValueType.required_bare]
          congr 1
          funext found
          rcases found.2.required_cases with ⟨element, required⟩ | ⟨name, kind, required⟩
          · rw [required]
            rfl
          · rw [required]
            rfl

/-- The scope of an element is opened without its wrappers. -/
theorem elementScope_bare (column aliasName : String) (element : ValueType) :
    elementScope schema.bare column aliasName element.bare =
      Scope.bare <$> elementScope schema column aliasName element := by
  rw [elementScope, elementScope, ValueType.required_bare]
  rcases element.required_cases with ⟨inner, required⟩ | ⟨name, kind, required⟩
  · rw [required]
    rfl
  · rw [required]
    cases kind with
    | scalar => rfl
    | object =>
        simp only [ValueType.bare, Schema.objectType?_bare]
        cases schema.objectType? name <;> rfl

variable {root : Scope}

mutual

/-- An element of a searched array is bound without its wrappers, and nothing else of the scope is
changed. -/
theorem predicate_bare :
    ∀ (expression : Expression) (scope : Scope) (depth count : Nat),
      predicate schema.bare root.bare scope.bare depth count expression =
        predicate schema root scope depth count expression
  | .and expressions, scope, depth, count => by
      simp only [predicate, predicates_bare expressions]
  | .or expressions, scope, depth, count => by
      simp only [predicate, predicates_bare expressions]
  | .not expression, scope, depth, count => by
      simp only [predicate, predicate_bare expression]
  | .isNull target, scope, depth, count => by
      simp only [predicate, ComparisonTarget.chain_bare]
  | .compare target name operand, scope, depth, count => by
      simp only [predicate, ComparisonTarget.chain_bare, ComparisonOperand.comparand_bare]
  | .existsIn collection none, scope, depth, count => by
      simp only [predicate, searched_bare, bind_map_left]
  | .existsIn collection (some condition), scope, depth, count => by
      simp only [predicate, searched_bare, elementScope_bare, bind_map_left,
        predicate_bare condition]

/-- The predicates of a list are the same over the bare schema. -/
theorem predicates_bare :
    ∀ (expressions : List Expression) (scope : Scope) (depth count : Nat),
      predicates schema.bare root.bare scope.bare depth count expressions =
        predicates schema root scope depth count expressions
  | [], scope, depth, count => rfl
  | first :: rest, scope, depth, count => by
      simp only [predicates, predicate_bare first, predicates_bare rest]

end

/-- The condition of a query is the same over the bare schema. -/
theorem condition_bare (root : Scope) :
    condition schema.bare root.bare = condition schema root := by
  funext expression
  rw [condition, condition, predicate_bare]

end Expression

namespace Selection

mutual

/-- A field becomes the same column over the bare schema. -/
theorem columnOfField_bare :
    ∀ (field : Field) (scope : Scope) (depth : Nat) (bound : List String) (aliasName : String),
      columnOfField schema.bare scope.bare depth bound aliasName field =
        columnOfField schema scope depth bound aliasName field
  | .relationship query relationship arguments, scope, depth, bound, aliasName => rfl
  | .column column none, scope, depth, bound, aliasName => by
      simp only [columnOfField, Scope.property_bare, bind_map_left, Scope.aliasName_bare]
  | .column column (some nested), scope, depth, bound, aliasName => by
      simp only [columnOfField, Scope.property_bare, bind_map_left, Property.bare,
        Scope.aliasName_bare, subquery_bare nested]

/-- A row has the same columns over the bare schema. -/
theorem columnsOfFields_bare :
    ∀ (fields : List (String × Field)) (scope : Scope) (depth : Nat) (bound : List String),
      columnsOfFields schema.bare scope.bare depth bound fields =
        columnsOfFields schema scope depth bound fields
  | [], scope, depth, bound => rfl
  | (aliasName, first) :: rest, scope, depth, bound => by
      simp only [columnsOfFields, columnOfField_bare first, columnsOfFields_bare rest]

/-- A type that is neither an object nor an array stays one without its wrappers. -/
theorem subquery_bare :
    ∀ (nested : Selection) (source : Path) (type : ValueType) (field : String) (depth : Nat)
      (enclosing : List String),
      subquery schema.bare source type.bare field depth enclosing nested =
        subquery schema source type field depth enclosing nested
  | .object fields, source, type, field, depth, enclosing => by
      rw [subquery, subquery, ValueType.required_bare]
      rcases type.required_cases with ⟨element, required⟩ | ⟨name, kind, required⟩
      · rw [required]
        rfl
      · rw [required]
        cases kind with
        | scalar => rfl
        | object =>
            simp only [ValueType.bare, Schema.lookUpObject_bare, bind_map_left, ← Scope.bare_mk,
              columnsOfFields_bare fields]
  | .array elements, source, type, field, depth, enclosing => by
      rw [subquery, subquery, ValueType.required_bare]
      rcases type.required_cases with ⟨element, required⟩ | ⟨name, kind, required⟩
      · rw [required]
        simp only [ValueType.bare, selectElements_bare elements]
      · rw [required]
        rfl

/-- Elements are selected in the same way when their type is bare. -/
theorem selectElements_bare :
    ∀ (elements : Selection) (source : Path) (aliasName : String) (element : ValueType)
      (depth : Nat) (enclosing : List String),
      selectElements schema.bare source aliasName element.bare depth enclosing elements =
        selectElements schema source aliasName element depth enclosing elements
  | .object fields, source, aliasName, element, depth, enclosing => by
      rw [selectElements, selectElements, ValueType.required_bare]
      rcases element.required_cases with ⟨inner, required⟩ | ⟨name, kind, required⟩
      · rw [required]
        rfl
      · rw [required]
        cases kind with
        | scalar => rfl
        | object =>
            simp only [ValueType.bare, Schema.lookUpObject_bare, bind_map_left, ← Scope.bare_mk,
              columnsOfFields_bare fields]
  | .array elements, source, aliasName, element, depth, enclosing => by
      rw [selectElements, selectElements, ValueType.required_bare]
      rcases element.required_cases with ⟨inner, required⟩ | ⟨name, kind, required⟩
      · rw [required]
        simp only [ValueType.bare, selectElements_bare elements]
      · rw [required]
        rfl

end

end Selection

namespace Aggregate

/-- An aggregate is the same over the bare schema. -/
theorem column_bare (scope : Scope) (aggregate : Aggregate) :
    aggregate.column schema.bare scope.bare = aggregate.column schema scope := by
  cases aggregate with
  | starCount => rfl
  | columnCount name fieldPath distinct =>
      simp only [column, Scope.objectPath_bare, bind_map_left]
  | singleColumn name fieldPath function =>
      simp only [column, Scope.objectPath_bare, bind_map_left, ValueType.required_bare]
      congr 1
      funext found
      rcases found.2.required_cases with ⟨element, required⟩ | ⟨name, kind, required⟩
      · rw [required]
        rfl
      · rw [required]
        rfl

theorem columns_bare (scope : Scope) (aggregates : Table Aggregate) :
    columns schema.bare scope.bare aggregates = columns schema scope aggregates := by
  simp only [columns, column_bare]

end Aggregate

namespace OrderElement

theorem sortKey_bare (scope : Scope) :
    sortKey schema.bare scope.bare = sortKey schema scope := by
  funext element
  obtain ⟨direction, target⟩ := element
  cases target with
  | singleColumnAggregate column function path => rfl
  | starCountAggregate path => rfl
  | column name fieldPath path =>
      cases path with
      | cons crossing rest => rfl
      | nil => simp only [sortKey, Scope.objectPath_bare, bind_map_left]

theorem sortKeys_bare (scope : Scope) (elements : List OrderElement) :
    sortKeys schema.bare scope.bare elements = sortKeys schema scope elements := by
  cases elements with
  | nil => rfl
  | cons first rest => rw [sortKeys, sortKeys, sortKey_bare]

end OrderElement

namespace QueryRequest

/-- The root scope loses its wrappers and nothing else. -/
theorem rootScope_bare (request : QueryRequest) :
    request.rootScope schema.bare = Scope.bare <$> request.rootScope schema := by
  unfold rootScope
  rw [Schema.collection?_bare]
  cases schema.collection? request.collection with
  | none => rfl
  | some collection =>
      simp only [Option.map_some, Collection.bare, ValueType.base_bare, Schema.objectType?_bare]
      cases request.arguments.isEmpty <;> cases request.relationships.isEmpty <;>
        cases schema.objectType? collection.resultType.base.1 <;> rfl

/-- The columns of a query are the same over the bare schema. -/
theorem columns_bare (scope : Scope) (query : Query) :
    columns schema.bare scope.bare query = columns schema scope query := by
  unfold columns
  split
  next => rfl
  next fields _ _ =>
    simp only [Selection.columns, Selection.columnsOfFields_bare, Scope.aliasName_bare]
  next aggregates _ _ => exact Aggregate.columns_bare scope aggregates
  next => rfl

/-- The ordering of a query is the same over the bare schema. -/
theorem ordering_bare (scope : Scope) (query : Query) :
    ordering schema.bare scope.bare query = ordering schema scope query := by
  unfold ordering
  cases query.orderBy with
  | none => rfl
  | some elements => exact OrderElement.sortKeys_bare scope elements

/-- The statement of a request is the same over the bare schema, and so is any fault. -/
theorem statement_bare (request : QueryRequest) :
    request.statement schema.bare = request.statement schema := by
  simp only [statement_steps, rootScope_bare, bind_map_left, columns_bare, ordering_bare,
    Expression.condition_bare, Scope.aliasName_bare]

/-- Schemas that differ in nullable wrappers only compile every request to the same text, parameters
and flag, or refuse it with the same fault. -/
theorem compile_unaffected_by_nullability (schema other : Schema)
    (same : schema.SameButNullable other) (request : QueryRequest) :
    request.compile schema = request.compile other := by
  have equal : schema.bare = other.bare := Schema.sameButNullable_iff.mp same
  calc
    request.compile schema = request.compile schema.bare := by
      rw [compile, compile, statement_bare]
    _ = request.compile other.bare := by rw [equal]
    _ = request.compile other := by rw [compile, compile, statement_bare]

end QueryRequest

/-- Wrappers come and go around the arrays of the sample schema and inside them. -/
def Sample.rewrapped : Schema where
  collections := [("orders", ⟨none, [], .nullable (.orNull (.object "Order")) (some .either)⟩)]
  objectTypes :=
    [("Order", ⟨none, [("id", property (.nullable text none)),
        ("customer", property (.object "Customer")),
        ("lines", property (.array (.orNull (.orNull (.object "Line"))))),
        ("grid", property (.orNull (.array (.orNull (.array (.orNull (.object "Line")))))))]⟩),
      ("Customer", customer),
      ("Line", ⟨none, [("value", property (.orNull (.scalar "Number"))),
        ("tags", property (.array (.array (.orNull text))))]⟩)]
  scalarTypes := []

/-- The sample request selects inside an object and searches an array, and the wrappers of both have
changed. -/
theorem QueryRequest.compile_rewrapped_sample :
    Sample.rewrapped.SameButNullable Sample.schema ∧ Sample.rewrapped ≠ Sample.schema ∧
      Sample.request.compile Sample.rewrapped =
        .ok ⟨"orders", ⟨Sample.queryText, []⟩, false⟩ := by
  have same : Sample.rewrapped.SameButNullable Sample.schema := by decide
  refine ⟨same, by decide, ?_⟩
  rw [compile_unaffected_by_nullability Sample.rewrapped Sample.schema same Sample.request]
  decide +kernel

end DocumentQuery
