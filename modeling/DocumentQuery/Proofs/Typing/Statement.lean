/-
This file proves that compiled statements are well typed.
-/

import DocumentQuery.Proofs.Compilation.Statement
import DocumentQuery.Proofs.Sample
import DocumentQuery.Proofs.Typing.Condition

namespace DocumentQuery

variable {schema : Schema} {context : Context}

/-- Columns are well typed when each of them is. -/
theorem columnsWellTyped_iff {columns : List (String × Projection)} :
    columnsWellTyped schema context columns ↔
      ∀ entry ∈ columns, entry.2.WellTyped schema context := by
  induction columns with
  | nil => simp [columnsWellTyped]
  | cons entry rest continued => rw [columnsWellTyped, continued, List.forall_mem_cons]

/-- A statement that has no clause but its origin is well typed when its columns are. -/
theorem Select.wellTyped_of_columns {columns : List (String × Projection)} {origin : Origin}
    {asValue asArray : Bool} {aliasName : String} {type : ValueType}
    (bound : origin.Binds schema context aliasName type)
    (typed : columnsWellTyped schema ((aliasName, type) :: context) columns) :
    Select.WellTyped schema context { columns, origin := some origin, asValue, asArray } := by
  refine ⟨origin, aliasName, type, rfl, bound, typed, ?_, ?_⟩
  · rintro _ ⟨⟩
  · rintro _ ⟨⟩

namespace Selection

mutual

/-- The induction is on the field. Its column is well typed wherever its scope fits. -/
theorem columnOfField_wellTyped :
    ∀ (field : Field) (scope : Scope) (depth : Nat) (bound : List String) (aliasName : String)
      (projection : Projection) (context : Context), scope.FitsIn schema context →
        columnOfField schema scope depth bound aliasName field = .ok projection →
          projection.WellTyped schema context
  | .relationship query relationship arguments, scope, depth, bound, aliasName, projection,
      context, fits, compiled =>
      absurd compiled columnOfField_relationship
  | .column column none, scope, depth, bound, aliasName, projection, context, fits, compiled => by
      obtain ⟨⟨property, known⟩, rfl⟩ := columnOfField_plain_ok.mp compiled
      exact ⟨property.type, fits.leaves known (.here property.type)⟩
  | .column column (some nested), scope, depth, bound, aliasName, projection, context, fits,
      compiled => by
      obtain ⟨property, known, inner⟩ := columnOfField_nested_ok.mp compiled
      exact subquery_wellTyped nested ⟨scope.aliasName, [column]⟩ property.type column depth bound
        projection context (fits.leaves known (.here property.type)) inner

/-- The columns of a row are well typed. -/
theorem columnsOfFields_wellTyped :
    ∀ (fields : List (String × Field)) (scope : Scope) (depth : Nat) (bound : List String)
      (columns : List (String × Projection)) (context : Context), scope.FitsIn schema context →
        columnsOfFields schema scope depth bound fields = .ok columns →
          columnsWellTyped schema context columns
  | [], scope, depth, bound, columns, context, fits, compiled => by
      rw [columnsOfFields_nil_ok.mp compiled]
      trivial
  | (aliasName, first) :: rest, scope, depth, bound, columns, context, fits, compiled => by
      obtain ⟨projection, others, one, more, rfl⟩ := columnsOfFields_cons_ok.mp compiled
      constructor
      · exact columnOfField_wellTyped first scope depth bound aliasName projection context fits one
      · exact columnsOfFields_wellTyped rest scope depth bound others context fits more

/-- A subquery of a source with this type is well typed. -/
theorem subquery_wellTyped :
    ∀ (nested : Selection) (source : Path) (type : ValueType) (field : String) (depth : Nat)
      (enclosing : List String) (projection : Projection) (context : Context),
      source.HasType schema context type →
        subquery schema source type field depth enclosing nested = .ok projection →
          projection.WellTyped schema context
  | .object fields, source, type, field, depth, enclosing, projection, context, typed,
      compiled => by
      obtain ⟨name, object, columns, required, declared, _, inner, rfl⟩ :=
        subquery_object_ok.mp compiled
      have selected := columnsOfFields_wellTyped fields _ _ _ columns _
        (.innermost required declared context) inner
      rw [Projection.WellTyped]
      exact Select.wellTyped_of_columns ⟨rfl, typed, name, object, required, declared⟩ selected
  | .array elements, source, type, field, depth, enclosing, projection, context, typed,
      compiled => by
      obtain ⟨element, select, required, inner, rfl⟩ := subquery_array_ok.mp compiled
      exact selectElements_wellTyped elements source _ element (depth + 1) enclosing select context
        ⟨type, typed, required⟩ inner

/-- The statement of the elements is well typed at every level of an array. -/
theorem selectElements_wellTyped :
    ∀ (elements : Selection) (source : Path) (aliasName : String) (element : ValueType)
      (depth : Nat) (enclosing : List String) (select : Select) (context : Context),
      source.HasElements schema context element →
        selectElements schema source aliasName element depth enclosing elements = .ok select →
          select.WellTyped schema context
  | .object fields, source, aliasName, element, depth, enclosing, select, context, typed,
      compiled => by
      obtain ⟨_, name, object, columns, required, declared, inner, rfl⟩ :=
        selectElements_object_ok.mp compiled
      have selected := columnsOfFields_wellTyped fields _ _ _ columns _
        (.innermost required declared context) inner
      exact Select.wellTyped_of_columns ⟨rfl, typed⟩ selected
  | .array elements, source, aliasName, element, depth, enclosing, select, context, typed,
      compiled => by
      obtain ⟨_, inner, embedded, required, continued, rfl⟩ := selectElements_array_ok.mp compiled
      have source : (Path.ofAlias aliasName).HasElements schema ((aliasName, element) :: context)
          inner :=
        ⟨element, ⟨element, Table.entry_first context aliasName element, .here element⟩, required⟩
      have nested := selectElements_wellTyped elements _ _ inner (depth + 1) _ embedded _ source
        continued
      exact Select.wellTyped_of_columns ⟨rfl, typed⟩ ⟨nested, trivial⟩

end

end Selection

variable {scope : Scope}

/-- An aggregate applies a function that is registered for the type of its column. -/
theorem Aggregate.column_wellTyped (fits : scope.FitsIn schema context) {aggregate : Aggregate}
    {compiled : AggregateColumn} (accepted : aggregate.column schema scope = .ok compiled) :
    compiled.WellTyped schema context := by
  cases aggregate with
  | starCount =>
      cases accepted
      trivial
  | columnCount name fieldPath distinct =>
      obtain ⟨path, type, resolved, rfl⟩ := column_count_ok.mp accepted
      exact ⟨type, fits.objectPath resolved⟩
  | singleColumn name fieldPath function =>
      obtain ⟨path, type, scalarType, definition, resolved, required, registered, rfl⟩ :=
        column_single_ok.mp accepted
      obtain ⟨_, operators, listed, member⟩ := Operators.aggregate_registered registered
      exact ⟨type, scalarType, operators, definition, fits.objectPath resolved, required, listed,
        member, rfl⟩

namespace QueryRequest

/-- The columns of a query are well typed, whether they select or aggregate. -/
theorem columns_wellTyped (fits : scope.FitsIn schema context) {query : Query}
    {compiled : Table Projection} (accepted : columns schema scope query = .ok compiled) :
    columnsWellTyped schema context compiled := by
  rcases columns_cases accepted with ⟨fields, selected⟩ | ⟨aggregates, applied⟩ | rfl
  · exact Selection.columnsOfFields_wellTyped fields _ _ _ compiled context fits
      (Selection.columns_ok.mp selected)
  · rw [columnsWellTyped_iff]
    intro entry member
    obtain ⟨_, aggregate, call, known, same⟩ := Aggregate.column_of_mem applied entry member
    rw [same]
    exact Aggregate.column_wellTyped fits known
  · trivial

/-- Every compiled statement is well typed in the empty context. -/
theorem statement_wellTyped (schema : Schema) (request : QueryRequest) (select : Select)
    (stated : request.statement schema = .ok select) : select.WellTyped schema [] := by
  obtain ⟨scope, compiled, predicate, keys, rooted, columns, condition, ordered, rfl⟩ :=
    statement_ok.mp stated
  obtain ⟨_, _, collection, object, listed, declared, rfl⟩ := rootScope_ok.mp rooted
  have fits : Scope.FitsIn ⟨rootAlias request.collection, collection.resultType.base.1, object⟩
      schema [(rootAlias request.collection, .object collection.resultType.base.1)] :=
    .innermost rfl declared []
  refine ⟨_, rootAlias request.collection, _, rfl, ⟨rfl, collection, listed, rfl⟩,
    columns_wellTyped fits columns, ?_, ?_⟩
  · rintro inside rfl
    have compiles := condition_related condition
    generalize request.query.predicate = requested at compiles
    cases compiles with
    | some resolved =>
        obtain ⟨count, resolved⟩ := resolved
        exact Expression.predicate_wellTyped (rootAlias_ne_elementAlias request.collection) _ _ 1 0
          _ _ fits fits resolved
  · rintro keys rfl key member
    obtain ⟨_, _, type, resolved⟩ := ordering_resolved ordered key member
    exact ⟨type, fits.objectPath resolved⟩

/-- The sample condition compares tags in arrays of arrays, and the columns select from a grid. -/
theorem statement_wellTyped_sample :
    Sample.searching.statement Sample.schema = .ok Sample.searchingStatement ∧
      Sample.searchingStatement.WellTyped Sample.schema [] := by
  have stated : Sample.searching.statement Sample.schema = .ok Sample.searchingStatement := rfl
  exact ⟨stated,
    statement_wellTyped Sample.schema Sample.searching Sample.searchingStatement stated⟩

end QueryRequest

end DocumentQuery
