/-
This file says when requests compile and which statement and text they become.
-/

import DocumentQuery.Compilation.Query
import DocumentQuery.Proofs.Compilation.Condition
import DocumentQuery.Proofs.Compilation.Selection

namespace DocumentQuery

variable {schema : Schema} {scope : Scope}

namespace Aggregate

/-- An alias of an aggregate passes exactly when it is plain. -/
theorem checkAlias_ok {aliasName : String} {done : Unit} :
    checkAlias aliasName = .ok done ↔ Identifier.isPlain aliasName := by
  unfold checkAlias
  split <;> simp_all

/-- A count of a column needs a path through objects only. -/
theorem column_count_ok {name : String} {fieldPath : Option (List String)} {distinct : Bool}
    {compiled : AggregateColumn} :
    column schema scope (.columnCount name fieldPath distinct) = .ok compiled ↔
      ∃ path type, scope.objectPath schema name (fieldPath.getD []) = .ok (path, type) ∧
        compiled = .count path distinct := by
  simp only [column, Attempt.bind_eq_ok_iff, Prod.exists, Attempt.pure_eq_ok_iff,
    @eq_comm _ _ compiled]

/-- A function of a column is one that the scalar type at the end of its path registers. -/
theorem column_single_ok {name function : String} {fieldPath : Option (List String)}
    {compiled : AggregateColumn} :
    column schema scope (.singleColumn name fieldPath function) = .ok compiled ↔
      ∃ path type scalarType definition,
        scope.objectPath schema name (fieldPath.getD []) = .ok (path, type) ∧
          type.required = .named scalarType .scalar ∧
            Operators.aggregate scalarType function = .ok definition ∧
              compiled = .function definition.dialectName path := by
  simp only [column, Attempt.bind_eq_ok_iff, Prod.exists]
  constructor
  · intro accepted
    obtain ⟨path, type, resolved, chosen⟩ := accepted
    split at chosen
    next scalarType required =>
      simp only [Attempt.bind_eq_ok_iff, Attempt.pure_eq_ok_iff] at chosen
      obtain ⟨definition, registered, same⟩ := chosen
      exact ⟨path, type, scalarType, definition, resolved, required, registered, same.symm⟩
    next => cases chosen
  · intro accepted
    obtain ⟨path, type, scalarType, definition, resolved, required, registered, same⟩ := accepted
    refine ⟨path, type, resolved, ?_⟩
    simp only [required, Attempt.bind_eq_ok_iff, Attempt.pure_eq_ok_iff]
    exact ⟨definition, registered, same.symm⟩

/-- The step of the aggregates checks the alias before the column. -/
theorem entry_ok {entry : String × Aggregate} {compiled : String × Projection} :
    (do
      checkAlias entry.1
      return (entry.1, Projection.aggregate (← entry.2.column schema scope))) = Except.ok compiled ↔
      Identifier.isPlain entry.1 ∧ ∃ column, entry.2.column schema scope = .ok column ∧
        compiled = (entry.1, .aggregate column) := by
  simp only [Attempt.bind_eq_ok_iff, checkAlias_ok, exists_const, Attempt.pure_eq_ok_iff,
    @eq_comm _ _ compiled]

/-- Each column applies an aggregate under a plain alias. -/
theorem column_of_mem {aggregates : Table Aggregate} {compiled : Table Projection}
    (accepted : columns schema scope aggregates = .ok compiled) :
    ∀ entry ∈ compiled, Identifier.isPlain entry.1 ∧
      ∃ (aggregate : Aggregate) (call : AggregateColumn),
        aggregate.column schema scope = .ok call ∧ entry.2 = .aggregate call := by
  intro entry member
  obtain ⟨requested, _, stepped⟩ := Attempt.mem_of_mapM accepted entry member
  obtain ⟨plain, call, known, rfl⟩ := entry_ok.mp stepped
  exact ⟨plain, requested.2, call, known, rfl⟩

end Aggregate

namespace OrderElement

/-- A sort key is a column without relationships at the end of an object path. -/
theorem sortKey_ok {element : OrderElement} {key : SortKey} :
    element.sortKey schema scope = .ok key ↔
      ∃ name fieldPath path type, element.target = .column name fieldPath [] ∧
        scope.objectPath schema name (fieldPath.getD []) = .ok (path, type) ∧
          key = ⟨path, element.direction = .descending⟩ := by
  obtain ⟨direction, target⟩ := element
  cases target with
  | singleColumnAggregate column function path => simp [sortKey]
  | starCountAggregate path => simp [sortKey]
  | column name fieldPath path =>
      cases path with
      | cons crossing rest => simp [sortKey]
      | nil =>
          simp only [sortKey, Attempt.bind_eq_ok_iff, Prod.exists, Attempt.pure_eq_ok_iff,
            @eq_comm _ _ key]
          constructor
          · intro accepted
            obtain ⟨path, type, resolved, same⟩ := accepted
            exact ⟨name, fieldPath, path, type, rfl, resolved, same⟩
          · intro accepted
            obtain ⟨_, _, path, type, same, resolved, written⟩ := accepted
            cases same
            exact ⟨path, type, resolved, written⟩

/-- Each sort key is a column of the ordered documents. -/
theorem sortKey_of_mem {elements : List OrderElement} {keys : List SortKey}
    (accepted : sortKeys schema scope elements = .ok (some keys)) :
    ∀ key ∈ keys, ∃ name fieldPath type,
      scope.objectPath schema name fieldPath = .ok (key.column, type) := by
  cases elements with
  | nil => cases accepted
  | cons first rest =>
      simp only [sortKeys, Attempt.bind_eq_ok_iff, Attempt.pure_eq_ok_iff, Option.some.injEq]
        at accepted
      obtain ⟨_, ordered, rfl⟩ := accepted
      intro key member
      obtain ⟨element, _, stepped⟩ := Attempt.mem_of_mapM ordered key member
      obtain ⟨name, fieldPath, path, type, _, resolved, rfl⟩ := sortKey_ok.mp stepped
      exact ⟨name, fieldPath.getD [], type, resolved⟩

end OrderElement

namespace QueryRequest

/-- The root scope needs no arguments, no relationships and a declared object type. -/
theorem rootScope_ok {request : QueryRequest} :
    request.rootScope schema = .ok scope ↔
      request.arguments = [] ∧ request.relationships = [] ∧
        ∃ collection object, schema.collection? request.collection = some collection ∧
          schema.objectType? collection.resultType.base.1 = some object ∧
            scope = ⟨rootAlias request.collection, collection.resultType.base.1, object⟩ := by
  unfold rootScope
  cases schema.collection? request.collection with
  | none => simp
  | some collection =>
      cases arguments : request.arguments with
      | cons argument rest => simp
      | nil =>
          cases relationships : request.relationships with
          | cons relationship rest => simp
          | nil =>
              cases known : schema.objectType? collection.resultType.base.1 with
              | none => simp [known]
              | some object =>
                  simp only [known, List.isEmpty_nil, Option.some.injEq, true_and]
                  constructor
                  · intro rooted
                    exact ⟨collection, object, rfl, known, (Except.ok.inj rooted).symm⟩
                  · intro rooted
                    obtain ⟨_, other, same, known', located⟩ := rooted
                    cases same
                    cases known.symm.trans known'
                    cases located
                    rfl

/-- An absent ordering and an empty ordering both order nothing. -/
def ordering (schema : Schema) (scope : Scope) (query : Query) :
    Except Fault (Option (List SortKey)) :=
  match query.orderBy with
  | none => pure none
  | some elements => OrderElement.sortKeys schema scope elements

/-- Every column that orders a query resolves in the root scope. -/
theorem ordering_resolved {query : Query} {keys : List SortKey}
    (ordered : ordering schema scope query = .ok (some keys)) :
    ∀ key ∈ keys, ∃ name fieldPath type,
      scope.objectPath schema name fieldPath = .ok (key.column, type) := by
  unfold ordering at ordered
  split at ordered
  next => cases ordered
  next elements _ => exact OrderElement.sortKey_of_mem ordered

/-- The columns of a query select fields or apply aggregates, or there are none. -/
theorem columns_cases {query : Query} {compiled : Table Projection}
    (accepted : columns schema scope query = .ok compiled) :
    (∃ fields, Selection.columns schema scope fields = .ok compiled) ∨
      (∃ aggregates, Aggregate.columns schema scope aggregates = .ok compiled) ∨
        compiled = [] := by
  unfold columns at accepted
  split at accepted
  next => cases accepted
  next fields _ _ => exact .inl ⟨fields, accepted⟩
  next aggregates _ _ => exact .inr (.inl ⟨aggregates, accepted⟩)
  next => exact .inr (.inr (Except.ok.inj accepted).symm)

/-- The condition of a query is compiled from the root scope on, with nothing counted yet. -/
theorem condition_related {query : Query} {compiled : Option Predicate}
    (condition : query.predicate.mapM (Expression.condition schema scope) = .ok compiled) :
    Option.Rel
      (fun expression predicate => ∃ count,
        Expression.predicate schema scope scope 1 0 expression = .ok (predicate, count))
      query.predicate compiled := by
  generalize query.predicate = requested at condition ⊢
  cases requested with
  | none =>
      cases condition
      exact .none
  | some expression =>
      rw [Option.mapM_some, Attempt.mapped_eq_ok_iff] at condition
      obtain ⟨predicate, compiles, rfl⟩ := condition
      obtain ⟨result, resolved, rfl⟩ := Attempt.map_eq_ok_iff.mp compiles
      exact .some ⟨result.2, resolved⟩

/-- A request is stated in these steps. -/
theorem statement_steps (request : QueryRequest) :
    request.statement schema = (do
      let scope ← request.rootScope schema
      let compiled ← columns schema scope request.query
      let predicate ← request.query.predicate.mapM (Expression.condition schema scope)
      let sortKeys ← ordering schema scope request.query
      return {
        columns := compiled
        origin := some (.container request.collection scope.aliasName)
        isAggregate := request.query.aggregates.isSome
        predicate
        sortKeys
        offset := request.query.offset
        limit := request.query.limit }) := by
  simp only [statement, ordering]
  cases request.query.orderBy <;> rfl

/-- A request is stated exactly when its scope, columns, condition and ordering all compile. -/
theorem statement_ok {request : QueryRequest} {select : Select} :
    request.statement schema = .ok select ↔
      ∃ scope compiled predicate sortKeys, request.rootScope schema = .ok scope ∧
        columns schema scope request.query = .ok compiled ∧
          request.query.predicate.mapM (Expression.condition schema scope) = .ok predicate ∧
            ordering schema scope request.query = .ok sortKeys ∧
              select =
                { columns := compiled
                  origin := some (.container request.collection scope.aliasName)
                  isAggregate := request.query.aggregates.isSome
                  predicate
                  sortKeys
                  offset := request.query.offset
                  limit := request.query.limit } := by
  simp only [statement_steps, Attempt.bind_eq_ok_iff, Attempt.pure_eq_ok_iff]
  constructor
  · intro accepted
    obtain ⟨scope, rooted, compiled, columns, predicate, condition, sortKeys, ordered, same⟩ :=
      accepted
    exact ⟨scope, compiled, predicate, sortKeys, rooted, columns, condition, ordered, same.symm⟩
  · intro accepted
    obtain ⟨scope, compiled, predicate, sortKeys, rooted, columns, condition, ordered, same⟩ :=
      accepted
    exact ⟨scope, rooted, compiled, columns, predicate, condition, sortKeys, ordered, same.symm⟩

/-- A request compiles exactly when it is stated and its statement can be written. -/
theorem compile_ok {request : QueryRequest} {prepared : PreparedQuery} :
    request.compile schema = .ok prepared ↔
      ∃ select text, request.statement schema = .ok select ∧
        select.textWith request.variableSets = .ok text ∧
          prepared = ⟨request.collection, text, select.isAggregate⟩ := by
  simp only [compile, Attempt.bind_eq_ok_iff, Attempt.pure_eq_ok_iff, @eq_comm _ _ prepared]
  constructor
  · intro accepted
    obtain ⟨select, stated, text, written, same⟩ := accepted
    exact ⟨select, text, stated, written, same⟩
  · intro accepted
    obtain ⟨select, text, stated, written, same⟩ := accepted
    exact ⟨select, stated, text, written, same⟩

/-- A fault of the statement is the fault of the request. -/
theorem compile_of_statement_fault {request : QueryRequest} {fault : Fault}
    (refused : request.statement schema = .error fault) :
    request.compile schema = .error fault := by
  rw [compile, refused]
  rfl

/-- A fault of the text is the fault of a request that was stated. -/
theorem compile_of_text_fault {request : QueryRequest} {select : Select} {fault : Fault}
    (stated : request.statement schema = .ok select)
    (refused : select.textWith request.variableSets = .error fault) :
    request.compile schema = .error fault := by
  rw [compile, stated]
  change (select.textWith request.variableSets >>= _) = _
  rw [refused]
  rfl

end QueryRequest

namespace Select

/-- A statement without variables is written as it is, and one with variables needs a set of
them. -/
theorem textWith_ok {select : Select} {variableSets : Option (List (Table Json))}
    {text : SqlText} :
    select.textWith variableSets = .ok text ↔
      (select.usesVariables = false ∧ text = select.text) ∨
        (select.usesVariables ∧ ∃ first rest, variableSets = some (first :: rest) ∧
          text = ⟨select.withVariablesJoin.text.query, select.withVariablesJoin.text.parameters ++
            [⟨variablesParameter, .array ((first :: rest).map .object)⟩]⟩) := by
  unfold textWith
  cases select.usesVariables with
  | false => simp [eq_comm]
  | true =>
      cases variableSets with
      | none => simp
      | some sets =>
          cases sets with
          | nil => simp
          | cons first rest =>
              simp only [if_true, Except.ok.injEq, Option.some.injEq, List.cons.injEq,
                Bool.true_eq_false, false_and, false_or, true_and, @eq_comm _ _ text]
              constructor
              · intro same
                exact ⟨first, rest, ⟨rfl, rfl⟩, same⟩
              · intro same
                obtain ⟨_, _, ⟨rfl, rfl⟩, written⟩ := same
                exact written

end Select

end DocumentQuery
