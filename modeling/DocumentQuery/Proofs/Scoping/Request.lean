/-
This file proves that every compiled query is well scoped.
-/

import DocumentQuery.Proofs.Compilation.Statement
import DocumentQuery.Proofs.Rendering.QuerySpelling
import DocumentQuery.Proofs.Rendering.ReadBack
import DocumentQuery.Proofs.Scoping.Condition
import DocumentQuery.Proofs.Scoping.Selection

namespace DocumentQuery

open Dialect

variable {schema : Schema} {scope : Scope} {inScope : List String}

/-- A count that starts at zero numbers its aliases from one on. -/
theorem Counts.from_zero {stem : String} {last : Nat} {aliases : List String}
    (counts : Counts stem 0 last aliases) :
    aliases.filter (Stemmed stem ·) =
      (List.range last).map fun index => stem ++ toString (index + 1) := by
  rw [counts.listed, Nat.sub_zero, List.range'_eq_map_range, List.map_map]
  apply List.map_congr_left
  intro index _
  rw [Function.comp_apply, Nat.zero_add, Nat.add_comm]

/-- An object path starts at the alias of its scope. -/
theorem Scope.objectPath_alias {column : String} {fieldPath : List String} {path : Path}
    {last : ValueType} (resolved : scope.objectPath schema column fieldPath = .ok (path, last)) :
    path.aliasName = scope.aliasName := by
  obtain ⟨rfl, _⟩ := Scope.objectPath_ok.mp resolved
  rfl

/-- An aggregate reads the alias of its scope. -/
theorem Aggregate.column_scoped (here : scope.aliasName ∈ inScope) {aggregate : Aggregate}
    {compiled : AggregateColumn} (accepted : aggregate.column schema scope = .ok compiled) :
    compiled.call.Scoped inScope := by
  cases aggregate with
  | starCount =>
      cases accepted
      trivial
  | columnCount name fieldPath distinct =>
      obtain ⟨path, type, resolved, rfl⟩ := column_count_ok.mp accepted
      rw [← Scope.objectPath_alias resolved] at here
      cases distinct <;> exact here
  | singleColumn name fieldPath function =>
      obtain ⟨path, type, scalarType, definition, resolved, _, _, rfl⟩ :=
        column_single_ok.mp accepted
      rw [← Scope.objectPath_alias resolved] at here
      exact here

/-- The parts of a statement are closed in this scope, whatever numbering its columns leave. -/
structure Select.Closed (select : Select) (rootAlias : String) (inScope : List String) : Prop where
  origin : ∃ name, select.origin = some (.container name rootAlias)
  columns : ∀ entry ∈ select.columns, entry.2.Nested inScope
  sortKeys : ∀ keys, select.sortKeys = some keys →
    ∀ key ∈ keys, key.column.aliasName ∈ inScope
  condition : ∀ draft, draft.elements = 0 →
    (∀ condition, (select.condition? draft).1 = some condition → condition.Scoped inScope) ∧
      ∃ next last,
        Counts elementStem 0 next (((select.condition? draft).1.map Condition.binders).getD []) ∧
          Counts arrayStem 0 last (((select.condition? draft).1.map Condition.binders).getD [])

/-- No alias with a stem of its own is in scope before the condition. -/
structure Outermost (inScope : List String) : Prop where
  elements : ∀ aliasName ∈ inScope, ¬ Stemmed elementStem aliasName
  arrays : ∀ aliasName ∈ inScope, ¬ Stemmed arrayStem aliasName
  subqueries : ∀ aliasName ∈ inScope, ¬ Stemmed Selection.subqueryPrefix aliasName
  distinct : inScope.Nodup

/-- A statement of closed parts is well scoped under an outermost root. -/
theorem Select.Closed.wellScoped {select : Select} {rootAlias : String}
    (closed : select.Closed rootAlias (rootAlias :: select.joins.map Join.aliasName))
    (outermost : Outermost (rootAlias :: select.joins.map Join.aliasName)) :
    select.tree.WellScoped := by
  obtain ⟨columns, origin, asValue, asArray, isAggregate, joins, predicate, sortKeys, offset,
    limit⟩ := select
  obtain ⟨name, located⟩ := closed.origin
  subst located
  obtain ⟨items, binders, unchanged⟩ := items_nested closed.columns
    (form ⟨columns, some (.container name rootAlias), asValue, asArray, isAggregate, joins,
      predicate, sortKeys, offset, limit⟩) {}
  obtain ⟨condition, next, last, elements, arrays⟩ := closed.condition _ unchanged
  have subqueries {stem : String} (first : ¬ Stemmed Selection.subqueryPrefix stem)
      (second : ¬ Stemmed stem Selection.subqueryPrefix) :=
    Counts.none (fun aliasName member => (binders aliasName member).apart first second) 0
  constructor
  · refine ⟨⟨?_, by simp, outermost.distinct, condition, closed.sortKeys⟩, items⟩
    rintro _ ⟨⟩
    trivial
  · exact ((subqueries (by decide) (by decide)).append
      ((Counts.none outermost.elements 0).append elements)).nodup
  · exact ⟨last, ((subqueries (by decide) (by decide)).append
      ((Counts.none outermost.arrays 0).append arrays)).from_zero⟩

namespace QueryRequest

variable {request : QueryRequest}

/-- The columns of a query are nested, whether they select or aggregate. -/
theorem columns_nested {query : Query} {compiled : Table Projection}
    (accepted : columns schema scope query = .ok compiled) (here : scope.aliasName ∈ inScope)
    (encloses : Selection.Encloses [scope.aliasName] inScope) :
    ∀ entry ∈ compiled, entry.2.Nested inScope := by
  rcases columns_cases accepted with ⟨fields, selected⟩ | ⟨aggregates, applied⟩ | rfl
  · exact Selection.columnsOfFields_nested fields _ _ _ compiled (Selection.columns_ok.mp selected)
      inScope here encloses
  · intro entry member
    obtain ⟨_, aggregate, call, known, same⟩ := Aggregate.column_of_mem applied entry member
    rw [same]
    exact Projection.aggregate_nested (Aggregate.column_scoped here known)
  · exact List.forall_mem_nil _

/-- The condition of a statement opens its searches from the first number on. -/
theorem condition_opens {select : Select}
    (compiled : request.query.predicate.mapM (Expression.condition schema scope) =
      .ok select.predicate)
    (used : select.usesVariables → variablesAlias ∈ inScope) {draft : Draft}
    (ready : Expression.Ready scope scope inScope 0 draft.elements) :
    (∀ condition, (select.condition? draft).1 = some condition → condition.Scoped inScope) ∧
      ∃ next last,
        Counts elementStem 0 next (((select.condition? draft).1.map Condition.binders).getD []) ∧
          Counts arrayStem draft.elements last
            (((select.condition? draft).1.map Condition.binders).getD []) := by
  have compiles := condition_related compiled
  unfold Select.condition?
  unfold Select.usesVariables at used
  generalize request.query.predicate = requested at compiles
  generalize select.predicate = predicate at compiles used ⊢
  cases compiles with
  | none =>
      refine ⟨?_, 0, draft.elements, ?_, ?_⟩
      · rintro _ ⟨⟩
      · exact .none (List.forall_mem_nil _) 0
      · exact .none (List.forall_mem_nil _) draft.elements
  | some resolved =>
      obtain ⟨count, resolved⟩ := resolved
      have opens := Expression.predicate_opens _ scope 1 0 _ resolved inScope draft used ready
      refine ⟨?_, count, _, opens.elements, opens.arrays⟩
      rintro _ ⟨⟩
      exact opens.closed

/-- Every part of a compiled statement is closed around the root alias. -/
theorem statement_closed {select : Select} (stated : request.statement schema = .ok select)
    (here : rootAlias request.collection ∈ inScope) (outermost : Outermost inScope)
    (used : select.usesVariables → variablesAlias ∈ inScope) :
    select.Closed (rootAlias request.collection) inScope := by
  obtain ⟨scope, compiled, predicate, keys, rooted, columns, condition, ordered, rfl⟩ :=
    statement_ok.mp stated
  have located : scope.aliasName = rootAlias request.collection := by
    obtain ⟨_, _, _, _, _, _, rfl⟩ := rootScope_ok.mp rooted
    rfl
  rw [← located] at here ⊢
  refine ⟨⟨request.collection, rfl⟩, ?_, ?_, ?_⟩
  · refine columns_nested columns here ?_
    intro aliasName member stemmed
    exact absurd stemmed (outermost.subqueries aliasName member)
  · rintro keys ⟨⟩ key member
    obtain ⟨_, _, type, resolved⟩ := ordering_resolved ordered key member
    rw [Scope.objectPath_alias resolved]
    exact here
  · intro draft none
    have unused {stem : String} (apart : ∀ aliasName ∈ inScope, ¬ Stemmed stem aliasName)
        (last : Nat) : Unused stem last inScope :=
      fun _ _ member => apart _ member (Stemmed.self stem _)
    have ready : Expression.Ready scope scope inScope 0 draft.elements :=
      ⟨here, here, unused outermost.elements 0, unused outermost.arrays _⟩
    have opens := condition_opens condition used ready
    rw [none] at opens
    exact opens

/-- The root and the variables are apart from each other and from the generated aliases. -/
theorem outermost_root (collection : String) :
    Outermost [rootAlias collection] ∧ Outermost [rootAlias collection, variablesAlias] := by
  have root : Stemmed "root_" (rootAlias collection) := Stemmed.self "root_" collection
  have elements : ¬ Stemmed elementStem (rootAlias collection) :=
    root.apart (by decide) (by decide)
  have arrays : ¬ Stemmed arrayStem (rootAlias collection) := root.apart (by decide) (by decide)
  have subqueries : ¬ Stemmed Selection.subqueryPrefix (rootAlias collection) :=
    root.apart (by decide) (by decide)
  constructor
  · constructor
    all_goals simp [elements, arrays, subqueries]
  · constructor
    · simpa [elements] using (by decide : ¬ Stemmed elementStem variablesAlias)
    · simpa [arrays] using (by decide : ¬ Stemmed arrayStem variablesAlias)
    · simpa [subqueries] using (by decide : ¬ Stemmed Selection.subqueryPrefix variablesAlias)
    · simpa using rootAlias_ne_variablesAlias collection

/-- The statement that is written is well scoped, with the variables joined or without them. -/
theorem assembled_wellScoped {select : Select} (stated : request.statement schema = .ok select) :
    select.assembled.tree.WellScoped := by
  obtain ⟨alone, joined⟩ := outermost_root request.collection
  have joins : select.joins = [] := by
    obtain ⟨_, _, _, _, _, _, _, _, rfl⟩ := statement_ok.mp stated
    rfl
  unfold Select.assembled
  split
  next used =>
    have inScope : rootAlias request.collection ::
        select.withVariablesJoin.joins.map Join.aliasName =
          [rootAlias request.collection, variablesAlias] := by
      rw [Select.withVariablesJoin, joins]
      rfl
    have closed := statement_closed stated List.mem_cons_self joined
      fun _ => List.mem_cons_of_mem _ (List.mem_singleton_self _)
    rw [← inScope] at closed joined
    exact Select.Closed.wellScoped
      ⟨closed.origin, closed.columns, closed.sortKeys, closed.condition⟩ joined
  next unused =>
    have inScope : rootAlias request.collection :: select.joins.map Join.aliasName =
        [rootAlias request.collection] := by
      rw [joins]
      rfl
    have closed := statement_closed stated (List.mem_singleton_self _) alone
      fun used => absurd used unused
    rw [← inScope] at closed alone
    exact closed.wellScoped alone

/-- Every compiled query is well scoped, and its text is the spelling of the scoped tree. -/
theorem compile_wellScoped (schema : Schema) (request : QueryRequest) (prepared : PreparedQuery)
    (compiled : request.compile schema = .ok prepared) :
    ∃ select, request.statement schema = .ok select ∧
      prepared.text.query = spell select.assembled.tree.pieces ∧
        select.assembled.tree.WellScoped := by
  obtain ⟨select, text, stated, written, rfl⟩ := compile_ok.mp compiled
  refine ⟨select, stated, ?_, assembled_wellScoped stated⟩
  rw [Select.textWith_query written, select.assembled.text_shows.1]

/-- The sample selects an array of arrays, joins the variables and searches in nested arrays. -/
theorem compile_wellScoped_sample :
    ∃ prepared select, Sample.searching.compile Sample.schema = .ok prepared ∧
      Sample.searching.statement Sample.schema = .ok select ∧
        select.assembled.tree.WellScoped ∧
          select.assembled.tree.binders =
            ["_subquery_parent_customer", "_subquery_parent_grid_2", "_subquery_parent_grid",
              "root_orders", "vars", "nested_element_1", "array_element_1", "array_element_2",
              "array_element_3", "array_element_4"] := by
  obtain ⟨prepared, compiled⟩ :
      ∃ prepared, Sample.searching.compile Sample.schema = .ok prepared := ⟨_, rfl⟩
  obtain ⟨select, stated, _, wellScoped⟩ :=
    compile_wellScoped Sample.schema Sample.searching prepared compiled
  have same : select = Sample.searchingStatement := (Except.ok.inj stated).symm
  subst same
  exact ⟨prepared, _, compiled, stated, wellScoped, by decide +kernel⟩

end QueryRequest

end DocumentQuery
