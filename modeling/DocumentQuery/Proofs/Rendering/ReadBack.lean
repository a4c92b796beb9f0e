/-
This file proves that the text of a compiled request is read back as its statement.
-/

import DocumentQuery.Proofs.Compilation.Statement
import DocumentQuery.Proofs.Dialect.QueryReading
import DocumentQuery.Proofs.Rendering.CompiledSelection
import DocumentQuery.Proofs.Rendering.QueryTokens
import DocumentQuery.Proofs.Sample

namespace DocumentQuery

open Dialect

variable {schema : Schema} {scope : Scope}

/-- Every registered function has a plain name in the dialect. -/
theorem Operators.aggregate_plain {scalarType name : String} {function : AggregateFunction}
    (found : aggregate scalarType name = .ok function) :
    Identifier.isPlain function.dialectName := by
  obtain ⟨_, operators, known, member⟩ := aggregate_registered found
  have all : ∀ function ∈ operators.aggregates, Identifier.isPlain function.dialectName := by
    rcases ofScalar_cases known with rfl | rfl | rfl <;> decide +kernel
  exact all function member

namespace Aggregate

/-- A compiled aggregate can be read. -/
theorem column_readable (names : schema.HasSafeNames) (here : scope.HasSafeNames)
    {aggregate : Aggregate} {compiled : AggregateColumn}
    (accepted : aggregate.column schema scope = .ok compiled) : compiled.call.Readable := by
  cases aggregate with
  | starCount =>
      cases accepted
      trivial
  | columnCount name fieldPath distinct =>
      obtain ⟨path, type, resolved, rfl⟩ := column_count_ok.mp accepted
      have located := (here.objectPath names resolved).1
      cases distinct with
      | true => exact located
      | false => exact ⟨countWord.2.1, located⟩
  | singleColumn name fieldPath function =>
      obtain ⟨path, type, scalarType, definition, resolved, _, registered, rfl⟩ :=
        column_single_ok.mp accepted
      exact ⟨Operators.aggregate_plain registered, (here.objectPath names resolved).1⟩

/-- Compiled aggregates can be read under their plain aliases. -/
theorem columns_readable (names : schema.HasSafeNames) (here : scope.HasSafeNames)
    {aggregates : Table Aggregate} {compiled : Table Projection}
    (accepted : columns schema scope aggregates = .ok compiled) :
    ∀ entry ∈ compiled, Identifier.isPlain entry.1 ∧ entry.2.Readable := by
  intro entry member
  obtain ⟨requested, _, stepped⟩ := Attempt.mem_of_mapM accepted entry member
  obtain ⟨plain, column, known, rfl⟩ := entry_ok.mp stepped
  have readable := column_readable names here known
  exact ⟨plain, fun _ _ => readable⟩

end Aggregate

/-- An ordering that is written has a key, and its keys can be read. -/
theorem OrderElement.sortKeys_readable (names : schema.HasSafeNames) (here : scope.HasSafeNames)
    {elements : List OrderElement} {keys : List SortKey}
    (accepted : sortKeys schema scope elements = .ok (some keys)) :
    keys ≠ [] ∧ ∀ key ∈ keys, PathReadable key.column := by
  cases elements with
  | nil => cases accepted
  | cons first rest =>
      simp only [sortKeys, Attempt.bind_eq_ok_iff, Attempt.pure_eq_ok_iff, Option.some.injEq]
        at accepted
      obtain ⟨_, ordered, rfl⟩ := accepted
      constructor
      · intro none
        subst none
        simp [List.mapM_cons] at ordered
      · intro key member
        obtain ⟨element, _, stepped⟩ := Attempt.mem_of_mapM ordered key member
        obtain ⟨_, _, path, type, _, resolved, rfl⟩ := sortKey_ok.mp stepped
        exact (here.objectPath names resolved).1

namespace QueryRequest

variable {request : QueryRequest}

/-- The root scope has safe names, and its collection has a plain one. -/
theorem rootScope_safeNames (names : schema.HasSafeNames)
    (rooted : request.rootScope schema = .ok scope) :
    scope.HasSafeNames ∧ Identifier.isPlain request.collection := by
  obtain ⟨_, _, collection, object, listed, known, rfl⟩ := rootScope_ok.mp rooted
  have plain := names.collections _ collection listed
  have safe := (Bool.and_eq_true_iff.mp plain).1
  exact ⟨⟨Identifier.rootAlias_isAlias safe, names.objects _ object known⟩, plain⟩

/-- The columns of a query can be read, and its aggregates stand under plain aliases. -/
theorem columns_readable (names : schema.HasSafeNames) (here : scope.HasSafeNames)
    {query : Query} {compiled : Table Projection}
    (accepted : columns schema scope query = .ok compiled) :
    (∀ entry ∈ compiled, entry.2.Readable) ∧
      ((∀ entry ∈ compiled, entry.2.isAggregate = false) ∨
        ∀ entry ∈ compiled, Identifier.isPlain entry.1) := by
  unfold columns at accepted
  split at accepted
  next => cases accepted
  next fields _ _ =>
    have fit := Selection.columnsOfFields_readable names fields _ _ _ compiled here
      (Selection.columns_ok.mp accepted)
    exact ⟨fun entry member => (fit entry member).readable,
      .inl fun entry member => (fit entry member).noAggregate⟩
  next aggregates _ _ =>
    have named := Aggregate.columns_readable names here accepted
    exact ⟨fun entry member => (named entry member).2,
      .inr fun entry member => (named entry member).1⟩
  next =>
    cases accepted
    simp

/-- The statement of a request over a schema with safe names can be read. -/
theorem statement_readable (names : schema.HasSafeNames) {select : Select}
    (stated : request.statement schema = .ok select) :
    select.ColumnsReadable ∧ select.ClausesReadable := by
  obtain ⟨scope, compiled, predicate, keys, rooted, columns, condition, ordered, rfl⟩ :=
    statement_ok.mp stated
  obtain ⟨here, collection⟩ := rootScope_safeNames names rooted
  obtain ⟨readable, aggregates⟩ := columns_readable names here columns
  constructor
  · exact ⟨readable, aggregates.imp_right fun plain => ⟨rfl, plain⟩, by simp⟩
  · constructor
    · intro origin same
      cases same
      exact ⟨collection, here.aliasName.plain⟩
    · intro join member
      cases member
    · intro inside same numbering
      cases expression : request.query.predicate with
      | none =>
          rw [expression] at condition
          cases condition
          cases same
      | some expression =>
          rw [expression, Option.mapM_some, Attempt.mapped_eq_ok_iff] at condition
          obtain ⟨accepted, compiles, rfl⟩ := condition
          cases same
          exact Expression.condition_readable names here compiles numbering
    · intro listed same
      cases same
      unfold ordering at ordered
      split at ordered
      next => cases ordered
      next elements _ => exact OrderElement.sortKeys_readable names here ordered

end QueryRequest

namespace Select

/-- The variables are joined exactly when the condition refers to one. -/
def assembled (select : Select) : Select :=
  if select.usesVariables then select.withVariablesJoin else select

/-- A statement is joined with the variables or with nothing. -/
theorem assembled_joins (select : Select) :
    ∃ joins : List Join, select.assembled = { select with joins := select.joins ++ joins } ∧
      ∀ join ∈ joins, join.aliasName = variablesAlias := by
  unfold assembled
  split
  next => exact ⟨[⟨variablesAlias, variablesParameter⟩], rfl, by simp⟩
  next =>
    refine ⟨[], ?_, by simp⟩
    cases select
    rw [List.append_nil]

/-- The text that is written is that of the statement with its joins. -/
theorem textWith_query {select : Select} {variableSets : Option (List (Table Json))}
    {text : SqlText} (written : select.textWith variableSets = .ok text) :
    text.query = select.assembled.text.query := by
  unfold assembled
  rcases textWith_ok.mp written with ⟨unused, rfl⟩ | ⟨used, _, _, _, rfl⟩
  · rw [unused]
    rfl
  · rw [used]
    rfl

/-- A statement can be read also when the variables are joined to it. -/
theorem assembled_readable {select : Select} (columns : select.ColumnsReadable)
    (clauses : select.ClausesReadable) (numbering : Draft) :
    (select.assembled.query numbering).1.Readable := by
  unfold assembled
  split
  · apply query_readable
    · exact ⟨columns.readable, columns.aggregates, columns.alone⟩
    · refine ⟨clauses.origin, ?_, clauses.predicate, clauses.sortKeys⟩
      intro join member
      rcases List.mem_append.mp member with inside | last
      · exact clauses.joins join inside
      · rw [List.mem_singleton.mp last]
        decide +kernel
  · exact query_readable columns clauses numbering

/-- The text of a readable statement is read as its tree and has nothing behind it. -/
theorem text_reads {select : Select} (readable : (select.query {}).1.Readable) :
    Dialect.read? select.text.query = some (select.query {}).1.unwrapped := by
  have written := (select.query_tokens {} {} [] readable Draft.empty_awaits).tokens?
  unfold Dialect.read?
  rw [text, Draft.finish, written]
  simp [query?_reads readable]

end Select

namespace QueryRequest

/-- The whole text of a compiled request is read back as the tree of its statement, in which a
connective of one condition is that condition. -/
theorem compile_text_reads_back (schema : Schema) (request : QueryRequest)
    (prepared : PreparedQuery) (valid : schema.validate = .ok ())
    (compiled : request.compile schema = .ok prepared) :
    ∃ select, request.statement schema = .ok select ∧
      Dialect.read? prepared.text.query = some (select.assembled.query {}).1.unwrapped := by
  obtain ⟨select, text, stated, written, rfl⟩ := compile_ok.mp compiled
  obtain ⟨columns, clauses⟩ := statement_readable (Schema.safeNames_of_validate valid) stated
  refine ⟨select, stated, ?_⟩
  rw [Select.textWith_query written]
  exact Select.text_reads (Select.assembled_readable columns clauses {})

/-- The sample text has an object literal, a keyword in brackets and a condition in a condition. -/
theorem compile_text_reads_sample :
    Sample.schema.validate = .ok () ∧
      Sample.request.compile Sample.schema = .ok ⟨"orders", ⟨Sample.queryText, []⟩, false⟩ ∧
        Sample.request.statement Sample.schema = .ok Sample.statement ∧
          Dialect.read? Sample.queryText = some (Sample.statement.assembled.query {}).1.unwrapped := by
  have valid : Sample.schema.validate = .ok () := by decide +kernel
  have compiled : Sample.request.compile Sample.schema =
      .ok ⟨"orders", ⟨Sample.queryText, []⟩, false⟩ := by decide +kernel
  obtain ⟨select, stated, read⟩ := compile_text_reads_back Sample.schema Sample.request
    ⟨"orders", ⟨Sample.queryText, []⟩, false⟩ valid compiled
  have same : select = Sample.statement := (Except.ok.inj stated).symm
  subst same
  exact ⟨valid, compiled, stated, read⟩

end QueryRequest

end DocumentQuery
