/-
This file says how many rows an aggregate query is answered with. Its only row of aggregates can
lie outside the page.
-/

import DocumentQuery.Proofs.Compilation.Statement
import DocumentQuery.Proofs.Meaning.Answer
import DocumentQuery.Proofs.Rendering.ReadBack
import DocumentQuery.Proofs.Sample

namespace DocumentQuery

variable {schema : Schema} {scope : Scope}

/-- The columns have the requested aliases in the requested order. -/
theorem Aggregate.columns_names {aggregates : Table Aggregate} {compiled : Table Projection}
    (accepted : columns schema scope aggregates = .ok compiled) :
    compiled.names = aggregates.names := by
  refine Attempt.map_of_mapM accepted ?_
  intro entry result stepped
  obtain ⟨_, _, _, rfl⟩ := entry_ok.mp stepped
  rfl

namespace Select

variable {engine : Engine} {bound : String → Found} {documents : List Json} {select : Select}

/-- Columns that are all aggregates make one row under their aliases. -/
theorem produced_aggregates (some : select.columns ≠ [])
    (called : ∀ column ∈ select.columns, ∃ call, column.2 = .aggregate call) :
    ∃ row : Table Json, row.names = Table.names select.columns ∧
      select.produced engine bound documents = [.object row] := by
  have aggregated : select.columns.any fun column => column.2.call?.isSome := by
    obtain ⟨first, rest, columns⟩ := List.exists_cons_of_ne_nil some
    obtain ⟨call, same⟩ := called first (by simp [columns])
    exact List.any_eq_true.mpr ⟨first, by simp [columns], by rw [same]; rfl⟩
  unfold produced
  rw [if_pos aggregated]
  refine ⟨_, ?_, rfl⟩
  generalize select.columns = columns at called
  clear aggregated some
  induction columns with
  | nil => rfl
  | cons column rest continued =>
      obtain ⟨here, others⟩ := List.forall_mem_cons.mp called
      obtain ⟨call, same⟩ := here
      have named := continued others
      unfold Table.names at named ⊢
      simp only [List.filterMap_cons, same, Projection.call?, Option.map_some, List.map_cons]
      exact congrArg (List.cons _) named

/-- Without columns, each match makes an empty row. -/
theorem produced_nothing (none : select.columns = []) :
    select.produced engine bound documents =
      List.replicate (select.matching engine bound documents).length (.object []) := by
  have empty : select.rowOf documents = some ∘ Function.const Bindings (Json.object []) := by
    funext bindings
    unfold rowOf form
    rw [none]
    rfl
  have arranged := engine.arranged select.sortKeys (select.matching engine bound documents)
  unfold produced
  rw [none, List.any_nil, if_neg Bool.false_ne_true, empty, List.filterMap_eq_map, List.map_const,
    arranged.length_eq]

/-- The join of the variables changes neither the columns nor the page. -/
theorem assembled_columns (select : Select) :
    select.assembled.columns = select.columns ∧ select.assembled.offset = select.offset ∧
      select.assembled.limit = select.limit := by
  obtain ⟨joins, same, _⟩ := select.assembled_joins
  rw [same]
  exact ⟨rfl, rfl, rfl⟩

end Select

namespace QueryRequest

variable {request : QueryRequest} {select : Select} {aggregates : Table Aggregate}

/-- The columns of an aggregate statement are its aggregates, and its page is the requested one. -/
theorem statement_aggregates (stated : request.statement schema = .ok select)
    (asked : request.query.aggregates = some aggregates) :
    Table.names select.columns = aggregates.names ∧
      (∀ column ∈ select.columns, ∃ call, column.2 = .aggregate call) ∧
        select.offset = request.query.offset ∧ select.limit = request.query.limit := by
  obtain ⟨scope, compiled, _, _, _, listed, _, _, rfl⟩ := statement_ok.mp stated
  unfold columns at listed
  rw [asked] at listed
  cases fields : request.query.fields with
  | some fields' =>
      rw [fields] at listed
      cases listed
  | none =>
      rw [fields] at listed
      refine ⟨Aggregate.columns_names listed, fun column member => ?_, rfl, rfl⟩
      obtain ⟨_, _, call, _, same⟩ := Aggregate.column_of_mem listed column member
      exact ⟨call, same⟩

/-- The row of aggregates has the requested aliases and is repeated as often as the page allows. -/
theorem statement_answer (stated : request.statement schema = .ok select)
    (asked : request.query.aggregates = some aggregates) (engine : Engine)
    (bound : String → Found) (documents : List Json) :
    ∃ row : Table Json, row.names = aggregates.names ∧
      select.assembled.answer engine bound documents =
        List.replicate
          (pageLength request.query.offset request.query.limit <|
            if aggregates.isEmpty then
              (select.assembled.matching engine bound documents).length
            else 1)
          (.object row) := by
  obtain ⟨names, called, start, size⟩ := statement_aggregates stated asked
  obtain ⟨columns, offset, limit⟩ := select.assembled_columns
  rw [← columns] at names called
  unfold Select.answer
  rw [offset, limit, start, size]
  cases aggregates with
  | nil =>
      have none : select.assembled.columns = [] := List.map_eq_nil_iff.mp names
      refine ⟨[], rfl, ?_⟩
      rw [Select.produced_nothing none, paged_replicate]
      rfl
  | cons first rest =>
      have some : select.assembled.columns ≠ [] := by
        intro none
        rw [none] at names
        cases names
      obtain ⟨row, named, made⟩ := Select.produced_aggregates some called
      rw [made]
      exact ⟨row, named.trans names, paged_replicate 1 (Json.object row)⟩

/-- The row of aggregates has the requested aliases, and the page may leave it out. Without any
aggregate there is such a row for each match. -/
theorem aggregate_answer (schema : Schema) (request : QueryRequest) (prepared : PreparedQuery)
    (compiled : request.compile schema = .ok prepared) (aggregated : prepared.isAggregate) :
    ∃ select aggregates, request.statement schema = .ok select ∧
      prepared.text.query = select.assembled.text.query ∧
        request.query.aggregates = some aggregates ∧
          ∀ (engine : Engine) (documents : List Json), ∃ row : Table Json,
            row.names = aggregates.names ∧
              select.assembled.answer engine prepared.text.value? documents =
                List.replicate
                  (pageLength request.query.offset request.query.limit <|
                    if aggregates.isEmpty then
                      (select.assembled.matching engine prepared.text.value? documents).length
                    else 1)
                  (.object row) ∧
              (aggregates ≠ [] → request.query.offset.getD 0 = 0 →
                request.query.limit ≠ some 0 →
                  select.assembled.answer engine prepared.text.value? documents =
                    [.object row]) := by
  obtain ⟨select, text, stated, written, rfl⟩ := compile_ok.mp compiled
  obtain ⟨aggregates, asked⟩ : ∃ aggregates, request.query.aggregates = some aggregates := by
    obtain ⟨_, _, _, _, _, _, _, _, rfl⟩ := statement_ok.mp stated
    exact Option.isSome_iff_exists.mp aggregated
  refine ⟨select, aggregates, stated, Select.textWith_query written, asked, ?_⟩
  intro engine documents
  obtain ⟨row, named, answered⟩ := statement_answer stated asked engine text.value? documents
  refine ⟨row, named, answered, ?_⟩
  intro nonempty start room
  rw [if_neg (by simpa using nonempty), pageLength_one start room] at answered
  exact answered

end QueryRequest

/-- The orders are counted, and the page is the whole answer or starts behind its only row. -/
def Sample.counting (offset : Option UInt32) : QueryRequest where
  collection := "orders"
  query :=
    { aggregates := some [("n", .starCount)]
      fields := none
      limit := none
      offset
      orderBy := none
      predicate := none }
  arguments := []
  relationships := []
  variableSets := none

def Sample.counted : SqlText where
  query := "SELECT COUNT(1) AS n FROM orders root_orders"
  parameters := []

def Sample.countedBehind : SqlText where
  query := "SELECT COUNT(1) AS n FROM orders root_orders OFFSET 1 LIMIT 2147483647"
  parameters := []

namespace QueryRequest

/-- The only row is on the page when nothing is skipped. -/
theorem aggregate_answer_sample :
    (Sample.counting none).compile Sample.schema = .ok ⟨"orders", Sample.counted, true⟩ ∧
      ∃ select, (Sample.counting none).statement Sample.schema = .ok select ∧
        ∀ (engine : Engine) (documents : List Json), ∃ row : Table Json, row.names = ["n"] ∧
          select.assembled.answer engine Sample.counted.value? documents = [.object row] := by
  have compiled : (Sample.counting none).compile Sample.schema =
      .ok ⟨"orders", Sample.counted, true⟩ := by
    decide +kernel
  obtain ⟨select, aggregates, stated, _, asked, answered⟩ :=
    aggregate_answer Sample.schema (Sample.counting none) _ compiled rfl
  cases asked
  refine ⟨compiled, select, stated, ?_⟩
  intro engine documents
  obtain ⟨row, named, _, alone⟩ := answered engine documents
  exact ⟨row, named, alone (by simp) rfl (by simp [Sample.counting])⟩

/-- An offset of one leaves out the row that counts the orders, whatever the documents are. -/
theorem aggregate_answer_behind_offset :
    (Sample.counting (some 1)).compile Sample.schema =
        .ok ⟨"orders", Sample.countedBehind, true⟩ ∧
      ∃ select, (Sample.counting (some 1)).statement Sample.schema = .ok select ∧
        (∀ (engine : Engine) (documents : List Json),
          select.assembled.answer engine Sample.countedBehind.value? documents = []) ∧
        ¬∀ (engine : Engine) (documents : List Json), ∃ row : Table Json, row.names = ["n"] ∧
          select.assembled.answer engine Sample.countedBehind.value? documents =
            [.object row] := by
  have compiled : (Sample.counting (some 1)).compile Sample.schema =
      .ok ⟨"orders", Sample.countedBehind, true⟩ := by
    decide +kernel
  obtain ⟨select, _, stated, _, _⟩ := compile_ok.mp compiled
  have empty (engine : Engine) (documents : List Json) :
      select.assembled.answer engine Sample.countedBehind.value? documents = [] := by
    obtain ⟨row, _, answered⟩ :=
      statement_answer stated rfl engine Sample.countedBehind.value? documents
    exact answered
  refine ⟨compiled, select, stated, empty, ?_⟩
  intro single
  obtain ⟨row, _, alone⟩ := single (.counting fun _ _ _ => true) []
  rw [empty] at alone
  cases alone

end QueryRequest

end DocumentQuery
