/-
This file proves that a schema can be extended without a change to any query that compiles.
-/

import DocumentQuery.Proofs.Compilation.Statement
import DocumentQuery.Proofs.Extension.Condition
import DocumentQuery.Proofs.Sample
import Mathlib.Control.Monad.Basic

namespace DocumentQuery

namespace Schema.Extends

variable {schema larger : Schema} {scope wide : Scope}

open Selection

mutual

/-- The induction is on the field. Aliases depend on names and depths only, so they are chosen
alike. -/
theorem columnOfField (extension : larger.Extends schema) :
    ∀ (field : Field) {scope wide : Scope} {depth : Nat} {bound : List String} {aliasName : String}
      {projection : Projection}, wide.Extends scope →
        Selection.columnOfField schema scope depth bound aliasName field = .ok projection →
          Selection.columnOfField larger wide depth bound aliasName field = .ok projection
  | .relationship .., _, _, _, _, _, _, _, compiled => absurd compiled columnOfField_relationship
  | .column column none, _, _, _, _, _, _, here, compiled => by
      obtain ⟨⟨property, known⟩, rfl⟩ := columnOfField_plain_ok.mp compiled
      obtain ⟨kept, found, _⟩ := here.object column property known
      rw [← here.aliasName]
      exact columnOfField_plain_ok.mpr ⟨⟨kept, found⟩, rfl⟩
  | .column column (some nested), _, _, _, _, _, _, here, compiled => by
      obtain ⟨property, known, inner⟩ := columnOfField_nested_ok.mp compiled
      obtain ⟨kept, found, same⟩ := here.object column property known
      rw [← here.aliasName, ← same] at inner
      exact columnOfField_nested_ok.mpr ⟨kept, found, subquery extension nested inner⟩

/-- The columns of a row stay the same. -/
theorem columnsOfFields (extension : larger.Extends schema) :
    ∀ (fields : List (String × Field)) {scope wide : Scope} {depth : Nat} {bound : List String}
      {columns : List (String × Projection)}, wide.Extends scope →
        Selection.columnsOfFields schema scope depth bound fields = .ok columns →
          Selection.columnsOfFields larger wide depth bound fields = .ok columns
  | [], _, _, _, _, _, _, compiled =>
      columnsOfFields_nil_ok.mpr (columnsOfFields_nil_ok.mp compiled)
  | (aliasName, first) :: rest, _, _, _, _, _, here, compiled => by
      obtain ⟨projection, others, one, more, rfl⟩ := columnsOfFields_cons_ok.mp compiled
      exact columnsOfFields_cons_ok.mpr ⟨projection, others,
        columnOfField extension first here one, columnsOfFields extension rest here more, rfl⟩

/-- A subquery stays the same. -/
theorem subquery (extension : larger.Extends schema) :
    ∀ (selection : Selection) {source : Path} {type : ValueType} {field : String} {depth : Nat}
      {enclosing : List String} {projection : Projection},
        Selection.subquery schema source type field depth enclosing selection = .ok projection →
          Selection.subquery larger source type field depth enclosing selection = .ok projection
  | .object fields, _, _, _, _, _, _, compiled => by
      obtain ⟨name, object, columns, required, known, shallow, inner, rfl⟩ :=
        subquery_object_ok.mp compiled
      obtain ⟨grown, declared, wider⟩ := extension.objects name object known
      exact subquery_object_ok.mpr ⟨name, grown, columns, required, declared, shallow,
        columnsOfFields extension fields (Scope.extends_of_object wider _ _) inner, rfl⟩
  | .array elements, _, _, _, _, _, _, compiled => by
      obtain ⟨element, select, required, inner, rfl⟩ := subquery_array_ok.mp compiled
      exact subquery_array_ok.mpr
        ⟨element, select, required, selectElements extension elements inner, rfl⟩

/-- The elements of an array are selected in the same way. -/
theorem selectElements (extension : larger.Extends schema) :
    ∀ (selection : Selection) {source : Path} {aliasName : String} {element : ValueType}
      {depth : Nat} {enclosing : List String} {select : Select},
        Selection.selectElements schema source aliasName element depth enclosing selection =
            .ok select →
          Selection.selectElements larger source aliasName element depth enclosing selection =
            .ok select
  | .object fields, _, _, _, _, _, _, compiled => by
      obtain ⟨shallow, name, object, columns, required, known, inner, rfl⟩ :=
        selectElements_object_ok.mp compiled
      obtain ⟨grown, declared, wider⟩ := extension.objects name object known
      exact selectElements_object_ok.mpr ⟨shallow, name, grown, columns, required, declared,
        columnsOfFields extension fields (Scope.extends_of_object wider _ _) inner, rfl⟩
  | .array elements, _, _, _, _, _, _, compiled => by
      obtain ⟨shallow, inner, embedded, required, continued, rfl⟩ :=
        selectElements_array_ok.mp compiled
      exact selectElements_array_ok.mpr
        ⟨shallow, inner, embedded, required, selectElements extension elements continued, rfl⟩

end

/-- An aggregate keeps its column. -/
theorem aggregateColumn (extension : larger.Extends schema) (here : wide.Extends scope)
    {aggregate : Aggregate} {column : AggregateColumn}
    (compiled : aggregate.column schema scope = .ok column) :
    aggregate.column larger wide = .ok column := by
  cases aggregate with
  | starCount => exact compiled
  | columnCount name fieldPath distinct =>
      obtain ⟨path, type, resolved, same⟩ := Aggregate.column_count_ok.mp compiled
      exact Aggregate.column_count_ok.mpr ⟨path, type, extension.objectPath here resolved, same⟩
  | singleColumn name fieldPath function =>
      obtain ⟨path, type, scalarType, definition, resolved, required, registered, same⟩ :=
        Aggregate.column_single_ok.mp compiled
      exact Aggregate.column_single_ok.mpr ⟨path, type, scalarType, definition,
        extension.objectPath here resolved, required, registered, same⟩

theorem aggregateColumns (extension : larger.Extends schema) (here : wide.Extends scope)
    {aggregates : Table Aggregate} {columns : Table Projection}
    (compiled : Aggregate.columns schema scope aggregates = .ok columns) :
    Aggregate.columns larger wide aggregates = .ok columns := by
  refine Attempt.mapM_kept (fun entry result stepped => ?_) compiled
  obtain ⟨plain, column, known, same⟩ := Aggregate.entry_ok.mp stepped
  exact Aggregate.entry_ok.mpr ⟨plain, column, extension.aggregateColumn here known, same⟩

/-- Fields and aggregates become the same columns. -/
theorem columns (extension : larger.Extends schema) (here : wide.Extends scope) {query : Query}
    {columns : Table Projection}
    (compiled : QueryRequest.columns schema scope query = .ok columns) :
    QueryRequest.columns larger wide query = .ok columns := by
  unfold QueryRequest.columns at compiled ⊢
  split at compiled
  next => cases compiled
  next fields _ _ =>
    have inner := Selection.columns_ok.mp compiled
    rw [← here.aliasName] at inner
    exact Selection.columns_ok.mpr (columnsOfFields extension fields here inner)
  next => exact extension.aggregateColumns here compiled
  next => exact compiled

theorem sortKey (extension : larger.Extends schema) (here : wide.Extends scope)
    {element : OrderElement} {key : SortKey} (compiled : element.sortKey schema scope = .ok key) :
    element.sortKey larger wide = .ok key := by
  obtain ⟨name, fieldPath, path, type, target, resolved, same⟩ := OrderElement.sortKey_ok.mp compiled
  exact OrderElement.sortKey_ok.mpr
    ⟨name, fieldPath, path, type, target, extension.objectPath here resolved, same⟩

/-- The ordering of a query stays the same. -/
theorem ordering (extension : larger.Extends schema) (here : wide.Extends scope) {query : Query}
    {keys : Option (List SortKey)}
    (compiled : QueryRequest.ordering schema scope query = .ok keys) :
    QueryRequest.ordering larger wide query = .ok keys := by
  unfold QueryRequest.ordering at compiled ⊢
  split at compiled
  next => exact compiled
  next elements _ =>
    cases elements with
    | nil => exact compiled
    | cons first rest =>
        simp only [OrderElement.sortKeys, Attempt.bind_eq_ok_iff, Attempt.pure_eq_ok_iff]
          at compiled ⊢
        obtain ⟨ordered, stepped, same⟩ := compiled
        exact ⟨ordered, Attempt.mapM_kept (fun _ _ => extension.sortKey here) stepped, same⟩

/-- The root is bound to the same alias, and its documents have a larger object type. -/
theorem rootScope (extension : larger.Extends schema) {request : QueryRequest}
    (rooted : request.rootScope schema = .ok scope) :
    ∃ wide, request.rootScope larger = .ok wide ∧ wide.Extends scope := by
  obtain ⟨noArguments, noRelationships, collection, object, listed, known, rfl⟩ :=
    QueryRequest.rootScope_ok.mp rooted
  obtain ⟨kept, found, same⟩ := extension.collections _ collection listed
  obtain ⟨grown, declared, wider⟩ := extension.objects _ object known
  rw [← same] at declared ⊢
  exact ⟨_, QueryRequest.rootScope_ok.mpr
    ⟨noArguments, noRelationships, kept, grown, found, declared, rfl⟩, ⟨rfl, wider⟩⟩

/-- A request that is stated keeps its statement. -/
theorem statement (extension : larger.Extends schema) {request : QueryRequest} {select : Select}
    (stated : request.statement schema = .ok select) : request.statement larger = .ok select := by
  obtain ⟨scope, compiled, predicate, keys, rooted, listed, filtered, ordered, rfl⟩ :=
    QueryRequest.statement_ok.mp stated
  obtain ⟨wide, rerooted, here⟩ := extension.rootScope rooted
  refine QueryRequest.statement_ok.mpr ⟨wide, compiled, predicate, keys, rerooted,
    extension.columns here listed, ?_, extension.ordering here ordered, ?_⟩
  · exact Attempt.optionMapM_kept (fun _ _ => extension.condition here) filtered
  · rw [here.aliasName]

end Schema.Extends

/-- A request that compiles over a schema compiles over every extension of it, to the same text and
parameters for the same collection. -/
theorem QueryRequest.compile_over_extension (schema larger : Schema)
    (extension : larger.Extends schema) (request : QueryRequest) (prepared : PreparedQuery)
    (compiled : request.compile schema = .ok prepared) : request.compile larger = .ok prepared := by
  obtain ⟨select, text, stated, written, rfl⟩ := compile_ok.mp compiled
  exact compile_ok.mpr ⟨select, text, extension.statement stated, written, rfl⟩

namespace Sample

/-- The larger schema has a new collection, a new object type, a new scalar type and new properties,
and its object types stand in another order. -/
def grown : Schema where
  collections :=
    [("buyers", ⟨none, [], .object "Customer"⟩),
      ("orders", ⟨some "All orders", [⟨"region", none, text⟩], .orNull (.object "Order")⟩)]
  objectTypes :=
    [("Store", ⟨none, [("place", property (.scalar "Point"))]⟩),
      ("Line", { line with properties := ("store", property (.object "Store")) :: line.properties }),
      ("Customer",
        ⟨some "A buyer", ("store", property (.object "Store")) :: customer.properties⟩),
      ("Order", { order with properties := ("store", property (.object "Store")) ::
        order.properties.reverse })]
  scalarTypes := [("Point", ⟨⟩)]

/-- The larger sample keeps all that the smaller one looks up. -/
theorem grown_extends : grown.Extends schema where
  collections name collection listed := by
    have member := Table.mem_of_entry listed
    simp only [schema, List.mem_singleton, Prod.mk.injEq] at member
    obtain ⟨rfl, rfl⟩ := member
    exact ⟨_, rfl, rfl⟩
  objects name object known := by
    have member := Table.mem_of_entry known
    simp only [schema, List.mem_cons, List.not_mem_nil, or_false, Prod.mk.injEq] at member
    rcases member with ⟨rfl, rfl⟩ | ⟨rfl, rfl⟩ | ⟨rfl, rfl⟩
    · exact ⟨_, rfl, ObjectType.extends_of_entries (by decide)⟩
    · exact ⟨_, rfl, ObjectType.extends_of_entries (by decide)⟩
    · exact ⟨_, rfl, ObjectType.extends_of_entries (by decide)⟩

end Sample

/-- The sample request selects inside an object and searches an array, and both types have grown. -/
theorem QueryRequest.compile_over_grown_sample :
    Sample.grown.Extends Sample.schema ∧
      Sample.request.compile Sample.schema = .ok ⟨"orders", ⟨Sample.queryText, []⟩, false⟩ ∧
        Sample.request.compile Sample.grown = .ok ⟨"orders", ⟨Sample.queryText, []⟩, false⟩ := by
  have compiled : Sample.request.compile Sample.schema =
      .ok ⟨"orders", ⟨Sample.queryText, []⟩, false⟩ := by
    decide +kernel
  refine ⟨Sample.grown_extends, compiled, ?_⟩
  exact compile_over_extension Sample.schema Sample.grown Sample.grown_extends Sample.request _
    compiled

end DocumentQuery
