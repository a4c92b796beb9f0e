/-
This file evaluates the compiled columns of a selection on documents. They project the rows that the
request asks for, but a nested object without a source is left out.
-/

import DocumentQuery.Proofs.Compilation.Selection
import DocumentQuery.Proofs.Meaning.Answer
import DocumentQuery.Proofs.Sample
import Mathlib.Data.List.Basic

namespace DocumentQuery

namespace Select

variable {documents : List Json} {bindings : Bindings}

/-- Without value form, a binding makes one object, whatever the aliases are. -/
theorem rowOf_objects {select : Select} (plain : select.asValue = false) :
    select.rowOf documents bindings =
      some (.object (Projection.members documents bindings select.columns)) := by
  obtain ⟨columns, origin, asValue, asArray, isAggregate, joins, predicate, sortKeys, offset,
    limit⟩ := select
  cases plain
  cases columns with
  | nil => rfl
  | cons column rest =>
      simp only [rowOf, form, List.isEmpty_cons, Bool.false_eq_true, if_false]
      cases (column :: rest).all fun column => Identifier.isPlain column.1 <;> rfl

/-- A statement without value form builds one object for each binding of its origin. -/
theorem rows_objects {select : Select} (plain : select.asValue = false) :
    select.rows documents bindings =
      (Origin.bind documents bindings select.origin).map fun bindings =>
        .object (Projection.members documents bindings select.columns) := by
  have rows : select.rows documents bindings =
      (Origin.bind documents bindings select.origin).filterMap (select.rowOf documents) := by
    cases select
    rfl
  rw [rows, ← List.filterMap_eq_map']
  exact List.filterMap_congr fun bindings _ => rowOf_objects plain

/-- In value form, the rows are the values of the only column. -/
theorem rows_values (aliasName : String) (column : Projection) (origin : Option Origin)
    (asArray : Bool) :
    ({ columns := [(aliasName, column)], origin, asValue := true, asArray } : Select).rows
        documents bindings =
      (Origin.bind documents bindings origin).filterMap fun bindings =>
        column.value documents bindings := rfl

end Select

namespace Selection

mutual

/-- A supplied field is delivered with the value that the request asks for. -/
theorem fieldDelivered_of_supplied :
    ∀ (field : Field) {found : Found}, FieldSupplied found field →
      fieldDelivered found field = some (fieldValue found field)
  | .column _ none, _, _ => rfl
  | .column _ (some nested), _, supplied => delivered_of_supplied nested supplied
  | .relationship .., _, _ => rfl

/-- A document that supplies a selection has everything delivered that the selection asks for. -/
theorem delivered_of_supplied :
    ∀ (selection : Selection) {found : Found}, Supplied found selection →
      delivered found selection = some (value found selection)
  | .object fields, found, supplied => by
      rw [Supplied] at supplied
      obtain ⟨present, supplied⟩ := supplied
      obtain ⟨content, rfl⟩ := Option.isSome_iff_exists.mp present
      rw [delivered, value, rowDelivered_of_supplied fields supplied, Option.map_some]
  | .array elements, found, supplied => by
      rw [Supplied] at supplied
      have each : ∀ item ∈ Found.elements found,
          delivered (some item) elements = some (value (some item) elements) :=
        fun item member => delivered_of_supplied elements (supplied item member)
      rw [delivered, value, List.filterMap_congr each, List.filterMap_eq_map']

/-- A supplied row is delivered as the request asks for it. -/
theorem rowDelivered_of_supplied :
    ∀ (fields : List (String × Field)) {found : Found}, RowSupplied found fields →
      rowDelivered found fields = row found fields
  | [], _, _ => rfl
  | (aliasName, field) :: rest, found, supplied => by
      rw [rowDelivered, fieldDelivered_of_supplied field supplied.1,
        rowDelivered_of_supplied rest supplied.2, row]

end

variable {schema : Schema} {documents : List Json}

mutual

/-- The induction is on the field. The alias of the scope stays bound to the value that the fields
are selected from. -/
theorem value_columnOfField :
    ∀ (field : Field) {scope : Scope} {depth : Nat} {bound : List String} {aliasName : String}
      {projection : Projection} {bindings : Bindings} {value : Json},
      columnOfField schema scope depth bound aliasName field = .ok projection →
        bindings.entry? scope.aliasName = some value →
          Projection.coalesced (projection.value documents bindings) projection =
            fieldDelivered (some value) field
  | .column column none, _, _, _, _, _, _, _, compiled, selected => by
      obtain ⟨_, rfl⟩ := columnOfField_plain_ok.mp compiled
      simp only [Projection.coalesced, Projection.value, Path.find, selected, fieldDelivered,
        Found.along_cons, Found.along_nil]
  | .column column (some nested), scope, _, _, _, _, bindings, value, compiled, selected => by
      obtain ⟨property, _, inner⟩ := columnOfField_nested_ok.mp compiled
      have source : Path.find ⟨scope.aliasName, [column]⟩ bindings =
          Found.property column (some value) := by
        simp only [Path.find, selected, Found.along_cons, Found.along_nil]
      rw [fieldDelivered, ← source]
      exact value_subquery nested inner
  | .relationship .., _, _, _, _, _, _, _, compiled, _ =>
      absurd compiled columnOfField_relationship

/-- The columns of the fields make the members that the value delivers, in order. -/
theorem members_columnsOfFields :
    ∀ (fields : List (String × Field)) {scope : Scope} {depth : Nat} {bound : List String}
      {columns : List (String × Projection)} {bindings : Bindings} {value : Json},
      columnsOfFields schema scope depth bound fields = .ok columns →
        bindings.entry? scope.aliasName = some value →
          Projection.members documents bindings columns = rowDelivered (some value) fields
  | [], _, _, _, _, _, _, compiled, _ => by
      cases columnsOfFields_nil_ok.mp compiled
      rfl
  | (aliasName, first) :: rest, _, _, _, _, _, _, compiled, selected => by
      obtain ⟨projection, others, one, more, rfl⟩ := columnsOfFields_cons_ok.mp compiled
      have head := value_columnOfField first one selected
      have tail := members_columnsOfFields rest more selected
      simp only [Projection.members, head, tail, rowDelivered]

/-- An object subquery has one row when its source is present and none otherwise. -/
theorem value_subquery :
    ∀ (selection : Selection) {source : Path} {type : ValueType} {field : String} {depth : Nat}
      {enclosing : List String} {projection : Projection} {bindings : Bindings},
      subquery schema source type field depth enclosing selection = .ok projection →
        Projection.coalesced (projection.value documents bindings) projection =
          delivered (source.find bindings) selection
  | .object fields, source, _, _, _, _, _, bindings, compiled => by
      obtain ⟨name, object, columns, _, _, _, inner, rfl⟩ := subquery_object_ok.mp compiled
      rw [Projection.coalesced, Projection.value, Select.rows_objects rfl, Origin.bind, delivered]
      cases source.find bindings with
      | none => rfl
      | some content =>
          have members := members_columnsOfFields fields inner
            (Table.entry_first bindings _ content)
          simp only [Option.toList_some, List.map_cons, List.map_nil, Select.embed, members,
            Option.map_some]
  | .array elements, _, _, _, _, _, _, bindings, compiled => by
      obtain ⟨element, select, _, inner, rfl⟩ := subquery_array_ok.mp compiled
      obtain ⟨collected, rows⟩ : select.asArray = true ∧ select.rows documents bindings = _ :=
        rows_selectElements elements inner
      simp only [Projection.value, Projection.coalesced, Select.embed, collected, rows, delivered]

/-- An array subquery has one row for each element in order. -/
theorem rows_selectElements :
    ∀ (selection : Selection) {source : Path} {aliasName : String} {element : ValueType}
      {depth : Nat} {enclosing : List String} {select : Select} {bindings : Bindings},
      selectElements schema source aliasName element depth enclosing selection = .ok select →
        select.asArray = true ∧
          select.rows documents bindings =
            (Found.elements (source.find bindings)).filterMap fun item =>
              delivered (some item) selection
  | .object fields, source, aliasName, _, _, _, _, bindings, compiled => by
      obtain ⟨_, name, object, columns, _, _, inner, rfl⟩ := selectElements_object_ok.mp compiled
      refine ⟨rfl, ?_⟩
      simp only [Select.rows_objects, Origin.bind, List.map_map, delivered, Option.map_some,
        List.filterMap_eq_map']
      refine List.map_congr_left fun item _ => ?_
      have members := members_columnsOfFields fields inner
        (Table.entry_first bindings aliasName item)
      rw [Function.comp_apply, members]
  | .array elements, source, aliasName, _, _, _, _, bindings, compiled => by
      obtain ⟨_, inner, embedded, _, continued, rfl⟩ := selectElements_array_ok.mp compiled
      refine ⟨rfl, ?_⟩
      rw [Select.rows_values, Origin.bind, List.filterMap_map]
      refine List.filterMap_congr fun item _ => ?_
      have bound : (Path.ofAlias aliasName).find ((aliasName, item) :: bindings) = some item :=
        Table.entry_first bindings aliasName item
      obtain ⟨collected, rows⟩ : embedded.asArray = true ∧
          embedded.rows documents ((aliasName, item) :: bindings) = _ :=
        rows_selectElements elements continued
      rw [bound] at rows
      simp only [Function.comp_apply, Projection.value, Select.embed, collected, rows, delivered]

end

/-- The compiled columns project exactly one row from each document, and the row has the requested
aliases in order with the values that the request asks for. -/
theorem columns_project_requested_rows (schema : Schema) (scope : Scope) (fields : Table Field)
    (columns : Table Projection)
    (compiled : Selection.columns schema scope fields = .ok columns) (collection : String)
    (documents : List Json)
    (supplied : ∀ document ∈ documents, RowSupplied (some document) fields) :
    ({ columns, origin := some (.container collection scope.aliasName) } : Select).rows documents
        [] =
      documents.map fun document => .object (row (some document) fields) := by
  have inner := columns_ok.mp compiled
  simp only [Select.rows_objects, Origin.bind, List.map_map]
  refine List.map_congr_left fun document member => ?_
  have members : Projection.members documents [(scope.aliasName, document)] columns =
      row (some document) fields := by
    rw [members_columnsOfFields fields inner (Table.entry_first [] scope.aliasName document),
      rowDelivered_of_supplied fields (supplied document member)]
  simp only [Function.comp_apply, members]

/-- The sample selection names a key that is no plain alias and selects from arrays in an array. -/
theorem columns_project_sample_row :
    columns Sample.schema Sample.scope Sample.fields = .ok Sample.columns ∧
      RowSupplied (some Sample.document) Sample.fields ∧
        ({ columns := Sample.columns, origin := some (.container "orders" "root_orders") } :
            Select).rows [Sample.document] [] =
          [.object [("id", .string "o1"), ("sold to", .object [("name", .string "Ann")]),
            ("grid", .array [.array [.object [("value", .integer 1)]], .array []])]] := by
  have supplied : RowSupplied (some Sample.document) Sample.fields := by
    simp [RowSupplied, FieldSupplied, Supplied, Sample.fields, Sample.document, Found.property,
      Json.member?, Table.entry?, List.lookup_cons, Found.elements]
  refine ⟨rfl, supplied, ?_⟩
  exact columns_project_requested_rows Sample.schema Sample.scope Sample.fields Sample.columns rfl
    "orders" [Sample.document] (by simpa using supplied)

end Selection

end DocumentQuery
