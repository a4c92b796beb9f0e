/-
This file says which rows have every requested alias. The rows of a query lack an alias exactly
where an object is selected from an absent value.
-/

import DocumentQuery.Proofs.Compilation.Statement
import DocumentQuery.Proofs.Meaning.ProjectionPreservation
import DocumentQuery.Proofs.Naming
import DocumentQuery.Proofs.Rendering.ReadBack
import Mathlib.Control.Monad.Basic

namespace DocumentQuery

namespace Selection

mutual

def FieldCarried (value : Json) : Field → Prop
  | .column _ (some nested) => Carried value nested
  | .column _ none | .relationship .. => True

/-- A value carries a selection when every object in it has each alias that is requested of it. -/
def Carried (value : Json) : Selection → Prop
  | .object fields => ∃ members, value = .object members ∧ RowCarried members fields
  | .array elements => ∃ items, value = .array items ∧ ∀ item ∈ items, Carried item elements

def RowCarried (members : Table Json) : List (String × Field) → Prop
  | [] => True
  | (aliasName, field) :: rest =>
      (∃ value, (aliasName, value) ∈ members ∧ FieldCarried value field) ∧
        RowCarried members rest

end

mutual

def FieldDistinct : Field → Prop
  | .column _ (some nested) => Distinct nested
  | .column _ none | .relationship .. => True

/-- No object of the selection requests an alias twice. -/
def Distinct : Selection → Prop
  | .object fields => Table.Distinct fields ∧ FieldsDistinct fields
  | .array elements => Distinct elements

def FieldsDistinct : List (String × Field) → Prop
  | [] => True
  | (_, field) :: rest => FieldDistinct field ∧ FieldsDistinct rest

end

mutual

/-- The value that a field asks for carries the field's selection. -/
theorem fieldValue_carried :
    ∀ (field : Field) (found : Found), FieldCarried (fieldValue found field) field
  | .column _ none, _ | .relationship .., _ => trivial
  | .column column (some nested), found => value_carried nested (Found.property column found)

/-- What a request asks for has every alias, even where the document has no value. -/
theorem value_carried :
    ∀ (selection : Selection) (found : Found), Carried (value found selection) selection
  | .object fields, found => by
      rw [value, Carried]
      exact ⟨_, rfl, row_carried fields (List.Subset.refl _)⟩
  | .array elements, found => by
      rw [value, Carried]
      refine ⟨_, rfl, fun item member => ?_⟩
      obtain ⟨source, _, rfl⟩ := List.mem_map.mp member
      exact value_carried elements (some source)

/-- A requested row carries its fields in whatever members it is part of. -/
theorem row_carried :
    ∀ (fields : List (String × Field)) {found : Found} {members : Table Json},
      row found fields ⊆ members → RowCarried members fields
  | [], _, _, _ => trivial
  | (_, field) :: rest, found, _, inside => by
      obtain ⟨here, others⟩ := List.cons_subset.mp inside
      exact ⟨⟨_, here, fieldValue_carried field found⟩, row_carried rest others⟩

end

section Delivered

variable {found : Found} {fields : List (String × Field)}

/-- A supplied row carries every alias. -/
theorem rowCarried_of_supplied (supplied : RowSupplied found fields) :
    RowCarried (rowDelivered found fields) fields := by
  rw [rowDelivered_of_supplied fields supplied]
  exact row_carried fields (List.Subset.refl _)

/-- A carried field has its alias among the members. -/
theorem entry_of_rowCarried {members : Table Json} (carried : RowCarried members fields) :
    ∀ entry ∈ fields, ∃ value, (entry.1, value) ∈ members ∧ FieldCarried value entry.2 := by
  induction fields with
  | nil => exact fun entry member => absurd member List.not_mem_nil
  | cons first rest continued =>
      exact List.forall_mem_cons.mpr ⟨carried.1, continued carried.2⟩

/-- Every member of a delivered row comes from a field of its alias. -/
theorem field_of_mem_rowDelivered {aliasName : String} {value : Json}
    (member : (aliasName, value) ∈ rowDelivered found fields) :
    ∃ field, (aliasName, field) ∈ fields ∧ fieldDelivered found field = some value := by
  induction fields with
  | nil => cases member
  | cons first rest continued =>
      rw [rowDelivered] at member
      split at member
      next =>
        obtain ⟨field, inside, same⟩ := continued member
        exact ⟨field, List.mem_cons_of_mem _ inside, same⟩
      next content here =>
        rcases List.mem_cons.mp member with same | later
        · cases same
          exact ⟨first.2, List.mem_cons_self, here⟩
        · obtain ⟨field, inside, same⟩ := continued later
          exact ⟨field, List.mem_cons_of_mem _ inside, same⟩

/-- Among distinct aliases, the value under an alias is the one that its own field delivers. -/
theorem fieldDelivered_of_rowCarried (distinct : Table.Distinct fields)
    (carried : RowCarried (rowDelivered found fields) fields) :
    ∀ entry ∈ fields, ∃ value, fieldDelivered found entry.2 = some value ∧
      FieldCarried value entry.2 := by
  intro entry member
  obtain ⟨value, present, whole⟩ := entry_of_rowCarried carried entry member
  obtain ⟨field, requested, here⟩ := field_of_mem_rowDelivered present
  -- Another field with the same alias could have delivered the value.
  have same := (Table.entry_of_mem distinct requested).symm.trans
    (Table.entry_of_mem distinct member)
  cases Option.some.inj same
  exact ⟨value, here, whole⟩

theorem delivered_element (item : Json) (selection : Selection) :
    ∃ value, delivered (some item) selection = some value := by
  cases selection <;> exact ⟨_, rfl⟩

end Delivered

mutual

/-- A field whose delivered value carries it is supplied. -/
theorem fieldSupplied_of_carried :
    ∀ (field : Field) {found : Found} {value : Json}, FieldDistinct field →
      fieldDelivered found field = some value → FieldCarried value field →
        FieldSupplied found field
  | .column _ none, _, _, _, _, _ | .relationship .., _, _, _, _, _ => trivial
  | .column _ (some nested), _, _, distinct, here, carried =>
      supplied_of_carried nested distinct here carried

/-- The induction is on the selection. Whatever carries all aliases was supplied at every level. -/
theorem supplied_of_carried :
    ∀ (selection : Selection) {found : Found} {value : Json}, Distinct selection →
      delivered found selection = some value → Carried value selection → Supplied found selection
  | .object fields, found, _, distinct, here, carried => by
      rw [Distinct] at distinct
      obtain ⟨content, rfl, rfl⟩ := Option.map_eq_some_iff.mp here
      rw [Carried] at carried
      obtain ⟨members, same, carried⟩ := carried
      cases same
      rw [Supplied]
      exact ⟨rfl, rowSupplied_of_carried fields distinct.2
        (fieldDelivered_of_rowCarried distinct.1 carried)⟩
  | .array elements, found, _, distinct, here, carried => by
      rw [Distinct] at distinct
      cases Option.some.inj here
      rw [Carried] at carried
      obtain ⟨items, same, carried⟩ := carried
      cases same
      rw [Supplied]
      intro item member
      obtain ⟨value, present⟩ := delivered_element item elements
      exact supplied_of_carried elements distinct present
        (carried value (List.mem_filterMap.mpr ⟨item, member, present⟩))

/-- A row is supplied when each of its fields is delivered and carried. -/
theorem rowSupplied_of_carried :
    ∀ (fields : List (String × Field)) {found : Found}, FieldsDistinct fields →
      (∀ entry ∈ fields, ∃ value, fieldDelivered found entry.2 = some value ∧
        FieldCarried value entry.2) → RowSupplied found fields
  | [], _, _, _ => trivial
  | (_, field) :: rest, _, distinct, carried => by
      obtain ⟨⟨value, here, whole⟩, others⟩ := List.forall_mem_cons.mp carried
      exact ⟨fieldSupplied_of_carried field distinct.1 here whole,
        rowSupplied_of_carried rest distinct.2 others⟩

end

/-- A delivered row that carries every alias was supplied. -/
theorem rowSupplied_of_rowCarried {found : Found} {fields : List (String × Field)}
    (distinct : Distinct (.object fields))
    (carried : RowCarried (rowDelivered found fields) fields) : RowSupplied found fields := by
  rw [Distinct] at distinct
  exact rowSupplied_of_carried fields distinct.2 (fieldDelivered_of_rowCarried distinct.1 carried)

/-- Only aggregates are calls, and a field never compiles to one. -/
theorem columnOfField_call {schema : Schema} {scope : Scope} {depth : Nat} {bound : List String}
    {aliasName : String} {field : Field} {projection : Projection}
    (compiled : columnOfField schema scope depth bound aliasName field = .ok projection) :
    projection.call? = none := by
  cases field with
  | relationship query relationship arguments => exact absurd compiled columnOfField_relationship
  | column column nested =>
      cases nested with
      | none =>
          obtain ⟨_, rfl⟩ := columnOfField_plain_ok.mp compiled
          rfl
      | some selection =>
          obtain ⟨_, _, inner⟩ := columnOfField_nested_ok.mp compiled
          cases selection with
          | object fields =>
              obtain ⟨_, _, _, _, _, _, _, rfl⟩ := subquery_object_ok.mp inner
              rfl
          | array elements =>
              obtain ⟨_, _, _, _, rfl⟩ := subquery_array_ok.mp inner
              rfl

/-- No column of a selection is an aggregate. -/
theorem columnsOfFields_call {schema : Schema} {scope : Scope} {depth : Nat} {bound : List String}
    {fields : List (String × Field)} {columns : List (String × Projection)}
    (compiled : columnsOfFields schema scope depth bound fields = .ok columns) :
    ∀ column ∈ columns, column.2.call? = none := by
  induction fields generalizing columns with
  | nil =>
      cases columnsOfFields_nil_ok.mp compiled
      exact fun column member => absurd member List.not_mem_nil
  | cons first rest continued =>
      obtain ⟨projection, others, one, more, rfl⟩ := columnsOfFields_cons_ok.mp compiled
      exact List.forall_mem_cons.mpr ⟨columnOfField_call one, continued more⟩

end Selection

namespace Select

variable {engine : Engine} {bound : String → Found} {documents : List Json} {select : Select}

/-- The joins keep what the origin binds to any other alias. -/
theorem matching_kept {bindings : Bindings} {aliasName : String}
    (member : bindings ∈ select.matching engine bound documents)
    (apart : ∀ join ∈ select.joins, join.aliasName ≠ aliasName) :
    ∃ outer ∈ Origin.bind documents [] select.origin,
      bindings.entry? aliasName = outer.entry? aliasName := by
  have joined := (List.mem_filter.mp member).1
  clear member
  generalize Origin.bind documents [] select.origin = found at joined ⊢
  generalize select.joins = joins at apart joined
  -- The induction is on the joins. Each of them extends the bindings that the joins before it made.
  induction joins generalizing found with
  | nil => exact ⟨bindings, joined, rfl⟩
  | cons join rest continued =>
      obtain ⟨here, others⟩ := List.forall_mem_cons.mp apart
      obtain ⟨extended, inside, same⟩ := continued _ others joined
      obtain ⟨outer, present, bound⟩ := List.mem_flatMap.mp inside
      obtain ⟨item, _, rfl⟩ := List.mem_map.mp bound
      exact ⟨outer, present, same.trans (Table.entry_later outer item (Ne.symm here))⟩

/-- Without aggregates, each row is made of a match. -/
theorem match_of_answer {row : Json} (member : row ∈ select.answer engine bound documents)
    (plain : ∀ column ∈ select.columns, column.2.call? = none) :
    ∃ bindings ∈ select.matching engine bound documents,
      select.rowOf documents bindings = some row := by
  have made := (paged_sublist _).subset member
  have none : ¬(select.columns.any fun column => column.2.call?.isSome) := by
    intro some
    obtain ⟨column, inside, call⟩ := List.any_eq_true.mp some
    rw [plain column inside] at call
    cases call
  rw [produced, if_neg none] at made
  obtain ⟨bindings, found, same⟩ := List.mem_filterMap.mp made
  exact ⟨bindings, (engine.arranged _ _).subset found, same⟩

end Select

namespace QueryRequest

variable {schema : Schema} {request : QueryRequest} {select : Select} {fields : Table Field}

/-- The compiled query reads the documents under the alias of the collection, and its columns are
the requested fields. Only the variables can be joined. -/
theorem statement_fields (stated : request.statement schema = .ok select)
    (asked : request.query.fields = some fields) :
    (∃ scope : Scope, scope.aliasName = rootAlias request.collection ∧
      Selection.columnsOfFields schema scope 1 [scope.aliasName] fields =
        .ok select.assembled.columns) ∧
      select.assembled.origin =
          some (.container request.collection (rootAlias request.collection)) ∧
        select.assembled.asValue = false ∧
          ∀ join ∈ select.assembled.joins, join.aliasName ≠ rootAlias request.collection := by
  obtain ⟨joins, same, named⟩ := select.assembled_joins
  obtain ⟨scope, compiled, _, _, rooted, listed, _, _, rfl⟩ := statement_ok.mp stated
  have located : scope.aliasName = rootAlias request.collection := by
    obtain ⟨_, _, _, _, _, _, rfl⟩ := rootScope_ok.mp rooted
    rfl
  have selected : Selection.columns schema scope fields = .ok compiled := by
    unfold columns at listed
    rw [asked] at listed
    cases aggregates : request.query.aggregates with
    | some aggregates' =>
        rw [aggregates] at listed
        cases listed
    | none =>
        rw [aggregates] at listed
        exact listed
  rw [same]
  refine ⟨⟨scope, located, Selection.columns_ok.mp selected⟩, by rw [located], rfl, ?_⟩
  intro join member
  rw [named join member]
  exact (rootAlias_ne_variablesAlias request.collection).symm

/-- A binding of a document makes the row that the document delivers. -/
theorem members_delivered (stated : request.statement schema = .ok select)
    (asked : request.query.fields = some fields) (documents : List Json) {bindings : Bindings}
    {document : Json} (bound : bindings.entry? (rootAlias request.collection) = some document) :
    Projection.members documents bindings select.assembled.columns =
      Selection.rowDelivered (some document) fields := by
  obtain ⟨⟨scope, located, compiled⟩, _⟩ := statement_fields stated asked
  rw [← located] at bound
  exact Selection.members_columnsOfFields fields compiled bound

/-- The statement projects each document of the collection to the row that it delivers. -/
theorem statement_rows (stated : request.statement schema = .ok select)
    (asked : request.query.fields = some fields) (documents : List Json) :
    select.assembled.rows documents [] = documents.map fun document =>
      .object (Selection.rowDelivered (some document) fields) := by
  obtain ⟨_, origin, plain, _⟩ := statement_fields stated asked
  rw [Select.rows_objects plain, origin, Origin.bind, List.map_map]
  refine List.map_congr_left fun document _ => ?_
  rw [Function.comp_apply, members_delivered stated asked documents (Table.entry_first ..)]

/-- The rows of an answer are delivered by documents of the collection. -/
theorem answer_rows (stated : request.statement schema = .ok select)
    (asked : request.query.fields = some fields) {engine : Engine} {bound : String → Found}
    {documents : List Json} {row : Json}
    (member : row ∈ select.assembled.answer engine bound documents) :
    ∃ document ∈ documents, row = .object (Selection.rowDelivered (some document) fields) := by
  obtain ⟨⟨_, _, compiled⟩, origin, plain, apart⟩ := statement_fields stated asked
  obtain ⟨bindings, found, made⟩ :=
    Select.match_of_answer member (Selection.columnsOfFields_call compiled)
  obtain ⟨outer, present, kept⟩ := Select.matching_kept found apart
  rw [origin, Origin.bind] at present
  obtain ⟨document, inside, rfl⟩ := List.mem_map.mp present
  rw [Table.entry_first] at kept
  rw [Select.rowOf_objects plain, members_delivered stated asked documents kept] at made
  exact ⟨document, inside, (Option.some.inj made).symm⟩

/-- Each document makes the row that it delivers. The row has every requested alias exactly when the
document supplies each value that the fields of an object are selected from. -/
theorem rows_carry_supplied_aliases (schema : Schema) (request : QueryRequest)
    (prepared : PreparedQuery) (fields : Table Field)
    (compiled : request.compile schema = .ok prepared)
    (asked : request.query.fields = some fields) :
    ∃ select, request.statement schema = .ok select ∧
      prepared.text.query = select.assembled.text.query ∧
        (∀ documents : List Json, select.assembled.rows documents [] =
          documents.map fun document =>
            .object (Selection.rowDelivered (some document) fields)) ∧
        (∀ (engine : Engine) (documents : List Json),
          ∀ row ∈ select.assembled.answer engine prepared.text.value? documents,
            ∃ document ∈ documents,
              row = .object (Selection.rowDelivered (some document) fields)) ∧
        ∀ document : Json,
          (Selection.RowSupplied (some document) fields →
            Selection.RowCarried (Selection.rowDelivered (some document) fields) fields) ∧
          ((Selection.object fields).Distinct →
            Selection.RowCarried (Selection.rowDelivered (some document) fields) fields →
              Selection.RowSupplied (some document) fields) := by
  obtain ⟨select, text, stated, written, rfl⟩ := compile_ok.mp compiled
  refine ⟨select, stated, Select.textWith_query written, statement_rows stated asked, ?_, ?_⟩
  · exact fun engine documents row member => answer_rows stated asked member
  · exact fun document =>
      ⟨Selection.rowCarried_of_supplied, Selection.rowSupplied_of_rowCarried⟩

end QueryRequest

/-- The customer of this order has no name. -/
def Sample.unnamed : Json :=
  .object [("id", .string "o2"), ("customer", .object [])]

/-- This order has no customer. -/
def Sample.unsold : Json :=
  .object [("id", .string "o3"), ("lines", .array [.object [("value", .integer 1)]])]

namespace QueryRequest

/-- A name that is absent from a customer is null in the row. -/
theorem rows_carry_sample_aliases :
    Sample.request.compile Sample.schema = .ok ⟨"orders", ⟨Sample.queryText, []⟩, false⟩ ∧
      Sample.request.query.fields = some Sample.buyers ∧
        ∃ select, Sample.request.statement Sample.schema = .ok select ∧
          select.assembled.rows [Sample.unnamed] [] =
            [.object [("sold to", .object [("name", .null)])]] ∧
          Selection.RowCarried [("sold to", .object [("name", .null)])] Sample.buyers := by
  have compiled : Sample.request.compile Sample.schema =
      .ok ⟨"orders", ⟨Sample.queryText, []⟩, false⟩ := by
    decide +kernel
  have supplied : Selection.RowSupplied (some Sample.unnamed) Sample.buyers := by
    simp [Selection.RowSupplied, Selection.FieldSupplied, Selection.Supplied, Sample.buyers,
      Sample.unnamed, Found.property, Json.member?, Table.entry?, List.lookup_cons]
  obtain ⟨select, stated, _, rows, _, carried⟩ :=
    rows_carry_supplied_aliases Sample.schema Sample.request _ Sample.buyers compiled rfl
  exact ⟨compiled, rfl, select, stated, rows [Sample.unnamed], (carried Sample.unnamed).1 supplied⟩

/-- Without a customer, the row has no alias at all. -/
theorem row_lacks_unsupplied_alias :
    Sample.request.compile Sample.schema = .ok ⟨"orders", ⟨Sample.queryText, []⟩, false⟩ ∧
      Sample.request.statement Sample.schema = .ok Sample.statement ∧
        Sample.statement.assembled.answer (.counting fun _ _ _ => true)
            (SqlText.value? ⟨Sample.queryText, []⟩) [Sample.unsold] =
          [.object []] ∧
        ¬∀ (engine : Engine) (documents : List Json),
          ∀ row ∈ Sample.statement.assembled.answer engine
              (SqlText.value? ⟨Sample.queryText, []⟩) documents,
            ∃ members, row = .object members ∧ Selection.RowCarried members Sample.buyers := by
  have answered : Sample.statement.assembled.answer (.counting fun _ _ _ => true)
      (SqlText.value? ⟨Sample.queryText, []⟩) [Sample.unsold] = [.object []] := by
    decide +kernel
  refine ⟨by decide +kernel, rfl, answered, ?_⟩
  intro claimed
  obtain ⟨members, same, carried⟩ := claimed (.counting fun _ _ _ => true) [Sample.unsold]
    (.object []) (by rw [answered]; exact List.mem_singleton_self _)
  cases same
  obtain ⟨⟨_, absent, _⟩, _⟩ := carried
  cases absent

end QueryRequest

end DocumentQuery
