/-
This file proves that requests survive being written and read: every request is read back from its
written form, and whatever is read can be written and read again.
-/

import DocumentQuery.Proofs.RoundTrip.Expression

namespace DocumentQuery

open Source

/-- An aggregate is read back in each of its variants. -/
theorem Aggregate.read?_restores (tagged : Bool) (room : Nat) (aggregate : Aggregate) :
    Restores (read? tagged) room aggregate.toJson aggregate := by
  cases aggregate with
  | starCount =>
      refine restores_tagged variants tagged [] (by decide) rfl fun room _ fits opened => ?_
      exact reads_next opened rfl
  | columnCount column fieldPath distinct =>
      refine restores_tagged variants tagged ["column", "field_path", "distinct"] (by decide) rfl
        fun room _ fits opened => ?_
      have named := Fields.required?_written "column" fits rfl (string?_restores room column)
      have inside := fieldPath_written fits rfl
      have counted := Fields.required?_written "distinct" fits rfl (bool?_restores room distinct)
      exact reads_next opened (reads_next named (reads_next inside (reads_next counted rfl)))
  | singleColumn column fieldPath function =>
      refine restores_tagged variants tagged ["column", "field_path", "function"] (by decide) rfl
        fun room _ fits opened => ?_
      have named := Fields.required?_written "column" fits rfl (string?_restores room column)
      have inside := fieldPath_written fits rfl
      have applied := Fields.required?_written "function" fits rfl (string?_restores room function)
      exact reads_next opened (reads_next named (reads_next inside (reads_next applied rfl)))

namespace OrderTarget

/-- These are the relationships that an ordering crosses. -/
def crossings : OrderTarget → List PathElement
  | .column _ _ path => path
  | .singleColumnAggregate _ _ path => path
  | .starCountAggregate path => path

/-- Each relationship on the way has distinct names. -/
def Keyed (target : OrderTarget) : Prop :=
  ∀ element ∈ target.crossings, element.Keyed

/-- The target of an ordering is read back with the relationships that it crosses. -/
theorem read?_restores (tagged : Bool) (room : Nat) {target : OrderTarget} (keyed : target.Keyed) :
    Restores (read? tagged) room target.toJson target := by
  have crossed (room : Nat) : Restores (PathElement.readList? true) room
      (.ofList PathElement.toJson target.crossings) target.crossings :=
    PathElement.readList?_restores fun smaller _ element member =>
      PathElement.read?_restores true smaller (keyed element member)
  cases target with
  | column name fieldPath path =>
      refine restores_tagged variants tagged ["name", "field_path", "path"] (by decide) rfl
        fun room _ fits opened => ?_
      have reached := Fields.withDefault?_written "path" [] fits rfl (crossed room)
      have named := Fields.required?_written "name" fits rfl (string?_restores room name)
      have inside := fieldPath_written fits rfl
      exact reads_next opened (reads_next reached (reads_next named (reads_next inside rfl)))
  | singleColumnAggregate column function path =>
      refine restores_tagged variants tagged ["column", "function", "path"] (by decide) rfl
        fun room _ fits opened => ?_
      have reached := Fields.withDefault?_written "path" [] fits rfl (crossed room)
      have named := Fields.required?_written "column" fits rfl (string?_restores room column)
      have applied := Fields.required?_written "function" fits rfl (string?_restores room function)
      exact reads_next opened (reads_next reached (reads_next named (reads_next applied rfl)))
  | starCountAggregate path =>
      refine restores_tagged variants tagged ["path"] (by decide) rfl fun room _ fits opened => ?_
      have reached := Fields.withDefault?_written "path" [] fits rfl (crossed room)
      exact reads_next opened (reads_next reached rfl)

/-- Whatever is read as the target of an ordering has distinct names. -/
theorem read?_keyed (tagged : Bool) (room : Nat) : Yields (read? tagged room) Keyed := by
  intro source target found
  cases room with
  | zero => cases found
  | succ room =>
      simp only [read?, Option.bind_eq_bind, Option.bind_eq_some_iff] at found
      obtain ⟨⟨tag, fields⟩, _, path, crossed, found⟩ := found
      rw [PathElement.readList?_eq] at crossed
      have each := Fields.withDefault?_yields
        (listOf?_yields fun smaller _ => PathElement.read?_keyed true smaller)
        (List.forall_mem_nil _) crossed
      split at found
      next =>
        obtain ⟨_, _, found⟩ := Option.bind_eq_some_iff.mp found
        obtain ⟨_, _, found⟩ := Option.bind_eq_some_iff.mp found
        cases found
        exact each
      next =>
        obtain ⟨_, _, found⟩ := Option.bind_eq_some_iff.mp found
        obtain ⟨_, _, found⟩ := Option.bind_eq_some_iff.mp found
        cases found
        exact each
      next =>
        cases found
        exact each
      next => cases found

end OrderTarget

namespace OrderElement

theorem direction_restores (tagged : Bool) (room : Nat) (direction : OrderDirection) :
    Restores (choice? OrderDirection.choices tagged) room (.string direction.text) direction :=
  choice?_restores tagged room (by cases direction <;> rfl)

/-- An element of an ordering is read back with its direction. -/
theorem read?_restores (tagged : Bool) (room : Nat) {element : OrderElement}
    (keyed : element.target.Keyed) : Restores (read? tagged) room element.toJson element := by
  refine restores_record ["order_direction", "target"] ["order_direction", "target"] (by decide) rfl
    fun room _ fits opened => ?_
  have directed := Fields.required?_written "order_direction" fits rfl
    (direction_restores tagged room element.direction)
  have aimed := Fields.required?_written "target" fits rfl
    (OrderTarget.read?_restores tagged room keyed)
  exact reads_next opened (reads_next directed (reads_next aimed rfl))

/-- The elements of an ordering are read back in their order. -/
theorem readElements?_restores (tagged : Bool) (room : Nat) {elements : List OrderElement}
    (keyed : ∀ element ∈ elements, element.target.Keyed) :
    Restores (readElements? tagged) room (writeElements elements) elements := by
  refine restores_record ["elements"] ["elements"] (by decide) rfl fun room _ fits opened => ?_
  have listed := Fields.required?_written "elements" fits rfl <|
    listOf?_restores fun smaller _ element member =>
      read?_restores tagged smaller (keyed element member)
  exact reads_next opened listed

/-- Whatever is read as an element of an ordering has distinct names. -/
theorem read?_keyed (tagged : Bool) (room : Nat) :
    Yields (read? tagged room) fun element => element.target.Keyed := by
  intro source element found
  cases room with
  | zero => cases found
  | succ room =>
      simp only [read?, Option.bind_eq_bind, Option.bind_eq_some_iff] at found
      obtain ⟨_, _, _, _, target, aimed, found⟩ := found
      cases found
      exact Fields.required?_yields (OrderTarget.read?_keyed tagged room) aimed

/-- Whatever is read as an ordering has distinct names in each of its elements. -/
theorem readElements?_keyed (tagged : Bool) (room : Nat) :
    Yields (readElements? tagged room) fun elements =>
      ∀ element ∈ elements, element.target.Keyed := by
  intro source elements found
  cases room with
  | zero => cases found
  | succ room =>
      simp only [readElements?, Option.bind_eq_bind, Option.bind_eq_some_iff] at found
      obtain ⟨_, _, listed⟩ := found
      exact Fields.required?_yields
        (listOf?_yields fun smaller _ => read?_keyed tagged smaller) listed

end OrderElement

mutual

/-- Every table inside the field has distinct names, arguments and conditions included. -/
inductive Field.Keyed : Field → Prop
  | column {column : String} {nested : Option Selection}
      (inside : ∀ selection ∈ nested, Selection.Keyed selection) :
      Field.Keyed (.column column nested)
  | relationship {query : Query} {relationship : String} {arguments : Arguments}
      (asked : Query.Keyed query) (given : Table.Keyed Json.Keyed arguments) :
      Field.Keyed (.relationship query relationship arguments)

inductive Selection.Keyed : Selection → Prop
  | object {fields : List (String × Field)} (distinct : Table.Distinct fields)
      (each : ∀ entry ∈ fields, Field.Keyed entry.2) : Selection.Keyed (.object fields)
  | array {elements : Selection} (each : Selection.Keyed elements) :
      Selection.Keyed (.array elements)

inductive Query.Keyed : Query → Prop
  | intro {query : Query} (computed : ∀ table ∈ query.aggregates, table.Distinct)
      (distinct : ∀ table ∈ query.fields, Table.Distinct table)
      (each : ∀ table ∈ query.fields, ∀ entry ∈ table, Field.Keyed entry.2)
      (ordered : ∀ elements ∈ query.orderBy, ∀ element ∈ elements, element.target.Keyed)
      (condition : ∀ expression ∈ query.predicate, expression.Keyed) : Query.Keyed query

end

namespace Field

/-- The fields of a row are written as any other table. -/
theorem tableToJson_eq (fields : List (String × Field)) :
    Json.object (tableToJson fields) = .ofTable toJson fields := by
  rw [Json.ofTable]
  congr 1
  induction fields with
  | nil => rfl
  | cons entry rest continued =>
      obtain ⟨name, field⟩ := entry
      rw [tableToJson, continued, List.map_cons]

/-- The fields of a row are read as any other table. -/
theorem readTable?_eq (tagged : Bool) (room : Nat) :
    readTable? tagged room = tableOf? (read? tagged) room := by
  cases room <;> rfl

/-- The fields of a row are read back in their order when each of them is. -/
theorem readTable?_restores {tagged : Bool} {room : Nat} {fields : List (String × Field)}
    (distinct : Table.Distinct fields)
    (each : ∀ smaller < room, ∀ entry ∈ fields,
      Restores (read? tagged) smaller entry.2.toJson entry.2) :
    Restores (readTable? tagged) room (.ofTable toJson fields) fields := by
  rw [Restores, readTable?_eq]
  exact tableOf?_restores distinct each

end Field

theorem Selection.optionToJson_eq (selection : Option Selection) :
    Selection.optionToJson selection = .ofOption Selection.toJson selection := by
  cases selection <;> rfl

/-- A selection is a record, so it is never taken for a missing one. -/
theorem Selection.toJson_filled (selection : Selection) : selection.toJson ≠ .null := by
  cases selection <;> nofun

theorem Query.fieldsToJson_eq (fields : Option (List (String × Field))) :
    Query.fieldsToJson fields = .ofOption (.ofTable Field.toJson) fields := by
  cases fields with
  | none => rfl
  | some table => exact Field.tableToJson_eq table

mutual

/-- A field is read back once the selection or the query inside it is, and those have less room. -/
theorem Field.read?_restores (tagged : Bool) (room : Nat) {field : Field} (keyed : field.Keyed) :
    Restores (Field.read? tagged) room field.toJson field := by
  cases keyed with
  | @column column nested inside =>
      refine restores_tagged Field.variants tagged ["column", "fields"] (by decide) rfl
        fun room _ fits opened => ?_
      have named := Fields.required?_written "column" fits rfl (string?_restores room column)
      have selected := Fields.optional?_written "fields" fits
        (congrArg some (Selection.optionToJson_eq nested)) Selection.toJson_filled
        fun selection given => Selection.read?_restores room (inside selection given)
      exact reads_next opened (reads_next named (reads_next selected rfl))
  | @relationship query relationship arguments asked given =>
      refine restores_tagged Field.variants tagged ["query", "relationship", "arguments"]
        (by decide) rfl fun room _ fits opened => ?_
      have queried := Fields.required?_written "query" fits rfl
        (Query.read?_restores true room asked)
      have named := Fields.required?_written "relationship" fits rfl
        (string?_restores room relationship)
      have passed := Fields.withDefault?_written "arguments" [] fits rfl
        (Arguments.read?_restores given)
      exact reads_next opened (reads_next queried (reads_next named (reads_next passed rfl)))
termination_by room

/-- A selection is read back with the fields or the elements that it selects. -/
theorem Selection.read?_restores (room : Nat) {selection : Selection} (keyed : selection.Keyed) :
    Restores Selection.read? room selection.toJson selection := by
  cases keyed with
  | @object fields distinct each =>
      refine restores_tagged Selection.variants true ["fields"] (by decide) rfl
        fun room _ fits opened => ?_
      have selected := Fields.required?_written "fields" fits
        (congrArg some (Field.tableToJson_eq fields)) <|
          Field.readTable?_restores distinct fun smaller _ entry member =>
            Field.read?_restores true smaller (each entry member)
      exact reads_next opened (reads_next selected rfl)
  | array each =>
      refine restores_tagged Selection.variants true ["fields"] (by decide) rfl
        fun room _ fits opened => ?_
      have selected := Fields.required?_written "fields" fits rfl
        (Selection.read?_restores room each)
      exact reads_next opened (reads_next selected rfl)
termination_by room

/-- A query is read back with its fields, aggregates, condition, ordering and page. -/
theorem Query.read?_restores (tagged : Bool) (room : Nat) {query : Query} (keyed : query.Keyed) :
    Restores (Query.read? tagged) room query.toJson query := by
  obtain ⟨computed, distinct, each, ordered, condition⟩ := keyed
  obtain ⟨aggregates, fields, limit, offset, orderBy, predicate⟩ := query
  refine restores_record Query.fieldNames Query.fieldNames (by decide) rfl
    fun room _ fits opened => ?_
  have counted := Fields.optional?_written "aggregates" fits rfl nofun fun table given =>
    tableOf?_restores (computed table given) fun smaller _ entry _ =>
      Aggregate.read?_restores tagged smaller entry.2
  have selected := Fields.optional?_written "fields" fits
    (congrArg some (Query.fieldsToJson_eq fields)) nofun fun table given =>
      Field.readTable?_restores (distinct table given) fun smaller _ entry member =>
        Field.read?_restores tagged smaller (each table given entry member)
  have limited := Fields.optional?_written "limit" fits rfl nofun fun value _ =>
    word?_restores room value
  have skipped := Fields.optional?_written "offset" fits rfl nofun fun value _ =>
    word?_restores room value
  have sorted := Fields.optional?_written "order_by" fits rfl nofun fun elements given =>
    OrderElement.readElements?_restores tagged room (ordered elements given)
  have tested := Fields.optional?_written "predicate" fits rfl Expression.toJson_filled
    fun expression given => Expression.read?_restores tagged room (condition expression given)
  exact reads_next opened <| reads_next counted <| reads_next selected <| reads_next limited <|
    reads_next skipped <| reads_next sorted <| reads_next tested rfl
termination_by room

end

mutual

/-- What is read as a field has distinct names, because the parts inside it have. -/
theorem Field.read?_keyed (tagged : Bool) (room : Nat) :
    Yields (Field.read? tagged room) Field.Keyed := by
  intro source field found
  cases room with
  | zero => cases found
  | succ room =>
      simp only [Field.read?, Option.bind_eq_bind, Option.bind_eq_some_iff] at found
      obtain ⟨⟨tag, fields⟩, _, found⟩ := found
      split at found
      next =>
        obtain ⟨_, _, found⟩ := Option.bind_eq_some_iff.mp found
        obtain ⟨nested, selected, found⟩ := Option.bind_eq_some_iff.mp found
        cases found
        exact .column (Fields.optional?_yields (Selection.read?_keyed room) selected)
      next =>
        obtain ⟨query, queried, found⟩ := Option.bind_eq_some_iff.mp found
        obtain ⟨_, _, found⟩ := Option.bind_eq_some_iff.mp found
        obtain ⟨arguments, passed, found⟩ := Option.bind_eq_some_iff.mp found
        cases found
        exact .relationship (Fields.required?_yields (Query.read?_keyed true room) queried)
          (Fields.withDefault?_yields (Arguments.read?_keyed room) Table.keyed_nil passed)
      next => cases found
termination_by room

/-- Whatever is read as a selection has distinct names. -/
theorem Selection.read?_keyed (room : Nat) : Yields (Selection.read? room) Selection.Keyed := by
  intro source selection found
  cases room with
  | zero => cases found
  | succ room =>
      simp only [Selection.read?, Option.bind_eq_bind, Option.bind_eq_some_iff] at found
      obtain ⟨⟨tag, fields⟩, _, found⟩ := found
      split at found
      next =>
        obtain ⟨table, selected, found⟩ := Option.bind_eq_some_iff.mp found
        cases found
        rw [Field.readTable?_eq] at selected
        have keyed := Fields.required?_yields
          (tableOf?_yields fun smaller _ => Field.read?_keyed true smaller) selected
        exact .object keyed.1 keyed.2
      next =>
        obtain ⟨elements, selected, found⟩ := Option.bind_eq_some_iff.mp found
        cases found
        exact .array (Fields.required?_yields (Selection.read?_keyed room) selected)
      next => cases found
termination_by room

/-- Whatever is read as a query has distinct names. -/
theorem Query.read?_keyed (tagged : Bool) (room : Nat) :
    Yields (Query.read? tagged room) Query.Keyed := by
  intro source query found
  cases room with
  | zero => cases found
  | succ room =>
      simp only [Query.read?, Option.bind_eq_bind, Option.bind_eq_some_iff] at found
      obtain ⟨_, _, aggregates, counted, table, selected, _, _, _, _, elements, sorted, predicate,
        tested, found⟩ := found
      cases found
      rw [Field.readTable?_eq] at selected
      have computed := Fields.optional?_yields
        (tableOf?_yields fun _ _ _ (_ : Aggregate) _ => trivial) counted
      have keyed := Fields.optional?_yields
        (tableOf?_yields fun smaller _ => Field.read?_keyed tagged smaller) selected
      exact .intro (fun table given => (computed table given).1)
        (fun table given => (keyed table given).1) (fun table given => (keyed table given).2)
        (Fields.optional?_yields (OrderElement.readElements?_keyed tagged room) sorted)
        (Fields.optional?_yields (Expression.read?_keyed tagged room) tested)
termination_by room

end

/-- The members stand in another order than the written ones, one of them is unknown, and the inner
condition is an array that begins with the position of its variant. -/
def Sample.reorderedForm : Json :=
  .object [
    ("query", .object [
      ("predicate", .object [
        ("expression", .array [.integer 3,
          .object [("name", .string "id"), ("type", .string "column")], .string "is_null"]),
        ("type", .string "not")]),
      ("fields", .object [("id", .object [("column", .string "id"), ("type", .string "column")])]),
      ("limit", .integer 5)]),
    ("comment", .bool true),
    ("collection", .string "orders")]

/-- This is the request that the rearranged form stands for. -/
def Sample.reordered : QueryRequest where
  collection := "orders"
  query :=
    { aggregates := none
      fields := some [("id", .column "id" none)]
      limit := some 5
      offset := none
      orderBy := none
      predicate := some (.not (.isNull (.column "id" none []))) }
  arguments := []
  relationships := []
  variableSets := none

namespace QueryRequest

/-- Every table inside the request has distinct names, like the tables that `Table.put` builds. -/
structure Keyed (request : QueryRequest) : Prop where
  asked : request.query.Keyed
  given : Table.Keyed Json.Keyed request.arguments
  related : request.relationships.Keyed Json.Keyed
  bound : ∀ sets ∈ request.variableSets, ∀ set ∈ sets, Table.Keyed Json.Keyed set

/-- A request with distinct names is read back with its variables. -/
theorem read?_restores (room : Nat) {request : QueryRequest} (keyed : request.Keyed) :
    Restores read? room request.toJson request := by
  refine restores_record fieldNames fieldNames (by decide) rfl fun room _ fits opened => ?_
  have named := Fields.required?_written "collection" fits rfl
    (string?_restores room request.collection)
  have queried := Fields.required?_written "query" fits rfl
    (Query.read?_restores false room keyed.asked)
  have passed := Fields.withDefault?_written "arguments" [] fits rfl
    (Arguments.read?_restores keyed.given)
  have related := Fields.withDefault?_written "collection_relationships" [] fits rfl
    (documents_restore keyed.related)
  have varied := Fields.optional?_written "variables" fits rfl nofun fun sets given =>
    listOf?_restores fun _ _ set member => documents_restore (keyed.bound sets given set member)
  exact reads_next opened <| reads_next named <| reads_next queried <| reads_next passed <|
    reads_next related <| reads_next varied rfl

/-- Whatever is read as a request has distinct names. -/
theorem read?_keyed (room : Nat) : Yields (read? room) Keyed := by
  intro source request found
  cases room with
  | zero => cases found
  | succ room =>
      simp only [read?, Option.bind_eq_bind, Option.bind_eq_some_iff] at found
      obtain ⟨_, _, _, _, query, queried, arguments, passed, relationships, related, sets, varied,
        found⟩ := found
      have tables (room : Nat) := tableOf?_yields fun smaller (_ : smaller < room) =>
        json?_keyed smaller
      cases found
      exact ⟨Fields.required?_yields (Query.read?_keyed false room) queried,
        Fields.withDefault?_yields (Arguments.read?_keyed room) Table.keyed_nil passed,
        Fields.withDefault?_yields (tables room) Table.keyed_nil related,
        Fields.optional?_yields (listOf?_yields fun smaller _ => tables smaller) varied⟩

/-- A request is read back from its written form with its tables in the same order, and whatever
is read as a request can be written and read again. -/
theorem document_reads_back :
    (∀ request : QueryRequest, request.Keyed → ofJson? request.toJson = some request) ∧
      ∀ (value : Json) (request : QueryRequest), ofJson? value = some request →
        request.Keyed ∧ ofJson? request.toJson = some request := by
  have restored (request : QueryRequest) (keyed : request.Keyed) :
      ofJson? request.toJson = some request :=
    read?_restores _ keyed (Nat.le_refl _)
  refine ⟨restored, fun value request found => ?_⟩
  have keyed := read?_keyed value.height value.toSource request found
  exact ⟨keyed, restored request keyed⟩

/-- The rearranged form is read as a request that is read back from its own form. -/
theorem reordered_document_reads_back :
    ofJson? Sample.reorderedForm = some Sample.reordered ∧ Sample.reordered.Keyed ∧
      ofJson? Sample.reordered.toJson = some Sample.reordered := by
  have reads : ofJson? Sample.reorderedForm = some Sample.reordered := rfl
  have ⟨keyed, again⟩ := document_reads_back.2 _ _ reads
  exact ⟨reads, keyed, document_reads_back.1 _ keyed⟩

end QueryRequest

end DocumentQuery
