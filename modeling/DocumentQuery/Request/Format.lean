/-
This file reads and writes the document form of query requests.
-/

import DocumentQuery.Json.Build
import DocumentQuery.Json.Record
import DocumentQuery.Request.Basic

namespace DocumentQuery

open Source

namespace Arguments

def read? (room : Nat) (source : Source) : Option Arguments :=
  tableOf? json? room source

def toJson (arguments : Arguments) : Json :=
  .object arguments

end Arguments

def readNames? (room : Nat) (source : Source) : Option (List String) :=
  listOf? (fun _ name => name.string?) room source

namespace SearchedCollection

def variants : Variants :=
  [("related", ["relationship", "arguments"]),
    ("unrelated", ["collection", "arguments"]),
    ("nested_collection", ["column_name", "arguments", "field_path"])]

def read? : Nat → Source → Option SearchedCollection
  | 0, _ => none
  | room + 1, source => do
      let (tag, fields) ← source.variant? variants true (room + 1)
      let arguments ← fields.withDefault? "arguments" [] (Arguments.read? room)
      match tag with
      | "related" => return .related (← fields.required? "relationship" string?) arguments
      | "unrelated" => return .unrelated (← fields.required? "collection" string?) arguments
      | "nested_collection" =>
          let column ← fields.required? "column_name" string?
          let fieldPath ← fields.withDefault? "field_path" [] (readNames? room)
          return .nested column arguments fieldPath
      | _ => none

def toJson : SearchedCollection → Json
  | .related relationship arguments =>
      .object [("type", .string "related"), ("relationship", .string relationship),
        ("arguments", arguments.toJson)]
  | .unrelated collection arguments =>
      .object [("type", .string "unrelated"), ("collection", .string collection),
        ("arguments", arguments.toJson)]
  | .nested column arguments fieldPath =>
      .object [("type", .string "nested_collection"), ("column_name", .string column),
        ("arguments", arguments.toJson), ("field_path", .ofNames fieldPath)]

end SearchedCollection

def Expression.variants : Variants :=
  [("and", ["expressions"]), ("or", ["expressions"]), ("not", ["expression"]),
    ("unary_comparison_operator", ["column", "operator"]),
    ("binary_comparison_operator", ["column", "operator", "value"]),
    ("exists", ["in_collection", "predicate"])]

def ComparisonTarget.variants : Variants :=
  [("column", ["name", "field_path", "path"]), ("root_collection_column", ["name", "field_path"])]

def ComparisonOperand.variants : Variants :=
  [("column", ["column"]), ("scalar", ["value"]), ("variable", ["name"])]

def PathElement.fieldNames : List String :=
  ["relationship", "arguments", "predicate"]

/-- The null test is the only operator without an operand. -/
def Expression.unaryOperators : Table (ComparisonTarget → Expression) :=
  [("is_null", .isNull)]

mutual

def Expression.read? (tagged : Bool) : Nat → Source → Option Expression
  | 0, _ => none
  | room + 1, source => do
      let (tag, fields) ← source.variant? Expression.variants tagged (room + 1)
      match tag with
      | "and" => return .and (← fields.required? "expressions" (Expression.readList? room))
      | "or" => return .or (← fields.required? "expressions" (Expression.readList? room))
      | "not" => return .not (← fields.required? "expression" (Expression.read? true room))
      | "unary_comparison_operator" =>
          let target ← fields.required? "column" (ComparisonTarget.read? room)
          let operator ← fields.required? "operator"
            (choice? Expression.unaryOperators true room)
          return operator target
      | "binary_comparison_operator" =>
          let target ← fields.required? "column" (ComparisonTarget.read? room)
          let operator ← fields.required? "operator" string?
          let operand ← fields.required? "value" (ComparisonOperand.read? room)
          return .compare target operator operand
      | "exists" =>
          let collection ← fields.required? "in_collection" (SearchedCollection.read? room)
          let predicate ← fields.optional? "predicate" (Expression.read? true room)
          return .existsIn collection predicate
      | _ => none

def Expression.readList? : Nat → Source → Option (List Expression)
  | room + 1, .array items => items.mapM (Expression.read? true room)
  | _, _ => none

def ComparisonTarget.read? : Nat → Source → Option ComparisonTarget
  | 0, _ => none
  | room + 1, source => do
      let (tag, fields) ← source.variant? ComparisonTarget.variants true (room + 1)
      let name ← fields.required? "name" string?
      let fieldPath ← fields.optional? "field_path" (readNames? room)
      match tag with
      | "column" =>
          let path ← fields.withDefault? "path" [] (PathElement.readList? true room)
          return .column name fieldPath path
      | "root_collection_column" => return .rootColumn name fieldPath
      | _ => none

def ComparisonOperand.read? : Nat → Source → Option ComparisonOperand
  | 0, _ => none
  | room + 1, source => do
      let (tag, fields) ← source.variant? ComparisonOperand.variants true (room + 1)
      match tag with
      | "column" => return .column (← fields.required? "column" (ComparisonTarget.read? room))
      | "scalar" => return .scalar (← fields.required? "value" (json? room))
      | "variable" => return .variable (← fields.required? "name" string?)
      | _ => none

def PathElement.read? (tagged : Bool) : Nat → Source → Option PathElement
  | 0, _ => none
  | room + 1, source => do
      let fields ← source.record? PathElement.fieldNames
      let relationship ← fields.required? "relationship" string?
      let arguments ← fields.withDefault? "arguments" [] (Arguments.read? room)
      let predicate ← fields.optional? "predicate" (Expression.read? tagged room)
      return .crossing relationship arguments predicate

def PathElement.readList? (tagged : Bool) : Nat → Source → Option (List PathElement)
  | room + 1, .array items => items.mapM (PathElement.read? tagged room)
  | _, _ => none

end

mutual

def Expression.toJson : Expression → Json
  | .and expressions =>
      .object [("type", .string "and"), ("expressions", .array (Expression.listToJson expressions))]
  | .or expressions =>
      .object [("type", .string "or"), ("expressions", .array (Expression.listToJson expressions))]
  | .not expression =>
      .object [("type", .string "not"), ("expression", expression.toJson)]
  | .isNull target =>
      .object [("type", .string "unary_comparison_operator"), ("column", target.toJson),
        ("operator", .string "is_null")]
  | .compare target operator operand =>
      .object [("type", .string "binary_comparison_operator"), ("column", target.toJson),
        ("operator", .string operator), ("value", operand.toJson)]
  | .existsIn collection predicate =>
      .object [("type", .string "exists"), ("in_collection", collection.toJson),
        ("predicate", Expression.optionToJson predicate)]

def Expression.listToJson : List Expression → List Json
  | [] => []
  | expression :: rest => expression.toJson :: Expression.listToJson rest

def Expression.optionToJson : Option Expression → Json
  | none => .null
  | some expression => expression.toJson

def ComparisonTarget.toJson : ComparisonTarget → Json
  | .column name fieldPath path =>
      .object [("type", .string "column"), ("name", .string name),
        ("field_path", .ofOption .ofNames fieldPath),
        ("path", .array (PathElement.listToJson path))]
  | .rootColumn name fieldPath =>
      .object [("type", .string "root_collection_column"), ("name", .string name),
        ("field_path", .ofOption .ofNames fieldPath)]

def ComparisonOperand.toJson : ComparisonOperand → Json
  | .column target => .object [("type", .string "column"), ("column", target.toJson)]
  | .scalar value => .object [("type", .string "scalar"), ("value", value)]
  | .variable name => .object [("type", .string "variable"), ("name", .string name)]

def PathElement.toJson : PathElement → Json
  | .crossing relationship arguments predicate =>
      .object [("relationship", .string relationship), ("arguments", arguments.toJson),
        ("predicate", Expression.optionToJson predicate)]

def PathElement.listToJson : List PathElement → List Json
  | [] => []
  | element :: rest => element.toJson :: PathElement.listToJson rest

end

namespace Aggregate

def variants : Variants :=
  [("column_count", ["column", "field_path", "distinct"]),
    ("single_column", ["column", "field_path", "function"]),
    ("star_count", [])]

def read? (tagged : Bool) : Nat → Source → Option Aggregate
  | 0, _ => none
  | room + 1, source => do
      let (tag, fields) ← source.variant? variants tagged (room + 1)
      match tag with
      | "column_count" =>
          let column ← fields.required? "column" string?
          let fieldPath ← fields.optional? "field_path" (readNames? room)
          return .columnCount column fieldPath (← fields.required? "distinct" bool?)
      | "single_column" =>
          let column ← fields.required? "column" string?
          let fieldPath ← fields.optional? "field_path" (readNames? room)
          return .singleColumn column fieldPath (← fields.required? "function" string?)
      | "star_count" => return .starCount
      | _ => none

def toJson : Aggregate → Json
  | .columnCount column fieldPath distinct =>
      .object [("type", .string "column_count"), ("column", .string column),
        ("field_path", .ofOption .ofNames fieldPath), ("distinct", .bool distinct)]
  | .singleColumn column fieldPath function =>
      .object [("type", .string "single_column"), ("column", .string column),
        ("field_path", .ofOption .ofNames fieldPath), ("function", .string function)]
  | .starCount => .object [("type", .string "star_count")]

end Aggregate

namespace OrderDirection

def choices : Table OrderDirection :=
  [("asc", .ascending), ("desc", .descending)]

def text : OrderDirection → String
  | .ascending => "asc"
  | .descending => "desc"

end OrderDirection

namespace OrderTarget

def variants : Variants :=
  [("column", ["name", "field_path", "path"]),
    ("single_column_aggregate", ["column", "function", "path"]),
    ("star_count_aggregate", ["path"])]

def read? (tagged : Bool) : Nat → Source → Option OrderTarget
  | 0, _ => none
  | room + 1, source => do
      let (tag, fields) ← source.variant? variants tagged (room + 1)
      let path ← fields.withDefault? "path" [] (PathElement.readList? true room)
      match tag with
      | "column" =>
          let name ← fields.required? "name" string?
          return .column name (← fields.optional? "field_path" (readNames? room)) path
      | "single_column_aggregate" =>
          let column ← fields.required? "column" string?
          return .singleColumnAggregate column (← fields.required? "function" string?) path
      | "star_count_aggregate" => return .starCountAggregate path
      | _ => none

def toJson : OrderTarget → Json
  | .column name fieldPath path =>
      .object [("type", .string "column"), ("name", .string name),
        ("field_path", .ofOption .ofNames fieldPath),
        ("path", .ofList PathElement.toJson path)]
  | .singleColumnAggregate aggregated function path =>
      .object [("type", .string "single_column_aggregate"), ("column", .string aggregated),
        ("function", .string function), ("path", .ofList PathElement.toJson path)]
  | .starCountAggregate path =>
      .object [("type", .string "star_count_aggregate"),
        ("path", .ofList PathElement.toJson path)]

end OrderTarget

namespace OrderElement

def read? (tagged : Bool) : Nat → Source → Option OrderElement
  | 0, _ => none
  | room + 1, source => do
      let fields ← source.record? ["order_direction", "target"]
      let direction ← fields.required? "order_direction"
        (choice? OrderDirection.choices tagged room)
      return ⟨direction, ← fields.required? "target" (OrderTarget.read? tagged room)⟩

def toJson (element : OrderElement) : Json :=
  .object [("order_direction", .string element.direction.text), ("target", element.target.toJson)]

/-- An ordering is a record around its elements. -/
def readElements? (tagged : Bool) : Nat → Source → Option (List OrderElement)
  | 0, _ => none
  | room + 1, source => do
      let fields ← source.record? ["elements"]
      fields.required? "elements" (listOf? (read? tagged) room)

def writeElements (elements : List OrderElement) : Json :=
  .object [("elements", .ofList toJson elements)]

end OrderElement

def Field.variants : Variants :=
  [("column", ["column", "fields"]), ("relationship", ["query", "relationship", "arguments"])]

def Selection.variants : Variants :=
  [("object", ["fields"]), ("array", ["fields"])]

def Query.fieldNames : List String :=
  ["aggregates", "fields", "limit", "offset", "order_by", "predicate"]

mutual

def Field.read? (tagged : Bool) : Nat → Source → Option Field
  | 0, _ => none
  | room + 1, source => do
      let (tag, fields) ← source.variant? Field.variants tagged (room + 1)
      match tag with
      | "column" =>
          let column ← fields.required? "column" string?
          return .column column (← fields.optional? "fields" (Selection.read? room))
      | "relationship" =>
          let query ← fields.required? "query" (Query.read? true room)
          let relationship ← fields.required? "relationship" string?
          let arguments ← fields.withDefault? "arguments" [] (Arguments.read? room)
          return .relationship query relationship arguments
      | _ => none

def Field.readTable? (tagged : Bool) : Nat → Source → Option (Table Field)
  | 0, _ => none
  | room + 1, source => do
      let entries ← (← source.members?).mapM fun (name, value) => do
        return (name, ← Field.read? tagged room value)
      return Table.ofEntries entries

def Selection.read? : Nat → Source → Option Selection
  | 0, _ => none
  | room + 1, source => do
      let (tag, fields) ← source.variant? Selection.variants true (room + 1)
      match tag with
      | "object" => return .object (← fields.required? "fields" (Field.readTable? true room))
      | "array" => return .array (← fields.required? "fields" (Selection.read? room))
      | _ => none

def Query.read? (tagged : Bool) : Nat → Source → Option Query
  | 0, _ => none
  | room + 1, source => do
      let fields ← source.record? Query.fieldNames
      let aggregates ← fields.optional? "aggregates" (tableOf? (Aggregate.read? tagged) room)
      let selected ← fields.optional? "fields" (Field.readTable? tagged room)
      let limit ← fields.optional? "limit" word?
      let offset ← fields.optional? "offset" word?
      let orderBy ← fields.optional? "order_by" (OrderElement.readElements? tagged room)
      let predicate ← fields.optional? "predicate" (Expression.read? tagged room)
      return ⟨aggregates, selected, limit, offset, orderBy, predicate⟩

end

mutual

def Field.toJson : Field → Json
  | .column column nested =>
      .object [("type", .string "column"), ("column", .string column),
        ("fields", Selection.optionToJson nested)]
  | .relationship query relationship arguments =>
      .object [("type", .string "relationship"), ("query", query.toJson),
        ("relationship", .string relationship), ("arguments", arguments.toJson)]

def Field.tableToJson : List (String × Field) → List (String × Json)
  | [] => []
  | (aliasName, field) :: rest => (aliasName, field.toJson) :: Field.tableToJson rest

def Selection.toJson : Selection → Json
  | .object fields =>
      .object [("type", .string "object"), ("fields", .object (Field.tableToJson fields))]
  | .array elements => .object [("type", .string "array"), ("fields", elements.toJson)]

def Selection.optionToJson : Option Selection → Json
  | none => .null
  | some selection => selection.toJson

def Query.toJson : Query → Json
  | ⟨aggregates, fields, limit, offset, orderBy, predicate⟩ =>
      .object [
        ("aggregates", .ofOption (.ofTable Aggregate.toJson) aggregates),
        ("fields", Query.fieldsToJson fields),
        ("limit", .ofOption .ofWord limit),
        ("offset", .ofOption .ofWord offset),
        ("order_by", .ofOption OrderElement.writeElements orderBy),
        ("predicate", .ofOption Expression.toJson predicate)]

def Query.fieldsToJson : Option (List (String × Field)) → Json
  | none => .null
  | some fields => .object (Field.tableToJson fields)

end

namespace QueryRequest

def fieldNames : List String :=
  ["collection", "query", "arguments", "collection_relationships", "variables"]

def read? : Nat → Source → Option QueryRequest
  | 0, _ => none
  | room + 1, source => do
      let fields ← source.record? fieldNames
      let collection ← fields.required? "collection" string?
      let query ← fields.required? "query" (Query.read? false room)
      let arguments ← fields.withDefault? "arguments" [] (Arguments.read? room)
      let relationships ← fields.withDefault? "collection_relationships" [] (tableOf? json? room)
      let variableSets ← fields.optional? "variables" (listOf? (tableOf? json?) room)
      return ⟨collection, query, arguments, relationships, variableSets⟩

def toJson (request : QueryRequest) : Json :=
  .object [("collection", .string request.collection), ("query", request.query.toJson),
    ("arguments", request.arguments.toJson),
    ("collection_relationships", .object request.relationships),
    ("variables", .ofOption (.ofList .object) request.variableSets)]

def ofJson? (value : Json) : Option QueryRequest :=
  read? value.height value.toSource

def ofText? (text : String) : Option QueryRequest := do
  read? textRoom (← Source.ofText? text)

end QueryRequest

end DocumentQuery
