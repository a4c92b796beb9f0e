/-
This file describes a small collection of orders, on which the general results are tried.
-/

import DocumentQuery.Compilation.Statement

namespace DocumentQuery.Sample

def property (type : ValueType) : Property :=
  ⟨none, none, type⟩

def text : ValueType := .scalar "String"

def customer : ObjectType :=
  ⟨none, [("name", property text)]⟩

/-- A line has a property that is named like a keyword, and groups of tags. -/
def line : ObjectType :=
  ⟨none, [("value", property (.scalar "Number")),
    ("tags", property (.array (.orNull (.array text))))]⟩

/-- An order has a customer who may be absent, a list of lines and a grid of lines. -/
def order : ObjectType :=
  ⟨none, [("id", property text), ("customer", property (.orNull (.object "Customer"))),
    ("lines", property (.orNull (.array (.object "Line")))),
    ("grid", property (.array (.array (.object "Line"))))]⟩

/-- The orders are the only collection. -/
def schema : Schema where
  collections := [("orders", ⟨none, [], .orNull (.object "Order")⟩)]
  objectTypes := [("Order", order), ("Customer", customer), ("Line", line)]
  scalarTypes := []

def scope : Scope :=
  ⟨QueryRequest.rootAlias "orders", "Order", order⟩

/-- This order has two lines with tags and a grid with an empty row. -/
def document : Json :=
  .object [("id", .string "o1"), ("customer", .object [("name", .string "Ann")]),
    ("lines", .array [
      .object [("value", .null), ("tags", .array [.array [.string "Ann"]])],
      .object [("value", .integer 2), ("tags", .array [.array [], .array [.string "Ann"]])]]),
    ("grid", .array [.array [.object [("value", .integer 1)]], .array []])]

/-- Some line has the name of the customer among its tags and a value that is not null. -/
def expression : Expression :=
  .existsIn (.nested "lines" [] []) <| some <| .and [
    .compare (.column "tags" none []) "eq" (.column (.rootColumn "customer" (some ["name"]))),
    .not (.isNull (.column "value" none []))]

/-- This predicate is the expression over the root of the orders. -/
def predicate : Predicate :=
  .existsIn ⟨"root_orders", ["lines"]⟩ "nested_element_1" <| some <| .and [
    .test "nested_element_1" (.each (some "tags") (.each none (.scalar none "String")))
      (.compare ⟨"eq", "=", true, false⟩ (.column ⟨"root_orders", ["customer", "name"]⟩)),
    .not (.test "nested_element_1" (.value (some "value")) .isNull)]

/-- One alias is no plain name, and the elements of an array of arrays are selected. -/
def fields : Table Field :=
  [("id", .column "id" none),
    ("sold to", .column "customer" (some (.object [("name", .column "name" none)]))),
    ("grid", .column "grid" (some (.array (.array (.object [("value", .column "value" none)])))))]

def gridValues : Select where
  columns := [("value", .path ⟨"_subquery_parent_grid_2", ["value"]⟩)]
  origin := some (.iterated (.ofAlias "_subquery_parent_grid") "_subquery_parent_grid_2")
  asArray := true

def columns : Table Projection :=
  [("id", .path ⟨"root_orders", ["id"]⟩),
    ("sold to", .subquery {
      columns := [("name", .path ⟨"_subquery_parent_customer", ["name"]⟩)]
      origin := some (.aliased ⟨"root_orders", ["customer"]⟩ "_subquery_parent_customer") }),
    ("grid", .subquery {
      columns := [("_subquery_parent_grid", .subquery gridValues)]
      origin := some (.iterated ⟨"root_orders", ["grid"]⟩ "_subquery_parent_grid")
      asValue := true
      asArray := true })]

/-- The name of each buyer is selected under a key that is no plain alias. -/
def buyers : Table Field :=
  [("sold to", .column "customer" (some (.object [("name", .column "name" none)])))]

/-- The limit has no offset beside it. -/
def request : QueryRequest where
  collection := "orders"
  query :=
    { aggregates := none
      fields := some buyers
      limit := some 5
      offset := none
      orderBy := none
      predicate := some <| .existsIn (.nested "lines" [] []) <| some <|
        .not (.isNull (.column "value" none [])) }
  arguments := []
  relationships := []
  variableSets := none

def statement : Select where
  columns := [("sold to", .subquery {
    columns := [("name", .path ⟨"_subquery_parent_customer", ["name"]⟩)]
    origin := some (.aliased ⟨"root_orders", ["customer"]⟩ "_subquery_parent_customer") })]
  origin := some (.container "orders" "root_orders")
  predicate := some <| .existsIn ⟨"root_orders", ["lines"]⟩ "nested_element_1" <| some <|
    .not (.test "nested_element_1" (.value (some "value")) .isNull)
  limit := some 5

def queryText : String :=
  "SELECT VALUE \x7b\"sold to\": (SELECT _subquery_parent_customer.name ?? null AS name " ++
    "FROM root_orders.customer AS _subquery_parent_customer)\x7d FROM orders root_orders " ++
    "WHERE EXISTS(SELECT VALUE 1 FROM nested_element_1 IN root_orders.lines " ++
    "WHERE NOT (IS_NULL(nested_element_1[\"value\"]))) OFFSET 0 LIMIT 5"

/-- Tags are scalars inside arrays of arrays, and one literal is repeated. -/
def filter (tag first second : String) : Expression :=
  .and [
    .existsIn (.nested "lines" [] []) <| some <| .and [
      .compare (.column "tags" none []) "eq" (.scalar (.string tag)),
      .compare (.column "tags" none []) "startswith" (.scalar (.string tag))],
    .compare (.column "customer" (some ["name"]) []) "eq" (.scalar (.string tag)),
    .or [
      .compare (.column "id" none []) "eq" (.scalar (.string first)),
      .compare (.column "id" none []) "eq" (.scalar (.string second)),
      .compare (.column "id" none []) "gt" (.scalar (.string first))],
    .compare (.column "id" none []) "neq" (.variable "id")]

/-- The request filters the orders by a tag and by two texts. -/
def filtered (tag first second : String) : QueryRequest where
  collection := "orders"
  query :=
    { aggregates := none
      fields := some buyers
      limit := none
      offset := none
      orderBy := none
      predicate := some (filter tag first second) }
  arguments := []
  relationships := []
  variableSets := some [[("id", .string first)]]

/-- The tags of a line are searched through two arrays. -/
def tagChain : Chain := .each (some "tags") (.each none (.scalar none "String"))

def idTest (operator : ComparisonOperator) (comparand : Comparand) : Predicate :=
  .test "root_orders" (.scalar (some "id") "String") (.compare operator comparand)

/-- This is the statement of the filtered request. -/
def filteredStatement (tag first second : String) : Select where
  columns := [("sold to", .subquery {
    columns := [("name", .path ⟨"_subquery_parent_customer", ["name"]⟩)]
    origin := some (.aliased ⟨"root_orders", ["customer"]⟩ "_subquery_parent_customer") })]
  origin := some (.container "orders" "root_orders")
  predicate := some <| .and [
    .existsIn ⟨"root_orders", ["lines"]⟩ "nested_element_1" <| some <| .and [
      .test "nested_element_1" tagChain
        (.compare ⟨"eq", "=", true, false⟩ (.literal (.string tag))),
      .test "nested_element_1" tagChain
        (.compare ⟨"startswith", "STARTSWITH", false, false⟩ (.literal (.string tag)))],
    .test "root_orders" (.property "customer" (.scalar (some "name") "String"))
      (.compare ⟨"eq", "=", true, false⟩ (.literal (.string tag))),
    .or [
      idTest ⟨"eq", "=", true, false⟩ (.literal (.string first)),
      idTest ⟨"eq", "=", true, false⟩ (.literal (.string second)),
      idTest ⟨"gt", ">", true, false⟩ (.literal (.string first))],
    idTest ⟨"neq", "!=", true, false⟩ (.variable "id")]

/-- The same condition stands beside a selection of an array of arrays. -/
def searching : QueryRequest :=
  { filtered "red" "a" "b" with
    query := { (filtered "red" "a" "b").query with fields := some fields } }

def searchingStatement : Select :=
  { filteredStatement "red" "a" "b" with columns }

end DocumentQuery.Sample
