/-
This file runs compiled queries through an executor and describes them without running them.
-/

import DocumentQuery.Compilation.Query
import DocumentQuery.Schema.Advertisement
import DocumentQuery.Service.Failure

namespace DocumentQuery

/-- A row set holds one row of aggregates or the rows of any other query. -/
inductive RowSet where
  | aggregates (row : Table Json)
  | rows (list : List (Table Json))
  deriving DecidableEq

def RowSet.toJson : RowSet → Json
  | .aggregates row => .object [("aggregates", .object row)]
  | .rows list => .object [("rows", .array (list.map .object))]

/-- An executor answers a text that is run against a container. -/
abbrev Executor (Effect : Type → Type) :=
  String → SqlText → Effect (Except ExecutionFailure (List Json))

/-- An explanation is the text of a query and the text of its parameters. -/
structure Explanation where
  query : String
  parameters : String
  deriving DecidableEq, Repr

def Explanation.toJson (explanation : Explanation) : Json :=
  .object [("details", .object [("SQL Query", .string explanation.query),
    ("Parameters", .string explanation.parameters)])]

def rowOf : Json → Except ExecutionFailure (Table Json)
  | .object members => .ok members
  | other => .error (.unexpectedRow other)

namespace PreparedQuery

/-- Rows after the first one do not matter to an aggregate query. -/
def rowSet (compiled : PreparedQuery) (rows : List Json) : Except ExecutionFailure RowSet :=
  if compiled.isAggregate then
    match rows with
    | [] => .ok (.aggregates [])
    | first :: _ => (rowOf first).map .aggregates
  else (rows.mapM rowOf).map .rows

def explanation (compiled : PreparedQuery) : Explanation :=
  ⟨compiled.text.query,
    (Json.array (compiled.text.parameters.map Parameter.toJson)).compact⟩

end PreparedQuery

namespace Configuration

def compile (configuration : Configuration) (request : QueryRequest) :
    Except ServiceFailure PreparedQuery :=
  (request.compile configuration.schema).mapError fun fault => .compilation fault.refusal

/-- The executor is asked once, and only about a request that compiles. -/
def execute {Effect : Type → Type} [Monad Effect] (configuration : Configuration)
    (executor : Executor Effect) (request : QueryRequest) :
    Effect (Except ServiceFailure (List RowSet)) := do
  match configuration.compile request with
  | .error failure => return .error failure
  | .ok compiled =>
      match ← executor compiled.collection compiled.text with
      | .error failure => return .error (.execution failure)
      | .ok rows =>
          match compiled.rowSet rows with
          | .error failure => return .error (.execution failure)
          | .ok rowSet => return .ok [rowSet]

def explain (configuration : Configuration) (request : QueryRequest) :
    Except ServiceFailure Explanation :=
  (configuration.compile request).map PreparedQuery.explanation

def advertisement (configuration : Configuration) : Advertisement :=
  .ofSchema configuration.schema

end Configuration

/-- A capability without options is written as an empty object. -/
def Json.capability : Json :=
  .object []

/-- These are the parts of the query language that the service takes. -/
def capabilities : Json :=
  .object [
    ("query", .object [("aggregates", .capability), ("variables", .capability),
      ("explain", .capability),
      ("nested_fields", .object [("filter_by", .capability), ("order_by", .capability)])]),
    ("mutation", .object [])]

end DocumentQuery
