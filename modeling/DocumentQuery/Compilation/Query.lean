/-
This file writes statements as text with parameters and compiles requests.
-/

import DocumentQuery.Compilation.Statement
import DocumentQuery.Statement.Rendering

namespace DocumentQuery

/-- A parameterized text is ready for the database. -/
structure SqlText where
  query : String
  parameters : List Parameter
  deriving DecidableEq

def SqlText.toJson (text : SqlText) : Json :=
  .object [("query", .string text.query),
    ("parameters", .array (text.parameters.map Parameter.toJson))]

def Draft.finish (draft : Draft) : SqlText :=
  ⟨draft.text, draft.parameters⟩

namespace Select

def usesVariables (select : Select) : Bool :=
  select.predicate.any Predicate.usesVariables

def text (select : Select) : SqlText :=
  (select.write {}).finish

def withVariablesJoin (select : Select) : Select :=
  { select with joins := select.joins ++ [⟨variablesAlias, variablesParameter⟩] }

/-- Variables are bound exactly when the condition of the statement refers to one, after every other
parameter. -/
def textWith (select : Select) (variableSets : Option (List (Table Json))) : Except Fault SqlText :=
  if select.usesVariables then
    match variableSets with
    | some (first :: rest) =>
        let text := select.withVariablesJoin.text
        let batch : Parameter := ⟨variablesParameter, .array ((first :: rest).map .object)⟩
        .ok ⟨text.query, text.parameters ++ [batch]⟩
    | some [] | none => .error .missingVariables
  else .ok select.text

end Select

/-- The result of an aggregate query is one row of aggregates. -/
structure PreparedQuery where
  collection : String
  text : SqlText
  isAggregate : Bool
  deriving DecidableEq

def QueryRequest.compile (schema : Schema) (request : QueryRequest) :
    Except Fault PreparedQuery := do
  let select ← request.statement schema
  let text ← select.textWith request.variableSets
  return ⟨request.collection, text, select.isAggregate⟩

end DocumentQuery
