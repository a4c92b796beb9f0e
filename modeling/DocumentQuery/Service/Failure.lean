/-
This file collects the failures of a service and what is told about them.
-/

import DocumentQuery.Fault
import DocumentQuery.Json.Printer
import DocumentQuery.Service.Configuration

namespace DocumentQuery

/-- A delegated failure is known by its own text only. -/
inductive ExecutionFailure where
  | query (container message : String)
  | unexpectedRow (row : Json)
  | delegate (description : String)
  deriving DecidableEq

namespace ExecutionFailure

def message : ExecutionFailure → String
  | .query container message =>
      "Query against container '" ++ container ++ "' failed: " ++ message
  | .unexpectedRow row => "Expected each row to be an object, got " ++ row.compact
  | .delegate description => description

/-- The texts run from the failure itself to its innermost cause. -/
def causes (failure : ExecutionFailure) : List String :=
  match failure with
  | .delegate description => [failure.message, description]
  | .query .. | .unexpectedRow _ => [failure.message]

end ExecutionFailure

inductive ServiceFailure where
  | compilation (refusal : Refusal)
  | execution (failure : ExecutionFailure)
  | configuration (failure : ConfigurationFailure)
  deriving DecidableEq

namespace ServiceFailure

def message : ServiceFailure → String
  | .compilation refusal => refusal.display
  | .execution failure => failure.message
  | .configuration failure => failure.message

/-- The status is that of the answer to the client. -/
def status : ServiceFailure → Nat
  | .compilation ⟨.badRequest, _⟩ => 400
  | .compilation ⟨.notSupported, _⟩ => 501
  | .compilation ⟨.internal, _⟩ | .execution _ | .configuration _ => 500

/-- A client learns no detail of a failure that its request did not cause. -/
def userMessage : ServiceFailure → String
  | .compilation refusal => refusal.userMessage
  | .execution _ => "Internal server error"
  | .configuration _ => "Internal server error, server configuration is invalid"

end ServiceFailure

end DocumentQuery
