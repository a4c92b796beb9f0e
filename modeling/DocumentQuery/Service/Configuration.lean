/-
This file defines the configuration of a service and the credentials of its connection.
-/

import DocumentQuery.Schema.Format
import DocumentQuery.Schema.Validation
import DocumentQuery.Service.Environment
import DocumentQuery.Text.Diagnostic

namespace DocumentQuery

inductive AuthenticationKind where
  | key
  | managedIdentity
  deriving DecidableEq, Repr

/-- The secret itself stays in the environment, under the name of this variable. -/
structure Authentication where
  kind : AuthenticationKind
  variableName : String
  deriving DecidableEq, Repr

structure Connection where
  endpoint : String
  database : String
  authentication : Authentication
  deriving DecidableEq, Repr

structure Configuration where
  connection : Connection
  schema : Schema
  deriving DecidableEq

inductive Credentials where
  | key (secret : String)
  | managedIdentity (client : String)
  deriving DecidableEq, Repr

/-- The description hides a key. -/
def Credentials.description : Credentials → String
  | .key _ => "Key(<redacted>)"
  | .managedIdentity client =>
      "ManagedIdentity \x7b client_id: " ++ Diagnostic.quote client ++ " \x7d"

/-- A file is unreadable for one of these reasons. -/
inductive FileFailure where
  | missing
  | notDirectory
  | isDirectory
  | other (description : String)
  deriving DecidableEq, Repr

def FileFailure.message : FileFailure → String
  | .missing => "No such file or directory (os error 2)"
  | .notDirectory => "Not a directory (os error 20)"
  | .isDirectory => "Is a directory (os error 21)"
  | .other description => description

inductive ConfigurationFailure where
  | unreadableFile (path : String) (reason : FileFailure)
  | unreadableContent (path : String)
  | invalidSchema (violation : SchemaViolation)
  | missingVariable (name : String)
  | conflictingCredentials
  deriving DecidableEq, Repr

def ConfigurationFailure.message : ConfigurationFailure → String
  | .unreadableFile path reason =>
      "Failed to read configuration file " ++ path ++ ": " ++ reason.message
  | .unreadableContent path => "Failed to parse configuration file " ++ path
  | .invalidSchema violation => "Invalid schema: " ++ violation.message
  | .missingVariable name => name ++ " environment variable is not defined"
  | .conflictingCredentials =>
      "Either the AZURE_COSMOS_KEY or the AZURE_COSMOS_MANAGED_CLIENT_ID environment variable " ++
        "is expected, not both"

namespace Authentication

open Source

def variants : Variants :=
  [("Key", ["fromEnvVar"]), ("ManagedIdentity", ["fromEnvVar"])]

def read? : Nat → Source → Option Authentication
  | 0, _ => none
  | room + 1, source => do
      let (tag, fields) ← source.variant? variants false (room + 1)
      let variableName ← fields.required? "fromEnvVar" string?
      match tag with
      | "Key" => return ⟨.key, variableName⟩
      | "ManagedIdentity" => return ⟨.managedIdentity, variableName⟩
      | _ => none

def toJson (authentication : Authentication) : Json :=
  .object [
    ("type", .string (match authentication.kind with
      | .key => "Key"
      | .managedIdentity => "ManagedIdentity")),
    ("fromEnvVar", .string authentication.variableName)]

end Authentication

namespace Connection

open Source

def read? : Nat → Source → Option Connection
  | 0, _ => none
  | room + 1, source => do
      let fields ← source.record? ["endpoint", "databaseName", "authentication"]
      let endpoint ← fields.required? "endpoint" string?
      let database ← fields.required? "databaseName" string?
      let authentication ← fields.required? "authentication" (Authentication.read? room)
      return ⟨endpoint, database, authentication⟩

def toJson (connection : Connection) : Json :=
  .object [("endpoint", .string connection.endpoint),
    ("databaseName", .string connection.database),
    ("authentication", connection.authentication.toJson)]

def ofJson? (value : Json) : Option Connection :=
  read? value.height value.toSource

def endpointVariable : String := "AZURE_COSMOS_ENDPOINT"

def databaseVariable : String := "AZURE_COSMOS_DB_NAME"

def keyVariable : String := "AZURE_COSMOS_KEY"

def clientVariable : String := "AZURE_COSMOS_MANAGED_CLIENT_ID"

def requiredVariable (environment : Environment) (name : String) :
    Except ConfigurationFailure String :=
  match environment.nonEmpty? name with
  | some value => .ok value
  | none => .error (.missingVariable name)

/-- Exactly one of the two credential variables is set. -/
def authenticationOf (environment : Environment) : Except ConfigurationFailure Authentication :=
  match environment.nonEmpty? keyVariable, environment.nonEmpty? clientVariable with
  | some _, some _ => .error .conflictingCredentials
  | some _, none => .ok ⟨.key, keyVariable⟩
  | none, some _ => .ok ⟨.managedIdentity, clientVariable⟩
  | none, none => .error (.missingVariable (keyVariable ++ " or " ++ clientVariable))

def ofEnvironment (environment : Environment) : Except ConfigurationFailure Connection := do
  let endpoint ← requiredVariable environment endpointVariable
  let database ← requiredVariable environment databaseVariable
  return ⟨endpoint, database, ← authenticationOf environment⟩

def credentials (connection : Connection) (environment : Environment) :
    Except ConfigurationFailure Credentials := do
  let secret ← requiredVariable environment connection.authentication.variableName
  match connection.authentication.kind with
  | .key => return .key secret
  | .managedIdentity => return .managedIdentity secret

end Connection

namespace Configuration

open Source

def read? : Nat → Source → Option Configuration
  | 0, _ => none
  | room + 1, source => do
      let fields ← source.record? ["connection", "schema"]
      let connection ← fields.required? "connection" (Connection.read? room)
      let schema ← fields.required? "schema" (Schema.read? room)
      return ⟨connection, schema⟩

def toJson (configuration : Configuration) : Json :=
  .object [("connection", configuration.connection.toJson),
    ("schema", configuration.schema.toJson)]

def ofJson? (value : Json) : Option Configuration :=
  read? value.height value.toSource

def ofText? (text : String) : Option Configuration := do
  read? textRoom (← Source.ofText? text)

def fileName : String := "config.json"

/-- A directory whose name ends with a slash takes no further one. -/
def pathIn (directory : String) : String :=
  if directory.toList.getLast? = some '/' then directory ++ fileName
  else directory ++ "/" ++ fileName

/-- A configuration is taken from the content of the file at the path, and its schema is
validated. -/
def load (path : String) (content : Except FileFailure String) :
    Except ConfigurationFailure Configuration := do
  match content with
  | .error reason => throw (.unreadableFile path reason)
  | .ok text =>
      match ofText? text with
      | none => throw (.unreadableContent path)
      | some configuration =>
          match configuration.schema.validate with
          | .error violation => throw (.invalidSchema violation)
          | .ok () => return configuration

end Configuration

end DocumentQuery
