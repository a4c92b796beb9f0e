/-
This file runs the commands on a host that holds files and variables.
-/

import DocumentQuery.CommandLine.Arguments
import DocumentQuery.Request.Format
import DocumentQuery.Service.Execution

namespace DocumentQuery

/-- A write answers whether it succeeded. -/
structure Host (Effect : Type → Type) where
  read : String → Effect (Except FileFailure String)
  write : String → String → Effect Bool
  lookUp : String → Effect (Option String)

inductive CommandFailure where
  | configuration (failure : ConfigurationFailure)
  | unreadableFile (path : String)
  | unwritableFile (path : String)
  | refused (refusal : Refusal)
  deriving DecidableEq, Repr

def CommandFailure.message : CommandFailure → String
  | .configuration failure => failure.message
  | .unreadableFile path => "Failed to read " ++ path
  | .unwritableFile path => "Failed to write " ++ path
  | .refused refusal => refusal.display

/-- An outcome is what a command leaves on its two streams. -/
structure Outcome where
  exitCode : UInt32 := 0
  output : String := ""
  diagnostics : String := ""
  deriving DecidableEq, Repr

def programName : String := "ndc-cosmos"

def programVersion : String := "0.1.0"

namespace Command

section

variable {Effect : Type → Type} [Monad Effect]

def configurationIn (host : Host Effect) (directory : String) :
    ExceptT CommandFailure Effect Configuration := do
  let path := Configuration.pathIn directory
  let content ← host.read path
  match Configuration.load path content with
  | .ok configuration => return configuration
  | .error failure => throw (.configuration failure)

/-- The text goes to the output file when one is given. -/
def deliver (host : Host Effect) (output : Option String) (text : String) :
    ExceptT CommandFailure Effect Outcome := do
  match output with
  | none => return { output := text ++ "\n" }
  | some path =>
      if ← host.write path (text ++ "\n") then
        return { diagnostics := "Wrote " ++ path ++ "\n" }
      else throw (.unwritableFile path)

def readRequest (host : Host Effect) (path : String) :
    ExceptT CommandFailure Effect QueryRequest := do
  match ← host.read path with
  | .error _ => throw (.unreadableFile path)
  | .ok content =>
      match QueryRequest.ofText? content with
      | none => throw (.refused Fault.unreadableRequest.refusal)
      | some request => return request

def collectionLine (schema : Schema) (name : String) (collection : Collection) : String :=
  let typeName := collection.resultType.base.1
  let count := match schema.objectType? typeName with
    | some object => object.properties.length
    | none => 0
  "  " ++ name ++ " -> " ++ typeName ++ " (" ++ toString count ++ " properties)\n"

/-- The report of a valid configuration lists its collections. -/
def report (configuration : Configuration) : String :=
  "Configuration is valid\n" ++
    "Database '" ++ configuration.connection.database ++ "' at " ++
    configuration.connection.endpoint ++ "\n" ++
    String.join (configuration.schema.collections.map fun (name, collection) =>
      collectionLine configuration.schema name collection)

def performCheck (host : Host Effect) (directory : String) :
    ExceptT CommandFailure Effect Outcome := do
  let configuration ← configurationIn host directory
  let name := configuration.connection.authentication.variableName
  let environment : Environment := match ← host.lookUp name with
    | some value => ({} : Environment).set name value
    | none => {}
  let warning := match configuration.connection.credentials environment with
    | .ok _ => ""
    | .error failure => "warning: " ++ failure.message ++ "\n"
  return { output := report configuration ++ warning }

def performExplain (host : Host Effect) (directory request : String) (output : Option String) :
    ExceptT CommandFailure Effect Outcome := do
  let configuration ← configurationIn host directory
  let request ← readRequest host request
  match request.compile configuration.schema with
  | .error fault => throw (.refused fault.refusal)
  | .ok compiled => deliver host output compiled.text.toJson.indented

def performSchema (host : Host Effect) (directory : String) (output : Option String) :
    ExceptT CommandFailure Effect Outcome := do
  let configuration ← configurationIn host directory
  deliver host output configuration.advertisement.toJson.indented

def perform (host : Host Effect) : Command → Effect Outcome := fun command => do
  let result ← ExceptT.run (match command with
    | .check directory => performCheck host directory
    | .explain directory request output => performExplain host directory request output
    | .schema directory output => performSchema host directory output)
  match result with
  | .ok outcome => return outcome
  | .error failure =>
      return { exitCode := 1, diagnostics := "Error: " ++ failure.message ++ "\n" }

end

end Command

def usage : String :=
  "Usage: " ++ programName ++ " check <config-dir>\n" ++
  "       " ++ programName ++ " explain <config-dir> <request> [-o <file>]\n" ++
  "       " ++ programName ++ " schema <config-dir> [-o <file>]\n"

/-- A misuse ends with the exit code two. -/
def Invocation.perform {Effect : Type → Type} [Monad Effect] (host : Host Effect) :
    Invocation → Effect Outcome
  | .run command => command.perform host
  | .version => pure { output := programName ++ " " ++ programVersion ++ "\n" }
  | .help => pure { output := usage }
  | .misuse => pure { exitCode := 2, diagnostics := usage }

end DocumentQuery
