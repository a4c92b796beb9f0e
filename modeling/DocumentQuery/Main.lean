/-
This file is the program of the command line.
-/

import DocumentQuery.CommandLine.Command

namespace DocumentQuery

def FileFailure.ofError : IO.Error → FileFailure
  | .noFileOrDirectory .. => .missing
  | .inappropriateType .. => .notDirectory
  | error => .other (toString error)

/-- The system answers reads, writes and variable names. -/
def systemHost : Host IO where
  read path := do
    match ← (IO.FS.readFile path).toBaseIO with
    | .ok content => return .ok content
    | .error error => return .error (.ofError error)
  write path content := do
    match ← (IO.FS.writeFile path content).toBaseIO with
    | .ok () => return true
    | .error _ => return false
  lookUp name := IO.getEnv name

end DocumentQuery

def main (arguments : List String) : IO UInt32 := do
  let outcome ← (DocumentQuery.Invocation.ofArguments arguments).perform
    DocumentQuery.systemHost
  IO.print outcome.output
  IO.eprint outcome.diagnostics
  return outcome.exitCode
