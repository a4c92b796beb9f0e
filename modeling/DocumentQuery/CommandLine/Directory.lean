/-
This file defines directories of files as values, on which commands run without effects.
-/

import DocumentQuery.CommandLine.Command

namespace DocumentQuery

/-- The files are named by their paths from the root. -/
structure Directory where
  root : String
  files : Table String
  environment : Table String := []

namespace Directory

/-- A place is a directory, a file or neither. -/
inductive Place where
  | directory (components : List String)
  | file (name : String)
  | absent (name : Option String)
  | belowFile

def nameOf (components : List String) : String :=
  String.intercalate "/" components

def isDirectory (directory : Directory) (components : List String) : Bool :=
  components.isEmpty ||
    directory.files.any fun file => (nameOf components ++ "/").isPrefixOf file.1

/-- Only the last component of a path may be absent and still name a new file. -/
def step (directory : Directory) (place : Place) (component : String) : Place :=
  match place with
  | .directory components =>
      if component = "" ∨ component = "." then place
      else if component = ".." then
        if components.isEmpty then .absent none else .directory components.dropLast
      else
        let inner := components ++ [component]
        if directory.isDirectory inner then .directory inner
        else match directory.files.entry? (nameOf inner) with
          | some _ => .file (nameOf inner)
          | none => .absent (some (nameOf inner))
  | .file _ | .belowFile => .belowFile
  | .absent _ => .absent none

/-- A path that leaves the root is absent. -/
def place (directory : Directory) (path : String) : Place :=
  let start := directory.root ++ "/"
  if path = directory.root then .directory []
  else if start.isPrefixOf path then
    (((path.drop start.length).toString.splitOn "/")).foldl directory.step (.directory [])
  else if "/".isPrefixOf path then .absent none
  else (path.splitOn "/").foldl directory.step (.directory [])

def read (path : String) : StateM Directory (Except FileFailure String) := do
  let directory ← get
  match directory.place path with
  | .directory _ => return .error .isDirectory
  | .belowFile => return .error .notDirectory
  | .absent _ => return .error .missing
  | .file name =>
      match directory.files.entry? name with
      | some content => return .ok content
      | none => return .error .missing

def write (path content : String) : StateM Directory Bool := do
  let directory ← get
  match directory.place path with
  | .file name | .absent (some name) =>
      set { directory with files := directory.files.put name content }
      return true
  | .directory _ | .belowFile | .absent none => return false

def lookUp (name : String) : StateM Directory (Option String) := do
  return (← get).environment.entry? name

def host : Host (StateM Directory) :=
  ⟨read, write, lookUp⟩

end Directory

end DocumentQuery
