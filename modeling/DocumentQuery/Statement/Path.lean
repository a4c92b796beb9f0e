/-
This file defines the paths of a statement: through objects only, and through arrays as well.
-/

namespace DocumentQuery

/-- A path goes from an alias through properties of objects. -/
structure Path where
  aliasName : String
  fields : List String
  deriving DecidableEq, Repr

namespace Path

def ofAlias (aliasName : String) : Path :=
  ⟨aliasName, []⟩

def step (path : Path) (field : String) : Path :=
  ⟨path.aliasName, path.fields ++ [field]⟩

def stepMaybe (path : Path) : Option String → Path
  | none => path
  | some field => path.step field

end Path

/-- A chain goes from a column to the value that a test looks at. A link over an array continues
from each element, and a link without a field stays where it is. -/
inductive Chain where
  | property (field : String) (next : Chain)
  | each (field : Option String) (next : Chain)
  | scalar (field : Option String) (scalarType : String)
  | value (field : Option String)
  deriving DecidableEq, Repr

namespace Chain

def scalarType? : Chain → Option String
  | .property _ next | .each _ next => next.scalarType?
  | .scalar _ scalarType => some scalarType
  | .value _ => none

/-- The leaf is the innermost field that is named. -/
def leaf? : Chain → Option String
  | .property field next => next.leaf?.or (some field)
  | .each field next => next.leaf?.or field
  | .scalar field _ | .value field => field

end Chain

end DocumentQuery
