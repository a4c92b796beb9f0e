/-
This file defines environments as layers of variables.
-/

import DocumentQuery.Table

namespace DocumentQuery

/-- A variable that a layer leaves unset is looked up in the fallbacks, the nearest one first. -/
structure Environment where
  values : Table String := []
  fallbacks : List (Table String) := []
  deriving DecidableEq, Repr

namespace Environment

def layers (environment : Environment) : List (Table String) :=
  environment.values :: environment.fallbacks

def set (environment : Environment) (name value : String) : Environment :=
  { environment with values := environment.values.put name value }

/-- The layers so far become the fallbacks of an empty one. -/
def push (environment : Environment) : Environment :=
  ⟨[], environment.layers⟩

def value? (environment : Environment) (name : String) : Option String :=
  environment.layers.findSome? fun layer => layer.entry? name

/-- An empty value counts as unset. -/
def nonEmpty? (environment : Environment) (name : String) : Option String :=
  (environment.value? name).filter fun value => value ≠ ""

end Environment

end DocumentQuery
