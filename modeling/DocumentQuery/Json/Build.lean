/-
This file builds document values from options, lists and tables.
-/

import DocumentQuery.Json.Basic

namespace DocumentQuery.Json

variable {Value : Type}

/-- An absent part is null. -/
def ofOption (build : Value → Json) : Option Value → Json
  | none => .null
  | some value => build value

def ofList (build : Value → Json) (values : List Value) : Json :=
  .array (values.map build)

def ofTable (build : Value → Json) (table : Table Value) : Json :=
  .object (table.map fun (name, value) => (name, build value))

def ofNames (names : List String) : Json :=
  ofList .string names

def ofWord (value : UInt32) : Json :=
  .integer value.toNat

end DocumentQuery.Json
