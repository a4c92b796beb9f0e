/-
This file defines tables, which keep their entries in the order of first insertion.
-/

namespace DocumentQuery

/-- A table lists its entries in order. Its names are distinct when `Table.put` built it. -/
abbrev Table (Value : Type) := List (String × Value)

namespace Table

variable {Value : Type}

def names (table : Table Value) : List String :=
  table.map Prod.fst

def entry? (table : Table Value) (name : String) : Option Value :=
  List.lookup name table

/-- A repeated name keeps its place and takes the later value. -/
def put : Table Value → String → Value → Table Value
  | [], name, value => [(name, value)]
  | (other, old) :: rest, name, value =>
      if other = name then (other, value) :: rest
      else (other, old) :: put rest name value

def ofEntries (entries : List (String × Value)) : Table Value :=
  entries.foldl (fun table entry => put table entry.1 entry.2) []

/-- This predicate holds of the tables that `Table.put` builds. -/
def Distinct (table : Table Value) : Prop :=
  table.names.Nodup

instance (table : Table Value) : Decidable table.Distinct :=
  inferInstanceAs (Decidable (List.Nodup _))

end Table

end DocumentQuery
