/-
This file defines select statements.
-/

import DocumentQuery.Statement.Predicate

namespace DocumentQuery

inductive AggregateColumn where
  | count (column : Path) (distinct : Bool)
  | function (dialectName : String) (column : Path)
  | starCount
  deriving DecidableEq, Repr

/-- A statement reads a container, one value or each element of an array. -/
inductive Origin where
  | container (name aliasName : String)
  | aliased (source : Path) (aliasName : String)
  | iterated (source : Path) (aliasName : String)
  deriving DecidableEq, Repr

/-- A join binds an alias to each element of an array parameter. -/
structure Join where
  aliasName : String
  parameter : String
  deriving DecidableEq, Repr

structure SortKey where
  column : Path
  descending : Bool
  deriving DecidableEq, Repr

mutual

inductive Projection where
  | path (path : Path)
  | aggregate (aggregate : AggregateColumn)
  | subquery (select : Select)

/-- A value statement yields its columns bare, and an array statement is collected by the statement
around it. -/
structure Select where
  columns : List (String × Projection) := []
  origin : Option Origin := none
  asValue : Bool := false
  asArray : Bool := false
  isAggregate : Bool := false
  joins : List Join := []
  predicate : Option Predicate := none
  sortKeys : Option (List SortKey) := none
  offset : Option UInt32 := none
  limit : Option UInt32 := none

end

instance : Inhabited Select := ⟨{}⟩

end DocumentQuery
