/-
This file defines query requests.
-/

import DocumentQuery.Json.Basic

namespace DocumentQuery

/-- An argument table gives each argument a literal value. -/
abbrev Arguments := Table Json

/-- Some element must be found in this collection. -/
inductive SearchedCollection where
  | related (relationship : String) (arguments : Arguments)
  | unrelated (collection : String) (arguments : Arguments)
  | nested (column : String) (arguments : Arguments) (fieldPath : List String)
  deriving DecidableEq

mutual

inductive Expression where
  | and (expressions : List Expression)
  | or (expressions : List Expression)
  | not (expression : Expression)
  | isNull (target : ComparisonTarget)
  | compare (target : ComparisonTarget) (operator : String) (operand : ComparisonOperand)
  | existsIn (collection : SearchedCollection) (predicate : Option Expression)

/-- A column is looked up in the current scope or in the root collection. -/
inductive ComparisonTarget where
  | column (name : String) (fieldPath : Option (List String)) (path : List PathElement)
  | rootColumn (name : String) (fieldPath : Option (List String))

inductive ComparisonOperand where
  | column (target : ComparisonTarget)
  | scalar (value : Json)
  | variable (name : String)

/-- A relationship is crossed before a column is reached. -/
inductive PathElement where
  | crossing (relationship : String) (arguments : Arguments) (predicate : Option Expression)

end

instance : Inhabited Expression := ⟨.and []⟩

inductive Aggregate where
  | starCount
  | columnCount (column : String) (fieldPath : Option (List String)) (distinct : Bool)
  | singleColumn (column : String) (fieldPath : Option (List String)) (function : String)
  deriving DecidableEq, Repr

inductive OrderDirection where
  | ascending
  | descending
  deriving DecidableEq, Repr

inductive OrderTarget where
  | column (name : String) (fieldPath : Option (List String)) (path : List PathElement)
  | singleColumnAggregate (column function : String) (path : List PathElement)
  | starCountAggregate (path : List PathElement)

structure OrderElement where
  direction : OrderDirection
  target : OrderTarget

mutual

inductive Field where
  | column (column : String) (nested : Option Selection)
  | relationship (query : Query) (relationship : String) (arguments : Arguments)

/-- A selection looks inside an object or an array of values. -/
inductive Selection where
  | object (fields : List (String × Field))
  | array (elements : Selection)

structure Query where
  aggregates : Option (Table Aggregate)
  fields : Option (List (String × Field))
  limit : Option UInt32
  offset : Option UInt32
  orderBy : Option (List OrderElement)
  predicate : Option Expression

end

/-- Each set of variables runs the query once. -/
structure QueryRequest where
  collection : String
  query : Query
  arguments : Arguments
  relationships : Table Json
  variableSets : Option (List (Table Json))

end DocumentQuery
