/-
This file registers the comparison operators and aggregate functions of each scalar type.
-/

import DocumentQuery.Fault
import DocumentQuery.Table

namespace DocumentQuery

/-- An operator is written between its operands or as a function of them. -/
structure ComparisonOperator where
  name : String
  dialectName : String
  isBetween : Bool
  isUnary : Bool
  deriving DecidableEq, Repr

inductive AggregateResult where
  | input
  | scalar (name : String)
  deriving DecidableEq, Repr

structure AggregateFunction where
  name : String
  dialectName : String
  result : AggregateResult
  deriving DecidableEq, Repr

def AggregateFunction.resultName (function : AggregateFunction) (input : String) : String :=
  match function.result with
  | .input => input
  | .scalar name => name

structure Operators where
  comparisons : List ComparisonOperator
  aggregates : List AggregateFunction
  deriving DecidableEq, Repr

namespace Operators

def isNull : ComparisonOperator :=
  ⟨"is_null", "IS_NULL", false, true⟩

def equality : List ComparisonOperator :=
  [⟨"eq", "=", true, false⟩, ⟨"neq", "!=", true, false⟩]

def ordering : List ComparisonOperator :=
  equality ++
    [⟨"gt", ">", true, false⟩, ⟨"lt", "<", true, false⟩, ⟨"gte", ">=", true, false⟩,
      ⟨"lte", "<=", true, false⟩]

def textual : List ComparisonOperator :=
  [⟨"contains", "CONTAINS", false, false⟩, ⟨"endswith", "ENDSWITH", false, false⟩,
    ⟨"startswith", "STARTSWITH", false, false⟩, ⟨"regexmatch", "REGEXMATCH", false, false⟩]

def count : AggregateFunction := ⟨"count", "COUNT", .scalar "Integer"⟩

def sum : AggregateFunction := ⟨"sum", "SUM", .input⟩

def average : AggregateFunction := ⟨"avg", "AVG", .scalar "Number"⟩

def minimum : AggregateFunction := ⟨"min", "MIN", .input⟩

def maximum : AggregateFunction := ⟨"max", "MAX", .input⟩

def ofNumbers : Operators :=
  ⟨isNull :: ordering, [count, sum, average, minimum, maximum]⟩

def ofTexts : Operators :=
  ⟨isNull :: ordering ++ textual, [count, minimum, maximum]⟩

def ofBooleans : Operators :=
  ⟨isNull :: equality, [count]⟩

/-- A declared scalar type has no operators. -/
def registry : Table Operators :=
  [("Integer", ofNumbers), ("Number", ofNumbers), ("String", ofTexts), ("DateTime", ofTexts),
    ("Boolean", ofBooleans)]

def ofScalar? (scalarType : String) : Option Operators :=
  registry.entry? scalarType

def comparison (scalarType name : String) : Except Fault ComparisonOperator :=
  match (ofScalar? scalarType).bind fun operators =>
      operators.comparisons.find? fun operator => operator.name = name with
  | some operator => .ok operator
  | none => .error (.unsupportedComparison name scalarType)

def aggregate (scalarType name : String) : Except Fault AggregateFunction :=
  match (ofScalar? scalarType).bind fun operators =>
      operators.aggregates.find? fun function => function.name = name with
  | some function => .ok function
  | none => .error (.unsupportedAggregate name scalarType)

end Operators

end DocumentQuery
