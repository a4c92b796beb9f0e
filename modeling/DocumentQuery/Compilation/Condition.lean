/-
This file turns requested expressions into the conditions of a statement.
-/

import DocumentQuery.Compilation.Scope
import DocumentQuery.Operator
import DocumentQuery.Request.Basic
import DocumentQuery.Statement.Predicate

namespace DocumentQuery

/-- A column of a target is looked up in the scope that the target names. -/
structure TargetColumn where
  name : String
  fieldPath : List String
  scope : Scope

namespace ComparisonTarget

def locate (root scope : Scope) : ComparisonTarget → Except Fault TargetColumn
  | .column name fieldPath [] => .ok ⟨name, fieldPath.getD [], scope⟩
  | .column _ _ (_ :: _) => .error .comparisonAcrossRelationships
  | .rootColumn name fieldPath => .ok ⟨name, fieldPath.getD [], root⟩

/-- The result is the alias and the chain that a test is applied to. -/
def chain (schema : Schema) (root scope : Scope) (pathEnd : PathEnd) (target : ComparisonTarget) :
    Except Fault (String × Chain) := do
  let column ← target.locate root scope
  let property ← column.scope.property column.name
  let chain ← Chain.ofColumn schema pathEnd column.name property.type column.fieldPath
  return (column.scope.aliasName, chain)

end ComparisonTarget

def ComparisonOperand.comparand (schema : Schema) (root scope : Scope) :
    ComparisonOperand → Except Fault Comparand
  | .scalar value => .ok (.literal value)
  | .variable name => .ok (.variable name)
  | .column target => do
      let column ← target.locate root scope
      let (path, _) ← column.scope.objectPath schema column.name column.fieldPath
      return .column path

namespace Expression

def checkDepth (depth : Nat) : Except Fault Unit :=
  if depth ≤ maximumNesting then .ok () else .error .deepPredicate

/-- An operator without an operand is no comparison. -/
def comparisonOperator (chain : Chain) (name : String) : Except Fault ComparisonOperator := do
  match chain.scalarType? with
  | none => throw .comparisonWithoutScalar
  | some scalarType =>
      let operator ← Operators.comparison scalarType name
      if operator.isUnary || operator.name = Operators.isNull.name then
        throw (.operatorWithoutValue operator.name)
      return operator

/-- Only an array inside the document can be searched. The result is the path of the array and the
type of its elements. -/
def searched (schema : Schema) (scope : Scope) :
    SearchedCollection → Except Fault (String × Path × ValueType)
  | .related .. => .error .existsOverRelated
  | .unrelated .. => .error .existsOverUnrelated
  | .nested _ (_ :: _) _ => .error .nestedCollectionArguments
  | .nested column [] fieldPath => do
      let (path, type) ← scope.objectPath schema column fieldPath
      match type.required with
      | .array element => return (column, path, element)
      | _ => throw (.nestedCollectionNotArray column)

/-- A condition on elements needs elements that are objects of a known type. -/
def elementScope (schema : Schema) (column aliasName : String) (element : ValueType) :
    Except Fault Scope :=
  match element.required with
  | .named name .object =>
      match schema.objectType? name with
      | some object => .ok ⟨aliasName, name, object⟩
      | none => .error (.nestedCollectionOfNonObjects column)
  | _ => .error (.nestedCollectionOfNonObjects column)

def elementAlias (number : Nat) : String :=
  "nested_element_" ++ toString number

mutual

/-- The count is the number of elements that have an alias already. -/
def predicate (schema : Schema) (root scope : Scope) (depth count : Nat) :
    Expression → Except Fault (Predicate × Nat)
  | .and expressions => do
      checkDepth depth
      let (predicates, count) ← predicates schema root scope (depth + 1) count expressions
      return (.and predicates, count)
  | .or expressions => do
      checkDepth depth
      let (predicates, count) ← predicates schema root scope (depth + 1) count expressions
      return (.or predicates, count)
  | .not expression => do
      checkDepth depth
      let (predicate, count) ← predicate schema root scope (depth + 1) count expression
      return (.not predicate, count)
  | .isNull target => do
      checkDepth depth
      let (aliasName, chain) ← target.chain schema root scope .anyValue
      return (.test aliasName chain .isNull, count)
  | .compare target name operand => do
      checkDepth depth
      let (aliasName, chain) ← target.chain schema root scope .scalar
      let operator ← comparisonOperator chain name
      let comparand ← operand.comparand schema root scope
      return (.test aliasName chain (.compare operator comparand), count)
  | .existsIn collection none => do
      checkDepth depth
      let (_, source, _) ← searched schema scope collection
      return (.existsIn source (elementAlias (count + 1)) none, count + 1)
  | .existsIn collection (some condition) => do
      checkDepth depth
      let (column, source, element) ← searched schema scope collection
      let aliasName := elementAlias (count + 1)
      let inner ← elementScope schema column aliasName element
      let (predicate, count) ← predicate schema root inner (depth + 1) (count + 1) condition
      return (.existsIn source aliasName (some predicate), count)

def predicates (schema : Schema) (root scope : Scope) (depth count : Nat) :
    List Expression → Except Fault (List Predicate × Nat)
  | [] => .ok ([], count)
  | expression :: rest => do
      let (first, count) ← predicate schema root scope depth count expression
      let (others, count) ← predicates schema root scope depth count rest
      return (first :: others, count)

end

/-- The outermost expression stands at depth one in the scope of the root. -/
def condition (schema : Schema) (root : Scope) (expression : Expression) :
    Except Fault Predicate :=
  (predicate schema root root 1 0 expression).map Prod.fst

end Expression

end DocumentQuery
