/-
This file states the rules of well-formed requests without reference to their compilation.
-/

import DocumentQuery.Compilation.Statement
import DocumentQuery.Proofs.Compilation.Condition

namespace DocumentQuery

/-- A field path may pass through arrays when each field is a property of the declared object type
inside the wrappers before it. -/
inductive Schema.Reaches (schema : Schema) : ValueType → List String → ValueType → Prop
  | here (type : ValueType) : Reaches schema type [] type
  | field {type last : ValueType} {name field : String} {property : Property} {rest : List String}
      (inside : type.base = (name, .object))
      (located : schema.nested? name field = some property)
      (onward : Reaches schema property.type rest last) : Reaches schema type (field :: rest) last

namespace ObjectType

/-- A column is followed through objects only. -/
def Crosses (schema : Schema) (object : ObjectType) (column : String) (fieldPath : List String)
    (last : ValueType) : Prop :=
  fieldPath.length ≤ maximumNesting ∧
    ∃ property, object.property? column = some property ∧
      schema.Crosses property.type fieldPath last

/-- A column is followed through objects and arrays. -/
def Reaches (schema : Schema) (object : ObjectType) (column : String) (fieldPath : List String)
    (last : ValueType) : Prop :=
  fieldPath.length ≤ maximumNesting ∧
    ∃ property, object.property? column = some property ∧
      schema.Reaches property.type fieldPath last

end ObjectType

namespace Operators

/-- The scalar type has a binary operator of this name. -/
def Compares (scalarType name : String) : Prop :=
  ∃ operators operator, ofScalar? scalarType = some operators ∧ operator ∈ operators.comparisons ∧
    operator.name = name ∧ operator.isUnary = false

/-- The scalar type has a function of this name. -/
def Aggregates (scalarType name : String) : Prop :=
  ∃ operators function, ofScalar? scalarType = some operators ∧ function ∈ operators.aggregates ∧
    function.name = name

end Operators

section Predicates

variable (schema : Schema) (root here : ObjectType)

/-- A value can be compared when the path ends at scalars, perhaps inside arrays. -/
def ComparisonTarget.WellFormedFor (name : String) (target : ComparisonTarget) : Prop :=
  target.IsDirect ∧ ∃ last scalarType,
    (target.among root here).Reaches schema target.columnName target.fields last ∧
      last.base = (scalarType, .scalar) ∧ Operators.Compares scalarType name

/-- A null check takes whatever the path ends at. -/
def ComparisonTarget.WellFormed (target : ComparisonTarget) : Prop :=
  target.IsDirect ∧ ∃ last,
    (target.among root here).Reaches schema target.columnName target.fields last

/-- An operand that is a column is reached through objects only. -/
def ComparisonOperand.WellFormed : ComparisonOperand → Prop
  | .scalar _ | .variable _ => True
  | .column target =>
      target.IsDirect ∧ ∃ last,
        (target.among root here).Crosses schema target.columnName target.fields last

/-- Only an array inside the document can be searched, and without arguments. -/
def SearchedCollection.HasElements (element : ValueType) : SearchedCollection → Prop
  | .related .. | .unrelated .. => False
  | .nested column arguments fieldPath =>
      arguments = [] ∧ ∃ last, here.Crosses schema column fieldPath last ∧
        last.required = .array element

end Predicates

namespace Expression

mutual

/-- A condition on elements needs elements of a declared object type. -/
def WellFormed (schema : Schema) (root here : ObjectType) : Expression → Prop
  | .and expressions | .or expressions => AllWellFormed schema root here expressions
  | .not expression => WellFormed schema root here expression
  | .isNull target => target.WellFormed schema root here
  | .compare target name operand =>
      target.WellFormedFor schema root here name ∧ operand.WellFormed schema root here
  | .existsIn collection none => ∃ element, collection.HasElements schema here element
  | .existsIn collection (some expression) =>
      ∃ element name object, collection.HasElements schema here element ∧
        element.required = .named name .object ∧ schema.objectType? name = some object ∧
          WellFormed schema root object expression

def AllWellFormed (schema : Schema) (root here : ObjectType) : List Expression → Prop
  | [] => True
  | expression :: rest =>
      WellFormed schema root here expression ∧ AllWellFormed schema root here rest

end

mutual

/-- A comparison, a null check or an empty search is one level of an expression. -/
def levels : Expression → Nat
  | .and expressions | .or expressions => mostLevels expressions + 1
  | .not expression => expression.levels + 1
  | .isNull _ | .compare .. | .existsIn _ none => 1
  | .existsIn _ (some expression) => expression.levels + 1

def mostLevels : List Expression → Nat
  | [] => 0
  | expression :: rest => max expression.levels (mostLevels rest)

end

def ComparesVariable : ComparisonOperand → Prop
  | .variable _ => True
  | .scalar _ | .column _ => False

mutual

/-- An expression uses variables when it compares with one anywhere. -/
def UsesVariable : Expression → Prop
  | .and expressions | .or expressions => SomeUsesVariable expressions
  | .not expression => UsesVariable expression
  | .isNull _ | .existsIn _ none => False
  | .compare _ _ operand => ComparesVariable operand
  | .existsIn _ (some expression) => UsesVariable expression

def SomeUsesVariable : List Expression → Prop
  | [] => False
  | expression :: rest => UsesVariable expression ∨ SomeUsesVariable rest

end

end Expression

namespace Selection

mutual

/-- A field selects a declared property, and no relationship is selected. -/
def FieldWellFormed (schema : Schema) (object : ObjectType) : Field → Prop
  | .relationship .. => False
  | .column column none => ∃ property, object.property? column = some property
  | .column column (some nested) =>
      ∃ property, object.property? column = some property ∧ WellFormed schema property.type nested

/-- A selection has the shape of its type. -/
def WellFormed (schema : Schema) (type : ValueType) : Selection → Prop
  | .object fields =>
      ∃ name object, type.required = .named name .object ∧ schema.objectType? name = some object ∧
        RowWellFormed schema object fields
  | .array elements =>
      ∃ element, type.required = .array element ∧ WellFormed schema element elements

def RowWellFormed (schema : Schema) (object : ObjectType) : List (String × Field) → Prop
  | [] => True
  | (_, field) :: rest => FieldWellFormed schema object field ∧ RowWellFormed schema object rest

end

mutual

def fieldLevels : Field → Nat
  | .column _ (some nested) => levels nested
  | .column _ none | .relationship .. => 0

/-- The levels are the statements that are nested. An array and the objects in it share one. -/
def levels : Selection → Nat
  | .object fields => rowLevels fields + 1
  | .array elements => elementLevels elements

/-- Elements that are arrays again are one level deeper. -/
def elementLevels : Selection → Nat
  | .object fields => rowLevels fields + 1
  | .array elements => elementLevels elements + 1

def rowLevels : List (String × Field) → Nat
  | [] => 0
  | (_, field) :: rest => max (fieldLevels field) (rowLevels rest)

end

end Selection

/-- A function needs a scalar of its type, and a count takes any value that is reached. -/
def Aggregate.WellFormed (schema : Schema) (object : ObjectType) : Aggregate → Prop
  | .starCount => True
  | .columnCount column fieldPath _ => ∃ last, object.Crosses schema column (fieldPath.getD []) last
  | .singleColumn column fieldPath function =>
      ∃ last scalarType, object.Crosses schema column (fieldPath.getD []) last ∧
        last.required = .named scalarType .scalar ∧ Operators.Aggregates scalarType function

/-- Documents are ordered by their own columns. -/
def OrderTarget.WellFormed (schema : Schema) (object : ObjectType) : OrderTarget → Prop
  | .column name fieldPath path =>
      path = [] ∧ ∃ last, object.Crosses schema name (fieldPath.getD []) last
  | .singleColumnAggregate .. | .starCountAggregate .. => False

/-- A query never selects fields beside aggregates, and each of its parts follows its own rules. -/
structure Query.WellFormed (schema : Schema) (object : ObjectType) (query : Query) : Prop where
  oneKind : query.fields = none ∨ query.aggregates = none
  fields : ∀ fields, query.fields = some fields →
    Selection.RowWellFormed schema object fields ∧
      Selection.rowLevels fields + 1 ≤ maximumNesting
  aggregates : ∀ aggregates, query.aggregates = some aggregates →
    ∀ entry ∈ aggregates, Identifier.isPlain entry.1 ∧ entry.2.WellFormed schema object
  predicate : ∀ expression, query.predicate = some expression →
    expression.WellFormed schema object object ∧ expression.levels ≤ maximumNesting
  ordering : ∀ elements, query.orderBy = some elements →
    ∀ element ∈ elements, element.target.WellFormed schema object

def Query.UsesVariable (query : Query) : Prop :=
  ∃ expression, query.predicate = some expression ∧ expression.UsesVariable

namespace QueryRequest

/-- The documents of a collection have the object type of the name inside its result type. -/
def documentType? (schema : Schema) (request : QueryRequest) : Option ObjectType :=
  (schema.collection? request.collection).bind fun collection =>
    schema.objectType? collection.resultType.base.1

/-- A request asks for a known collection, passes no arguments and supplies the variables that it
uses. -/
structure WellFormed (schema : Schema) (request : QueryRequest) : Prop where
  noArguments : request.arguments = []
  noRelationships : request.relationships = []
  query : ∃ object, request.documentType? schema = some object ∧
    request.query.WellFormed schema object
  supplied : request.query.UsesVariable →
    ∃ first rest, request.variableSets = some (first :: rest)

end QueryRequest

end DocumentQuery
