/-
This file says when a statement is well typed against a schema, given the types of the aliases in
scope.
-/

import DocumentQuery.Proofs.Resolution
import DocumentQuery.Operator
import DocumentQuery.Statement.Select

namespace DocumentQuery

/-- A context gives a type to each alias in scope, and the innermost alias comes first. -/
abbrev Context := Table ValueType

variable (schema : Schema) (context : Context)

/-- The path leaves its alias through properties of declared object types only. -/
def Path.HasType (path : Path) (type : ValueType) : Prop :=
  ∃ start, context.entry? path.aliasName = some start ∧ schema.Crosses start path.fields type

/-- The path has an array type with these elements. -/
def Path.HasElements (path : Path) (element : ValueType) : Prop :=
  ∃ type, path.HasType schema context type ∧ type.required = .array element

/-- Each link leaves the type before it through at most one property. A link over an array goes on
from its elements. -/
def Chain.WellTyped : ValueType → Chain → Prop
  | type, .property field next =>
      ∃ reached, schema.Crosses type [field] reached ∧ next.WellTyped reached
  | type, .each field next =>
      ∃ reached element, schema.Crosses type field.toList reached ∧
        reached.required = .array element ∧ next.WellTyped element
  | type, .scalar field scalarType =>
      ∃ reached, schema.Crosses type field.toList reached ∧
        reached.required = .named scalarType .scalar
  | type, .value field => ∃ reached, schema.Crosses type field.toList reached

/-- A column that is compared with has some type. -/
def Comparand.WellTyped : Comparand → Prop
  | .literal _ | .variable _ => True
  | .column path => ∃ type, path.HasType schema context type

/-- A comparison is registered for the scalar type that it is applied to. -/
def Test.WellTyped (scalarType : Option String) : Test → Prop
  | .isNull => True
  | .compare operator comparand =>
      (∃ name operators, scalarType = some name ∧ Operators.ofScalar? name = some operators ∧
        operator ∈ operators.comparisons ∧ operator.isUnary = false) ∧
        comparand.WellTyped schema context

namespace Predicate

mutual

/-- A search binds its alias to an element of the array at its source. -/
def WellTyped (context : Context) : Predicate → Prop
  | .test aliasName chain applied =>
      (∃ type, context.entry? aliasName = some type ∧ chain.WellTyped schema type) ∧
        applied.WellTyped schema context chain.scalarType?
  | .and predicates | .or predicates => WellTypedEach context predicates
  | .not predicate => predicate.WellTyped context
  | .existsIn source _ none => ∃ element, source.HasElements schema context element
  | .existsIn source aliasName (some predicate) =>
      ∃ element, source.HasElements schema context element ∧
        predicate.WellTyped ((aliasName, element) :: context)

def WellTypedEach (context : Context) : List Predicate → Prop
  | [] => True
  | predicate :: rest => predicate.WellTyped context ∧ WellTypedEach context rest

end

end Predicate

/-- A function is registered for the scalar type that it is applied to, and a count takes any
value. -/
def AggregateColumn.WellTyped : AggregateColumn → Prop
  | .starCount => True
  | .count column _ => ∃ type, column.HasType schema context type
  | .function dialectName column =>
      ∃ type scalarType operators function, column.HasType schema context type ∧
        type.required = .named scalarType .scalar ∧
          Operators.ofScalar? scalarType = some operators ∧ function ∈ operators.aggregates ∧
            function.dialectName = dialectName

/-- A container has documents of the object type of its collection. An alias of a value has the
object type of the value, and an alias of elements has their type. -/
def Origin.Binds : Origin → String → ValueType → Prop
  | .container name aliasName, bound, type =>
      bound = aliasName ∧ ∃ collection, schema.collection? name = some collection ∧
        type = .object collection.resultType.base.1
  | .aliased source aliasName, bound, type =>
      bound = aliasName ∧ source.HasType schema context type ∧
        ∃ name object, type.required = .named name .object ∧
          schema.objectType? name = some object
  | .iterated source aliasName, bound, type =>
      bound = aliasName ∧ source.HasElements schema context type

mutual

/-- A path has some type, and a subquery is well typed where it stands. -/
def Projection.WellTyped (context : Context) : Projection → Prop
  | .path path => ∃ type, path.HasType schema context type
  | .aggregate aggregate => aggregate.WellTyped schema context
  | .subquery select => select.WellTyped context

/-- The origin binds the alias of a statement for all of its other parts. -/
def Select.WellTyped (context : Context) : Select → Prop
  | ⟨columns, origin, _, _, _, _, predicate, sortKeys, _, _⟩ =>
      ∃ located aliasName type, origin = some located ∧
        located.Binds schema context aliasName type ∧
          columnsWellTyped ((aliasName, type) :: context) columns ∧
            (∀ condition, predicate = some condition →
              condition.WellTyped schema ((aliasName, type) :: context)) ∧
              ∀ keys, sortKeys = some keys → ∀ key ∈ keys,
                ∃ reached, key.column.HasType schema ((aliasName, type) :: context) reached

def columnsWellTyped (context : Context) : List (String × Projection) → Prop
  | [] => True
  | (_, column) :: rest => column.WellTyped context ∧ columnsWellTyped context rest

end

end DocumentQuery
