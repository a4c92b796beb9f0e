/-
This file lists the reasons for which a request is refused and the report that each one makes.
-/

namespace DocumentQuery

/-- The kind says whether the request is wrong, asks for too much or meets a broken schema. -/
inductive RefusalKind where
  | badRequest
  | notSupported
  | internal
  deriving DecidableEq, Repr

structure Refusal where
  kind : RefusalKind
  message : String
  deriving DecidableEq, Repr

namespace Refusal

/-- A context says which part of the request was being read. -/
def within (refusal : Refusal) (context : String) : Refusal :=
  ⟨refusal.kind, context ++ ": " ++ refusal.message⟩

def display (refusal : Refusal) : String :=
  match refusal.kind with
  | .badRequest => "Bad request: " ++ refusal.message
  | .notSupported => "Not supported: " ++ refusal.message
  | .internal => "Internal server error: " ++ refusal.message

/-- Internal errors are not shown to the caller. -/
def userMessage (refusal : Refusal) : String :=
  match refusal.kind with
  | .badRequest | .notSupported => refusal.message
  | .internal => "Internal server error"

end Refusal

/-- Field paths, nested selections and predicates are at most this deep. -/
def maximumNesting : Nat := 32

inductive Fault where
  | unreadableRequest
  | unknownCollection (name : String)
  | collectionArguments
  | collectionRelationships
  | missingResultType (name : String)
  | aggregatesWithFields
  | deepSelection
  | deepPredicate
  | longFieldPath
  | relationshipField (relationship : String)
  | unknownField (field objectType : String)
  | unknownNestedField (field objectType : String)
  | unknownObjectType (name : String)
  | fieldPathEndsAtObject (objectType : String)
  | fieldPathThroughScalar
  | fieldPathThroughArray (path : List String)
  | selectionMismatch (field : String)
  | elementSelectionMismatch (aliasName : String)
  | aggregateAlias (aliasName : String)
  | aggregateOfNonScalar (function column : String)
  | unsupportedAggregate (function scalarType : String)
  | unsupportedComparison (operator scalarType : String)
  | orderByRelated
  | orderByAggregate
  | comparisonAcrossRelationships
  | comparisonWithoutScalar
  | operatorWithoutValue (operator : String)
  | existsOverRelated
  | existsOverUnrelated
  | nestedCollectionArguments
  | nestedCollectionNotArray (column : String)
  | nestedCollectionOfNonObjects (column : String)
  | missingVariables
  | selecting (aliasName : String) (fault : Fault)
  deriving DecidableEq, Repr

namespace Fault

def levels : String :=
  toString maximumNesting

/-- The fault inside a selection decides the kind. -/
def refusal : Fault → Refusal
  | .unreadableRequest => ⟨.badRequest, "Invalid query request"⟩
  | .unknownCollection name =>
      ⟨.badRequest, "Couldn't find collection '" ++ name ++ "' in the schema"⟩
  | .collectionArguments => ⟨.badRequest, "Collection arguments are not supported"⟩
  | .collectionRelationships => ⟨.badRequest, "Collection relationships are not supported"⟩
  | .missingResultType name =>
      ⟨.internal, "Couldn't find the schema of the object type '" ++ name ++ "'"⟩
  | .aggregatesWithFields =>
      ⟨.notSupported, "Aggregates and fields cannot be requested together"⟩
  | .deepSelection =>
      ⟨.badRequest, "Selection is nested deeper than the maximum of " ++ levels ++ " levels"⟩
  | .deepPredicate =>
      ⟨.badRequest, "Predicate is nested deeper than the maximum of " ++ levels ++ " levels"⟩
  | .longFieldPath =>
      ⟨.badRequest, "Field path is longer than the maximum of " ++ levels ++ " fields"⟩
  | .relationshipField relationship =>
      ⟨.notSupported, "Relationship '" ++ relationship ++
        "' can't be selected: relationships are not supported"⟩
  | .unknownField field objectType =>
      ⟨.badRequest, "Couldn't find field '" ++ field ++ "' in object type '" ++ objectType ++ "'"⟩
  | .unknownNestedField field objectType =>
      ⟨.notSupported,
        "Couldn't find field '" ++ field ++ "' in object type '" ++ objectType ++ "'"⟩
  | .unknownObjectType name => ⟨.badRequest, "Couldn't find object type '" ++ name ++ "'"⟩
  | .fieldPathEndsAtObject objectType =>
      ⟨.badRequest, "Field path ends at an object of type '" ++ objectType ++
        "' rather than a scalar"⟩
  | .fieldPathThroughScalar => ⟨.badRequest, "scalar field cannot have nested fields"⟩
  | .fieldPathThroughArray path =>
      ⟨.notSupported, "Field path '" ++ String.intercalate "." path ++ "' crosses an array"⟩
  | .selectionMismatch field =>
      ⟨.badRequest, "The nested selection of '" ++ field ++ "' doesn't match its type"⟩
  | .elementSelectionMismatch aliasName =>
      ⟨.badRequest, "The nested selection of array elements bound to '" ++ aliasName ++
        "' doesn't match their type"⟩
  | .aggregateAlias aliasName =>
      ⟨.badRequest, "'" ++ aliasName ++ "' can't be used as an aggregate alias"⟩
  | .aggregateOfNonScalar function column =>
      ⟨.badRequest, "Aggregate function '" ++ function ++
        "' can only be applied to a scalar, and '" ++ column ++ "' is not one"⟩
  | .unsupportedAggregate function scalarType =>
      ⟨.badRequest, "Aggregate function '" ++ function ++
        "' is not supported on scalar type '" ++ scalarType ++ "'"⟩
  | .unsupportedComparison operator scalarType =>
      ⟨.badRequest, "Comparison operator '" ++ operator ++
        "' is not supported on scalar type '" ++ scalarType ++ "'"⟩
  | .orderByRelated =>
      ⟨.notSupported, "Ordering by a column of a related collection is not supported"⟩
  | .orderByAggregate => ⟨.notSupported, "Ordering by an aggregate is not supported"⟩
  | .comparisonAcrossRelationships =>
      ⟨.notSupported, "Comparisons across relationships are not supported"⟩
  | .comparisonWithoutScalar => ⟨.internal, "Comparison target doesn't end at a scalar"⟩
  | .operatorWithoutValue operator =>
      ⟨.badRequest, "Operator '" ++ operator ++
        "' takes no value and can't be used as a binary comparison"⟩
  | .existsOverRelated =>
      ⟨.notSupported, "Exists over related collections is not supported"⟩
  | .existsOverUnrelated =>
      ⟨.notSupported, "Exists over unrelated collections is not supported"⟩
  | .nestedCollectionArguments => ⟨.badRequest, "Nested collections don't accept arguments"⟩
  | .nestedCollectionNotArray column =>
      ⟨.badRequest, "Nested collection '" ++ column ++ "' is not an array"⟩
  | .nestedCollectionOfNonObjects column =>
      ⟨.badRequest, "Elements of nested collection '" ++ column ++ "' are not objects"⟩
  | .missingVariables =>
      ⟨.badRequest, "The query refers to variables, but no variables were supplied"⟩
  | .selecting aliasName fault => fault.refusal.within ("Selecting '" ++ aliasName ++ "'")

end Fault

end DocumentQuery
