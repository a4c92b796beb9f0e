/-
This file relates the operator names of requests to the operators that the dialect writes.
-/

import DocumentQuery.Proofs.Registry

namespace DocumentQuery

/-- Requests and statements name the same relations in their own ways. -/
inductive Relation where
  | equal
  | different
  | greater
  | less
  | atLeast
  | atMost
  | contains
  | endsWith
  | startsWith
  | fitsPattern
  deriving DecidableEq, Repr

namespace Relation

def requested? : String → Option Relation
  | "eq" => some .equal
  | "neq" => some .different
  | "gt" => some .greater
  | "lt" => some .less
  | "gte" => some .atLeast
  | "lte" => some .atMost
  | "contains" => some .contains
  | "endswith" => some .endsWith
  | "startswith" => some .startsWith
  | "regexmatch" => some .fitsPattern
  | _ => none

/-- The dialect writes some relations between their operands and the others as functions. -/
def written? (isBetween : Bool) (text : String) : Option Relation :=
  match isBetween, text with
  | true, "=" => some .equal
  | true, "!=" => some .different
  | true, ">" => some .greater
  | true, "<" => some .less
  | true, ">=" => some .atLeast
  | true, "<=" => some .atMost
  | false, "CONTAINS" => some .contains
  | false, "ENDSWITH" => some .endsWith
  | false, "STARTSWITH" => some .startsWith
  | false, "REGEXMATCH" => some .fitsPattern
  | _, _ => none

end Relation

namespace Operators

/-- The registry writes each requested name as the operator of the same relation. -/
theorem comparison_relation {scalarType name : String} {operator : ComparisonOperator}
    (found : comparison scalarType name = .ok operator) :
    Relation.written? operator.isBetween operator.dialectName = Relation.requested? name := by
  obtain ⟨rfl, operators, known, member⟩ := comparison_registered found
  have agree : ∀ operator ∈ operators.comparisons,
      Relation.written? operator.isBetween operator.dialectName =
        Relation.requested? operator.name := by
    rcases ofScalar_cases known with rfl | rfl | rfl <;> decide
  exact agree operator member

end Operators

end DocumentQuery
