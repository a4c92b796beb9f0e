/-
This file defines the conditions of a statement.
-/

import DocumentQuery.Json.Basic
import DocumentQuery.Operator
import DocumentQuery.Statement.Path

namespace DocumentQuery

inductive Comparand where
  | literal (value : Json)
  | column (path : Path)
  | variable (name : String)
  deriving DecidableEq

inductive Test where
  | isNull
  | compare (operator : ComparisonOperator) (comparand : Comparand)
  deriving DecidableEq

/-- A test is applied at the end of a chain that starts at an alias. -/
inductive Predicate where
  | test (aliasName : String) (chain : Chain) (test : Test)
  | and (predicates : List Predicate)
  | or (predicates : List Predicate)
  | not (predicate : Predicate)
  | existsIn (source : Path) (aliasName : String) (predicate : Option Predicate)

instance : Inhabited Predicate := ⟨.and []⟩

def Test.usesVariables : Test → Bool
  | .compare _ (.variable _) => true
  | .compare _ (.literal _) | .compare _ (.column _) | .isNull => false

namespace Predicate

/-- Values compared along a chain are bound under its leaf. -/
def parameterKey (aliasName : String) (chain : Chain) : String :=
  chain.leaf?.getD aliasName

mutual

def usesVariables : Predicate → Bool
  | .test _ _ applied => applied.usesVariables
  | .and predicates | .or predicates => anyUsesVariables predicates
  | .not predicate => predicate.usesVariables
  | .existsIn _ _ none => false
  | .existsIn _ _ (some predicate) => predicate.usesVariables

def anyUsesVariables : List Predicate → Bool
  | [] => false
  | predicate :: rest => predicate.usesVariables || anyUsesVariables rest

end

end Predicate

end DocumentQuery
