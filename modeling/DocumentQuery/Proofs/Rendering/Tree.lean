/-
This file gives each statement the tree of the query dialect that its text stands for.
-/

import DocumentQuery.Proofs.Dialect.Tree

namespace DocumentQuery

/-- A literal stands for the parameter that is bound to it. -/
def Comparand.operand (key : String) : Comparand → Draft → Dialect.Operand × Draft
  | .literal value, draft =>
      let (next, index) := draft.bindValue (Draft.cleanKey key) value
      (.parameter (Draft.parameterName (Draft.cleanKey key) index), next)
  | .column path, draft => (.path path, draft)
  | .variable name, draft => (.variable name, draft)

/-- Operands bind values, but they number no elements. -/
theorem Comparand.operand_elements (comparand : Comparand) (key : String) (draft : Draft) :
    (comparand.operand key draft).2.elements = draft.elements := by
  cases comparand with
  | column path => rfl
  | «variable» name => rfl
  | literal value =>
      simp only [operand, Draft.bindValue]
      split <;> rfl

/-- An operator stands between its operands, or it is a function that is called with them. -/
def Test.condition (path : Path) (key : String) : Test → Draft → Dialect.Condition × Draft
  | .isNull, draft => (.call "IS_NULL" [.path path], draft)
  | .compare operator comparand, draft =>
      let (operand, draft) := comparand.operand key draft
      if operator.isBetween then (.compare operator.dialectName (.path path) operand, draft)
      else (.call operator.dialectName [.path path, operand], draft)

/-- A link over an array is a bare search of its elements. -/
def Chain.condition (test : Test) (key : String) (path : Path) :
    Chain → Draft → Dialect.Condition × Draft
  | .property field next, draft => next.condition test key (path.step field) draft
  | .each field next, draft =>
      let (aliasName, draft) := draft.nextElement
      let (condition, draft) := next.condition test key (.ofAlias aliasName) draft
      (.existsIn true aliasName (path.stepMaybe field) (some condition), draft)
  | .scalar field _, draft => test.condition (path.stepMaybe field) key draft
  | .value field, draft => test.condition (path.stepMaybe field) key draft

namespace Predicate

mutual

/-- The condition of a predicate has the names that the draft gives out for it. -/
def condition : Predicate → Draft → Dialect.Condition × Draft
  | .test aliasName chain applied, draft =>
      chain.condition applied (parameterKey aliasName chain) (.ofAlias aliasName) draft
  | .and predicates, draft =>
      let (conditions, draft) := conditions predicates draft
      (.all conditions, draft)
  | .or predicates, draft =>
      let (conditions, draft) := conditions predicates draft
      (.any conditions, draft)
  | .not predicate, draft =>
      let (condition, draft) := predicate.condition draft
      (.not condition, draft)
  | .existsIn source aliasName none, draft => (.existsIn false aliasName source none, draft)
  | .existsIn source aliasName (some predicate), draft =>
      let (condition, draft) := predicate.condition draft
      (.existsIn false aliasName source (some condition), draft)

def conditions : List Predicate → Draft → List Dialect.Condition × Draft
  | [], draft => ([], draft)
  | predicate :: rest, draft =>
      let (condition, draft) := predicate.condition draft
      let (others, draft) := conditions rest draft
      (condition :: others, draft)

end

end Predicate

/-- The count of a column is the function of that name. -/
def AggregateColumn.call : AggregateColumn → Dialect.AggregateCall
  | .count column distinct => if distinct then .distinctCount column else .call "COUNT" column
  | .function dialectName column => .call dialectName column
  | .starCount => .countAll

namespace Select

/-- A missing offset is zero and a missing limit is the largest one when the other is given. -/
def page (select : Select) : Option (Nat × Nat) :=
  match select.offset, select.limit with
  | none, none => none
  | offset, limit => some (offset.elim 0 UInt32.toNat, limit.elim 2147483647 UInt32.toNat)

def condition? (select : Select) (draft : Draft) : Option Dialect.Condition × Draft :=
  match select.predicate with
  | none => (none, draft)
  | some predicate =>
      let (condition, draft) := predicate.condition draft
      (some condition, draft)

/-- Only the condition takes names from the draft. -/
def clauses (select : Select) (draft : Draft) : Dialect.Clauses × Draft :=
  let (condition, draft) := select.condition? draft
  (⟨select.origin, select.joins, condition, select.sortKeys, select.page⟩, draft)

/-- The alias of an item is left out when the item is the value itself. -/
def itemAlias (form : ProjectionForm) (aliasName : String) : Option String :=
  if form = .values then none else some aliasName

mutual

/-- Only a bare value is written without the null it falls back to. -/
def item (form : ProjectionForm) : Projection → Draft → Dialect.Item × Draft
  | .path path, draft => (if form = .values then .path path else .orNull path, draft)
  | .aggregate aggregate, draft => (.aggregate aggregate.call, draft)
  | .subquery select, draft =>
      let (query, draft) := select.query draft
      (if select.asArray then .array query else .single query, draft)

/-- The items take their names from the draft before the clauses do. -/
def query : Select → Draft → Dialect.Query × Draft
  | ⟨columns, origin, asValue, asArray, isAggregate, joins, predicate, sortKeys, offset, limit⟩,
      draft =>
      let select : Select := ⟨columns, origin, asValue, asArray, isAggregate, joins, predicate,
        sortKeys, offset, limit⟩
      let (items, draft) := items select.form columns draft
      let (clauses, draft) := select.clauses draft
      (⟨select.form, items, clauses⟩, draft)

def items (form : ProjectionForm) :
    List (String × Projection) → Draft → List (Option String × Dialect.Item) × Draft
  | [], draft => ([], draft)
  | (aliasName, column) :: rest, draft =>
      let (first, draft) := item form column draft
      let (others, draft) := items form rest draft
      ((itemAlias form aliasName, first) :: others, draft)

end

end Select

end DocumentQuery
