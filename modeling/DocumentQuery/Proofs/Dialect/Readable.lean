/-
This file says which trees of the query dialect can be read from their tokens.
-/

import DocumentQuery.Proofs.Dialect.Reader

namespace DocumentQuery.Dialect

/-- Property names are safe, and only those that are keywords need brackets. -/
def PathReadable (path : Path) : Prop :=
  Identifier.isPlain path.aliasName ∧ ∀ field ∈ path.fields, Identifier.isSafe field

/-- The alias of the variables can stand at the start of a path. -/
theorem variablesAlias_plain : Identifier.isPlain variablesAlias := by decide +kernel

/-- No column is looked up in the joined variables. -/
def Operand.Readable : Operand → Prop
  | .path column => PathReadable column ∧ column.aliasName ≠ variablesAlias
  | .parameter name => isParameter name
  | .variable _ => True

namespace Condition

mutual

/-- Names are plain, and operators are those of the dialect. -/
def Readable : Condition → Prop
  | .all conditions | .any conditions => ReadableEach conditions
  | .not condition => condition.Readable
  | .existsIn _ aliasName source none => Identifier.isPlain aliasName ∧ PathReadable source
  | .existsIn _ aliasName source (some condition) =>
      Identifier.isPlain aliasName ∧ PathReadable source ∧ condition.Readable
  | .compare operator left right =>
      operator ∈ comparisonOperators ∧ left.Readable ∧ right.Readable
  | .call function operands =>
      Identifier.isPlain function ∧ operands ≠ [] ∧ ∀ operand ∈ operands, operand.Readable

def ReadableEach : List Condition → Prop
  | [] => True
  | condition :: rest => condition.Readable ∧ ReadableEach rest

end

end Condition

def AggregateCall.Readable : AggregateCall → Prop
  | .call function column => Identifier.isPlain function ∧ PathReadable column
  | .distinctCount column => PathReadable column
  | .countAll => True

def OriginReadable : Origin → Prop
  | .container name aliasName => Identifier.isPlain name ∧ Identifier.isPlain aliasName
  | .aliased source aliasName | .iterated source aliasName =>
      PathReadable source ∧ Identifier.isPlain aliasName

/-- An ordering has a key, and every part of the clauses can be read. -/
structure Clauses.Readable (clauses : Clauses) : Prop where
  origin : ∀ origin, clauses.origin = some origin → OriginReadable origin
  joins : ∀ join ∈ clauses.joins, Identifier.isPlain join.aliasName ∧ isParameter join.parameter
  condition : ∀ condition, clauses.condition = some condition → condition.Readable
  sortKeys : ∀ keys, clauses.sortKeys = some keys →
    keys ≠ [] ∧ ∀ key ∈ keys, PathReadable key.column

/-- An aggregate is read in other places than the other items. -/
def Item.IsAggregate : Item → Prop
  | .aggregate _ => True
  | .path _ | .orNull _ | .array _ | .single _ => False

/-- Only an item that follows its alias may be an aggregate, and only a plain alias follows an
item. -/
def EntryReadable (form : ProjectionForm) (aliasName : Option String) (item : Item) : Prop :=
  match form with
  | .empty => False
  | .values => aliasName = none ∧ ¬ item.IsAggregate
  | .aliased => ∃ name, aliasName = some name ∧ Identifier.isPlain name
  | .keyed => (∃ name, aliasName = some name) ∧ ¬ item.IsAggregate

/-- A value is written alone. -/
def CountReadable (form : ProjectionForm) (count : Nat) : Prop :=
  match form with
  | .empty => count = 0
  | .values => count = 1
  | .aliased | .keyed => 1 ≤ count

mutual

def Item.Readable : Item → Prop
  | .path column | .orNull column => PathReadable column
  | .aggregate call => call.Readable
  | .array query | .single query => query.Readable

/-- Every entry of a query fits its form. -/
def Query.Readable : Query → Prop
  | ⟨form, items, clauses⟩ =>
      CountReadable form items.length ∧ ReadableItems form items ∧ clauses.Readable

def ReadableItems (form : ProjectionForm) : List (Option String × Item) → Prop
  | [] => True
  | (aliasName, item) :: rest =>
      EntryReadable form aliasName item ∧ item.Readable ∧ ReadableItems form rest

end

end DocumentQuery.Dialect
