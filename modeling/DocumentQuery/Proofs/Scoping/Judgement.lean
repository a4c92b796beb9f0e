/-
This file says when the aliases of a query tree are bound where they are used, and it lists the
aliases that a tree binds.
-/

import DocumentQuery.Proofs.Dialect.Tree

namespace DocumentQuery.Dialect

/-- A path starts at an alias that is in scope. -/
def Operand.Scoped (inScope : List String) : Operand → Prop
  | .path column => column.aliasName ∈ inScope
  | .parameter _ => True
  | .variable _ => variablesAlias ∈ inScope

namespace Condition

mutual

/-- A search binds an alias that is not in scope yet, for its own condition only. -/
def Scoped (inScope : List String) : Condition → Prop
  | .all conditions | .any conditions => ScopedEach inScope conditions
  | .not condition => condition.Scoped inScope
  | .existsIn _ aliasName source none => source.aliasName ∈ inScope ∧ aliasName ∉ inScope
  | .existsIn _ aliasName source (some condition) =>
      (source.aliasName ∈ inScope ∧ aliasName ∉ inScope) ∧ condition.Scoped (inScope ++ [aliasName])
  | .compare _ left right => left.Scoped inScope ∧ right.Scoped inScope
  | .call _ operands => ∀ operand ∈ operands, operand.Scoped inScope

def ScopedEach (inScope : List String) : List Condition → Prop
  | [] => True
  | condition :: rest => condition.Scoped inScope ∧ ScopedEach inScope rest

end

mutual

/-- The aliases are listed in the order in which their searches open in the text. -/
def binders : Condition → List String
  | .all conditions | .any conditions => bindersOfEach conditions
  | .not condition => condition.binders
  | .existsIn _ aliasName _ none => [aliasName]
  | .existsIn _ aliasName _ (some condition) => aliasName :: condition.binders
  | .compare _ _ _ | .call _ _ => []

def bindersOfEach : List Condition → List String
  | [] => []
  | condition :: rest => condition.binders ++ bindersOfEach rest

end

end Condition

/-- A column that is aggregated reads an alias in scope. -/
def AggregateCall.Scoped (inScope : List String) : AggregateCall → Prop
  | .call _ column | .distinctCount column => column.aliasName ∈ inScope
  | .countAll => True

/-- Every origin binds one alias. -/
def originAlias : Origin → String
  | .container _ aliasName | .aliased _ aliasName | .iterated _ aliasName => aliasName

/-- A container is no part of a document, and the other origins start at an alias. -/
def OriginScoped (inScope : List String) : Origin → Prop
  | .container _ _ => True
  | .aliased source _ | .iterated source _ => source.aliasName ∈ inScope

namespace Clauses

/-- The origin and the joins of a query bind aliases for all of its other parts. -/
def aliases (clauses : Clauses) : List String :=
  (clauses.origin.map originAlias).toList ++ clauses.joins.map Join.aliasName

def binders (clauses : Clauses) : List String :=
  clauses.aliases ++ (clauses.condition.map Condition.binders).getD []

/-- The aliases of the clauses are fresh and distinct, and the other clauses may read them. -/
structure Scoped (clauses : Clauses) (inScope : List String) : Prop where
  origin : ∀ origin, clauses.origin = some origin → OriginScoped inScope origin
  fresh : ∀ aliasName ∈ clauses.aliases, aliasName ∉ inScope
  distinct : clauses.aliases.Nodup
  condition : ∀ condition, clauses.condition = some condition →
    condition.Scoped (inScope ++ clauses.aliases)
  sortKeys : ∀ keys, clauses.sortKeys = some keys →
    ∀ key ∈ keys, key.column.aliasName ∈ inScope ++ clauses.aliases

end Clauses

mutual

def Item.Scoped (inScope : List String) : Item → Prop
  | .path column | .orNull column => column.aliasName ∈ inScope
  | .aggregate call => call.Scoped inScope
  | .array query | .single query => query.Scoped inScope

/-- The items of a query may read what its clauses bind. -/
def Query.Scoped (inScope : List String) : Query → Prop
  | ⟨_, items, clauses⟩ =>
      clauses.Scoped inScope ∧ ScopedItems (inScope ++ clauses.aliases) items

def ScopedItems (inScope : List String) : List (Option String × Item) → Prop
  | [] => True
  | (_, item) :: rest => item.Scoped inScope ∧ ScopedItems inScope rest

end

mutual

def Item.binders : Item → List String
  | .path _ | .orNull _ | .aggregate _ => []
  | .array query | .single query => query.binders

/-- The items of a query are written before its clauses. -/
def Query.binders : Query → List String
  | ⟨_, items, clauses⟩ => bindersOfItems items ++ clauses.binders

def bindersOfItems : List (Option String × Item) → List String
  | [] => []
  | (_, item) :: rest => item.binders ++ bindersOfItems rest

end

/-- The aliases of searched elements start like this. -/
def elementStem : String := "nested_element_"

/-- The aliases of arrays inside a chain start like this. -/
def arrayStem : String := "array_element_"

/-- A stemmed name starts with the stem. -/
def Stemmed (stem name : String) : Prop :=
  stem.toList <+: name.toList

instance (stem name : String) : Decidable (Stemmed stem name) :=
  inferInstanceAs (Decidable (_ <+: _))

/-- Every alias is bound where it is used, and none is bound again where it is in scope. The
generated aliases of searches are distinct in the whole text, and those of arrays are numbered in
the order of the text. -/
structure Query.WellScoped (query : Query) : Prop where
  closed : query.Scoped []
  elements : (query.binders.filter (Stemmed elementStem ·)).Nodup
  arrays : ∃ count, query.binders.filter (Stemmed arrayStem ·) =
    (List.range count).map fun index => arrayStem ++ toString (index + 1)

end DocumentQuery.Dialect
