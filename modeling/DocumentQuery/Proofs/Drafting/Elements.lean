/-
This file lists the aliases of elements that a tree takes from its draft and proves that they are
numbered in the order in which they are handed out.
-/

import DocumentQuery.Proofs.Rendering.Tree

namespace DocumentQuery

namespace Dialect

namespace Condition

mutual

/-- The alias of a bare search stands for an element that was numbered for it. -/
def elements : Condition → List String
  | .all conditions | .any conditions => elementsEach conditions
  | .not condition => condition.elements
  | .existsIn bare aliasName _ none => if bare then [aliasName] else []
  | .existsIn bare aliasName _ (some condition) =>
      (if bare then [aliasName] else []) ++ condition.elements
  | .compare .. | .call .. => []

def elementsEach : List Condition → List String
  | [] => []
  | condition :: rest => condition.elements ++ elementsEach rest

end

end Condition

mutual

def Item.elements : Item → List String
  | .path _ | .orNull _ | .aggregate _ => []
  | .array query | .single query => query.elements

/-- The items of a query are written before its condition. -/
def Query.elements : Query → List String
  | ⟨_, items, clauses⟩ =>
      elementsOfItems items ++ (clauses.condition.map Condition.elements).getD []

def elementsOfItems : List (Option String × Item) → List String
  | [] => []
  | (_, item) :: rest => item.elements ++ elementsOfItems rest

end

end Dialect

/-- The aliases are those of the elements that are numbered between the two drafts. -/
structure Draft.Numbers (draft : Draft) (aliases : List String) (next : Draft) : Prop where
  counted : next.elements = draft.elements + aliases.length
  listed : aliases = (List.range' (draft.elements + 1) aliases.length).map fun number =>
    "array_element_" ++ toString number

namespace Draft.Numbers

variable {draft middle next : Draft} {aliases others : List String}

theorem nothing (same : next.elements = draft.elements) : draft.Numbers [] next :=
  ⟨same, rfl⟩

/-- The next alias of an element is numbered by the count. -/
theorem one (draft : Draft) : draft.Numbers [draft.nextElement.1] draft.nextElement.2 :=
  ⟨rfl, rfl⟩

/-- Aliases that are handed out one behind the other are numbered so. -/
theorem append (first : draft.Numbers aliases middle) (second : middle.Numbers others next) :
    draft.Numbers (aliases ++ others) next where
  counted := by
    rw [second.counted, first.counted, List.length_append, Nat.add_assoc]
  listed := by
    have start : draft.elements + 1 + 1 * aliases.length = middle.elements + 1 := by
      rw [first.counted]
      omega
    rw [List.length_append, ← List.range'_append, List.map_append, start, ← second.listed,
      ← first.listed]

end Draft.Numbers

/-- A test numbers no element. -/
theorem Test.condition_numbers (test : Test) (path : Path) (key : String) (draft : Draft) :
    draft.Numbers (test.condition path key draft).1.elements (test.condition path key draft).2 := by
  cases test with
  | isNull => exact .nothing rfl
  | compare operator comparand =>
      have same := comparand.operand_elements key draft
      simp only [condition]
      split <;> exact .nothing same

/-- The induction is on the chain. Each of its arrays takes one alias of an element. -/
theorem Chain.condition_numbers (test : Test) (key : String) (chain : Chain) (path : Path)
    (draft : Draft) :
    draft.Numbers (chain.condition test key path draft).1.elements
      (chain.condition test key path draft).2 := by
  induction chain generalizing path draft with
  | property field next continued => exact continued (path.step field) draft
  | scalar field scalarType => exact test.condition_numbers (path.stepMaybe field) key draft
  | value field => exact test.condition_numbers (path.stepMaybe field) key draft
  | each field next continued =>
      have inner := continued (.ofAlias draft.nextElement.1) draft.nextElement.2
      exact (Draft.Numbers.one draft).append inner

namespace Predicate

mutual

/-- The induction is on the predicate. Its condition has the aliases that were numbered for it. -/
theorem condition_numbers :
    ∀ (predicate : Predicate) (draft : Draft),
      draft.Numbers (predicate.condition draft).1.elements (predicate.condition draft).2
  | .test _ chain applied, draft => chain.condition_numbers applied _ _ draft
  | .and predicates, draft => conditions_number predicates draft
  | .or predicates, draft => conditions_number predicates draft
  | .not predicate, draft => condition_numbers predicate draft
  | .existsIn _ _ none, _ => .nothing rfl
  | .existsIn _ _ (some predicate), draft => condition_numbers predicate draft

/-- The conditions of a list are numbered one behind the other. -/
theorem conditions_number :
    ∀ (predicates : List Predicate) (draft : Draft),
      draft.Numbers (Dialect.Condition.elementsEach (conditions predicates draft).1)
        (conditions predicates draft).2
  | [], _ => .nothing rfl
  | predicate :: rest, draft =>
      (condition_numbers predicate draft).append (conditions_number rest _)

end

end Predicate

namespace Select

/-- Only the condition of a statement takes aliases of elements. -/
theorem clauses_number (select : Select) (draft : Draft) :
    draft.Numbers (((select.clauses draft).1.condition.map Dialect.Condition.elements).getD [])
      (select.clauses draft).2 := by
  unfold clauses condition?
  cases select.predicate with
  | none => exact .nothing rfl
  | some predicate => exact predicate.condition_numbers draft

mutual

/-- A column has the aliases that were numbered for the statement inside it. -/
theorem item_numbers :
    ∀ (column : Projection) (form : ProjectionForm) (draft : Draft),
      draft.Numbers (item form column draft).1.elements (item form column draft).2
  | .path _, _, _ => by
      simp only [item]
      split <;> exact .nothing rfl
  | .aggregate _, _, _ => .nothing rfl
  | .subquery select, form, draft => by
      have inner := query_numbers select draft
      simp only [item]
      split <;> exact inner

/-- A statement numbers the elements of its columns before those of its condition. -/
theorem query_numbers :
    ∀ (select : Select) (draft : Draft),
      draft.Numbers (select.query draft).1.elements (select.query draft).2
  | ⟨columns, _, _, _, _, _, _, _, _, _⟩, draft =>
      (items_number columns _ draft).append (clauses_number _ _)

/-- The columns of a statement are numbered one behind the other. -/
theorem items_number :
    ∀ (columns : List (String × Projection)) (form : ProjectionForm) (draft : Draft),
      draft.Numbers (Dialect.elementsOfItems (items form columns draft).1)
        (items form columns draft).2
  | [], _, _ => .nothing rfl
  | (_, column) :: rest, form, draft =>
      (item_numbers column form draft).append (items_number rest form _)

end

end Select

end DocumentQuery
