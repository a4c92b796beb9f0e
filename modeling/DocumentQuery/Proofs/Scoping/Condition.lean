/-
This file proves that compiled conditions are closed and that their searches are numbered in order.
-/

import DocumentQuery.Proofs.Compilation.Condition
import DocumentQuery.Proofs.Rendering.Tree
import DocumentQuery.Proofs.Scoping.Fresh

namespace DocumentQuery

open Dialect

variable {schema : Schema} {inScope : List String}

/-- The condition is closed, and its searches take the numbers between these counts. -/
structure Dialect.Condition.Opens (condition : Condition) (inScope : List String)
    (count next arrays last : Nat) : Prop where
  closed : condition.Scoped inScope
  elements : Counts elementStem count next condition.binders
  arrays : Counts arrayStem arrays last condition.binders

/-- Only a column reads an alias. -/
def Comparand.Scoped (inScope : List String) : Comparand → Prop
  | .literal _ => True
  | .column path => path.aliasName ∈ inScope
  | .variable _ => variablesAlias ∈ inScope

def Test.Scoped (inScope : List String) : Test → Prop
  | .isNull => True
  | .compare _ comparand => comparand.Scoped inScope

/-- A test stays closed when more aliases come into scope. -/
theorem Test.Scoped.weaken {test : Test} (closed : test.Scoped inScope) (others : List String) :
    test.Scoped (inScope ++ others) := by
  cases test with
  | isNull => trivial
  | compare operator comparand =>
      cases comparand with
      | literal value => trivial
      | column path => exact List.mem_append_left others closed
      | «variable» name => exact List.mem_append_left others closed

theorem Path.stepMaybe_alias (path : Path) (field : Option String) :
    (path.stepMaybe field).aliasName = path.aliasName := by
  cases field <;> rfl

/-- The operand of a closed comparand reads aliases in scope only. -/
theorem Comparand.operand_closed {comparand : Comparand} (closed : comparand.Scoped inScope)
    (key : String) (draft : Draft) : (comparand.operand key draft).1.Scoped inScope := by
  cases comparand with
  | column path => exact closed
  | «variable» name => exact closed
  | literal value => trivial

/-- A test opens no search, so both counts stay where they are. -/
theorem Test.condition_opens {test : Test} (closed : test.Scoped inScope) {path : Path}
    (located : path.aliasName ∈ inScope) (key : String) (draft : Draft) (count : Nat) :
    (test.condition path key draft).1.Opens inScope count count draft.elements
      (test.condition path key draft).2.elements := by
  have silent (stem : String) (first : Nat) : Counts stem first first [] := .none (by simp) first
  cases test with
  | isNull =>
      refine ⟨?_, silent _ _, silent _ _⟩
      simpa [condition, Condition.Scoped, Operand.Scoped] using located
  | compare operator comparand =>
      have other := comparand.operand_closed closed key draft
      have unchanged := comparand.operand_elements key draft
      simp only [condition]
      split
      · refine ⟨⟨located, other⟩, silent _ _, ?_⟩
        rw [unchanged]
        exact silent _ _
      · refine ⟨?_, silent _ _, ?_⟩
        · simp only [Condition.Scoped, List.forall_mem_cons]
          exact ⟨located, other, by simp⟩
        · rw [unchanged]
          exact silent _ _

/-- The induction is on the chain. Each of its arrays takes the next number of the draft. -/
theorem Chain.condition_opens {test : Test} (closed : test.Scoped inScope) (key : String)
    (chain : Chain) (path : Path) (located : path.aliasName ∈ inScope) (draft : Draft)
    (unused : Unused arrayStem draft.elements inScope) (count : Nat) :
    (chain.condition test key path draft).1.Opens inScope count count draft.elements
      (chain.condition test key path draft).2.elements := by
  induction chain generalizing path draft inScope with
  | property field next continued => exact continued closed (path.step field) located draft unused
  | scalar field scalarType =>
      exact Test.condition_opens closed (by rwa [Path.stepMaybe_alias]) key draft count
  | value field =>
      exact Test.condition_opens closed (by rwa [Path.stepMaybe_alias]) key draft count
  | each field next continued =>
      have inner := continued (closed.weaken [draft.nextElement.1]) (.ofAlias draft.nextElement.1)
        (List.mem_append_right _ (List.mem_singleton_self _)) draft.nextElement.2 unused.next
      have apart : Counts elementStem count count [draft.nextElement.1] := by
        refine .none ?_ count
        rw [List.forall_mem_singleton]
        exact (Stemmed.self arrayStem _).apart (by decide) (by decide)
      have fresh : draft.nextElement.1 ∉ inScope := unused _ (Nat.lt_succ_self _)
      have located : (path.stepMaybe field).aliasName ∈ inScope := by rwa [Path.stepMaybe_alias]
      exact ⟨⟨⟨located, fresh⟩, inner.closed⟩, apart.append inner.elements,
        (Counts.one arrayStem draft.elements).append inner.arrays⟩

namespace Expression

/-- The root and the current object are in scope, and the numbers to come are not. -/
structure Ready (root scope : Scope) (inScope : List String) (count arrays : Nat) : Prop where
  root : root.aliasName ∈ inScope
  here : scope.aliasName ∈ inScope
  elements : Unused elementStem count inScope
  arrays : Unused arrayStem arrays inScope

namespace Ready

variable {root scope : Scope} {count next arrays last : Nat}

/-- Wherever a target is looked up, its alias is in scope. -/
theorem among (ready : Ready root scope inScope count arrays) (target : ComparisonTarget) :
    (target.among root scope).aliasName ∈ inScope := by
  cases target with
  | column name fieldPath path => exact ready.here
  | rootColumn name fieldPath => exact ready.root

/-- What is ready for these counts is ready for later ones. -/
theorem later (ready : Ready root scope inScope count arrays) (elements : count ≤ next)
    (numbers : arrays ≤ last) : Ready root scope inScope next last :=
  ⟨ready.root, ready.here, ready.elements.mono elements, ready.arrays.mono numbers⟩

/-- A comparand reads the root, the current object or the variables, all of them in scope. -/
theorem comparand (ready : Ready root scope inScope count arrays) {operand : ComparisonOperand}
    {comparand : Comparand} (compiled : operand.comparand schema root scope = .ok comparand)
    {operator : ComparisonOperator}
    (joined : (Test.compare operator comparand).usesVariables → variablesAlias ∈ inScope) :
    comparand.Scoped inScope := by
  cases operand with
  | scalar value =>
      cases compiled
      trivial
  | «variable» name =>
      cases compiled
      exact joined rfl
  | column target =>
      obtain ⟨_, path, type, rfl, resolved⟩ := ComparisonOperand.comparand_column_ok.mp compiled
      obtain ⟨rfl, _⟩ := Scope.objectPath_ok.mp resolved
      exact ready.among target

/-- A search starts at an alias that is in scope. -/
theorem searched (ready : Ready root scope inScope count arrays)
    {collection : SearchedCollection} {column : String} {source : Path} {element : ValueType}
    (located : searched schema scope collection = .ok (column, source, element)) :
    source.aliasName ∈ inScope := by
  obtain ⟨fieldPath, type, _, resolved, _⟩ := searched_ok.mp located
  obtain ⟨rfl, _⟩ := Scope.objectPath_ok.mp resolved
  exact ready.here

/-- The condition of a search sees one more alias. -/
theorem inside (ready : Ready root scope inScope count arrays) {inner : Scope}
    (opened : inner.aliasName = elementAlias (count + 1)) :
    Ready root inner (inScope ++ [elementAlias (count + 1)]) (count + 1) arrays where
  root := List.mem_append_left _ ready.root
  here := by
    rw [opened]
    exact List.mem_append_right _ (List.mem_singleton_self _)
  elements := ready.elements.next
  arrays := by
    apply ready.arrays.beside
    rw [List.forall_mem_singleton]
    exact (Stemmed.self elementStem _).apart (by decide) (by decide)

end Ready

/-- The alias of an element moves the count of elements and not the count of arrays. -/
theorem counts_element (count arrays : Nat) :
    Counts elementStem count (count + 1) [elementAlias (count + 1)] ∧
      Counts arrayStem arrays arrays [elementAlias (count + 1)] := by
  refine ⟨.one elementStem count, .none ?_ arrays⟩
  rw [List.forall_mem_singleton]
  exact (Stemmed.self elementStem _).apart (by decide) (by decide)

variable {root : Scope}

mutual

/-- The numbering of the draft runs beside the numbering of the elements. -/
theorem predicate_opens :
    ∀ (expression : Expression) (scope : Scope) (depth count : Nat) (result : Predicate × Nat),
      predicate schema root scope depth count expression = .ok result →
        ∀ (inScope : List String) (draft : Draft),
          (result.1.usesVariables → variablesAlias ∈ inScope) →
            Ready root scope inScope count draft.elements →
              (result.1.condition draft).1.Opens inScope count result.2 draft.elements
                (result.1.condition draft).2.elements
  | .and expressions, scope, depth, count, result, compiled, inScope, draft, joined, ready => by
      obtain ⟨_, predicates, next, inner, rfl⟩ := predicate_and_ok.mp compiled
      exact predicates_open expressions scope (depth + 1) count _ inner inScope draft joined ready
  | .or expressions, scope, depth, count, result, compiled, inScope, draft, joined, ready => by
      obtain ⟨_, predicates, next, inner, rfl⟩ := predicate_or_ok.mp compiled
      have each :=
        predicates_open expressions scope (depth + 1) count _ inner inScope draft joined ready
      exact ⟨each.closed, each.elements, each.arrays⟩
  | .not expression, scope, depth, count, result, compiled, inScope, draft, joined, ready => by
      obtain ⟨_, predicate, next, inner, rfl⟩ := predicate_not_ok.mp compiled
      have negated := predicate_opens expression scope (depth + 1) count (predicate, next) inner
        inScope draft joined ready
      exact ⟨negated.closed, negated.elements, negated.arrays⟩
  | .isNull target, scope, depth, count, result, compiled, inScope, draft, joined, ready => by
      obtain ⟨_, aliasName, chain, located, rfl⟩ := predicate_isNull_ok.mp compiled
      obtain ⟨_, rfl, _⟩ := ComparisonTarget.chain_ok.mp located
      have closed : Test.isNull.Scoped inScope := trivial
      exact Chain.condition_opens closed _ chain (.ofAlias _) (ready.among target) draft
        ready.arrays count
  | .compare target name operand, scope, depth, count, result, compiled, inScope, draft, joined,
      ready => by
      obtain ⟨_, aliasName, chain, operator, comparand, located, known, other, rfl⟩ :=
        predicate_compare_ok.mp compiled
      obtain ⟨_, rfl, _⟩ := ComparisonTarget.chain_ok.mp located
      have closed : (Test.compare operator comparand).Scoped inScope :=
        ready.comparand other joined
      exact Chain.condition_opens closed _ chain (.ofAlias _) (ready.among target) draft
        ready.arrays count
  | .existsIn collection none, scope, depth, count, result, compiled, inScope, draft, joined,
      ready => by
      obtain ⟨_, column, source, element, located, rfl⟩ := predicate_exists_ok.mp compiled
      have fresh : elementAlias (count + 1) ∉ inScope := ready.elements _ (Nat.lt_succ_self count)
      obtain ⟨elements, arrays⟩ := counts_element count draft.elements
      exact ⟨⟨ready.searched located, fresh⟩, elements, arrays⟩
  | .existsIn collection (some condition), scope, depth, count, result, compiled, inScope, draft,
      joined, ready => by
      obtain ⟨_, column, source, element, inner, predicate, next, located, opened, continued,
        rfl⟩ := predicate_existsWhere_ok.mp compiled
      have fresh : elementAlias (count + 1) ∉ inScope := ready.elements _ (Nat.lt_succ_self count)
      obtain ⟨elements, arrays⟩ := counts_element count draft.elements
      obtain ⟨_, _, _, _, rfl⟩ := elementScope_ok.mp opened
      -- The condition starts behind the alias of its own search, in both numberings.
      have inside := predicate_opens condition _ (depth + 1) (count + 1) (predicate, next) continued
        (inScope ++ [elementAlias (count + 1)]) draft
        (fun uses => List.mem_append_left _ (joined uses)) (ready.inside rfl)
      exact ⟨⟨⟨ready.searched located, fresh⟩, inside.closed⟩, elements.append inside.elements,
        arrays.append inside.arrays⟩

/-- The parts of a list take their numbers one part behind the other. -/
theorem predicates_open :
    ∀ (expressions : List Expression) (scope : Scope) (depth count : Nat)
      (result : List Predicate × Nat),
      predicates schema root scope depth count expressions = .ok result →
        ∀ (inScope : List String) (draft : Draft),
          (Predicate.anyUsesVariables result.1 → variablesAlias ∈ inScope) →
            Ready root scope inScope count draft.elements →
              (Condition.all (Predicate.conditions result.1 draft).1).Opens inScope count result.2
                draft.elements (Predicate.conditions result.1 draft).2.elements
  | [], scope, depth, count, result, compiled, inScope, draft, joined, ready => by
      rw [predicates_nil_ok.mp compiled]
      exact ⟨trivial, .none (by simp [Condition.binders, Predicate.conditions,
        Condition.bindersOfEach]) count, .none (by simp [Condition.binders, Predicate.conditions,
        Condition.bindersOfEach]) draft.elements⟩
  | first :: rest, scope, depth, count, result, compiled, inScope, draft, joined, ready => by
      obtain ⟨predicate, middle, others, next, one, more, rfl⟩ := predicates_cons_ok.mp compiled
      rw [Predicate.anyUsesVariables, Bool.or_eq_true] at joined
      have here := predicate_opens first scope depth count (predicate, middle) one inScope draft
        (fun uses => joined (.inl uses)) ready
      have onward := predicates_open rest scope depth middle (others, next) more inScope
        (predicate.condition draft).2 (fun uses => joined (.inr uses))
        (ready.later here.elements.ordered here.arrays.ordered)
      exact ⟨⟨here.closed, onward.closed⟩, here.elements.append onward.elements,
        here.arrays.append onward.arrays⟩

end

end Expression

end DocumentQuery
