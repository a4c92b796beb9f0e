/-
This file hides the literals of requests and statements behind a null, and it proves that a request
is compiled in the same way when its literals are hidden.
-/

import DocumentQuery.Proofs.Compilation.Statement

namespace DocumentQuery

mutual

/-- A masked expression has null in place of every scalar that something is compared with. -/
def Expression.masked : Expression → Expression
  | .and expressions => .and (maskedEach expressions)
  | .or expressions => .or (maskedEach expressions)
  | .not expression => .not expression.masked
  | .isNull target => .isNull target.masked
  | .compare target operator operand => .compare target.masked operator operand.masked
  | .existsIn collection none => .existsIn collection none
  | .existsIn collection (some expression) => .existsIn collection (some expression.masked)

def maskedEach : List Expression → List Expression
  | [] => []
  | expression :: rest => expression.masked :: maskedEach rest

def ComparisonTarget.masked : ComparisonTarget → ComparisonTarget
  | .column name fieldPath path => .column name fieldPath (maskedPath path)
  | .rootColumn name fieldPath => .rootColumn name fieldPath

/-- Only a scalar is hidden, and a column keeps its own name. -/
def ComparisonOperand.masked : ComparisonOperand → ComparisonOperand
  | .column target => .column target.masked
  | .scalar _ => .scalar .null
  | .variable name => .variable name

def PathElement.masked : PathElement → PathElement
  | .crossing relationship arguments none => .crossing relationship arguments none
  | .crossing relationship arguments (some expression) =>
      .crossing relationship arguments (some expression.masked)

def maskedPath : List PathElement → List PathElement
  | [] => []
  | element :: rest => element.masked :: maskedPath rest

end

def OrderTarget.masked : OrderTarget → OrderTarget
  | .column name fieldPath path => .column name fieldPath (maskedPath path)
  | .singleColumnAggregate name function path =>
      .singleColumnAggregate name function (maskedPath path)
  | .starCountAggregate path => .starCountAggregate (maskedPath path)

def OrderElement.masked (element : OrderElement) : OrderElement :=
  { element with target := element.target.masked }

mutual

def Field.masked : Field → Field
  | .column column none => .column column none
  | .column column (some nested) => .column column (some nested.masked)
  | .relationship query relationship arguments => .relationship query.masked relationship arguments

def Selection.masked : Selection → Selection
  | .object fields => .object (maskedFields fields)
  | .array elements => .array elements.masked

def maskedFields : List (String × Field) → List (String × Field)
  | [] => []
  | (aliasName, field) :: rest => (aliasName, field.masked) :: maskedFields rest

def maskedFields? : Option (List (String × Field)) → Option (List (String × Field))
  | none => none
  | some fields => some (maskedFields fields)

/-- The queries of relationships have predicates of their own. -/
def Query.masked : Query → Query
  | ⟨aggregates, fields, limit, offset, orderBy, predicate⟩ =>
      ⟨aggregates, maskedFields? fields, limit, offset,
        orderBy.map fun elements => elements.map OrderElement.masked,
        predicate.map Expression.masked⟩

end

/-- A masked set of variables keeps its names. -/
def maskedVariables (values : Table Json) : Table Json :=
  values.map fun (name, _) => (name, .null)

/-- The values of a masked request are hidden, in its predicates and in its sets of variables. -/
def QueryRequest.masked (request : QueryRequest) : QueryRequest :=
  { request with
    query := request.query.masked
    variableSets := request.variableSets.map fun sets => sets.map maskedVariables }

/-- Only a literal is hidden. -/
def Comparand.masked : Comparand → Comparand
  | .literal _ => .literal .null
  | .column path => .column path
  | .variable name => .variable name

def Test.masked : Test → Test
  | .isNull => .isNull
  | .compare operator comparand => .compare operator comparand.masked

namespace Predicate

mutual

def masked : Predicate → Predicate
  | .test aliasName chain applied => .test aliasName chain applied.masked
  | .and predicates => .and (maskedEach predicates)
  | .or predicates => .or (maskedEach predicates)
  | .not predicate => .not predicate.masked
  | .existsIn source aliasName none => .existsIn source aliasName none
  | .existsIn source aliasName (some predicate) =>
      .existsIn source aliasName (some predicate.masked)

def maskedEach : List Predicate → List Predicate
  | [] => []
  | predicate :: rest => predicate.masked :: maskedEach rest

end

end Predicate

/-- Only the condition of a compiled statement has literals. -/
def Select.masked (select : Select) : Select :=
  { select with predicate := select.predicate.map Predicate.masked }

variable {schema : Schema}

namespace ComparisonTarget

/-- Hiding the literals of a target does not change where it is located. -/
theorem locate_masked (root scope : Scope) (target : ComparisonTarget) :
    target.masked.locate root scope = target.locate root scope := by
  cases target with
  | rootColumn name fieldPath => rfl
  | column name fieldPath path => cases path <;> rfl

/-- The chain of a target does not read its literals. -/
theorem chain_masked (root scope : Scope) (pathEnd : PathEnd) (target : ComparisonTarget) :
    target.masked.chain schema root scope pathEnd = target.chain schema root scope pathEnd := by
  rw [chain, chain, locate_masked]

end ComparisonTarget

/-- Hiding the literal of an operand hides that of its comparand. -/
theorem ComparisonOperand.comparand_masked (root scope : Scope) (operand : ComparisonOperand) :
    operand.masked.comparand schema root scope =
      Comparand.masked <$> operand.comparand schema root scope := by
  cases operand with
  | scalar value => rfl
  | «variable» name => rfl
  | column target =>
      simp only [masked, comparand, ComparisonTarget.locate_masked, map_bind, map_pure]
      rfl

namespace Expression

variable {root : Scope}

mutual

/-- Hiding the literals of an expression hides those of its predicate, and it changes no fault. -/
theorem predicate_masked :
    ∀ (expression : Expression) (scope : Scope) (depth count : Nat),
      predicate schema root scope depth count expression.masked =
        (fun result => (result.1.masked, result.2)) <$>
          predicate schema root scope depth count expression
  | .and expressions, scope, depth, count => by
      simp only [masked, predicate, predicates_masked expressions, map_bind, bind_map_left,
        map_pure, Predicate.masked]
  | .or expressions, scope, depth, count => by
      simp only [masked, predicate, predicates_masked expressions, map_bind, bind_map_left,
        map_pure, Predicate.masked]
  | .not expression, scope, depth, count => by
      simp only [masked, predicate, predicate_masked expression, map_bind, bind_map_left, map_pure,
        Predicate.masked]
  | .isNull target, scope, depth, count => by
      simp only [masked, predicate, ComparisonTarget.chain_masked, map_bind, map_pure,
        Predicate.masked, Test.masked]
  | .compare target name operand, scope, depth, count => by
      simp only [masked, predicate, ComparisonTarget.chain_masked,
        ComparisonOperand.comparand_masked, map_bind, bind_map_left, map_pure, Predicate.masked,
        Test.masked]
  | .existsIn collection none, scope, depth, count => by
      simp only [masked, predicate, map_bind, map_pure, Predicate.masked]
  | .existsIn collection (some condition), scope, depth, count => by
      simp only [masked, predicate, predicate_masked condition, map_bind, bind_map_left, map_pure,
        Predicate.masked]

/-- Hiding the literals of a list hides those of each predicate. -/
theorem predicates_masked :
    ∀ (expressions : List Expression) (scope : Scope) (depth count : Nat),
      predicates schema root scope depth count (maskedEach expressions) =
        (fun result => (Predicate.maskedEach result.1, result.2)) <$>
          predicates schema root scope depth count expressions
  | [], scope, depth, count => rfl
  | first :: rest, scope, depth, count => by
      simp only [maskedEach, predicates, predicate_masked first, predicates_masked rest, map_bind,
        bind_map_left, map_pure, Predicate.maskedEach]

end

/-- Hiding the literals of an expression hides those of its condition. -/
theorem condition_masked (root : Scope) (expression : Expression) :
    condition schema root expression.masked =
      Predicate.masked <$> condition schema root expression := by
  unfold condition
  rw [predicate_masked]
  cases predicate schema root root 1 0 expression <;> rfl

end Expression

namespace Selection

mutual

/-- No literal decides which column a field becomes. -/
theorem columnOfField_masked :
    ∀ (field : Field) (scope : Scope) (depth : Nat) (bound : List String) (aliasName : String),
      columnOfField schema scope depth bound aliasName field.masked =
        columnOfField schema scope depth bound aliasName field
  | .relationship query relationship arguments, scope, depth, bound, aliasName => rfl
  | .column column none, scope, depth, bound, aliasName => rfl
  | .column column (some nested), scope, depth, bound, aliasName => by
      simp only [Field.masked, columnOfField, subquery_masked nested]

/-- No literal decides which columns a row has. -/
theorem columnsOfFields_masked :
    ∀ (fields : List (String × Field)) (scope : Scope) (depth : Nat) (bound : List String),
      columnsOfFields schema scope depth bound (maskedFields fields) =
        columnsOfFields schema scope depth bound fields
  | [], scope, depth, bound => rfl
  | (aliasName, first) :: rest, scope, depth, bound => by
      simp only [maskedFields, columnsOfFields, columnOfField_masked first,
        columnsOfFields_masked rest]

/-- No literal decides which subquery a selection becomes. -/
theorem subquery_masked :
    ∀ (nested : Selection) (source : Path) (type : ValueType) (field : String) (depth : Nat)
      (enclosing : List String),
      subquery schema source type field depth enclosing nested.masked =
        subquery schema source type field depth enclosing nested
  | .object fields, source, type, field, depth, enclosing => by
      simp only [masked, subquery, columnsOfFields_masked fields]
  | .array elements, source, type, field, depth, enclosing => by
      simp only [masked, subquery, selectElements_masked elements]

/-- No literal decides how elements are selected. -/
theorem selectElements_masked :
    ∀ (elements : Selection) (source : Path) (aliasName : String) (element : ValueType)
      (depth : Nat) (enclosing : List String),
      selectElements schema source aliasName element depth enclosing elements.masked =
        selectElements schema source aliasName element depth enclosing elements
  | .object fields, source, aliasName, element, depth, enclosing => by
      simp only [masked, selectElements, columnsOfFields_masked fields]
  | .array elements, source, aliasName, element, depth, enclosing => by
      simp only [masked, selectElements, selectElements_masked elements]

end

end Selection

namespace OrderElement

/-- No literal decides which sort key an element becomes. -/
theorem sortKey_masked (scope : Scope) (element : OrderElement) :
    element.masked.sortKey schema scope = element.sortKey schema scope := by
  obtain ⟨direction, target⟩ := element
  cases target with
  | column name fieldPath path => cases path <;> rfl
  | singleColumnAggregate column function path => rfl
  | starCountAggregate path => rfl

theorem sortKeys_masked (scope : Scope) (elements : List OrderElement) :
    sortKeys schema scope (elements.map masked) = sortKeys schema scope elements := by
  have each : ∀ elements : List OrderElement,
      (elements.map masked).mapM (sortKey schema scope) = elements.mapM (sortKey schema scope) := by
    intro elements
    induction elements with
    | nil => rfl
    | cons first rest continued =>
        rw [List.map_cons, List.mapM_cons, List.mapM_cons, sortKey_masked, continued]
  cases elements with
  | nil => rfl
  | cons first rest => rw [List.map_cons, sortKeys, sortKeys, ← List.map_cons, each]

end OrderElement

namespace QueryRequest

/-- The columns of a query do not read its literals. -/
theorem columns_masked (scope : Scope) (query : Query) :
    columns schema scope query.masked = columns schema scope query := by
  obtain ⟨aggregates, fields, limit, offset, orderBy, predicate⟩ := query
  cases fields with
  | none => rfl
  | some fields =>
      cases aggregates with
      | some aggregates => rfl
      | none =>
          simp only [Query.masked, maskedFields?, columns, Selection.columns,
            Selection.columnsOfFields_masked]

/-- The ordering of a query does not read its literals. -/
theorem ordering_masked (scope : Scope) (query : Query) :
    ordering schema scope query.masked = ordering schema scope query := by
  obtain ⟨aggregates, fields, limit, offset, orderBy, predicate⟩ := query
  cases orderBy with
  | none => rfl
  | some elements => exact OrderElement.sortKeys_masked scope elements

/-- Hiding the literals of a query hides those of its condition, if it has one. -/
theorem predicate_masked (scope : Scope) (query : Query) :
    query.masked.predicate.mapM (Expression.condition schema scope) =
      Option.map Predicate.masked <$>
        query.predicate.mapM (Expression.condition schema scope) := by
  obtain ⟨aggregates, fields, limit, offset, orderBy, predicate⟩ := query
  cases predicate with
  | none => rfl
  | some expression =>
      simp only [Query.masked, Option.map_some, Option.mapM_some, Expression.condition_masked,
        Functor.map_map]

/-- Hiding the literals of a request hides those of its statement, and it changes no fault. -/
theorem statement_masked (request : QueryRequest) :
    request.masked.statement schema = Select.masked <$> request.statement schema := by
  obtain ⟨collection, ⟨aggregates, fields, limit, offset, orderBy, predicate⟩, arguments,
    relationships, variableSets⟩ := request
  simp only [statement_steps, masked, columns_masked, ordering_masked, predicate_masked,
    map_bind, bind_map_left, map_pure, Select.masked]
  rfl

end QueryRequest

end DocumentQuery
