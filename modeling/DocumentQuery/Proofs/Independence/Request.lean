/-
This file proves that requests with other literals have the same query text.
-/

import DocumentQuery.Proofs.Binding.Faithful
import DocumentQuery.Proofs.Independence.Lockstep
import DocumentQuery.Proofs.Independence.Template

namespace DocumentQuery

open Dialect

variable {schema : Schema}

theorem ComparisonTarget.lastName_masked (target : ComparisonTarget) :
    target.masked.lastName = target.lastName := by
  cases target <;> rfl

theorem ComparisonOperand.literal_masked (operand : ComparisonOperand) :
    operand.masked.literal? = operand.literal?.map fun _ => .null := by
  cases operand <;> rfl

namespace Expression

mutual

/-- Hidden literals keep their names and their places. -/
theorem literals_masked :
    ∀ expression : Expression,
      expression.masked.literals.map Prod.fst = expression.literals.map Prod.fst
  | .and expressions => literalsEach_masked expressions
  | .or expressions => literalsEach_masked expressions
  | .not expression => literals_masked expression
  | .isNull target => rfl
  | .compare target name operand => by
      simp only [masked, literals, ComparisonOperand.literal_masked,
        ComparisonTarget.lastName_masked]
      cases operand.literal? <;> rfl
  | .existsIn collection none => rfl
  | .existsIn collection (some condition) => literals_masked condition

/-- The hidden literals of a list keep their names and their places. -/
theorem literalsEach_masked :
    ∀ expressions : List Expression,
      (literalsEach (maskedEach expressions)).map Prod.fst =
        (literalsEach expressions).map Prod.fst
  | [] => rfl
  | first :: rest => by
      rw [maskedEach, literalsEach, literalsEach, List.map_append, List.map_append,
        literals_masked first, literalsEach_masked rest]

end

end Expression

namespace Predicate

mutual

/-- Hiding literals hides no reference to a variable. -/
theorem usesVariables_masked :
    ∀ predicate : Predicate, predicate.masked.usesVariables = predicate.usesVariables
  | .test aliasName chain .isNull => rfl
  | .test aliasName chain (.compare operator comparand) => by cases comparand <;> rfl
  | .and predicates => anyUsesVariables_masked predicates
  | .or predicates => anyUsesVariables_masked predicates
  | .not predicate => usesVariables_masked predicate
  | .existsIn source aliasName none => rfl
  | .existsIn source aliasName (some predicate) => usesVariables_masked predicate

/-- Hiding the literals of a list hides no reference to a variable. -/
theorem anyUsesVariables_masked :
    ∀ predicates : List Predicate,
      anyUsesVariables (maskedEach predicates) = anyUsesVariables predicates
  | [] => rfl
  | predicate :: rest => by
      rw [maskedEach, anyUsesVariables, anyUsesVariables, usesVariables_masked predicate,
        anyUsesVariables_masked rest]

end

end Predicate

namespace Select

/-- Hiding the literals of a statement hides no reference to a variable. -/
theorem usesVariables_masked (select : Select) :
    select.masked.usesVariables = select.usesVariables := by
  unfold usesVariables masked
  cases select.predicate with
  | none => rfl
  | some predicate => exact predicate.usesVariables_masked

/-- Joins have no literals. -/
theorem literalTests_withVariablesJoin (select : Select) :
    select.withVariablesJoin.literalTests = select.literalTests := by
  obtain ⟨_, _, _, _, _, _, _, _, _, _⟩ := select
  rfl

/-- Statements that differ in twin literals have one text and twin parameters. -/
theorem text_twin {first second : Select} (masked : first.masked = second.masked)
    {twins : List TwinLiteral} (consistent : TwinLiteral.Consistent twins)
    (firsts : first.literalTests.map LiteralTest.binding = TwinLiteral.firsts twins)
    (seconds : second.literalTests.map LiteralTest.binding = TwinLiteral.seconds twins) :
    first.text.query = second.text.query ∧
      List.Forall₂
        (fun parameter other => ∃ key index value value', ⟨key, value, value'⟩ ∈ twins ∧
          parameter = ⟨Draft.parameterName key index, value⟩ ∧
            other = ⟨Draft.parameterName key index, value'⟩)
        first.text.parameters second.text.parameters := by
  have empty : Ledger.Twin twins [] [] := .nil
  obtain ⟨named, twin⟩ := empty.names consistent fun _ member => member
  obtain ⟨parameters, placeholders⟩ := first.text_ledger
  obtain ⟨parameters', placeholders'⟩ := second.text_ledger
  rw [firsts] at parameters placeholders
  rw [seconds] at parameters' placeholders'
  constructor
  · have alike : template first.tree.pieces = template second.tree.pieces := by
      rw [tree_template, masked, ← tree_template]
    have same := pieces_eq alike (placeholders.trans (named.trans placeholders'.symm))
    rw [first.text_shows.1, second.text_shows.1, same]
  · rw [parameters, parameters']
    exact twin.parameters

end Select

/-- The requests differ only in the literals of their predicates and in the values of their
variables. Literals under one key are the same in both requests or in neither. -/
structure QueryRequest.Variants (first second : QueryRequest) : Prop where
  masked : first.masked = second.masked
  matched : ∀ literal ∈ first.literals.zip second.literals,
    ∀ other ∈ first.literals.zip second.literals,
      Draft.cleanKey literal.1.1 = Draft.cleanKey other.1.1 →
        (literal.1.2.Same other.1.2 ↔ literal.2.2.Same other.2.2)

/-- Two parameters have one name. They hold corresponding literals, or all variable sets of their
requests. -/
inductive Parameter.Corresponds (first second : QueryRequest) : Parameter → Parameter → Prop
  | literal {requested requested' : String × Json} (index : Nat)
      (member : (requested, requested') ∈ first.literals.zip second.literals) :
      Corresponds first second
        ⟨Draft.parameterName (Draft.cleanKey requested.1) index, requested.2⟩
        ⟨Draft.parameterName (Draft.cleanKey requested.1) index, requested'.2⟩
  | batch {sets sets' : List (Table Json)} (given : first.variableSets = some sets)
      (given' : second.variableSets = some sets') :
      Corresponds first second ⟨variablesParameter, .array (sets.map .object)⟩
        ⟨variablesParameter, .array (sets'.map .object)⟩

/-- The queries have one text, and their parameters correspond one by one. -/
structure PreparedQuery.Corresponds (first second : QueryRequest)
    (prepared other : PreparedQuery) : Prop where
  collection : prepared.collection = other.collection
  isAggregate : prepared.isAggregate = other.isAggregate
  query : prepared.text.query = other.text.query
  names : prepared.text.names = other.text.names
  parameters : List.Forall₂ (Parameter.Corresponds first second) prepared.text.parameters
    other.text.parameters

/-- Corresponding parameters have the same names. -/
theorem Parameter.Corresponds.names {first second : QueryRequest}
    {parameters others : List Parameter}
    (correspond : List.Forall₂ (Parameter.Corresponds first second) parameters others) :
    parameters.map Parameter.name = others.map Parameter.name := by
  induction correspond with
  | nil => rfl
  | cons here _ continued =>
      rw [List.map_cons, List.map_cons, continued]
      cases here <;> rfl

namespace QueryRequest

variable {first second : QueryRequest}

/-- The hidden literals of a request keep their names and their places. -/
theorem literals_masked (request : QueryRequest) :
    request.masked.literals.map Prod.fst = request.literals.map Prod.fst := by
  obtain ⟨collection, ⟨aggregates, fields, limit, offset, orderBy, predicate⟩, arguments,
    relationships, variableSets⟩ := request
  cases predicate with
  | none => rfl
  | some expression => exact expression.literals_masked

/-- The literals of two requests stand side by side under the keys of the first. -/
def twins (first second : QueryRequest) : List TwinLiteral :=
  (first.literals.zip second.literals).map fun (literal, other) =>
    ⟨Draft.cleanKey literal.1, literal.2, other.2⟩

/-- Literals with the same names are the two sides of their twins. -/
theorem twins_sides {literals others : List (String × Json)}
    (names : literals.map Prod.fst = others.map Prod.fst) :
    TwinLiteral.firsts ((literals.zip others).map fun (literal, other) =>
        ⟨Draft.cleanKey literal.1, literal.2, other.2⟩) =
      literals.map (fun literal => (Draft.cleanKey literal.1, literal.2)) ∧
    TwinLiteral.seconds ((literals.zip others).map fun (literal, other) =>
        ⟨Draft.cleanKey literal.1, literal.2, other.2⟩) =
      others.map (fun literal => (Draft.cleanKey literal.1, literal.2)) := by
  induction literals generalizing others with
  | nil =>
      cases others with
      | nil => exact ⟨rfl, rfl⟩
      | cons other more => cases names
  | cons literal rest continued =>
      cases others with
      | nil => cases names
      | cons other more =>
          obtain ⟨same, onward⟩ := List.cons.inj names
          obtain ⟨firsts, seconds⟩ := continued onward
          simp only [TwinLiteral.firsts, TwinLiteral.seconds, List.zip_cons_cons, List.map_cons]
            at firsts seconds ⊢
          rw [firsts, seconds, same]
          exact ⟨rfl, rfl⟩

/-- The literals of a statement are bound under the keys of the request. -/
theorem statement_bindings {request : QueryRequest} {select : Select}
    (stated : request.statement schema = .ok select) :
    select.literalTests.map LiteralTest.binding =
      request.literals.map fun literal => (Draft.cleanKey literal.1, literal.2) := by
  have meets := (statement_literalTests stated).2
  generalize select.literalTests = tests at meets
  generalize request.literals = literals at meets
  induction meets with
  | nil => rfl
  | cons here _ continued =>
      rw [List.map_cons, List.map_cons, continued, LiteralTest.binding, here.key, here.value]

namespace Variants

/-- The literals of variants are consistent twins. -/
theorem consistent (variants : Variants first second) :
    TwinLiteral.Consistent (first.twins second) := by
  intro twin member other member' shared
  obtain ⟨literal, listed, rfl⟩ := List.mem_map.mp member
  obtain ⟨literal', listed', rfl⟩ := List.mem_map.mp member'
  exact variants.matched literal listed literal' listed' shared

/-- The statements of variants have one text and corresponding parameters. -/
theorem text (variants : Variants first second) {select other : Select}
    (masked : select.masked = other.masked)
    (bindings : select.literalTests.map LiteralTest.binding =
      first.literals.map fun literal => (Draft.cleanKey literal.1, literal.2))
    (bindings' : other.literalTests.map LiteralTest.binding =
      second.literals.map fun literal => (Draft.cleanKey literal.1, literal.2)) :
    select.text.query = other.text.query ∧
      List.Forall₂ (Parameter.Corresponds first second) select.text.parameters
        other.text.parameters := by
  have names : first.literals.map Prod.fst = second.literals.map Prod.fst := by
    rw [← literals_masked, variants.masked, literals_masked]
  obtain ⟨firsts, seconds⟩ := twins_sides names
  obtain ⟨query, parameters⟩ := Select.text_twin masked variants.consistent
    (bindings.trans firsts.symm) (bindings'.trans seconds.symm)
  refine ⟨query, parameters.imp ?_⟩
  rintro _ _ ⟨key, index, value, value', member, rfl, rfl⟩
  obtain ⟨⟨literal, literal'⟩, listed, same⟩ := List.mem_map.mp member
  cases same
  exact .literal index listed

/-- The same sets of variables are given but for the values in them. -/
theorem variableSets (variants : Variants first second) :
    first.variableSets.map (fun sets => sets.map maskedVariables) =
      second.variableSets.map fun sets => sets.map maskedVariables :=
  congrArg QueryRequest.variableSets variants.masked

/-- The variables are joined in both statements or in neither, and both batches are given or
neither is. -/
theorem textWith (variants : Variants first second) {select other : Select}
    (masked : select.masked = other.masked)
    (bindings : select.literalTests.map LiteralTest.binding =
      first.literals.map fun literal => (Draft.cleanKey literal.1, literal.2))
    (bindings' : other.literalTests.map LiteralTest.binding =
      second.literals.map fun literal => (Draft.cleanKey literal.1, literal.2)) :
    (∃ fault, select.textWith first.variableSets = .error fault ∧
      other.textWith second.variableSets = .error fault) ∨
      ∃ text text', select.textWith first.variableSets = .ok text ∧
        other.textWith second.variableSets = .ok text' ∧ text.query = text'.query ∧
          List.Forall₂ (Parameter.Corresponds first second) text.parameters text'.parameters := by
  have same := variants.variableSets
  have used : select.usesVariables = other.usesVariables := by
    rw [← Select.usesVariables_masked, masked, Select.usesVariables_masked]
  unfold Select.textWith
  rw [used]
  cases other.usesVariables with
  | false => exact .inr ⟨_, _, rfl, rfl, variants.text masked bindings bindings'⟩
  | true =>
      have joined : select.withVariablesJoin.masked = other.withVariablesJoin.masked :=
        congrArg Select.withVariablesJoin masked
      rw [← Select.literalTests_withVariablesJoin] at bindings bindings'
      obtain ⟨query, parameters⟩ := variants.text joined bindings bindings'
      cases given : first.variableSets with
      | none =>
          cases given' : second.variableSets with
          | none => exact .inl ⟨_, rfl, rfl⟩
          | some sets' => simp [given, given'] at same
      | some sets =>
          cases given' : second.variableSets with
          | none => simp [given, given'] at same
          | some sets' =>
              cases sets with
              | nil =>
                  cases sets' with
                  | nil => exact .inl ⟨_, rfl, rfl⟩
                  | cons one rest => simp [given, given'] at same
              | cons one rest =>
                  cases sets' with
                  | nil => simp [given, given'] at same
                  | cons one' rest' =>
                      exact .inr ⟨_, _, rfl, rfl, query,
                        List.rel_append parameters (.cons (.batch given given') .nil)⟩

end Variants

/-- Literals and values of variables do not decide whether a request is compiled or into which text:
two requests that differ only in them are refused for one fault, or both are compiled into one text
with corresponding parameters. -/
theorem compile_independent (schema : Schema) (first second : QueryRequest)
    (variants : Variants first second) :
    (∃ fault, first.compile schema = .error fault ∧ second.compile schema = .error fault) ∨
      ∃ prepared other, first.compile schema = .ok prepared ∧ second.compile schema = .ok other ∧
        prepared.Corresponds first second other := by
  have alike : Select.masked <$> first.statement schema =
      Select.masked <$> second.statement schema := by
    rw [← statement_masked, variants.masked, statement_masked]
  cases stated : first.statement schema with
  | error fault =>
      cases stated' : second.statement schema with
      | ok other =>
          rw [stated, stated'] at alike
          cases alike
      | error fault' =>
          rw [stated, stated'] at alike
          cases alike
          exact .inl ⟨fault, compile_of_statement_fault stated, compile_of_statement_fault stated'⟩
  | ok select =>
      cases stated' : second.statement schema with
      | error fault' =>
          rw [stated, stated'] at alike
          cases alike
      | ok other =>
          rw [stated, stated'] at alike
          have masked : select.masked = other.masked := Except.ok.inj alike
          rcases variants.textWith masked (statement_bindings stated) (statement_bindings stated')
            with ⟨fault, failed, failed'⟩ | ⟨text, text', written, written', query, parameters⟩
          · exact .inl ⟨fault, compile_of_text_fault stated failed,
              compile_of_text_fault stated' failed'⟩
          · refine .inr ⟨_, _, compile_ok.mpr ⟨select, text, stated, written, rfl⟩,
              compile_ok.mpr ⟨other, text', stated', written', rfl⟩, ?_⟩
            have collection : first.masked.collection = second.masked.collection :=
              congrArg QueryRequest.collection variants.masked
            have isAggregate : select.masked.isAggregate = other.masked.isAggregate :=
              congrArg Select.isAggregate masked
            exact ⟨collection, isAggregate, query, Parameter.Corresponds.names parameters,
              parameters⟩

/-- The second request has quotes in a literal, and it repeats the same literals as the first. -/
theorem compile_independent_sample :
    Variants (Sample.filtered "red" "a" "b") (Sample.filtered "\" OR true" "c" "d") ∧
      ∃ prepared other, (Sample.filtered "red" "a" "b").compile Sample.schema = .ok prepared ∧
        (Sample.filtered "\" OR true" "c" "d").compile Sample.schema = .ok other ∧
          prepared.Corresponds (Sample.filtered "red" "a" "b")
            (Sample.filtered "\" OR true" "c" "d") other := by
  have variants : Variants (Sample.filtered "red" "a" "b")
      (Sample.filtered "\" OR true" "c" "d") := ⟨rfl, by decide +kernel⟩
  refine ⟨variants, ?_⟩
  rcases compile_independent Sample.schema _ _ variants with ⟨fault, refused, _⟩ | accepted
  · obtain ⟨prepared, compiled⟩ : ∃ prepared,
        (Sample.filtered "red" "a" "b").compile Sample.schema = .ok prepared := ⟨_, rfl⟩
    rw [refused] at compiled
    cases compiled
  · exact accepted

end QueryRequest

end DocumentQuery
