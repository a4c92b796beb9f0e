/-
This file proves that a request over a validated schema is never refused for a fault of the schema.
-/

import DocumentQuery.Proofs.Compilation.Selection
import DocumentQuery.Proofs.Compilation.Statement
import DocumentQuery.Proofs.Declared.Condition
import DocumentQuery.Proofs.Sample
import DocumentQuery.Service.Execution
import Mathlib.Control.Monad.Basic

namespace DocumentQuery

variable {schema larger : Schema} {scope : Scope}

namespace Selection

theorem checkDepth_steady {condition : Prop} {depth : Nat} :
    Steady condition (checkDepth depth) (checkDepth depth) :=
  .checked trivial

/-- The objects inside a selection are documents of the closed schema. -/
theorem resolves_of_lookUp {name aliasName : String} {object : ObjectType}
    (known : schema.lookUpObject name = .ok object) :
    Scope.Resolves schema larger ⟨aliasName, name, object⟩ :=
  fun completes => completes.1.objects name object (Schema.lookUpObject_ok.mp known)

mutual

/-- The induction is on the field, for every scope whose types resolve. -/
theorem columnOfField_steady :
    ∀ (field : Field) (scope : Scope) (depth : Nat) (bound : List String) (aliasName : String),
      scope.Resolves schema larger →
        Steady (schema.Completes larger)
          (columnOfField schema scope depth bound aliasName field)
          (columnOfField larger scope depth bound aliasName field)
  | .relationship query relationship arguments, scope, depth, bound, aliasName, here =>
      .refused trivial
  | .column column none, scope, depth, bound, aliasName, here =>
      Scope.property_steady.bind fun _ _ => .ok _
  | .column column (some nested), scope, depth, bound, aliasName, here => by
      refine Scope.property_steady.bind fun property known => ?_
      have resolves (completes : schema.Completes larger) : property.type.Resolves schema :=
        here completes column property (Scope.property_ok.mp known)
      exact (subquery_steady nested _ property.type column depth bound resolves).selecting aliasName

/-- Rows are selected alike, field by field. -/
theorem columnsOfFields_steady :
    ∀ (fields : List (String × Field)) (scope : Scope) (depth : Nat) (bound : List String),
      scope.Resolves schema larger →
        Steady (schema.Completes larger) (columnsOfFields schema scope depth bound fields)
          (columnsOfFields larger scope depth bound fields)
  | [], scope, depth, bound, here => .ok _
  | (aliasName, field) :: rest, scope, depth, bound, here => by
      unfold columnsOfFields
      refine (columnOfField_steady field scope depth bound aliasName here).bind fun _ _ => ?_
      exact (columnsOfFields_steady rest scope depth bound here).bind fun _ _ => .ok _

/-- A type that resolves is selected from alike over both schemas. -/
theorem subquery_steady :
    ∀ (nested : Selection) (source : Path) (type : ValueType) (field : String) (depth : Nat)
      (enclosing : List String), (schema.Completes larger → type.Resolves schema) →
        Steady (schema.Completes larger) (subquery schema source type field depth enclosing nested)
          (subquery larger source type field depth enclosing nested)
  | .object fields, source, type, field, depth, enclosing, resolves => by
      unfold subquery
      split
      next name required =>
        have declared (completes : schema.Completes larger) := (resolves completes).named required
        refine (Schema.lookUpObject_steady declared).bind fun object known => ?_
        refine checkDepth_steady.bind fun _ _ => ?_
        exact (columnsOfFields_steady fields _ _ _ (resolves_of_lookUp known)).bind fun _ _ => .ok _
      next => exact .refused trivial
  | .array elements, source, type, field, depth, enclosing, resolves => by
      unfold subquery
      split
      next element required =>
        refine Steady.bind ?_ fun _ _ => .ok _
        exact selectElements_steady elements source _ element (depth + 1) enclosing
          fun completes => (resolves completes).element required
      next => exact .refused trivial

/-- Elements of a type that resolves are selected alike over both schemas. -/
theorem selectElements_steady :
    ∀ (elements : Selection) (source : Path) (aliasName : String) (element : ValueType)
      (depth : Nat) (enclosing : List String),
      (schema.Completes larger → element.Resolves schema) →
        Steady (schema.Completes larger)
          (selectElements schema source aliasName element depth enclosing elements)
          (selectElements larger source aliasName element depth enclosing elements)
  | .object fields, source, aliasName, element, depth, enclosing, resolves => by
      unfold selectElements
      refine checkDepth_steady.bind fun _ _ => ?_
      split
      next name required =>
        have declared (completes : schema.Completes larger) := (resolves completes).named required
        refine (Schema.lookUpObject_steady declared).bind fun object known => ?_
        exact (columnsOfFields_steady fields _ _ _ (resolves_of_lookUp known)).bind fun _ _ => .ok _
      next => exact .refused trivial
  | .array elements, source, aliasName, element, depth, enclosing, resolves => by
      unfold selectElements
      refine checkDepth_steady.bind fun _ _ => ?_
      split
      next inner required =>
        refine Steady.bind ?_ fun _ _ => .ok _
        exact selectElements_steady elements _ _ inner (depth + 1) _
          fun completes => (resolves completes).element required
      next => exact .refused trivial

end

end Selection

namespace Aggregate

/-- An aggregate compiles alike over both schemas. -/
theorem column_steady (here : scope.Resolves schema larger) (aggregate : Aggregate) :
    Steady (schema.Completes larger) (aggregate.column schema scope)
      (aggregate.column larger scope) := by
  cases aggregate with
  | starCount => exact .ok _
  | columnCount name fieldPath distinct =>
      exact (Scope.objectPath_steady here).bind fun _ _ => .ok _
  | singleColumn name fieldPath function =>
      refine (Scope.objectPath_steady here).bind ?_
      rintro ⟨path, type⟩ _
      dsimp only
      split
      next scalarType _ =>
        refine Steady.bind ?_ fun _ _ => .ok _
        unfold Operators.aggregate
        split
        next definition _ => exact .ok definition
        next => exact .refused trivial
      next => exact .refused trivial

theorem columns_steady (here : scope.Resolves schema larger) (aggregates : Table Aggregate) :
    Steady (schema.Completes larger) (columns schema scope aggregates)
      (columns larger scope aggregates) := by
  unfold columns
  refine Steady.mapM ?_
  rintro ⟨aliasName, aggregate⟩ _
  have named : Steady (schema.Completes larger) (checkAlias aliasName) (checkAlias aliasName) :=
    .checked trivial
  exact named.bind fun _ _ => (column_steady here aggregate).bind fun _ _ => .ok _

end Aggregate

namespace OrderElement

theorem sortKey_steady (here : scope.Resolves schema larger) (element : OrderElement) :
    Steady (schema.Completes larger) (element.sortKey schema scope)
      (element.sortKey larger scope) := by
  obtain ⟨direction, target⟩ := element
  cases target with
  | singleColumnAggregate column function path => exact .refused trivial
  | starCountAggregate path => exact .refused trivial
  | column name fieldPath path =>
      cases path with
      | cons crossing rest => exact .refused trivial
      | nil => exact (Scope.objectPath_steady here).bind fun _ _ => .ok _

theorem sortKeys_steady (here : scope.Resolves schema larger) (elements : List OrderElement) :
    Steady (schema.Completes larger) (sortKeys schema scope elements)
      (sortKeys larger scope elements) := by
  cases elements with
  | nil => exact .ok none
  | cons first rest =>
      exact (Steady.mapM fun element _ => sortKey_steady here element).bind fun _ _ => .ok _

end OrderElement

/-- Only an internal refusal is answered as a failure of the server. -/
theorem ServiceFailure.status_compilation {refusal : Refusal} (kind : refusal.kind ≠ .internal) :
    (ServiceFailure.compilation refusal).status ≠ 500 := by
  obtain ⟨reason, message⟩ := refusal
  cases reason with
  | badRequest => simp [status]
  | notSupported => simp [status]
  | internal => exact absurd rfl kind

namespace QueryRequest

/-- The scope of the root is found alike when the collections are the same. -/
theorem rootScope_alike (schema larger : Schema) (same : larger.collections = schema.collections)
    (request : QueryRequest) :
    Steady (schema.Completes larger) (request.rootScope schema) (request.rootScope larger) := by
  have listed : larger.collection? request.collection = schema.collection? request.collection := by
    rw [Schema.collection?, same]
    rfl
  unfold rootScope
  rw [listed]
  cases known : schema.collection? request.collection with
  | none => exact .refused trivial
  | some collection =>
      dsimp only
      split
      next => exact .refused trivial
      next =>
        split
        next => exact .refused trivial
        next =>
          have scalar : (Fault.missingResultType collection.resultType.base.1).cause ≠
              .comparisonWithoutScalar := by simp [Fault.cause]
          have looked : Steady (schema.Completes larger) _ _ :=
            Schema.lookUp_steady (fun completes => completes.1.collections _ collection known)
              scalar (Scope.mk (rootAlias request.collection) collection.resultType.base.1)
          -- The name is looked up with the missing type first, so both answers are taken apart.
          generalize schema.objectType? collection.resultType.base.1 = first at looked ⊢
          generalize larger.objectType? collection.resultType.base.1 = second at looked ⊢
          cases first <;> cases second <;> exact looked

/-- The root scope is opened alike over both schemas. -/
theorem rootScope_steady (request : QueryRequest) :
    Steady (schema.Completes larger) (request.rootScope schema) (request.rootScope larger) where
  scalar := (rootScope_alike schema schema rfl request).scalar
  ofRequest completes :=
    (rootScope_alike schema larger completes.2.collections request).ofRequest completes
  same completes := (rootScope_alike schema larger completes.2.collections request).same completes

/-- The columns of a query compile alike over both schemas. -/
theorem columns_steady (here : scope.Resolves schema larger) (query : Query) :
    Steady (schema.Completes larger) (columns schema scope query) (columns larger scope query) := by
  unfold columns
  split
  next => exact .refused trivial
  next fields _ _ =>
    unfold Selection.columns
    exact Selection.checkDepth_steady.bind fun _ _ =>
      Selection.columnsOfFields_steady fields scope 1 _ here
  next aggregates _ _ => exact Aggregate.columns_steady here aggregates
  next => exact .ok []

/-- A request is stated alike over both schemas. -/
theorem statement_steady (request : QueryRequest) :
    Steady (schema.Completes larger) (request.statement schema) (request.statement larger) := by
  rw [statement_steps, statement_steps]
  refine (rootScope_steady request).bind fun scope rooted => ?_
  have here : scope.Resolves schema larger := by
    obtain ⟨_, _, collection, object, _, known, rfl⟩ := rootScope_ok.mp rooted
    exact fun completes => completes.1.objects _ object known
  refine (columns_steady here request.query).bind fun _ _ => ?_
  refine Steady.bind ?_ fun _ _ => Steady.bind ?_ fun _ _ => .ok _
  · refine Steady.optionMapM fun expression _ => ?_
    exact (Expression.predicate_steady here expression scope 1 0 here).map _
  · unfold ordering
    split
    next => exact .ok none
    next elements _ => exact OrderElement.sortKeys_steady here elements

/-- A request compiles alike over both schemas. -/
theorem compile_steady (schema larger : Schema) (request : QueryRequest) :
    Steady (schema.Completes larger) (request.compile schema) (request.compile larger) := by
  unfold compile
  refine (statement_steady request).bind fun select _ => Steady.bind ?_ fun _ _ => .ok _
  unfold Select.textWith
  split
  · split
    · exact .ok _
    · exact .refused trivial
    · exact .refused trivial
  · exact .ok _

/-- A validated schema never causes an internal error and never lacks an object type that is looked
up, so further object types change no outcome. Over any schema, a comparison ends at a scalar. -/
theorem compile_blames_request (schema : Schema) (request : QueryRequest) :
    (∀ fault, request.compile schema = .error fault → fault.cause ≠ .comparisonWithoutScalar) ∧
      (schema.validate = .ok () →
        (∀ fault, request.compile schema = .error fault →
          fault.refusal.kind ≠ .internal ∧ ¬ fault.IsUnresolved) ∧
        (∀ larger : Schema, larger.Supplements schema →
          request.compile larger = request.compile schema) ∧
        ∀ configuration : Configuration, configuration.schema = schema →
          ∀ failure, configuration.explain request = .error failure → failure.status ≠ 500) := by
  refine ⟨(compile_steady schema schema request).scalar, fun valid => ?_⟩
  have closed := Schema.closed_of_validate valid
  have ofRequest (fault : Fault) (refused : request.compile schema = .error fault) :
      fault.OfRequest :=
    (compile_steady schema schema request).ofRequest ⟨closed, rfl, fun _ _ known => known⟩ fault
      refused
  refine ⟨?_, ?_, ?_⟩
  · intro fault refused
    have blamed := ofRequest fault refused
    exact ⟨blamed.kind, (fault.ofRequest_iff.mp blamed).1⟩
  · intro larger supplements
    exact (compile_steady schema larger request).same ⟨closed, supplements⟩
  · rintro configuration rfl failure refused
    cases compiled : request.compile configuration.schema with
    | ok prepared =>
        rw [Configuration.explain, Configuration.compile, compiled] at refused
        cases refused
    | error fault =>
        rw [Configuration.explain, Configuration.compile, compiled] at refused
        cases refused
        exact ServiceFailure.status_compilation (ofRequest fault compiled).kind

end QueryRequest

/-- Declaring further object types supplements a schema. -/
theorem Schema.supplements_append (schema : Schema) (more : Table ObjectType) :
    Supplements { schema with objectTypes := schema.objectTypes ++ more } schema := by
  refine ⟨rfl, ?_⟩
  intro name object known
  change List.lookup name schema.objectTypes = some object at known
  change List.lookup name (schema.objectTypes ++ more) = some object
  rw [List.lookup_append, known, Option.some_or]

namespace Sample

/-- The elements of the grid are arrays again, so no condition on them is accepted. -/
def gridSearch : QueryRequest :=
  { request with
    query := { request.query with
      predicate := some <| .existsIn (.nested "grid" [] []) <| some <|
        .isNull (.column "value" none []) } }

def supplemented : Schema :=
  { Sample.schema with objectTypes := Sample.schema.objectTypes ++ [("Extra", line)] }

end Sample

namespace QueryRequest

/-- A further object type does not help the search of the sample. -/
theorem compile_blames_sample_request :
    Sample.schema.validate = .ok () ∧
      Sample.gridSearch.compile Sample.schema = .error (.nestedCollectionOfNonObjects "grid") ∧
        (Fault.nestedCollectionOfNonObjects "grid").refusal.kind ≠ .internal ∧
          Sample.gridSearch.compile Sample.supplemented =
            .error (.nestedCollectionOfNonObjects "grid") := by
  have valid : Sample.schema.validate = .ok () := by decide +kernel
  have refused : Sample.gridSearch.compile Sample.schema =
      .error (.nestedCollectionOfNonObjects "grid") := rfl
  obtain ⟨_, blamed⟩ := compile_blames_request Sample.schema Sample.gridSearch
  obtain ⟨ofRequest, unchanged, _⟩ := blamed valid
  have same := unchanged Sample.supplemented (Sample.schema.supplements_append _)
  exact ⟨valid, refused, (ofRequest _ refused).1, same.trans refused⟩

end QueryRequest

end DocumentQuery
