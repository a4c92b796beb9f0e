/-
This file proves that field paths and conditions never fail for a missing type over a closed schema,
and that a comparison always has a scalar over any schema.
-/

import DocumentQuery.Proofs.Acceptance.Expression
import DocumentQuery.Proofs.Declared.Closure

namespace DocumentQuery

/-- The schema is closed, and the other one supplements it. -/
def Schema.Completes (schema larger : Schema) : Prop :=
  schema.Closed ∧ larger.Supplements schema

variable {schema larger : Schema} {root scope : Scope}

namespace Schema

/-- A name is declared in a closed schema when it is looked up, and both schemas know it. -/
theorem lookUp_steady {Value : Type} {name : String} {fault : Fault}
    (declared : schema.Completes larger → ∃ object, schema.objectType? name = some object)
    (scalar : fault.cause ≠ .comparisonWithoutScalar) (found : ObjectType → Value) :
    Steady (schema.Completes larger)
      (match schema.objectType? name with
        | some object => .ok (found object)
        | none => .error fault)
      (match larger.objectType? name with
        | some object => .ok (found object)
        | none => .error fault) := by
  constructor
  · intro other refused
    split at refused
    next => cases refused
    next =>
      cases refused
      exact scalar
  · intro completes other refused
    obtain ⟨object, known⟩ := declared completes
    simp [known] at refused
  · intro completes
    obtain ⟨object, known⟩ := declared completes
    rw [known, completes.2.objects name object known]

/-- A declared object type is looked up alike over both schemas. -/
theorem lookUpObject_steady {name : String}
    (declared : schema.Completes larger → ∃ object, schema.objectType? name = some object) :
    Steady (schema.Completes larger) (schema.lookUpObject name) (larger.lookUpObject name) :=
  lookUp_steady declared (by simp [Fault.cause]) id

/-- The property of a declared object type is looked up alike over both schemas. -/
theorem lookUpNested_steady {name field : String}
    (declared : schema.Completes larger → ∃ object, schema.objectType? name = some object) :
    Steady (schema.Completes larger) (schema.lookUpNested name field)
      (larger.lookUpNested name field) := by
  unfold lookUpNested
  refine (lookUpObject_steady declared).bind fun object _ => ?_
  cases object.property? field with
  | some property => exact .ok property
  | none => exact .refused trivial

/-- A step into a type that resolves is made alike over both schemas. -/
theorem stepInto_steady {fieldPath : List String} {type : ValueType} {field : String}
    (resolves : schema.Completes larger → type.Resolves schema) :
    Steady (schema.Completes larger) (schema.stepInto fieldPath type field)
      (larger.stepInto fieldPath type field) := by
  unfold stepInto
  split
  next name required =>
    exact (lookUpNested_steady fun completes => (resolves completes).named required).map _
  next => exact .refused trivial
  next => exact .refused trivial

/-- A path of steps is taken alike from a type that resolves. -/
theorem steps_steady {whole fieldPath : List String} {type : ValueType}
    (resolves : schema.Completes larger → type.Resolves schema) :
    Steady (schema.Completes larger) (fieldPath.foldlM (schema.stepInto whole) type)
      (fieldPath.foldlM (larger.stepInto whole) type) := by
  induction fieldPath generalizing type with
  | nil => exact .ok type
  | cons field rest continued =>
      simp only [List.foldlM_cons]
      refine (stepInto_steady resolves).bind fun next stepped => continued fun completes => ?_
      obtain ⟨_, property, _, located, rfl⟩ := stepInto_ok.mp stepped
      exact completes.1.nested located

end Schema

theorem checkFieldPath_steady {condition : Prop} {fieldPath : List String} :
    Steady condition (checkFieldPath fieldPath) (checkFieldPath fieldPath) :=
  .checked trivial

namespace Scope

/-- A column is looked up in the scope and not in the schema. -/
theorem property_steady {condition : Prop} {column : String} :
    Steady condition (scope.property column) (scope.property column) := by
  unfold property
  cases scope.object.property? column with
  | some property => exact .ok property
  | none => exact .refused trivial

/-- The columns of a scope over a closed schema have types that resolve. -/
def Resolves (schema larger : Schema) (scope : Scope) : Prop :=
  schema.Completes larger → scope.object.Resolves schema

/-- An object path resolves alike in a scope of types that resolve. -/
theorem objectPath_steady (here : scope.Resolves schema larger) {column : String}
    {fieldPath : List String} :
    Steady (schema.Completes larger) (scope.objectPath schema column fieldPath)
      (scope.objectPath larger column fieldPath) := by
  unfold objectPath
  refine checkFieldPath_steady.bind fun _ _ => property_steady.bind fun property known => ?_
  have resolves (completes : schema.Completes larger) : property.type.Resolves schema :=
    here completes column property (property_ok.mp known)
  exact (Schema.steps_steady resolves).bind fun _ _ => .ok _

/-- An object path ends at a type that resolves. -/
theorem Resolves.objectPath (here : scope.Resolves schema larger) {column : String}
    {fieldPath : List String} {path : Path} {last : ValueType}
    (resolved : scope.objectPath schema column fieldPath = .ok (path, last))
    (completes : schema.Completes larger) : last.Resolves schema := by
  obtain ⟨_, _, property, known, crosses⟩ := objectPath_ok.mp resolved
  exact completes.1.crosses (here completes column property known) crosses

/-- A target is looked up in a scope of types that resolve. -/
theorem Resolves.among (outer : root.Resolves schema larger) (here : scope.Resolves schema larger)
    (target : ComparisonTarget) : (target.among root scope).Resolves schema larger := by
  cases target with
  | column name fieldPath path => exact here
  | rootColumn name fieldPath => exact outer

end Scope

namespace Chain

/-- Arrays are opened alike when the named type inside them is treated alike over both schemas. -/
theorem throughArrays_steady {condition : Prop}
    {atName atName' : Option String → String → NamedKind → Except Fault Chain} {type : ValueType}
    (atBase : ∀ pending, Steady condition (atName pending type.base.1 type.base.2)
      (atName' pending type.base.1 type.base.2)) (pending : Option String) :
    Steady condition (throughArrays atName pending type) (throughArrays atName' pending type) := by
  induction type generalizing pending with
  | nullable underlying absence opened => exact opened atBase pending
  | array element opened => exact (opened atBase none).map _
  | named name kind => exact atBase pending

/-- The induction is on the field path. Each field leads from a type that resolves to another
one. -/
theorem follow_steady {pathEnd : PathEnd} {fieldPath : List String} {type : ValueType}
    (resolves : schema.Completes larger → type.Resolves schema) (pending : Option String) :
    Steady (schema.Completes larger) (follow schema pathEnd fieldPath pending type)
      (follow larger pathEnd fieldPath pending type) := by
  induction fieldPath generalizing type pending with
  | nil =>
      cases pathEnd with
      | anyValue => exact .ok _
      | scalar =>
          refine throughArrays_steady (fun pending => ?_) pending
          cases kind : type.base.2 with
          | scalar => exact .ok _
          | object =>
              have declared (completes : schema.Completes larger) :=
                (resolves completes).object kind
              exact (Schema.lookUpObject_steady declared).bind fun _ _ => .refused trivial
  | cons field rest continued =>
      refine throughArrays_steady (fun pending => ?_) pending
      cases kind : type.base.2 with
      | scalar => exact .refused trivial
      | object =>
          have declared (completes : schema.Completes larger) := (resolves completes).object kind
          refine (Schema.lookUpNested_steady declared).bind fun property located => ?_
          refine (continued (fun completes => ?_) (some field)).bind fun _ _ => .ok _
          exact completes.1.nested (Schema.lookUpNested_ok.mp located)

end Chain

namespace ComparisonTarget

/-- A target is located without a schema. -/
theorem locate_steady {condition : Prop} (target : ComparisonTarget) :
    Steady condition (target.locate root scope) (target.locate root scope) := by
  cases target with
  | rootColumn name fieldPath => exact .ok _
  | column name fieldPath path =>
      cases path with
      | nil => exact .ok _
      | cons crossing rest => exact .refused trivial

/-- The chain of a target is found alike over both schemas. -/
theorem chain_steady (outer : root.Resolves schema larger) (here : scope.Resolves schema larger)
    (target : ComparisonTarget) (pathEnd : PathEnd) :
    Steady (schema.Completes larger) (target.chain schema root scope pathEnd)
      (target.chain larger root scope pathEnd) := by
  unfold chain
  refine target.locate_steady.bind fun column located => ?_
  obtain ⟨_, rfl⟩ := locate_ok.mp located
  refine Scope.property_steady.bind fun property known => ?_
  have resolves (completes : schema.Completes larger) : property.type.Resolves schema :=
    outer.among here target completes _ property (Scope.property_ok.mp known)
  unfold Chain.ofColumn
  refine Steady.bind ?_ fun _ _ => .ok _
  exact checkFieldPath_steady.bind fun _ _ => Chain.follow_steady resolves _

end ComparisonTarget

/-- An operand compiles alike over both schemas. -/
theorem ComparisonOperand.comparand_steady (outer : root.Resolves schema larger)
    (here : scope.Resolves schema larger) (operand : ComparisonOperand) :
    Steady (schema.Completes larger) (operand.comparand schema root scope)
      (operand.comparand larger root scope) := by
  cases operand with
  | scalar value => exact .ok _
  | «variable» name => exact .ok _
  | column target =>
      refine target.locate_steady.bind fun column located => ?_
      obtain ⟨_, rfl⟩ := ComparisonTarget.locate_ok.mp located
      exact (Scope.objectPath_steady (outer.among here target)).bind fun _ _ => .ok _

namespace Expression

theorem checkDepth_steady {condition : Prop} {depth : Nat} :
    Steady condition (checkDepth depth) (checkDepth depth) :=
  .checked trivial

/-- A chain that was resolved for a comparison ends at a scalar. -/
theorem comparisonOperator_steady {condition : Prop} {chain : Chain} {scalarType name : String}
    (ends : chain.scalarType? = some scalarType) :
    Steady condition (comparisonOperator chain name) (comparisonOperator chain name) := by
  unfold comparisonOperator
  rw [ends]
  have registered : Steady condition (Operators.comparison scalarType name)
      (Operators.comparison scalarType name) := by
    unfold Operators.comparison
    split
    next operator _ => exact .ok operator
    next => exact .refused trivial
  refine registered.bind fun operator _ => ?_
  split
  next => exact .refused trivial
  next => exact .ok operator

/-- The elements of a search are found alike over both schemas. -/
theorem searched_steady (here : scope.Resolves schema larger) (collection : SearchedCollection) :
    Steady (schema.Completes larger) (searched schema scope collection)
      (searched larger scope collection) := by
  cases collection with
  | related _ _ => exact .refused trivial
  | unrelated _ _ => exact .refused trivial
  | nested column arguments fieldPath =>
      cases arguments with
      | cons argument rest => exact .refused trivial
      | nil =>
          refine (Scope.objectPath_steady here).bind ?_
          rintro ⟨path, type⟩ _
          dsimp only
          split
          next => exact .ok _
          next => exact .refused trivial

/-- The scope of an element is opened alike when its type resolves. -/
theorem elementScope_steady {column aliasName : String} {element : ValueType}
    (resolves : schema.Completes larger → element.Resolves schema) :
    Steady (schema.Completes larger) (elementScope schema column aliasName element)
      (elementScope larger column aliasName element) := by
  unfold elementScope
  split
  next name required =>
    have scalar : (Fault.nestedCollectionOfNonObjects column).cause ≠ .comparisonWithoutScalar := by
      simp [Fault.cause]
    exact Schema.lookUp_steady (fun completes => (resolves completes).named required) scalar
      (Scope.mk aliasName name)
  next => exact .refused trivial

/-- The elements of a searched array are documents of the closed schema again. -/
theorem elementScope_resolves {column aliasName : String} {element : ValueType} {inner : Scope}
    (opened : elementScope schema column aliasName element = .ok inner) :
    inner.Resolves schema larger := by
  obtain ⟨name, object, _, known, rfl⟩ := elementScope_ok.mp opened
  exact fun completes => completes.1.objects name object known

mutual

/-- The induction is on the expression, for every scope whose types resolve. -/
theorem predicate_steady (outer : root.Resolves schema larger) :
    ∀ (expression : Expression) (scope : Scope) (depth count : Nat),
      scope.Resolves schema larger →
        Steady (schema.Completes larger) (predicate schema root scope depth count expression)
          (predicate larger root scope depth count expression)
  | .and expressions, scope, depth, count, here => by
      unfold predicate
      refine checkDepth_steady.bind fun _ _ => ?_
      exact (predicates_steady outer expressions scope (depth + 1) count here).bind fun _ _ => .ok _
  | .or expressions, scope, depth, count, here => by
      unfold predicate
      refine checkDepth_steady.bind fun _ _ => ?_
      exact (predicates_steady outer expressions scope (depth + 1) count here).bind fun _ _ => .ok _
  | .not expression, scope, depth, count, here => by
      unfold predicate
      refine checkDepth_steady.bind fun _ _ => ?_
      exact (predicate_steady outer expression scope (depth + 1) count here).bind fun _ _ => .ok _
  | .isNull target, scope, depth, count, here => by
      unfold predicate
      refine checkDepth_steady.bind fun _ _ => ?_
      exact (target.chain_steady outer here .anyValue).bind fun _ _ => .ok _
  | .compare target name operand, scope, depth, count, here => by
      unfold predicate
      refine checkDepth_steady.bind fun _ _ => ?_
      refine (target.chain_steady outer here .scalar).bind ?_
      rintro ⟨aliasName, chain⟩ reached
      -- The chain of a comparison was resolved to a scalar, so its operator is looked up.
      obtain ⟨_, last, _, scalarType, ends, _⟩ := ComparisonTarget.chain_sound reached
      refine (comparisonOperator_steady ends).bind fun operator _ => ?_
      exact (operand.comparand_steady outer here).bind fun _ _ => .ok _
  | .existsIn collection none, scope, depth, count, here => by
      unfold predicate
      refine checkDepth_steady.bind fun _ _ => ?_
      exact (searched_steady here collection).bind fun _ _ => .ok _
  | .existsIn collection (some condition), scope, depth, count, here => by
      unfold predicate
      refine checkDepth_steady.bind fun _ _ => ?_
      refine (searched_steady here collection).bind ?_
      rintro ⟨column, source, element⟩ located
      have resolves (completes : schema.Completes larger) : element.Resolves schema := by
        obtain ⟨fieldPath, type, _, resolved, required⟩ := searched_ok.mp located
        exact (here.objectPath resolved completes).element required
      refine (elementScope_steady resolves).bind fun inner opened => ?_
      exact (predicate_steady outer condition inner (depth + 1) (count + 1)
        (elementScope_resolves opened)).bind fun _ _ => .ok _

/-- Lists of expressions compile alike, one expression behind the other. -/
theorem predicates_steady (outer : root.Resolves schema larger) :
    ∀ (expressions : List Expression) (scope : Scope) (depth count : Nat),
      scope.Resolves schema larger →
        Steady (schema.Completes larger) (predicates schema root scope depth count expressions)
          (predicates larger root scope depth count expressions)
  | [], scope, depth, count, here => .ok _
  | first :: rest, scope, depth, count, here => by
      unfold predicates
      refine (predicate_steady outer first scope depth count here).bind fun result _ => ?_
      exact (predicates_steady outer rest scope depth result.2 here).bind fun _ _ => .ok _

end

end Expression

end DocumentQuery
