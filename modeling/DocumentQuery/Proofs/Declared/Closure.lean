/-
This file says which schemas declare every object type that they name, and it compares attempts over
such a schema with the same attempts over a larger one.
-/

import DocumentQuery.Fault
import DocumentQuery.Proofs.Attempt
import DocumentQuery.Proofs.Resolution
import DocumentQuery.Proofs.Validation

namespace DocumentQuery

namespace Fault

/-- The cause of a fault inside a selection is the fault without the aliases around it. -/
def cause : Fault → Fault
  | .selecting _ fault => fault.cause
  | fault => fault

/-- The name of an object type was looked up in vain. -/
def IsUnresolved (fault : Fault) : Prop :=
  ∃ name, fault.cause = .missingResultType name ∨ fault.cause = .unknownObjectType name

/-- A fault of the request can be met over any schema. -/
def OfRequest : Fault → Prop
  | .missingResultType _ | .unknownObjectType _ | .comparisonWithoutScalar => False
  | .selecting _ fault => fault.OfRequest
  | _ => True

/-- A fault is one of the request unless it blames the schema or misses the scalar of a
comparison. -/
theorem ofRequest_iff (fault : Fault) :
    fault.OfRequest ↔ ¬ fault.IsUnresolved ∧ fault.cause ≠ .comparisonWithoutScalar := by
  induction fault with
  | selecting aliasName fault within => exact within
  | _ => simp [OfRequest, IsUnresolved, cause]

/-- Only a schema that names an undeclared type, or a comparison without a scalar, is an internal
matter. -/
theorem OfRequest.kind {fault : Fault} (ofRequest : fault.OfRequest) :
    fault.refusal.kind ≠ .internal := by
  induction fault with
  | selecting aliasName fault within => exact within ofRequest
  | missingResultType name => cases ofRequest
  | comparisonWithoutScalar => cases ofRequest
  | _ => simp [refusal]

end Fault

/-- The named type inside the wrappers is a declared object type or a known scalar type. -/
structure ValueType.Resolves (schema : Schema) (type : ValueType) : Prop where
  object : type.base.2 = .object → ∃ object, schema.objectType? type.base.1 = some object
  scalar : type.base.2 = .scalar → schema.knowsScalar type.base.1

/-- Every property that is found has a type that resolves. -/
def ObjectType.Resolves (schema : Schema) (object : ObjectType) : Prop :=
  ∀ name property, object.property? name = some property → property.type.Resolves schema

namespace ValueType.Resolves

variable {schema : Schema} {type : ValueType}

/-- An object type that resolves is declared. -/
theorem named {name : String} (resolves : type.Resolves schema)
    (required : type.required = .named name .object) :
    ∃ object, schema.objectType? name = some object := by
  have declared := resolves.object
  rw [← required_base, required] at declared
  exact declared rfl

/-- The elements of an array resolve when the array does. -/
theorem element {element : ValueType} (resolves : type.Resolves schema)
    (required : type.required = .array element) : element.Resolves schema := by
  obtain ⟨object, scalar⟩ := resolves
  rw [← required_base, required] at object scalar
  exact ⟨object, scalar⟩

end ValueType.Resolves

namespace Schema

/-- A closed schema declares every type that it names. -/
structure Closed (schema : Schema) : Prop where
  collections : ∀ name collection, schema.collection? name = some collection →
    ∃ object, schema.objectType? collection.resultType.base.1 = some object
  objects : ∀ name object, schema.objectType? name = some object → object.Resolves schema

/-- The larger schema has the same collections and may declare further object types. -/
structure Supplements (larger schema : Schema) : Prop where
  collections : larger.collections = schema.collections
  objects : ∀ name object, schema.objectType? name = some object →
    larger.objectType? name = some object

variable {schema : Schema}

/-- Validation passes a reference only if it resolves. -/
theorem resolves_of_checkReference {referrer : Referrer} {type : ValueType}
    (checked : schema.checkReference referrer type = .ok ()) : type.Resolves schema := by
  unfold checkReference at checked
  split at checked
  next name base =>
    split at checked
    next known =>
      refine ⟨fun _ => ?_, by simp [base]⟩
      rw [base]
      exact Option.isSome_iff_exists.mp known
    next => cases checked
  next name base =>
    split at checked
    next known =>
      refine ⟨by simp [base], fun _ => ?_⟩
      rw [base]
      exact known
    next => cases checked

/-- A validated schema is closed. -/
theorem closed_of_validate (valid : schema.validate = .ok ()) : schema.Closed := by
  obtain ⟨collections, objects⟩ := validate_ok.mp valid
  constructor
  · intro name collection listed
    have checked := collections _ (Table.mem_of_entry listed)
    obtain ⟨_, typeName, object, required, known⟩ := checkCollection_ok.mp checked
    rw [← ValueType.required_base, required]
    exact ⟨object, known⟩
  · intro name object known field property located
    have checked := objects _ (Table.mem_of_entry known)
    have inside := (checkObjectType_ok.mp checked).2 _ (Table.mem_of_entry located)
    exact resolves_of_checkReference (checkProperty_ok.mp inside).2

namespace Closed

variable {type last : ValueType} {fieldPath : List String}

/-- Every property of a declared object has a type that resolves. -/
theorem nested (closed : schema.Closed) {name field : String} {property : Property}
    (located : schema.nested? name field = some property) : property.type.Resolves schema := by
  obtain ⟨object, known, inside⟩ := Option.bind_eq_some_iff.mp located
  exact closed.objects name object known field property inside

/-- A path through objects ends at a type that resolves. -/
theorem crosses (closed : schema.Closed) (resolves : type.Resolves schema)
    (crosses : schema.Crosses type fieldPath last) : last.Resolves schema := by
  induction crosses with
  | here type => exact resolves
  | field _ located _ continued => exact continued (closed.nested located)

end Closed

end Schema

/-- The first attempt is over a schema and the second one over another. The first one never lacks a
scalar, and when the condition on the schemas holds, both have the same outcome and look up no name
in vain. -/
structure Steady {Value : Type} (condition : Prop) (first second : Except Fault Value) : Prop where
  scalar : ∀ fault, first = .error fault → fault.cause ≠ .comparisonWithoutScalar
  ofRequest : condition → ∀ fault, first = .error fault → fault.OfRequest
  same : condition → second = first

namespace Steady

variable {First Second : Type} {condition : Prop}

/-- An attempt that reads no schema is compared with itself. -/
theorem alone {attempt : Except Fault First}
    (ofRequest : ∀ fault, attempt = .error fault → fault.OfRequest) :
    Steady condition attempt attempt where
  scalar fault refused := (fault.ofRequest_iff.mp (ofRequest fault refused)).2
  ofRequest _ := ofRequest
  same _ := rfl

theorem ok (value : First) : Steady condition (.ok value) (.ok value) :=
  alone (by simp)

/-- A fault of the request is met over both schemas. -/
theorem refused {fault : Fault} (ofRequest : fault.OfRequest) :
    Steady condition (.error fault : Except Fault First) (.error fault) := by
  apply alone
  rintro _ ⟨⟩
  exact ofRequest

/-- A check that reads no schema blames the request. -/
theorem checked {allowed : Prop} [Decidable allowed] {fault : Fault} (ofRequest : fault.OfRequest) :
    Steady condition (if allowed then .ok () else .error fault : Except Fault Unit)
      (if allowed then .ok () else .error fault) := by
  split
  next => exact ok ()
  next => exact refused ofRequest

/-- Steady attempts are made one behind the other. -/
theorem bind {first second : Except Fault First} {next next' : First → Except Fault Second}
    (steady : Steady condition first second)
    (onward : ∀ value, first = .ok value → Steady condition (next value) (next' value)) :
    Steady condition (first >>= next) (second >>= next') := by
  cases attempt : first with
  | error fault =>
      constructor
      · rintro _ ⟨⟩
        exact steady.scalar fault attempt
      · rintro holds _ ⟨⟩
        exact steady.ofRequest holds fault attempt
      · intro holds
        rw [steady.same holds, attempt]
        rfl
  | ok value =>
      have later := onward value attempt
      refine ⟨later.scalar, later.ofRequest, ?_⟩
      intro holds
      rw [steady.same holds, attempt]
      exact later.same holds

/-- Changing the value keeps two attempts steady. -/
theorem map {first second : Except Fault First} (steady : Steady condition first second)
    (change : First → Second) : Steady condition (first.map change) (second.map change) := by
  have mapped (attempt : Except Fault First) :
      attempt.map change = attempt >>= fun value => .ok (change value) := by
    cases attempt <;> rfl
  rw [mapped, mapped]
  exact steady.bind fun value _ => ok (change value)

/-- Naming the alias of a selection changes no cause of a fault. -/
theorem selecting {first second : Except Fault First} (steady : Steady condition first second)
    (aliasName : String) :
    Steady condition (first.mapError (.selecting aliasName))
      (second.mapError (.selecting aliasName)) := by
  cases attempt : first with
  | error fault =>
      constructor
      · rintro _ ⟨⟩
        exact steady.scalar fault attempt
      · rintro holds _ ⟨⟩
        exact steady.ofRequest holds fault attempt
      · intro holds
        rw [steady.same holds, attempt]
  | ok value =>
      constructor
      · rintro _ ⟨⟩
      · rintro _ _ ⟨⟩
      · intro holds
        rw [steady.same holds, attempt]

/-- A steady step is steady over a list. -/
theorem mapM {step step' : First → Except Fault Second} {items : List First}
    (each : ∀ item ∈ items, Steady condition (step item) (step' item)) :
    Steady condition (items.mapM step) (items.mapM step') := by
  induction items with
  | nil => exact ok []
  | cons first rest continued =>
      obtain ⟨here, others⟩ := List.forall_mem_cons.mp each
      simp only [List.mapM_cons]
      exact here.bind fun value _ => (continued others).bind fun values _ => ok (value :: values)

/-- A steady step is steady over an optional item. -/
theorem optionMapM {step step' : First → Except Fault Second} {item : Option First}
    (each : ∀ value, item = some value → Steady condition (step value) (step' value)) :
    Steady condition (item.mapM step) (item.mapM step') := by
  cases item with
  | none => exact ok none
  | some value =>
      rw [Option.mapM_some, Option.mapM_some]
      exact (each value rfl).map some

end Steady

end DocumentQuery
