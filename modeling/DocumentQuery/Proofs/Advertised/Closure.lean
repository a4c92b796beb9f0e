/-
This file says which references of an advertisement have a type.
-/

import DocumentQuery.Proofs.Advertised.References
import DocumentQuery.Proofs.Sample
import Mathlib.Control.Monad.Basic

namespace DocumentQuery

namespace Schema

variable {schema : Schema} {name : String} {place : AdvertisedPlace} {type : ValueType}

/-- The name has a type of some kind. -/
def Declares (schema : Schema) (name : String) : Prop :=
  (∃ object, schema.objectType? name = some object) ∨ schema.knowsScalar name

/-- Validation does not look at arguments. -/
def ArgumentsDeclared (schema : Schema) : Prop :=
  ∀ entry ∈ schema.collections, ∀ argument ∈ entry.2.argumentTable,
    schema.Declares argument.2.type.base.1

/-- A type that resolves has a declared name. -/
theorem declares_of_resolves (resolves : type.Resolves schema) : schema.Declares type.base.1 := by
  cases kind : type.base.2 with
  | object => exact .inl (resolves.object kind)
  | scalar => exact .inr (resolves.scalar kind)

/-- A function gives a value of its own scalar type or of a built-in one. -/
theorem resultName_known {scalarType : String} {operators : Operators}
    {function : AggregateFunction} (known : schema.knowsScalar scalarType)
    (registered : Operators.ofScalar? scalarType = some operators)
    (listed : function ∈ operators.aggregates) :
    schema.knowsScalar (function.resultName scalarType) := by
  have builtIn : ∀ function ∈ operators.aggregates, function.result = .input ∨
      ∃ scalar ∈ BuiltInScalar.all, function.result = .scalar scalar.name := by
    rcases Operators.ofScalar_cases registered with rfl | rfl | rfl <;> decide
  unfold AggregateFunction.resultName
  rcases builtIn function listed with same | ⟨scalar, _, same⟩
  · rw [same]
    exact known
  · rw [same]
    exact schema.knowsScalar_builtIn scalar

/-- Every type that is given outside the arguments resolves in a validated schema. -/
theorem Gives.resolves (gives : schema.Gives place type) (valid : schema.validate = .ok ())
    (outside : ¬ place.IsArgument) : type.Resolves schema := by
  obtain ⟨collections, objects⟩ := validate_ok.mp valid
  cases gives with
  | field declared inside =>
      have checked := (checkObjectType_ok.mp (objects _ declared)).2 _ inside
      exact resolves_of_checkReference (checkProperty_ok.mp checked).2
  | @collection name collection listed =>
      obtain ⟨_, typeName, object, required, known⟩ := checkCollection_ok.mp (collections _ listed)
      rw [← ValueType.required_base, required]
      exact ⟨fun _ => ⟨object, known⟩, by rintro ⟨⟩⟩
  | argument => exact absurd trivial outside
  | operand known => exact ⟨by rintro ⟨⟩, fun _ => known⟩
  | total known registered listed =>
      exact ⟨by rintro ⟨⟩, fun _ => resultName_known known registered listed⟩

end Schema

namespace Advertisement

variable {schema : Schema} {name : String} {place : AdvertisedPlace} {type : ValueType}

/-- An advertisement defines exactly the declared names. -/
theorem defines_iff : (ofSchema schema).Defines name ↔ schema.Declares name := by
  unfold Defines Schema.Declares
  rw [mem_scalarTypes, mem_objectTypes, or_comm]

/-- A validated schema has no dangling reference but in arguments, which nothing checks. Its
advertisement is closed exactly when they name declared types as well. -/
theorem closed_iff_arguments_declared (schema : Schema) (valid : schema.validate = .ok ()) :
    (∀ reference ∈ (ofSchema schema).references, ¬ reference.1.IsArgument →
      (ofSchema schema).Defines reference.2.base) ∧
        ((ofSchema schema).Closed ↔ schema.ArgumentsDeclared) := by
  have outside : ∀ reference ∈ (ofSchema schema).references, ¬ reference.1.IsArgument →
      (ofSchema schema).Defines reference.2.base := by
    rintro ⟨place, advertised⟩ listed noArgument
    obtain ⟨type, gives, rfl⟩ := mem_references.mp listed
    rw [AdvertisedType.base_ofType, defines_iff]
    exact Schema.declares_of_resolves (gives.resolves valid noArgument)
  refine ⟨outside, ?_, ?_⟩
  · rintro closed ⟨name, collection⟩ listed ⟨argumentName, argument⟩ inside
    have defined := closed _ (mem_references.mpr ⟨_, .argument listed inside, rfl⟩)
    rwa [AdvertisedType.base_ofType, defines_iff] at defined
  · rintro declared ⟨place, advertised⟩ listed
    by_cases argument : place.IsArgument
    · obtain ⟨type, gives, rfl⟩ := mem_references.mp listed
      rw [AdvertisedType.base_ofType, defines_iff]
      cases gives with
      | argument known inside => exact declared (_, _) known (_, _) inside
      | _ => cases argument
    · exact outside _ listed argument

end Advertisement

namespace Sample

/-- The orders of a region are asked for by an argument of the given type. -/
def regional (type : ValueType) : Schema :=
  { schema with
    collections := [("orders", ⟨none, [⟨"region", none, type⟩], .orNull (.object "Order")⟩)] }

end Sample

namespace Advertisement

/-- The region is an array of texts. -/
theorem closed_regional_sample :
    (Sample.regional (.array Sample.text)).validate = .ok () ∧
      (Sample.regional (.array Sample.text)).ArgumentsDeclared ∧
        (ofSchema (Sample.regional (.array Sample.text))).Closed := by
  have valid : (Sample.regional (.array Sample.text)).validate = .ok () := by decide +kernel
  have declared : (Sample.regional (.array Sample.text)).ArgumentsDeclared := by
    rintro entry (_ | ⟨_, ⟨⟩⟩) argument (_ | ⟨_, ⟨⟩⟩)
    exact .inr (Schema.knowsScalar_builtIn _ .string)
  exact ⟨valid, declared, (closed_iff_arguments_declared _ valid).2.mpr declared⟩

/-- The type of the region is declared nowhere, and the schema is valid all the same. -/
theorem dangling_argument_advertised :
    (Sample.regional (.scalar "Region")).validate = .ok () ∧
      (.argument "orders" "region", .named "Region") ∈
        (ofSchema (Sample.regional (.scalar "Region"))).references ∧
      ¬ (ofSchema (Sample.regional (.scalar "Region"))).Defines "Region" ∧
        ¬ ∀ schema : Schema, schema.validate = .ok () → (ofSchema schema).Closed := by
  have valid : (Sample.regional (.scalar "Region")).validate = .ok () := by decide +kernel
  have listed : (.argument "orders" "region", .named "Region") ∈
      (ofSchema (Sample.regional (.scalar "Region"))).references := by decide +kernel
  have missing : ¬ (ofSchema (Sample.regional (.scalar "Region"))).Defines "Region" := by
    unfold Defines
    decide +kernel
  exact ⟨valid, listed, missing, fun closed => missing (closed _ valid _ listed)⟩

end Advertisement

end DocumentQuery
