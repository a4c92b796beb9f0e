/-
This file says when a type name has one kind in an advertisement, which keeps no kinds.
-/

import DocumentQuery.Proofs.Advertised.Closure

namespace DocumentQuery

/-- An object type and a scalar type have the same name. -/
def Schema.SharesName (schema : Schema) (name : String) : Prop :=
  (∃ object, schema.objectType? name = some object) ∧ schema.knowsScalar name

namespace Advertisement

variable {schema : Schema} {name : String} {kind : NamedKind} {type : ValueType}

/-- The advertisement lists a type of this name and kind. -/
def Lists (advertisement : Advertisement) (name : String) : NamedKind → Prop
  | .object => name ∈ advertisement.objectTypes.names
  | .scalar => name ∈ advertisement.scalarTypes.names

/-- The name is listed with this kind and with no other. -/
def Identifies (advertisement : Advertisement) (name : String) : NamedKind → Prop
  | .object => name ∈ advertisement.objectTypes.names ∧ name ∉ advertisement.scalarTypes.names
  | .scalar => name ∈ advertisement.scalarTypes.names ∧ name ∉ advertisement.objectTypes.names

/-- A type that resolves is listed with its own kind. -/
theorem lists_of_resolves (resolves : type.Resolves schema) :
    (ofSchema schema).Lists type.base.1 type.base.2 := by
  cases kind : type.base.2 with
  | object => exact mem_objectTypes.mpr (resolves.object kind)
  | scalar => exact mem_scalarTypes.mpr (resolves.scalar kind)

/-- A listed kind is the only one of its name unless the name is shared. -/
theorem identifies_iff :
    (ofSchema schema).Identifies name kind ↔
      (ofSchema schema).Lists name kind ∧ ¬ schema.SharesName name := by
  unfold Schema.SharesName
  rw [← mem_objectTypes, ← mem_scalarTypes]
  cases kind with
  | object => exact and_congr_right fun object => not_congr (and_iff_right object).symm
  | scalar => exact and_congr_right fun scalar => not_congr (and_iff_left scalar).symm

/-- Only a shared name is listed with two kinds. -/
theorem kind_unique {other : NamedKind} (one : (ofSchema schema).Lists name kind)
    (another : (ofSchema schema).Lists name other) (unshared : ¬ schema.SharesName name) :
    kind = other := by
  have shared (object : (ofSchema schema).Lists name .object)
      (scalar : (ofSchema schema).Lists name .scalar) : schema.SharesName name :=
    ⟨mem_objectTypes.mp object, mem_scalarTypes.mp scalar⟩
  cases kind with
  | object =>
      cases other with
      | object => rfl
      | scalar => exact absurd (shared one another) unshared
  | scalar =>
      cases other with
      | object => exact absurd (shared another one) unshared
      | scalar => rfl

/-- In the advertisement of a validated schema, the names of two kinds are those that an object type
shares with a scalar type. Every type that is given there, unless it is an argument that does not
resolve, is listed with its own kind and, if its name is not shared, with no other; so two such
types that are advertised alike differ in kind only under a shared name. -/
theorem kinds_apart_unless_shared (schema : Schema) (valid : schema.validate = .ok ()) :
    (∀ name, name ∈ (ofSchema schema).scalarTypes.names ∧
      name ∈ (ofSchema schema).objectTypes.names ↔ schema.SharesName name) ∧
    (∀ place type, schema.Gives place type → (place.IsArgument → type.Resolves schema) →
      (ofSchema schema).Lists type.base.1 type.base.2 ∧
        ((ofSchema schema).Identifies type.base.1 type.base.2 ↔
          ¬ schema.SharesName type.base.1)) ∧
    ∀ place other first second, schema.Gives place first → schema.Gives other second →
      (place.IsArgument → first.Resolves schema) → (other.IsArgument → second.Resolves schema) →
        AdvertisedType.ofType first = .ofType second → ¬ schema.SharesName first.base.1 →
          first.base.2 = second.base.2 := by
  have listed (place : AdvertisedPlace) (type : ValueType) (gives : schema.Gives place type)
      (resolves : place.IsArgument → type.Resolves schema) :
      (ofSchema schema).Lists type.base.1 type.base.2 := by
    by_cases argument : place.IsArgument
    · exact lists_of_resolves (resolves argument)
    · exact lists_of_resolves (gives.resolves valid argument)
  refine ⟨?_, ?_, ?_⟩
  · intro name
    rw [mem_scalarTypes, mem_objectTypes, Schema.SharesName, and_comm]
  · intro place type gives resolves
    have here := listed place type gives resolves
    exact ⟨here, identifies_iff.trans (and_iff_right here)⟩
  · intro place other first second gives gives' resolves resolves' alike unshared
    have one := listed place first gives resolves
    have another := listed other second gives' resolves'
    have named : first.base.1 = second.base.1 := by
      rw [← AdvertisedType.base_ofType, alike, AdvertisedType.base_ofType]
    rw [← named] at another
    exact kind_unique one another unshared

end Advertisement

namespace Sample

/-- An object type is named like the built-in type of texts, and an order has properties of both. -/
def shared : Schema where
  collections := [("orders", ⟨none, [], .object "Order"⟩)]
  objectTypes :=
    [("Order", ⟨none, [("id", property text), ("note", property (.object "String"))]⟩),
      ("String", ⟨none, []⟩)]
  scalarTypes := []

end Sample

namespace Advertisement

/-- The sample shares no name, so its orders are objects only. -/
theorem kinds_apart_sample :
    Sample.schema.validate = .ok () ∧
      Sample.schema.Gives (.collection "orders") (.named "Order" .object) ∧
        (ofSchema Sample.schema).Identifies "Order" .object := by
  have valid : Sample.schema.validate = .ok () := by decide +kernel
  have listed : ("orders", ⟨none, [], .orNull (.object "Order")⟩) ∈ Sample.schema.collections :=
    .head _
  have gives : Sample.schema.Gives (.collection "orders") (.named "Order" .object) :=
    .collection listed
  have unshared : ¬ Sample.schema.SharesName "Order" := by
    rintro ⟨_, scalar⟩
    revert scalar
    decide
  obtain ⟨_, kinds, _⟩ := kinds_apart_unless_shared Sample.schema valid
  exact ⟨valid, gives, (kinds _ _ gives (by rintro ⟨⟩)).2.mpr unshared⟩

/-- A valid schema lists a name with both kinds and advertises two of its properties alike, although
one is a text and the other one an object. -/
theorem shared_name_advertised :
    Sample.shared.validate = .ok () ∧
      "String" ∈ (ofSchema Sample.shared).scalarTypes.names ∧
      "String" ∈ (ofSchema Sample.shared).objectTypes.names ∧
      Sample.shared.Gives (.field "Order" "id") (.scalar "String") ∧
      Sample.shared.Gives (.field "Order" "note") (.object "String") ∧
      AdvertisedType.ofType (.scalar "String") = .ofType (.object "String") ∧
      ¬ ∀ schema : Schema, schema.validate = .ok () → ∀ name,
        ¬ (name ∈ (ofSchema schema).scalarTypes.names ∧
          name ∈ (ofSchema schema).objectTypes.names) := by
  have valid : Sample.shared.validate = .ok () := by decide +kernel
  have scalar : "String" ∈ (ofSchema Sample.shared).scalarTypes.names := by decide +kernel
  have object : "String" ∈ (ofSchema Sample.shared).objectTypes.names := by decide +kernel
  have order : ("Order", ⟨none, [("id", Sample.property Sample.text),
      ("note", Sample.property (.object "String"))]⟩) ∈ Sample.shared.objectTypes := .head _
  exact ⟨valid, scalar, object, .field order (.head _), .field order (.tail _ (.head _)), rfl,
    fun apart => apart _ valid _ ⟨scalar, object⟩⟩

end Advertisement

end DocumentQuery
