/-
This file says which fields, operators and functions an advertisement lists.
-/

import DocumentQuery.Proofs.Registry
import DocumentQuery.Proofs.WellFormed
import DocumentQuery.Schema.Advertisement

namespace DocumentQuery

namespace AdvertisedScalar

variable {scalarType name : String}

/-- The operators that are advertised are the binary ones. Every operator but equality says that it
is applied to its own scalar type. -/
theorem comparison_listed {comparison : AdvertisedComparison} :
    (name, comparison) ∈ (ofName scalarType).comparisons ↔
      Operators.Compares scalarType name ∧
        comparison = if name = "eq" then .equal else .custom (.named scalarType) := by
  unfold ofName Operators.Compares
  cases known : Operators.ofScalar? scalarType with
  | none => simp
  | some operators =>
      simp only [comparisonsOf, List.mem_map, List.mem_filter, decide_eq_true_eq, Prod.mk.injEq]
      constructor
      · rintro ⟨operator, ⟨member, other⟩, rfl, rfl⟩
        refine ⟨⟨operators, operator, rfl, member, rfl, ?_⟩, rfl⟩
        simpa [Operators.unary_iff known member] using other
      · rintro ⟨⟨_, operator, ⟨⟩, member, rfl, binary⟩, rfl⟩
        refine ⟨operator, ⟨member, ?_⟩, rfl, rfl⟩
        simpa [Operators.unary_iff known member] using binary

/-- The operators that are listed are those the scalar type compares with. -/
theorem mem_comparisons :
    name ∈ (ofName scalarType).comparisons.names ↔ Operators.Compares scalarType name := by
  simp only [Table.names, List.mem_map, Prod.exists, exists_and_right, exists_eq_right,
    comparison_listed]

/-- Each function of a scalar type is listed with the type of its result. -/
theorem total_listed {type : AdvertisedType} :
    (name, type) ∈ (ofName scalarType).aggregates ↔
      ∃ operators definition, Operators.ofScalar? scalarType = some operators ∧
        definition ∈ operators.aggregates ∧ definition.name = name ∧
          type = .named (definition.resultName scalarType) := by
  unfold ofName
  cases known : Operators.ofScalar? scalarType with
  | none => simp
  | some operators =>
      simp only [aggregatesOf, List.mem_map, Prod.mk.injEq, Option.some.injEq, exists_and_left,
        exists_eq_left', @eq_comm _ _ type]

/-- The functions that are listed are those the scalar type aggregates with. -/
theorem mem_aggregates :
    name ∈ (ofName scalarType).aggregates.names ↔ Operators.Aggregates scalarType name := by
  unfold Operators.Aggregates
  simp only [Table.names, List.mem_map, Prod.exists, exists_and_right, exists_eq_right,
    total_listed]
  constructor
  · rintro ⟨_, operators, definition, registered, member, named, _⟩
    exact ⟨operators, definition, registered, member, named⟩
  · rintro ⟨operators, definition, registered, member, named⟩
    exact ⟨_, operators, definition, registered, member, named, rfl⟩

end AdvertisedScalar

/-- The fields that are listed are the declared properties. -/
theorem AdvertisedObject.mem_fields {object : ObjectType} {name : String} :
    name ∈ (ofObjectType object).fields.names ↔
      ∃ property, object.property? name = some property := by
  have named : (ofObjectType object).fields.names = object.properties.names := by
    simp only [ofObjectType, Table.names, List.map_map]
    rfl
  rw [named]
  exact Table.mem_names_iff

namespace Schema

variable {schema : Schema} {name : String}

/-- The scalar types that are listed are the known ones. -/
theorem knowsScalar_iff :
    schema.knowsScalar name ↔
      name ∈ BuiltInScalar.all.map BuiltInScalar.name ++ schema.scalarTypes.names := by
  rw [knowsScalar, Bool.or_eq_true, List.mem_append]
  apply or_congr
  · rw [BuiltInScalar.ofName?, List.find?_isSome, List.mem_map]
    simp only [decide_eq_true_eq]
  · rw [Option.isSome_iff_exists]
    exact Table.mem_names_iff.symm

/-- Every schema knows the built-in scalar types. -/
theorem knowsScalar_builtIn (schema : Schema) (scalar : BuiltInScalar) :
    schema.knowsScalar scalar.name := by
  refine knowsScalar_iff.mpr (List.mem_append_left _ (List.mem_map.mpr ⟨scalar, ?_, rfl⟩))
  cases scalar <;> decide

end Schema

namespace Advertisement

variable {schema : Schema} {name : String}

/-- Every scalar type is advertised under its own operators, also when it is declared with the name
of a built-in one. -/
theorem scalar_known (known : schema.knowsScalar name) :
    (ofSchema schema).scalarTypes.entry? name = some (.ofName name) :=
  Table.entry_ofEntries AdvertisedScalar.ofName (Schema.knowsScalar_iff.mp known)

/-- A declared object type is advertised under its name. -/
theorem object_declared {object : ObjectType} (declared : schema.objectType? name = some object) :
    (ofSchema schema).objectTypes.entry? name = some (.ofObjectType object) := by
  have found := Table.entry_map schema.objectTypes AdvertisedObject.ofObjectType name
  change schema.objectTypes.entry? name = some object at declared
  rw [declared] at found
  exact found

/-- Every collection of the schema is advertised. -/
theorem collection_listed {collection : Collection}
    (listed : schema.collection? name = some collection) :
    AdvertisedCollection.ofCollection name collection ∈ (ofSchema schema).collections :=
  List.mem_map.mpr ⟨(name, collection), Table.mem_of_entry listed, rfl⟩

end Advertisement

end DocumentQuery
