/-
This file lists the types that an advertisement refers to, and it says where a schema gives each of
them with its kind.
-/

import DocumentQuery.Proofs.Advertised.Types
import DocumentQuery.Proofs.Declared.Closure

namespace DocumentQuery

/-- These are the places of an advertisement where a type is named. -/
inductive AdvertisedPlace where
  | field (objectType name : String)
  | collection (name : String)
  | argument (collection name : String)
  | operand (scalarType operator : String)
  | total (scalarType function : String)
  deriving DecidableEq, Repr

/-- This place is the type of an argument. -/
def AdvertisedPlace.IsArgument : AdvertisedPlace → Prop
  | .argument .. => True
  | .field .. | .collection _ | .operand .. | .total .. => False

/-- The base is the name inside every array and nullable wrapper. -/
def AdvertisedType.base : AdvertisedType → String
  | .named name => name
  | .nullable underlying => underlying.base
  | .array element => element.base

/-- An advertised type keeps the name of the type, also inside arrays and nullable wrappers. -/
@[simp] theorem AdvertisedType.base_ofType (type : ValueType) :
    (ofType type).base = type.base.1 := by
  induction type with
  | array element opened => exact opened
  | nullable underlying absence opened => exact opened
  | named name kind => rfl

/-- A reference is an advertised type at its place. -/
abbrev AdvertisedReference := AdvertisedPlace × AdvertisedType

/-- An object type refers to the types of its fields. -/
def AdvertisedObject.references (name : String) (object : AdvertisedObject) :
    List AdvertisedReference :=
  object.fields.map fun (fieldName, field) => (.field name fieldName, field.type)

/-- A collection refers to the types of its documents and of its arguments. -/
def AdvertisedCollection.references (collection : AdvertisedCollection) :
    List AdvertisedReference :=
  (.collection collection.name, .named collection.type) ::
    collection.arguments.map fun (argumentName, argument) =>
      (.argument collection.name argumentName, argument.type)

/-- The equality operator does not say what it is applied to. -/
def AdvertisedComparison.operand? : AdvertisedComparison → Option AdvertisedType
  | .equal => none
  | .custom argument => some argument

/-- A scalar type refers to its operands and to the results of its functions. -/
def AdvertisedScalar.references (name : String) (scalar : AdvertisedScalar) :
    List AdvertisedReference :=
  (scalar.comparisons.filterMap fun (operator, comparison) =>
      comparison.operand?.map fun argument => (.operand name operator, argument)) ++
    scalar.aggregates.map fun (function, result) => (.total name function, result)

namespace Advertisement

/-- This list has every type that the advertisement names. -/
def references (advertisement : Advertisement) : List AdvertisedReference :=
  (advertisement.objectTypes.flatMap fun (name, object) => object.references name) ++
    advertisement.collections.flatMap AdvertisedCollection.references ++
      advertisement.scalarTypes.flatMap fun (name, scalar) => scalar.references name

/-- The name is a scalar type or an object type of the advertisement. -/
def Defines (advertisement : Advertisement) (name : String) : Prop :=
  name ∈ advertisement.scalarTypes.names ∨ name ∈ advertisement.objectTypes.names

/-- No reference of a closed advertisement dangles. -/
def Closed (advertisement : Advertisement) : Prop :=
  ∀ reference ∈ advertisement.references, advertisement.Defines reference.2.base

end Advertisement

/-- A repeated argument keeps its place and takes the later definition. -/
def Collection.argumentTable (collection : Collection) : Table Argument :=
  Table.ofEntries (collection.arguments.map fun argument => (argument.name, argument))

/-- A schema gives a type with its kind to each place of its advertisement. -/
inductive Schema.Gives (schema : Schema) : AdvertisedPlace → ValueType → Prop
  | field {objectName name : String} {object : ObjectType} {property : Property}
      (declared : (objectName, object) ∈ schema.objectTypes)
      (inside : (name, property) ∈ object.properties) :
      Gives schema (.field objectName name) property.type
  | collection {name : String} {collection : Collection}
      (listed : (name, collection) ∈ schema.collections) :
      Gives schema (.collection name)
        (.named collection.resultType.base.1 collection.resultType.base.2)
  | argument {name argumentName : String} {collection : Collection} {argument : Argument}
      (listed : (name, collection) ∈ schema.collections)
      (inside : (argumentName, argument) ∈ collection.argumentTable) :
      Gives schema (.argument name argumentName) argument.type
  | operand {scalarType operator : String} (known : schema.knowsScalar scalarType)
      (compares : Operators.Compares scalarType operator) (other : operator ≠ "eq") :
      Gives schema (.operand scalarType operator) (.scalar scalarType)
  | total {scalarType : String} {operators : Operators} {function : AggregateFunction}
      (known : schema.knowsScalar scalarType)
      (registered : Operators.ofScalar? scalarType = some operators)
      (listed : function ∈ operators.aggregates) :
      Gives schema (.total scalarType function.name) (.scalar (function.resultName scalarType))

namespace Advertisement

variable {schema : Schema} {name : String}

/-- The scalar types that are listed are the known ones, each under its name. -/
theorem mem_scalars {scalar : AdvertisedScalar} :
    (name, scalar) ∈ (ofSchema schema).scalarTypes ↔
      schema.knowsScalar name ∧ scalar = .ofName name := by
  constructor
  · intro listed
    obtain ⟨known, member, same⟩ := List.mem_map.mp (Table.mem_of_mem_ofEntries listed)
    cases same
    exact ⟨Schema.knowsScalar_iff.mpr member, rfl⟩
  · rintro ⟨known, rfl⟩
    exact Table.mem_of_entry (scalar_known known)

/-- A scalar type is listed exactly when it is known. -/
theorem mem_scalarTypes :
    name ∈ (ofSchema schema).scalarTypes.names ↔ schema.knowsScalar name := by
  constructor
  · intro listed
    obtain ⟨scalar, found⟩ := Table.mem_names_iff.mp listed
    exact (mem_scalars.mp (Table.mem_of_entry found)).1
  · intro known
    exact Table.mem_names_iff.mpr ⟨_, scalar_known known⟩

/-- An object type is listed exactly when it is declared. -/
theorem mem_objectTypes :
    name ∈ (ofSchema schema).objectTypes.names ↔
      ∃ object, schema.objectType? name = some object := by
  have named : (ofSchema schema).objectTypes.names = schema.objectTypes.names := by
    simp only [ofSchema, Table.names, List.map_map]
    rfl
  rw [named]
  exact Table.mem_names_iff

end Advertisement

namespace AdvertisedScalar

variable {scalarType operator : String} {type : AdvertisedType}

/-- Every operator but equality is applied to its own scalar type. -/
theorem mem_operands :
    (operator, .custom type) ∈ (ofName scalarType).comparisons ↔
      Operators.Compares scalarType operator ∧ operator ≠ "eq" ∧ type = .named scalarType := by
  rw [comparison_listed]
  refine and_congr_right fun _ => ?_
  split
  next equality => simp [equality]
  next other => simp [other]

/-- A scalar type refers to itself as an operand and to the results of its functions. -/
theorem mem_references {place : AdvertisedPlace} :
    (place, type) ∈ (ofName scalarType).references scalarType ↔
      (∃ operator, Operators.Compares scalarType operator ∧ operator ≠ "eq" ∧
        place = .operand scalarType operator ∧ type = .named scalarType) ∨
      ∃ operators function, Operators.ofScalar? scalarType = some operators ∧
        function ∈ operators.aggregates ∧ place = .total scalarType function.name ∧
          type = .named (function.resultName scalarType) := by
  unfold references
  rw [List.mem_append]
  apply or_congr
  · simp only [List.mem_filterMap, Option.map_eq_some_iff, Prod.mk.injEq, Prod.exists]
    constructor
    · rintro ⟨operator, comparison, listed, argument, custom, rfl, rfl⟩
      cases comparison with
      | equal => cases custom
      | custom given =>
          cases custom
          obtain ⟨compares, other, same⟩ := mem_operands.mp listed
          exact ⟨operator, compares, other, rfl, same⟩
    · rintro ⟨operator, compares, other, rfl, rfl⟩
      exact ⟨operator, _, mem_operands.mpr ⟨compares, other, rfl⟩, _, rfl, rfl, rfl⟩
  · simp only [List.mem_map, Prod.mk.injEq, Prod.exists]
    constructor
    · rintro ⟨function, result, listed, rfl, rfl⟩
      obtain ⟨operators, definition, registered, member, rfl, same⟩ := total_listed.mp listed
      exact ⟨operators, definition, registered, member, rfl, same⟩
    · rintro ⟨operators, definition, registered, member, rfl, rfl⟩
      exact ⟨_, _, total_listed.mpr ⟨operators, definition, registered, member, rfl, rfl⟩, rfl, rfl⟩

end AdvertisedScalar

namespace Advertisement

variable {schema : Schema} {place : AdvertisedPlace} {type : AdvertisedType}

/-- The arguments of a collection are listed with their descriptions and types. -/
theorem arguments_ofCollection (name : String) (collection : Collection) :
    (AdvertisedCollection.ofCollection name collection).arguments =
      collection.argumentTable.map fun entry =>
        (entry.1, ⟨entry.2.description, .ofType entry.2.type⟩) := by
  rw [Collection.argumentTable,
    ← Table.ofEntries_map _ fun argument : Argument =>
      (⟨argument.description, .ofType argument.type⟩ : AdvertisedField),
    List.map_map]
  rfl

/-- Object types refer to the types of their properties. -/
theorem mem_objectReferences :
    (place, type) ∈ (ofSchema schema).objectTypes.flatMap
        (fun (name, object) => object.references name) ↔
      ∃ objectName object name property, (objectName, object) ∈ schema.objectTypes ∧
        (name, property) ∈ object.properties ∧ place = .field objectName name ∧
          type = .ofType property.type := by
  simp only [ofSchema, List.flatMap_map, AdvertisedObject.references, AdvertisedObject.ofObjectType,
    List.map_map, List.mem_flatMap, List.mem_map, Function.comp_apply, Prod.exists, Prod.mk.injEq,
    @eq_comm _ _ place, @eq_comm _ _ type]
  constructor
  · rintro ⟨objectName, object, declared, name, property, inside, here, given⟩
    exact ⟨objectName, object, name, property, declared, inside, here, given⟩
  · rintro ⟨objectName, object, name, property, declared, inside, here, given⟩
    exact ⟨objectName, object, declared, name, property, inside, here, given⟩

/-- Collections refer to the types of their documents and of their arguments. -/
theorem mem_collectionReferences :
    (place, type) ∈ (ofSchema schema).collections.flatMap AdvertisedCollection.references ↔
      ∃ name collection, (name, collection) ∈ schema.collections ∧
        ((place = .collection name ∧ type = .named collection.resultType.base.1) ∨
          ∃ argumentName argument, (argumentName, argument) ∈ collection.argumentTable ∧
            place = .argument name argumentName ∧ type = .ofType argument.type) := by
  simp only [ofSchema, List.flatMap_map, AdvertisedCollection.references, arguments_ofCollection,
    List.map_map, List.mem_flatMap, List.mem_cons, List.mem_map, Function.comp_apply, Prod.exists,
    Prod.mk.injEq, @eq_comm _ _ place, @eq_comm _ _ type]
  rfl

/-- The references of an advertisement are the types that the schema gives, without their kinds. -/
theorem mem_references :
    (place, type) ∈ (ofSchema schema).references ↔
      ∃ given, schema.Gives place given ∧ type = .ofType given := by
  rw [references, List.mem_append, List.mem_append, mem_objectReferences, mem_collectionReferences]
  simp only [List.mem_flatMap, Prod.exists, mem_scalars]
  constructor
  · rintro ((objects | collections) | ⟨scalarType, _, ⟨known, rfl⟩, listed⟩)
    · obtain ⟨objectName, object, name, property, declared, inside, rfl, rfl⟩ := objects
      exact ⟨_, .field declared inside, rfl⟩
    · obtain ⟨name, collection, listed, here | argument⟩ := collections
      · obtain ⟨rfl, rfl⟩ := here
        exact ⟨_, .collection listed, rfl⟩
      · obtain ⟨argumentName, argument, inside, rfl, rfl⟩ := argument
        exact ⟨_, .argument listed inside, rfl⟩
    · rcases AdvertisedScalar.mem_references.mp listed with operand | total
      · obtain ⟨operator, compares, other, rfl, rfl⟩ := operand
        exact ⟨_, .operand known compares other, rfl⟩
      · obtain ⟨operators, function, registered, member, rfl, rfl⟩ := total
        exact ⟨_, .total known registered member, rfl⟩
  · rintro ⟨given, gives, rfl⟩
    cases gives with
    | field declared inside =>
        exact .inl (.inl ⟨_, _, _, _, declared, inside, rfl, rfl⟩)
    | collection listed => exact .inl (.inr ⟨_, _, listed, .inl ⟨rfl, rfl⟩⟩)
    | argument listed inside =>
        exact .inl (.inr ⟨_, _, listed, .inr ⟨_, _, inside, rfl, rfl⟩⟩)
    | operand known compares other =>
        refine .inr ⟨_, _, ⟨known, rfl⟩, AdvertisedScalar.mem_references.mpr (.inl ?_)⟩
        exact ⟨_, compares, other, rfl, rfl⟩
    | total known registered member =>
        refine .inr ⟨_, _, ⟨known, rfl⟩, AdvertisedScalar.mem_references.mpr (.inr ?_)⟩
        exact ⟨_, _, registered, member, rfl, rfl⟩

end Advertisement

end DocumentQuery
