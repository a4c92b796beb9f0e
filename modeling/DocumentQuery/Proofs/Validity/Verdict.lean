/-
This file lists what is required of a schema, and it proves that the checks accept the schemas that
meet every requirement and report the first one that is not met.
-/

import DocumentQuery.Proofs.Advertised.Types
import DocumentQuery.Proofs.Validation
import DocumentQuery.Proofs.Validity.Spelling

namespace DocumentQuery

/-- A requirement that does not hold is reported as a violation. -/
structure Requirement where
  Holds : Prop
  violation : SchemaViolation

namespace Requirement

/-- The requirements are judged in order, up to the first one that does not hold. -/
inductive Judged : List Requirement → Except SchemaViolation Unit → Prop
  | accepted : Judged [] (.ok ())
  | rejected {requirement : Requirement} {rest : List Requirement}
      (unmet : ¬ requirement.Holds) : Judged (requirement :: rest) (.error requirement.violation)
  | later {requirement : Requirement} {rest : List Requirement}
      {verdict : Except SchemaViolation Unit} (met : requirement.Holds)
      (judged : Judged rest verdict) : Judged (requirement :: rest) verdict

namespace Judged

variable {requirement : Requirement} {requirements others : List Requirement}
  {check another : Except SchemaViolation Unit}

/-- A check that is made for one requirement judges it. -/
theorem single (met : requirement.Holds → check = .ok ())
    (unmet : ¬ requirement.Holds → check = .error requirement.violation) :
    Judged [requirement] check := by
  by_cases holds : requirement.Holds
  · rw [met holds]
    exact .later holds .accepted
  · rw [unmet holds]
    exact .rejected holds

/-- The second check is made only when the first one accepts. -/
theorem append (first : Judged requirements check) (second : Judged others another) :
    Judged (requirements ++ others) (check >>= fun _ => another) := by
  induction first with
  | accepted => exact second
  | rejected unmet => exact .rejected unmet
  | later met _ continued => exact .later met continued

/-- A check of each item judges the requirements of all items in their order. -/
theorem forM {Item : Type} {items : List Item} {check : Item → Except SchemaViolation Unit}
    {required : Item → List Requirement} (each : ∀ item, Judged (required item) (check item)) :
    Judged (items.flatMap required) (items.forM check) := by
  induction items with
  | nil => exact .accepted
  | cons first rest continued => exact append (each first) continued

/-- A check accepts when every requirement that it judges holds. -/
theorem accepts_iff (judged : Judged requirements check) :
    check = .ok () ↔ ∀ requirement ∈ requirements, requirement.Holds := by
  induction judged with
  | accepted => simp
  | rejected unmet => simp [unmet]
  | later met _ continued => rw [continued, List.forall_mem_cons, and_iff_right met]

/-- A check reports the first requirement that does not hold. -/
theorem rejects_iff (judged : Judged requirements check) (violation : SchemaViolation) :
    check = .error violation ↔
      ∃ before unmet after, requirements = before ++ unmet :: after ∧
        (∀ requirement ∈ before, requirement.Holds) ∧ ¬ unmet.Holds ∧
          unmet.violation = violation := by
  induction judged with
  | accepted => simp
  | @rejected requirement rest unmet =>
      constructor
      · rintro ⟨⟩
        exact ⟨[], requirement, rest, rfl, List.forall_mem_nil _, unmet, rfl⟩
      · rintro ⟨before, other, after, listed, met, _, rfl⟩
        cases before with
        | nil =>
            cases listed
            rfl
        | cons first before =>
            cases listed
            exact absurd (met requirement List.mem_cons_self) unmet
  | @later requirement rest verdict met _ continued =>
      rw [continued]
      constructor
      · rintro ⟨before, unmet, after, rfl, others, fails, same⟩
        exact ⟨requirement :: before, unmet, after, rfl,
          List.forall_mem_cons.mpr ⟨met, others⟩, fails, same⟩
      · rintro ⟨before, unmet, after, listed, others, fails, same⟩
        cases before with
        | nil =>
            cases listed
            exact absurd met fails
        | cons first before =>
            cases listed
            exact ⟨before, unmet, after, rfl, (List.forall_mem_cons.mp others).2, fails, same⟩

end Judged

end Requirement

namespace Schema

/-- A known type is a declared object type, or a scalar type that is built in or declared. -/
def Knows (schema : Schema) : String × NamedKind → Prop
  | (name, .object) => name ∈ schema.objectTypes.names
  | (name, .scalar) => (∃ builtIn : BuiltInScalar, builtIn.name = name) ∨
      name ∈ schema.scalarTypes.names

/-- Every name can be written without quotes, and every type that is referred to is known. -/
structure Valid (schema : Schema) : Prop where
  collectionNames : ∀ entry ∈ schema.collections,
    Identifier.Matches entry.1 ∧ ¬ Identifier.SpellsKeyword entry.1
  resultTypes : ∀ entry ∈ schema.collections, ∃ name,
    entry.2.resultType.required = .named name .object ∧ name ∈ schema.objectTypes.names
  objectNames : ∀ entry ∈ schema.objectTypes, Identifier.Matches entry.1
  propertyNames : ∀ entry ∈ schema.objectTypes, ∀ property ∈ entry.2.properties,
    Identifier.Matches property.1
  propertyTypes : ∀ entry ∈ schema.objectTypes, ∀ property ∈ entry.2.properties,
    schema.Knows property.2.type.base

def nameRequirement (kind : NameKind) (name : String) : Requirement :=
  ⟨Identifier.Matches name, .invalidIdentifier kind name⟩

/-- The result type has two requirements: it is a named object, and the object type is declared. -/
def collectionRequirements (schema : Schema) (entry : String × Collection) : List Requirement :=
  [nameRequirement .collection entry.1,
    ⟨¬ Identifier.SpellsKeyword entry.1, .reservedCollectionName entry.1⟩,
    ⟨∃ name, entry.2.resultType.required = .named name .object, .invalidCollectionType entry.1⟩,
    ⟨entry.2.resultType.base.1 ∈ schema.objectTypes.names,
      .unknownObjectType entry.2.resultType.base.1 (.collection entry.1)⟩]

/-- The kind of an unknown type decides how it is reported. -/
def unknownType (referrer : Referrer) : String × NamedKind → SchemaViolation
  | (name, .object) => .unknownObjectType name referrer
  | (name, .scalar) => .unknownScalarType name referrer

/-- A property has two requirements: its name is safe, and its type is known. -/
def propertyRequirements (schema : Schema) (objectName : String) (entry : String × Property) :
    List Requirement :=
  [nameRequirement .property entry.1,
    ⟨schema.Knows entry.2.type.base,
      unknownType (.property objectName entry.1) entry.2.type.base⟩]

/-- The name of an object type comes before its properties. -/
def objectTypeRequirements (schema : Schema) (entry : String × ObjectType) : List Requirement :=
  nameRequirement .objectType entry.1 ::
    entry.2.properties.flatMap (schema.propertyRequirements entry.1)

/-- Collections come before object types, and each object type is followed by its properties. -/
def requirements (schema : Schema) : List Requirement :=
  schema.collections.flatMap schema.collectionRequirements ++
    schema.objectTypes.flatMap schema.objectTypeRequirements

variable {schema : Schema}

open Requirement

/-- A name is checked against its one requirement. -/
theorem checkName_judged (kind : NameKind) (name : String) :
    Judged [nameRequirement kind name] (checkName kind name) := by
  refine Judged.single (fun safe => ?_) (fun refused => ?_)
  · exact checkName_ok.mpr (Identifier.isSafe_iff_matches.mpr safe)
  · exact if_neg fun safe => refused (Identifier.isSafe_iff_matches.mp safe)

/-- An object type is found exactly when its name is declared. -/
theorem isSome_objectType_iff {name : String} :
    (schema.objectType? name).isSome ↔ name ∈ schema.objectTypes.names := by
  rw [Option.isSome_iff_exists]
  exact Table.mem_names_iff.symm

/-- A scalar type is known exactly when it is built in or declared. -/
theorem knows_scalar_iff {name : String} :
    schema.Knows (name, .scalar) ↔ schema.knowsScalar name := by
  rw [knowsScalar_iff, List.mem_append, List.mem_map]
  constructor
  · rintro (⟨builtIn, same⟩ | declared)
    · exact .inl ⟨builtIn, by cases builtIn <;> decide, same⟩
    · exact .inr declared
  · rintro (⟨builtIn, _, same⟩ | declared)
    · exact .inl ⟨builtIn, same⟩
    · exact .inr declared

/-- A reference is checked by the kind of the type that it names. -/
theorem checkReference_judged (referrer : Referrer) (type : ValueType) :
    Judged [⟨schema.Knows type.base, unknownType referrer type.base⟩]
      (schema.checkReference referrer type) := by
  unfold checkReference
  rcases type.base with ⟨name, kind⟩
  cases kind with
  | object =>
      refine Judged.single (fun known => ?_) (fun unknown => ?_)
      · exact if_pos (isSome_objectType_iff.mpr known)
      · exact if_neg fun known => unknown (isSome_objectType_iff.mp known)
  | scalar =>
      refine Judged.single (fun known => ?_) (fun unknown => ?_)
      · exact if_pos (knows_scalar_iff.mp known)
      · exact if_neg fun known => unknown (knows_scalar_iff.mpr known)

/-- A property is checked for its name and then for its type. -/
theorem checkProperty_judged (objectName : String) (entry : String × Property) :
    Judged (schema.propertyRequirements objectName entry)
      (schema.checkProperty objectName entry.1 entry.2) :=
  (checkName_judged .property entry.1).append (checkReference_judged _ entry.2.type)

/-- An object type is checked for its name and then property by property. -/
theorem checkObjectType_judged (entry : String × ObjectType) :
    Judged (schema.objectTypeRequirements entry) (schema.checkObjectType entry.1 entry.2) :=
  (checkName_judged .objectType entry.1).append (Judged.forM (schema.checkProperty_judged entry.1))

/-- Once the name is accepted, the shape of the result type is looked at before its name. -/
theorem checkCollection_judged (entry : String × Collection) :
    Judged (schema.collectionRequirements entry) (schema.checkCollection entry.1 entry.2) := by
  obtain ⟨name, collection⟩ := entry
  refine (checkName_judged .collection name).append ?_
  by_cases keyword : Identifier.isKeyword name
  · rw [if_pos keyword]
    exact .rejected (not_not_intro (Identifier.isKeyword_iff.mp keyword))
  · rw [if_neg keyword]
    refine .later (fun spelled => keyword (Identifier.isKeyword_iff.mpr spelled)) ?_
    rcases collection.resultType.required_cases with
      ⟨element, required⟩ | ⟨typeName, kind, required⟩
    · rw [required]
      exact .rejected (by simp)
    · rw [required]
      cases kind with
      | scalar => exact .rejected (by simp)
      | object =>
          refine .later ⟨typeName, rfl⟩ ?_
          have absent : (schema.objectType? typeName).isNone ↔
              typeName ∉ schema.objectTypes.names := by
            rw [← isSome_objectType_iff]
            cases schema.objectType? typeName <;> simp
          simp only [ValueType.base_of_required required]
          refine Judged.single (fun known => ?_) (fun unknown => ?_)
          · exact if_neg fun missing => absent.mp missing known
          · exact if_pos (absent.mpr unknown)

/-- The checks of a schema judge all of its requirements in their order. -/
theorem validate_judged (schema : Schema) : Judged schema.requirements schema.validate :=
  (Judged.forM schema.checkCollection_judged).append (Judged.forM schema.checkObjectType_judged)

/-- A collection has a plain name and documents of a declared object type. -/
theorem collection_requirements_hold {entry : String × Collection} :
    (∀ requirement ∈ schema.collectionRequirements entry, requirement.Holds) ↔
      (Identifier.Matches entry.1 ∧ ¬ Identifier.SpellsKeyword entry.1) ∧
        ∃ name, entry.2.resultType.required = .named name .object ∧
          name ∈ schema.objectTypes.names := by
  simp only [collectionRequirements, nameRequirement, List.forall_mem_cons, List.not_mem_nil,
    IsEmpty.forall_iff, implies_true, and_true]
  constructor
  · rintro ⟨safe, free, ⟨name, required⟩, declared⟩
    rw [ValueType.base_of_required required] at declared
    exact ⟨⟨safe, free⟩, name, required, declared⟩
  · rintro ⟨⟨safe, free⟩, name, required, declared⟩
    rw [ValueType.base_of_required required]
    exact ⟨safe, free, ⟨name, required⟩, declared⟩

/-- An object type has a safe name and properties with safe names and known types. -/
theorem objectType_requirements_hold {entry : String × ObjectType} :
    (∀ requirement ∈ schema.objectTypeRequirements entry, requirement.Holds) ↔
      Identifier.Matches entry.1 ∧ ∀ property ∈ entry.2.properties,
        Identifier.Matches property.1 ∧ schema.Knows property.2.type.base := by
  simp only [objectTypeRequirements, propertyRequirements, nameRequirement, List.forall_mem_cons,
    List.forall_mem_flatMap, List.not_mem_nil, IsEmpty.forall_iff, implies_true, and_true]

/-- A schema is valid when it meets every requirement. -/
theorem valid_iff : schema.Valid ↔ ∀ requirement ∈ schema.requirements, requirement.Holds := by
  simp only [requirements, List.forall_mem_append, List.forall_mem_flatMap,
    collection_requirements_hold, objectType_requirements_hold]
  constructor
  · rintro ⟨collectionNames, resultTypes, objectNames, propertyNames, propertyTypes⟩
    refine ⟨fun entry member => ⟨collectionNames entry member, resultTypes entry member⟩,
      fun entry member => ⟨objectNames entry member, fun property inside => ?_⟩⟩
    exact ⟨propertyNames entry member property inside, propertyTypes entry member property inside⟩
  · rintro ⟨collections, objects⟩
    exact
      { collectionNames := fun entry member => (collections entry member).1
        resultTypes := fun entry member => (collections entry member).2
        objectNames := fun entry member => (objects entry member).1
        propertyNames := fun entry member property inside =>
          ((objects entry member).2 property inside).1
        propertyTypes := fun entry member property inside =>
          ((objects entry member).2 property inside).2 }

/-- The checks accept exactly the valid schemas, and they refuse any other schema with the first
requirement that it does not meet. -/
theorem validate_reports_first_violation (schema : Schema) :
    (schema.validate = .ok () ↔ schema.Valid) ∧
      ∀ violation, schema.validate = .error violation ↔
        ∃ before unmet after, schema.requirements = before ++ unmet :: after ∧
          (∀ requirement ∈ before, requirement.Holds) ∧ ¬ unmet.Holds ∧
            unmet.violation = violation := by
  have judged := validate_judged schema
  exact ⟨judged.accepts_iff.trans valid_iff.symm, judged.rejects_iff⟩

/-- A keyword is one in any case of its letters, and it is reported before the unknown type. -/
example : validate ⟨[("Order", ⟨none, [], .object "Line"⟩)],
    [("Line", ⟨none, [("place", ⟨none, none, .scalar "Point"⟩)]⟩)], []⟩ =
      .error (.reservedCollectionName "Order") := by
  decide +kernel

end Schema

end DocumentQuery
