/-
This file proves that schemas and configurations survive being written and read, so that a service
does the same with the configuration that is read back.
-/

import DocumentQuery.Proofs.RoundTrip.Record
import DocumentQuery.Service.Execution

namespace DocumentQuery

open Source

theorem NamedKind.choices_restore (tagged : Bool) (room : Nat) (kind : NamedKind) :
    Restores (choice? choices tagged) room (.string kind.text) kind :=
  choice?_restores tagged room (by cases kind <;> rfl)

theorem Absence.choices_restore (tagged : Bool) (room : Nat) (absence : Absence) :
    Restores (choice? choices tagged) room (.string absence.text) absence :=
  choice?_restores tagged room (by cases absence <;> rfl)

/-- A type inside another one is read as part of a tagged value. -/
theorem ValueType.read?_restores (tagged : Bool) (room : Nat) (type : ValueType) :
    Restores (read? tagged) room type.toJson type := by
  induction type generalizing tagged room with
  | array element continued =>
      refine restores_tagged variants tagged ["elementType"] (by decide) rfl
        fun room _ fits opened => ?_
      have inside := Fields.required?_written "elementType" fits rfl (continued true room)
      exact reads_next opened (reads_next inside rfl)
  | nullable underlying absence continued =>
      cases absence with
      | none =>
          refine restores_tagged variants tagged ["underlyingType"] (by decide) rfl
            fun room _ fits opened => ?_
          have inside := Fields.required?_written "underlyingType" fits rfl (continued true room)
          have unstated : (Fields.written [("underlyingType", underlying.toJson)]).optional?
              "nullOrUndefinability" (choice? Absence.choices true room) = some none :=
            Fields.optional?_absent "nullOrUndefinability" rfl
          exact reads_next opened (reads_next inside (reads_next unstated rfl))
      | some absence =>
          refine restores_tagged variants tagged ["underlyingType", "nullOrUndefinability"]
            (by decide) rfl fun room _ fits opened => ?_
          have inside := Fields.required?_written "underlyingType" fits rfl (continued true room)
          have stated := Fields.optional?_present "nullOrUndefinability" fits rfl nofun
            (Absence.choices_restore true room absence)
          exact reads_next opened (reads_next inside (reads_next stated rfl))
  | named name kind =>
      refine restores_tagged variants tagged ["name", "kind"] (by decide) rfl
        fun room _ fits opened => ?_
      have named := Fields.required?_written "name" fits rfl (string?_restores room name)
      have sorted := Fields.required?_written "kind" fits rfl
        (NamedKind.choices_restore true room kind)
      exact reads_next opened (reads_next named (reads_next sorted rfl))

/-- A description that is missing is read as missing. -/
theorem description_written {members : Table Json} {room : Nat} {description : Option String}
    (fits : Fits room members)
    (found : Table.entry? members "description" = some (.ofOption .string description)) :
    (Fields.written members).optional? "description" string? = some description :=
  Fields.optional?_written "description" fits found nofun fun text _ => string?_restores room text

/-- An argument is read back with its description. -/
theorem Argument.read?_restores (room : Nat) (argument : Argument) :
    Restores read? room argument.toJson argument := by
  refine restores_record ["argumentName", "description", "type"]
    ["argumentName", "description", "type"] (by decide) rfl fun room _ fits opened => ?_
  have named := Fields.required?_written "argumentName" fits rfl
    (string?_restores room argument.name)
  have described := description_written fits rfl
  have typed := Fields.required?_written "type" fits rfl
    (ValueType.read?_restores false room argument.type)
  exact reads_next opened (reads_next named (reads_next described (reads_next typed rfl)))

/-- A collection is read back with its arguments in their order. -/
theorem Collection.read?_restores (room : Nat) (collection : Collection) :
    Restores read? room collection.toJson collection := by
  refine restores_record ["description", "arguments", "resultType"]
    ["description", "arguments", "resultType"] (by decide) rfl fun room _ fits opened => ?_
  have described := description_written fits rfl
  have taken := Fields.withDefault?_written "arguments" [] fits rfl <|
    listOf?_restores fun smaller _ argument _ => Argument.read?_restores smaller argument
  have typed := Fields.required?_written "resultType" fits rfl
    (ValueType.read?_restores false room collection.resultType)
  exact reads_next opened (reads_next described (reads_next taken (reads_next typed rfl)))

/-- A property is read back with its type. -/
theorem Property.read?_restores (room : Nat) (property : Property) :
    Restores read? room property.toJson property := by
  obtain ⟨propertyName, description, type⟩ := property
  cases propertyName with
  | none =>
      simp only [toJson, List.nil_append]
      refine restores_record ["propertyName", "description", "type"] ["description", "type"]
        (by decide) rfl fun room _ fits opened => ?_
      have unnamed : (Fields.written [("description", Json.ofOption .string description),
          ("type", type.toJson)]).optional? "propertyName" string? = some none :=
        Fields.optional?_absent "propertyName" rfl
      have described := description_written fits rfl
      have typed := Fields.required?_written "type" fits rfl
        (ValueType.read?_restores false room type)
      exact reads_next opened (reads_next unnamed (reads_next described (reads_next typed rfl)))
  | some name =>
      simp only [toJson, List.cons_append, List.nil_append]
      refine restores_record ["propertyName", "description", "type"]
        ["propertyName", "description", "type"] (by decide) rfl fun room _ fits opened => ?_
      have named := Fields.optional?_present "propertyName" fits rfl nofun
        (string?_restores room name)
      have described := description_written fits rfl
      have typed := Fields.required?_written "type" fits rfl
        (ValueType.read?_restores false room type)
      exact reads_next opened (reads_next named (reads_next described (reads_next typed rfl)))

/-- An object type is read back with its properties in their order. -/
theorem ObjectType.read?_restores (room : Nat) {object : ObjectType}
    (distinct : object.properties.Distinct) : Restores read? room object.toJson object := by
  refine restores_record ["description", "properties"] ["description", "properties"] (by decide) rfl
    fun room _ fits opened => ?_
  have described := description_written fits rfl
  have listed := Fields.required?_written "properties" fits rfl <|
    tableOf?_restores distinct fun smaller _ entry _ => Property.read?_restores smaller entry.2
  exact reads_next opened (reads_next described (reads_next listed rfl))

/-- A property that the source repeats has one place in the object type. -/
theorem ObjectType.read?_distinct (room : Nat) :
    Yields (read? room) fun object => object.properties.Distinct := by
  intro source object found
  cases room with
  | zero => cases found
  | succ room =>
      simp only [read?, Option.bind_eq_bind, Option.bind_eq_some_iff] at found
      obtain ⟨_, _, _, _, properties, listed, found⟩ := found
      cases found
      exact (Fields.required?_yields (tableOf?_yields fun _ _ _ (_ : Property) _ => trivial)
        listed).1

/-- A declared scalar type is read back. -/
theorem ScalarType.read?_restores (room : Nat) (scalar : ScalarType) :
    Restores read? room scalar.toJson scalar :=
  restores_record [] [] (by decide) rfl fun room _ _ opened => by simp [read?, opened]

namespace Schema

/-- Every table inside the schema has distinct names. -/
structure Keyed (schema : Schema) : Prop where
  collections : schema.collections.Distinct
  objectTypes : schema.objectTypes.Keyed fun object => object.properties.Distinct
  scalarTypes : schema.scalarTypes.Distinct

/-- A schema with distinct names is read back. -/
theorem read?_restores (room : Nat) {schema : Schema} (keyed : schema.Keyed) :
    Restores read? room schema.toJson schema := by
  refine restores_record ["collections", "objectTypes", "scalarTypes"]
    ["collections", "objectTypes", "scalarTypes"] (by decide) rfl fun room _ fits opened => ?_
  have collections := Fields.required?_written "collections" fits rfl <|
    tableOf?_restores keyed.collections fun smaller _ entry _ =>
      Collection.read?_restores smaller entry.2
  have objects := Fields.required?_written "objectTypes" fits rfl <|
    tableOf?_restores keyed.objectTypes.1 fun smaller _ entry member =>
      ObjectType.read?_restores smaller (keyed.objectTypes.2 entry member)
  have scalars := Fields.withDefault?_written "scalarTypes" [] fits rfl <|
    tableOf?_restores keyed.scalarTypes fun smaller _ entry _ =>
      ScalarType.read?_restores smaller entry.2
  exact reads_next opened (reads_next collections (reads_next objects (reads_next scalars rfl)))

/-- Whatever is read as a schema has distinct names. -/
theorem read?_keyed (room : Nat) : Yields (read? room) Keyed := by
  intro source schema found
  cases room with
  | zero => cases found
  | succ room =>
      simp only [read?, Option.bind_eq_bind, Option.bind_eq_some_iff] at found
      obtain ⟨_, _, _, collections, _, objects, _, scalars, found⟩ := found
      cases found
      exact ⟨(Fields.required?_yields (tableOf?_yields fun _ _ _ _ _ => trivial) collections).1,
        Fields.required?_yields (tableOf?_yields fun smaller _ => ObjectType.read?_distinct smaller)
          objects,
        (Fields.withDefault?_yields (tableOf?_yields fun _ _ _ _ _ => trivial) Table.keyed_nil
          scalars).1⟩

end Schema

/-- The credentials of a connection are read back. -/
theorem Authentication.read?_restores (room : Nat) (authentication : Authentication) :
    Restores read? room authentication.toJson authentication := by
  obtain ⟨kind, variableName⟩ := authentication
  cases kind with
  | key | managedIdentity =>
      simp only [toJson]
      refine restores_tagged variants false ["fromEnvVar"] (by decide) rfl
        fun room _ fits opened => ?_
      have named := Fields.required?_written "fromEnvVar" fits rfl
        (string?_restores room variableName)
      exact reads_next opened (reads_next named rfl)

/-- A connection is read back. -/
theorem Connection.read?_restores (room : Nat) (connection : Connection) :
    Restores read? room connection.toJson connection := by
  refine restores_record ["endpoint", "databaseName", "authentication"]
    ["endpoint", "databaseName", "authentication"] (by decide) rfl fun room _ fits opened => ?_
  have reached := Fields.required?_written "endpoint" fits rfl
    (string?_restores room connection.endpoint)
  have named := Fields.required?_written "databaseName" fits rfl
    (string?_restores room connection.database)
  have entered := Fields.required?_written "authentication" fits rfl
    (Authentication.read?_restores room connection.authentication)
  exact reads_next opened (reads_next reached (reads_next named (reads_next entered rfl)))

/-- The absence of one nullable type is stated and that of the other is not. -/
def Sample.configuration : Configuration where
  connection := ⟨"https://orders", "sales", ⟨.managedIdentity, "CLIENT"⟩⟩
  schema :=
    { collections := [("orders", ⟨some "All orders", [⟨"region", none, .scalar "Region"⟩],
        .nullable (.object "Order") none⟩)]
      objectTypes := [("Order", ⟨none, [("id", ⟨some "_id", none, .scalar "String"⟩),
        ("tags", ⟨none, none, .array (.nullable (.scalar "String") (some .either))⟩)]⟩)]
      scalarTypes := [("Region", {})] }

namespace Configuration

/-- A configuration whose schema has distinct names is read back. -/
theorem read?_restores (room : Nat) {configuration : Configuration}
    (keyed : configuration.schema.Keyed) :
    Restores read? room configuration.toJson configuration := by
  refine restores_record ["connection", "schema"] ["connection", "schema"] (by decide) rfl
    fun room _ fits opened => ?_
  have connected := Fields.required?_written "connection" fits rfl
    (Connection.read?_restores room configuration.connection)
  have described := Fields.required?_written "schema" fits rfl
    (Schema.read?_restores room keyed)
  exact reads_next opened (reads_next connected (reads_next described rfl))

/-- Whatever is read as a configuration has distinct names in its schema. -/
theorem read?_keyed (room : Nat) :
    Yields (read? room) fun configuration => configuration.schema.Keyed := by
  intro source configuration found
  cases room with
  | zero => cases found
  | succ room =>
      simp only [read?, Option.bind_eq_bind, Option.bind_eq_some_iff] at found
      obtain ⟨_, _, _, _, schema, described, found⟩ := found
      cases found
      exact Fields.required?_yields (Schema.read?_keyed room) described

/-- A configuration that is written and read validates, compiles and advertises as before, and
whatever is read as a configuration can be written and read again. -/
theorem saved_document_reads_back :
    (∀ configuration : Configuration, configuration.schema.Keyed →
      ∃ restored, ofJson? configuration.toJson = some restored ∧ restored = configuration ∧
        restored.schema.validate = configuration.schema.validate ∧
        (∀ request : QueryRequest,
          request.compile restored.schema = request.compile configuration.schema) ∧
        restored.advertisement = configuration.advertisement) ∧
      ∀ (value : Json) (configuration : Configuration), ofJson? value = some configuration →
        configuration.schema.Keyed ∧ ofJson? configuration.toJson = some configuration := by
  have restored {configuration : Configuration} (keyed : configuration.schema.Keyed) :
      ofJson? configuration.toJson = some configuration :=
    read?_restores _ keyed (Nat.le_refl _)
  constructor
  · intro configuration keyed
    exact ⟨configuration, restored keyed, rfl, rfl, fun _ => rfl, rfl⟩
  · intro value configuration found
    have keyed := read?_keyed value.height value.toSource configuration found
    exact ⟨keyed, restored keyed⟩

/-- The sample leaves out and states what a configuration can. -/
theorem sample_document_reads_back :
    Sample.configuration.schema.Keyed ∧
      ofJson? Sample.configuration.toJson = some Sample.configuration := by
  have keyed : Sample.configuration.schema.Keyed :=
    ⟨by decide, ⟨by decide, by decide⟩, by decide⟩
  obtain ⟨restored, read, same, _⟩ := saved_document_reads_back.1 Sample.configuration keyed
  exact saved_document_reads_back.2 _ _ (same ▸ read)

end Configuration

end DocumentQuery
