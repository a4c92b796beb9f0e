/-
This file proves that the two ways of resolving a path agree: as a chain of links and as a path
through objects.
-/

import DocumentQuery.Proofs.Following.Links
import DocumentQuery.Statement.Rendering

namespace DocumentQuery

namespace ValueType

variable {type : ValueType}

/-- A type without arrays is a named type inside nullable wrappers. -/
theorem required_named_iff {name : String} {kind : NamedKind} :
    type.required = .named name kind ↔ type.arrays = 0 ∧ type.base = (name, kind) := by
  induction type with
  | nullable underlying absence unwrapped => exact unwrapped
  | array element => simp [required, arrays]
  | named other kind' => simp [required, arrays, base]

end ValueType

namespace Schema

/-- An array stands in the way of the path, with a field still to follow. -/
def MeetsArray (schema : Schema) (type : ValueType) (fieldPath : List String) : Prop :=
  ∃ before field after reached element, fieldPath = before ++ field :: after ∧
    schema.Crosses type before reached ∧ reached.required = .array element

variable {schema : Schema} {type last : ValueType} {fieldPath : List String}

/-- A path that passes no array crosses objects only. -/
theorem crosses_of_passes {types : List ValueType}
    (passes : schema.Passes type fieldPath types last)
    (direct : ValueType.arraysAlong types = 0) : schema.Crosses type fieldPath last := by
  induction passes with
  | here type => exact .here type
  | field inside located _ continued =>
      rw [ValueType.arraysAlong, Nat.add_eq_zero_iff] at direct
      exact .field (ValueType.required_named_iff.mpr ⟨direct.1, inside⟩) located
        (continued direct.2)

/-- A step into an object type looks up one of its properties. -/
theorem stepInto_object {whole : List String} {name field : String}
    (required : type.required = .named name .object) :
    schema.stepInto whole type field = (schema.lookUpNested name field).map Property.type := by
  rw [stepInto, required]

end Schema

namespace Chain

variable {schema : Schema} {pathEnd : PathEnd} {fieldPath : List String} {pending : Option String}
  {type last : ValueType} {name : String} {chain : Chain}

/-- A chain without arrays leads to the end of one path. -/
def path? (start : Path) : Chain → Option Path
  | .property field next => next.path? (start.step field)
  | .each _ _ => none
  | .scalar field _ | .value field => some (start.stepMaybe field)

/-- The chain leads from the alias along the path, and a test of its end is a test of the path. -/
structure Denotes (aliasName : String) (chain : Chain) (path : Path) : Prop where
  reached : chain.path? (.ofAlias aliasName) = some path
  written : ∀ test key draft,
    chain.write test key (.ofAlias aliasName) draft = test.write path key draft

/-- A chain without arrays leads along its fields. -/
theorem path?_of_direct (direct : chain.arrays = 0) (start : Path) :
    chain.path? start = some ⟨start.aliasName, start.fields ++ chain.fields⟩ := by
  induction chain generalizing start with
  | each field next => cases direct
  | property field next continued =>
      rw [path?, continued direct, Path.step, fields, List.append_assoc, List.singleton_append]
  | scalar field scalarType => cases field <;> simp [path?, Path.stepMaybe, Path.step, fields]
  | value field => cases field <;> simp [path?, Path.stepMaybe, Path.step, fields]

/-- A test at the end of such a chain is written as a test of the path. -/
theorem write_of_path {start path : Path} (reached : chain.path? start = some path) (test : Test)
    (key : String) (draft : Draft) :
    chain.write test key start draft = test.write path key draft := by
  induction chain generalizing start with
  | each field next => cases reached
  | property field next continued => exact continued reached
  | scalar field scalarType =>
      cases reached
      rfl
  | value field =>
      cases reached
      rfl

/-- A chain without arrays denotes the path of its fields. -/
theorem denotes_of_direct (direct : chain.arrays = 0) (aliasName : String) :
    chain.Denotes aliasName ⟨aliasName, chain.fields⟩ :=
  have reached := path?_of_direct direct (.ofAlias aliasName)
  ⟨reached, write_of_path reached⟩

/-- Without arrays around it, the named type is looked at with the field still pending. -/
theorem throughArrays_direct {atName : Option String → String → NamedKind → Except Fault Chain}
    {kind : NamedKind} (required : type.required = .named name kind) :
    throughArrays atName pending type = atName pending name kind := by
  induction type with
  | nullable underlying absence opened => exact opened required
  | array element => cases required
  | named other kind' =>
      cases required
      rfl

/-- Following a field goes through the object type inside the wrappers. -/
theorem follow_through (required : type.required = .named name .object) (field : String)
    (rest : List String) :
    follow schema pathEnd (field :: rest) pending type =
      schema.lookUpNested name field >>= fun property =>
        (follow schema pathEnd rest (some field) property.type).map (afterPending pending) := by
  rw [follow, throughArrays_direct required]
  rfl

/-- A path that crosses objects only is followed by a chain without arrays, when its end is. -/
theorem follow_crosses (crosses : schema.Crosses type fieldPath last)
    (ended : ∀ pending, ∃ chain, follow schema pathEnd [] pending last = .ok chain ∧
      chain.arrays = 0) (pending : Option String) :
    ∃ chain, follow schema pathEnd fieldPath pending type = .ok chain ∧ chain.arrays = 0 := by
  induction crosses generalizing pending with
  | here type => exact ended pending
  | @field type last name field property rest required located _ continued =>
      obtain ⟨next, inner, direct⟩ := continued ended (some field)
      refine ⟨afterPending pending next, ?_, by rw [arrays_afterPending, direct]⟩
      rw [follow_through required, Schema.lookUpNested_ok.mpr located]
      exact Attempt.map_eq_ok_iff.mpr ⟨next, inner, rfl⟩

/-- Both ways of following a path look up the same names, so they fail alike until one of them meets
an array. -/
theorem faults_agree {whole : List String} {fault other : Fault}
    (refused : fieldPath.foldlM (schema.stepInto whole) type = .error fault)
    (followed : follow schema pathEnd fieldPath pending type = .error other)
    (straight : ¬ schema.MeetsArray type fieldPath) : fault = other := by
  induction fieldPath generalizing type pending with
  | nil => cases refused
  | cons field rest continued =>
      rw [List.foldlM_cons] at refused
      rcases type.required_cases with ⟨element, required⟩ | ⟨name, kind, required⟩
      · exact absurd ⟨[], field, rest, type, element, rfl, .here type, required⟩ straight
      · cases kind with
        | scalar =>
            rw [follow, throughArrays_direct required] at followed
            rw [Schema.stepInto, required] at refused
            cases refused
            cases followed
            rfl
        | object =>
            rw [follow_through required] at followed
            rw [Schema.stepInto_object required] at refused
            cases located : schema.lookUpNested name field with
            | error missing =>
                rw [located] at refused followed
                cases refused
                cases followed
                rfl
            | ok property =>
                rw [located] at refused followed
                refine continued refused (Attempt.map_eq_error_iff.mp followed) ?_
                rintro ⟨before, next, after, reached, element, rfl, crosses, inside⟩
                exact straight ⟨field :: before, next, after, reached, element, rfl,
                  .field required (Schema.lookUpNested_ok.mp located) crosses, inside⟩

/-- A chain that ends at a scalar has its type. -/
theorem scalarType_of_last {field : Option String} (ends : chain.last = .scalar field name) :
    chain.scalarType? = some name := by
  induction chain with
  | property _ next continued => exact continued ends
  | each _ next continued => exact continued ends
  | scalar _ scalarType =>
      cases ends
      rfl
  | value _ => cases ends

/-- A chain without arrays leads along the path through objects, to a scalar if one is wanted. -/
theorem direct_of_follow {field : String}
    (resolved : follow schema pathEnd fieldPath (some field) type = .ok chain)
    (direct : chain.arrays = 0) :
    chain.fields = field :: fieldPath ∧ ∃ last, schema.Crosses type fieldPath last ∧
      (pathEnd = .scalar → ∃ name, last.required = .named name .scalar ∧
        chain.scalarType? = some name) := by
  obtain ⟨fields, _, types, last, passes, counted, ends⟩ := follows_of_follow resolved
  rw [direct, eq_comm, Nat.add_eq_zero_iff] at counted
  refine ⟨fields, last, Schema.crosses_of_passes passes counted.1, ?_⟩
  rintro rfl
  obtain ⟨field, name, innermost, base⟩ := ends
  exact ⟨name, ValueType.required_named_iff.mpr ⟨counted.2, base⟩, scalarType_of_last innermost⟩

/-- A test of any value follows every path through objects. -/
theorem follow_anyValue (crosses : schema.Crosses type fieldPath last) (pending : Option String) :
    ∃ chain, follow schema .anyValue fieldPath pending type = .ok chain ∧ chain.arrays = 0 :=
  follow_crosses crosses (fun pending => ⟨.value pending, rfl, rfl⟩) pending

/-- A test of a scalar follows every path through objects that ends at one. -/
theorem follow_scalar (crosses : schema.Crosses type fieldPath last)
    (required : last.required = .named name .scalar) (pending : Option String) :
    ∃ chain, follow schema .scalar fieldPath pending type = .ok chain ∧ chain.arrays = 0 := by
  refine follow_crosses crosses (fun pending => ⟨.scalar pending name, ?_, rfl⟩) pending
  rw [follow, throughArrays_direct required]

end Chain

namespace Scope

variable {schema : Schema} {scope : Scope} {column : String} {property : Property}
  {fieldPath : List String}

/-- The column of this type and the field path lead to the same value as a chain and as a path
through objects, and the two are refused for the same reason. -/
structure ResolvesAlike (schema : Schema) (scope : Scope) (column : String) (type : ValueType)
    (fieldPath : List String) : Prop where
  values : (∃ path last, scope.objectPath schema column fieldPath = .ok (path, last)) ↔
    ∃ chain, Chain.ofColumn schema .anyValue column type fieldPath = .ok chain ∧ chain.arrays = 0
  valuePath : ∀ path last chain, scope.objectPath schema column fieldPath = .ok (path, last) →
    Chain.ofColumn schema .anyValue column type fieldPath = .ok chain →
      chain.Denotes scope.aliasName path
  scalars :
    (∃ chain, Chain.ofColumn schema .scalar column type fieldPath = .ok chain ∧
      chain.arrays = 0) ↔
      ∃ path last name, scope.objectPath schema column fieldPath = .ok (path, last) ∧
        last.required = .named name .scalar
  scalarPath : ∀ path last chain, scope.objectPath schema column fieldPath = .ok (path, last) →
    Chain.ofColumn schema .scalar column type fieldPath = .ok chain → chain.arrays = 0 →
      chain.Denotes scope.aliasName path ∧
        ∃ name, last.required = .named name .scalar ∧ chain.scalarType? = some name
  faults : ∀ pathEnd fault other, scope.objectPath schema column fieldPath = .error fault →
    Chain.ofColumn schema pathEnd column type fieldPath = .error other →
      schema.MeetsArray type fieldPath ∨ fault = other

/-- A path that is short enough and crosses objects only resolves to its fields. -/
theorem objectPath_of_crosses (known : scope.object.property? column = some property)
    (short : fieldPath.length ≤ maximumNesting) {last : ValueType}
    (crosses : schema.Crosses property.type fieldPath last) :
    scope.objectPath schema column fieldPath = .ok (⟨scope.aliasName, column :: fieldPath⟩, last) :=
  objectPath_ok.mpr ⟨rfl, short, property, known, crosses⟩

/-- An object path that resolves has the requested fields and crosses objects only. -/
theorem crosses_of_objectPath (known : scope.object.property? column = some property) {path : Path}
    {last : ValueType} (resolved : scope.objectPath schema column fieldPath = .ok (path, last)) :
    path = ⟨scope.aliasName, column :: fieldPath⟩ ∧ fieldPath.length ≤ maximumNesting ∧
      schema.Crosses property.type fieldPath last := by
  obtain ⟨same, short, found, located, crosses⟩ := objectPath_ok.mp resolved
  rw [known] at located
  cases located
  exact ⟨same, short, crosses⟩

/-- A chain without arrays denotes the path through objects, and the two have the same end. -/
theorem denotes_of_objectPath (known : scope.object.property? column = some property)
    {pathEnd : PathEnd} {path : Path} {last : ValueType} {chain : Chain}
    (located : scope.objectPath schema column fieldPath = .ok (path, last))
    (resolved : Chain.ofColumn schema pathEnd column property.type fieldPath = .ok chain)
    (direct : chain.arrays = 0) :
    chain.Denotes scope.aliasName path ∧
      (pathEnd = .scalar → ∃ name, last.required = .named name .scalar ∧
        chain.scalarType? = some name) := by
  obtain ⟨rfl, _, crosses⟩ := crosses_of_objectPath known located
  obtain ⟨fields, last', crosses', scalar⟩ :=
    Chain.direct_of_follow (Chain.ofColumn_ok.mp resolved).2 direct
  cases crosses.unique crosses'
  rw [← fields]
  exact ⟨Chain.denotes_of_direct direct scope.aliasName, scalar⟩

/-- An object path checks its length and then steps from field to field. -/
theorem objectPath_eq (known : scope.object.property? column = some property) :
    scope.objectPath schema column fieldPath = checkFieldPath fieldPath >>= fun _ =>
      (fieldPath.foldlM (schema.stepInto fieldPath) property.type).map fun last =>
        (⟨scope.aliasName, column :: fieldPath⟩, last) := by
  rw [objectPath, property_ok.mpr known]
  rfl

/-- A path without arrays is refused with the same fault in both ways. -/
theorem fault_of_objectPath (known : scope.object.property? column = some property)
    {pathEnd : PathEnd} {fault other : Fault}
    (refused : scope.objectPath schema column fieldPath = .error fault)
    (followed : Chain.ofColumn schema pathEnd column property.type fieldPath = .error other)
    (straight : ¬ schema.MeetsArray property.type fieldPath) : fault = other := by
  rw [objectPath_eq known] at refused
  rw [Chain.ofColumn] at followed
  cases checked : checkFieldPath fieldPath with
  | error long =>
      rw [checked] at refused followed
      cases refused
      cases followed
      rfl
  | ok done =>
      rw [checked] at refused followed
      exact Chain.faults_agree (Attempt.map_eq_error_iff.mp refused) followed straight

/-- The chains of filters and the paths of orderings and aggregates have the same meaning. -/
theorem objectPath_resolves_alike (schema : Schema) (scope : Scope) (column : String)
    (property : Property) (known : scope.object.property? column = some property)
    (fieldPath : List String) : scope.ResolvesAlike schema column property.type fieldPath where
  values := by
    constructor
    · rintro ⟨path, last, located⟩
      obtain ⟨_, short, crosses⟩ := crosses_of_objectPath known located
      obtain ⟨chain, resolved, direct⟩ := Chain.follow_anyValue crosses (some column)
      exact ⟨chain, Chain.ofColumn_ok.mpr ⟨short, resolved⟩, direct⟩
    · rintro ⟨chain, resolved, direct⟩
      obtain ⟨short, followed⟩ := Chain.ofColumn_ok.mp resolved
      obtain ⟨_, last, crosses, _⟩ := Chain.direct_of_follow followed direct
      exact ⟨_, last, objectPath_of_crosses known short crosses⟩
  valuePath := by
    intro path last chain located resolved
    obtain ⟨_, short, crosses⟩ := crosses_of_objectPath known located
    obtain ⟨same, followed, direct⟩ := Chain.follow_anyValue crosses (some column)
    rw [Chain.ofColumn_ok.mpr ⟨short, followed⟩] at resolved
    cases resolved
    exact (denotes_of_objectPath known located (Chain.ofColumn_ok.mpr ⟨short, followed⟩) direct).1
  scalars := by
    constructor
    · rintro ⟨chain, resolved, direct⟩
      obtain ⟨short, followed⟩ := Chain.ofColumn_ok.mp resolved
      obtain ⟨_, last, crosses, scalar⟩ := Chain.direct_of_follow followed direct
      obtain ⟨name, required, _⟩ := scalar rfl
      exact ⟨_, last, name, objectPath_of_crosses known short crosses, required⟩
    · rintro ⟨path, last, name, located, required⟩
      obtain ⟨_, short, crosses⟩ := crosses_of_objectPath known located
      obtain ⟨chain, resolved, direct⟩ :=
        Chain.follow_scalar crosses required (some column)
      exact ⟨chain, Chain.ofColumn_ok.mpr ⟨short, resolved⟩, direct⟩
  scalarPath := by
    intro path last chain located resolved direct
    obtain ⟨denotes, scalar⟩ := denotes_of_objectPath known located resolved direct
    exact ⟨denotes, scalar rfl⟩
  faults := by
    intro pathEnd fault other refused followed
    by_cases met : schema.MeetsArray property.type fieldPath
    · exact .inl met
    · exact .inr (fault_of_objectPath known refused followed met)

/-- The name of the customer is reached through an object that may be absent. -/
theorem objectPath_resolves_alike_sample :
    Sample.scope.object.property? "customer" =
        some (Sample.property (.orNull (.object "Customer"))) ∧
      Sample.scope.ResolvesAlike Sample.schema "customer" (.orNull (.object "Customer")) ["name"] :=
  ⟨rfl, objectPath_resolves_alike Sample.schema Sample.scope "customer"
    (Sample.property (.orNull (.object "Customer"))) rfl ["name"]⟩

end Scope

end DocumentQuery
