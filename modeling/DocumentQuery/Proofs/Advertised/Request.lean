/-
This file proves that the compiler accepts exactly the columns, comparisons and aggregates that the
advertisement of a validated schema lists.
-/

import DocumentQuery.Proofs.Acceptance.Request
import DocumentQuery.Proofs.Advertised.Types
import DocumentQuery.Proofs.Declared.Closure
import DocumentQuery.Proofs.Sample
import Mathlib.Control.Monad.Basic

namespace DocumentQuery

variable {schema : Schema}

/-- A path through objects and arrays ends at a type that resolves. -/
theorem Schema.Closed.reaches (closed : schema.Closed) {type last : ValueType}
    {fieldPath : List String} (resolves : type.Resolves schema)
    (reaches : schema.Reaches type fieldPath last) : last.Resolves schema := by
  induction reaches with
  | here type => exact resolves
  | field _ located _ continued => exact continued (closed.nested located)

namespace QueryRequest

variable {request : QueryRequest}

/-- The request is compiled to some query. -/
def Compiles (schema : Schema) (request : QueryRequest) : Prop :=
  ∃ prepared, request.compile schema = .ok prepared

/-- Sets of variables are supplied when the predicate compares with a variable. -/
def SuppliesVariables (request : QueryRequest) : Prop :=
  request.query.UsesVariable → ∃ first rest, request.variableSets = some (first :: rest)

/-- A request compiles when it is stated and has the variables that it refers to. -/
theorem compiles_iff_states :
    request.Compiles schema ↔
      (∃ select, request.statement schema = .ok select) ∧ request.SuppliesVariables := by
  simp only [Compiles, SuppliesVariables, compile_ok]
  constructor
  · rintro ⟨_, select, text, stated, written, _⟩
    refine ⟨⟨select, stated⟩, ?_⟩
    rw [← statement_usesVariables stated]
    exact textWith_accepts.mp ⟨text, written⟩
  · rintro ⟨⟨select, stated⟩, supplied⟩
    rw [← statement_usesVariables stated] at supplied
    obtain ⟨text, written⟩ := textWith_accepts.mpr supplied
    exact ⟨_, select, text, stated, written, rfl⟩

/-- The documents of the request have an object type, and nothing else is asked of its frame. -/
structure Framed (schema : Schema) (request : QueryRequest) (object : ObjectType) : Prop where
  plain : request.arguments = [] ∧ request.relationships = []
  documented : request.documentType? schema = some object

/-- A framed request is stated exactly when its query is well formed. -/
theorem Framed.states {object : ObjectType} (framed : request.Framed schema object) :
    (∃ select, request.statement schema = .ok select) ↔ request.query.WellFormed schema object := by
  simp only [statement_ok]
  constructor
  · rintro ⟨_, scope, compiled, predicate, keys, rooted, columns, condition, ordered, _⟩
    have found := (rootScope_object framed.plain).mp ⟨scope, rooted, rfl⟩
    rw [framed.documented] at found
    cases found
    exact query_accepts.mp ⟨⟨compiled, columns⟩, ⟨predicate, condition⟩, keys, ordered⟩
  · intro wellFormed
    obtain ⟨scope, rooted, rfl⟩ := (rootScope_object framed.plain).mpr framed.documented
    obtain ⟨⟨compiled, columns⟩, ⟨predicate, condition⟩, keys, ordered⟩ :=
      query_accepts.mpr wellFormed
    exact ⟨_, scope, compiled, predicate, keys, rooted, columns, condition, ordered, rfl⟩

/-- A framed request compiles exactly when its query is well formed and its variables are
supplied. -/
theorem Framed.compiles {object : ObjectType} (framed : request.Framed schema object) :
    request.Compiles schema ↔
      request.query.WellFormed schema object ∧ request.SuppliesVariables := by
  rw [compiles_iff_states, framed.states]

/-- A request that compiles has the object type of its collection as its frame. -/
theorem Compiles.framed (compiles : request.Compiles schema) {object : ObjectType}
    (documented : request.documentType? schema = some object) : request.Framed schema object := by
  obtain ⟨⟨select, stated⟩, _⟩ := compiles_iff_states.mp compiles
  obtain ⟨_, _, _, _, rooted, _⟩ := statement_ok.mp stated
  obtain ⟨noArguments, noRelationships, _⟩ := rootScope_ok.mp rooted
  exact ⟨⟨noArguments, noRelationships⟩, documented⟩

/-- A bare request asks for nothing of the documents of a collection. -/
def bare (collection : String) : QueryRequest where
  collection
  query :=
    { aggregates := none
      fields := none
      limit := none
      offset := none
      orderBy := none
      predicate := none }
  arguments := []
  relationships := []
  variableSets := none

/-- The changed request selects one column. -/
def selecting (base : QueryRequest) (aliasName column : String) : QueryRequest :=
  { base with query := { base.query with fields := some [(aliasName, .column column none)] } }

/-- The changed request compares one target with a literal. -/
def comparing (base : QueryRequest) (target : ComparisonTarget) (operator : String)
    (literal : Json) : QueryRequest :=
  { base with
    query := { base.query with predicate := some (.compare target operator (.scalar literal)) } }

/-- The changed request has one aggregate. -/
def aggregating (base : QueryRequest) (aliasName : String) (aggregate : Aggregate) :
    QueryRequest :=
  { base with query := { base.query with aggregates := some [(aliasName, aggregate)] } }

section Changes

variable {base : QueryRequest} {object : ObjectType}

/-- Every collection of documents has a request that compiles. -/
theorem bare_compiles {collection : String}
    (documented : (bare collection).documentType? schema = some object) :
    (bare collection).Compiles schema := by
  have framed : (bare collection).Framed schema object := ⟨⟨rfl, rfl⟩, documented⟩
  refine framed.compiles.mpr ⟨⟨.inl rfl, by simp [bare], by simp [bare], by simp [bare],
    by simp [bare]⟩, ?_⟩
  rintro ⟨_, ⟨⟩, _⟩

/-- Exactly the declared properties can be selected. -/
theorem selecting_compiles (compiles : base.Compiles schema)
    (documented : base.documentType? schema = some object)
    (noAggregates : base.query.aggregates = none) {aliasName column : String} :
    (base.selecting aliasName column).Compiles schema ↔
      ∃ property, object.property? column = some property := by
  obtain ⟨wellFormed, supplied⟩ := (compiles.framed documented).compiles.mp compiles
  have framed : (base.selecting aliasName column).Framed schema object :=
    ⟨(compiles.framed documented).plain, documented⟩
  rw [framed.compiles]
  constructor
  · rintro ⟨selected, _⟩
    exact (selected.fields _ rfl).1.1
  · intro located
    refine ⟨⟨.inr noAggregates, ?_, wellFormed.aggregates, wellFormed.predicate,
      wellFormed.ordering⟩, supplied⟩
    rintro _ ⟨⟩
    exact ⟨⟨located, trivial⟩, by simp [Selection.rowLevels, Selection.fieldLevels, maximumNesting]⟩

/-- Exactly the operators of the scalar type at the end of the path compare with a literal. -/
theorem comparing_compiles (compiles : base.Compiles schema)
    (documented : base.documentType? schema = some object) {target : ComparisonTarget}
    {last : ValueType} {scalarType : String} (direct : target.IsDirect)
    (reaches : object.Reaches schema target.columnName target.fields last)
    (ends : last.base = (scalarType, .scalar)) {operator : String} {literal : Json} :
    (base.comparing target operator literal).Compiles schema ↔
      Operators.Compares scalarType operator := by
  obtain ⟨wellFormed, supplied⟩ := (compiles.framed documented).compiles.mp compiles
  have framed : (base.comparing target operator literal).Framed schema object :=
    ⟨(compiles.framed documented).plain, documented⟩
  have here : target.among object object = object := by cases target <;> rfl
  rw [framed.compiles]
  constructor
  · rintro ⟨compared, _⟩
    obtain ⟨⟨⟨_, last', scalarType', reaches', ends', compares⟩, _⟩, _⟩ := compared.predicate _ rfl
    rw [here] at reaches'
    obtain ⟨_, property, known, onward⟩ := reaches
    obtain ⟨_, property', known', onward'⟩ := reaches'
    cases known.symm.trans known'
    cases onward.unique onward'
    cases ends.symm.trans ends'
    exact compares
  · intro compares
    refine ⟨⟨wellFormed.oneKind, wellFormed.fields, wellFormed.aggregates, ?_,
      wellFormed.ordering⟩, ?_⟩
    · rintro _ ⟨⟩
      rw [← here] at reaches
      exact ⟨⟨⟨direct, last, scalarType, reaches, ends, compares⟩, trivial⟩,
        by simp [Expression.levels, maximumNesting]⟩
    · rintro ⟨_, ⟨⟩, used⟩
      cases used

/-- Exactly the functions of the scalar type at the end of the path aggregate a column. -/
theorem aggregating_compiles (compiles : base.Compiles schema)
    (documented : base.documentType? schema = some object) (noFields : base.query.fields = none)
    {column function aliasName scalarType : String} {fieldPath : Option (List String)}
    {last : ValueType} (crosses : object.Crosses schema column (fieldPath.getD []) last)
    (ends : last.required = .named scalarType .scalar) (plain : Identifier.isPlain aliasName) :
    (base.aggregating aliasName (.singleColumn column fieldPath function)).Compiles schema ↔
      Operators.Aggregates scalarType function := by
  obtain ⟨wellFormed, supplied⟩ := (compiles.framed documented).compiles.mp compiles
  have framed : (base.aggregating aliasName (.singleColumn column fieldPath function)).Framed schema
      object := ⟨(compiles.framed documented).plain, documented⟩
  rw [framed.compiles]
  constructor
  · rintro ⟨aggregated, _⟩
    obtain ⟨last', scalarType', crosses', ends', aggregates⟩ :=
      (aggregated.aggregates _ rfl _ List.mem_cons_self).2
    obtain ⟨_, property, known, onward⟩ := crosses
    obtain ⟨_, property', known', onward'⟩ := crosses'
    cases known.symm.trans known'
    cases onward.unique onward'
    cases ends.symm.trans ends'
    exact aggregates
  · intro aggregates
    refine ⟨⟨.inl noFields, wellFormed.fields, ?_, wellFormed.predicate, wellFormed.ordering⟩,
      supplied⟩
    rintro _ ⟨⟩ entry member
    cases List.mem_singleton.mp member
    exact ⟨plain, last, scalarType, crosses, ends, aggregates⟩

end Changes

end QueryRequest

/-- The compiler accepts what is advertised about the documents of a collection and nothing else. -/
structure Advertisement.Exact (advertisement : Advertisement) (schema : Schema)
    (collection : String) (object : ObjectType) (described : AdvertisedObject) : Prop where
  bare : (QueryRequest.bare collection).Compiles schema
  columns : ∀ base : QueryRequest, base.collection = collection → base.Compiles schema →
    base.query.aggregates = none → ∀ aliasName column,
      (base.selecting aliasName column).Compiles schema ↔ column ∈ described.fields.names
  comparisons : ∀ target last scalarType, target.IsDirect →
    object.Reaches schema target.columnName target.fields last →
      last.base = (scalarType, .scalar) →
        ∃ scalar, advertisement.scalarTypes.entry? scalarType = some scalar ∧
          ∀ base : QueryRequest, base.collection = collection → base.Compiles schema →
            ∀ operator literal, (base.comparing target operator literal).Compiles schema ↔
              operator ∈ scalar.comparisons.names
  aggregates : ∀ column fieldPath last scalarType,
    object.Crosses schema column (fieldPath.getD []) last →
      last.required = .named scalarType .scalar →
        ∃ scalar, advertisement.scalarTypes.entry? scalarType = some scalar ∧
          ∀ base : QueryRequest, base.collection = collection → base.Compiles schema →
            base.query.fields = none → ∀ aliasName function, Identifier.isPlain aliasName →
              ((base.aggregating aliasName (.singleColumn column fieldPath function)).Compiles
                schema ↔ function ∈ scalar.aggregates.names)
  scalars : ∀ scalarType, schema.knowsScalar scalarType →
    ∃ scalar, advertisement.scalarTypes.entry? scalarType = some scalar

namespace QueryRequest

/-- What a validated schema advertises about a collection is what the compiler accepts. -/
theorem compile_accepts_advertised (schema : Schema) (name : String) (collection : Collection)
    (valid : schema.validate = .ok ()) (listed : schema.collection? name = some collection) :
    ∃ advertised ∈ (Advertisement.ofSchema schema).collections, advertised.name = name ∧
      ∃ object described, schema.objectType? advertised.type = some object ∧
        (Advertisement.ofSchema schema).objectTypes.entry? advertised.type = some described ∧
          (Advertisement.ofSchema schema).Exact schema name object described := by
  have closed := Schema.closed_of_validate valid
  obtain ⟨object, declared⟩ := closed.collections name collection listed
  have documented (base : QueryRequest) (same : base.collection = name) :
      base.documentType? schema = some object := by
    rw [documentType?, same, listed]
    exact declared
  have resolves := closed.objects _ object declared
  refine ⟨_, Advertisement.collection_listed listed, rfl, object, .ofObjectType object, declared,
    Advertisement.object_declared declared, ?_⟩
  constructor
  · exact bare_compiles (documented (bare name) rfl)
  · intro base same compiles noAggregates aliasName column
    rw [selecting_compiles compiles (documented base same) noAggregates,
      AdvertisedObject.mem_fields]
  · intro target last scalarType direct reaches ends
    obtain ⟨_, property, known, onward⟩ := id reaches
    have scalar := (closed.reaches (resolves _ property known) onward).scalar
    rw [ends] at scalar
    refine ⟨_, Advertisement.scalar_known (scalar rfl), ?_⟩
    intro base same compiles operator literal
    rw [comparing_compiles compiles (documented base same) direct reaches ends,
      AdvertisedScalar.mem_comparisons]
  · intro column fieldPath last scalarType crosses ends
    obtain ⟨_, property, known, onward⟩ := id crosses
    have scalar := (closed.crosses (resolves _ property known) onward).scalar
    rw [← ValueType.required_base, ends] at scalar
    refine ⟨_, Advertisement.scalar_known (scalar rfl), ?_⟩
    intro base same compiles noFields aliasName function plain
    rw [aggregating_compiles compiles (documented base same) noFields crosses ends plain,
      AdvertisedScalar.mem_aggregates]
  · intro scalarType known
    exact ⟨_, Advertisement.scalar_known known⟩

/-- The orders of the sample have identifiers and no prices, and the tags of their lines are texts
behind two arrays, for which the null check is no comparison. -/
theorem compile_accepts_advertised_sample :
    Sample.schema.validate = .ok () ∧
      Sample.schema.collection? "orders" = some ⟨none, [], .orNull (.object "Order")⟩ ∧
        ((bare "orders").selecting "key" "id").Compiles Sample.schema ∧
          ¬ ((bare "orders").selecting "key" "price").Compiles Sample.schema ∧
            ((bare "orders").comparing (.column "lines" (some ["tags"]) []) "contains"
              (.string "red")).Compiles Sample.schema ∧
              ¬ ((bare "orders").comparing (.column "lines" (some ["tags"]) []) "is_null"
                (.string "red")).Compiles Sample.schema := by
  have valid : Sample.schema.validate = .ok () := by decide +kernel
  have listed : Sample.schema.collection? "orders" =
      some ⟨none, [], .orNull (.object "Order")⟩ := by decide +kernel
  obtain ⟨advertised, member, _, object, described, declared, found, exact⟩ :=
    compile_accepts_advertised Sample.schema "orders" _ valid listed
  have only : advertised = .ofCollection "orders" ⟨none, [], .orNull (.object "Order")⟩ :=
    List.mem_singleton.mp member
  subst only
  have order : Sample.schema.objectType? "Order" = some Sample.order := rfl
  cases declared.symm.trans order
  cases found.symm.trans (Advertisement.object_declared order)
  have columns := exact.columns (bare "orders") rfl exact.bare rfl "key"
  have reaches : Sample.order.Reaches Sample.schema "lines" ["tags"]
      (.array (.orNull (.array Sample.text))) :=
    ⟨by decide, _, rfl, .field rfl rfl (.here _)⟩
  obtain ⟨scalar, known, comparisons⟩ :=
    exact.comparisons (.column "lines" (some ["tags"]) []) _ "String" rfl reaches rfl
  cases known.symm.trans (Advertisement.scalar_known (by decide))
  have compared := comparisons (bare "orders") rfl exact.bare
  exact ⟨valid, listed, (columns "id").mpr (by decide), mt (columns "price").mp (by decide),
    (compared "contains" _).mpr (by decide), mt (compared "is_null" _).mp (by decide)⟩

end QueryRequest

namespace Sample

/-- A part may be made of a part again. -/
def part : ObjectType :=
  ⟨none, [("name", property text), ("part", property (.orNull (.object "Part")))]⟩

def parts : Schema where
  collections := [("parts", ⟨none, [], .object "Part"⟩)]
  objectTypes := [("Part", part)]
  scalarTypes := []

/-- The name of an inner part is one field longer than a path may be. -/
def innerName : List String :=
  List.replicate maximumNesting "part" ++ ["name"]

end Sample

namespace QueryRequest

/-- An advertised function is refused behind a path that is too long. -/
theorem compile_refuses_advertised_behind_long_path :
    Sample.parts.validate = .ok () ∧
      Sample.parts.collection? "parts" = some ⟨none, [], .object "Part"⟩ ∧
        Sample.parts.objectType? "Part" = some Sample.part ∧
          (∃ property, Sample.part.property? "part" = some property ∧
            Sample.parts.Crosses property.type Sample.innerName (.scalar "String")) ∧
            Identifier.isPlain "least" ∧
              (∃ scalar,
                (Advertisement.ofSchema Sample.parts).scalarTypes.entry? "String" = some scalar ∧
                  "min" ∈ scalar.aggregates.names) ∧
                (bare "parts").Compiles Sample.parts ∧
                  ¬ ((bare "parts").aggregating "least"
                    (.singleColumn "part" (some Sample.innerName) "min")).Compiles
                      Sample.parts := by
  have walked : Sample.innerName.foldlM (Sample.parts.stepInto Sample.innerName)
      (.orNull (.object "Part")) = .ok (.scalar "String") := rfl
  have refused : ((bare "parts").aggregating "least"
      (.singleColumn "part" (some Sample.innerName) "min")).compile Sample.parts =
        .error .longFieldPath := by
    decide +kernel
  refine ⟨by decide +kernel, rfl, rfl, ⟨_, rfl, Schema.steps_ok.mp walked⟩, by decide +kernel,
    ⟨_, Advertisement.scalar_known (by decide), by decide⟩, bare_compiles rfl, ?_⟩
  rintro ⟨prepared, compiled⟩
  rw [refused] at compiled
  cases compiled

end QueryRequest

end DocumentQuery
