/-
This file proves that the statements compiled over a valid schema can be read.
-/

import DocumentQuery.Proofs.Compilation.Selection
import DocumentQuery.Proofs.Rendering.CompiledCondition

namespace DocumentQuery

open Dialect

variable {schema : Schema}

namespace Projection

def isAggregate : Projection → Bool
  | .aggregate _ => true
  | .path _ | .subquery _ => false

/-- The numbering before a column does not decide whether it can be read. -/
def Readable (column : Projection) : Prop :=
  ∀ form numbering, (Select.item form column numbering).1.Readable

/-- An item is an aggregate exactly when its column is. -/
theorem item_isAggregate (column : Projection) (form : ProjectionForm) (numbering : Draft) :
    (Select.item form column numbering).1.IsAggregate ↔ column.isAggregate := by
  cases column with
  | path path =>
      simp only [Select.item]
      split <;> simp [Item.IsAggregate, isAggregate]
  | aggregate aggregate => simp [Select.item, Item.IsAggregate, isAggregate]
  | subquery select =>
      simp only [Select.item]
      split <;> simp [Item.IsAggregate, isAggregate]

/-- A column that is a readable path can be read. -/
theorem path_readable {path : Path} (readable : PathReadable path) :
    (Projection.path path).Readable := by
  intro form numbering
  simp only [Select.item]
  split <;> exact readable

/-- A subquery can be read when its statement can be, whatever the numbering. -/
theorem subquery_readable {select : Select}
    (readable : ∀ numbering, (select.query numbering).1.Readable) :
    (Projection.subquery select).Readable := by
  intro form numbering
  simp only [Select.item]
  split <;> exact readable numbering

/-- A column that is no aggregate can stand in any form. -/
structure FitsAnywhere (column : Projection) : Prop where
  noAggregate : column.isAggregate = false
  readable : column.Readable

end Projection

namespace Select

/-- Aggregates stand under plain aliases, and a bare value stands alone. -/
structure ColumnsReadable (select : Select) : Prop where
  readable : ∀ entry ∈ select.columns, entry.2.Readable
  aggregates : (∀ entry ∈ select.columns, entry.2.isAggregate = false) ∨
    select.asValue = false ∧ ∀ entry ∈ select.columns, Identifier.isPlain entry.1
  alone : select.asValue → select.columns.length = 1

/-- The clauses of a statement have the sources, joins and sort keys of their tree. -/
structure ClausesReadable (select : Select) : Prop where
  origin : ∀ origin, select.origin = some origin → OriginReadable origin
  joins : ∀ join ∈ select.joins, Identifier.isPlain join.aliasName ∧ isParameter join.parameter
  predicate : ∀ predicate, select.predicate = some predicate →
    ∀ numbering, (predicate.condition numbering).1.Readable
  sortKeys : ∀ keys, select.sortKeys = some keys →
    keys ≠ [] ∧ ∀ key ∈ keys, PathReadable key.column

/-- The clauses of a statement can be read. -/
theorem clauses_readable {select : Select} (readable : select.ClausesReadable)
    (numbering : Draft) : (select.clauses numbering).1.Readable where
  origin := readable.origin
  joins := readable.joins
  sortKeys := readable.sortKeys
  condition := by
    intro condition same
    cases predicate : select.predicate with
    | none =>
        simp only [clauses, condition?, predicate] at same
        cases same
    | some predicate' =>
        simp only [clauses, condition?, predicate, Option.some.injEq] at same
        rw [← same]
        exact readable.predicate predicate' predicate numbering

/-- Every column becomes one item. -/
theorem items_length (form : ProjectionForm) (columns : List (String × Projection))
    (numbering : Draft) : (items form columns numbering).1.length = columns.length := by
  induction columns generalizing numbering with
  | nil => rfl
  | cons entry rest continued =>
      obtain ⟨aliasName, column⟩ := entry
      simp only [items, List.length_cons, continued]

/-- Readable columns under fitting aliases become readable items. -/
theorem items_readable {form : ProjectionForm} {columns : List (String × Projection)}
    (readable : ∀ entry ∈ columns, entry.2.Readable)
    (entries : ∀ entry ∈ columns, ∀ numbering,
      EntryReadable form (itemAlias form entry.1) (item form entry.2 numbering).1)
    (numbering : Draft) : ReadableItems form (items form columns numbering).1 := by
  induction columns generalizing numbering with
  | nil => trivial
  | cons entry rest continued =>
      obtain ⟨aliasName, column⟩ := entry
      obtain ⟨first, others⟩ := List.forall_mem_cons.mp readable
      obtain ⟨named, more⟩ := List.forall_mem_cons.mp entries
      exact ⟨named numbering, first form numbering, continued others more _⟩

/-- The columns and their aliases decide the form. -/
theorem form_cases (select : Select) :
    select.columns = [] ∧ select.form = .empty ∨
      select.columns ≠ [] ∧
        (select.asValue ∧ select.form = .values ∨
          select.asValue = false ∧
            ((∀ entry ∈ select.columns, Identifier.isPlain entry.1) ∧ select.form = .aliased ∨
              (∃ entry ∈ select.columns, Identifier.isPlain entry.1 = false) ∧
                select.form = .keyed)) := by
  unfold form
  by_cases none : select.columns = []
  · simp [none]
  · by_cases bare : select.asValue
    · simp [none, bare]
    · cases plain : select.columns.all fun column => Identifier.isPlain column.1 with
      | true =>
          have named : ∀ entry ∈ select.columns, Identifier.isPlain entry.1 :=
            List.all_eq_true.mp plain
          exact .inr ⟨none, .inr ⟨by simpa using bare, .inl ⟨named, by simp [none, bare]⟩⟩⟩
      | false =>
          have quoted : ∃ entry ∈ select.columns, Identifier.isPlain entry.1 = false := by
            simpa using List.all_eq_false.mp plain
          exact .inr ⟨none, .inr ⟨by simpa using bare, .inr ⟨quoted, by simp [none, bare]⟩⟩⟩

/-- The form of a statement fits the number of its columns. -/
theorem form_counts {select : Select} (columns : select.ColumnsReadable) :
    CountReadable select.form select.columns.length := by
  obtain ⟨none, form⟩ | ⟨some, shape⟩ := select.form_cases
  · rw [form, none]
    rfl
  · have positive := List.length_pos_iff.mpr some
    obtain ⟨bare, form⟩ | ⟨_, ⟨_, form⟩ | ⟨_, form⟩⟩ := shape
    · rw [form]
      exact columns.alone bare
    · rw [form]
      exact positive
    · rw [form]
      exact positive

/-- An aggregate is never bare and never under a key, since its alias is plain. -/
theorem form_fits {select : Select} (columns : select.ColumnsReadable)
    {entry : String × Projection} (member : entry ∈ select.columns) (numbering : Draft) :
    EntryReadable select.form (itemAlias select.form entry.1)
      (item select.form entry.2 numbering).1 := by
  obtain ⟨none, _⟩ | ⟨_, shape⟩ := select.form_cases
  · rw [none] at member
    cases member
  · unfold EntryReadable
    rw [Projection.item_isAggregate]
    obtain ⟨bare, form⟩ | ⟨_, ⟨plain, form⟩ | ⟨⟨other, listed, quoted⟩, form⟩⟩ := shape
    · rw [form]
      rcases columns.aggregates with absent | ⟨named, _⟩
      · exact ⟨rfl, by simp [absent entry member]⟩
      · rw [named] at bare
        cases bare
    · rw [form]
      exact ⟨entry.1, rfl, plain entry member⟩
    · rw [form]
      rcases columns.aggregates with absent | ⟨_, plain⟩
      · exact ⟨⟨entry.1, rfl⟩, by simp [absent entry member]⟩
      · rw [plain other listed] at quoted
        cases quoted

/-- A statement with readable columns and clauses can be read. -/
theorem query_readable {select : Select} (columns : select.ColumnsReadable)
    (clauses : select.ClausesReadable) (numbering : Draft) :
    (select.query numbering).1.Readable := by
  have fits : ReadableItems select.form (items select.form select.columns numbering).1 :=
    items_readable columns.readable (fun _ member => form_fits columns member) numbering
  have counts : CountReadable select.form
      (items select.form select.columns numbering).1.length := by
    rw [items_length]
    exact form_counts columns
  obtain ⟨_, _, _, _, _, _, _, _, _, _⟩ := select
  exact ⟨counts, fits, clauses_readable clauses _⟩

/-- A statement inside another one has no clause but its origin. -/
theorem nested_readable {columns : List (String × Projection)} {origin : Origin}
    {asValue asArray : Bool} (fit : ∀ entry ∈ columns, entry.2.FitsAnywhere)
    (alone : asValue → columns.length = 1) (located : OriginReadable origin)
    (numbering : Draft) :
    (query { columns, origin := some origin, asValue, asArray } numbering).1.Readable := by
  apply query_readable
  · exact ⟨fun entry member => (fit entry member).readable,
      .inl fun entry member => (fit entry member).noAggregate, alone⟩
  · constructor
    · intro other same
      cases same
      exact located
    · intro join member
      cases member
    · intro predicate same
      cases same
    · intro keys same
      cases same

end Select

namespace Selection

/-- The alias of a subquery is one that the compiler gives out. -/
theorem subqueryAlias_isAlias {field : String} (safe : Identifier.isSafe field)
    (enclosing : List String) (depth : Nat) :
    Identifier.IsAlias (subqueryAlias field enclosing depth) :=
  (Identifier.subqueryPrefix_isAlias safe).unique enclosing depth

/-- The alias of an inner array is one that the compiler gives out. -/
theorem innerAlias_isAlias {aliasName : String} (isAlias : Identifier.IsAlias aliasName)
    (enclosing : List String) (depth : Nat) :
    Identifier.IsAlias (innerAlias aliasName enclosing depth) :=
  (isAlias.numbered depth).unique (enclosing ++ [aliasName]) depth

mutual

/-- The induction is on the field. Its column fits anywhere, for every scope of safe names. -/
theorem columnOfField_readable (names : schema.HasSafeNames) :
    ∀ (field : Field) (scope : Scope) (depth : Nat) (bound : List String) (aliasName : String)
      (projection : Projection), scope.HasSafeNames →
        columnOfField schema scope depth bound aliasName field = .ok projection →
          projection.FitsAnywhere
  | .relationship query relationship arguments, scope, depth, bound, aliasName, projection, here,
      compiled =>
      absurd compiled columnOfField_relationship
  | .column column none, scope, depth, bound, aliasName, projection, here, compiled => by
      obtain ⟨⟨property, known⟩, rfl⟩ := columnOfField_plain_ok.mp compiled
      exact ⟨rfl, Projection.path_readable (here.column known)⟩
  | .column column (some nested), scope, depth, bound, aliasName, projection, here, compiled => by
      obtain ⟨property, known, inner⟩ := columnOfField_nested_ok.mp compiled
      exact subquery_readable names nested _ property.type column depth bound projection
        (here.column known) (here.object column property known) inner

/-- Each column of a row fits anywhere. -/
theorem columnsOfFields_readable (names : schema.HasSafeNames) :
    ∀ (fields : List (String × Field)) (scope : Scope) (depth : Nat) (bound : List String)
      (columns : List (String × Projection)), scope.HasSafeNames →
        columnsOfFields schema scope depth bound fields = .ok columns →
          ∀ entry ∈ columns, entry.2.FitsAnywhere
  | [], scope, depth, bound, columns, here, compiled => by
      rw [columnsOfFields_nil_ok.mp compiled]
      simp
  | (aliasName, first) :: rest, scope, depth, bound, columns, here, compiled => by
      obtain ⟨projection, others, one, more, rfl⟩ := columnsOfFields_cons_ok.mp compiled
      rw [List.forall_mem_cons]
      constructor
      · exact columnOfField_readable names first scope depth bound aliasName projection here one
      · exact columnsOfFields_readable names rest scope depth bound others here more

/-- A subquery of a readable source fits anywhere. -/
theorem subquery_readable (names : schema.HasSafeNames) :
    ∀ (nested : Selection) (source : Path) (type : ValueType) (field : String) (depth : Nat)
      (enclosing : List String) (projection : Projection), PathReadable source →
        Identifier.isSafe field →
          subquery schema source type field depth enclosing nested = .ok projection →
            projection.FitsAnywhere
  | .object fields, source, type, field, depth, enclosing, projection, located, safe,
      compiled => by
      obtain ⟨name, object, columns, _, known, _, inner, rfl⟩ := subquery_object_ok.mp compiled
      have isAlias := subqueryAlias_isAlias safe enclosing depth
      have fit := columnsOfFields_readable names fields _ _ _ columns
        ⟨isAlias, names.objects name object known⟩ inner
      refine ⟨rfl, Projection.subquery_readable ?_⟩
      exact Select.nested_readable fit (by simp) ⟨located, isAlias.plain⟩
  | .array elements, source, type, field, depth, enclosing, projection, located, safe,
      compiled => by
      obtain ⟨element, select, _, inner, rfl⟩ := subquery_array_ok.mp compiled
      have isAlias := subqueryAlias_isAlias safe enclosing depth
      refine ⟨rfl, Projection.subquery_readable ?_⟩
      exact selectElements_readable names elements source _ element (depth + 1) enclosing select
        located isAlias inner

/-- The statement of the elements can be read at every level of an array. -/
theorem selectElements_readable (names : schema.HasSafeNames) :
    ∀ (elements : Selection) (source : Path) (aliasName : String) (element : ValueType)
      (depth : Nat) (enclosing : List String) (select : Select), PathReadable source →
        Identifier.IsAlias aliasName →
          selectElements schema source aliasName element depth enclosing elements = .ok select →
            ∀ numbering, (select.query numbering).1.Readable
  | .object fields, source, aliasName, element, depth, enclosing, select, located, isAlias,
      compiled => by
      obtain ⟨_, name, object, columns, _, known, inner, rfl⟩ :=
        selectElements_object_ok.mp compiled
      have fit := columnsOfFields_readable names fields _ _ _ columns
        ⟨isAlias, names.objects name object known⟩ inner
      exact Select.nested_readable fit (by simp) ⟨located, isAlias.plain⟩
  | .array elements, source, aliasName, element, depth, enclosing, select, located, isAlias,
      compiled => by
      obtain ⟨_, inner, embedded, _, continued, rfl⟩ := selectElements_array_ok.mp compiled
      have readable := selectElements_readable names elements _ _ inner (depth + 1) _ embedded
        (Path.readable_ofAlias isAlias).1 (innerAlias_isAlias isAlias enclosing depth) continued
      have origin : OriginReadable (.iterated source aliasName) := ⟨located, isAlias.plain⟩
      apply Select.nested_readable _ (fun _ => rfl) origin
      intro entry member
      rw [List.mem_singleton.mp member]
      exact ⟨rfl, Projection.subquery_readable readable⟩

end

end Selection

end DocumentQuery
