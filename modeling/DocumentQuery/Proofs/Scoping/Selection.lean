/-
This file proves that the compiled columns are closed, however deep their statements are nested.
-/

import DocumentQuery.Proofs.Compilation.Selection
import DocumentQuery.Proofs.Rendering.Tree
import DocumentQuery.Proofs.Scoping.Fresh

namespace DocumentQuery

open Dialect

variable {schema : Schema} {inScope : List String}

/-- The item is closed and binds aliases of subqueries only. -/
structure Dialect.Item.Nested (item : Item) (inScope : List String) : Prop where
  closed : item.Scoped inScope
  binders : ∀ aliasName ∈ item.binders, Stemmed Selection.subqueryPrefix aliasName

structure Dialect.Query.Nested (query : Dialect.Query) (inScope : List String) : Prop where
  closed : query.Scoped inScope
  binders : ∀ aliasName ∈ query.binders, Stemmed Selection.subqueryPrefix aliasName

/-- A nested statement numbers no elements, whatever the numbering before it is. -/
def Select.Nested (select : Select) (inScope : List String) : Prop :=
  ∀ draft, (select.query draft).1.Nested inScope ∧
    (select.query draft).2.elements = draft.elements

/-- A column is nested in every form and whatever numbers were given out before. -/
def Projection.Nested (column : Projection) (inScope : List String) : Prop :=
  ∀ form draft, (Select.item form column draft).1.Nested inScope ∧
    (Select.item form column draft).2.elements = draft.elements

theorem Projection.path_nested {path : Path} (located : path.aliasName ∈ inScope) :
    (Projection.path path).Nested inScope := by
  intro form draft
  simp only [Select.item]
  split
  · exact ⟨⟨located, by simp [Item.binders]⟩, trivial⟩
  · exact ⟨⟨located, by simp [Item.binders]⟩, trivial⟩

theorem Projection.aggregate_nested {aggregate : AggregateColumn}
    (located : aggregate.call.Scoped inScope) : (Projection.aggregate aggregate).Nested inScope :=
  fun _ _ => ⟨⟨located, by simp [Select.item, Item.binders]⟩, rfl⟩

/-- A subquery is nested in every form of its column. -/
theorem Projection.subquery_nested {select : Select} (nested : select.Nested inScope) :
    (Projection.subquery select).Nested inScope := by
  intro form draft
  obtain ⟨query, unchanged⟩ := nested draft
  simp only [Select.item]
  split
  · exact ⟨⟨query.closed, query.binders⟩, unchanged⟩
  · exact ⟨⟨query.closed, query.binders⟩, unchanged⟩

namespace Select

/-- Nested columns stay closed when they are listed, and they leave the numbering alone. -/
theorem items_nested {columns : List (String × Projection)}
    (nested : ∀ entry ∈ columns, entry.2.Nested inScope) (form : ProjectionForm) (draft : Draft) :
    ScopedItems inScope (items form columns draft).1 ∧
      (∀ aliasName ∈ bindersOfItems (items form columns draft).1,
        Stemmed Selection.subqueryPrefix aliasName) ∧
        (items form columns draft).2.elements = draft.elements := by
  induction columns generalizing draft with
  | nil => exact ⟨trivial, by simp [items, bindersOfItems], rfl⟩
  | cons entry rest continued =>
      obtain ⟨aliasName, column⟩ := entry
      obtain ⟨here, others⟩ := List.forall_mem_cons.mp nested
      obtain ⟨first, unchanged⟩ := here form draft
      obtain ⟨closed, binders, later⟩ := continued others (item form column draft).2
      refine ⟨⟨first.closed, closed⟩, ?_, later.trans unchanged⟩
      intro name member
      rcases List.mem_append.mp member with inside | after
      · exact first.binders name inside
      · exact binders name after

/-- A statement that has no clause but its origin binds one alias around its columns. -/
theorem origin_nested {columns : List (String × Projection)} {origin : Origin}
    {asValue asArray : Bool} (located : OriginScoped inScope origin)
    (fresh : originAlias origin ∉ inScope)
    (stemmed : Stemmed Selection.subqueryPrefix (originAlias origin))
    (nested : ∀ entry ∈ columns, entry.2.Nested (inScope ++ [originAlias origin])) :
    Select.Nested { columns, origin := some origin, asValue, asArray } inScope := by
  intro draft
  obtain ⟨closed, binders, unchanged⟩ :=
    items_nested nested (form { columns, origin := some origin, asValue, asArray }) draft
  refine ⟨⟨⟨?_, closed⟩, ?_⟩, unchanged⟩
  · constructor
    · rintro _ ⟨⟩
      exact located
    · exact List.forall_mem_singleton.mpr fresh
    · exact List.nodup_singleton _
    · rintro _ ⟨⟩
    · rintro _ ⟨⟩
  · intro name member
    rcases List.mem_append.mp member with inside | last
    · exact binders name inside
    · rw [List.mem_singleton.mp last]
      exact stemmed

end Select

namespace Selection

/-- Every subquery in scope is among the enclosing ones. -/
def Encloses (enclosing inScope : List String) : Prop :=
  ∀ aliasName ∈ inScope, Stemmed subqueryPrefix aliasName → aliasName ∈ enclosing

/-- A new alias is added to the enclosing ones when it comes into scope. -/
theorem Encloses.add {enclosing : List String} (encloses : Encloses enclosing inScope)
    (aliasName : String) : Encloses (enclosing ++ [aliasName]) (inScope ++ [aliasName]) := by
  intro name member stemmed
  rcases List.mem_append.mp member with inside | last
  · exact List.mem_append_left _ (encloses name inside stemmed)
  · exact List.mem_append_right _ last

/-- A stemmed alias that no enclosing statement binds is not in scope. -/
theorem Encloses.fresh {enclosing : List String} (encloses : Encloses enclosing inScope)
    {aliasName : String} (stemmed : Stemmed subqueryPrefix aliasName)
    (free : aliasName ∉ enclosing) : aliasName ∉ inScope :=
  fun member => free (encloses aliasName member stemmed)

/-- The alias of a subquery has the stem and is free. -/
theorem subqueryAlias_free (field : String) (enclosing : List String) (depth : Nat) :
    Stemmed subqueryPrefix (subqueryAlias field enclosing depth) ∧
      subqueryAlias field enclosing depth ∉ enclosing :=
  ⟨(Stemmed.self subqueryPrefix field).unique enclosing depth, Alias.unique_free _ _ _⟩

/-- The alias of an inner array has the stem and is free, also beside the alias above it. -/
theorem innerAlias_free {aliasName : String} (stemmed : Stemmed subqueryPrefix aliasName)
    (enclosing : List String) (depth : Nat) :
    Stemmed subqueryPrefix (innerAlias aliasName enclosing depth) ∧
      innerAlias aliasName enclosing depth ∉ enclosing ++ [aliasName] :=
  ⟨((stemmed.append "_").append (toString depth)).unique _ depth, Alias.unique_free _ _ _⟩

mutual

/-- The induction is on the field. Whatever is in scope, its column reads aliases in scope only. -/
theorem columnOfField_nested :
    ∀ (field : Field) (scope : Scope) (depth : Nat) (bound : List String) (aliasName : String)
      (projection : Projection),
      columnOfField schema scope depth bound aliasName field = .ok projection →
        ∀ inScope, scope.aliasName ∈ inScope → Encloses bound inScope → projection.Nested inScope
  | .relationship query relationship arguments, scope, depth, bound, aliasName, projection,
      compiled =>
      absurd compiled columnOfField_relationship
  | .column column none, scope, depth, bound, aliasName, projection, compiled => by
      intro inScope here encloses
      obtain ⟨_, rfl⟩ := columnOfField_plain_ok.mp compiled
      exact Projection.path_nested here
  | .column column (some nested), scope, depth, bound, aliasName, projection, compiled => by
      intro inScope here encloses
      obtain ⟨property, _, inner⟩ := columnOfField_nested_ok.mp compiled
      exact subquery_nested nested _ property.type column depth bound projection inner inScope here
        encloses

theorem columnsOfFields_nested :
    ∀ (fields : List (String × Field)) (scope : Scope) (depth : Nat) (bound : List String)
      (columns : List (String × Projection)),
      columnsOfFields schema scope depth bound fields = .ok columns →
        ∀ inScope, scope.aliasName ∈ inScope → Encloses bound inScope →
          ∀ entry ∈ columns, entry.2.Nested inScope
  | [], scope, depth, bound, columns, compiled => by
      intro inScope here encloses
      rw [columnsOfFields_nil_ok.mp compiled]
      simp
  | (aliasName, first) :: rest, scope, depth, bound, columns, compiled => by
      intro inScope here encloses
      obtain ⟨projection, others, one, more, rfl⟩ := columnsOfFields_cons_ok.mp compiled
      rw [List.forall_mem_cons]
      constructor
      · exact columnOfField_nested first scope depth bound aliasName projection one inScope here
          encloses
      · exact columnsOfFields_nested rest scope depth bound others more inScope here encloses

/-- A subquery reads its source in scope and binds an alias that is fresh there. -/
theorem subquery_nested :
    ∀ (nested : Selection) (source : Path) (type : ValueType) (field : String) (depth : Nat)
      (enclosing : List String) (projection : Projection),
      subquery schema source type field depth enclosing nested = .ok projection →
        ∀ inScope, source.aliasName ∈ inScope → Encloses enclosing inScope →
          projection.Nested inScope
  | .object fields, source, type, field, depth, enclosing, projection, compiled => by
      intro inScope located encloses
      obtain ⟨name, object, columns, _, _, _, inner, rfl⟩ := subquery_object_ok.mp compiled
      obtain ⟨stemmed, free⟩ := subqueryAlias_free field enclosing depth
      have origin : OriginScoped inScope (.aliased source (subqueryAlias field enclosing depth)) :=
        located
      apply Projection.subquery_nested
      apply Select.origin_nested origin (encloses.fresh stemmed free) stemmed
      exact columnsOfFields_nested fields _ _ _ columns inner _
        (List.mem_append_right _ (List.mem_singleton_self _)) (encloses.add _)
  | .array elements, source, type, field, depth, enclosing, projection, compiled => by
      intro inScope located encloses
      obtain ⟨element, select, _, inner, rfl⟩ := subquery_array_ok.mp compiled
      obtain ⟨stemmed, free⟩ := subqueryAlias_free field enclosing depth
      apply Projection.subquery_nested
      exact selectElements_nested elements source _ element (depth + 1) enclosing select inner
        inScope located encloses stemmed (encloses.fresh stemmed free)

/-- Each level of an array of arrays binds a fresh alias around the levels inside it. -/
theorem selectElements_nested :
    ∀ (elements : Selection) (source : Path) (aliasName : String) (element : ValueType)
      (depth : Nat) (enclosing : List String) (select : Select),
      selectElements schema source aliasName element depth enclosing elements = .ok select →
        ∀ inScope, source.aliasName ∈ inScope → Encloses enclosing inScope →
          Stemmed subqueryPrefix aliasName → aliasName ∉ inScope → select.Nested inScope
  | .object fields, source, aliasName, element, depth, enclosing, select, compiled => by
      intro inScope located encloses stemmed fresh
      obtain ⟨_, name, object, columns, _, _, inner, rfl⟩ := selectElements_object_ok.mp compiled
      have origin : OriginScoped inScope (.iterated source aliasName) := located
      apply Select.origin_nested origin fresh stemmed
      exact columnsOfFields_nested fields _ _ _ columns inner _
        (List.mem_append_right _ (List.mem_singleton_self _)) (encloses.add _)
  | .array elements, source, aliasName, element, depth, enclosing, select, compiled => by
      intro inScope located encloses stemmed fresh
      obtain ⟨_, inner, embedded, _, continued, rfl⟩ := selectElements_array_ok.mp compiled
      obtain ⟨stemmed', free⟩ := innerAlias_free stemmed enclosing depth
      have within := encloses.add aliasName
      have nested := selectElements_nested elements _ _ inner (depth + 1) _ embedded continued
        (inScope ++ [aliasName]) (List.mem_append_right _ (List.mem_singleton_self _)) within
        stemmed' (within.fresh stemmed' free)
      have origin : OriginScoped inScope (.iterated source aliasName) := located
      apply Select.origin_nested origin fresh stemmed
      rw [List.forall_mem_singleton]
      exact Projection.subquery_nested nested

end

end Selection

end DocumentQuery
