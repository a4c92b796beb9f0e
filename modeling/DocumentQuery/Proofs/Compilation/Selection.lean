/-
This file says when each kind of selection compiles and which columns it becomes.
-/

import DocumentQuery.Compilation.Selection
import DocumentQuery.Proofs.Resolution

namespace DocumentQuery.Selection

variable {schema : Schema} {scope : Scope} {depth : Nat} {bound enclosing : List String}
  {aliasName column field : String} {source : Path} {type element : ValueType}

/-- Selections are accepted down to the limit of nesting. -/
theorem checkDepth_ok {done : Unit} : checkDepth depth = .ok done ↔ depth ≤ maximumNesting := by
  unfold checkDepth
  split <;> simp_all

/-- Naming the alias in a fault changes nothing about when a selection compiles. -/
theorem underAlias_ok {Value : Type} {result : Except Fault Value} {value : Value} :
    underAlias aliasName result = .ok value ↔ result = .ok value :=
  Attempt.mapError_eq_ok_iff

/-- A plain column compiles exactly when the object in scope has it. -/
theorem columnOfField_plain_ok {projection : Projection} :
    columnOfField schema scope depth bound aliasName (.column column none) = .ok projection ↔
      (∃ property, scope.object.property? column = some property) ∧
        projection = .path ⟨scope.aliasName, [column]⟩ := by
  simp only [columnOfField, Attempt.bind_eq_ok_iff, Scope.property_ok, Attempt.pure_eq_ok_iff,
    exists_and_right, @eq_comm _ _ projection]

/-- A column with a nested selection becomes the subquery of its property. -/
theorem columnOfField_nested_ok {nested : Selection} {projection : Projection} :
    columnOfField schema scope depth bound aliasName (.column column (some nested)) =
        .ok projection ↔
      ∃ property, scope.object.property? column = some property ∧
        subquery schema ⟨scope.aliasName, [column]⟩ property.type column depth bound nested =
          .ok projection := by
  simp only [columnOfField, Attempt.bind_eq_ok_iff, Scope.property_ok, underAlias_ok]

theorem columnOfField_relationship {query : Query} {relationship : String}
    {arguments : Arguments} {projection : Projection} :
    columnOfField schema scope depth bound aliasName (.relationship query relationship arguments) ≠
      .ok projection := by
  simp [columnOfField]

theorem columnsOfFields_nil_ok {columns : List (String × Projection)} :
    columnsOfFields schema scope depth bound [] = .ok columns ↔ columns = [] := by
  simp only [columnsOfFields, Except.ok.injEq, @eq_comm _ _ columns]

/-- Fields compile one by one and keep their aliases in order. -/
theorem columnsOfFields_cons_ok {first : Field} {rest : List (String × Field)}
    {columns : List (String × Projection)} :
    columnsOfFields schema scope depth bound ((aliasName, first) :: rest) = .ok columns ↔
      ∃ projection others,
        columnOfField schema scope depth bound aliasName first = .ok projection ∧
          columnsOfFields schema scope depth bound rest = .ok others ∧
            columns = (aliasName, projection) :: others := by
  simp only [columnsOfFields, Attempt.bind_eq_ok_iff, Attempt.pure_eq_ok_iff,
    @eq_comm _ _ columns]
  constructor
  · intro accepted
    obtain ⟨projection, one, others, more, same⟩ := accepted
    exact ⟨projection, others, one, more, same⟩
  · intro accepted
    obtain ⟨projection, others, one, more, same⟩ := accepted
    exact ⟨projection, one, others, more, same⟩

/-- The alias of a subquery is free in the statements around it. -/
def subqueryAlias (field : String) (enclosing : List String) (depth : Nat) : String :=
  Alias.unique (subqueryPrefix ++ field) enclosing depth

/-- An object selection reads one document under a free alias, one level deeper. -/
theorem subquery_object_ok {fields : List (String × Field)} {projection : Projection} :
    subquery schema source type field depth enclosing (.object fields) = .ok projection ↔
      ∃ name object columns, type.required = .named name .object ∧
        schema.objectType? name = some object ∧ depth + 1 ≤ maximumNesting ∧
          columnsOfFields schema ⟨subqueryAlias field enclosing depth, name, object⟩ (depth + 1)
              (enclosing ++ [subqueryAlias field enclosing depth]) fields = .ok columns ∧
            projection = .subquery
              { columns, origin := some (.aliased source (subqueryAlias field enclosing depth)) } := by
  unfold subquery
  constructor
  · intro compiled
    split at compiled
    next name required =>
      simp only [Attempt.bind_eq_ok_iff, Schema.lookUpObject_ok, checkDepth_ok,
        Attempt.pure_eq_ok_iff] at compiled
      obtain ⟨object, known, _, shallow, columns, inner, same⟩ := compiled
      exact ⟨name, object, columns, required, known, shallow, inner, same.symm⟩
    next => cases compiled
  · intro accepted
    obtain ⟨name, object, columns, required, known, shallow, inner, rfl⟩ := accepted
    simp only [required, Attempt.bind_eq_ok_iff, Schema.lookUpObject_ok, checkDepth_ok,
      Attempt.pure_eq_ok_iff]
    exact ⟨object, known, (), shallow, columns, inner, rfl⟩

/-- An array selection reads the elements under a free alias, one level deeper. -/
theorem subquery_array_ok {elements : Selection} {projection : Projection} :
    subquery schema source type field depth enclosing (.array elements) = .ok projection ↔
      ∃ element select, type.required = .array element ∧
        selectElements schema source (subqueryAlias field enclosing depth) element (depth + 1)
            enclosing elements = .ok select ∧
          projection = .subquery select := by
  unfold subquery
  constructor
  · intro compiled
    split at compiled
    next element required =>
      simp only [Attempt.bind_eq_ok_iff, Attempt.pure_eq_ok_iff] at compiled
      obtain ⟨select, inner, same⟩ := compiled
      exact ⟨element, select, required, inner, same.symm⟩
    next => cases compiled
  · intro accepted
    obtain ⟨element, select, required, inner, rfl⟩ := accepted
    simp only [required, Attempt.bind_eq_ok_iff, Attempt.pure_eq_ok_iff]
    exact ⟨select, inner, rfl⟩

/-- Elements that are objects are selected from at the depth of their array. -/
theorem selectElements_object_ok {fields : List (String × Field)} {select : Select} :
    selectElements schema source aliasName element depth enclosing (.object fields) =
        .ok select ↔
      depth ≤ maximumNesting ∧ ∃ name object columns, element.required = .named name .object ∧
        schema.objectType? name = some object ∧
          columnsOfFields schema ⟨aliasName, name, object⟩ depth (enclosing ++ [aliasName]) fields =
              .ok columns ∧
            select =
              { columns, origin := some (.iterated source aliasName), asArray := true } := by
  simp only [selectElements, Attempt.bind_eq_ok_iff, checkDepth_ok, exists_const]
  refine and_congr_right fun shallow => ?_
  constructor
  · intro compiled
    split at compiled
    next name required =>
      simp only [Attempt.bind_eq_ok_iff, Schema.lookUpObject_ok, Attempt.pure_eq_ok_iff] at compiled
      obtain ⟨object, known, columns, inner, same⟩ := compiled
      exact ⟨name, object, columns, required, known, inner, same.symm⟩
    next => cases compiled
  · intro accepted
    obtain ⟨name, object, columns, required, known, inner, rfl⟩ := accepted
    simp only [required, Attempt.bind_eq_ok_iff, Schema.lookUpObject_ok, Attempt.pure_eq_ok_iff]
    exact ⟨object, known, columns, inner, rfl⟩

/-- Each level of an array of arrays appends the depth to the alias above it. -/
def innerAlias (aliasName : String) (enclosing : List String) (depth : Nat) : String :=
  Alias.unique (Alias.numbered aliasName depth) (enclosing ++ [aliasName]) depth

/-- Elements that are arrays are selected from by an array inside the array. -/
theorem selectElements_array_ok {elements : Selection} {select : Select} :
    selectElements schema source aliasName element depth enclosing (.array elements) =
        .ok select ↔
      depth ≤ maximumNesting ∧ ∃ inner embedded, element.required = .array inner ∧
        selectElements schema (.ofAlias aliasName) (innerAlias aliasName enclosing depth) inner
            (depth + 1) (enclosing ++ [aliasName]) elements = .ok embedded ∧
          select =
            { columns := [(aliasName, .subquery embedded)]
              origin := some (.iterated source aliasName)
              asValue := true
              asArray := true } := by
  simp only [selectElements, Attempt.bind_eq_ok_iff, checkDepth_ok, exists_const]
  refine and_congr_right fun shallow => ?_
  constructor
  · intro compiled
    split at compiled
    next inner required =>
      simp only [Attempt.bind_eq_ok_iff, Attempt.pure_eq_ok_iff] at compiled
      obtain ⟨embedded, continued, same⟩ := compiled
      exact ⟨inner, embedded, required, continued, same.symm⟩
    next => cases compiled
  · intro accepted
    obtain ⟨inner, embedded, required, continued, rfl⟩ := accepted
    simp only [required, Attempt.bind_eq_ok_iff, Attempt.pure_eq_ok_iff]
    exact ⟨embedded, continued, rfl⟩

/-- The outermost selection has room for one level, so its own depth is never refused. -/
theorem columns_ok {fields : Table Field} {compiled : Table Projection} :
    columns schema scope fields = .ok compiled ↔
      columnsOfFields schema scope 1 [scope.aliasName] fields = .ok compiled := by
  simp only [columns, Attempt.bind_eq_ok_iff, checkDepth_ok, exists_const, maximumNesting]
  exact ⟨fun both => both.2, fun inner => ⟨by decide, inner⟩⟩

end DocumentQuery.Selection
