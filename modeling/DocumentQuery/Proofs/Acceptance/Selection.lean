/-
This file proves that selections compile exactly when they are well formed and shallow enough.
-/

import DocumentQuery.Proofs.Compilation.Selection
import DocumentQuery.Proofs.WellFormed

namespace DocumentQuery.Selection

/-- Elements take at least one level. -/
theorem elementLevels_pos (elements : Selection) : 1 ≤ elements.elementLevels := by
  cases elements with
  | object fields => simp [elementLevels]
  | array elements => simp [elementLevels]

variable {schema : Schema}

mutual

/-- The induction is on the field. A field is accepted when it is well formed and its levels fit
below the depth. -/
theorem columnOfField_accepts :
    ∀ (field : Field) (scope : Scope) (depth : Nat) (bound : List String) (aliasName : String),
      depth ≤ maximumNesting →
        ((∃ projection, columnOfField schema scope depth bound aliasName field = .ok projection) ↔
          FieldWellFormed schema scope.object field ∧
            depth + fieldLevels field ≤ maximumNesting)
  | .relationship query relationship arguments, scope, depth, bound, aliasName, shallow => by
      simp [columnOfField_relationship, FieldWellFormed]
  | .column column none, scope, depth, bound, aliasName, shallow => by
      simp only [columnOfField_plain_ok, FieldWellFormed, fieldLevels]
      constructor
      · intro accepted
        obtain ⟨_, known, _⟩ := accepted
        exact ⟨known, shallow⟩
      · intro accepted
        obtain ⟨known, _⟩ := accepted
        exact ⟨_, known, rfl⟩
  | .column column (some nested), scope, depth, bound, aliasName, shallow => by
      have accepts := fun type =>
        subquery_accepts nested ⟨scope.aliasName, [column]⟩ type column depth bound
      simp only [columnOfField_nested_ok, FieldWellFormed, fieldLevels]
      constructor
      · intro accepted
        obtain ⟨projection, property, known, compiled⟩ := accepted
        have within := (accepts property.type).mp ⟨projection, compiled⟩
        exact ⟨⟨property, known, within.1⟩, within.2⟩
      · intro accepted
        obtain ⟨⟨property, known, wellFormed⟩, nesting⟩ := accepted
        obtain ⟨projection, compiled⟩ := (accepts property.type).mpr ⟨wellFormed, nesting⟩
        exact ⟨projection, property, known, compiled⟩

/-- A row is accepted when each of its fields is. -/
theorem columnsOfFields_accepts :
    ∀ (fields : List (String × Field)) (scope : Scope) (depth : Nat) (bound : List String),
      depth ≤ maximumNesting →
        ((∃ columns, columnsOfFields schema scope depth bound fields = .ok columns) ↔
          RowWellFormed schema scope.object fields ∧ depth + rowLevels fields ≤ maximumNesting)
  | [], scope, depth, bound, shallow => by
      simp only [columnsOfFields_nil_ok, RowWellFormed, rowLevels, exists_eq, true_and]
      exact ⟨fun _ => shallow, fun _ => trivial⟩
  | (aliasName, first) :: rest, scope, depth, bound, shallow => by
      have one := columnOfField_accepts first scope depth bound aliasName shallow
      have more := columnsOfFields_accepts rest scope depth bound shallow
      simp only [columnsOfFields_cons_ok, RowWellFormed, rowLevels]
      constructor
      · intro accepted
        obtain ⟨_, projection, others, compiled, continued, _⟩ := accepted
        have head := one.mp ⟨projection, compiled⟩
        have tail := more.mp ⟨others, continued⟩
        exact ⟨⟨head.1, tail.1⟩, by omega⟩
      · intro accepted
        obtain ⟨⟨head, tail⟩, nesting⟩ := accepted
        obtain ⟨projection, compiled⟩ := one.mpr ⟨head, by omega⟩
        obtain ⟨others, continued⟩ := more.mpr ⟨tail, by omega⟩
        exact ⟨_, projection, others, compiled, continued, rfl⟩

/-- A subquery is accepted when its selection has the shape of the type and its levels fit below the
depth. -/
theorem subquery_accepts :
    ∀ (nested : Selection) (source : Path) (type : ValueType) (field : String) (depth : Nat)
      (enclosing : List String),
      (∃ projection, subquery schema source type field depth enclosing nested = .ok projection) ↔
        WellFormed schema type nested ∧ depth + levels nested ≤ maximumNesting
  | .object fields, source, type, field, depth, enclosing => by
      simp only [subquery_object_ok, WellFormed, levels]
      constructor
      · intro accepted
        obtain ⟨_, name, object, columns, required, known, shallow, inner, _⟩ := accepted
        have within := (columnsOfFields_accepts fields _ _ _ shallow).mp ⟨columns, inner⟩
        exact ⟨⟨name, object, required, known, within.1⟩, by omega⟩
      · intro accepted
        obtain ⟨⟨name, object, required, known, wellFormed⟩, nesting⟩ := accepted
        have shallow : depth + 1 ≤ maximumNesting := by omega
        obtain ⟨columns, inner⟩ := (columnsOfFields_accepts fields
          ⟨subqueryAlias field enclosing depth, name, object⟩ (depth + 1)
          (enclosing ++ [subqueryAlias field enclosing depth]) shallow).mpr
            ⟨wellFormed, by omega⟩
        exact ⟨_, name, object, columns, required, known, shallow, inner, rfl⟩
  | .array elements, source, type, field, depth, enclosing => by
      have accepts := fun element => selectElements_accepts elements source
        (subqueryAlias field enclosing depth) element (depth + 1) enclosing
      simp only [subquery_array_ok, WellFormed, levels]
      constructor
      · intro accepted
        obtain ⟨_, element, select, required, inner, _⟩ := accepted
        have within := (accepts element).mp ⟨select, inner⟩
        exact ⟨⟨element, required, within.1⟩, by omega⟩
      · intro accepted
        obtain ⟨⟨element, required, wellFormed⟩, nesting⟩ := accepted
        obtain ⟨select, inner⟩ := (accepts element).mpr ⟨wellFormed, by omega⟩
        exact ⟨_, element, select, required, inner, rfl⟩

/-- Elements are selected one level below the statement that holds their array. -/
theorem selectElements_accepts :
    ∀ (elements : Selection) (source : Path) (aliasName : String) (element : ValueType)
      (depth : Nat) (enclosing : List String),
      (∃ select, selectElements schema source aliasName element depth enclosing elements =
        .ok select) ↔
        WellFormed schema element elements ∧
          depth + elementLevels elements ≤ maximumNesting + 1
  | .object fields, source, aliasName, element, depth, enclosing => by
      simp only [selectElements_object_ok, WellFormed, elementLevels]
      constructor
      · intro accepted
        obtain ⟨_, shallow, name, object, columns, required, known, inner, _⟩ := accepted
        have within := (columnsOfFields_accepts fields _ _ _ shallow).mp ⟨columns, inner⟩
        exact ⟨⟨name, object, required, known, within.1⟩, by omega⟩
      · intro accepted
        obtain ⟨⟨name, object, required, known, wellFormed⟩, nesting⟩ := accepted
        have shallow : depth ≤ maximumNesting := by omega
        obtain ⟨columns, inner⟩ := (columnsOfFields_accepts fields ⟨aliasName, name, object⟩ depth
          (enclosing ++ [aliasName]) shallow).mpr ⟨wellFormed, by omega⟩
        exact ⟨_, shallow, name, object, columns, required, known, inner, rfl⟩
  | .array elements, source, aliasName, element, depth, enclosing => by
      have accepts := fun inner => selectElements_accepts elements (.ofAlias aliasName)
        (innerAlias aliasName enclosing depth) inner (depth + 1) (enclosing ++ [aliasName])
      simp only [selectElements_array_ok, WellFormed, elementLevels]
      constructor
      · intro accepted
        obtain ⟨_, _, inner, embedded, required, continued, _⟩ := accepted
        have within := (accepts inner).mp ⟨embedded, continued⟩
        exact ⟨⟨inner, required, within.1⟩, by omega⟩
      · intro accepted
        obtain ⟨⟨inner, required, wellFormed⟩, nesting⟩ := accepted
        obtain ⟨embedded, continued⟩ := (accepts inner).mpr ⟨wellFormed, by omega⟩
        have nested := elementLevels_pos elements
        exact ⟨_, by omega, inner, embedded, required, continued, rfl⟩

end

/-- The statement of the root collection is one level of its own. -/
theorem columns_accepts {scope : Scope} {fields : Table Field} :
    (∃ compiled, columns schema scope fields = .ok compiled) ↔
      RowWellFormed schema scope.object fields ∧ rowLevels fields + 1 ≤ maximumNesting := by
  have shallow : 1 ≤ maximumNesting := by decide
  simp only [columns_ok]
  rw [columnsOfFields_accepts fields scope 1 [scope.aliasName] shallow, Nat.add_comm 1]

end DocumentQuery.Selection
