/-
This file proves that conditions are read back from their written form, and that every condition
that is read has distinct names in its tables.
-/

import DocumentQuery.Proofs.RoundTrip.Record
import DocumentQuery.Request.Format

namespace DocumentQuery

open Source

/-- Arguments are read back when no name is repeated in them. -/
theorem Arguments.read?_restores {room : Nat} {arguments : Arguments}
    (keyed : Table.Keyed Json.Keyed arguments) :
    Restores Arguments.read? room arguments.toJson arguments :=
  documents_restore keyed

/-- Whatever is read as arguments repeats no name. -/
theorem Arguments.read?_keyed (room : Nat) :
    Yields (Arguments.read? room) (Table.Keyed Json.Keyed) :=
  tableOf?_yields fun smaller _ => json?_keyed smaller

/-- The names of a field path are read back. -/
theorem readNames?_restores (room : Nat) (names : List String) :
    Restores readNames? room (.ofNames names) names :=
  listOf?_restores fun smaller _ name _ => string?_restores smaller name

namespace SearchedCollection

/-- The arguments of a searched collection have distinct names. -/
inductive Keyed : SearchedCollection → Prop
  | related {relationship : String} {arguments : Arguments}
      (given : Table.Keyed Json.Keyed arguments) : Keyed (.related relationship arguments)
  | unrelated {collection : String} {arguments : Arguments}
      (given : Table.Keyed Json.Keyed arguments) : Keyed (.unrelated collection arguments)
  | nested {column : String} {arguments : Arguments} {fieldPath : List String}
      (given : Table.Keyed Json.Keyed arguments) : Keyed (.nested column arguments fieldPath)

/-- A searched collection is read back in each of its variants. -/
theorem read?_restores {room : Nat} {collection : SearchedCollection} (keyed : collection.Keyed) :
    Restores read? room collection.toJson collection := by
  cases keyed with
  | @related relationship arguments given =>
      refine restores_tagged variants true ["relationship", "arguments"] (by decide) rfl
        fun room _ fits opened => ?_
      have passed := Fields.withDefault?_written "arguments" [] fits rfl
        (Arguments.read?_restores given)
      have named := Fields.required?_written "relationship" fits rfl
        (string?_restores room relationship)
      exact reads_next opened (reads_next passed (reads_next named rfl))
  | @unrelated collection arguments given =>
      refine restores_tagged variants true ["collection", "arguments"] (by decide) rfl
        fun room _ fits opened => ?_
      have passed := Fields.withDefault?_written "arguments" [] fits rfl
        (Arguments.read?_restores given)
      have named := Fields.required?_written "collection" fits rfl
        (string?_restores room collection)
      exact reads_next opened (reads_next passed (reads_next named rfl))
  | @nested column arguments fieldPath given =>
      refine restores_tagged variants true ["column_name", "arguments", "field_path"] (by decide)
        rfl fun room _ fits opened => ?_
      have passed := Fields.withDefault?_written "arguments" [] fits rfl
        (Arguments.read?_restores given)
      have named := Fields.required?_written "column_name" fits rfl (string?_restores room column)
      have inside := Fields.withDefault?_written "field_path" [] fits rfl
        (readNames?_restores room fieldPath)
      exact reads_next opened (reads_next passed (reads_next named (reads_next inside rfl)))

/-- Whatever is read as a searched collection has distinct names in its arguments. -/
theorem read?_keyed (room : Nat) : Yields (read? room) Keyed := by
  intro source collection found
  cases room with
  | zero => cases found
  | succ room =>
      simp only [read?, Option.bind_eq_bind, Option.bind_eq_some_iff] at found
      obtain ⟨⟨tag, fields⟩, _, arguments, passed, found⟩ := found
      have given := Fields.withDefault?_yields (Arguments.read?_keyed room) Table.keyed_nil passed
      split at found
      next =>
        obtain ⟨_, _, found⟩ := Option.bind_eq_some_iff.mp found
        cases found
        exact .related given
      next =>
        obtain ⟨_, _, found⟩ := Option.bind_eq_some_iff.mp found
        cases found
        exact .unrelated given
      next =>
        obtain ⟨_, _, found⟩ := Option.bind_eq_some_iff.mp found
        obtain ⟨_, _, found⟩ := Option.bind_eq_some_iff.mp found
        cases found
        exact .nested given
      next => cases found

end SearchedCollection

mutual

/-- Every table inside the expression has distinct names, and so has every literal value. -/
inductive Expression.Keyed : Expression → Prop
  | and {expressions : List Expression}
      (each : ∀ expression ∈ expressions, Expression.Keyed expression) :
      Expression.Keyed (.and expressions)
  | or {expressions : List Expression}
      (each : ∀ expression ∈ expressions, Expression.Keyed expression) :
      Expression.Keyed (.or expressions)
  | not {expression : Expression} (negated : Expression.Keyed expression) :
      Expression.Keyed (.not expression)
  | isNull {target : ComparisonTarget} (left : ComparisonTarget.Keyed target) :
      Expression.Keyed (.isNull target)
  | compare {target : ComparisonTarget} {operator : String} {operand : ComparisonOperand}
      (left : ComparisonTarget.Keyed target) (right : ComparisonOperand.Keyed operand) :
      Expression.Keyed (.compare target operator operand)
  | existsIn {collection : SearchedCollection} {predicate : Option Expression}
      (searched : collection.Keyed)
      (inside : ∀ expression ∈ predicate, Expression.Keyed expression) :
      Expression.Keyed (.existsIn collection predicate)

/-- The arguments and conditions on the way of a target have distinct names. -/
inductive ComparisonTarget.Keyed : ComparisonTarget → Prop
  | column {name : String} {fieldPath : Option (List String)} {path : List PathElement}
      (each : ∀ element ∈ path, PathElement.Keyed element) :
      ComparisonTarget.Keyed (.column name fieldPath path)
  | rootColumn {name : String} {fieldPath : Option (List String)} :
      ComparisonTarget.Keyed (.rootColumn name fieldPath)

inductive ComparisonOperand.Keyed : ComparisonOperand → Prop
  | column {target : ComparisonTarget} (right : ComparisonTarget.Keyed target) :
      ComparisonOperand.Keyed (.column target)
  | scalar {value : Json} (literal : value.Keyed) : ComparisonOperand.Keyed (.scalar value)
  | bound {name : String} : ComparisonOperand.Keyed (.variable name)

inductive PathElement.Keyed : PathElement → Prop
  | crossing {relationship : String} {arguments : Arguments} {predicate : Option Expression}
      (given : Table.Keyed Json.Keyed arguments)
      (inside : ∀ expression ∈ predicate, Expression.Keyed expression) :
      PathElement.Keyed (.crossing relationship arguments predicate)

end

namespace Expression

/-- An expression is a record, so it is never taken for a missing one. -/
theorem toJson_filled (expression : Expression) : expression.toJson ≠ .null := by
  cases expression <;> nofun

theorem optionToJson_eq (expression : Option Expression) :
    optionToJson expression = .ofOption toJson expression := by
  cases expression <;> rfl

theorem listToJson_eq (expressions : List Expression) :
    listToJson expressions = expressions.map toJson := by
  induction expressions with
  | nil => rfl
  | cons first rest continued => rw [listToJson, continued, List.map_cons]

/-- The parts of a connective are read as any other list. -/
theorem readList?_eq (room : Nat) : readList? room = listOf? (read? true) room := by
  funext source
  cases room <;> cases source <;> rfl

/-- The parts of a connective are read back when each of them is. -/
theorem readList?_restores {room : Nat} {expressions : List Expression}
    (each : ∀ smaller < room, ∀ expression ∈ expressions,
      Restores (read? true) smaller expression.toJson expression) :
    Restores readList? room (.array (listToJson expressions)) expressions := by
  intro fits
  rw [listToJson_eq] at fits ⊢
  rw [readList?_eq]
  exact listOf?_restores each fits

/-- The null test is read back from its name. -/
theorem unaryOperator_restores (room : Nat) :
    Restores (choice? unaryOperators true) room (.string "is_null") .isNull :=
  choice?_restores true room rfl

/-- The null test is the only choice of an operator. -/
theorem unaryOperator_keyed (tagged : Bool) (room : Nat) :
    Yields (choice? unaryOperators tagged room) fun operator =>
      ∀ target : ComparisonTarget, target.Keyed → (operator target).Keyed :=
  choice?_yields (List.forall_mem_singleton.mpr fun _ => .isNull)

end Expression

namespace PathElement

theorem listToJson_eq (path : List PathElement) : listToJson path = path.map toJson := by
  induction path with
  | nil => rfl
  | cons first rest continued => rw [listToJson, continued, List.map_cons]

/-- The elements of a path are read as any other list. -/
theorem readList?_eq (tagged : Bool) (room : Nat) :
    readList? tagged room = listOf? (read? tagged) room := by
  funext source
  cases room <;> cases source <;> rfl

/-- A path of relationships is read back when each of its elements is. -/
theorem readList?_restores {tagged : Bool} {room : Nat} {path : List PathElement}
    (each : ∀ smaller < room, ∀ element ∈ path,
      Restores (read? tagged) smaller element.toJson element) :
    Restores (readList? tagged) room (.ofList toJson path) path := by
  rw [Restores, readList?_eq]
  exact listOf?_restores each

end PathElement

/-- A field path that is missing is read as missing. -/
theorem fieldPath_written {members : Table Json} {room : Nat} {fieldPath : Option (List String)}
    (fits : Fits room members)
    (found : Table.entry? members "field_path" = some (.ofOption .ofNames fieldPath)) :
    (Fields.written members).optional? "field_path" (readNames? room) = some fieldPath :=
  Fields.optional?_written "field_path" fits found nofun fun names _ =>
    readNames?_restores room names

-- A condition is read in less room than the record around it, so the proofs go down with the room.
mutual

/-- Every variant is read back once the parts inside it are, and those have less room. -/
theorem Expression.read?_restores (tagged : Bool) (room : Nat) {expression : Expression}
    (keyed : expression.Keyed) :
    Restores (Expression.read? tagged) room expression.toJson expression := by
  cases keyed with
  | @and expressions each =>
      refine restores_tagged Expression.variants tagged ["expressions"] (by decide) rfl
        fun room _ fits opened => ?_
      have listed := Fields.required?_written "expressions" fits rfl <|
        Expression.readList?_restores fun smaller _ expression member =>
          Expression.read?_restores true smaller (each expression member)
      exact reads_next opened (reads_next listed rfl)
  | @or expressions each =>
      refine restores_tagged Expression.variants tagged ["expressions"] (by decide) rfl
        fun room _ fits opened => ?_
      have listed := Fields.required?_written "expressions" fits rfl <|
        Expression.readList?_restores fun smaller _ expression member =>
          Expression.read?_restores true smaller (each expression member)
      exact reads_next opened (reads_next listed rfl)
  | not negated =>
      refine restores_tagged Expression.variants tagged ["expression"] (by decide) rfl
        fun room _ fits opened => ?_
      have inside := Fields.required?_written "expression" fits rfl
        (Expression.read?_restores true room negated)
      exact reads_next opened (reads_next inside rfl)
  | isNull left =>
      refine restores_tagged Expression.variants tagged ["column", "operator"] (by decide) rfl
        fun room _ fits opened => ?_
      have compared := Fields.required?_written "column" fits rfl
        (ComparisonTarget.read?_restores room left)
      have tested := Fields.required?_written "operator" fits rfl
        (Expression.unaryOperator_restores room)
      exact reads_next opened (reads_next compared (reads_next tested rfl))
  | @compare target operator operand left right =>
      refine restores_tagged Expression.variants tagged ["column", "operator", "value"] (by decide)
        rfl fun room _ fits opened => ?_
      have compared := Fields.required?_written "column" fits rfl
        (ComparisonTarget.read?_restores room left)
      have named := Fields.required?_written "operator" fits rfl (string?_restores room operator)
      have against := Fields.required?_written "value" fits rfl
        (ComparisonOperand.read?_restores room right)
      exact reads_next opened (reads_next compared (reads_next named (reads_next against rfl)))
  | @existsIn collection predicate searched inside =>
      refine restores_tagged Expression.variants tagged ["in_collection", "predicate"] (by decide)
        rfl fun room _ fits opened => ?_
      have found := Fields.required?_written "in_collection" fits rfl
        (SearchedCollection.read?_restores searched)
      have condition := Fields.optional?_written "predicate" fits
        (congrArg some (Expression.optionToJson_eq predicate)) Expression.toJson_filled
        fun expression given => Expression.read?_restores true room (inside expression given)
      exact reads_next opened (reads_next found (reads_next condition rfl))
termination_by room

/-- A target is read back with its arguments, its field path and its relationships. -/
theorem ComparisonTarget.read?_restores (room : Nat) {target : ComparisonTarget}
    (keyed : target.Keyed) : Restores ComparisonTarget.read? room target.toJson target := by
  cases keyed with
  | @column name fieldPath path each =>
      refine restores_tagged ComparisonTarget.variants true ["name", "field_path", "path"]
        (by decide) rfl fun room _ fits opened => ?_
      have named := Fields.required?_written "name" fits rfl (string?_restores room name)
      have inside := fieldPath_written fits rfl
      have crossed := Fields.withDefault?_written "path" [] fits
        (congrArg (some ∘ Json.array) (PathElement.listToJson_eq path)) <|
          PathElement.readList?_restores fun smaller _ element member =>
            PathElement.read?_restores true smaller (each element member)
      exact reads_next opened (reads_next named (reads_next inside (reads_next crossed rfl)))
  | @rootColumn name fieldPath =>
      refine restores_tagged ComparisonTarget.variants true ["name", "field_path"] (by decide) rfl
        fun room _ fits opened => ?_
      have named := Fields.required?_written "name" fits rfl (string?_restores room name)
      have inside := fieldPath_written fits rfl
      exact reads_next opened (reads_next named (reads_next inside rfl))
termination_by room

/-- An operand is read back as a column, a scalar or a variable. -/
theorem ComparisonOperand.read?_restores (room : Nat) {operand : ComparisonOperand}
    (keyed : operand.Keyed) : Restores ComparisonOperand.read? room operand.toJson operand := by
  cases keyed with
  | column right =>
      refine restores_tagged ComparisonOperand.variants true ["column"] (by decide) rfl
        fun room _ fits opened => ?_
      have against := Fields.required?_written "column" fits rfl
        (ComparisonTarget.read?_restores room right)
      exact reads_next opened (reads_next against rfl)
  | scalar literal =>
      refine restores_tagged ComparisonOperand.variants true ["value"] (by decide) rfl
        fun room _ fits opened => ?_
      have given := Fields.required?_written "value" fits rfl (json?_restores literal)
      exact reads_next opened (reads_next given rfl)
  | @bound name =>
      refine restores_tagged ComparisonOperand.variants true ["name"] (by decide) rfl
        fun room _ fits opened => ?_
      have named := Fields.required?_written "name" fits rfl (string?_restores room name)
      exact reads_next opened (reads_next named rfl)
termination_by room

/-- A relationship on a path is read back with its arguments and its condition. -/
theorem PathElement.read?_restores (tagged : Bool) (room : Nat) {element : PathElement}
    (keyed : element.Keyed) : Restores (PathElement.read? tagged) room element.toJson element := by
  cases keyed with
  | @crossing relationship arguments predicate given inside =>
      refine restores_record PathElement.fieldNames PathElement.fieldNames (by decide) rfl
        fun room _ fits opened => ?_
      have named := Fields.required?_written "relationship" fits rfl
        (string?_restores room relationship)
      have passed := Fields.withDefault?_written "arguments" [] fits rfl
        (Arguments.read?_restores given)
      have condition := Fields.optional?_written "predicate" fits
        (congrArg some (Expression.optionToJson_eq predicate)) Expression.toJson_filled
        fun expression given => Expression.read?_restores tagged room (inside expression given)
      exact reads_next opened (reads_next named (reads_next passed (reads_next condition rfl)))
termination_by room

end

mutual

/-- What is read in each variant has distinct names, because its parts have. -/
theorem Expression.read?_keyed (tagged : Bool) (room : Nat) :
    Yields (Expression.read? tagged room) Expression.Keyed := by
  intro source expression found
  cases room with
  | zero => cases found
  | succ room =>
      simp only [Expression.read?, Option.bind_eq_bind, Option.bind_eq_some_iff] at found
      obtain ⟨⟨tag, fields⟩, _, found⟩ := found
      split at found
      next =>
        obtain ⟨expressions, listed, found⟩ := Option.bind_eq_some_iff.mp found
        cases found
        rw [Expression.readList?_eq] at listed
        exact .and (Fields.required?_yields
          (listOf?_yields fun smaller _ => Expression.read?_keyed true smaller) listed)
      next =>
        obtain ⟨expressions, listed, found⟩ := Option.bind_eq_some_iff.mp found
        cases found
        rw [Expression.readList?_eq] at listed
        exact .or (Fields.required?_yields
          (listOf?_yields fun smaller _ => Expression.read?_keyed true smaller) listed)
      next =>
        obtain ⟨inner, negated, found⟩ := Option.bind_eq_some_iff.mp found
        cases found
        exact .not (Fields.required?_yields (Expression.read?_keyed true room) negated)
      next =>
        obtain ⟨target, compared, found⟩ := Option.bind_eq_some_iff.mp found
        obtain ⟨operator, tested, found⟩ := Option.bind_eq_some_iff.mp found
        cases found
        exact Fields.required?_yields (Expression.unaryOperator_keyed true room) tested target
          (Fields.required?_yields (ComparisonTarget.read?_keyed room) compared)
      next =>
        obtain ⟨target, compared, found⟩ := Option.bind_eq_some_iff.mp found
        obtain ⟨_, _, found⟩ := Option.bind_eq_some_iff.mp found
        obtain ⟨operand, against, found⟩ := Option.bind_eq_some_iff.mp found
        cases found
        exact .compare (Fields.required?_yields (ComparisonTarget.read?_keyed room) compared)
          (Fields.required?_yields (ComparisonOperand.read?_keyed room) against)
      next =>
        obtain ⟨collection, searched, found⟩ := Option.bind_eq_some_iff.mp found
        obtain ⟨predicate, condition, found⟩ := Option.bind_eq_some_iff.mp found
        cases found
        exact .existsIn (Fields.required?_yields (SearchedCollection.read?_keyed room) searched)
          (Fields.optional?_yields (Expression.read?_keyed true room) condition)
      next => cases found
termination_by room

/-- Whatever is read as a target has distinct names. -/
theorem ComparisonTarget.read?_keyed (room : Nat) :
    Yields (ComparisonTarget.read? room) ComparisonTarget.Keyed := by
  intro source target found
  cases room with
  | zero => cases found
  | succ room =>
      simp only [ComparisonTarget.read?, Option.bind_eq_bind, Option.bind_eq_some_iff] at found
      obtain ⟨⟨tag, fields⟩, _, _, _, _, _, found⟩ := found
      split at found
      next =>
        obtain ⟨path, crossed, found⟩ := Option.bind_eq_some_iff.mp found
        cases found
        rw [PathElement.readList?_eq] at crossed
        exact .column (Fields.withDefault?_yields
          (listOf?_yields fun smaller _ => PathElement.read?_keyed true smaller)
          (List.forall_mem_nil _) crossed)
      next =>
        cases found
        exact .rootColumn
      next => cases found
termination_by room

/-- Whatever is read as an operand has distinct names. -/
theorem ComparisonOperand.read?_keyed (room : Nat) :
    Yields (ComparisonOperand.read? room) ComparisonOperand.Keyed := by
  intro source operand found
  cases room with
  | zero => cases found
  | succ room =>
      simp only [ComparisonOperand.read?, Option.bind_eq_bind, Option.bind_eq_some_iff] at found
      obtain ⟨⟨tag, fields⟩, _, found⟩ := found
      split at found
      next =>
        obtain ⟨target, against, found⟩ := Option.bind_eq_some_iff.mp found
        cases found
        exact .column (Fields.required?_yields (ComparisonTarget.read?_keyed room) against)
      next =>
        obtain ⟨value, given, found⟩ := Option.bind_eq_some_iff.mp found
        cases found
        exact .scalar (Fields.required?_yields (json?_keyed room) given)
      next =>
        obtain ⟨_, _, found⟩ := Option.bind_eq_some_iff.mp found
        cases found
        exact .bound
      next => cases found
termination_by room

/-- Whatever is read as a relationship has distinct names. -/
theorem PathElement.read?_keyed (tagged : Bool) (room : Nat) :
    Yields (PathElement.read? tagged room) PathElement.Keyed := by
  intro source element found
  cases room with
  | zero => cases found
  | succ room =>
      simp only [PathElement.read?, Option.bind_eq_bind, Option.bind_eq_some_iff] at found
      obtain ⟨fields, _, _, _, arguments, passed, predicate, condition, found⟩ := found
      cases found
      exact .crossing
        (Fields.withDefault?_yields (Arguments.read?_keyed room) Table.keyed_nil passed)
        (Fields.optional?_yields (Expression.read?_keyed tagged room) condition)
termination_by room

end

end DocumentQuery
