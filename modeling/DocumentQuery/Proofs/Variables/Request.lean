/-
This file proves that a compiled query joins the variables exactly when its request compares with
one.
-/

import DocumentQuery.Proofs.Acceptance.Request
import DocumentQuery.Proofs.Binding.Faithful
import DocumentQuery.Proofs.Scoping.Request
import DocumentQuery.Proofs.Variables.Expression

namespace DocumentQuery

open Dialect

variable {schema : Schema} {scope : Scope}

/-- A silent column mentions nothing, whatever the numbering before it is. -/
def Projection.Silent (column : Projection) : Prop :=
  ∀ form draft, (Select.item form column draft).1.mentions = []

/-- A silent statement joins nothing and refers to no variable. -/
def Select.Silent (select : Select) : Prop :=
  ∀ draft, (select.query draft).1.mentions = []

namespace Projection

/-- A path mentions nothing. -/
theorem path_silent (path : Path) : (Projection.path path).Silent := by
  intro form draft
  simp only [Select.item]
  split <;> rfl

theorem aggregate_silent (aggregate : AggregateColumn) : (Projection.aggregate aggregate).Silent :=
  fun _ _ => rfl

/-- A subquery is as silent as its statement. -/
theorem subquery_silent {select : Select} (silent : select.Silent) :
    (Projection.subquery select).Silent := by
  intro form draft
  simp only [Select.item]
  split <;> exact silent draft

end Projection

namespace Select

/-- Silent columns become items that mention nothing. -/
theorem items_silent {columns : List (String × Projection)}
    (silent : ∀ entry ∈ columns, entry.2.Silent) (form : ProjectionForm) (draft : Draft) :
    mentionsOfItems (items form columns draft).1 = [] := by
  induction columns generalizing draft with
  | nil => rfl
  | cons entry rest continued =>
      obtain ⟨aliasName, column⟩ := entry
      obtain ⟨here, others⟩ := List.forall_mem_cons.mp silent
      rw [items, mentionsOfItems, here form draft, continued others, List.append_nil]

/-- Only the clauses of a statement with silent columns mention anything. -/
theorem query_mentions (select : Select) (silent : ∀ entry ∈ select.columns, entry.2.Silent)
    (draft : Draft) :
    ∃ numbering, (select.query draft).1.clauses = (select.clauses numbering).1 ∧
      (select.query draft).1.mentions = (select.clauses numbering).1.mentions := by
  obtain ⟨columns, origin, asValue, asArray, isAggregate, joins, predicate, sortKeys, offset,
    limit⟩ := select
  refine ⟨_, rfl, ?_⟩
  rw [query, Query.mentions, items_silent silent, List.nil_append]

/-- A statement that has no clause but its origin is as silent as its columns. -/
theorem origin_silent {columns : List (String × Projection)} {origin : Origin}
    {asValue asArray : Bool} (silent : ∀ entry ∈ columns, entry.2.Silent) :
    Select.Silent { columns, origin := some origin, asValue, asArray } := by
  intro draft
  obtain ⟨numbering, _, same⟩ :=
    query_mentions { columns, origin := some origin, asValue, asArray } silent draft
  rw [same]
  rfl

end Select

namespace Selection

mutual

/-- The induction is on the field. No column that it becomes mentions anything. -/
theorem columnOfField_silent :
    ∀ (field : Field) (scope : Scope) (depth : Nat) (bound : List String) (aliasName : String)
      (projection : Projection),
      columnOfField schema scope depth bound aliasName field = .ok projection → projection.Silent
  | .relationship query relationship arguments, scope, depth, bound, aliasName, projection,
      compiled =>
      absurd compiled columnOfField_relationship
  | .column column none, scope, depth, bound, aliasName, projection, compiled => by
      obtain ⟨_, rfl⟩ := columnOfField_plain_ok.mp compiled
      exact Projection.path_silent _
  | .column column (some nested), scope, depth, bound, aliasName, projection, compiled => by
      obtain ⟨property, _, inner⟩ := columnOfField_nested_ok.mp compiled
      exact subquery_silent nested _ property.type column depth bound projection inner

/-- The columns of a row mention nothing. -/
theorem columnsOfFields_silent :
    ∀ (fields : List (String × Field)) (scope : Scope) (depth : Nat) (bound : List String)
      (columns : List (String × Projection)),
      columnsOfFields schema scope depth bound fields = .ok columns →
        ∀ entry ∈ columns, entry.2.Silent
  | [], scope, depth, bound, columns, compiled => by
      rw [columnsOfFields_nil_ok.mp compiled]
      simp
  | (aliasName, first) :: rest, scope, depth, bound, columns, compiled => by
      obtain ⟨projection, others, one, more, rfl⟩ := columnsOfFields_cons_ok.mp compiled
      rw [List.forall_mem_cons]
      constructor
      · exact columnOfField_silent first scope depth bound aliasName projection one
      · exact columnsOfFields_silent rest scope depth bound others more

/-- A subquery mentions nothing, because it joins nothing and has no condition. -/
theorem subquery_silent :
    ∀ (nested : Selection) (source : Path) (type : ValueType) (field : String) (depth : Nat)
      (enclosing : List String) (projection : Projection),
      subquery schema source type field depth enclosing nested = .ok projection → projection.Silent
  | .object fields, source, type, field, depth, enclosing, projection, compiled => by
      obtain ⟨name, object, columns, _, _, _, inner, rfl⟩ := subquery_object_ok.mp compiled
      apply Projection.subquery_silent
      exact Select.origin_silent (columnsOfFields_silent fields _ _ _ columns inner)
  | .array elements, source, type, field, depth, enclosing, projection, compiled => by
      obtain ⟨element, select, _, inner, rfl⟩ := subquery_array_ok.mp compiled
      apply Projection.subquery_silent
      exact selectElements_silent elements source _ element (depth + 1) enclosing select inner

/-- The statement of the elements mentions nothing at any level of an array. -/
theorem selectElements_silent :
    ∀ (elements : Selection) (source : Path) (aliasName : String) (element : ValueType)
      (depth : Nat) (enclosing : List String) (select : Select),
      selectElements schema source aliasName element depth enclosing elements = .ok select →
        select.Silent
  | .object fields, source, aliasName, element, depth, enclosing, select, compiled => by
      obtain ⟨_, name, object, columns, _, _, inner, rfl⟩ := selectElements_object_ok.mp compiled
      exact Select.origin_silent (columnsOfFields_silent fields _ _ _ columns inner)
  | .array elements, source, aliasName, element, depth, enclosing, select, compiled => by
      obtain ⟨_, inner, embedded, _, continued, rfl⟩ := selectElements_array_ok.mp compiled
      have silent := selectElements_silent elements _ _ inner (depth + 1) _ embedded continued
      apply Select.origin_silent
      rw [List.forall_mem_singleton]
      exact Projection.subquery_silent silent

end

end Selection

namespace Dialect.Condition

mutual

/-- The aliases that a condition binds are fresh where it stands. -/
theorem binders_fresh :
    ∀ (condition : Condition) (inScope : List String), condition.Scoped inScope →
      ∀ aliasName ∈ condition.binders, aliasName ∉ inScope
  | .all conditions, inScope, closed => bindersOfEach_fresh conditions inScope closed
  | .any conditions, inScope, closed => bindersOfEach_fresh conditions inScope closed
  | .not condition, inScope, closed => binders_fresh condition inScope closed
  | .existsIn _ bound _ none, inScope, closed => List.forall_mem_singleton.mpr closed.2
  | .existsIn _ bound _ (some condition), inScope, closed => by
      rw [binders, List.forall_mem_cons]
      refine ⟨closed.1.2, ?_⟩
      intro aliasName member inside
      exact binders_fresh condition _ closed.2 aliasName member (List.mem_append_left _ inside)
  | .compare _ _ _, _, _ => List.forall_mem_nil _
  | .call _ _, _, _ => List.forall_mem_nil _

/-- The aliases that a list of conditions binds are fresh where the list stands. -/
theorem bindersOfEach_fresh :
    ∀ (conditions : List Condition) (inScope : List String), ScopedEach inScope conditions →
      ∀ aliasName ∈ bindersOfEach conditions, aliasName ∉ inScope
  | [], _, _ => List.forall_mem_nil _
  | condition :: rest, inScope, closed => by
      rw [bindersOfEach, List.forall_mem_append]
      exact ⟨binders_fresh condition inScope closed.1, bindersOfEach_fresh rest inScope closed.2⟩

end

end Dialect.Condition

/-- The variables of a query are listed in the order of its predicate. -/
def Query.variableNames (query : Query) : List String :=
  (query.predicate.map Expression.variableNames).getD []

/-- A query uses variables exactly when its predicate names one. -/
theorem Query.usesVariable_iff {query : Query} : query.UsesVariable ↔ query.variableNames ≠ [] := by
  unfold UsesVariable variableNames
  cases query.predicate with
  | none => simp
  | some expression => simp [expression.usesVariable_iff]

/-- The text joins the sets of variables behind its container, refers to them in its condition only
and binds all of them in its last parameter. -/
structure SqlText.JoinsVariables (text : SqlText) (tree : Dialect.Query) (request : QueryRequest)
    (sets : List (Table Json)) : Prop where
  spelled : text.query = spell tree.pieces
  placed : ∃ condition rest, tree.pieces =
    .fixed "SELECT " :: columnsPieces tree.form (piecesOfItems tree.form tree.items) ++
      [.fixed " FROM ",
        .fixed (request.collection ++ " " ++ QueryRequest.rootAlias request.collection),
        .fixed " JOIN vars IN (SELECT VALUE @vars)",
        .fixed " WHERE "] ++ Condition.pieces condition ++ rest
  mentioned : tree.mentions =
    .join ⟨"vars", "@vars"⟩ :: request.query.variableNames.map .variable
  written : (tree.mentions.map Mention.piece).Sublist tree.pieces
  closed : tree.Scoped []
  bound : tree.binders.count "vars" = 1
  parameters : ∃ literals, text.parameters = literals ++ [⟨"@vars", .array (sets.map .object)⟩] ∧
    "@vars" ∉ literals.map Parameter.name

/-- The text binds no variables and refers to none. -/
structure SqlText.OmitsVariables (text : SqlText) (tree : Dialect.Query) : Prop where
  spelled : text.query = spell tree.pieces
  mentioned : tree.mentions = []
  closed : tree.Scoped []
  unbound : "vars" ∉ tree.binders
  parameters : "@vars" ∉ text.parameters.map Parameter.name

namespace QueryRequest

variable {request : QueryRequest} {select : Select}

/-- Neither fields nor aggregates mention anything. -/
theorem columns_silent {query : Query} {compiled : Table Projection}
    (accepted : columns schema scope query = .ok compiled) :
    ∀ entry ∈ compiled, entry.2.Silent := by
  rcases columns_cases accepted with ⟨fields, selected⟩ | ⟨aggregates, applied⟩ | rfl
  · exact Selection.columnsOfFields_silent fields _ _ _ compiled (Selection.columns_ok.mp selected)
  · intro entry member
    obtain ⟨_, aggregate, call, _, same⟩ := Aggregate.column_of_mem applied entry member
    rw [same]
    exact Projection.aggregate_silent call
  · exact List.forall_mem_nil _

/-- The condition of a statement mentions the variables of its query in their order. -/
theorem condition_mentions
    (compiled : request.query.predicate.mapM (Expression.condition schema scope) =
      .ok select.predicate) (draft : Draft) :
    ((select.condition? draft).1.map Condition.mentions).getD [] =
      request.query.variableNames.map .variable := by
  have compiles := condition_related compiled
  unfold Select.condition? Query.variableNames
  generalize request.query.predicate = requested at compiles
  generalize select.predicate = predicate at compiles ⊢
  cases compiles with
  | none => rfl
  | some resolved =>
      obtain ⟨count, resolved⟩ := resolved
      exact Expression.predicate_mentions _ scope 1 0 _ resolved draft

/-- The variables are joined when they are used, and nothing else is joined. -/
theorem assembled_cases (stated : request.statement schema = .ok select) :
    (select.usesVariables ∧ select.assembled =
        { select with joins := [⟨variablesAlias, variablesParameter⟩] }) ∨
      (select.usesVariables = false ∧ select.assembled = select ∧ select.joins = []) := by
  have joins : select.joins = [] := by
    obtain ⟨_, _, _, _, _, _, _, _, rfl⟩ := statement_ok.mp stated
    rfl
  unfold Select.assembled Select.withVariablesJoin
  rw [joins, List.nil_append]
  cases select.usesVariables with
  | true => exact .inl ⟨rfl, rfl⟩
  | false => exact .inr ⟨rfl, rfl, rfl⟩

/-- The tree of a statement has these clauses, and everything that it mentions is in them. -/
structure Clausal (select : Select) (request : QueryRequest) (joins : List Join)
    (tree : Dialect.Query) : Prop where
  clauses : ∃ numbering, tree.clauses =
    ⟨some (.container request.collection (rootAlias request.collection)), joins,
      (select.condition? numbering).1, select.sortKeys, select.page⟩
  mentions : tree.mentions = joins.map .join ++ request.query.variableNames.map .variable
  written : (tree.mentions.map Mention.piece).Sublist tree.pieces

/-- A statement mentions its joins and then the variables of its condition. -/
theorem statement_clausal (stated : request.statement schema = .ok select) (joins : List Join) :
    Clausal select request joins (Select.tree { select with joins }) := by
  obtain ⟨scope, compiled, predicate, keys, rooted, columns, condition, _, same⟩ :=
    statement_ok.mp stated
  have located : select.origin =
      some (.container request.collection (rootAlias request.collection)) := by
    obtain ⟨_, _, _, _, _, _, rfl⟩ := rootScope_ok.mp rooted
    rw [same]
  have silent : ∀ entry ∈ select.columns, entry.2.Silent := by
    rw [same]
    exact columns_silent columns
  have conditioned : request.query.predicate.mapM (Expression.condition schema scope) =
      .ok select.predicate := by
    rw [same]
    exact condition
  obtain ⟨numbering, clauses, only⟩ := Select.query_mentions { select with joins } silent {}
  have referred := condition_mentions conditioned numbering
  have written := (Select.clauses { select with joins } numbering).1.mentions_written
  have behind (query : Dialect.Query) : query.clauses.pieces.Sublist query.pieces := by
    obtain ⟨form, items, clauses⟩ := query
    exact (List.sublist_append_right _ _).cons _
  refine ⟨⟨numbering, ?_⟩, ?_, ?_⟩
  · rw [Select.tree, clauses, ← located]
    rfl
  · rw [Select.tree, only, ← referred]
    rfl
  · rw [Select.tree, only]
    rw [← clauses] at written ⊢
    exact written.trans (behind _)

/-- The sets of variables are bound by the joins only. -/
theorem statement_binders (stated : request.statement schema = .ok select) (joins : List Join) :
    (Select.tree { select with joins }).binders.count variablesAlias =
      (joins.map Join.aliasName).count variablesAlias := by
  obtain ⟨_, outermost⟩ := outermost_root request.collection
  have closed := statement_closed stated List.mem_cons_self outermost
    fun _ => List.mem_cons_of_mem _ (List.mem_singleton_self _)
  have different := rootAlias_ne_variablesAlias request.collection
  obtain ⟨columns, origin, asValue, asArray, isAggregate, _, predicate, sortKeys, offset,
    limit⟩ := select
  obtain ⟨name, located⟩ := closed.origin
  subst located
  generalize formed : Select.form ⟨columns, some (.container name (rootAlias request.collection)),
    asValue, asArray, isAggregate, joins, predicate, sortKeys, offset, limit⟩ = form
  obtain ⟨_, stemmed, unchanged⟩ := Select.items_nested closed.columns form {}
  obtain ⟨condition, _⟩ := closed.condition _ unchanged
  have items : variablesAlias ∉ bindersOfItems (Select.items form columns {}).1 :=
    fun member => absurd (stemmed variablesAlias member) (by decide)
  have searches : variablesAlias ∉
      ((Select.condition? { predicate } (Select.items form columns {}).2).1.map
        Condition.binders).getD [] := by
    intro member
    cases opened : (Select.condition? { predicate } (Select.items form columns {}).2).1 with
    | none => simp [opened] at member
    | some searched =>
        rw [opened] at member
        exact searched.binders_fresh _ (condition searched opened) variablesAlias member (by simp)
  simp only [Select.tree, Select.query, formed, Query.binders, Select.clauses, Clauses.binders,
    Clauses.aliases, originAlias, Option.map_some, Option.toList_some, List.count_append]
  have root : [rootAlias request.collection].count variablesAlias = 0 :=
    List.count_eq_zero.mpr fun member => different (List.mem_singleton.mp member).symm
  rw [List.count_eq_zero.mpr items, root, Nat.zero_add, Nat.zero_add]
  exact (congrArg (_ + ·) (List.count_eq_zero.mpr searches)).trans (Nat.add_zero _)

/-- The text of a statement leaves the parameter of the variables free. -/
theorem parameters_apart (select : Select) :
    variablesParameter ∉ select.text.parameters.map Parameter.name := by
  rw [select.text_ledger.1]
  exact Ledger.parameters_apart _

/-- The condition that uses variables stands directly behind their join. -/
theorem Clausal.placed {join : Join} {tree : Dialect.Query}
    (clausal : Clausal select request [join] tree) (used : select.usesVariables) :
    ∃ condition rest, tree.pieces =
      .fixed "SELECT " :: columnsPieces tree.form (piecesOfItems tree.form tree.items) ++
        [.fixed " FROM ", .fixed (request.collection ++ " " ++ rootAlias request.collection),
          .fixed (" " ++ joinText join), .fixed " WHERE "] ++
          Condition.pieces condition ++ rest := by
  obtain ⟨numbering, clauses⟩ := clausal.clauses
  obtain ⟨predicate, chosen⟩ : ∃ predicate, select.predicate = some predicate := by
    unfold Select.usesVariables at used
    exact Option.isSome_iff_exists.mp (Option.isSome_of_any used)
  obtain ⟨form, items, _⟩ := tree
  subst clauses
  refine ⟨(predicate.condition numbering).1, ?rest, ?same⟩
  case same =>
    simp only [Query.pieces, Clauses.pieces, Select.condition?, chosen]
    simp only [clausePieces, originText, List.map_cons, List.map_nil, List.cons_append,
      List.nil_append, List.append_assoc]
    rfl

/-- A statement that uses variables joins them and binds them last. -/
theorem text_joins (stated : request.statement schema = .ok select) (used : select.usesVariables)
    (sets : List (Table Json)) :
    SqlText.JoinsVariables
      ⟨select.withVariablesJoin.text.query, select.withVariablesJoin.text.parameters ++
        [⟨variablesParameter, .array (sets.map .object)⟩]⟩
      select.assembled.tree request sets := by
  obtain ⟨_, joined⟩ | ⟨unused, _⟩ := assembled_cases stated
  · have clausal := statement_clausal stated [⟨variablesAlias, variablesParameter⟩]
    have binders := statement_binders stated [⟨variablesAlias, variablesParameter⟩]
    have closed := (assembled_wellScoped stated).closed
    have same : select.withVariablesJoin = select.assembled := by
      rw [Select.assembled, if_pos used]
    have spelled := select.assembled.text_shows.1
    rw [same]
    rw [joined] at closed spelled ⊢
    exact ⟨spelled, clausal.placed used, clausal.mentions, clausal.written, closed, binders,
      _, rfl, parameters_apart _⟩
  · rw [used] at unused
    cases unused

/-- A statement that uses no variables neither joins nor binds any. -/
theorem text_omits (stated : request.statement schema = .ok select)
    (unused : select.usesVariables = false) (none : ¬ request.query.UsesVariable) :
    select.text.OmitsVariables select.assembled.tree := by
  obtain ⟨used, _⟩ | ⟨_, alone, joins⟩ := assembled_cases stated
  · rw [unused] at used
    cases used
  · have clausal := statement_clausal stated []
    have binders := statement_binders stated []
    have closed := (assembled_wellScoped stated).closed
    have names : request.query.variableNames = [] := by
      simpa [Query.usesVariable_iff] using none
    have same : { select with joins := [] } = select := by
      cases select
      cases joins
      rfl
    rw [same] at clausal binders
    rw [alone] at closed ⊢
    refine ⟨select.text_shows.1, ?_, closed, List.count_eq_zero.mp binders, parameters_apart select⟩
    rw [clausal.mentions, names]
    rfl

/-- Sets of variables are bound exactly when the predicate compares with a variable, and then they
are required. A request without such a comparison compiles to the same query with any sets. -/
theorem compile_binds_variables (schema : Schema) (request : QueryRequest) (select : Select)
    (stated : request.statement schema = .ok select) :
    (request.query.UsesVariable → request.variableSets.getD [] = [] →
      ∃ fault, request.compile schema = .error fault ∧ fault.refusal.kind = .badRequest) ∧
    (request.query.UsesVariable → ∀ first rest, request.variableSets = some (first :: rest) →
      ∃ prepared, request.compile schema = .ok prepared ∧
        prepared.text.JoinsVariables select.assembled.tree request (first :: rest)) ∧
    (¬ request.query.UsesVariable → ∃ prepared,
      (∀ variableSets, { request with variableSets }.compile schema = .ok prepared) ∧
        prepared.text.OmitsVariables select.assembled.tree) ∧
    (schema.validate = .ok () → ∀ prepared, request.compile schema = .ok prepared →
      ∃ query, Dialect.read? prepared.text.query = some query ∧
        query.mentions = select.assembled.tree.mentions) := by
  have uses := statement_usesVariables stated
  refine ⟨?_, ?_, ?_, ?_⟩
  · intro used absent
    refine ⟨.missingVariables, compile_of_text_fault stated ?_, rfl⟩
    unfold Select.textWith
    rw [if_pos (uses.mpr used)]
    cases supplied : request.variableSets with
    | none => rfl
    | some sets =>
        rw [supplied] at absent
        cases absent
        rfl
  · intro used first rest supplied
    have written := Select.textWith_ok.mpr (.inr ⟨uses.mpr used, first, rest, supplied, rfl⟩)
    exact ⟨_, compile_ok.mpr ⟨select, _, stated, written, rfl⟩,
      text_joins stated (uses.mpr used) _⟩
  · intro none
    have unused : select.usesVariables = false := by
      rw [← Bool.not_eq_true, uses]
      exact none
    refine ⟨⟨request.collection, select.text, select.isAggregate⟩, ?_,
      text_omits stated unused none⟩
    intro variableSets
    have written : select.textWith variableSets = .ok select.text :=
      Select.textWith_ok.mpr (.inl ⟨unused, rfl⟩)
    exact compile_ok.mpr ⟨select, _, stated, written, rfl⟩
  · intro valid prepared compiled
    obtain ⟨other, text, stated', written, rfl⟩ := compile_ok.mp compiled
    cases stated.symm.trans stated'
    obtain ⟨columns, clauses⟩ := statement_readable (Schema.safeNames_of_validate valid) stated
    refine ⟨select.assembled.tree.unwrapped, ?_, select.assembled.tree.unwrapped_mentions⟩
    rw [Select.textWith_query written]
    exact Select.text_reads (Select.assembled_readable columns clauses {})

/-- The sample compares with one variable inside a conjunction. -/
theorem compile_binds_sample_variables :
    (Sample.filtered "red" "a" "b").statement Sample.schema =
        .ok (Sample.filteredStatement "red" "a" "b") ∧
      (Sample.filtered "red" "a" "b").query.UsesVariable ∧
        (∃ prepared, (Sample.filtered "red" "a" "b").compile Sample.schema = .ok prepared ∧
          prepared.text.JoinsVariables (Sample.filteredStatement "red" "a" "b").assembled.tree
            (Sample.filtered "red" "a" "b") [[("id", .string "a")]]) ∧
          (Sample.filteredStatement "red" "a" "b").assembled.tree.mentions =
            [.join ⟨"vars", "@vars"⟩, .variable "id"] := by
  have stated : (Sample.filtered "red" "a" "b").statement Sample.schema =
      .ok (Sample.filteredStatement "red" "a" "b") := rfl
  have used : (Sample.filtered "red" "a" "b").query.UsesVariable :=
    Query.usesVariable_iff.mpr (by decide)
  obtain ⟨_, joins, _⟩ := compile_binds_variables Sample.schema (Sample.filtered "red" "a" "b")
    (Sample.filteredStatement "red" "a" "b") stated
  exact ⟨stated, used, joins used [("id", .string "a")] [] rfl, by decide +kernel⟩

end QueryRequest

end DocumentQuery
