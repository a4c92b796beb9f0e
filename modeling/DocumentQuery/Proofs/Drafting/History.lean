/-
This file follows a draft through operations of any kind and order: its text only grows, and a
placeholder that was written keeps its value.
-/

import DocumentQuery.Proofs.Binding.Literals
import DocumentQuery.Proofs.Drafting.Elements

namespace DocumentQuery

open Dialect

/-- A node is a part of a statement that can be written on its own. -/
inductive Node where
  | path (path : Path)
  | predicate (predicate : Predicate)
  | sortKey (key : SortKey)
  | sortKeys (keys : List SortKey)
  | offset (count : UInt32)
  | limit (count : UInt32)
  | aggregate (aggregate : AggregateColumn)
  | origin (origin : Origin)
  | join (join : Join)
  | select (select : Select)

/-- An operation writes into a draft or numbers an element. -/
inductive Operation where
  | text (text : String)
  | property (name : String)
  | literal (text : String)
  | parameter (key : String) (value : Json)
  | element
  | node (node : Node)
  | each (separator : String) (nodes : List Node)

/-- The literals are listed with the keys they are bound under, and the aliases are those of the
elements that were numbered. -/
structure Trace where
  pieces : List Piece := []
  literals : List (String × Json) := []
  aliases : List String := []

namespace Trace

/-- Fixed text has no literals and no elements. -/
def fixed (text : String) : Trace :=
  { pieces := [.fixed text] }

def append (first second : Trace) : Trace where
  pieces := first.pieces ++ second.pieces
  literals := first.literals ++ second.literals
  aliases := first.aliases ++ second.aliases

end Trace

namespace Node

/-- Each node is written by the function of its own kind. -/
def write (draft : Draft) : Node → Draft
  | .path column => column.write draft
  | .predicate condition => condition.write draft
  | .sortKey key => SortKey.write draft key
  | .sortKeys keys => SortKey.writeAll keys draft
  | .offset count => draft.write ("OFFSET " ++ toString count.toNat)
  | .limit count => draft.write ("LIMIT " ++ toString count.toNat)
  | .aggregate column => column.write draft
  | .origin source => source.write draft
  | .join joined => joined.write draft
  | .select statement => statement.write draft

/-- Conditions and statements leave what their trees have, and any other node is fixed text. -/
def trace (draft : Draft) : Node → Trace
  | .path column => .fixed (pathText column)
  | .predicate condition =>
      let tree := (condition.condition draft.numbering).1
      ⟨tree.pieces, condition.literalTests.map LiteralTest.binding, tree.elements⟩
  | .sortKey key => .fixed (sortKeyText key)
  | .sortKeys keys =>
      { pieces := .fixed "ORDER BY " ::
          separated ", " (keys.map fun key => [.fixed (sortKeyText key)]) }
  | .offset count => .fixed ("OFFSET " ++ toString count.toNat)
  | .limit count => .fixed ("LIMIT " ++ toString count.toNat)
  | .aggregate column => .fixed column.call.text
  | .origin source => .fixed (originText source)
  | .join joined => .fixed (joinText joined)
  | .select statement =>
      let tree := (statement.query draft.numbering).1
      ⟨tree.pieces, statement.literalTests.map LiteralTest.binding, tree.elements⟩

def traceEach (separator : String) (draft : Draft) : List Node → Trace
  | [] => {}
  | [node] => node.trace draft
  | node :: rest =>
      let next := (node.write draft).write separator
      (node.trace draft).append ((Trace.fixed separator).append (traceEach separator next rest))

end Node

namespace Operation

/-- An operation changes a draft. -/
def perform (draft : Draft) : Operation → Draft
  | .text added => draft.write added
  | .property name => draft.writeProperty name
  | .literal quoted => draft.writeLiteral quoted
  | .parameter key value => draft.writeParameter key value
  | .element => draft.nextElement.2
  | .node part => part.write draft
  | .each separator nodes => draft.writeEach separator Node.write nodes

/-- The trace of an operation depends on the draft that it starts from. -/
def trace (draft : Draft) : Operation → Trace
  | .text added => .fixed added
  | .property name => .fixed (propertyText name)
  | .literal quoted => .fixed (Literal.quote quoted)
  | .parameter key value =>
      { pieces := [.placeholder (Draft.parameterName (Draft.cleanKey key)
          (Ledger.position draft.bound (Draft.cleanKey key) value))]
        literals := [(Draft.cleanKey key, value)] }
  | .element => { aliases := [draft.nextElement.1] }
  | .node part => part.trace draft
  | .each separator nodes => Node.traceEach separator draft nodes

def performEach (draft : Draft) (operations : List Operation) : Draft :=
  operations.foldl perform draft

def traceEach (draft : Draft) : List Operation → Trace
  | [] => {}
  | operation :: rest => (operation.trace draft).append (traceEach (operation.perform draft) rest)

end Operation

/-- The next draft has what the trace adds and is otherwise unchanged. -/
structure Draft.Writes (draft : Draft) (trace : Trace) (next : Draft) : Prop where
  spelled : next.text = draft.text ++ spell trace.pieces
  binds : draft.Binds trace.literals trace.pieces next
  numbers : draft.Numbers trace.aliases next

namespace Draft.Writes

variable {draft middle next : Draft} {first second : Trace}

theorem nothing (draft : Draft) : draft.Writes {} draft :=
  ⟨by simp, .nothing rfl rfl, .nothing rfl⟩

/-- Fixed text binds no literal and numbers no element. -/
theorem fixed (draft : Draft) (text : String) : draft.Writes (.fixed text) (draft.write text) :=
  ⟨by simp [Draft.write, Trace.fixed, Piece.spelling], .nothing rfl rfl, .nothing rfl⟩

/-- Traces are written one behind the other. -/
theorem append (before : draft.Writes first middle) (after : middle.Writes second next) :
    draft.Writes (first.append second) next where
  spelled := by
    rw [after.spelled, before.spelled, Trace.append, spell_append, String.append_assoc]
  binds := before.binds.append after.binds
  numbers := before.numbers.append after.numbers

/-- A tree that is written has bound its literals and numbered its elements. -/
theorem shown {pieces : List Piece} {literals : List (String × Json)} {aliases : List String}
    {numbering : Draft} (shows : next.Shows ([.fixed draft.text] ++ pieces) numbering)
    (binds : draft.numbering.Binds literals pieces numbering)
    (numbers : draft.numbering.Numbers aliases numbering) :
    draft.Writes ⟨pieces, literals, aliases⟩ next := by
  have spelled := shows.appended
  obtain ⟨_, rfl⟩ := shows
  exact ⟨spelled, ⟨binds.named, binds.bound⟩, ⟨numbers.counted, numbers.listed⟩⟩

end Draft.Writes

namespace Node

/-- Every node writes what its trace has. -/
theorem write_writes (node : Node) (draft : Draft) :
    draft.Writes (node.trace draft) (node.write draft) := by
  cases node with
  | path path =>
      rw [write, Path.write_text]
      exact .fixed draft _
  | predicate predicate =>
      exact .shown (predicate.write_shows draft _ _ draft.shows_self)
        (predicate.condition_binds draft.numbering) (predicate.condition_numbers draft.numbering)
  | sortKey key =>
      rw [write, SortKey.write_text]
      exact .fixed draft _
  | sortKeys keys =>
      have opened := draft.shows_self.write "ORDER BY "
      have shows := sortKeys_show keys opened
      rw [List.append_assoc] at shows
      exact .shown shows (.nothing (placeholders_sortKeys keys) rfl) (.nothing rfl)
  | offset count => exact .fixed draft _
  | limit count => exact .fixed draft _
  | aggregate aggregate =>
      rw [write, AggregateColumn.write_text]
      exact .fixed draft _
  | origin origin =>
      rw [write, Origin.write_text]
      exact .fixed draft _
  | join join => exact .fixed draft _
  | select select =>
      exact .shown (select.query_shows _ draft _ draft.shows_self)
        (select.query_binds draft.numbering) (select.query_numbers draft.numbering)

/-- Separated nodes write their traces one behind the other. -/
theorem writeEach_writes (separator : String) (nodes : List Node) (draft : Draft) :
    draft.Writes (traceEach separator draft nodes) (draft.writeEach separator write nodes) := by
  induction nodes generalizing draft with
  | nil => exact .nothing draft
  | cons node rest continued =>
      have first := node.write_writes draft
      cases rest with
      | nil => exact first
      | cons second others =>
          exact first.append ((Draft.Writes.fixed _ separator).append (continued _))

end Node

namespace Operation

/-- Every operation writes what its trace has. -/
theorem perform_writes (operation : Operation) (draft : Draft) :
    draft.Writes (operation.trace draft) (operation.perform draft) := by
  cases operation with
  | text text => exact .fixed draft text
  | property name =>
      rw [perform, Draft.writeProperty_text]
      exact .fixed draft _
  | literal text => exact .fixed draft _
  | parameter key value =>
      have bound := Draft.bindValue_eq draft (Draft.cleanKey key) value
      refine ⟨?_, ⟨rfl, ?_⟩, .nothing ?_⟩
      · simp [perform, trace, Draft.writeParameter, bound, Draft.write, Piece.spelling]
      · simp [perform, trace, Draft.writeParameter, bound, Draft.write, Ledger.bindEach]
      · simp [perform, Draft.writeParameter, bound, Draft.write]
  | element => exact ⟨by simp [perform, trace, Draft.nextElement], .nothing rfl rfl, .one draft⟩
  | node node => exact node.write_writes draft
  | each separator nodes => exact Node.writeEach_writes separator nodes draft

/-- The induction is on the operations, for every draft that they start from. -/
theorem performEach_writes (operations : List Operation) (draft : Draft) :
    draft.Writes (traceEach draft operations) (performEach draft operations) := by
  induction operations generalizing draft with
  | nil => exact .nothing draft
  | cons operation rest continued =>
      exact (operation.perform_writes draft).append (continued _)

end Operation

/-- The draft has the text of the trace and a parameter for each literal, and its parameters and the
aliases of its elements are numbered without gaps. -/
structure Draft.Tells (draft : Draft) (trace : Trace) : Prop where
  spelled : draft.text = spell trace.pieces
  bound : List.Forall₂
    (fun name literal => ∃ index value, name = parameterName literal.1 index ∧
      ⟨name, value⟩ ∈ draft.parameters ∧ value.Same literal.2)
    (placeholders trace.pieces) trace.literals
  indexed : ∀ parameter, parameter ∈ draft.parameters ↔
    ∃ key index, parameter.name = parameterName key index ∧
      (Ledger.values draft.bound key)[index]? = some parameter.value
  apart : ∀ key, (Ledger.values draft.bound key).Pairwise fun first second =>
    ¬first.Same second
  distinct : (draft.parameters.map Parameter.name).Nodup
  counted : draft.elements = trace.aliases.length
  numbered : trace.aliases = (List.range trace.aliases.length).map fun index =>
    "array_element_" ++ toString (index + 1)

/-- The text of the first draft begins the text of the second one, and each parameter of the first
draft is the only one of its name in the second. -/
structure Draft.GrowsInto (before after : Draft) : Prop where
  text : ∃ added, after.text = before.text ++ added
  parameters : before.parameters.Sublist after.parameters
  kept : ∀ parameter ∈ before.parameters, ∀ other ∈ after.parameters,
    other.name = parameter.name → other = parameter

namespace Draft.Writes

variable {draft next : Draft} {trace : Trace}

/-- A draft that started empty has what its trace tells and nothing else. -/
theorem tells (writes : Draft.Writes {} trace next) : next.Tells trace := by
  have separate := writes.binds.separate Ledger.separate_empty
  obtain ⟨spelled, ⟨named, bound⟩, ⟨counted, listed⟩⟩ := writes
  have binds := Ledger.names_bind [] trace.literals
  rw [← named, ← bound] at binds
  refine ⟨?_, ?_, fun _ => separate.parameter_iff, separate.values, separate.names_nodup, ?_, ?_⟩
  · rw [spelled, String.empty_append]
  · apply binds.imp
    rintro name literal ⟨index, kept, located, same, called⟩
    have member : ⟨name, kept⟩ ∈ next.parameters :=
      separate.parameter_iff.mpr ⟨literal.1, index, called, located⟩
    exact ⟨index, kept, called, member, same⟩
  · rw [counted, Nat.zero_add]
  · apply listed.trans
    rw [List.range'_eq_map_range, List.map_map]
    congr 1
    funext index
    exact congrArg (fun number => "array_element_" ++ toString number) (Nat.add_comm 1 index)

/-- Writing adds to the text and keeps every parameter. -/
theorem growsInto (writes : draft.Writes trace next) (separate : Ledger.Separate draft.bound) :
    draft.GrowsInto next := by
  have kept : draft.parameters.Sublist next.parameters := by
    have longer := Ledger.parameters_sublist_bindEach draft.bound trace.literals
    rw [← writes.binds.bound] at longer
    exact longer
  have distinct : (next.parameters.map Parameter.name).Nodup :=
    (writes.binds.separate separate).names_nodup
  refine ⟨⟨_, writes.spelled⟩, kept, ?_⟩
  intro parameter member other member' same
  exact List.inj_on_of_nodup_map distinct member' (kept.subset member) same

end Draft.Writes

namespace Operation

/-- After any operations the draft has everything they wrote, and further operations add to its
text and parameters without changing what a placeholder stands for. -/
theorem placeholders_stand (earlier later : List Operation) :
    (performEach {} earlier).Tells (traceEach {} earlier) ∧
      (performEach {} earlier).GrowsInto (performEach (performEach {} earlier) later) := by
  have before := performEach_writes earlier {}
  have separate := before.binds.separate Ledger.separate_empty
  exact ⟨before.tells, (performEach_writes later _).growsInto separate⟩

/-- Two keys are one when they are clean, and its second value comes before the other key. -/
example :
    let draft := performEach {} [.parameter "a b" (.string "x"), .parameter "c" (.string "x"),
      .parameter "a-b" (.string "y"), .parameter "a_b" (.string "x")]
    draft.text = "@a_b_0@c_0@a_b_1@a_b_0" ∧
      draft.parameters.map Parameter.name = ["@a_b_0", "@a_b_1", "@c_0"] := by
  cbv

end Operation

end DocumentQuery
