/-
This file proves that the text of a statement binds its literals: each placeholder names the one
parameter that has the value of its literal.
-/

import DocumentQuery.Proofs.Binding.Keys
import DocumentQuery.Proofs.Sample

namespace DocumentQuery

open Dialect

/-- These are the names of the parameters in their order. -/
def SqlText.names (text : SqlText) : List String :=
  text.parameters.map Parameter.name

/-- The text has one placeholder for each literal in the order of the text. -/
structure SqlText.BindsFaithfully (text : SqlText) (tree : Dialect.Query)
    (tests : List LiteralTest) : Prop where
  spelled : text.query = spell tree.pieces
  bound : List.Forall₂
    (fun name test => text.names.count name = 1 ∧
      ∃ parameter ∈ text.parameters, parameter.name = name ∧ parameter.value.Same test.value)
    (placeholders tree.pieces) tests
  named : ∀ parameter ∈ text.parameters, parameter.name ∈ placeholders tree.pieces
  distinct : text.names.Nodup
  apart : variablesParameter ∉ text.names
  shared : ∀ first ∈ (placeholders tree.pieces).zip tests,
    ∀ second ∈ (placeholders tree.pieces).zip tests,
      first.1 = second.1 ↔ first.2.key = second.2.key ∧ first.2.value.Same second.2.value

namespace Ledger

/-- Each parameter has the name of some literal. -/
theorem parameters_named (literals : List (String × Json)) :
    ∀ parameter ∈ parameters (bindEach [] literals), parameter.name ∈ names [] literals := by
  intro parameter member
  obtain ⟨key, index, named, located⟩ := (separate_empty.bindEach literals).parameter_iff.mp member
  obtain ⟨within, _⟩ := List.getElem?_eq_some_iff.mp located
  rcases bound_named [] literals within with early | later
  · exact absurd early (Nat.not_lt_zero index)
  · rw [named]
    exact later

/-- No literal takes the parameter of the variables. -/
theorem parameters_apart (ledger : Ledger) :
    variablesParameter ∉ ledger.parameters.map Parameter.name := by
  intro member
  obtain ⟨parameter, listed, same⟩ := List.mem_map.mp member
  obtain ⟨key, _, index, _, _, named⟩ := mem_parameters.mp listed
  exact Draft.parameterName_ne_variables key index (named.symm.trans same)

end Ledger

namespace Select

/-- The parameters of a text are those of its literals, and the placeholders are their names. -/
theorem text_ledger (select : Select) :
    select.text.parameters =
        Ledger.parameters (Ledger.bindEach [] (select.literalTests.map LiteralTest.binding)) ∧
      placeholders select.tree.pieces =
        Ledger.names [] (select.literalTests.map LiteralTest.binding) := by
  have binds := select.query_binds {}
  refine ⟨?_, binds.named⟩
  rw [select.text_shows.2, ← binds.bound]
  rfl

/-- The placeholders, parameters and literals of a text belong together one by one. -/
theorem text_binds (select : Select) :
    select.text.BindsFaithfully select.tree select.literalTests := by
  obtain ⟨parameters, named⟩ := select.text_ledger
  have separate := Ledger.separate_empty.bindEach (select.literalTests.map LiteralTest.binding)
  have binds := Ledger.names_bind [] (select.literalTests.map LiteralTest.binding)
  rw [← named, List.forall₂_map_right_iff] at binds
  have distinct : select.text.names.Nodup := by
    rw [SqlText.names, parameters]
    exact separate.names_nodup
  refine ⟨select.text_shows.1, ?_, ?_, distinct, ?_, ?_⟩
  · refine binds.imp ?_
    intro name test bound
    obtain ⟨parameter, member, called, same⟩ := separate.parameter_of_binds bound
    rw [← parameters] at member
    refine ⟨List.count_eq_one_of_mem distinct ?_, parameter, member, called, same⟩
    exact List.mem_map.mpr ⟨parameter, member, called⟩
  · rw [parameters, named]
    exact Ledger.parameters_named _
  · rw [SqlText.names, parameters]
    exact Ledger.parameters_apart _
  · intro first member second member'
    obtain ⟨_, each⟩ := List.forall₂_iff_zip.mp binds
    exact separate.name_eq_iff (each member) (each member')

/-- Every text binds its literals. The literals of a compiled statement are those of the request,
and the key of each one is the last name of its target. -/
theorem text_binds_faithfully (select : Select) :
    select.text.BindsFaithfully select.tree select.literalTests ∧
      ∀ schema request, QueryRequest.statement schema request = .ok select →
        List.Forall₂
          (fun test requested => test.chain.leaf? = some requested.1 ∧
            test.key = Draft.cleanKey requested.1 ∧ test.value = requested.2)
          select.literalTests request.literals := by
  refine ⟨select.text_binds, ?_⟩
  intro schema request stated
  refine (QueryRequest.statement_literalTests stated).2.imp ?_
  intro test requested meets
  exact ⟨meets.leaf, meets.key, meets.value⟩

/-- Tests of the tags and of the name have keys of their own, and the repeated literals share. -/
theorem text_binds_sample :
    (Sample.filtered "red" "a" "b").statement Sample.schema =
        .ok (Sample.filteredStatement "red" "a" "b") ∧
      placeholders (Sample.filteredStatement "red" "a" "b").tree.pieces =
        ["@tags_0", "@tags_0", "@name_0", "@id_0", "@id_1", "@id_0"] ∧
        (Sample.filteredStatement "red" "a" "b").text.BindsFaithfully
          (Sample.filteredStatement "red" "a" "b").tree
          (Sample.filteredStatement "red" "a" "b").literalTests ∧
          List.Forall₂
            (fun test requested => test.chain.leaf? = some requested.1 ∧
              test.key = Draft.cleanKey requested.1 ∧ test.value = requested.2)
            (Sample.filteredStatement "red" "a" "b").literalTests
            (Sample.filtered "red" "a" "b").literals := by
  have stated : (Sample.filtered "red" "a" "b").statement Sample.schema =
      .ok (Sample.filteredStatement "red" "a" "b") := rfl
  obtain ⟨binds, keys⟩ := text_binds_faithfully (Sample.filteredStatement "red" "a" "b")
  exact ⟨stated, by decide +kernel, binds, keys _ _ stated⟩

end Select

end DocumentQuery
