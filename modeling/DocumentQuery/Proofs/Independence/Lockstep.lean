/-
This file binds two lists of literals side by side: when equal literals stand at the same places of
both lists, the ledgers grow in the same way and give out the same names.
-/

import DocumentQuery.Proofs.Binding.Parameters

namespace DocumentQuery

/-- Two literals stand at the same place under one key. -/
structure TwinLiteral where
  key : String
  first : Json
  second : Json

namespace TwinLiteral

/-- Under each key the first literals are the same exactly when the second ones are. -/
def Consistent (twins : List TwinLiteral) : Prop :=
  ∀ twin ∈ twins, ∀ other ∈ twins, twin.key = other.key →
    (twin.first.Same other.first ↔ twin.second.Same other.second)

def firsts (twins : List TwinLiteral) : List (String × Json) :=
  twins.map fun twin => (twin.key, twin.first)

def seconds (twins : List TwinLiteral) : List (String × Json) :=
  twins.map fun twin => (twin.key, twin.second)

end TwinLiteral

namespace Ledger

variable {twins : List TwinLiteral} {first second : Ledger}

/-- The ledgers have twin values under each key in the same order. -/
def Twin (twins : List TwinLiteral) : Ledger → Ledger → Prop :=
  Table.Related fun key => List.Forall₂ fun value other => ⟨key, value, other⟩ ∈ twins

/-- Twin ledgers have twin values under every key. -/
theorem Twin.values (twin : Twin twins first second) (key : String) :
    List.Forall₂ (fun value other => ⟨key, value, other⟩ ∈ twins) (first.values key)
      (second.values key) := by
  have found := Table.Related.entry twin key
  unfold Ledger.values
  generalize first.entry? key = listed at found ⊢
  generalize second.entry? key = listed' at found ⊢
  cases found with
  | none => exact .nil
  | some alike => exact alike

/-- A literal is found in the first ledger exactly where its twin is found in the second one. -/
theorem Twin.position (twin : Twin twins first second) (consistent : TwinLiteral.Consistent twins)
    {bound : TwinLiteral} (member : bound ∈ twins) :
    Draft.position? (first.values bound.key) bound.first =
      Draft.position? (second.values bound.key) bound.second := by
  have found := twin.values bound.key
  unfold Draft.position?
  generalize first.values bound.key = values at found
  generalize second.values bound.key = others at found
  induction found with
  | nil => rfl
  | cons here _ continued =>
      -- Values in the ledgers are twins themselves, so each of them is compared alike.
      have agree := consistent _ here _ member rfl
      rw [List.findIdx?_cons, List.findIdx?_cons, continued, decide_eq_decide.mpr agree]

/-- Twins are bound at the same position, and the ledgers stay twin. -/
theorem Twin.bind (twin : Twin twins first second) (consistent : TwinLiteral.Consistent twins)
    {bound : TwinLiteral} (member : bound ∈ twins) :
    first.position bound.key bound.first = second.position bound.key bound.second ∧
      Twin twins (first.bind bound.key bound.first) (second.bind bound.key bound.second) := by
  have found := twin.values bound.key
  unfold Ledger.position Ledger.bind
  rw [twin.position consistent member]
  constructor
  · rw [found.length_eq]
  · split
    next => exact twin
    next =>
      apply Table.Related.put twin
      exact List.rel_append found (.cons member .nil)

/-- Literals that are bound side by side get the same names. -/
theorem Twin.names (twin : Twin twins first second) (consistent : TwinLiteral.Consistent twins)
    {literals : List TwinLiteral} (members : ∀ literal ∈ literals, literal ∈ twins) :
    first.names (TwinLiteral.firsts literals) = second.names (TwinLiteral.seconds literals) ∧
      Twin twins (first.bindEach (TwinLiteral.firsts literals))
        (second.bindEach (TwinLiteral.seconds literals)) := by
  induction literals generalizing first second with
  | nil => exact ⟨rfl, twin⟩
  | cons literal rest continued =>
      obtain ⟨member, others⟩ := List.forall_mem_cons.mp members
      obtain ⟨place, next⟩ := twin.bind consistent member
      obtain ⟨named, bound⟩ := continued next others
      refine ⟨?_, bound⟩
      simp only [TwinLiteral.firsts, TwinLiteral.seconds, List.map_cons, Ledger.names, place]
      exact congrArg (List.cons _) named

/-- Twin ledgers have the same parameters but for twin values. -/
theorem Twin.parameters (twin : Twin twins first second) :
    List.Forall₂
      (fun parameter other => ∃ key index value value', ⟨key, value, value'⟩ ∈ twins ∧
        parameter = ⟨Draft.parameterName key index, value⟩ ∧
          other = ⟨Draft.parameterName key index, value'⟩)
      first.parameters second.parameters := by
  refine List.rel_flatMap twin ?_
  rintro ⟨key, values⟩ ⟨key', others⟩ ⟨rfl, alike⟩
  obtain ⟨length, each⟩ := List.forall₂_iff_get.mp alike
  apply List.forall₂_iff_get.mpr
  refine ⟨by simp [Draft.parametersOf, length], ?_⟩
  intro index inside inside'
  simp only [Draft.parametersOf, List.length_mapIdx] at inside inside'
  refine ⟨key, index, _, _, each index inside inside', ?_, ?_⟩
  · simp [Draft.parametersOf]
  · simp [Draft.parametersOf]

end Ledger

end DocumentQuery
