/-
This file proves that a parameter name tells its key and index, and that the parameters of separate
bindings are as distinct as their names.
-/

import DocumentQuery.Proofs.Binding.Ledger
import DocumentQuery.Proofs.Naming

namespace DocumentQuery

/-- A list is cut in one way only at its last mark. -/
theorem append_cons_inj_last {Item : Type} {mark : Item} {before before' after after' : List Item}
    (unmarked : mark ∉ after) (unmarked' : mark ∉ after')
    (same : before ++ mark :: after = before' ++ mark :: after') :
    before = before' ∧ after = after' := by
  rcases List.append_eq_append_iff.mp same with ⟨between, rfl, tail⟩ | ⟨between, rfl, tail⟩
  · cases between with
    | nil =>
        rw [List.append_nil]
        exact ⟨rfl, (List.cons.inj tail).2⟩
    | cons first rest =>
        refine absurd ?_ unmarked
        rw [(List.cons.inj tail).2]
        simp
  · cases between with
    | nil =>
        rw [List.append_nil]
        exact ⟨rfl, (List.cons.inj tail).2.symm⟩
    | cons first rest =>
        refine absurd ?_ unmarked'
        rw [(List.cons.inj tail).2]
        simp

namespace Draft

/-- The last underscore ends the key, whatever the key is. -/
theorem parameterName_inj {key other : String} {index place : Nat} :
    parameterName key index = parameterName other place ↔ key = other ∧ index = place := by
  constructor
  · intro same
    have spelled := congrArg String.toList same
    simp only [parameterName, String.toList_append, List.append_assoc] at spelled
    -- A key may end in underscores and digits, but the digits behind it have no underscore.
    have tail := List.append_cancel_left spelled
    obtain ⟨keys, digits⟩ := append_cons_inj_last (Identifier.underscore_notMem_digits index)
      (Identifier.underscore_notMem_digits place) tail
    exact ⟨String.toList_inj.mp keys, Identifier.digits_inj digits⟩
  · rintro ⟨rfl, rfl⟩
    rfl

/-- The parameter of the variables has no underscore. -/
theorem parameterName_ne_variables (key : String) (index : Nat) :
    parameterName key index ≠ variablesParameter := by
  intro same
  have underscore : '_' ∈ (parameterName key index).toList := by
    simp [parameterName]
  rw [same] at underscore
  exact absurd underscore (by decide)

end Draft

namespace Ledger

variable {ledger : Ledger}

/-- The parameters are listed key by key. -/
def parameters (ledger : Ledger) : List Parameter :=
  ledger.flatMap fun (key, values) => Draft.parametersOf key values

/-- A parameter numbers a value of a key. -/
theorem mem_parameters {parameter : Parameter} :
    parameter ∈ ledger.parameters ↔
      ∃ key values index, (key, values) ∈ ledger ∧ values[index]? = some parameter.value ∧
        parameter.name = Draft.parameterName key index := by
  simp only [parameters, Draft.parametersOf, List.mem_flatMap, Prod.exists, List.mem_mapIdx]
  constructor
  · rintro ⟨key, values, listed, index, inside, rfl⟩
    exact ⟨key, values, index, listed, List.getElem?_eq_getElem inside, rfl⟩
  · rintro ⟨key, values, index, listed, located, named⟩
    obtain ⟨inside, same⟩ := List.getElem?_eq_some_iff.mp located
    refine ⟨key, values, listed, index, inside, ?_⟩
    rw [same, ← named]

/-- A key that has a value is in the ledger. -/
theorem mem_of_value {key : String} {index : Nat} {value : Json}
    (located : (ledger.values key)[index]? = some value) : (key, ledger.values key) ∈ ledger := by
  cases found : ledger.entry? key with
  | none => simp [values, found] at located
  | some listed =>
      rw [values, found, Option.getD_some]
      exact Table.mem_of_entry found

/-- New values stand behind the parameters of the earlier ones. -/
theorem parametersOf_sublist (key : String) (values added : List Json) :
    (Draft.parametersOf key values).Sublist (Draft.parametersOf key (values ++ added)) := by
  rw [Draft.parametersOf, Draft.parametersOf, List.mapIdx_append]
  exact List.sublist_append_left _ _

/-- A new value of a key stands behind its other values, so all parameters keep their order. -/
theorem parameters_sublist_put (key : String) {values : List Json}
    (longer : ledger.values key <+: values) :
    ledger.parameters.Sublist (parameters (ledger.put key values)) := by
  induction ledger with
  | nil => exact List.nil_sublist _
  | cons entry rest continued =>
      obtain ⟨first, old⟩ := entry
      unfold Table.put
      split
      next same =>
        subst same
        rw [Ledger.values, Table.entry_first, Option.getD_some] at longer
        obtain ⟨added, rfl⟩ := longer
        exact (parametersOf_sublist first old added).append_right _
      next different =>
        rw [Ledger.values, Table.entry_later rest old (Ne.symm different)] at longer
        exact (continued longer).append_left _

/-- Binding a literal keeps the earlier parameters in their order. -/
theorem parameters_sublist_bind (ledger : Ledger) (key : String) (value : Json) :
    ledger.parameters.Sublist (parameters (ledger.bind key value)) := by
  obtain ⟨_, _, _, unchanged⟩ | ⟨_, _, added⟩ := bind_cases ledger key value
  · rw [unchanged]
  · rw [added]
    exact parameters_sublist_put key (List.prefix_append _ _)

/-- No parameter is lost or changed when literals are bound. -/
theorem parameters_sublist_bindEach (ledger : Ledger) (literals : List (String × Json)) :
    ledger.parameters.Sublist (parameters (ledger.bindEach literals)) := by
  induction literals generalizing ledger with
  | nil => exact List.Sublist.refl _
  | cons literal rest continued =>
      exact (parameters_sublist_bind ledger literal.1 literal.2).trans (continued _)

namespace Separate

/-- In a separate ledger, a key is listed with all of its values. -/
theorem values_of_mem (separate : ledger.Separate) {key : String} {listed : List Json}
    (member : (key, listed) ∈ ledger) : ledger.values key = listed := by
  rw [Ledger.values, Table.entry_of_mem separate.keys member, Option.getD_some]

/-- No two parameters share a name. -/
theorem names_nodup (separate : ledger.Separate) :
    ((ledger.parameters).map Parameter.name).Nodup := by
  unfold parameters
  rw [List.map_flatMap, List.nodup_flatMap]
  constructor
  · intro entry _
    apply List.pairwise_iff_getElem.mpr
    intro index later _ _ before same
    simp only [Draft.parametersOf, List.getElem_map, List.getElem_mapIdx] at same
    exact Nat.ne_of_lt before (Draft.parameterName_inj.mp same).2
  · refine (List.pairwise_map.mp separate.keys).imp ?_
    intro first second different name member member'
    obtain ⟨parameter, listed, rfl⟩ := List.mem_map.mp member
    obtain ⟨parameter', listed', same⟩ := List.mem_map.mp member'
    obtain ⟨index, _, rfl⟩ := List.mem_mapIdx.mp listed
    obtain ⟨index', _, rfl⟩ := List.mem_mapIdx.mp listed'
    exact different (Draft.parameterName_inj.mp same).1.symm

/-- The parameters of a key are numbered by the places of its values. -/
theorem parameter_iff (separate : ledger.Separate) {parameter : Parameter} :
    parameter ∈ ledger.parameters ↔
      ∃ key index, parameter.name = Draft.parameterName key index ∧
        (ledger.values key)[index]? = some parameter.value := by
  rw [mem_parameters]
  constructor
  · rintro ⟨key, listed, index, member, located, named⟩
    rw [← separate.values_of_mem member] at located
    exact ⟨key, index, named, located⟩
  · rintro ⟨key, index, named, located⟩
    exact ⟨key, _, index, mem_of_value located, located, named⟩

/-- A name that is bound belongs to one parameter, which has the value. -/
theorem parameter_of_binds (separate : ledger.Separate) {name key : String} {value : Json}
    (binds : ledger.Binds name key value) :
    ∃ parameter ∈ ledger.parameters, parameter.name = name ∧ parameter.value.Same value := by
  obtain ⟨index, kept, located, same, rfl⟩ := binds
  have member : ⟨Draft.parameterName key index, kept⟩ ∈ ledger.parameters :=
    separate.parameter_iff.mpr ⟨key, index, rfl, located⟩
  exact ⟨_, member, rfl, same⟩

/-- Two literals share a name exactly when they have one key and the same value. -/
theorem name_eq_iff (separate : ledger.Separate) {name other key key' : String}
    {value value' : Json} (binds : ledger.Binds name key value)
    (binds' : ledger.Binds other key' value') :
    name = other ↔ key = key' ∧ value.Same value' := by
  obtain ⟨index, kept, located, same, rfl⟩ := binds
  obtain ⟨index', kept', located', same', rfl⟩ := binds'
  rw [Draft.parameterName_inj]
  refine and_congr_right fun shared => ?_
  subst shared
  obtain ⟨inside, rfl⟩ := List.getElem?_eq_some_iff.mp located
  obtain ⟨inside', rfl⟩ := List.getElem?_eq_some_iff.mp located'
  constructor
  · rintro rfl
    exact same.symm.trans same'
  · intro equal
    have apart := List.pairwise_iff_getElem.mp (separate.values key)
    have agree := same.trans (equal.trans same'.symm)
    rcases Nat.lt_trichotomy index index' with before | here | behind
    · exact absurd agree (apart index index' inside inside' before)
    · exact here
    · exact absurd agree.symm (apart index' index inside' inside behind)

end Separate

end Ledger

end DocumentQuery
