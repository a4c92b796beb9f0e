/-
This file follows the bindings of a draft through a list of literals: every literal has a name, and
a name stands for one value of one key.
-/

import DocumentQuery.Proofs.Table
import DocumentQuery.Statement.Draft
import Mathlib.Data.List.Nodup

namespace DocumentQuery

/-- Each key holds its values in the order in which they were bound. -/
abbrev Ledger := Table (List Json)

namespace Ledger

/-- A key that is not listed has no values. -/
def values (ledger : Ledger) (key : String) : List Json :=
  (ledger.entry? key).getD []

/-- A value that is not bound yet comes behind the others. -/
def position (ledger : Ledger) (key : String) (value : Json) : Nat :=
  (Draft.position? (ledger.values key) value).getD (ledger.values key).length

/-- A value that its key holds already is not put again. -/
def bind (ledger : Ledger) (key : String) (value : Json) : Ledger :=
  match Draft.position? (ledger.values key) value with
  | some _ => ledger
  | none => ledger.put key (ledger.values key ++ [value])

/-- Literals are bound one after the other, each under its key. -/
def bindEach : Ledger → List (String × Json) → Ledger
  | ledger, [] => ledger
  | ledger, (key, value) :: rest => bindEach (ledger.bind key value) rest

/-- These are the names that the literals get. -/
def names : Ledger → List (String × Json) → List String
  | _, [] => []
  | ledger, (key, value) :: rest =>
      Draft.parameterName key (ledger.position key value) :: names (ledger.bind key value) rest

/-- The name stands for a value of the key that is the same as this one. -/
def Binds (ledger : Ledger) (name key : String) (value : Json) : Prop :=
  ∃ index kept, (ledger.values key)[index]? = some kept ∧ kept.Same value ∧
    name = Draft.parameterName key index

/-- No key is listed twice, and no two values of a key are the same. -/
structure Separate (ledger : Ledger) : Prop where
  keys : ledger.Distinct
  values : ∀ key, (ledger.values key).Pairwise fun first second => ¬ first.Same second

end Ledger

/-- A draft binds its values as its ledger does. -/
theorem Draft.bindValue_eq (draft : Draft) (key : String) (value : Json) :
    draft.bindValue key value =
      ({ draft with bound := Ledger.bind draft.bound key value },
        Ledger.position draft.bound key value) := by
  unfold bindValue Ledger.bind Ledger.position Ledger.values
  dsimp only
  split
  next index found =>
    rw [found]
    rfl
  next absent =>
    rw [absent]
    rfl

namespace Ledger

variable {ledger : Ledger} {key : String} {value : Json}

/-- Literals are bound one list behind the other. -/
theorem bindEach_append (first second : List (String × Json)) :
    ledger.bindEach (first ++ second) = bindEach (ledger.bindEach first) second := by
  induction first generalizing ledger with
  | nil => rfl
  | cons literal rest continued => exact continued

/-- The names of later literals depend on those that are bound before. -/
theorem names_append (first second : List (String × Json)) :
    ledger.names (first ++ second) =
      ledger.names first ++ names (ledger.bindEach first) second := by
  induction first generalizing ledger with
  | nil => rfl
  | cons literal rest continued =>
      rw [List.cons_append, names, continued]
      rfl

/-- A value that is found is bound already, and any other value comes last. -/
theorem bind_cases (ledger : Ledger) (key : String) (value : Json) :
    (∃ kept, (ledger.values key)[ledger.position key value]? = some kept ∧ kept.Same value ∧
      ledger.bind key value = ledger) ∨
    ((∀ kept ∈ ledger.values key, ¬ kept.Same value) ∧
      ledger.position key value = (ledger.values key).length ∧
        ledger.bind key value = ledger.put key (ledger.values key ++ [value])) := by
  unfold bind position
  cases located : Draft.position? (ledger.values key) value with
  | some index =>
      obtain ⟨inside, same, _⟩ := List.findIdx?_eq_some_iff_getElem.mp located
      refine .inl ⟨(ledger.values key)[index], ?_, of_decide_eq_true same, rfl⟩
      rw [Option.getD_some, List.getElem?_eq_getElem inside]
  | none =>
      refine .inr ⟨?_, rfl, rfl⟩
      intro kept member
      exact of_decide_eq_false (List.findIdx?_eq_none_iff.mp located kept member)

theorem values_put (new : List Json) : values (ledger.put key new) key = new := by
  rw [values, Table.entry_put, Option.getD_some]

/-- Putting the values of a key leaves other keys alone. -/
theorem values_put_other {other : String} (new : List Json) (different : other ≠ key) :
    values (ledger.put key new) other = ledger.values other := by
  rw [values, Table.entry_put_other ledger new different, values]

/-- A value keeps its place when others are bound. -/
theorem values_kept (ledger : Ledger) (key : String) (value : Json) (other : String) :
    ledger.values other <+: values (ledger.bind key value) other := by
  obtain ⟨_, _, _, unchanged⟩ | ⟨_, _, added⟩ := bind_cases ledger key value
  · exact ⟨[], by rw [unchanged, List.append_nil]⟩
  · rw [added]
    by_cases same : other = key
    · subst same
      rw [values_put]
      exact List.prefix_append _ _
    · exact ⟨[], by rw [values_put_other _ same, List.append_nil]⟩

/-- A name goes on standing for its value when another literal is bound. -/
theorem Binds.kept {name : String} (binds : ledger.Binds name key value) (other : String)
    (next : Json) : Binds (ledger.bind other next) name key value := by
  obtain ⟨index, kept, located, same, named⟩ := binds
  obtain ⟨added, longer⟩ := values_kept ledger other next key
  refine ⟨index, kept, ?_, same, named⟩
  obtain ⟨inside, _⟩ := List.getElem?_eq_some_iff.mp located
  rw [← longer, List.getElem?_append_left inside, located]

/-- A literal that is bound has a name that stands for it. -/
theorem bind_binds (ledger : Ledger) (key : String) (value : Json) :
    Binds (ledger.bind key value) (Draft.parameterName key (ledger.position key value)) key
      value := by
  obtain ⟨kept, located, same, unchanged⟩ | ⟨_, last, added⟩ := bind_cases ledger key value
  · exact ⟨_, kept, by rw [unchanged, located], same, rfl⟩
  · refine ⟨_, value, ?_, rfl, rfl⟩
    rw [added, last, values_put, List.getElem?_concat_length]

/-- Binding a literal repeats no key and no value. -/
theorem Separate.bind (separate : ledger.Separate) (key : String) (value : Json) :
    Separate (ledger.bind key value) := by
  obtain ⟨_, _, _, unchanged⟩ | ⟨absent, _, added⟩ := bind_cases ledger key value
  · rw [unchanged]
    exact separate
  · rw [added]
    refine ⟨Table.distinct_put separate.keys key _, ?_⟩
    intro other
    by_cases same : other = key
    · subst same
      rw [values_put, List.pairwise_append]
      refine ⟨separate.values other, List.pairwise_singleton _ _, ?_⟩
      intro kept member last lastMember
      rw [List.mem_singleton.mp lastMember]
      exact absent kept member
    · rw [values_put_other _ same]
      exact separate.values other

theorem separate_empty : Separate [] :=
  ⟨List.nodup_nil, fun _ => List.Pairwise.nil⟩

/-- However many literals are bound, nothing is repeated. -/
theorem Separate.bindEach (separate : ledger.Separate) (literals : List (String × Json)) :
    Separate (ledger.bindEach literals) := by
  induction literals generalizing ledger with
  | nil => exact separate
  | cons literal rest continued => exact continued (separate.bind literal.1 literal.2)

/-- A name goes on standing for its value through any later literals. -/
theorem Binds.keptEach {name : String} (binds : ledger.Binds name key value)
    (literals : List (String × Json)) : Binds (ledger.bindEach literals) name key value := by
  induction literals generalizing ledger with
  | nil => exact binds
  | cons literal rest continued => exact continued (binds.kept literal.1 literal.2)

/-- In the end every name still stands for its literal. -/
theorem names_bind (ledger : Ledger) (literals : List (String × Json)) :
    List.Forall₂ (fun name literal => Binds (ledger.bindEach literals) name literal.1 literal.2)
      (ledger.names literals) literals := by
  induction literals generalizing ledger with
  | nil => exact .nil
  | cons literal rest continued =>
      obtain ⟨key, value⟩ := literal
      exact .cons ((bind_binds ledger key value).keptEach rest) (continued _)

/-- Every value was bound before, or some literal has its name. -/
theorem bound_named (ledger : Ledger) (literals : List (String × Json)) {other : String}
    {index : Nat} (inside : index < (values (ledger.bindEach literals) other).length) :
    index < (ledger.values other).length ∨
      Draft.parameterName other index ∈ ledger.names literals := by
  induction literals generalizing ledger with
  | nil => exact .inl inside
  | cons literal rest continued =>
      obtain ⟨key, value⟩ := literal
      rcases continued _ inside with early | later
      · obtain ⟨_, _, _, unchanged⟩ | ⟨_, last, added⟩ := bind_cases ledger key value
        · rw [unchanged] at early
          exact .inl early
        · by_cases same : other = key
          · subst same
            -- The new value comes last, so only its own place is not an old one.
            rw [added, values_put, List.length_append, List.length_singleton] at early
            by_cases old : index < (ledger.values other).length
            · exact .inl old
            · have place : index = ledger.position other value := by omega
              rw [place]
              exact .inr List.mem_cons_self
          · rw [added, values_put_other _ same] at early
            exact .inl early
      · exact .inr (List.mem_cons_of_mem _ later)

end Ledger

end DocumentQuery
