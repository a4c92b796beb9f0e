/-
This file follows the choice of an alias round by round: it ends at the first candidate that is free,
after no more rounds than there are enclosing aliases.
-/

import DocumentQuery.Proofs.Scoping.Fresh

namespace DocumentQuery.Alias

/-- A trial looks at one candidate and knows the number of the next one. -/
structure Trial where
  candidate : String
  number : Nat

namespace Trial

/-- The first candidate is the base itself. -/
def start (base : String) (depth : Nat) : Trial :=
  ⟨base, depth⟩

/-- A round gives its candidate up for the next numbered one. -/
def next (base : String) (trial : Trial) : Trial :=
  ⟨numbered base trial.number, trial.number + 1⟩

/-- The rounds go on while the candidate is taken. -/
inductive Ends (base : String) (enclosing : List String) : Trial → Nat → Trial → Prop where
  | free {trial : Trial} (free : trial.candidate ∉ enclosing) : Ends base enclosing trial 0 trial
  | taken {trial last : Trial} {rounds : Nat} (taken : trial.candidate ∈ enclosing)
      (onward : Ends base enclosing (trial.next base) rounds last) :
      Ends base enclosing trial (rounds + 1) last

/-- These are the aliases that are not ruled out: every taken candidate from here on is one of them,
and no candidate comes twice. -/
structure Remaining (base : String) (enclosing : List String) (trial : Trial)
    (aliases : List String) : Prop where
  current : trial.candidate ∈ enclosing → trial.candidate ∈ aliases
  later : ∀ number, trial.number ≤ number → numbered base number ∈ enclosing →
    numbered base number ∈ aliases
  apart : ∀ number, trial.number ≤ number → numbered base number ≠ trial.candidate

variable {base : String} {enclosing : List String}

namespace Remaining

/-- At the start nothing is ruled out, and no numbered candidate is the base. -/
theorem start (base : String) (enclosing : List String) (depth : Nat) :
    Remaining base enclosing (.start base depth) enclosing where
  current := id
  later _ _ := id
  apart number _ := numbered_ne_base base number

/-- A round rules its candidate out. -/
theorem next {trial : Trial} {aliases : List String}
    (remaining : Remaining base enclosing trial aliases) :
    Remaining base enclosing (trial.next base) (aliases.erase trial.candidate) := by
  have stays (number : Nat) (behind : trial.number ≤ number)
      (member : numbered base number ∈ enclosing) :
      numbered base number ∈ aliases.erase trial.candidate :=
    (List.mem_erase_of_ne (remaining.apart number behind)).mpr
      (remaining.later number behind member)
  constructor
  case current => exact stays trial.number (Nat.le_refl _)
  case later =>
    intro number behind
    exact stays number (Nat.le_of_succ_le behind)
  case apart =>
    intro number behind same
    have equal : number = trial.number := numbered_inj same
    rw [equal] at behind
    exact Nat.not_succ_le_self trial.number behind

/-- Each round leaves one alias less, so there are no more rounds than aliases. -/
theorem ends {trial : Trial} {aliases : List String}
    (remaining : Remaining base enclosing trial aliases) :
    ∃ rounds ≤ aliases.length, ∃ last, Ends base enclosing trial rounds last := by
  induction length : aliases.length generalizing trial aliases with
  | zero =>
      have free : trial.candidate ∉ enclosing := by
        intro taken
        have positive := List.length_pos_of_mem (remaining.current taken)
        omega
      exact ⟨0, Nat.le_refl 0, trial, .free free⟩
  | succ count continued =>
      by_cases taken : trial.candidate ∈ enclosing
      · have fewer : (aliases.erase trial.candidate).length = count := by
          rw [List.length_erase_of_mem (remaining.current taken), length]
          rfl
        obtain ⟨rounds, within, last, onward⟩ := continued remaining.next fewer
        exact ⟨rounds + 1, Nat.succ_le_succ within, last, .taken taken onward⟩
      · exact ⟨0, Nat.zero_le _, trial, .free taken⟩

end Remaining

namespace Ends

variable {last : Trial} {rounds : Nat}

/-- A run that starts at a numbered candidate passes the taken numbers only. -/
theorem least {number : Nat}
    (ends : Ends base enclosing ⟨numbered base number, number + 1⟩ rounds last) :
    IsLeast (freeNumbers base enclosing number) (number + rounds) ∧
      last = ⟨numbered base (number + rounds), number + rounds + 1⟩ := by
  induction rounds generalizing number with
  | zero =>
      cases ends with
      | free free => exact ⟨least_of_free free, rfl⟩
  | succ rounds continued =>
      cases ends with
      | taken taken onward =>
          have shifted : number + (rounds + 1) = number + 1 + rounds := by omega
          rw [freeNumbers_of_taken taken, shifted]
          exact continued onward

/-- The run and the function stop at the same number, for both stop at the least one. -/
theorem chosen {depth : Nat} (ends : Ends base enclosing (start base depth) rounds last) :
    last = ⟨unique base enclosing depth, depth + rounds⟩ := by
  cases ends with
  | free free =>
      have kept : unique base enclosing depth = base := unique_of_free free depth
      rw [kept]
      rfl
  | taken taken onward =>
      have member : base ∈ enclosing := taken
      obtain ⟨found, least, named⟩ := unique_least member depth
      obtain ⟨reached, stopped⟩ := onward.least
      rw [named, least.unique reached, stopped]
      rfl

end Ends

end Trial

/-- The choice of an alias ends at the first candidate that is free. The counter is then as many
numbers behind the depth as there were rounds, so it fits every word that holds the depth and the
number of enclosing aliases together. -/
theorem trial_ends_first_free (base : String) (enclosing : List String) (depth : Nat) :
    (∃ rounds ≤ enclosing.length, Trial.Ends base enclosing (.start base depth) rounds
      ⟨unique base enclosing depth, depth + rounds⟩) ∧
    (base ∉ enclosing → unique base enclosing depth = base) ∧
    (base ∈ enclosing →
      ∃ number, IsLeast (freeNumbers base enclosing depth) number ∧
        unique base enclosing depth = numbered base number) ∧
    unique base enclosing depth ∉ enclosing ∧
    (Identifier.isSafe base → Dialect.Stemmed Selection.subqueryPrefix base →
      Identifier.isPlain (unique base enclosing depth)) := by
  refine ⟨?ended, ?base, ?numbered, unique_free base enclosing depth, ?plain⟩
  case ended =>
    obtain ⟨rounds, within, last, ends⟩ := (Trial.Remaining.start base enclosing depth).ends
    exact ⟨rounds, within, ends.chosen ▸ ends⟩
  case base =>
    intro free
    exact unique_of_free free depth
  case numbered =>
    intro member
    exact unique_least member depth
  case plain =>
    intro safe stemmed
    -- The underscore of the stem keeps the name apart from the keywords.
    have isAlias : Identifier.IsAlias base := ⟨safe, stemmed.subset (by decide)⟩
    exact (isAlias.unique enclosing depth).plain

/-- The aliases of grids inside grids, one of them bound twice. -/
def gridAliases : List String :=
  ["root_sheets", "_subquery_parent_grid", "_subquery_parent_grid_2", "_subquery_parent_grid"]

/-- The base and its first number are taken, so the next number is chosen. -/
theorem trial_ends_at_third_grid :
    "_subquery_parent_grid" ∈ gridAliases ∧
    Identifier.isSafe "_subquery_parent_grid" ∧
    Dialect.Stemmed Selection.subqueryPrefix "_subquery_parent_grid" ∧
    (∃ rounds ≤ 4, Trial.Ends "_subquery_parent_grid" gridAliases
      (.start "_subquery_parent_grid" 2) rounds ⟨"_subquery_parent_grid_3", 2 + rounds⟩) ∧
    unique "_subquery_parent_grid" gridAliases 2 = "_subquery_parent_grid_3" ∧
    Identifier.isPlain "_subquery_parent_grid_3" := by
  have member : "_subquery_parent_grid" ∈ gridAliases := by decide
  have safe : Identifier.isSafe "_subquery_parent_grid" := by decide
  have stemmed : Dialect.Stemmed Selection.subqueryPrefix "_subquery_parent_grid" := by decide
  obtain ⟨ended, _, numbers, _, plain⟩ :=
    trial_ends_first_free "_subquery_parent_grid" gridAliases 2
  obtain ⟨number, least, named⟩ := numbers member
  have third : IsLeast (freeNumbers "_subquery_parent_grid" gridAliases 2) 3 := by
    rw [freeNumbers_of_taken (by decide)]
    exact least_of_free (by decide)
  have chosen : unique "_subquery_parent_grid" gridAliases 2 = "_subquery_parent_grid_3" := by
    rw [named, least.unique third]
    decide
  exact ⟨member, safe, stemmed, chosen ▸ ended, chosen, chosen ▸ plain safe stemmed⟩

end DocumentQuery.Alias
