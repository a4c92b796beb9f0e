/-
This file keeps the aliases of the compiler apart: no name has two stems, and the numbers of a stem
are given out in order.
-/

import DocumentQuery.Proofs.Naming
import DocumentQuery.Proofs.Scoping.Judgement
import Mathlib.Data.List.Nodup

namespace DocumentQuery

open Dialect

namespace Dialect.Stemmed

variable {stem name : String}

/-- A stem stays in front when more is appended. -/
theorem append (stemmed : Stemmed stem name) (suffix : String) : Stemmed stem (name ++ suffix) := by
  unfold Stemmed
  rw [String.toList_append]
  exact stemmed.trans (List.prefix_append _ _)

theorem self (stem suffix : String) : Stemmed stem (stem ++ suffix) :=
  append List.prefix_rfl suffix

/-- No name has two stems when neither stem starts with the other. -/
theorem apart {other : String} (stemmed : Stemmed stem name) (first : ¬ Stemmed stem other)
    (second : ¬ Stemmed other stem) : ¬ Stemmed other name := by
  intro stemmed'
  rcases List.prefix_or_prefix_of_prefix stemmed stemmed' with shorter | longer
  · exact first shorter
  · exact second longer

/-- The choice of an alias keeps the stem. -/
theorem unique {base : String} (stemmed : Stemmed stem base) (enclosing : List String)
    (depth : Nat) : Stemmed stem (Alias.unique base enclosing depth) :=
  Alias.unique_keeps stemmed (fun _ => (stemmed.append _).append _) enclosing depth

end Dialect.Stemmed

/-- Different numbers behind one stem make different names. -/
theorem stem_inj {stem : String} {number other : Nat}
    (same : stem ++ toString number = stem ++ toString other) : number = other := by
  have spelled := congrArg String.toList same
  simp only [String.toList_append] at spelled
  exact Identifier.digits_inj (List.append_cancel_left spelled)

/-- No number behind the last one is in use. -/
def Unused (stem : String) (last : Nat) (inScope : List String) : Prop :=
  ∀ number, last < number → stem ++ toString number ∉ inScope

namespace Unused

variable {stem : String} {last : Nat} {inScope : List String}

theorem mono (unused : Unused stem last inScope) {next : Nat} (later : last ≤ next) :
    Unused stem next inScope :=
  fun number behind => unused number (Nat.lt_of_le_of_lt later behind)

/-- When the next number is bound, the numbers behind it are still unused. -/
theorem next (unused : Unused stem last inScope) :
    Unused stem (last + 1) (inScope ++ [stem ++ toString (last + 1)]) := by
  intro number behind member
  rcases List.mem_append.mp member with inside | new
  · exact unused number (Nat.lt_of_succ_lt behind) inside
  · have same := stem_inj (List.mem_singleton.mp new)
    omega

/-- Aliases of other stems use no number of this one. -/
theorem beside (unused : Unused stem last inScope) {others : List String}
    (other : ∀ aliasName ∈ others, ¬ Stemmed stem aliasName) :
    Unused stem last (inScope ++ others) := by
  intro number behind member
  rcases List.mem_append.mp member with inside | new
  · exact unused number behind inside
  · exact other _ new (Stemmed.self stem _)

end Unused

/-- The aliases with this stem have the numbers behind the first one up to the last one. -/
structure Counts (stem : String) (first last : Nat) (aliases : List String) : Prop where
  ordered : first ≤ last
  listed : aliases.filter (Stemmed stem ·) =
    (List.range' (first + 1) (last - first)).map fun number => stem ++ toString number

namespace Counts

variable {stem : String} {first middle last : Nat} {aliases others : List String}

/-- Aliases of other stems do not move the count. -/
theorem none (other : ∀ aliasName ∈ aliases, ¬ Stemmed stem aliasName) (first : Nat) :
    Counts stem first first aliases := by
  refine ⟨Nat.le_refl first, ?_⟩
  rw [Nat.sub_self, List.range'_zero, List.map_nil, List.filter_eq_nil_iff]
  simpa using other

theorem one (stem : String) (first : Nat) :
    Counts stem first (first + 1) [stem ++ toString (first + 1)] := by
  refine ⟨Nat.le_succ first, ?_⟩
  rw [Nat.add_sub_cancel_left, List.range'_one, List.map_singleton, List.filter_eq_self]
  simpa using Stemmed.self stem _

/-- Aliases that stand one behind the other are counted one behind the other. -/
theorem append (here : Counts stem first middle aliases) (onward : Counts stem middle last others) :
    Counts stem first last (aliases ++ others) := by
  have early := here.ordered
  have late := onward.ordered
  refine ⟨Nat.le_trans early late, ?_⟩
  have start : middle + 1 = first + 1 + (middle - first) := by omega
  have length : last - first = middle - first + (last - middle) := by omega
  rw [List.filter_append, here.listed, onward.listed, start, ← List.map_append,
    List.range'_append_1, ← length]

/-- Counted aliases are distinct. -/
theorem nodup (counts : Counts stem first last aliases) :
    (aliases.filter (Stemmed stem ·)).Nodup := by
  rw [counts.listed]
  exact List.Nodup.map (fun _ _ => stem_inj) (List.nodup_range' ..)

end Counts

end DocumentQuery
