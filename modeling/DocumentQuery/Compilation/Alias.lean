/-
This file finds aliases that the enclosing statements do not bind.
-/

namespace DocumentQuery.Alias

def numbered (base : String) (number : Nat) : String :=
  base ++ "_" ++ toString number

/-- A taken number is never tried again, so each round has one alias less to avoid. -/
def firstFree (base : String) (taken : List String) (number : Nat) : String :=
  if numbered base number ∈ taken then
    firstFree base (taken.erase (numbered base number)) (number + 1)
  else numbered base number
termination_by taken.length
decreasing_by
  rename_i member
  have positive := List.length_pos_of_mem member
  rw [List.length_erase_of_mem member]
  omega

/-- The base is kept when it is free. Numbers count up from the depth of the selection. -/
def unique (base : String) (enclosing : List String) (depth : Nat) : String :=
  if base ∈ enclosing then firstFree base enclosing depth else base

end DocumentQuery.Alias
