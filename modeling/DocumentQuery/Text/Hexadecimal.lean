/-
This file writes and reads the hexadecimal digits of character codes.
-/

namespace DocumentQuery.Hexadecimal

/-- Digits are written in lower case. -/
def digit (value : Nat) : Char :=
  Nat.digitChar (value % 16)

def four (code : Nat) : List Char :=
  [digit (code / 4096), digit (code / 256), digit (code / 16), digit code]

def value? (character : Char) : Option Nat :=
  if '0' ≤ character ∧ character ≤ '9' then some (character.toNat - '0'.toNat)
  else if 'a' ≤ character ∧ character ≤ 'f' then some (character.toNat - 'a'.toNat + 10)
  else if 'A' ≤ character ∧ character ≤ 'F' then some (character.toNat - 'A'.toNat + 10)
  else none

end DocumentQuery.Hexadecimal
