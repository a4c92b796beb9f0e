/-
This file quotes text for diagnostics, where every character must be told apart by eye.
-/

import DocumentQuery.Text.Invisible

namespace DocumentQuery.Diagnostic

/-- A character without a shape is written by its code. -/
def escape (character : Char) : List Char :=
  match character with
  | '"' => ['\\', '"']
  | '\\' => ['\\', '\\']
  | '\n' => ['\\', 'n']
  | '\r' => ['\\', 'r']
  | '\t' => ['\\', 't']
  | '\x00' => ['\\', '0']
  | _ =>
      if Invisible.isInvisible character then
        ['\\', 'u', '\x7b'] ++ Nat.toDigits 16 character.toNat ++ ['\x7d']
      else [character]

def quote (text : String) : String :=
  String.ofList ('"' :: text.toList.flatMap escape ++ ['"'])

end DocumentQuery.Diagnostic
