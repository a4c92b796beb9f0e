/-
This file writes string literals of the query dialect.
-/

import DocumentQuery.Text.Hexadecimal

namespace DocumentQuery.Literal

/-- These are the two blocks of control codes of the first 256 characters. -/
def isControl (character : Char) : Bool :=
  character.toNat < 0x20 || (0x7f ≤ character.toNat && character.toNat ≤ 0x9f)

def escape (character : Char) : List Char :=
  match character with
  | '"' => ['\\', '"']
  | '\\' => ['\\', '\\']
  | '\n' => ['\\', 'n']
  | '\r' => ['\\', 'r']
  | '\t' => ['\\', 't']
  | _ =>
      if isControl character then '\\' :: 'u' :: Hexadecimal.four character.toNat
      else [character]

def encode (characters : List Char) : List Char :=
  '"' :: characters.flatMap escape ++ ['"']

def quote (text : String) : String :=
  String.ofList (encode text.toList)

end DocumentQuery.Literal
