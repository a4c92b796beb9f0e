/-
This file splits text of the query dialect into words, operators, marks and literals.
-/

import DocumentQuery.Identifier
import DocumentQuery.Json.Source
import DocumentQuery.Text.Literal

namespace DocumentQuery.Dialect

/-- A word is a name, a keyword, a number or a parameter. A literal is held without its quotes and
escapes. -/
inductive Token where
  | word (text : String)
  | operator (text : String)
  | mark (character : Char)
  | literal (text : String)
  deriving DecidableEq

/-- A word has letters, digits, underscores and the sign of a parameter. -/
def isWordPart (character : Char) : Bool :=
  Identifier.isLater character || character = '@'

/-- An operator is a run of these characters. -/
def isOperatorPart (character : Char) : Bool :=
  "!<=>?".toList.contains character

/-- A mark is a token of its own. -/
def isMark (character : Char) : Bool :=
  "()[]\x7b\x7d.,:".toList.contains character

/-- Runs are held in reverse. A literal is read as the strings of documents are. -/
inductive Scanner.Mode where
  | between
  | word (run : List Char)
  | operator (run : List Char)
  | literal (run : List Source.Piece)
  | escape (run : List Source.Piece)
  | code (run : List Source.Piece) (value : Nat) (missing : Nat)

/-- The tokens before the current run are held in reverse. -/
structure Scanner where
  tokens : List Token := []
  mode : Scanner.Mode := .between

namespace Scanner

/-- This function ends the current word or operator. -/
def ended? (scanner : Scanner) : Option (List Token) :=
  match scanner.mode with
  | .between => some scanner.tokens
  | .word run => some (.word (String.ofList run.reverse) :: scanner.tokens)
  | .operator run => some (.operator (String.ofList run.reverse) :: scanner.tokens)
  | .literal _ | .escape _ | .code .. => none

/-- A word and an operator end where a character of another kind begins. -/
def stepOutside? (scanner : Scanner) (character : Char) : Option Scanner := do
  if isWordPart character then
    match scanner.mode with
    | .word run => return ⟨scanner.tokens, .word (character :: run)⟩
    | _ => return ⟨← scanner.ended?, .word [character]⟩
  else if isOperatorPart character then
    match scanner.mode with
    | .operator run => return ⟨scanner.tokens, .operator (character :: run)⟩
    | _ => return ⟨← scanner.ended?, .operator [character]⟩
  else if isMark character then return ⟨.mark character :: (← scanner.ended?), .between⟩
  else if character = '"' then return ⟨← scanner.ended?, .literal []⟩
  else if Source.Scanner.isBlank character then return ⟨← scanner.ended?, .between⟩
  else none

/-- A literal has no raw control character. -/
def step? (scanner : Scanner) (character : Char) : Option Scanner :=
  match scanner.mode with
  | .between | .word _ | .operator _ => scanner.stepOutside? character
  | .literal run =>
      if character = '"' then
        (Source.Piece.join run.reverse).map fun characters =>
          ⟨.literal (String.ofList characters) :: scanner.tokens, .between⟩
      else if character = '\\' then some ⟨scanner.tokens, .escape run⟩
      else if Literal.isControl character then none
      else some ⟨scanner.tokens, .literal (.character character :: run)⟩
  | .escape run =>
      if character = 'u' then some ⟨scanner.tokens, .code run 0 4⟩
      else (Source.unescape? character).map fun value =>
        ⟨scanner.tokens, .literal (.character value :: run)⟩
  | .code run value missing =>
      (Hexadecimal.value? character).map fun digit =>
        if missing = 1 then ⟨scanner.tokens, .literal (.ofCode (value * 16 + digit) :: run)⟩
        else ⟨scanner.tokens, .code run (value * 16 + digit) (missing - 1)⟩

/-- The scanner fails at the first character that no token has. -/
def run? (scanner : Scanner) (characters : List Char) : Option Scanner :=
  characters.foldlM step? scanner

end Scanner

def tokens? (text : String) : Option (List Token) := do
  let scanner ← Scanner.run? {} text.toList
  return (← scanner.ended?).reverse

end DocumentQuery.Dialect
