/-
This file writes document values as text, on one line or indented.
-/

import DocumentQuery.Json.Basic
import DocumentQuery.Json.Decimal
import DocumentQuery.Text.Hexadecimal

namespace DocumentQuery

def Number.write : Number → String
  | .integer value => toString value
  | .float bits => Json.doubleFormat.write bits

namespace Json

/-- The code of a control character has four digits. -/
def escapeCharacter (character : Char) : List Char :=
  match character with
  | '"' => ['\\', '"']
  | '\\' => ['\\', '\\']
  | '\x08' => ['\\', 'b']
  | '\x0c' => ['\\', 'f']
  | '\n' => ['\\', 'n']
  | '\r' => ['\\', 'r']
  | '\t' => ['\\', 't']
  | _ =>
      if character.toNat < 0x20 then '\\' :: 'u' :: Hexadecimal.four character.toNat
      else [character]

def quote (text : String) : String :=
  String.ofList ('"' :: text.toList.flatMap escapeCharacter ++ ['"'])

mutual

/-- This function appends the text without blanks. -/
def writeCompact (text : String) : Json → String
  | .null => text ++ "null"
  | .bool value => text ++ (if value then "true" else "false")
  | .number value => text ++ value.write
  | .string value => text ++ quote value
  | .array items => writeCompactItems (text ++ "[") true items ++ "]"
  | .object members => writeCompactMembers (text ++ "\x7b") true members ++ "\x7d"

def writeCompactItems (text : String) (first : Bool) : List Json → String
  | [] => text
  | item :: rest =>
      writeCompactItems (writeCompact (if first then text else text ++ ",") item) false rest

def writeCompactMembers (text : String) (first : Bool) : List (String × Json) → String
  | [] => text
  | (name, value) :: rest =>
      writeCompactMembers
        (writeCompact ((if first then text else text ++ ",") ++ quote name ++ ":") value)
        false rest

end

def compact (value : Json) : String :=
  writeCompact "" value

def lineAt (depth : Nat) : String :=
  "\n" ++ String.ofList (List.replicate (2 * depth) ' ')

mutual

/-- Every item and member of a filled array or object has a line of its own. -/
def writeIndented (text : String) (depth : Nat) : Json → String
  | .null => text ++ "null"
  | .bool value => text ++ (if value then "true" else "false")
  | .number value => text ++ value.write
  | .string value => text ++ quote value
  | .array [] => text ++ "[]"
  | .array (item :: rest) =>
      writeIndentedItems
        (writeIndented (text ++ "[" ++ lineAt (depth + 1)) (depth + 1) item) (depth + 1) rest ++
        lineAt depth ++ "]"
  | .object [] => text ++ "\x7b\x7d"
  | .object ((name, value) :: rest) =>
      writeIndentedMembers
        (writeIndented (text ++ "\x7b" ++ lineAt (depth + 1) ++ quote name ++ ": ")
          (depth + 1) value) (depth + 1) rest ++
        lineAt depth ++ "\x7d"

def writeIndentedItems (text : String) (depth : Nat) : List Json → String
  | [] => text
  | item :: rest =>
      writeIndentedItems (writeIndented (text ++ "," ++ lineAt depth) depth item) depth rest

def writeIndentedMembers (text : String) (depth : Nat) : List (String × Json) → String
  | [] => text
  | (name, value) :: rest =>
      writeIndentedMembers
        (writeIndented (text ++ "," ++ lineAt depth ++ quote name ++ ": ") depth value) depth rest

end

def indented (value : Json) : String :=
  writeIndented "" 0 value

end Json

end DocumentQuery
