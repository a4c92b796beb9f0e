/-
This file defines drafts: the text of a statement so far with the values bound in it.
-/

import DocumentQuery.Identifier
import DocumentQuery.Json.Basic
import DocumentQuery.Text.Literal

namespace DocumentQuery

structure Parameter where
  name : String
  value : Json
  deriving DecidableEq

def Parameter.toJson (parameter : Parameter) : Json :=
  .object [("name", .string parameter.name), ("value", parameter.value)]

/-- Each key holds the values that were compared under it, without repetition. -/
structure Draft where
  text : String := ""
  bound : Table (List Json) := []
  elements : Nat := 0

namespace Draft

def write (draft : Draft) (text : String) : Draft :=
  { draft with text := draft.text ++ text }

def writeLiteral (draft : Draft) (text : String) : Draft :=
  draft.write (Literal.quote text)

/-- A keyword is no name after a dot, so it stands in brackets. -/
def writeProperty (draft : Draft) (name : String) : Draft :=
  if Identifier.isKeyword name then draft.write "[" |>.writeLiteral name |>.write "]"
  else draft.write ("." ++ name)

/-- A key keeps ASCII letters and digits and replaces every other character. -/
def cleanKey (key : String) : String :=
  key.map fun character => if character.isAlphanum then character else '_'

/-- Sameness of values decides whether a value is bound already. -/
def position? (values : List Json) (value : Json) : Option Nat :=
  values.findIdx? fun other => other.Same value

def parameterName (key : String) (index : Nat) : String :=
  "@" ++ key ++ "_" ++ toString index

/-- This function binds a value under a key that is clean already. -/
def bindValue (draft : Draft) (key : String) (value : Json) : Draft × Nat :=
  let values := draft.bound.entry? key |>.getD []
  match position? values value with
  | some index => (draft, index)
  | none => ({ draft with bound := draft.bound.put key (values ++ [value]) }, values.length)

def writeParameter (draft : Draft) (key : String) (value : Json) : Draft :=
  let (next, index) := draft.bindValue (cleanKey key) value
  next.write (parameterName (cleanKey key) index)

/-- Elements are numbered from one, and a number is given out once. -/
def nextElement (draft : Draft) : String × Draft :=
  ("array_element_" ++ toString (draft.elements + 1), { draft with elements := draft.elements + 1 })

/-- This function writes the items with a separator between them. -/
def writeEach {Item : Type} (draft : Draft) (separator : String)
    (writeItem : Draft → Item → Draft) : List Item → Draft
  | [] => draft
  | [item] => writeItem draft item
  | item :: rest => writeEach ((writeItem draft item).write separator) separator writeItem rest

def parametersOf (key : String) (values : List Json) : List Parameter :=
  values.mapIdx fun index value => ⟨parameterName key index, value⟩

/-- Parameters are listed key by key in the order of first use. -/
def parameters (draft : Draft) : List Parameter :=
  draft.bound.flatMap fun (key, values) => parametersOf key values

end Draft

end DocumentQuery
