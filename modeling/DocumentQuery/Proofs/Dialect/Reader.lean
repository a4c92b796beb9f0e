/-
This file reads the trees of the query dialect from tokens and text.
-/

import DocumentQuery.Proofs.Dialect.Tree

namespace DocumentQuery.Dialect

/-- A reader takes a value from the front of the tokens and leaves the others. -/
abbrev Reader (Value : Type) := List Token → Option (Value × List Token)

/-- Keywords are matched without regard to case. -/
def Token.isKeyword (keyword : String) : Token → Bool
  | .word text => text.toUpper = keyword
  | .operator _ | .mark _ | .literal _ => false

/-- This function takes one keyword from the front. -/
def keyword? (keyword : String) : List Token → Option (List Token)
  | token :: rest => if token.isKeyword keyword then some rest else none
  | [] => none

/-- This function takes one mark from the front. -/
def mark? (character : Char) : List Token → Option (List Token)
  | token :: rest => if token = .mark character then some rest else none
  | [] => none

def word? (accepts : String → Bool) : Reader String
  | .word text :: rest => if accepts text then some (text, rest) else none
  | _ => none

/-- A keyword is no name. -/
def name? : Reader String :=
  word? Identifier.isPlain

/-- A parameter starts with an at sign. -/
def isParameter (text : String) : Bool :=
  match text.toList with
  | '@' :: name => name.all Identifier.isLater
  | _ => false

def isNumber (text : String) : Bool :=
  !text.isEmpty && text.toList.all Char.isDigit

def number? (tokens : List Token) : Option (Nat × List Token) := do
  let (text, rest) ← word? isNumber tokens
  return (Nat.ofDigitChars 10 text.toList 0, rest)

def literal? : Reader String
  | .literal text :: rest => some (text, rest)
  | _ => none

/-- A group stands in parentheses. -/
def groupOf? {Value : Type} (reader : Reader Value) : Reader Value := fun tokens => do
  let (value, rest) ← reader (← mark? '(' tokens)
  return (value, ← mark? ')' rest)

/-- This reader takes items with a separator between them, as many as there are. -/
def separatedWithin? {Value : Type} (isSeparator : Token → Bool) (item : Reader Value) :
    Nat → Reader (List Value)
  | 0, _ => none
  | room + 1, tokens => do
      let (first, rest) ← item tokens
      match rest with
      | next :: later =>
          if isSeparator next then
            let (others, rest) ← separatedWithin? isSeparator item room later
            return (first :: others, rest)
          else return ([first], next :: later)
      | [] => return ([first], [])

def separated? {Value : Type} (isSeparator : Token → Bool) (item : Reader Value) :
    Reader (List Value) :=
  fun tokens => separatedWithin? isSeparator item (tokens.length + 1) tokens

def listed? {Value : Type} (item : Reader Value) : Reader (List Value) :=
  separated? (· = .mark ',') item

/-- The reader is used only behind its keyword. -/
def optional? {Value : Type} (keyword : String) (reader : Reader Value) :
    Reader (Option Value) := fun tokens =>
  match keyword? keyword tokens with
  | none => some (none, tokens)
  | some rest => (reader rest).map fun (value, rest) => (some value, rest)

/-- A property follows a dot as a name or stands in brackets as a literal. -/
def properties? : Reader (List String)
  | .mark '.' :: .word name :: rest =>
      if Identifier.isPlain name then
        (properties? rest).map fun (names, rest) => (name :: names, rest)
      else none
  | .mark '[' :: .literal name :: .mark ']' :: rest =>
      (properties? rest).map fun (names, rest) => (name :: names, rest)
  | .mark '.' :: _ | .mark '[' :: _ => none
  | tokens => some ([], tokens)

def path? : Reader Path := fun tokens => do
  let (aliasName, rest) ← name? tokens
  let (fields, rest) ← properties? rest
  return (⟨aliasName, fields⟩, rest)

/-- A property of the joined variables is a variable. -/
def Operand.ofPath (path : Path) : Operand :=
  match path.fields with
  | [name] => if path.aliasName = variablesAlias then .variable name else .path path
  | _ => .path path

def operand? : Reader Operand := fun tokens =>
  match word? isParameter tokens with
  | some (name, rest) => some (.parameter name, rest)
  | none => (path? tokens).map fun (path, rest) => (.ofPath path, rest)

/-- These operators stand between their operands. -/
def comparisonOperators : List String :=
  ["=", "!=", ">", "<", ">=", "<="]

def comparisonOperator? : Reader String
  | .operator text :: rest => if comparisonOperators.contains text then some (text, rest) else none
  | _ => none

namespace Condition

def comparison? : Reader Condition := fun tokens => do
  let (left, rest) ← operand? tokens
  let (operator, rest) ← comparisonOperator? rest
  let (right, rest) ← operand? rest
  return (.compare operator left right, rest)

/-- A call has a function and a list of operands in parentheses. -/
def call? : Reader Condition := fun tokens => do
  let (function, rest) ← name? tokens
  let (operands, rest) ← groupOf? (listed? operand?) rest
  return (.call function operands, rest)

/-- A search selects the number one or its value. -/
def search? (inner : Reader Condition) : Reader Condition := fun tokens => do
  let rest ← keyword? "SELECT" tokens
  let (valued, rest) ← optional? "VALUE" number? rest
  let (one, rest) ← match valued with
    | some number => some (number, rest)
    | none => number? rest
  if one ≠ 1 then none
  let (aliasName, rest) ← name? (← keyword? "FROM" rest)
  let (source, rest) ← path? (← keyword? "IN" rest)
  let (condition, rest) ← optional? "WHERE" inner rest
  return (.existsIn valued.isNone aliasName source condition, rest)

/-- A primary condition has no connective outside of groups. -/
def primary? (inner : Reader Condition) : Reader Condition
  | .mark '(' :: rest => groupOf? inner (.mark '(' :: rest)
  | .word text :: rest =>
      match text.toUpper with
      | "TRUE" => some (.all [], rest)
      | "FALSE" => some (.any [], rest)
      | "EXISTS" => groupOf? (search? inner) rest
      | _ =>
          match rest with
          | .mark '(' :: _ => call? (.word text :: rest)
          | _ => comparison? (.word text :: rest)
  | _ => none

/-- Each negation takes one unit of the room. -/
def negation? (inner : Reader Condition) : Nat → Reader Condition
  | 0, _ => none
  | room + 1, tokens =>
      match keyword? "NOT" tokens with
      | some rest => (negation? inner room rest).map fun (condition, rest) => (.not condition, rest)
      | none => primary? inner tokens

/-- A conjunction binds its conditions more tightly than a disjunction. -/
def conjunction? (inner : Reader Condition) (room : Nat) : Reader Condition := fun tokens => do
  let (conditions, rest) ← separated? (Token.isKeyword "AND") (negation? inner room) tokens
  return (connect .all conditions, rest)

def disjunction? (inner : Reader Condition) (room : Nat) : Reader Condition := fun tokens => do
  let (conditions, rest) ← separated? (Token.isKeyword "OR") (conjunction? inner room) tokens
  return (connect .any conditions, rest)

/-- Each group of conditions takes one unit of the room. -/
def within? : Nat → Reader Condition
  | 0 => fun _ => none
  | room + 1 => disjunction? (within? room) (room + 1)

end Condition

/-- No condition has more groups than tokens. -/
def condition? : Reader Condition := fun tokens =>
  Condition.within? tokens.length tokens

/-- An origin is an aliased path, the elements of a path or a container. -/
def origin? : Reader Origin := fun tokens => do
  let (path, rest) ← path? tokens
  match keyword? "AS" rest with
  | some rest =>
      let (aliasName, rest) ← name? rest
      return (.aliased path aliasName, rest)
  | none =>
      if path.fields ≠ [] then none
      match keyword? "IN" rest with
      | some rest =>
          let (source, rest) ← path? rest
          return (.iterated source path.aliasName, rest)
      | none =>
          let (aliasName, rest) ← name? rest
          return (.container path.aliasName aliasName, rest)

def joinParameter? : Reader String := fun tokens => do
  word? isParameter (← keyword? "VALUE" (← keyword? "SELECT" tokens))

/-- A join selects the value of one parameter. -/
def join? : Reader Join := fun tokens => do
  let (aliasName, rest) ← name? tokens
  let (parameter, rest) ← groupOf? joinParameter? (← keyword? "IN" rest)
  return (⟨aliasName, parameter⟩, rest)

def joinsWithin? : Nat → Reader (List Join)
  | 0, _ => none
  | room + 1, tokens =>
      match keyword? "JOIN" tokens with
      | none => some ([], tokens)
      | some rest => do
          let (join, rest) ← join? rest
          let (others, rest) ← joinsWithin? room rest
          return (join :: others, rest)

def joins? : Reader (List Join) := fun tokens =>
  joinsWithin? (tokens.length + 1) tokens

/-- The ascending direction may be left out. -/
def sortKey? : Reader SortKey := fun tokens => do
  let (path, rest) ← path? tokens
  match keyword? "DESC" rest with
  | some rest => return (⟨path, true⟩, rest)
  | none => return (⟨path, false⟩, (keyword? "ASC" rest).getD rest)

def sortKeys? : Reader (List SortKey) := fun tokens => do
  listed? sortKey? (← keyword? "BY" tokens)

def page? : Reader (Nat × Nat) := fun tokens => do
  let (offset, rest) ← number? tokens
  let (limit, rest) ← number? (← keyword? "LIMIT" rest)
  return ((offset, limit), rest)

/-- Every clause may be missing. -/
def clauses? : Reader Clauses := fun tokens => do
  let (origin, rest) ← optional? "FROM" origin? tokens
  let (joins, rest) ← joins? rest
  let (condition, rest) ← optional? "WHERE" condition? rest
  let (sortKeys, rest) ← optional? "ORDER" sortKeys? rest
  let (page, rest) ← optional? "OFFSET" page? rest
  return (⟨origin, joins, condition, sortKeys, page⟩, rest)

def countedAll? : Reader AggregateCall
  | .word "1" :: rest => some (.countAll, rest)
  | _ => none

/-- The number one stands for whole documents, which are only counted. -/
def aggregate? : Reader AggregateCall := fun tokens =>
  match keyword? "DISTINCT" tokens with
  | some rest => do
      let (column, rest) ← groupOf? path? (← keyword? "COUNT" rest)
      return (.distinctCount column, rest)
  | none => do
      let (function, rest) ← name? tokens
      match groupOf? countedAll? rest with
      | some (all, rest) => if function.toUpper = "COUNT" then return (all, rest) else none
      | none =>
          let (column, rest) ← groupOf? path? rest
          return (.call function column, rest)

section Items

variable (inner : Reader Query)

def array? : Reader Item := fun tokens => do
  let (query, rest) ← groupOf? inner (← keyword? "ARRAY" tokens)
  return (.array query, rest)

/-- A path may be followed by the null it falls back to. -/
def column? : Reader Item := fun tokens => do
  let (path, rest) ← path? tokens
  match rest with
  | .operator "??" :: rest => return (.orNull path, ← keyword? "NULL" rest)
  | _ => return (.path path, rest)

def single? : Reader Item := fun tokens => do
  let (query, rest) ← inner tokens
  return (.single query, rest)

/-- A group holds a query or an array. -/
def expression? : Reader Item := fun tokens =>
  match mark? '(' tokens, keyword? "ARRAY" tokens with
  | some rest, _ =>
      if (keyword? "ARRAY" rest).isSome then groupOf? (array? inner) tokens
      else groupOf? (single? inner) tokens
  | none, some _ => array? inner tokens
  | none, none => column? tokens

/-- An aggregate is a word before a group, perhaps after the word that makes it distinct. -/
def startsAggregate : List Token → Bool
  | first :: second :: _ =>
      first.isKeyword "DISTINCT" ||
        (second = .mark '(' && first ≠ .mark '(' && !first.isKeyword "ARRAY")
  | _ => false

def item? : Reader Item := fun tokens =>
  if startsAggregate tokens then
    (aggregate? tokens).map fun (aggregate, rest) => (.aggregate aggregate, rest)
  else expression? inner tokens

def aliased? : Reader (Option String × Item) := fun tokens => do
  let (item, rest) ← item? inner tokens
  let (aliasName, rest) ← name? (← keyword? "AS" rest)
  return ((some aliasName, item), rest)

def member? : Reader (Option String × Item) := fun tokens => do
  let (aliasName, rest) ← literal? tokens
  let (item, rest) ← expression? inner (← mark? ':' rest)
  return ((some aliasName, item), rest)

def value? : Reader (Option String × Item) := fun tokens => do
  let (item, rest) ← expression? inner tokens
  return ((none, item), rest)

/-- Aggregates are items with an alias only. -/
def columns? : Reader (ProjectionForm × List (Option String × Item)) := fun tokens =>
  match keyword? "VALUE" tokens with
  | none => (listed? (aliased? inner) tokens).map fun (items, rest) => ((.aliased, items), rest)
  | some (.mark '\x7b' :: .mark '\x7d' :: rest) => some ((.empty, []), rest)
  | some (.mark '\x7b' :: rest) => do
      let (members, rest) ← listed? (member? inner) rest
      return ((.keyed, members), ← mark? '\x7d' rest)
  | some rest => (value? inner rest).map fun (item, rest) => ((.values, [item]), rest)

end Items

/-- Each query inside another takes one unit of the room. -/
def queryWithin? : Nat → Reader Query
  | 0 => fun _ => none
  | room + 1 => fun tokens => do
      let ((form, items), rest) ← columns? (queryWithin? room) (← keyword? "SELECT" tokens)
      let (clauses, rest) ← clauses? rest
      return (⟨form, items, clauses⟩, rest)

def query? : Reader Query := fun tokens =>
  queryWithin? tokens.length tokens

/-- A text is read when a query takes all of its tokens. -/
def read? (text : String) : Option Query := do
  let (query, rest) ← query? (← tokens? text)
  if rest.isEmpty then return query else none

end DocumentQuery.Dialect
