/-
This file defines the trees of the query dialect and the tokens they are written with.
-/

import DocumentQuery.Proofs.Dialect.Scanner
import DocumentQuery.Statement.Rendering

namespace DocumentQuery.Dialect

/-- An operand is a column, a parameter or a joined variable. -/
inductive Operand where
  | path (column : Path)
  | parameter (name : String)
  | variable (name : String)

/-- A bare search selects the number one itself, and any other search selects its value. -/
inductive Condition where
  | all (conditions : List Condition)
  | any (conditions : List Condition)
  | not (condition : Condition)
  | existsIn (bare : Bool) (aliasName : String) (source : Path) (condition : Option Condition)
  | compare (operator : String) (left right : Operand)
  | call (function : String) (operands : List Operand)

/-- An aggregate is a function of a column, a count of its distinct values or a count of whole
documents. -/
inductive AggregateCall where
  | call (function : String) (column : Path)
  | distinctCount (column : Path)
  | countAll

/-- A page has an offset and a limit. -/
structure Clauses where
  origin : Option Origin
  joins : List Join
  condition : Option Condition
  sortKeys : Option (List SortKey)
  page : Option (Nat × Nat)

mutual

/-- A path may fall back to null. A query in an item gives an array or a single value. -/
inductive Item where
  | path (column : Path)
  | orNull (column : Path)
  | aggregate (call : AggregateCall)
  | array (query : Query)
  | single (query : Query)

/-- An item has no alias when it is the value itself. -/
structure Query where
  form : ProjectionForm
  items : List (Option String × Item)
  clauses : Clauses

end

instance : Inhabited Condition := ⟨.all []⟩

namespace Condition

/-- A connective of one condition is that condition. -/
def connect (connective : List Condition → Condition) : List Condition → Condition
  | [condition] => condition
  | conditions => connective conditions

mutual

/-- No connective anywhere in an unwrapped condition has one condition. -/
def unwrapped : Condition → Condition
  | .all conditions => connect .all (unwrappedEach conditions)
  | .any conditions => connect .any (unwrappedEach conditions)
  | .not condition => .not condition.unwrapped
  | .existsIn bare aliasName source none => .existsIn bare aliasName source none
  | .existsIn bare aliasName source (some condition) =>
      .existsIn bare aliasName source (some condition.unwrapped)
  | .compare operator left right => .compare operator left right
  | .call function operands => .call function operands

def unwrappedEach : List Condition → List Condition
  | [] => []
  | condition :: rest => condition.unwrapped :: unwrappedEach rest

end

end Condition

def Clauses.unwrapped (clauses : Clauses) : Clauses :=
  { clauses with condition := clauses.condition.map Condition.unwrapped }

mutual

def Item.unwrapped : Item → Item
  | .path column => .path column
  | .orNull column => .orNull column
  | .aggregate call => .aggregate call
  | .array query => .array query.unwrapped
  | .single query => .single query.unwrapped

/-- No connective anywhere in an unwrapped query has one condition. -/
def Query.unwrapped : Query → Query
  | ⟨form, items, clauses⟩ => ⟨form, unwrappedItems items, clauses.unwrapped⟩

def unwrappedItems : List (Option String × Item) → List (Option String × Item)
  | [] => []
  | (aliasName, item) :: rest => (aliasName, item.unwrapped) :: unwrappedItems rest

end

/-- The separator stands between the parts. -/
def joined (separator : Token) : List (List Token) → List Token
  | [] => []
  | first :: rest => first ++ rest.flatMap fun part => separator :: part

def grouped (tokens : List Token) : List Token :=
  .mark '(' :: tokens ++ [.mark ')']

/-- A property that is a keyword is a literal in brackets. -/
def propertyTokens (name : String) : List Token :=
  if Identifier.isKeyword name then [.mark '[', .literal name, .mark ']']
  else [.mark '.', .word name]

def pathTokens (path : Path) : List Token :=
  .word path.aliasName :: path.fields.flatMap propertyTokens

def Operand.tokens : Operand → List Token
  | .path column => pathTokens column
  | .parameter name => [.word name]
  | .variable name => [.word variablesAlias, .mark '[', .literal name, .mark ']']

namespace Condition

/-- Each part of a connective is grouped, and the empty connective is a constant. -/
def connectiveTokens (separator constant : String) : List (List Token) → List Token
  | [] => [.word constant]
  | parts => joined (.word separator) (parts.map grouped)

/-- A search is opened by its projection, its alias and its source. -/
def searchTokens (bare : Bool) (aliasName : String) (source : Path) : List Token :=
  .word "SELECT" :: (if bare then [] else [.word "VALUE"]) ++
    [.word "1", .word "FROM", .word aliasName, .word "IN"] ++ pathTokens source

mutual

def tokens : Condition → List Token
  | .all conditions => connectiveTokens "AND" "true" (tokensEach conditions)
  | .any conditions => connectiveTokens "OR" "false" (tokensEach conditions)
  | .not condition => .word "NOT" :: grouped condition.tokens
  | .existsIn bare aliasName source none =>
      .word "EXISTS" :: grouped (searchTokens bare aliasName source)
  | .existsIn bare aliasName source (some condition) =>
      .word "EXISTS" ::
        grouped (searchTokens bare aliasName source ++ .word "WHERE" :: condition.tokens)
  | .compare operator left right => left.tokens ++ .operator operator :: right.tokens
  | .call function operands =>
      .word function :: grouped (joined (.mark ',') (operands.map Operand.tokens))

def tokensEach : List Condition → List (List Token)
  | [] => []
  | condition :: rest => condition.tokens :: tokensEach rest

end

end Condition

def AggregateCall.tokens : AggregateCall → List Token
  | .call function column => .word function :: grouped (pathTokens column)
  | .distinctCount column => .word "DISTINCT" :: .word "COUNT" :: grouped (pathTokens column)
  | .countAll => [.word "COUNT", .mark '(', .word "1", .mark ')']

def originTokens : Origin → List Token
  | .container name aliasName => [.word name, .word aliasName]
  | .aliased source aliasName => pathTokens source ++ [.word "AS", .word aliasName]
  | .iterated source aliasName => [.word aliasName, .word "IN"] ++ pathTokens source

def joinTokens (join : Join) : List Token :=
  [.word "JOIN", .word join.aliasName, .word "IN", .mark '(', .word "SELECT", .word "VALUE",
    .word join.parameter, .mark ')']

def sortKeyTokens (key : SortKey) : List Token :=
  pathTokens key.column ++ [.word (if key.descending then "DESC" else "ASC")]

/-- An optional clause starts with its keywords. -/
def clauseTokens {Content : Type} (keywords : List String) (contentTokens : Content → List Token) :
    Option Content → List Token
  | none => []
  | some content => keywords.map .word ++ contentTokens content

def pageTokens (page : Nat × Nat) : List Token :=
  [.word page.1.repr, .word "LIMIT", .word page.2.repr]

/-- The clauses have their tokens in the order of the dialect. -/
def Clauses.tokens (clauses : Clauses) : List Token :=
  clauseTokens ["FROM"] originTokens clauses.origin ++ clauses.joins.flatMap joinTokens ++
    clauseTokens ["WHERE"] Condition.tokens clauses.condition ++
      clauseTokens ["ORDER", "BY"] (fun keys => joined (.mark ',') (keys.map sortKeyTokens))
        clauses.sortKeys ++
        clauseTokens ["OFFSET"] pageTokens clauses.page

/-- The items of each form are written between these tokens. -/
def columnsTokens (form : ProjectionForm) (parts : List (List Token)) : List Token :=
  match form with
  | .empty => [.word "VALUE", .mark '\x7b', .mark '\x7d']
  | .values => .word "VALUE" :: joined (.mark ',') parts
  | .aliased => joined (.mark ',') parts
  | .keyed => .word "VALUE" :: .mark '\x7b' :: joined (.mark ',') parts ++ [.mark '\x7d']

/-- An alias stands behind its item or, as a literal, in front of it. -/
def entryTokens (form : ProjectionForm) (aliasName : Option String) (tokens : List Token) :
    List Token :=
  match form, aliasName with
  | .aliased, some aliasName => tokens ++ [.word "AS", .word aliasName]
  | .keyed, some aliasName => .literal aliasName :: .mark ':' :: tokens
  | _, _ => tokens

mutual

/-- An array that is no bare value is grouped. -/
def Item.tokens (form : ProjectionForm) : Item → List Token
  | .path column => pathTokens column
  | .orNull column => pathTokens column ++ [.operator "??", .word "null"]
  | .aggregate call => call.tokens
  | .array query =>
      if form = .values then .word "ARRAY" :: grouped query.tokens
      else grouped (.word "ARRAY" :: grouped query.tokens)
  | .single query => grouped query.tokens

/-- A query has its columns in front of its clauses. -/
def Query.tokens : Query → List Token
  | ⟨form, items, clauses⟩ =>
      .word "SELECT" :: columnsTokens form (tokensOfItems form items) ++ clauses.tokens

def tokensOfItems (form : ProjectionForm) : List (Option String × Item) → List (List Token)
  | [] => []
  | (aliasName, item) :: rest =>
      entryTokens form aliasName (item.tokens form) :: tokensOfItems form rest

end

end DocumentQuery.Dialect
