/-
This file tells the names that stand in query text as they are from those that need quotes.
-/

namespace DocumentQuery.Identifier

def isFirst (character : Char) : Bool :=
  character.isAlpha || character = '_'

def isLater (character : Char) : Bool :=
  character.isAlphanum || character = '_'

/-- A safe identifier is an ASCII letter or underscore followed by letters, digits and
underscores. -/
def isSafe (name : String) : Bool :=
  match name.toList with
  | [] => false
  | first :: rest => isFirst first && rest.all isLater

def keywords : List String :=
  ["AND", "ARRAY", "AS", "ASC", "BETWEEN", "BY", "CASE", "CAST", "CONVERT", "CROSS", "DESC",
    "DISTINCT", "ELSE", "END", "ESCAPE", "EXISTS", "FALSE", "FOR", "FROM", "GROUP", "HAVING",
    "IN", "INNER", "INSERT", "INTO", "IS", "JOIN", "LEFT", "LIKE", "LIMIT", "NOT", "NULL",
    "OFFSET", "ON", "OR", "ORDER", "OUTER", "OVER", "RIGHT", "SELECT", "SET", "THEN", "TOP",
    "TRUE", "UDF", "UNDEFINED", "UPDATE", "VALUE", "WHEN", "WHERE", "WITH"]

/-- Keywords are matched without regard to the case of ASCII letters. -/
def isKeyword (name : String) : Bool :=
  keywords.contains name.toUpper

/-- A plain alias follows `AS` as it is. -/
def isPlain (name : String) : Bool :=
  isSafe name && !isKeyword name

end DocumentQuery.Identifier
