/-
This file defines the types of document values.
-/

namespace DocumentQuery

inductive NamedKind where
  | object
  | scalar
  deriving DecidableEq, Repr

/-- A nullable type may say which absent values it accepts. -/
inductive Absence where
  | nullOnly
  | undefinedOnly
  | either
  deriving DecidableEq, Repr

inductive ValueType where
  | array (element : ValueType)
  | nullable (underlying : ValueType) (absence : Option Absence)
  | named (name : String) (kind : NamedKind)
  deriving DecidableEq, Repr

namespace ValueType

def scalar (name : String) : ValueType :=
  .named name .scalar

def object (name : String) : ValueType :=
  .named name .object

/-- A type that is made nullable accepts null only. -/
def orNull (underlying : ValueType) : ValueType :=
  .nullable underlying (some .nullOnly)

/-- The base is the named type inside every array and nullable wrapper. -/
def base : ValueType → String × NamedKind
  | .array element => element.base
  | .nullable underlying _ => underlying.base
  | .named name kind => (name, kind)

/-- This function removes the outer nullable wrappers. -/
def required : ValueType → ValueType
  | .nullable underlying _ => underlying.required
  | .array element => .array element
  | .named name kind => .named name kind

end ValueType

/-- Every schema has these scalar types. -/
inductive BuiltInScalar where
  | string
  | number
  | integer
  | boolean
  | dateTime
  deriving DecidableEq, Repr

namespace BuiltInScalar

def all : List BuiltInScalar :=
  [.string, .number, .integer, .boolean, .dateTime]

def name : BuiltInScalar → String
  | .string => "String"
  | .number => "Number"
  | .integer => "Integer"
  | .boolean => "Boolean"
  | .dateTime => "DateTime"

def ofName? (name : String) : Option BuiltInScalar :=
  all.find? fun scalar => scalar.name = name

end BuiltInScalar

end DocumentQuery
