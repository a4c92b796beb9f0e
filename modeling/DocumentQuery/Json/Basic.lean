/-
This file defines document values and the equality under which values share a parameter.
-/

import DocumentQuery.Table

namespace DocumentQuery

/-- A number is an integer or the bits of a finite double. -/
inductive Number where
  | integer (value : Int)
  | float (bits : UInt64)
  deriving DecidableEq, Repr

/-- The two zeros of the doubles have one canonical form. -/
def Number.canonical : Number → Number
  | .integer value => .integer value
  | .float bits => if bits = 0x8000000000000000 then .float 0 else .float bits

/-- Objects keep the order of their members. -/
inductive Json where
  | null
  | bool (value : Bool)
  | number (value : Number)
  | string (value : String)
  | array (items : List Json)
  | object (members : List (String × Json))
  deriving Inhabited

namespace Json

mutual

def decideEqual : (left right : Json) → Decidable (left = right)
  | .null, .null => isTrue rfl
  | .bool left, .bool right => decidable_of_iff (left = right) (by simp)
  | .number left, .number right => decidable_of_iff (left = right) (by simp)
  | .string left, .string right => decidable_of_iff (left = right) (by simp)
  | .array left, .array right =>
      letI := decideEqualItems left right
      decidable_of_iff (left = right) (by simp)
  | .object left, .object right =>
      letI := decideEqualMembers left right
      decidable_of_iff (left = right) (by simp)
  | .null, .bool _ | .null, .number _ | .null, .string _ | .null, .array _ | .null, .object _
  | .bool _, .null | .bool _, .number _ | .bool _, .string _ | .bool _, .array _
  | .bool _, .object _ | .number _, .null | .number _, .bool _ | .number _, .string _
  | .number _, .array _ | .number _, .object _ | .string _, .null | .string _, .bool _
  | .string _, .number _ | .string _, .array _ | .string _, .object _ | .array _, .null
  | .array _, .bool _ | .array _, .number _ | .array _, .string _ | .array _, .object _
  | .object _, .null | .object _, .bool _ | .object _, .number _ | .object _, .string _
  | .object _, .array _ => isFalse (by simp)

def decideEqualItems : (left right : List Json) → Decidable (left = right)
  | [], [] => isTrue rfl
  | first :: left, second :: right =>
      letI := decideEqual first second
      letI := decideEqualItems left right
      decidable_of_iff (first = second ∧ left = right) (by simp)
  | [], _ :: _ | _ :: _, [] => isFalse (by simp)

def decideEqualMembers : (left right : List (String × Json)) → Decidable (left = right)
  | [], [] => isTrue rfl
  | (name, first) :: left, (other, second) :: right =>
      letI := decideEqual first second
      letI := decideEqualMembers left right
      decidable_of_iff (name = other ∧ first = second ∧ left = right) (by simp [and_assoc])
  | [], _ :: _ | _ :: _, [] => isFalse (by simp)

end

instance : DecidableEq Json := decideEqual

mutual

/-- The height counts the arrays and objects around the deepest leaf. -/
def height : Json → Nat
  | .array items => heightOfItems items + 1
  | .object members => heightOfMembers members + 1
  | .null | .bool _ | .number _ | .string _ => 0

def heightOfItems : List Json → Nat
  | [] => 0
  | item :: rest => max item.height (heightOfItems rest)

def heightOfMembers : List (String × Json) → Nat
  | [] => 0
  | (_, value) :: rest => max value.height (heightOfMembers rest)

end

/-- This function adds a member before the first member with a larger name. -/
def insertMember (name : String) (value : Json) : List (String × Json) → List (String × Json)
  | [] => [(name, value)]
  | (other, old) :: rest =>
      if other < name then (other, old) :: insertMember name value rest
      else (name, value) :: (other, old) :: rest

mutual

/-- The canonical form sorts the members of every object and has one zero double. -/
def canonical : Json → Json
  | .array items => .array (canonicalItems items)
  | .object members => .object (canonicalMembers members)
  | .number value => .number value.canonical
  | .null => .null
  | .bool value => .bool value
  | .string value => .string value

def canonicalItems : List Json → List Json
  | [] => []
  | item :: rest => item.canonical :: canonicalItems rest

def canonicalMembers : List (String × Json) → List (String × Json)
  | [] => []
  | (name, value) :: rest => insertMember name value.canonical (canonicalMembers rest)

end

/-- Two values are the same when they differ only in member order and in the sign of zero. -/
def Same (left right : Json) : Prop :=
  left.canonical = right.canonical

instance (left right : Json) : Decidable (Same left right) :=
  inferInstanceAs (Decidable (_ = _))

def member? (name : String) : Json → Option Json
  | .object members => Table.entry? members name
  | _ => none

def integer (value : Int) : Json :=
  .number (.integer value)

end Json

end DocumentQuery
