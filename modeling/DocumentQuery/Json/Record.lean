/-
This file reads records, tagged values and named choices from the text form of a document.
-/

import DocumentQuery.Json.Source

namespace DocumentQuery

namespace Source

/-- The room is the number of arrays and objects that may still be opened. A repeated member keeps
its place and takes the later value. -/
def json? : Nat → Source → Option Json
  | _, .null => some .null
  | _, .bool value => some (.bool value)
  | _, .number value => value.map .number
  | _, .string value => value.map .string
  | room + 1, .array items => (items.mapM (json? room)).map .array
  | room + 1, .object members =>
      (members.mapM fun ((name, value) : Option String × Source) => do
        return (← name, ← json? room value)).map
          fun entries => .object (Table.ofEntries entries)
  | 0, .array _ | 0, .object _ => none

/-- A text may open this many arrays and objects inside one another. -/
def textRoom : Nat := 127

def string? : Source → Option String
  | .string value => value
  | _ => none

def bool? : Source → Option Bool
  | .bool value => some value
  | _ => none

def word? : Source → Option UInt32
  | .number (some (.integer value)) =>
      if 0 ≤ value ∧ value.toNat < UInt32.size then some (UInt32.ofNat value.toNat) else none
  | _ => none

/-- The members of an object are read only when every name denotes a string. -/
def members? : Source → Option (List (String × Source))
  | .object members => members.mapM fun (name, value) => name.map (·, value)
  | _ => none

def listOf? {Value : Type} (read : Nat → Source → Option Value) :
    Nat → Source → Option (List Value)
  | room + 1, .array items => items.mapM (read room)
  | _, _ => none

def tableOf? {Value : Type} (read : Nat → Source → Option Value) :
    Nat → Source → Option (Table Value)
  | room + 1, source => do
      let entries ← (← source.members?).mapM fun (name, value) => do
        return (name, ← read room value)
      return Table.ofEntries entries
  | 0, _ => none

/-- A missing value and a null value are both absent. -/
def optional? {Value : Type} (read : Source → Option Value) :
    Option Source → Option (Option Value)
  | none => some none
  | some .null => some none
  | some source => (read source).map some

/-- The fields of a record are the members that it declares. -/
abbrev Fields := Table Source

namespace Fields

def required? {Value : Type} (fields : Fields) (name : String)
    (read : Source → Option Value) : Option Value := do
  read (← fields.entry? name)

def optional? {Value : Type} (fields : Fields) (name : String)
    (read : Source → Option Value) : Option (Option Value) :=
  Source.optional? read <| fields.entry? name

def withDefault? {Value : Type} (fields : Fields) (name : String) (default : Value)
    (read : Source → Option Value) : Option Value :=
  match fields.entry? name with
  | none => some default
  | some source => read source

/-- Members of other names are skipped, and a declared name appears once at most. -/
def ofMembers? (names : List String) (members : List (String × Source)) : Option Fields :=
  let declared := members.filter fun member => names.contains member.1
  if (declared.map Prod.fst).Nodup then some declared else none

/-- The values of an array belong to the declared names in order. -/
def ofItems? (names : List String) (items : List Source) : Option Fields :=
  if items.length ≤ names.length then some (names.zip items) else none

end Fields

/-- A record is an object or an array of its leading fields. -/
def record? (names : List String) : Source → Option Fields
  | .array items => Fields.ofItems? names items
  | source => do Fields.ofMembers? names (← source.members?)

/-- The variants of a tagged value are listed with the fields that each of them declares. -/
abbrev Variants := Table (List String)

namespace Variants

/-- Inside another tagged value, the position of a variant may stand for its name. -/
def tag? (variants : Variants) (tagged : Bool) : Source → Option (String × List String)
  | .string (some name) => variants.entry? name |>.map (name, ·)
  | .number (some (.integer position)) =>
      if tagged ∧ 0 ≤ position then variants[position.toNat]? else none
  | _ => none

end Variants

def tagName : String := "type"

/-- A tagged value is an object with one tag among its members or an array that begins with the
tag. The outermost one is read as a whole before its variant is known. -/
def variant? (variants : Variants) (tagged : Bool) (room : Nat) (source : Source) :
    Option (String × Fields) := do
  if !tagged && (source.json? room).isNone then none
  else match source with
    | .array (tag :: items) =>
        let (name, names) ← variants.tag? tagged tag
        return (name, ← Fields.ofItems? names items)
    | .object _ =>
        let members ← source.members?
        match members.filter fun member => member.1 = tagName with
        | [(_, tag)] =>
            let (name, names) ← variants.tag? tagged tag
            return (name, ← Fields.ofMembers? names
              (members.filter fun member => member.1 ≠ tagName))
        | _ => none
    | _ => none

/-- A choice is its name, or an object whose only member has that name and no content. Inside a
tagged value the content may also be an empty object. -/
def choice? {Value : Type} (choices : Table Value) (tagged : Bool) (room : Nat) :
    Source → Option Value
  | .string name => do choices.entry? (← name)
  | .object [(name, content)] =>
      match content with
      | .null => if room = 0 then none else do choices.entry? (← name)
      | .object [] => if tagged then do choices.entry? (← name) else none
      | _ => none
  | _ => none

end Source

end DocumentQuery
