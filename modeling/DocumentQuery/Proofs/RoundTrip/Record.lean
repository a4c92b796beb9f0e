/-
This file proves that records and tagged values are taken apart into the fields they were written
with, and what a reader of one field gives for the whole record.
-/

import DocumentQuery.Proofs.RoundTrip.Document

namespace DocumentQuery.Source

variable {Value : Type}

/-- The names are declared, and none of them is repeated. -/
def Declares (declared names : List String) : Prop :=
  (∀ name ∈ names, name ∈ declared) ∧ names.Nodup

instance (declared names : List String) : Decidable (Declares declared names) :=
  inferInstanceAs (Decidable (_ ∧ _))

/-- The variant declares the names, and none of them is that of the tag. -/
def Variants.Lists (variants : Variants) (tag : String) (names : List String) : Prop :=
  (variants.entry? tag).isSome ∧ Declares ((variants.entry? tag).getD []) names ∧ tagName ∉ names

instance (variants : Variants) (tag : String) (names : List String) :
    Decidable (variants.Lists tag names) :=
  inferInstanceAs (Decidable (_ ∧ _ ∧ _))

/-- A written record has the names of its members. -/
theorem Fields.names_written (members : Table Json) : (written members).names = members.names := by
  rw [Table.names, written, List.map_map]
  rfl

theorem Fields.entry_written (members : Table Json) (name : String) :
    Table.entry? (written members) name = (members.entry? name).map Json.toSource :=
  Table.entry_map members Json.toSource name

/-- Fields that are declared and not repeated are taken as they are. -/
theorem Fields.ofMembers?_written {declared : List String} {members : Table Json}
    (listed : Declares declared members.names) :
    ofMembers? declared (written members) = some (written members) := by
  have all : (written members).filter (fun member => declared.contains member.1) =
      written members := by
    refine List.filter_eq_self.mpr fun member inside => ?_
    rw [List.contains_iff_mem]
    exact listed.1 _ (names_written members ▸ List.mem_map_of_mem inside)
  have distinct : (written members).names.Nodup := names_written members ▸ listed.2
  rw [ofMembers?]
  simp only [all]
  exact if_pos distinct

/-- A written record is taken apart into its fields. -/
theorem record?_written {declared : List String} {members : Table Json}
    (listed : Declares declared members.names) :
    record? declared (Json.object members).toSource = some (Fields.written members) := by
  have read := members?_written members
  rw [Json.toSource] at read ⊢
  rw [record?, read]
  · exact Fields.ofMembers?_written listed
  · intro items same
    cases same

/-- The tag is told from the fields by its name, whatever the fields hold. -/
theorem Fields.tag_apart (tag : String) {members : Table Json}
    (untagged : tagName ∉ members.names) :
    (written ((tagName, .string tag) :: members)).filter (fun member => member.1 = tagName) =
        [(tagName, .string (some tag))] ∧
      (written ((tagName, .string tag) :: members)).filter (fun member => member.1 ≠ tagName) =
        written members := by
  have others : ∀ member ∈ written members, member.1 ≠ tagName := by
    intro member inside same
    exact untagged (same ▸ names_written members ▸ List.mem_map_of_mem inside)
  constructor
  · rw [written, List.map_cons, List.filter_cons_of_pos (by simp)]
    exact congrArg _ (List.filter_eq_nil_iff.mpr fun member inside =>
      by simpa using others member inside)
  · rw [written, List.map_cons, List.filter_cons_of_neg (by simp)]
    exact List.filter_eq_self.mpr fun member inside => by simpa using others member inside

/-- A tagged value is taken apart into its tag and its fields. -/
theorem variant?_written {variants : Variants} (tagged : Bool) {tag : String}
    {members : Table Json} {room : Nat} (listed : variants.Lists tag members.names)
    (fits : (Json.object ((tagName, .string tag) :: members)).height ≤ room) :
    variant? variants tagged room (Json.object ((tagName, .string tag) :: members)).toSource =
      some (tag, Fields.written members) := by
  obtain ⟨known, declared, untagged⟩ := listed
  obtain ⟨names, found⟩ := Option.isSome_iff_exists.mp known
  rw [found, Option.getD_some] at declared
  -- A tagged value outside another one is read as a whole first, and there is room for that.
  obtain ⟨whole, reads⟩ := json?_reads fits
  obtain ⟨alone, rest⟩ := Fields.tag_apart tag untagged
  have read := members?_written ((tagName, .string tag) :: members)
  rw [Json.toSource] at reads read ⊢
  simp only [variant?, reads, read, alone, rest, Option.isNone_some, Bool.and_false,
    Bool.false_eq_true, if_false, Option.bind_eq_bind, Option.bind_some, Variants.tag?, found,
    Option.map_some, Fields.ofMembers?_written declared, Option.pure_def]

/-- A reader goes on with what its first step reads. -/
theorem reads_next {First Second : Type} {first : Option First} {value : First}
    {next : First → Option Second} {result : Second} (reads : first = some value)
    (continued : next value = some result) : (first >>= next) = some result := by
  rw [reads]
  exact continued

/-- Each member of the record fits into the room. -/
def Fits (room : Nat) (members : Table Json) : Prop :=
  ∀ member ∈ members, member.2.height ≤ room

section Forms

variable {read : Nat → Source → Option Value} {members : Table Json} {room : Nat} {value : Value}

/-- A reader restores a tagged value when it makes the value of the fields, in the room that the
value leaves to them. -/
theorem restores_tagged {tag : String} (variants : Variants) (tagged : Bool) (names : List String)
    (listed : variants.Lists tag names) (named : members.names = names)
    (reads : ∀ smaller < room, Fits smaller members →
      variant? variants tagged (smaller + 1)
          (Json.object ((tagName, .string tag) :: members)).toSource =
        some (tag, Fields.written members) →
      read (smaller + 1) (Json.object ((tagName, .string tag) :: members)).toSource = some value) :
    Restores read room (.object ((tagName, .string tag) :: members)) value := by
  intro fits
  cases room with
  | zero => exact absurd fits (Nat.not_succ_le_zero _)
  | succ smaller =>
      have inside := Json.heightOfMembers_le_iff.mp (Nat.le_of_succ_le_succ fits)
      exact reads smaller smaller.lt_succ_self (List.forall_mem_cons.mp inside).2
        (variant?_written tagged (named ▸ listed) fits)

/-- A reader restores a record when it makes the value of the fields, in the room left to them. -/
theorem restores_record (declared names : List String) (listed : Declares declared names)
    (named : members.names = names)
    (reads : ∀ smaller < room, Fits smaller members →
      record? declared (Json.object members).toSource = some (Fields.written members) →
      read (smaller + 1) (Json.object members).toSource = some value) :
    Restores read room (.object members) value := by
  intro fits
  cases room with
  | zero => exact absurd fits (Nat.not_succ_le_zero _)
  | succ smaller =>
      exact reads smaller smaller.lt_succ_self
        (Json.heightOfMembers_le_iff.mp (Nat.le_of_succ_le_succ fits))
        (record?_written (named ▸ listed))

end Forms

/-- A source that is not null is read as a value that is there. -/
theorem optional?_filled {read : Source → Option Value} {source : Source}
    (filled : source ≠ .null) : optional? read (some source) = (read source).map some := by
  cases source with
  | null => exact absurd rfl filled
  | bool | number | string | array | object => rfl

section Written

variable {read : Nat → Source → Option Value} {members : Table Json} {room : Nat} {form : Json}
  {value : Value}

/-- A member that is found fits into the room. -/
theorem Fits.entry (fits : Fits room members) {name : String}
    (found : Table.entry? members name = some form) : form.height ≤ room :=
  fits _ (Table.mem_of_entry found)

/-- A required field is read back. -/
theorem Fields.required?_written (name : String) (fits : Fits room members)
    (found : Table.entry? members name = some form) (restores : Restores read room form value) :
    (written members).required? name (read room) = some value := by
  rw [required?, entry_written, found]
  exact restores (fits.entry found)

/-- A field with a default is read back, whether its value is the default or not. -/
theorem Fields.withDefault?_written (name : String) (default : Value) (fits : Fits room members)
    (found : Table.entry? members name = some form) (restores : Restores read room form value) :
    (written members).withDefault? name default (read room) = some value := by
  rw [withDefault?, entry_written, found]
  exact restores (fits.entry found)

/-- An optional field is read back when its value is not written as null. -/
theorem Fields.optional?_present (name : String) (fits : Fits room members)
    (found : Table.entry? members name = some form) (filled : form ≠ .null)
    (restores : Restores read room form value) :
    (written members).optional? name (read room) = some (some value) := by
  rw [optional?, entry_written, found, Option.map_some,
    optional?_filled (Json.toSource_ne_null filled), restores (fits.entry found), Option.map_some]

/-- Null stands for an absent value, so no value may be written as null. -/
theorem Fields.optional?_written {build : Value → Json} {content : Option Value} (name : String)
    (fits : Fits room members)
    (found : Table.entry? members name = some (Json.ofOption build content))
    (filled : ∀ value, build value ≠ .null)
    (restores : ∀ value ∈ content, Restores read room (build value) value) :
    (written members).optional? name (read room) = some content := by
  cases content with
  | none =>
      rw [optional?, entry_written, found]
      rfl
  | some value => exact optional?_present name fits found (filled value) (restores value rfl)

/-- An optional field that is left out is read as missing. -/
theorem Fields.optional?_absent {read : Source → Option Value} (name : String)
    (absent : Table.entry? members name = none) :
    (written members).optional? name read = some none := by
  rw [optional?, entry_written, absent]
  rfl

end Written

namespace Fields

variable {fields : Fields} {name : String} {read : Source → Option Value} {property : Value → Prop}

/-- A required field has what its reader yields. -/
theorem required?_yields {value : Value} (yields : Yields read property)
    (found : fields.required? name read = some value) : property value := by
  obtain ⟨source, _, one⟩ := Option.bind_eq_some_iff.mp found
  exact yields source value one

/-- A field with a default has what its reader yields and the default has. -/
theorem withDefault?_yields {value default : Value} (yields : Yields read property)
    (always : property default) (found : fields.withDefault? name default read = some value) :
    property value := by
  rw [withDefault?] at found
  split at found
  next => exact Option.some.inj found ▸ always
  next source _ => exact yields source value found

/-- An optional field has what its reader yields when it is there. -/
theorem optional?_yields {content : Option Value} (yields : Yields read property)
    (found : fields.optional? name read = some content) : ∀ value ∈ content, property value := by
  rintro value rfl
  unfold optional? Source.optional? at found
  split at found
  next => cases found
  next => cases found
  next =>
    obtain ⟨other, one, same⟩ := Option.map_eq_some_iff.mp found
    cases same
    exact yields _ value one

end Fields

end DocumentQuery.Source
