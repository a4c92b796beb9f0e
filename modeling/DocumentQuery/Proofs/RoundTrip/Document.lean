/-
This file proves that a document value, a list or a table is read back from its written form, and
that what is read has distinct names in every table.
-/

import DocumentQuery.Json.Build
import DocumentQuery.Json.Record
import DocumentQuery.Proofs.Table

namespace DocumentQuery

namespace Json

/-- The members of every object inside the value have distinct names. -/
inductive Keyed : Json → Prop
  | null : Keyed .null
  | bool (value : Bool) : Keyed (.bool value)
  | number (value : Number) : Keyed (.number value)
  | string (value : String) : Keyed (.string value)
  | array {items : List Json} (each : ∀ item ∈ items, Keyed item) : Keyed (.array items)
  | object {members : List (String × Json)} (distinct : Table.Distinct members)
      (each : ∀ member ∈ members, Keyed member.2) : Keyed (.object members)

/-- Items fit into the room when each of them does. -/
theorem heightOfItems_le_iff {items : List Json} {room : Nat} :
    heightOfItems items ≤ room ↔ ∀ item ∈ items, item.height ≤ room := by
  induction items with
  | nil => simp [heightOfItems]
  | cons item rest continued =>
      rw [heightOfItems, Nat.max_le, List.forall_mem_cons, continued]

/-- Members fit into the room when each of their values does. -/
theorem heightOfMembers_le_iff {members : List (String × Json)} {room : Nat} :
    heightOfMembers members ≤ room ↔ ∀ member ∈ members, member.2.height ≤ room := by
  induction members with
  | nil => simp [heightOfMembers]
  | cons member rest continued =>
      obtain ⟨name, value⟩ := member
      rw [heightOfMembers, Nat.max_le, List.forall_mem_cons, continued]

theorem itemsToSource_eq (items : List Json) : itemsToSource items = items.map toSource := by
  induction items with
  | nil => rfl
  | cons item rest continued => rw [itemsToSource, continued, List.map_cons]

/-- The members of an object are written one by one under their names. -/
theorem membersToSource_eq (members : List (String × Json)) :
    membersToSource members = members.map fun member => (some member.1, member.2.toSource) := by
  induction members with
  | nil => rfl
  | cons member rest continued =>
      obtain ⟨name, value⟩ := member
      rw [membersToSource, continued, List.map_cons]

/-- Only null is written as null. -/
theorem toSource_ne_null {value : Json} (filled : value ≠ .null) : value.toSource ≠ .null := by
  cases value with
  | null => exact absurd rfl filled
  | bool | number | string | array | object => nofun

end Json

namespace Source

section Steps

variable {Item Result : Type} {step : Item → Option Result} {items : List Item}
  {results : List Result}

/-- A step over a list succeeds when it succeeds at each item. -/
theorem mapM_eq_some_iff :
    items.mapM step = some results ↔
      List.Forall₂ (fun item result => step item = some result) items results := by
  induction items generalizing results with
  | nil => simp [eq_comm]
  | cons item rest continued =>
      simp only [List.mapM_cons, Option.bind_eq_bind, Option.bind_eq_some_iff, Option.pure_def,
        Option.some.injEq, List.forall₂_cons_left_iff, continued]
      constructor
      · rintro ⟨result, one, others, more, rfl⟩
        exact ⟨result, others, one, more, rfl⟩
      · rintro ⟨result, others, one, more, rfl⟩
        exact ⟨result, one, others, more, rfl⟩

/-- Each result of a step over a list comes from one of its items. -/
theorem mem_of_mapM (stepped : items.mapM step = some results) :
    ∀ result ∈ results, ∃ item ∈ items, step item = some result := by
  rw [mapM_eq_some_iff] at stepped
  induction stepped with
  | nil => exact List.forall_mem_nil _
  | @cons item result rest others one _ continued =>
      refine List.forall_mem_cons.mpr ⟨⟨item, List.mem_cons_self, one⟩, fun other member => ?_⟩
      obtain ⟨found, inside, stepped⟩ := continued other member
      exact ⟨found, List.mem_cons_of_mem item inside, stepped⟩

/-- A step that accepts every item accepts the list. -/
theorem mapM_accepts (accepted : ∀ item ∈ items, ∃ result, step item = some result) :
    ∃ results, items.mapM step = some results := by
  induction items with
  | nil => exact ⟨[], rfl⟩
  | cons item rest continued =>
      obtain ⟨⟨result, one⟩, later⟩ := List.forall_mem_cons.mp accepted
      obtain ⟨results, more⟩ := continued later
      exact ⟨result :: results, by rw [List.mapM_cons, one, more]; rfl⟩

end Steps

variable {Value : Type}

/-- The reader gives the value back from its written form when there is room for the form. -/
def Restores (read : Nat → Source → Option Value) (room : Nat) (written : Json) (value : Value) :
    Prop :=
  written.height ≤ room → read room written.toSource = some value

/-- Every value that the reader accepts has the property. -/
def Yields (read : Source → Option Value) (property : Value → Prop) : Prop :=
  ∀ source value, read source = some value → property value

/-- These are the fields of a written record. -/
def Fields.written (members : Table Json) : Fields :=
  members.map fun member => (member.1, member.2.toSource)

/-- An array is read item by item, with less room for the items. -/
theorem json?_array (room : Nat) (items : List Json) :
    json? (room + 1) (Json.array items).toSource =
      (items.mapM fun item => json? room item.toSource).map .array := by
  rw [Json.toSource, json?, Json.itemsToSource_eq, List.mapM_map]
  rfl

/-- An object is read member by member, with less room for the values. -/
theorem json?_object (room : Nat) (members : List (String × Json)) :
    json? (room + 1) (Json.object members).toSource =
      (members.mapM fun member => (json? room member.2.toSource).map (member.1, ·)).map
        fun entries => .object (Table.ofEntries entries) := by
  rw [Json.toSource, json?, Json.membersToSource_eq, List.mapM_map]
  congr 2
  funext member
  exact Option.map_eq_bind.symm

/-- Every value can be read when there is room for it. -/
theorem json?_reads : ∀ {room : Nat} {value : Json}, value.height ≤ room →
    ∃ found, json? room value.toSource = some found
  | _, .null, _ | _, .bool _, _ | _, .number _, _ | _, .string _, _ => by
      simp [Json.toSource, json?]
  | 0, .array _, fits | 0, .object _, fits => absurd fits (Nat.not_succ_le_zero _)
  | room + 1, .array items, fits => by
      have inside := Json.heightOfItems_le_iff.mp (Nat.le_of_succ_le_succ fits)
      obtain ⟨results, read⟩ := mapM_accepts fun item member => json?_reads (inside item member)
      exact ⟨.array results, by rw [json?_array, read, Option.map_some]⟩
  | room + 1, .object members, fits => by
      have inside := Json.heightOfMembers_le_iff.mp (Nat.le_of_succ_le_succ fits)
      obtain ⟨entries, read⟩ := mapM_accepts fun (member : String × Json) listed =>
        have ⟨found, read⟩ := json?_reads (inside member listed)
        ⟨(member.1, found), Option.map_eq_some_iff.mpr ⟨found, read, rfl⟩⟩
      exact ⟨.object (Table.ofEntries entries), by rw [json?_object, read, Option.map_some]⟩

/-- The induction is on the value. A value with distinct names is read back from its own form. -/
theorem json?_restores : ∀ {room : Nat} {value : Json}, value.Keyed →
    Restores json? room value value
  | _, .null, _, _ | _, .bool _, _, _ | _, .number _, _, _ | _, .string _, _, _ => by
      simp [Json.toSource, json?]
  | 0, .array _, _, fits | 0, .object _, _, fits => absurd fits (Nat.not_succ_le_zero _)
  | room + 1, .array items, .array each, fits => by
      have inside := Json.heightOfItems_le_iff.mp (Nat.le_of_succ_le_succ fits)
      have read : items.mapM (fun item => json? room item.toSource) = some items :=
        mapM_eq_some_iff.mpr <| List.forall₂_same.mpr fun item member =>
          json?_restores (each item member) (inside item member)
      rw [json?_array, read, Option.map_some]
  | room + 1, .object members, .object distinct each, fits => by
      have inside := Json.heightOfMembers_le_iff.mp (Nat.le_of_succ_le_succ fits)
      have read : members.mapM (fun member =>
          (json? room member.2.toSource).map (member.1, ·)) = some members :=
        mapM_eq_some_iff.mpr <| List.forall₂_same.mpr fun member listed =>
          have restored := json?_restores (each member listed) (inside member listed)
          Option.map_eq_some_iff.mpr ⟨member.2, restored, rfl⟩
      rw [json?_object, read, Option.map_some, Table.ofEntries_distinct distinct]

/-- A repeated member of the source keeps one place in the value. -/
theorem json?_keyed : ∀ room : Nat, Yields (json? room) Json.Keyed
  | _, .null, _, read => by
      rw [json?, Option.some.injEq] at read
      exact read ▸ .null
  | _, .bool value, _, read => by
      rw [json?, Option.some.injEq] at read
      exact read ▸ .bool value
  | _, .number _, _, read => by
      rw [json?, Option.map_eq_some_iff] at read
      obtain ⟨number, _, rfl⟩ := read
      exact .number number
  | _, .string _, _, read => by
      rw [json?, Option.map_eq_some_iff] at read
      obtain ⟨text, _, rfl⟩ := read
      exact .string text
  | 0, .array _, _, read | 0, .object _, _, read => by
      cases read
  | room + 1, .array items, _, read => by
      rw [json?, Option.map_eq_some_iff] at read
      obtain ⟨values, each, rfl⟩ := read
      refine .array fun value member => ?_
      obtain ⟨item, _, one⟩ := mem_of_mapM each value member
      exact json?_keyed room item value one
  | room + 1, .object members, _, read => by
      rw [json?, Option.map_eq_some_iff] at read
      obtain ⟨entries, each, rfl⟩ := read
      refine .object (Table.distinct_ofEntries entries) fun entry listed => ?_
      obtain ⟨⟨_, source⟩, _, one⟩ := mem_of_mapM each entry (Table.mem_of_mem_ofEntries listed)
      simp only [Option.bind_eq_bind, Option.bind_eq_some_iff, Option.pure_def,
        Option.some.injEq] at one
      obtain ⟨_, _, value, read, rfl⟩ := one
      exact json?_keyed room source value read

theorem string?_restores (room : Nat) (text : String) :
    Restores (fun _ => string?) room (.string text) text :=
  fun _ => rfl

theorem bool?_restores (room : Nat) (value : Bool) :
    Restores (fun _ => bool?) room (.bool value) value :=
  fun _ => rfl

/-- A number of 32 bits is read back, because it is written in digits only. -/
theorem word?_restores (room : Nat) (value : UInt32) :
    Restores (fun _ => word?) room (.ofWord value) value := by
  intro _
  have inside : 0 ≤ (value.toNat : Int) ∧ (value.toNat : Int).toNat < UInt32.size :=
    ⟨Int.natCast_nonneg _, value.toNat_lt⟩
  exact (if_pos inside).trans (congrArg some value.ofNat_toNat)

/-- A choice is read back from its text. -/
theorem choice?_restores {choices : Table Value} {text : String} {value : Value} (tagged : Bool)
    (room : Nat) (found : choices.entry? text = some value) :
    Restores (choice? choices tagged) room (.string text) value :=
  fun _ => found

variable {read : Nat → Source → Option Value} {build : Value → Json} {room : Nat}

/-- A list is read back when each of its items is. -/
theorem listOf?_restores {values : List Value}
    (each : ∀ smaller < room, ∀ value ∈ values, Restores read smaller (build value) value) :
    Restores (listOf? read) room (.ofList build values) values := by
  intro fits
  cases room with
  | zero => exact absurd fits (Nat.not_succ_le_zero _)
  | succ room =>
      have inside := Json.heightOfItems_le_iff.mp (Nat.le_of_succ_le_succ fits)
      rw [Json.ofList, Json.toSource, listOf?, Json.itemsToSource_eq, List.map_map]
      refine mapM_eq_some_iff.mpr (List.forall₂_map_left_iff.mpr (List.forall₂_same.mpr ?_))
      intro value member
      exact each room room.lt_succ_self value member (inside _ (List.mem_map_of_mem member))

/-- A property that every item has is one of all items of a list that is read. -/
theorem listOf?_yields {property : Value → Prop}
    (yields : ∀ smaller < room, Yields (read smaller) property) :
    Yields (listOf? read room) fun values => ∀ value ∈ values, property value := by
  intro source values found value member
  cases room with
  | zero => cases found
  | succ room =>
      cases source with
      | array items =>
          obtain ⟨item, _, one⟩ := mem_of_mapM found value member
          exact yields room room.lt_succ_self item value one
      | null | bool | number | string | object => cases found

/-- A written object has the fields of its members. -/
theorem members?_written (members : List (String × Json)) :
    (Json.object members).toSource.members? = some (Fields.written members) := by
  rw [Json.toSource, Json.membersToSource_eq, members?, List.mapM_map]
  refine mapM_eq_some_iff.mpr (List.forall₂_map_right_iff.mpr (List.forall₂_same.mpr ?_))
  exact fun member _ => rfl

/-- A table is read entry by entry, with less room for the entries. -/
theorem tableOf?_succ (source : Source) :
    tableOf? read (room + 1) source =
      (source.members?.bind fun members =>
        members.mapM fun entry => (read room entry.2).map (entry.1, ·)).map Table.ofEntries := by
  simp only [tableOf?, Option.map_eq_bind, Option.bind_eq_bind, Option.bind_assoc, Option.pure_def,
    Function.comp_def]

/-- A table with distinct names is read back when each of its entries is. -/
theorem tableOf?_restores {table : Table Value} (distinct : table.Distinct)
    (each : ∀ smaller < room, ∀ entry ∈ table, Restores read smaller (build entry.2) entry.2) :
    Restores (tableOf? read) room (.ofTable build table) table := by
  intro fits
  cases room with
  | zero => exact absurd fits (Nat.not_succ_le_zero _)
  | succ room =>
      have inside := Json.heightOfMembers_le_iff.mp (Nat.le_of_succ_le_succ fits)
      have entries : (Fields.written (table.map fun entry => (entry.1, build entry.2))).mapM
          (fun entry => (read room entry.2).map (entry.1, ·)) = some table := by
        rw [Fields.written, List.map_map]
        refine mapM_eq_some_iff.mpr (List.forall₂_map_left_iff.mpr (List.forall₂_same.mpr ?_))
        intro entry member
        have restored := each room room.lt_succ_self entry member
          (inside _ (List.mem_map_of_mem member))
        exact Option.map_eq_some_iff.mpr ⟨entry.2, restored, rfl⟩
      rw [tableOf?_succ, Json.ofTable, members?_written, Option.bind_some, entries, Option.map_some,
        Table.ofEntries_distinct distinct]

/-- A table of document values is written as the object that it is. -/
theorem documents_restore {table : Table Json} (keyed : table.Keyed Json.Keyed) :
    Restores (tableOf? json?) room (.object table) table := by
  have written : Json.object table = .ofTable id table := by
    simp [Json.ofTable]
  rw [written]
  exact tableOf?_restores keyed.1 fun smaller _ entry member =>
    json?_restores (keyed.2 entry member)

/-- A table that is read has distinct names, and its entries have what each of them yields. -/
theorem tableOf?_yields {property : Value → Prop}
    (yields : ∀ smaller < room, Yields (read smaller) property) :
    Yields (tableOf? read room) (Table.Keyed property) := by
  intro source table found
  cases room with
  | zero => cases found
  | succ room =>
      rw [tableOf?_succ, Option.map_eq_some_iff] at found
      obtain ⟨entries, found, rfl⟩ := found
      obtain ⟨members, _, each⟩ := Option.bind_eq_some_iff.mp found
      refine ⟨Table.distinct_ofEntries entries, fun entry listed => ?_⟩
      obtain ⟨member, _, one⟩ := mem_of_mapM each entry (Table.mem_of_mem_ofEntries listed)
      obtain ⟨value, read, rfl⟩ := Option.map_eq_some_iff.mp one
      exact yields room room.lt_succ_self member.2 value read

/-- Whatever is chosen is one of the choices. -/
theorem choice?_yields {choices : Table Value} {tagged : Bool} {property : Value → Prop}
    (each : ∀ entry ∈ choices, property entry.2) :
    Yields (choice? choices tagged room) property := by
  have named : ∀ (name : Option String) (value : Value),
      (do choices.entry? (← name)) = some value → property value := by
    intro name value found
    obtain ⟨_, _, found⟩ := Option.bind_eq_some_iff.mp found
    exact each _ (Table.mem_of_entry found)
  intro source value found
  unfold choice? at found
  split at found
  next => exact named _ value found
  next =>
    split at found
    next =>
      split at found
      next => cases found
      next => exact named _ value found
    next =>
      split at found
      next => exact named _ value found
      next => cases found
    next => cases found
  next => cases found

end Source

end DocumentQuery
