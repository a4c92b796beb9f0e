/-
This file states what a look-up in a table finds and how tables are compared.
-/

import DocumentQuery.Table
import Mathlib.Data.List.Forall2

namespace DocumentQuery.Table

variable {Value : Type}

@[simp] theorem entry_first (rest : Table Value) (name : String) (value : Value) :
    entry? ((name, value) :: rest) name = some value := by
  unfold entry?
  rw [List.lookup_cons_self]

/-- An entry of another name is passed over. -/
theorem entry_later (rest : Table Value) {first name : String} (value : Value)
    (different : name ≠ first) : entry? ((first, value) :: rest) name = entry? rest name := by
  have unequal : (name == first) = false := by simp [different]
  unfold entry?
  rw [List.lookup_cons, unequal]

/-- What a look-up finds is an entry of the table. -/
theorem mem_of_entry {table : Table Value} {name : String} {value : Value}
    (found : table.entry? name = some value) : (name, value) ∈ table := by
  obtain ⟨before, after, rfl, _⟩ := List.lookup_eq_some_iff.mp found
  simp

/-- A table lists exactly the names that a look-up finds. -/
theorem mem_names_iff {table : Table Value} {name : String} :
    name ∈ table.names ↔ ∃ value, table.entry? name = some value := by
  constructor
  · intro member
    induction table with
    | nil => cases member
    | cons entry rest continued =>
        obtain ⟨first, value⟩ := entry
        by_cases same : name = first
        · subst same
          exact ⟨value, entry_first rest name value⟩
        · rw [entry_later rest value same]
          exact continued ((List.mem_cons.mp member).resolve_left same)
  · rintro ⟨value, found⟩
    exact List.mem_map.mpr ⟨_, mem_of_entry found, rfl⟩

/-- Values can be changed before or after the look-up. -/
theorem entry_map {Other : Type} (table : Table Value) (change : Value → Other) (name : String) :
    entry? (table.map fun entry => (entry.1, change entry.2)) name =
      (table.entry? name).map change := by
  induction table with
  | nil => rfl
  | cons entry rest continued =>
      obtain ⟨first, value⟩ := entry
      by_cases same : name = first
      · subst same
        rw [List.map_cons, entry_first, entry_first, Option.map_some]
      · rw [List.map_cons, entry_later _ _ same, entry_later _ _ same, continued]

/-- Among distinct names, every entry is found under its name. -/
theorem entry_of_mem {table : Table Value} (distinct : table.Distinct) {name : String}
    {value : Value} (member : (name, value) ∈ table) : table.entry? name = some value := by
  induction table with
  | nil => cases member
  | cons entry rest continued =>
      obtain ⟨first, old⟩ := entry
      obtain ⟨absent, others⟩ := List.nodup_cons.mp distinct
      rcases List.mem_cons.mp member with same | inside
      · cases same
        rw [entry_first]
      · have different : name ≠ first := by
          rintro rfl
          exact absent (List.mem_map.mpr ⟨_, inside, rfl⟩)
        rw [entry_later rest old different, continued others inside]

/-- A value that was put is found under its name. -/
theorem entry_put (table : Table Value) (name : String) (value : Value) :
    entry? (table.put name value) name = some value := by
  induction table with
  | nil => rw [put, entry_first]
  | cons entry rest continued =>
      obtain ⟨first, old⟩ := entry
      unfold put
      split
      next same =>
        subst same
        rw [entry_first]
      next different => rw [entry_later _ old (Ne.symm different), continued]

/-- Putting a value leaves the other names alone. -/
theorem entry_put_other (table : Table Value) {name other : String} (value : Value)
    (different : other ≠ name) : entry? (table.put name value) other = table.entry? other := by
  induction table with
  | nil => rw [put, entry_later [] value different]
  | cons entry rest continued =>
      obtain ⟨first, old⟩ := entry
      unfold put
      split
      next same =>
        subst same
        rw [entry_later rest value different, entry_later rest old different]
      next =>
        by_cases here : other = first
        · subst here
          rw [entry_first, entry_first]
        · rw [entry_later _ old here, entry_later rest old here, continued]

/-- A table that is built from names has the value of each one, however often it is listed. -/
theorem entry_ofEntries {names : List String} {name : String} (value : String → Value)
    (listed : name ∈ names) :
    entry? (ofEntries (names.map fun name => (name, value name))) name = some (value name) := by
  have built : ∀ (names : List String) (table : Table Value),
      name ∈ names ∨ table.entry? name = some (value name) →
        entry? (names.foldl (fun table name => table.put name (value name)) table) name =
          some (value name) := by
    intro names
    induction names with
    | nil => exact fun table found => found.resolve_left List.not_mem_nil
    | cons first rest continued =>
        intro table found
        apply continued
        by_cases same : name = first
        · subst same
          exact .inr (entry_put table name (value name))
        · rw [entry_put_other table (value first) same]
          exact found.imp_left fun member => (List.mem_cons.mp member).resolve_left same
  unfold ofEntries
  rw [List.foldl_map]
  exact built names [] (.inl listed)

/-- Putting a value adds its name and drops none. -/
theorem mem_names_put {table : Table Value} {name other : String} {value : Value} :
    other ∈ (table.put name value).names ↔ other = name ∨ other ∈ table.names := by
  induction table with
  | nil => simp [put, names]
  | cons entry rest continued =>
      obtain ⟨first, old⟩ := entry
      unfold put
      split
      next same =>
        subst same
        simp [names]
      next =>
        unfold names at continued ⊢
        rw [List.map_cons, List.mem_cons, continued, List.map_cons, List.mem_cons, or_left_comm]

/-- Putting a value keeps the names distinct. -/
theorem distinct_put {table : Table Value} (distinct : table.Distinct) (name : String)
    (value : Value) : (table.put name value).Distinct := by
  induction table with
  | nil => simp [put, Distinct, names]
  | cons entry rest continued =>
      obtain ⟨first, old⟩ := entry
      obtain ⟨absent, others⟩ := List.nodup_cons.mp distinct
      unfold put
      split
      next => exact distinct
      next different =>
        refine List.nodup_cons.mpr ⟨?_, continued others⟩
        intro member
        rcases mem_names_put.mp member with same | inside
        · exact different same
        · exact absent inside

/-- An entry is the one that was put or stood in the table before. -/
theorem mem_of_mem_put {table : Table Value} {name : String} {value : Value}
    {entry : String × Value} (member : entry ∈ table.put name value) :
    entry = (name, value) ∨ entry ∈ table := by
  induction table with
  | nil => exact .inl (List.mem_singleton.mp member)
  | cons first rest continued =>
      obtain ⟨other, old⟩ := first
      unfold put at member
      split at member
      next same =>
        subst same
        exact (List.mem_cons.mp member).imp_right (List.mem_cons_of_mem _)
      next =>
        rcases List.mem_cons.mp member with here | later
        · exact .inr (List.mem_cons.mpr (.inl here))
        · exact (continued later).imp_right (List.mem_cons_of_mem _)

/-- A table has no entry that was not put into it. -/
theorem mem_of_mem_ofEntries {entries : List (String × Value)} {entry : String × Value}
    (member : entry ∈ ofEntries entries) : entry ∈ entries := by
  have put : ∀ (entries : List (String × Value)) (table : Table Value),
      entry ∈ entries.foldl (fun table entry => table.put entry.1 entry.2) table →
        entry ∈ entries ∨ entry ∈ table := by
    intro entries
    induction entries with
    | nil => exact fun table inside => .inr inside
    | cons first rest continued =>
        intro table inside
        rcases continued _ inside with later | earlier
        · exact .inl (List.mem_cons_of_mem first later)
        · rcases mem_of_mem_put earlier with rfl | before
          · exact .inl List.mem_cons_self
          · exact .inr before
  exact (put entries [] member).resolve_right List.not_mem_nil

/-- A new name is put at the end. -/
theorem put_new {table : Table Value} {name : String} (absent : name ∉ table.names)
    (value : Value) : table.put name value = table ++ [(name, value)] := by
  induction table with
  | nil => rfl
  | cons entry rest continued =>
      obtain ⟨first, old⟩ := entry
      have different : first ≠ name := Ne.symm (List.ne_of_not_mem_cons absent)
      rw [put, if_neg different, continued (List.not_mem_of_not_mem_cons absent), List.cons_append]

/-- However often a name is listed, a table that is built from entries has it once. -/
theorem distinct_ofEntries (entries : List (String × Value)) : (ofEntries entries).Distinct := by
  have built : ∀ table : Table Value, table.Distinct →
      (entries.foldl (fun table entry => table.put entry.1 entry.2) table).Distinct := by
    induction entries with
    | nil => exact fun table distinct => distinct
    | cons first rest continued =>
        exact fun table distinct => continued _ (distinct_put distinct first.1 first.2)
  exact built [] List.nodup_nil

/-- Entries of distinct names are a table as they are. -/
theorem ofEntries_distinct {table : Table Value} (distinct : table.Distinct) :
    ofEntries table = table := by
  have built : ∀ (entries table : Table Value), (table ++ entries).Distinct →
      entries.foldl (fun table entry => table.put entry.1 entry.2) table = table ++ entries := by
    intro entries
    induction entries with
    | nil => exact fun table _ => (List.append_nil table).symm
    | cons first rest continued =>
        intro table distinct
        have absent : first.1 ∉ table.names := by
          intro inside
          unfold Distinct names at distinct
          rw [List.map_append, List.nodup_append] at distinct
          exact distinct.2.2 _ inside _ List.mem_cons_self rfl
        rw [← List.singleton_append, ← List.append_assoc] at distinct
        rw [List.foldl_cons, put_new absent, continued _ distinct, List.append_assoc,
          List.singleton_append]
  exact built table [] distinct

/-- The names of the table are distinct, and each of its values has the property. -/
def Keyed (each : Value → Prop) (table : Table Value) : Prop :=
  table.Distinct ∧ ∀ entry ∈ table, each entry.2

theorem keyed_nil {each : Value → Prop} : Keyed each [] :=
  ⟨List.nodup_nil, List.forall_mem_nil _⟩

/-- A value can be changed before or after it is put. -/
theorem put_map {Other : Type} (table : Table Value) (change : Value → Other) (name : String)
    (value : Value) :
    (table.put name value).map (fun entry => (entry.1, change entry.2)) =
      put (table.map fun entry => (entry.1, change entry.2)) name (change value) := by
  induction table with
  | nil => rfl
  | cons first rest continued =>
      obtain ⟨other, old⟩ := first
      unfold put
      rw [List.map_cons]
      dsimp only
      split
      next => rfl
      next => rw [List.map_cons, continued]

/-- Values can be changed before or after they are put into a table. -/
theorem ofEntries_map {Other : Type} (entries : List (String × Value)) (change : Value → Other) :
    ofEntries (entries.map fun entry => (entry.1, change entry.2)) =
      (ofEntries entries).map fun entry => (entry.1, change entry.2) := by
  have put : ∀ (entries : List (String × Value)) (table : Table Value),
      entries.foldl (fun changed entry => Table.put changed entry.1 (change entry.2))
          (table.map fun entry => (entry.1, change entry.2)) =
        (entries.foldl (fun table entry => Table.put table entry.1 entry.2) table).map
          fun entry => (entry.1, change entry.2) := by
    intro entries
    induction entries with
    | nil => exact fun table => rfl
    | cons first rest continued =>
        intro table
        rw [List.foldl_cons, List.foldl_cons, ← put_map, continued]
  unfold ofEntries
  rw [List.foldl_map]
  exact put entries []

/-- No entry of this name is left. -/
def without (table : Table Value) (name : String) : Table Value :=
  table.filter fun entry => entry.1 ≠ name

/-- A removed name is not found. -/
theorem entry_without (table : Table Value) (name : String) :
    entry? (table.without name) name = none := by
  apply List.lookup_eq_none_iff.mpr
  intro entry member
  have different := of_decide_eq_true (List.mem_filter.mp member).2
  exact bne_iff_ne.mpr (Ne.symm different)

/-- Removing a name leaves the other names alone. -/
theorem entry_without_other (table : Table Value) {name other : String}
    (different : other ≠ name) : entry? (table.without name) other = table.entry? other := by
  induction table with
  | nil => rfl
  | cons entry rest continued =>
      obtain ⟨first, value⟩ := entry
      by_cases same : first = name
      · have dropped : without ((first, value) :: rest) name = without rest name :=
          List.filter_cons_of_neg (by simpa using same)
        rw [dropped, continued, entry_later rest value (same ▸ different)]
      · have kept : without ((first, value) :: rest) name = (first, value) :: without rest name :=
          List.filter_cons_of_pos (decide_eq_true same)
        rw [kept]
        by_cases here : other = first
        · subst here
          rw [entry_first, entry_first]
        · rw [entry_later _ value here, entry_later rest value here, continued]

variable {First Second : Type}

/-- Two tables have the same names in the same order, and the values of each name are related. -/
def Related (relation : String → First → Second → Prop) (first : Table First)
    (second : Table Second) : Prop :=
  List.Forall₂ (fun entry other => entry.1 = other.1 ∧ relation entry.1 entry.2 other.2) first
    second

variable {relation : String → First → Second → Prop} {first : Table First} {second : Table Second}

/-- Related tables find related values under every name, or neither finds one. -/
theorem Related.entry (related : Related relation first second) (name : String) :
    Option.Rel (relation name) (first.entry? name) (second.entry? name) := by
  induction related with
  | nil => exact .none
  | @cons entry other rest others here _ continued =>
      obtain ⟨listed, value⟩ := entry
      obtain ⟨listed', value'⟩ := other
      obtain ⟨rfl, alike⟩ := here
      by_cases same : name = listed
      · subst same
        rw [entry_first, entry_first]
        exact .some alike
      · rw [entry_later rest value same, entry_later others value' same]
        exact continued

/-- Related tables stay related when related values are put under one name. -/
theorem Related.put (related : Related relation first second) {name : String} {value : First}
    {other : Second} (alike : relation name value other) :
    Related relation (first.put name value) (second.put name other) := by
  induction related with
  | nil => exact .cons ⟨rfl, alike⟩ .nil
  | @cons entry entry' rest others here more continued =>
      obtain ⟨listed, old⟩ := entry
      obtain ⟨listed', old'⟩ := entry'
      obtain ⟨rfl, before⟩ := here
      unfold Table.put
      split
      next same =>
        subst same
        exact .cons ⟨rfl, alike⟩ more
      next => exact .cons ⟨rfl, before⟩ continued

/-- A change that tells unrelated values apart, and only those, decides which tables are related. -/
theorem related_iff {relation : Value → Value → Prop} {change : Value → Value}
    (decides : ∀ value other, relation value other ↔ change value = change other)
    {table another : Table Value} :
    Related (fun _ => relation) table another ↔
      table.map (fun entry => (entry.1, change entry.2)) =
        another.map fun entry => (entry.1, change entry.2) := by
  rw [← List.forall₂_eq_eq_eq, List.forall₂_map_left_iff, List.forall₂_map_right_iff]
  simp only [Related, Prod.mk.injEq, decides]

end DocumentQuery.Table
