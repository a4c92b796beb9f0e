/-
This file proves that the links of a resolved chain are those of the path that was asked for.
-/

import DocumentQuery.Proofs.Following.Rules
import DocumentQuery.Proofs.Sample

namespace DocumentQuery

namespace ValueType

/-- The arrays around the named type, with the nullable wrappers left out. -/
def arrays : ValueType → Nat
  | .array element => element.arrays + 1
  | .nullable underlying _ => underlying.arrays
  | .named _ _ => 0

/-- Arrays at the end of a path are searched for scalars, and they are taken as they are by a test
of any value. -/
def arraysAt (type : ValueType) : PathEnd → Nat
  | .scalar => type.arrays
  | .anyValue => 0

/-- The arrays around all the types that a path passes through. -/
def arraysAlong : List ValueType → Nat
  | [] => 0
  | type :: rest => type.arrays + arraysAlong rest

end ValueType

/-- A field path passes through the types before its last one. Each field is a property of the
declared object type inside the wrappers of the type before it. -/
inductive Schema.Passes (schema : Schema) :
    ValueType → List String → List ValueType → ValueType → Prop
  | here (type : ValueType) : Passes schema type [] [] type
  | field {type last : ValueType} {name field : String} {property : Property} {rest : List String}
      {types : List ValueType} (inside : type.base = (name, .object))
      (located : schema.nested? name field = some property)
      (onward : Passes schema property.type rest types last) :
      Passes schema type (field :: rest) (type :: types) last

namespace Chain

/-- The fields that the links name, from the outermost link to the innermost one. -/
def fields : Chain → List String
  | .property field next => field :: next.fields
  | .each field next => field.toList ++ next.fields
  | .scalar field _ | .value field => field.toList

/-- The number of links over an array. -/
def arrays : Chain → Nat
  | .property _ next => next.arrays
  | .each _ next => next.arrays + 1
  | .scalar _ _ | .value _ => 0

/-- A link over an array or to a scalar is unnamed only where it is directly under an array. -/
def NamedUnless (underArray : Prop) : Chain → Prop
  | .property _ next => next.NamedUnless False
  | .each field next => (field = none → underArray) ∧ next.NamedUnless True
  | .scalar field _ => field = none → underArray
  | .value _ => True

/-- The last link is the one without another one behind it. -/
def last : Chain → Chain
  | .property _ next | .each _ next => next.last
  | .scalar field scalarType => .scalar field scalarType
  | .value field => .value field

/-- The last link has the scalar type that the path ends at, or it has a field. -/
def EndsAt (chain : Chain) (type : ValueType) : PathEnd → Prop
  | .scalar => ∃ field name, chain.last = .scalar field name ∧ type.base = (name, .scalar)
  | .anyValue => ∃ field, chain.last = .value (some field)

/-- The links of the chain are those of the path that starts with the field and goes on from the
type. -/
structure Follows (schema : Schema) (pathEnd : PathEnd) (field : String) (type : ValueType)
    (fieldPath : List String) (chain : Chain) : Prop where
  fields : chain.fields = field :: fieldPath
  named : chain.NamedUnless False
  ends : ∃ types last, schema.Passes type fieldPath types last ∧
    chain.arrays = ValueType.arraysAlong types + last.arraysAt pathEnd ∧
      chain.EndsAt last pathEnd

/-- These are the links over arrays inside one another. Only the first of them has the field. -/
def inArrays (pending : Option String) : Nat → Chain → Chain
  | 0, next => next
  | arrays + 1, next => .each pending (next.inArrays none arrays)

/-- The field is still pending when there is no array. -/
def pendingIn (pending : Option String) : Nat → Option String
  | 0 => pending
  | _ + 1 => none

/-- The field is used up only by an array. -/
theorem pendingIn_none {field : String} {arrays : Nat}
    (unnamed : pendingIn (some field) arrays = none) : 0 < arrays := by
  cases arrays with
  | zero => cases unnamed
  | succ arrays => exact Nat.succ_pos arrays

variable {next : Chain}

/-- Opening a type puts one link for each of its arrays around the chain of its named type. -/
theorem throughArrays_eq (atName : Option String → String → NamedKind → Except Fault Chain)
    (pending : Option String) (type : ValueType) :
    throughArrays atName pending type =
      (atName (pendingIn pending type.arrays) type.base.1 type.base.2).map
        (inArrays pending type.arrays) := by
  induction type generalizing pending with
  | named name kind =>
      change atName pending name kind = (atName pending name kind).map fun next => next
      cases atName pending name kind <;> rfl
  | nullable underlying absence opened => exact opened pending
  | array element opened =>
      have inside : pendingIn none element.arrays = none := by
        cases element.arrays <;> rfl
      rw [throughArrays, opened none, inside]
      change _ = (atName none element.base.1 element.base.2).map _
      cases atName none element.base.1 element.base.2 <;> rfl

theorem fields_afterPending (pending : Option String) (next : Chain) :
    (afterPending pending next).fields = pending.toList ++ next.fields := by
  cases pending <;> rfl

theorem arrays_afterPending (pending : Option String) (next : Chain) :
    (afterPending pending next).arrays = next.arrays := by
  cases pending <;> rfl

theorem last_afterPending (pending : Option String) (next : Chain) :
    (afterPending pending next).last = next.last := by
  cases pending <;> rfl

/-- Links over arrays have no field when none is pending. -/
theorem fields_inArrays_none (arrays : Nat) (next : Chain) :
    (inArrays none arrays next).fields = next.fields := by
  induction arrays with
  | zero => rfl
  | succ arrays same => exact same

/-- The pending field is named by the outermost array, or else it is left for the chain inside. -/
theorem fields_inArrays {pending : Option String} {arrays : Nat} {rest : List String}
    (inside : next.fields = (pendingIn pending arrays).toList ++ rest) :
    (inArrays pending arrays next).fields = pending.toList ++ rest := by
  cases arrays with
  | zero => exact inside
  | succ arrays =>
      rw [inArrays, fields, fields_inArrays_none, inside]
      rfl

/-- Each array adds a link. -/
theorem arrays_inArrays (pending : Option String) (arrays : Nat) (next : Chain) :
    (inArrays pending arrays next).arrays = arrays + next.arrays := by
  induction arrays generalizing pending with
  | zero => exact (Nat.zero_add _).symm
  | succ arrays counted =>
      rw [inArrays, Chain.arrays, counted none]
      omega

/-- Arrays on the way change no end. -/
theorem last_inArrays (pending : Option String) (arrays : Nat) (next : Chain) :
    (inArrays pending arrays next).last = next.last := by
  induction arrays generalizing pending with
  | zero => rfl
  | succ arrays same => exact same none

/-- A chain that is named in more places is named in fewer. -/
theorem NamedUnless.weaken {under under' : Prop} (weaker : under → under')
    (named : next.NamedUnless under) : next.NamedUnless under' := by
  cases next with
  | property field next => exact named
  | each field next => exact ⟨weaker ∘ named.1, named.2⟩
  | scalar field scalarType => exact weaker ∘ named
  | value field => trivial

/-- A chain that is reached through a pending field is directly under no array. -/
theorem named_afterPending {under : Prop} (pending : Option String)
    (named : next.NamedUnless False) : (afterPending pending next).NamedUnless under := by
  cases pending with
  | none => exact named.weaken False.elim
  | some field => exact named

/-- Only the first of several arrays has the field, and the others are directly under an array. -/
theorem named_inArrays {under : Prop} {pending : Option String} {arrays : Nat}
    (outer : pending = none → under) (inside : next.NamedUnless (under ∨ 0 < arrays)) :
    (inArrays pending arrays next).NamedUnless under := by
  induction arrays generalizing under pending with
  | zero => exact inside.weaken fun held => held.resolve_right (Nat.lt_irrefl 0)
  | succ arrays opened =>
      exact ⟨outer, opened (fun _ => trivial) (inside.weaken fun _ => .inl trivial)⟩

/-- Chains with the same last link end alike. -/
theorem EndsAt.of_last {chain : Chain} {type : ValueType} {pathEnd : PathEnd}
    (same : chain.last = next.last) (ends : next.EndsAt type pathEnd) :
    chain.EndsAt type pathEnd := by
  cases pathEnd with
  | scalar =>
      obtain ⟨field, name, last, base⟩ := ends
      exact ⟨field, name, same.trans last, base⟩
  | anyValue =>
      obtain ⟨field, last⟩ := ends
      exact ⟨field, same.trans last⟩

/-- The induction is on the field path. A property is always reached through a field, so only arrays
inside one another leave a link without one. -/
theorem follows_of_follow {schema : Schema} {pathEnd : PathEnd} {field : String} {type : ValueType}
    {fieldPath : List String} {chain : Chain}
    (resolved : follow schema pathEnd fieldPath (some field) type = .ok chain) :
    chain.Follows schema pathEnd field type fieldPath := by
  induction fieldPath generalizing field type chain with
  | nil =>
      cases pathEnd with
      | anyValue =>
          cases resolved
          exact ⟨rfl, trivial, [], type, .here type, rfl, field, rfl⟩
      | scalar =>
          rw [follow, throughArrays_eq, Attempt.map_eq_ok_iff] at resolved
          obtain ⟨next, ended, rfl⟩ := resolved
          cases kind : type.base.2 with
          | object => simp [kind, Attempt.bind_eq_ok_iff] at ended
          | scalar =>
              rw [kind] at ended
              cases ended
              refine ⟨fields_inArrays (List.append_nil _).symm, ?_, [], type, .here type, ?_, ?_⟩
              · exact named_inArrays (absurd · (Option.some_ne_none _)) fun unnamed => .inr (pendingIn_none unnamed)
              · rw [arrays_inArrays, ValueType.arraysAlong, Nat.zero_add]
                rfl
              · exact ⟨_, _, last_inArrays _ _ _, by rw [← kind]⟩
  | cons second rest followed =>
      rw [follow, throughArrays_eq, Attempt.map_eq_ok_iff] at resolved
      obtain ⟨next, ended, rfl⟩ := resolved
      cases kind : type.base.2 with
      | scalar =>
          rw [kind] at ended
          cases ended
      | object =>
          simp only [kind, Attempt.bind_eq_ok_iff, Schema.lookUpNested_ok, Attempt.pure_eq_ok_iff]
            at ended
          obtain ⟨property, located, onward, inner, rfl⟩ := ended
          obtain ⟨fields, named, types, last, passes, counted, ends⟩ := followed inner
          refine ⟨fields_inArrays (by rw [fields_afterPending, fields]), ?_, type :: types, last,
            .field (by rw [← kind]) located passes, ?_, ?_⟩
          · exact named_inArrays (absurd · (Option.some_ne_none _)) (named_afterPending _ named)
          · rw [arrays_inArrays, arrays_afterPending, counted, ValueType.arraysAlong, Nat.add_assoc]
          · exact ends.of_last ((last_inArrays _ _ _).trans (last_afterPending _ _))

/-- Over every schema the path from a column is followed to an outcome, and a chain that comes out
has the links of the path. -/
theorem ofColumn_follows (schema : Schema) (pathEnd : PathEnd) (column : String) (type : ValueType)
    (fieldPath : List String) :
    (∃ outcome, Resolves schema pathEnd fieldPath (some column) type outcome ∧
      ofColumn schema pathEnd column type fieldPath =
        checkFieldPath fieldPath >>= fun _ => outcome) ∧
      ∀ chain, ofColumn schema pathEnd column type fieldPath = .ok chain →
        chain.Follows schema pathEnd column type fieldPath := by
  constructor
  · obtain ⟨outcome, resolved⟩ := resolves_total schema pathEnd fieldPath (some column) type
    refine ⟨outcome, resolved, ?_⟩
    rw [ofColumn, follow_of_resolves resolved]
  · intro chain resolved
    exact follows_of_follow (ofColumn_ok.mp resolved).2

end Chain

namespace Sample

def people : ValueType := .orNull (.array (.orNull (.object "Person")))

/-- A person has the type of its parent and of its children. -/
def family : Schema where
  collections := [("people", ⟨none, [], .object "Person"⟩)]
  objectTypes := [("Person", ⟨none, [("parent", property (.orNull (.object "Person"))),
    ("children", property people), ("names", property (.array (.array text)))]⟩)]
  scalarTypes := []

/-- The chain leads from the children to their parent, to the children again and into their arrays
of names. -/
def cousins : Chain :=
  .each (some "children") (.property "parent" (.each (some "children")
    (.each (some "names") (.each none (.scalar none "String")))))

end Sample

/-- The path comes back to the type that it starts at and ends inside two arrays. -/
theorem Chain.ofColumn_follows_family :
    Chain.ofColumn Sample.family .scalar "children" Sample.people ["parent", "children", "names"] =
        .ok Sample.cousins ∧
      Sample.cousins.Follows Sample.family .scalar "children" Sample.people
        ["parent", "children", "names"] := by
  have resolved : Chain.ofColumn Sample.family .scalar "children" Sample.people
      ["parent", "children", "names"] = .ok Sample.cousins := rfl
  exact ⟨resolved, (ofColumn_follows Sample.family .scalar "children" Sample.people
    ["parent", "children", "names"]).2 Sample.cousins resolved⟩

end DocumentQuery
