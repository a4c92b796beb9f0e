/-
This file says which names are safe and proves that the compiler gives out plain aliases, and that a
chosen alias is free and has the least number that it can have.
-/

import DocumentQuery.Compilation.Statement
import DocumentQuery.Statement.Rendering
import Mathlib.Order.Bounds.Basic

namespace DocumentQuery

namespace Identifier

variable {name : String}

/-- What may start a name may also continue it. -/
theorem isLater_of_isFirst {character : Char} (first : isFirst character) :
    isLater character := by
  simp only [isFirst, isLater, Char.isAlphanum, Bool.or_eq_true, decide_eq_true_eq] at first ⊢
  rcases first with letter | underscore
  · exact .inl (.inl letter)
  · exact .inr underscore

/-- A safe name is a first character with later characters behind it. -/
theorem isSafe_iff : isSafe name ↔ ∃ first rest, name.toList = first :: rest ∧ isFirst first ∧
    ∀ character ∈ rest, isLater character := by
  unfold isSafe
  cases spelled : name.toList with
  | nil => simp
  | cons first rest =>
      simp only [Bool.and_eq_true, List.all_eq_true, List.cons.injEq]
      constructor
      · intro accepted
        exact ⟨first, rest, ⟨rfl, rfl⟩, accepted⟩
      · intro accepted
        obtain ⟨_, _, ⟨rfl, rfl⟩, parts⟩ := accepted
        exact parts

/-- Every character of a safe name may continue a name. -/
theorem isLater_of_isSafe (safe : isSafe name) {character : Char}
    (member : character ∈ name.toList) : isLater character := by
  obtain ⟨first, rest, spelled, start, others⟩ := isSafe_iff.mp safe
  rw [spelled] at member
  rcases List.mem_cons.mp member with rfl | inside
  · exact isLater_of_isFirst start
  · exact others character inside

/-- The digits of a number may continue a name. -/
theorem isLater_digits (number : Nat) : ∀ character ∈ (toString number).toList,
    isLater character := by
  intro character member
  rw [Nat.toString_eq_repr, Nat.toList_repr] at member
  have digit := Nat.isDigit_of_mem_toDigits (by decide) (by decide) member
  simp [isLater, Char.isAlphanum, digit]

/-- No number is written with an underscore. -/
theorem underscore_notMem_digits (number : Nat) : '_' ∉ (toString number).toList := by
  intro member
  rw [Nat.toString_eq_repr, Nat.toList_repr] at member
  exact absurd (Nat.isDigit_of_mem_toDigits (by decide) (by decide) member) (by decide)

/-- Different numbers have different digits. -/
theorem digits_inj {number other : Nat} (same : (toString number).toList = (toString other).toList) :
    number = other := by
  rw [Nat.toString_eq_repr, Nat.toString_eq_repr, Nat.toList_repr, Nat.toList_repr] at same
  rw [← Nat.ofDigitChars_toDigits (b := 10) (n := number) (by decide) (by decide), same,
    Nat.ofDigitChars_toDigits (by decide) (by decide)]

/-- A safe name stays safe when later characters are appended. -/
theorem isSafe_append (safe : isSafe name) {suffix : String}
    (later : ∀ character ∈ suffix.toList, isLater character) : isSafe (name ++ suffix) := by
  obtain ⟨first, rest, spelled, start, others⟩ := isSafe_iff.mp safe
  refine isSafe_iff.mpr ⟨first, rest ++ suffix.toList, ?_, start, ?_⟩
  · rw [String.toList_append, spelled, List.cons_append]
  · intro character member
    rcases List.mem_append.mp member with inside | added
    · exact others character inside
    · exact later character added

/-- Keywords are written in capital letters. -/
theorem toUpper_of_keyword {keyword : String} (known : keyword ∈ keywords) :
    keyword.toUpper = keyword := by
  have all : ∀ keyword ∈ keywords, keyword.toUpper = keyword := by decide +kernel
  exact all keyword known

/-- No keyword has an underscore. -/
theorem isKeyword_of_underscore (underscore : '_' ∈ name.toList) : isKeyword name = false := by
  have none : ∀ keyword ∈ keywords, '_' ∉ keyword.toList := by decide
  rw [Bool.eq_false_iff]
  intro keyword
  have known : name.toUpper ∈ keywords := by
    simpa [isKeyword] using keyword
  apply none _ known
  rw [String.toUpper, String.toList_map]
  exact List.mem_map.mpr ⟨'_', underscore, rfl⟩

end Identifier

namespace Alias

variable {base : String} {taken : List String} {first : Nat}

/-- Different numbers make different aliases. -/
theorem numbered_inj {number other : Nat} (same : numbered base number = numbered base other) :
    number = other := by
  have spelled := congrArg String.toList same
  simp only [numbered, String.toList_append, List.append_assoc] at spelled
  exact Identifier.digits_inj (List.append_cancel_left (List.append_cancel_left spelled))

/-- A numbered alias is longer than its base. -/
theorem numbered_ne_base (base : String) (number : Nat) : numbered base number ≠ base := by
  intro same
  have longer := congrArg (fun name => name.toList.length) same
  simp only [numbered, String.toList_append, List.length_append] at longer
  have underscore : "_".toList.length = 1 := by decide
  omega

/-- These numbers are not below the first one, and their aliases are free. -/
def freeNumbers (base : String) (taken : List String) (first : Nat) : Set Nat :=
  {number | first ≤ number ∧ numbered base number ∉ taken}

/-- A first number that is free is the least one. -/
theorem least_of_free (free : numbered base first ∉ taken) :
    IsLeast (freeNumbers base taken first) first :=
  ⟨⟨Nat.le_refl first, free⟩, fun _ later => later.1⟩

/-- A first number that is taken is no candidate. -/
theorem freeNumbers_of_taken (member : numbered base first ∈ taken) :
    freeNumbers base taken first = freeNumbers base taken (first + 1) := by
  ext number
  constructor
  · intro ⟨later, free⟩
    have other : first ≠ number := by
      intro same
      rw [same] at member
      exact free member
    exact ⟨Nat.lt_of_le_of_ne later other, free⟩
  · intro ⟨later, free⟩
    exact ⟨Nat.le_of_succ_le later, free⟩

/-- Erasing the alias of an earlier number frees no later one. -/
theorem freeNumbers_erase {earlier : Nat} (before : earlier < first) :
    freeNumbers base (taken.erase (numbered base earlier)) first =
      freeNumbers base taken first := by
  ext number
  apply and_congr_right
  intro later
  have apart : numbered base number ≠ numbered base earlier := by
    intro same
    have equal := numbered_inj same
    omega
  exact not_congr (List.mem_erase_of_ne apart)

/-- The number that is found is not below the first one, so it was never erased. -/
theorem firstFree_least (base : String) (taken : List String) (first : Nat) :
    ∃ found, IsLeast (freeNumbers base taken first) found ∧
      firstFree base taken first = numbered base found := by
  induction taken, first using firstFree.induct base with
  | case1 taken first member continued =>
      rw [freeNumbers_erase (Nat.lt_succ_self first)] at continued
      rw [firstFree, if_pos member, freeNumbers_of_taken member]
      exact continued
  | case2 taken first free =>
      rw [firstFree, if_neg free]
      exact ⟨first, least_of_free free, rfl⟩

section Unique

variable {enclosing : List String}

theorem unique_of_free (free : base ∉ enclosing) (depth : Nat) :
    unique base enclosing depth = base :=
  if_neg free

/-- A base that is taken gets its least free number. -/
theorem unique_least (member : base ∈ enclosing) (depth : Nat) :
    ∃ found, IsLeast (freeNumbers base enclosing depth) found ∧
      unique base enclosing depth = numbered base found := by
  rw [unique, if_pos member]
  exact firstFree_least base enclosing depth

/-- What numbering keeps is kept by the choice of an alias. -/
theorem unique_keeps {holds : String → Prop} (kept : holds base)
    (numbered : ∀ number, holds (numbered base number)) (enclosing : List String) (depth : Nat) :
    holds (unique base enclosing depth) := by
  by_cases member : base ∈ enclosing
  · obtain ⟨found, _, named⟩ := unique_least member depth
    rw [named]
    exact numbered found
  · rw [unique_of_free member]
    exact kept

/-- No enclosing statement binds the alias that is chosen. -/
theorem unique_free (base : String) (enclosing : List String) (depth : Nat) :
    unique base enclosing depth ∉ enclosing := by
  by_cases member : base ∈ enclosing
  · obtain ⟨found, least, named⟩ := unique_least member depth
    rw [named]
    exact least.1.2
  · rw [unique_of_free member]
    exact member

end Unique

end Alias

namespace Identifier

variable {name : String}

/-- An alias is safe, and its underscore tells it from the keywords and from the joined
variables. -/
structure IsAlias (name : String) : Prop where
  safe : isSafe name
  underscore : '_' ∈ name.toList

namespace IsAlias

/-- An alias can be written as it is. -/
theorem plain (isAlias : IsAlias name) : isPlain name := by
  simp [isPlain, isAlias.safe, isKeyword_of_underscore isAlias.underscore]

/-- The joined variables have no underscore, so no alias hides them. -/
theorem ne_variables (isAlias : IsAlias name) : name ≠ variablesAlias := by
  intro same
  have underscore := isAlias.underscore
  rw [same] at underscore
  exact absurd underscore (by decide +kernel)

/-- An alias stays one when later characters are appended. -/
theorem append (isAlias : IsAlias name) {suffix : String}
    (later : ∀ character ∈ suffix.toList, isLater character) : IsAlias (name ++ suffix) where
  safe := isSafe_append isAlias.safe later
  underscore := by
    rw [String.toList_append]
    exact List.mem_append_left _ isAlias.underscore

/-- A numbered alias is an alias. -/
theorem numbered (isAlias : IsAlias name) (number : Nat) : IsAlias (Alias.numbered name number) := by
  apply append _ (isLater_digits number)
  apply append isAlias
  exact List.all_eq_true.mp (by decide)

/-- The compiler chooses an alias whenever it starts from one. -/
theorem unique (isAlias : IsAlias name) (enclosing : List String) (depth : Nat) :
    IsAlias (Alias.unique name enclosing depth) :=
  Alias.unique_keeps isAlias isAlias.numbered enclosing depth

end IsAlias

/-- The alias of a collection is one because its name is safe. -/
theorem rootAlias_isAlias {collection : String} (safe : isSafe collection) :
    IsAlias (QueryRequest.rootAlias collection) :=
  IsAlias.append ⟨by decide, by decide⟩ fun _ => isLater_of_isSafe safe

/-- The alias of a subquery is one because the name of its field is safe. -/
theorem subqueryPrefix_isAlias {field : String} (safe : isSafe field) :
    IsAlias (Selection.subqueryPrefix ++ field) :=
  IsAlias.append ⟨by decide, by decide⟩ fun _ => isLater_of_isSafe safe

theorem elementAlias_isAlias (number : Nat) : IsAlias (Expression.elementAlias number) :=
  IsAlias.append ⟨by decide, by decide⟩ (isLater_digits number)

theorem nextElement_isAlias (draft : Draft) : IsAlias draft.nextElement.1 :=
  IsAlias.append ⟨by decide, by decide⟩ (isLater_digits _)

end Identifier

namespace QueryRequest

/-- The alias of a collection starts with the letter of its prefix. -/
theorem rootAlias_first (collection : String) :
    (rootAlias collection).toList.head? = some 'r' := by
  change ("root_" ++ collection).toList.head? = some 'r'
  rw [String.toList_append]
  rfl

/-- The alias of the collection is never the alias of an element. -/
theorem rootAlias_ne_elementAlias (collection : String) (number : Nat) :
    rootAlias collection ≠ Expression.elementAlias number := by
  intro same
  have first := rootAlias_first collection
  rw [same] at first
  change ("nested_element_" ++ toString number).toList.head? = some 'r' at first
  rw [String.toList_append] at first
  exact absurd (Option.some.inj first) (by decide)

/-- The alias of the collection is never the alias of the variables. -/
theorem rootAlias_ne_variablesAlias (collection : String) :
    rootAlias collection ≠ variablesAlias := by
  intro same
  have first := rootAlias_first collection
  rw [same] at first
  exact absurd first (by decide)

end QueryRequest

end DocumentQuery
