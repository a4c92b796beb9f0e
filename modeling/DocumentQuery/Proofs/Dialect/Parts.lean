/-
This file proves that names, paths, groups and lists are read back from their tokens.
-/

import DocumentQuery.Proofs.Dialect.Readable
import DocumentQuery.Proofs.Naming
import Mathlib.Data.List.Forall2

namespace DocumentQuery.Dialect

section Keywords

variable {keyword text name : String} {rest : List Token}

theorem isKeyword_self (known : keyword ∈ Identifier.keywords) :
    (Token.word keyword).isKeyword keyword := by
  simp [Token.isKeyword, Identifier.toUpper_of_keyword known]

theorem keyword?_self (known : keyword ∈ Identifier.keywords) :
    keyword? keyword (.word keyword :: rest) = some rest := by
  simp [keyword?, isKeyword_self known]

/-- Two keywords are never taken for each other. -/
theorem isKeyword_other (known : text ∈ Identifier.keywords) (different : text ≠ keyword) :
    (Token.word text).isKeyword keyword = false := by
  simp [Token.isKeyword, Identifier.toUpper_of_keyword known, different]

/-- A plain name is no keyword in any case of its letters. -/
theorem isKeyword_plain (plain : Identifier.isPlain name) (known : keyword ∈ Identifier.keywords) :
    (Token.word name).isKeyword keyword = false := by
  have free : name.toUpper ∉ Identifier.keywords := by
    simpa [Identifier.isPlain, Identifier.isKeyword] using (Bool.and_eq_true_iff.mp plain).2
  have different : name.toUpper ≠ keyword := by
    intro same
    exact free (same ▸ known)
  simp [Token.isKeyword, different]

/-- A parameter is no keyword, because no keyword starts as it does. -/
theorem isKeyword_parameter (named : isParameter name) (known : keyword ∈ Identifier.keywords) :
    (Token.word name).isKeyword keyword = false := by
  have start : ∀ keyword ∈ Identifier.keywords, keyword.toList.head? ≠ some '@' := by decide
  have first : name.toUpper.toList.head? = some '@' := by
    unfold isParameter at named
    split at named
    next characters spelled =>
      rw [String.toUpper, String.toList_map, spelled]
      rfl
    next => cases named
  have different : name.toUpper ≠ keyword := by
    intro same
    rw [same] at first
    exact start keyword known first
  simp [Token.isKeyword, different]

theorem keyword?_of_not {token : Token} (other : token.isKeyword keyword = false) :
    keyword? keyword (token :: rest) = none := by
  simp [keyword?, other]

theorem mark?_self {character : Char} : mark? character (.mark character :: rest) = some rest := by
  simp [mark?]

theorem name?_plain (plain : Identifier.isPlain name) :
    name? (.word name :: rest) = some (name, rest) := by
  simp [name?, word?, plain]

/-- The first character of a name is not the one of a parameter. -/
theorem not_isParameter (plain : Identifier.isPlain name) : isParameter name = false := by
  have safe : Identifier.isSafe name := (Bool.and_eq_true_iff.mp plain).1
  unfold Identifier.isSafe at safe
  unfold isParameter
  split
  next characters spelled =>
    rw [spelled] at safe
    have first : Identifier.isFirst '@' = true := (Bool.and_eq_true_iff.mp safe).1
    exact absurd first (by decide)
  next => rfl

end Keywords

/-- The reader takes the value from these tokens when what follows lets it end. -/
def Reads {Value : Type} (reader : Reader Value) (Follows : List Token → Prop)
    (tokens : List Token) (value : Value) : Prop :=
  ∀ rest, Follows rest → reader (tokens ++ rest) = some (value, rest)

/-- Nothing is asked of what follows. -/
def Anything (_ : List Token) : Prop :=
  True

/-- No path goes on with these tokens. -/
def EndsPath : List Token → Prop
  | .mark '.' :: _ | .mark '[' :: _ => False
  | _ => True

/-- A path without properties ends at once. -/
theorem properties?_none {rest : List Token} (ends : EndsPath rest) :
    properties? rest = some ([], rest) := by
  unfold properties?
  split
  · cases ends
  · cases ends
  · cases ends
  · cases ends
  · rfl

/-- Safe property names are read back, also where they stand in brackets. -/
theorem properties?_reads {names : List String} (safe : ∀ name ∈ names, Identifier.isSafe name) :
    Reads properties? EndsPath (names.flatMap propertyTokens) names := by
  intro rest ends
  induction names with
  | nil => exact properties?_none ends
  | cons name names read =>
      obtain ⟨first, others⟩ := List.forall_mem_cons.mp safe
      have onward := read others
      rw [List.flatMap_cons, List.append_assoc]
      by_cases keyword : Identifier.isKeyword name
      · simp [propertyTokens, keyword, properties?, onward]
      · have plain : Identifier.isPlain name := by simp [Identifier.isPlain, first, keyword]
        simp [propertyTokens, keyword, properties?, onward, plain]

/-- A property starts with a dot or a bracket. -/
theorem propertyTokens_head (name : String) :
    ∃ character later, propertyTokens name = .mark character :: later ∧ character ≠ '(' := by
  unfold propertyTokens
  split
  · exact ⟨'[', _, rfl, by decide⟩
  · exact ⟨'.', _, rfl, by decide⟩

/-- A path is read back with its alias and its properties. -/
theorem path?_reads {path : Path} (readable : PathReadable path) :
    Reads path? EndsPath (pathTokens path) path := by
  intro rest ends
  have fields := properties?_reads readable.2 rest ends
  simp [path?, pathTokens, name?_plain readable.1, fields]

/-- A path of any other alias is a column. -/
theorem Operand.ofPath_path {path : Path} (column : path.aliasName ≠ variablesAlias) :
    Operand.ofPath path = .path path := by
  unfold Operand.ofPath
  split
  next => simp [column]
  next => rfl

/-- A readable operand is read back from its tokens. -/
theorem operand?_reads {operand : Operand} (readable : operand.Readable) :
    Reads operand? EndsPath operand.tokens operand := by
  intro rest ends
  cases operand with
  | parameter name =>
      have named : isParameter name = true := readable
      simp [operand?, Operand.tokens, word?, named]
  | path column =>
      have read := path?_reads readable.1 rest ends
      have named : isParameter column.aliasName = false := not_isParameter readable.1.1
      simp only [pathTokens, List.cons_append] at read
      simp [operand?, Operand.tokens, pathTokens, word?, named, read,
        Operand.ofPath_path readable.2]
  | «variable» name =>
      have named : isParameter variablesAlias = false := not_isParameter variablesAlias_plain
      simp [operand?, Operand.tokens, word?, named, path?, name?_plain variablesAlias_plain,
        properties?, properties?_none ends, Operand.ofPath]

section Lists

variable {Value : Type} {reader : Reader Value} {Follows : List Token → Prop}

/-- A reader may be given stronger assurances of what follows. -/
theorem Reads.weaken {Others : List Token → Prop} {tokens : List Token} {value : Value}
    (reads : Reads reader Follows tokens value) (allowed : ∀ rest, Others rest → Follows rest) :
    Reads reader Others tokens value :=
  fun rest follows => reads rest (allowed rest follows)

/-- A group is read back when its content may be followed by the closing mark. -/
theorem groupOf?_reads {tokens : List Token} {value : Value}
    (reads : Reads reader Follows tokens value) (closes : ∀ rest, Follows (.mark ')' :: rest)) :
    Reads (groupOf? reader) Anything (grouped tokens) value := by
  intro rest _
  have inner := reads (.mark ')' :: rest) (closes rest)
  simp [groupOf?, grouped, mark?_self, inner]

theorem joined_cons_cons {separator : Token} {first second : List Token}
    {others : List (List Token)} :
    joined separator (first :: second :: others) =
      first ++ separator :: joined separator (second :: others) := by
  simp [joined]

/-- What follows a list is no further separator. -/
def EndsList (isSeparator : Token → Bool) (Follows : List Token → Prop) (rest : List Token) :
    Prop :=
  Follows rest ∧ ∀ next ∈ rest.head?, isSeparator next = false

/-- A part that no separator follows is a list of one. -/
theorem separatedWithin?_one {isSeparator : Token → Bool} {tokens rest : List Token}
    {value : Value} {room : Nat} (reads : Reads reader Follows tokens value)
    (ends : EndsList isSeparator Follows rest) :
    separatedWithin? isSeparator reader (room + 1) (tokens ++ rest) = some ([value], rest) := by
  have taken := reads rest ends.1
  cases rest with
  | nil =>
      rw [List.append_nil] at taken
      simp [separatedWithin?, taken]
  | cons next later =>
      have stops : isSeparator next = false := ends.2 next rfl
      simp [separatedWithin?, taken, stops]

/-- The induction is on the parts. Each of them takes one unit of the room. -/
theorem separatedWithin?_reads {isSeparator : Token → Bool} {separator : Token}
    (separates : isSeparator separator = true)
    (continues : ∀ rest, Follows (separator :: rest)) {rest : List Token}
    (ends : EndsList isSeparator Follows rest) {part : List Token} {parts : List (List Token)}
    {value : Value} {values : List Value} {room : Nat}
    (reads : List.Forall₂ (Reads reader Follows) (part :: parts) (value :: values))
    (enough : parts.length < room) :
    separatedWithin? isSeparator reader room (joined separator (part :: parts) ++ rest) =
      some (value :: values, rest) := by
  induction parts generalizing part value values room with
  | nil =>
      obtain ⟨room, rfl⟩ := Nat.exists_eq_add_one_of_ne_zero (Nat.ne_zero_of_lt enough)
      obtain ⟨first, nothing⟩ := List.forall₂_cons.mp reads
      cases nothing
      simpa [joined] using separatedWithin?_one first ends
  | cons second parts continued =>
      obtain ⟨room, rfl⟩ := Nat.exists_eq_add_one_of_ne_zero (Nat.ne_zero_of_lt enough)
      obtain ⟨first, others⟩ := List.forall₂_cons.mp reads
      obtain ⟨other, values, _, _, rfl⟩ := List.forall₂_cons_left_iff.mp others
      have smaller : parts.length < room := by simpa using enough
      have taken := first (separator :: joined separator (second :: parts) ++ rest) (continues _)
      have onward := continued others smaller
      rw [joined_cons_cons, List.append_assoc]
      simp only [List.cons_append] at taken ⊢
      simp [separatedWithin?, taken, separates, onward]

/-- No part has more tokens than the list. -/
theorem length_le_joined (separator : Token) {parts : List (List Token)} {part : List Token}
    (member : part ∈ parts) : part.length ≤ (joined separator parts).length := by
  cases parts with
  | nil => cases member
  | cons first others =>
      rcases List.mem_cons.mp member with rfl | later
      · simp [joined]
      · have inside : part.length ≤ (others.flatMap fun part => separator :: part).length := by
          induction others with
          | nil => cases later
          | cons second others bounded =>
              rw [List.flatMap_cons, List.length_append, List.length_cons]
              rcases List.mem_cons.mp later with rfl | later
              · omega
              · have smaller := bounded (List.mem_cons_of_mem _ later) later
                omega
        rw [joined, List.length_append]
        omega

/-- A list has a token for each of its separators. -/
theorem count_le_joined {separator : Token} {first : List Token} {others : List (List Token)} :
    others.length ≤ (joined separator (first :: others)).length := by
  induction others generalizing first with
  | nil => exact Nat.zero_le _
  | cons second others counted =>
      have fewer : others.length ≤ (joined separator (second :: others)).length := counted
      rw [joined_cons_cons]
      simp only [List.length_append, List.length_cons]
      omega

/-- One part is read back as a list of one. -/
theorem separated?_one {isSeparator : Token → Bool} {tokens : List Token} {value : Value}
    (reads : Reads reader Follows tokens value) :
    Reads (separated? isSeparator reader) (EndsList isSeparator Follows) tokens [value] := by
  intro rest ends
  exact separatedWithin?_one reads ends

/-- The parts of a list are read back in their order. -/
theorem separated?_reads {isSeparator : Token → Bool} {separator : Token}
    (separates : isSeparator separator = true)
    (continues : ∀ rest, Follows (separator :: rest)) {parts : List (List Token)}
    {values : List Value} (some : parts ≠ [])
    (reads : List.Forall₂ (Reads reader Follows) parts values) :
    Reads (separated? isSeparator reader) (EndsList isSeparator Follows) (joined separator parts)
      values := by
  intro rest ends
  obtain ⟨part, parts, rfl⟩ := List.exists_cons_of_ne_nil some
  obtain ⟨value, values, _, _, rfl⟩ := List.forall₂_cons_left_iff.mp reads
  apply separatedWithin?_reads separates continues ends reads
  have counted : parts.length ≤ (joined separator (part :: parts)).length := count_le_joined
  rw [List.length_append]
  omega

/-- A list with commas is read back. -/
theorem listed?_reads (continues : ∀ rest, Follows (.mark ',' :: rest))
    {parts : List (List Token)} {values : List Value} (some : parts ≠ [])
    (reads : List.Forall₂ (Reads reader Follows) parts values) :
    Reads (listed? reader) (EndsList (· = .mark ',') Follows) (joined (.mark ',') parts) values :=
  separated?_reads (by simp) continues some reads

end Lists

end DocumentQuery.Dialect
