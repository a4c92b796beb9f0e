/-
This file proves that the text of a statement is made of the tokens of its tree.
-/

import DocumentQuery.Proofs.Dialect.Readable
import DocumentQuery.Proofs.Naming
import DocumentQuery.Proofs.Rendering.Scanning
import DocumentQuery.Proofs.Rendering.Tree

namespace DocumentQuery

open Dialect

section Words

variable {name : String}

/-- A safe name is a word. -/
theorem isWord_safe (safe : Identifier.isSafe name) : IsWord name := by
  constructor
  · obtain ⟨first, rest, spelled, _⟩ := Identifier.isSafe_iff.mp safe
    rw [spelled]
    exact List.cons_ne_nil first rest
  · intro character member
    simp [isWordPart, Identifier.isLater_of_isSafe safe member]

theorem isWord_plain (plain : Identifier.isPlain name) : IsWord name :=
  isWord_safe (Bool.and_eq_true_iff.mp plain).1

/-- A parameter is a word. -/
theorem isWord_parameter (named : isParameter name) : IsWord name := by
  unfold isParameter at named
  split at named
  next rest spelled =>
    refine ⟨by simp [spelled], ?_⟩
    rw [spelled]
    intro character member
    rcases List.mem_cons.mp member with rfl | inside
    · rfl
    · have later := List.all_eq_true.mp named character inside
      simp [isWordPart, later]
  next => cases named

/-- A number is a word. -/
theorem isWord_repr (number : Nat) : IsWord number.repr := by
  refine ⟨by rw [Nat.toList_repr]; exact Nat.toDigits_ne_nil, ?_⟩
  intro character member
  simp [isWordPart, Identifier.isLater_digits number character member]

end Words

variable {draft numbering : Draft} {tokens : List Token}

/-- A word is added as one token. -/
theorem Draft.Awaits.word {name : String} (awaits : draft.Awaits tokens numbering)
    (isWord : IsWord name) : (draft.write name).Holds (tokens ++ [.word name]) numbering :=
  awaits.write name [.word name] isWord.spells

/-- A literal is added as one token, whatever text it has. -/
theorem Draft.Awaits.literal (awaits : draft.Awaits tokens numbering) (text : String) :
    (draft.writeLiteral text).Awaits (tokens ++ [.literal text]) numbering :=
  awaits.writeWhole (Literal.quote text) [.literal text] (quote_spells text)

/-- A property is added behind a dot or in brackets. -/
theorem Draft.Holds.property {name : String} (holds : draft.Holds tokens numbering)
    (safe : Identifier.isSafe name) :
    (draft.writeProperty name).Holds (tokens ++ propertyTokens name) numbering := by
  unfold writeProperty propertyTokens
  split
  · have opened := holds.writeWhole "[" [.mark '['] rfl fun _ => rfl
    have named := opened.literal name
    have closed := named.writeWhole "]" [.mark ']'] fun _ => rfl
    simpa using closed.holds
  · have dotted := holds.writeWhole "." [.mark '.'] rfl fun _ => rfl
    have named := dotted.word (isWord_safe safe)
    rw [write_append]
    simpa using named

/-- The properties of a path are added one behind the other. -/
theorem Draft.Holds.properties {names : List String} (holds : draft.Holds tokens numbering)
    (safe : ∀ name ∈ names, Identifier.isSafe name) :
    (names.foldl Draft.writeProperty draft).Holds (tokens ++ names.flatMap propertyTokens)
      numbering := by
  induction names generalizing draft tokens with
  | nil => simpa using holds
  | cons name names continued =>
      obtain ⟨first, others⟩ := List.forall_mem_cons.mp safe
      have onward := continued (holds.property first) others
      rw [List.append_assoc] at onward
      exact onward

/-- A path is added with its alias and its properties. -/
theorem Draft.Awaits.path {path : Path} (awaits : draft.Awaits tokens numbering)
    (readable : PathReadable path) :
    (path.write draft).Holds (tokens ++ pathTokens path) numbering := by
  have bound := awaits.word (isWord_plain readable.1)
  have whole := bound.properties readable.2
  rw [List.append_assoc] at whole
  exact whole

/-- A closing mark is over at once. -/
theorem Draft.Holds.close (holds : draft.Holds tokens numbering) :
    (draft.write ")").Awaits (tokens ++ [.mark ')']) numbering :=
  holds.writeWhole ")" [.mark ')'] rfl fun _ => rfl

/-- The names that a draft gives out do not depend on its text. -/
theorem Draft.bindValue_numbering (draft : Draft) (key : String) (value : Json) :
    draft.numbering.bindValue key value =
      ((draft.bindValue key value).1.numbering, (draft.bindValue key value).2) := by
  unfold bindValue
  dsimp only [numbering]
  split <;> rfl

/-- Binding a value writes no text. -/
theorem Draft.bindValue_text (draft : Draft) (key : String) (value : Json) :
    (draft.bindValue key value).1.text = draft.text := by
  unfold bindValue
  dsimp only
  split <;> rfl

/-- A comparand is written with the tokens of its operand. -/
theorem Comparand.write_tokens {comparand : Comparand} {key : String}
    (awaits : draft.Awaits tokens numbering)
    (readable : (comparand.operand key numbering).1.Readable) :
    (comparand.write key draft).Holds (tokens ++ (comparand.operand key numbering).1.tokens)
      (comparand.operand key numbering).2 := by
  cases comparand with
  | column path => exact awaits.path readable.1
  | «variable» name =>
      have bound := awaits.word (isWord_plain variablesAlias_plain)
      have opened := bound.writeWhole "[" [.mark '['] rfl fun _ => rfl
      have closed := (opened.literal name).writeWhole "]" [.mark ']'] fun _ => rfl
      simpa [Comparand.write, Comparand.operand, Operand.tokens] using closed.holds
  | literal value =>
      have numbered := awaits.numbered
      subst numbered
      have binding := draft.bindValue_numbering (Draft.cleanKey key) value
      have bound : (draft.bindValue (Draft.cleanKey key) value).1.Awaits tokens
          (draft.bindValue (Draft.cleanKey key) value).1.numbering :=
        ⟨by rw [Draft.bindValue_text]; exact awaits.scanned, rfl⟩
      simp only [Comparand.operand, binding] at readable ⊢
      exact bound.word (isWord_parameter readable)

/-- An operator is one token between its blanks. -/
theorem comparisonOperator_spells {operator : String} (known : operator ∈ comparisonOperators) :
    startsApart (" " ++ operator ++ " ") ∧
      SpellsWhole (" " ++ operator ++ " ") [.operator operator] := by
  simp only [comparisonOperators, List.mem_cons, List.not_mem_nil, or_false] at known
  rcases known with rfl | rfl | rfl | rfl | rfl | rfl
  all_goals exact ⟨rfl, fun _ => rfl⟩

/-- A test is written with the tokens of its condition. -/
theorem Test.write_tokens {test : Test} {path : Path} {key : String}
    (awaits : draft.Awaits tokens numbering)
    (readable : (test.condition path key numbering).1.Readable) :
    (test.write path key draft).Holds (tokens ++ (test.condition path key numbering).1.tokens)
      (test.condition path key numbering).2 := by
  cases test with
  | isNull =>
      have opened := awaits.writeWhole "IS_NULL(" [.word "IS_NULL", .mark '('] fun _ => rfl
      have located := opened.path (readable.2.2 _ (List.mem_cons_self ..)).1
      simpa [Test.write, Test.condition, Condition.tokens, grouped, joined, Operand.tokens]
        using located.close.holds
  | compare operator comparand =>
      simp only [Test.condition] at readable ⊢
      by_cases between : operator.isBetween
      · simp only [between, if_true] at readable ⊢
        obtain ⟨known, left, right⟩ := readable
        have located := awaits.path left.1
        obtain ⟨apart, spells⟩ := comparisonOperator_spells known
        have compared := located.writeWhole _ _ apart spells
        have ended := Comparand.write_tokens compared right
        simpa [Test.write, between, Condition.tokens, Operand.tokens] using ended
      · simp only [between] at readable ⊢
        obtain ⟨plain, _, operands⟩ := readable
        have named := awaits.word (isWord_plain plain)
        have opened := named.writeWhole "(" [.mark '('] rfl fun _ => rfl
        have located := opened.path (operands _ (List.mem_cons_self ..)).1
        have separated := located.writeWhole ", " [.mark ','] rfl fun _ => rfl
        have operand : (comparand.operand key numbering).1.Readable :=
          operands _ (List.mem_cons_of_mem _ (List.mem_singleton_self _))
        have ended := Comparand.write_tokens separated operand
        simpa [Test.write, between, Condition.tokens, Operand.tokens, grouped, joined,
          Draft.write_append] using ended.close.holds

/-- A search is written up to the path of its source. -/
theorem Draft.Awaits.search {aliasName : String} {source : Path} (bare : Bool)
    (awaits : draft.Awaits tokens numbering) (plain : Identifier.isPlain aliasName)
    (readable : PathReadable source) :
    (source.write (draft.write ((if bare then "EXISTS(SELECT 1 FROM " else
        "EXISTS(SELECT VALUE 1 FROM ") ++ aliasName ++ " IN "))).Holds
      (tokens ++ .word "EXISTS" :: .mark '(' :: Condition.searchTokens bare aliasName source)
      numbering := by
  rw [Draft.write_append, Draft.write_append]
  cases bare with
  | true =>
      have opened := awaits.writeWhole "EXISTS(SELECT 1 FROM "
        [.word "EXISTS", .mark '(', .word "SELECT", .word "1", .word "FROM"] fun _ => rfl
      have bound := opened.word (isWord_plain plain)
      have within := bound.writeWhole " IN " [.word "IN"] rfl fun _ => rfl
      simpa [Condition.searchTokens] using within.path readable
  | false =>
      have opened := awaits.writeWhole "EXISTS(SELECT VALUE 1 FROM "
        [.word "EXISTS", .mark '(', .word "SELECT", .word "VALUE", .word "1", .word "FROM"]
        fun _ => rfl
      have bound := opened.word (isWord_plain plain)
      have within := bound.writeWhole " IN " [.word "IN"] rfl fun _ => rfl
      simpa [Condition.searchTokens] using within.path readable

/-- The keyword of a condition is one token between its blanks. -/
theorem Draft.Holds.where (holds : draft.Holds tokens numbering) :
    (draft.write " WHERE ").Awaits (tokens ++ [.word "WHERE"]) numbering :=
  holds.writeWhole " WHERE " [.word "WHERE"] rfl fun _ => rfl

/-- The induction is on the chain. Each of its arrays is written as a search. -/
theorem Chain.write_tokens {test : Test} {key : String} {chain : Chain} {path : Path}
    (awaits : draft.Awaits tokens numbering)
    (readable : (chain.condition test key path numbering).1.Readable) :
    (chain.write test key path draft).Holds
      (tokens ++ (chain.condition test key path numbering).1.tokens)
      (chain.condition test key path numbering).2 := by
  induction chain generalizing path draft tokens numbering with
  | property field next written => exact written awaits readable
  | scalar field scalarType => exact Test.write_tokens awaits readable
  | value field => exact Test.write_tokens awaits readable
  | each field next written =>
      have numbered := awaits.numbered
      subst numbered
      have same : draft.numbering.nextElement.1 = draft.nextElement.1 := rfl
      simp only [Chain.condition, same] at readable ⊢
      obtain ⟨plain, source, inside⟩ := readable
      have counted : draft.nextElement.2.Awaits tokens draft.numbering.nextElement.2 :=
        ⟨awaits.scanned, rfl⟩
      have searched := counted.search true plain source
      have ended := written searched.where inside
      simpa [Chain.write, Condition.tokens, grouped] using ended.close.holds

namespace Predicate

mutual

/-- The draft gives out the same names as the tree of the condition has. -/
theorem write_tokens :
    ∀ (predicate : Predicate) (draft numbering : Draft) (tokens : List Token),
      draft.Awaits tokens numbering → (predicate.condition numbering).1.Readable →
        (predicate.write draft).Holds (tokens ++ (predicate.condition numbering).1.tokens)
          (predicate.condition numbering).2
  | .test aliasName chain applied, draft, numbering, tokens, awaits, readable =>
      Chain.write_tokens awaits readable
  | .and [], draft, numbering, tokens, awaits, _ =>
      awaits.write "true" [.word "true"] fun _ => ⟨_, rfl, rfl⟩
  | .or [], draft, numbering, tokens, awaits, _ =>
      awaits.write "false" [.word "false"] fun _ => ⟨_, rfl, rfl⟩
  | .and (first :: rest), draft, numbering, tokens, awaits, readable => by
      have opened := awaits.writeWhole "(" [.mark '('] fun _ => rfl
      have inner := write_tokens first _ numbering _ opened readable.1
      have others := writeRest_tokens " AND " "AND" rfl (fun _ => rfl) rest _ _ _ inner.close.holds
        readable.2
      simpa [write, condition, conditions, Condition.tokens, Condition.tokensEach,
        Condition.connectiveTokens, joined, grouped] using others
  | .or (first :: rest), draft, numbering, tokens, awaits, readable => by
      have opened := awaits.writeWhole "(" [.mark '('] fun _ => rfl
      have inner := write_tokens first _ numbering _ opened readable.1
      have others := writeRest_tokens " OR " "OR" rfl (fun _ => rfl) rest _ _ _ inner.close.holds
        readable.2
      simpa [write, condition, conditions, Condition.tokens, Condition.tokensEach,
        Condition.connectiveTokens, joined, grouped] using others
  | .not predicate, draft, numbering, tokens, awaits, readable => by
      have opened := awaits.writeWhole "NOT (" [.word "NOT", .mark '('] fun _ => rfl
      have inner := write_tokens predicate _ numbering _ opened readable
      simpa [write, condition, Condition.tokens, grouped] using inner.close.holds
  | .existsIn source aliasName none, draft, numbering, tokens, awaits, readable => by
      have searched := awaits.search false readable.1 readable.2
      simpa [write, condition, Condition.tokens, grouped] using searched.close.holds
  | .existsIn source aliasName (some predicate), draft, numbering, tokens, awaits, readable => by
      have searched := awaits.search false readable.1 readable.2.1
      have inner := write_tokens predicate _ numbering _ searched.where readable.2.2
      simpa [write, condition, Condition.tokens, grouped] using inner.close.holds

/-- The parts of a connective behind the first one are written after a separator each. -/
theorem writeRest_tokens (separator keyword : String) (apart : startsApart separator)
    (spells : SpellsWhole separator [.word keyword]) :
    ∀ (predicates : List Predicate) (draft numbering : Draft) (tokens : List Token),
      draft.Holds tokens numbering →
        Condition.ReadableEach (conditions predicates numbering).1 →
          (writeRest separator predicates draft).Holds
            (tokens ++ ((Condition.tokensEach (conditions predicates numbering).1).map
              grouped).flatMap fun part => .word keyword :: part)
            (conditions predicates numbering).2
  | [], draft, numbering, tokens, holds, _ => by
      simpa [writeRest, conditions, Condition.tokensEach] using holds
  | predicate :: rest, draft, numbering, tokens, holds, readable => by
      have separated := holds.writeWhole separator [.word keyword] apart spells
      have opened := separated.writeWhole "(" [.mark '('] fun _ => rfl
      have inner := write_tokens predicate _ numbering _ opened readable.1
      have others := writeRest_tokens separator keyword apart spells rest _ _ _ inner.close.holds
        readable.2
      simpa [writeRest, conditions, Condition.tokensEach, grouped] using others

end

end Predicate

end DocumentQuery
