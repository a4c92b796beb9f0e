/-
This file follows the scanner over the text of a draft as it is written.
-/

import DocumentQuery.Proofs.Dialect.Scanner
import DocumentQuery.Statement.Draft

namespace DocumentQuery

open Dialect

namespace Dialect

namespace Scanner

/-- The scanner goes over two texts one behind the other. -/
theorem run?_append (scanner : Scanner) (first second : List Char) :
    scanner.run? (first ++ second) = (scanner.run? first).bind fun middle => middle.run? second := by
  simp only [run?, List.foldlM_append]
  rfl

/-- The scanner takes one character after the other. -/
theorem run?_cons (scanner : Scanner) (character : Char) (rest : List Char) :
    scanner.run? (character :: rest) = (scanner.step? character).bind fun next =>
      next.run? rest := by
  simp only [run?, List.foldlM_cons]
  rfl

end Scanner

/-- The text is made of these tokens, and the last of them may go on. -/
def Spells (text : String) (tokens : List Token) : Prop :=
  ∀ earlier, ∃ scanner, Scanner.run? ⟨earlier, .between⟩ text.toList = some scanner ∧
    scanner.ended? = some (tokens.reverse ++ earlier)

/-- The text is made of these tokens, and the last of them is over. -/
def SpellsWhole (text : String) (tokens : List Token) : Prop :=
  ∀ earlier, Scanner.run? ⟨earlier, .between⟩ text.toList =
    some ⟨tokens.reverse ++ earlier, .between⟩

/-- A blank or a mark is no part of the run before it. -/
def startsApart (text : String) : Bool :=
  match text.toList with
  | [] => false
  | character :: _ => Source.Scanner.isBlank character || isMark character

/-- A blank or a mark is part of no word and of no operator. -/
theorem notRun_of_apart {character : Char}
    (apart : (Source.Scanner.isBlank character || isMark character) = true) :
    isWordPart character = false ∧ isOperatorPart character = false := by
  have marks : ([' ', '\t', '\n', '\r'] ++ "()[]\x7b\x7d.,:".toList).all
      (fun mark => !isWordPart mark && !isOperatorPart mark) := by
    decide
  have listed : character ∈ [' ', '\t', '\n', '\r'] ++ "()[]\x7b\x7d.,:".toList := by
    simpa [Source.Scanner.isBlank, isMark, or_assoc] using apart
  simpa using List.all_eq_true.mp marks character listed

namespace Scanner

/-- A blank or a mark ends the run before it. -/
theorem step?_apart {scanner : Scanner} {character : Char} {tokens : List Token}
    (ended : scanner.ended? = some tokens)
    (apart : (Source.Scanner.isBlank character || isMark character) = true) :
    scanner.step? character = step? ⟨tokens, .between⟩ character := by
  obtain ⟨notWord, notOperator⟩ := notRun_of_apart apart
  obtain ⟨earlier, mode⟩ := scanner
  have outside : stepOutside? ⟨earlier, mode⟩ character =
      stepOutside? ⟨tokens, .between⟩ character := by
    have same : ended? ⟨tokens, .between⟩ = some tokens := rfl
    simp only [stepOutside?, notWord, notOperator, ended, same, Bool.false_eq_true, if_false]
  cases mode with
  | between => exact outside
  | word run => exact outside
  | operator run => exact outside
  | literal run => cases ended
  | escape run => cases ended
  | code run value missing => cases ended

/-- A text that starts apart is scanned as if the run before it were over. -/
theorem run?_apart {scanner : Scanner} {text : String} {tokens : List Token}
    (ended : scanner.ended? = some tokens) (apart : startsApart text) :
    scanner.run? text.toList = run? ⟨tokens, .between⟩ text.toList := by
  unfold startsApart at apart
  cases spelled : text.toList with
  | nil =>
      rw [spelled] at apart
      cases apart
  | cons character rest =>
      rw [spelled] at apart
      rw [run?_cons, run?_cons, step?_apart ended apart]

/-- Characters of a word are added to its run. -/
theorem run?_word {tokens : List Token} {run characters : List Char}
    (parts : ∀ character ∈ characters, isWordPart character) :
    run? ⟨tokens, .word run⟩ characters = some ⟨tokens, .word (characters.reverse ++ run)⟩ := by
  induction characters generalizing run with
  | nil => rfl
  | cons character rest continued =>
      obtain ⟨first, others⟩ := List.forall_mem_cons.mp parts
      have step : step? ⟨tokens, .word run⟩ character = some ⟨tokens, .word (character :: run)⟩ := by
        simp [step?, stepOutside?, first]
      rw [run?_cons, step, Option.bind_some, continued others, List.reverse_cons,
        List.append_assoc]
      rfl

end Scanner

/-- A word is not empty, and each of its characters is part of a word. -/
def IsWord (text : String) : Prop :=
  text.toList ≠ [] ∧ ∀ character ∈ text.toList, isWordPart character

/-- A word is one token. -/
theorem IsWord.spells {text : String} (isWord : IsWord text) : Spells text [.word text] := by
  intro earlier
  obtain ⟨some, parts⟩ := isWord
  refine ⟨⟨earlier, .word text.toList.reverse⟩, ?_, by simp [Scanner.ended?]⟩
  cases spelled : text.toList with
  | nil => exact absurd spelled some
  | cons character rest =>
      rw [spelled] at parts
      obtain ⟨first, others⟩ := List.forall_mem_cons.mp parts
      have step : Scanner.step? ⟨earlier, .between⟩ character =
          Option.some ⟨earlier, .word [character]⟩ := by
        simp [Scanner.step?, Scanner.stepOutside?, Scanner.ended?, first]
      rw [Scanner.run?_cons, step, Option.bind_some, Scanner.run?_word others, List.reverse_cons]

section Literals

/-- A digit has its value. -/
theorem value?_digit (value : Nat) :
    Hexadecimal.value? (Hexadecimal.digit value) = some (value % 16) := by
  have all : ∀ digit < 16, Hexadecimal.value? (Nat.digitChar digit) = some digit := by decide
  exact all (value % 16) (Nat.mod_lt value (by decide))

/-- A code below the surrogates is a character of its own. -/
theorem ofCode_character {code : Nat} (small : code < 0xD800) :
    Source.Piece.ofCode code = .character (Char.ofNat code) := by
  have notLeading : Source.Piece.isLeading code = false := by
    simp [Source.Piece.isLeading]
    omega
  have notTrailing : Source.Piece.isTrailing code = false := by
    simp [Source.Piece.isTrailing]
    omega
  simp [Source.Piece.ofCode, notLeading, notTrailing]

/-- A code is composed of its four digits. -/
theorem digits_compose {code : Nat} (small : code < 0x10000) :
    (((0 * 16 + code / 4096 % 16) * 16 + code / 256 % 16) * 16 + code / 16 % 16) * 16 +
      code % 16 = code := by
  omega

/-- Four digits are scanned as the character of their code. -/
theorem run?_code {tokens : List Token} {run : List Source.Piece} {code : Nat}
    (small : code < 0xD800) :
    Scanner.run? ⟨tokens, .code run 0 4⟩ (Hexadecimal.four code) =
      some ⟨tokens, .literal (.character (Char.ofNat code) :: run)⟩ := by
  have whole := digits_compose (Nat.lt_trans small (by decide))
  simp only [Hexadecimal.four, Scanner.run?_cons, Scanner.step?, value?_digit, Option.map_some,
    Option.bind_some, Nat.reduceSub, Nat.reduceEqDiff, if_false, if_true, whole,
    ofCode_character small]
  rfl

/-- The escape of any character is scanned as that character. -/
theorem run?_escape {tokens : List Token} {run : List Source.Piece} (character : Char) :
    Scanner.run? ⟨tokens, .literal run⟩ (Literal.escape character) =
      some ⟨tokens, .literal (.character character :: run)⟩ := by
  unfold Literal.escape
  split
  next => rfl
  next => rfl
  next => rfl
  next => rfl
  next => rfl
  next notQuote notBackslash _ _ _ =>
    split
    next control =>
      have small : character.toNat < 0xD800 := by
        simp [Literal.isControl] at control
        omega
      have read : Scanner.run? ⟨tokens, .code run 0 4⟩ (Hexadecimal.four character.toNat) =
          some ⟨tokens, .literal (.character (Char.ofNat character.toNat) :: run)⟩ := run?_code small
      rw [Char.ofNat_toNat] at read
      exact read
    next printable =>
      have direct : Scanner.step? ⟨tokens, .literal run⟩ character =
          some ⟨tokens, .literal (.character character :: run)⟩ := by
        simp only [Scanner.step?, if_neg notQuote, if_neg notBackslash, if_neg printable]
      rw [Scanner.run?_cons, direct]
      rfl

/-- Escaped characters are scanned one behind the other. -/
theorem run?_escapes {tokens : List Token} {run : List Source.Piece} (characters : List Char) :
    Scanner.run? ⟨tokens, .literal run⟩ (characters.flatMap Literal.escape) =
      some ⟨tokens, .literal ((characters.map .character).reverse ++ run)⟩ := by
  induction characters generalizing run with
  | nil => rfl
  | cons character rest continued =>
      rw [List.flatMap_cons, Scanner.run?_append, run?_escape, Option.bind_some, continued,
        List.map_cons, List.reverse_cons, List.append_assoc]
      rfl

/-- Whole characters are joined to themselves. -/
theorem join_characters (characters : List Char) :
    Source.Piece.join (characters.map .character) = some characters := by
  induction characters with
  | nil => rfl
  | cons character rest joined => simp [Source.Piece.join, joined]

/-- A quoted text is one literal, whatever characters it has. -/
theorem quote_spells (text : String) : SpellsWhole (Literal.quote text) [.literal text] := by
  intro earlier
  have opened : Scanner.step? ⟨earlier, .between⟩ '"' = some ⟨earlier, .literal []⟩ := rfl
  have closed : Scanner.step? ⟨earlier, .literal (text.toList.map .character).reverse⟩ '"' =
      some ⟨.literal text :: earlier, .between⟩ := by
    simp [Scanner.step?, ← List.map_reverse, join_characters]
  simp only [Literal.quote, String.toList_ofList, Literal.encode, List.cons_append,
    Scanner.run?_cons, Scanner.run?_append, opened, run?_escapes, List.append_nil, closed,
    Option.bind_some]
  rfl

end Literals

end Dialect

namespace Draft

/-- The values and elements of a draft decide the names that are given out later. -/
def numbering (draft : Draft) : Draft :=
  { draft with text := "" }

/-- The text of the draft is made of these tokens, and the last of them may go on. -/
structure Holds (draft : Draft) (tokens : List Token) (numbering : Draft) : Prop where
  scanned : ∃ scanner, Scanner.run? {} draft.text.toList = some scanner ∧
    scanner.ended? = some tokens.reverse
  numbered : draft.numbering = numbering

/-- The text of the draft is made of these tokens, and the last of them is over. -/
structure Awaits (draft : Draft) (tokens : List Token) (numbering : Draft) : Prop where
  scanned : Scanner.run? {} draft.text.toList = some ⟨tokens.reverse, .between⟩
  numbered : draft.numbering = numbering

theorem write_append (draft : Draft) (first second : String) :
    draft.write (first ++ second) = (draft.write first).write second := by
  simp [write, String.append_assoc]

theorem empty_awaits : Awaits {} [] {} :=
  ⟨rfl, rfl⟩

variable {draft numbering : Draft} {tokens : List Token}

theorem Awaits.holds (awaits : draft.Awaits tokens numbering) : draft.Holds tokens numbering :=
  ⟨⟨_, awaits.scanned, rfl⟩, awaits.numbered⟩

/-- A text is added to a draft whose last token is over. -/
theorem Awaits.write (awaits : draft.Awaits tokens numbering) (text : String)
    (added : List Token) (spells : Spells text added) :
    (draft.write text).Holds (tokens ++ added) numbering := by
  obtain ⟨scanner, scanned, ended⟩ := spells tokens.reverse
  refine ⟨⟨scanner, ?_, by rw [ended, List.reverse_append]⟩, awaits.numbered⟩
  rw [Draft.write, String.toList_append, Scanner.run?_append, awaits.scanned]
  exact scanned

/-- A text whose last token is over leaves the draft so. -/
theorem Awaits.writeWhole (awaits : draft.Awaits tokens numbering) (text : String)
    (added : List Token) (spells : SpellsWhole text added) :
    (draft.write text).Awaits (tokens ++ added) numbering := by
  refine ⟨?_, awaits.numbered⟩
  rw [Draft.write, String.toList_append, Scanner.run?_append, awaits.scanned,
    List.reverse_append]
  exact spells tokens.reverse

/-- A text that starts apart ends the last token of the draft. -/
theorem Holds.write (holds : draft.Holds tokens numbering) (text : String) (added : List Token)
    (apart : startsApart text) (spells : Spells text added) :
    (draft.write text).Holds (tokens ++ added) numbering := by
  obtain ⟨before, reached, finished⟩ := holds.scanned
  obtain ⟨scanner, scanned, ended⟩ := spells tokens.reverse
  refine ⟨⟨scanner, ?_, by rw [ended, List.reverse_append]⟩, holds.numbered⟩
  rw [Draft.write, String.toList_append, Scanner.run?_append, reached, Option.bind_some,
    Scanner.run?_apart finished apart]
  exact scanned

/-- A text that starts apart and is over at its end leaves the last token over. -/
theorem Holds.writeWhole (holds : draft.Holds tokens numbering) (text : String)
    (added : List Token) (apart : startsApart text) (spells : SpellsWhole text added) :
    (draft.write text).Awaits (tokens ++ added) numbering := by
  obtain ⟨before, reached, finished⟩ := holds.scanned
  refine ⟨?_, holds.numbered⟩
  rw [Draft.write, String.toList_append, Scanner.run?_append, reached, Option.bind_some,
    Scanner.run?_apart finished apart, List.reverse_append]
  exact spells tokens.reverse

/-- A finished text is split into exactly these tokens. -/
theorem Holds.tokens? (holds : draft.Holds tokens numbering) :
    Dialect.tokens? draft.text = some tokens := by
  obtain ⟨scanner, scanned, ended⟩ := holds.scanned
  simp [Dialect.tokens?, scanned, ended]

end Draft

end DocumentQuery
