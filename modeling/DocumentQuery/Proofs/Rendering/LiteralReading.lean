/-
This file reads literals back: a reader of quoted strings stops at the end of a literal, whatever
text it holds and whatever text follows it.
-/

import DocumentQuery.Proofs.Rendering.QuerySpelling

namespace DocumentQuery.Literal

/-- The code of an escape has digits of either case. -/
def code? (digits : List Char) : Option Nat :=
  digits.foldlM (fun code digit => (Hexadecimal.value? digit).map (code * 16 + ·)) 0

/-- This function reads from behind an opening quote as far as the closing one, and hands over the
characters that follow. Pieces are held in reverse. -/
def readFrom? (run : List Source.Piece) : List Char → Option (List Char × List Char)
  | [] => none
  | '"' :: rest => (Source.Piece.join run.reverse).map (·, rest)
  | '\\' :: 'u' :: first :: second :: third :: fourth :: rest => do
      let code ← code? [first, second, third, fourth]
      readFrom? (.ofCode code :: run) rest
  | '\\' :: letter :: rest => do
      let value ← Source.unescape? letter
      readFrom? (.character value :: run) rest
  | character :: rest =>
      if character = '\\' ∨ character.toNat < 0x20 then none
      else readFrom? (.character character :: run) rest

/-- A reader finds a quoted string in front of a text and hands over what follows. -/
def read? (text : String) : Option (String × String) :=
  match text.toList with
  | '"' :: rest =>
      (readFrom? [] rest).map fun (value, later) => (String.ofList value, String.ofList later)
  | _ => none

/-- A backslash takes the character after it, and a quote stands nowhere else. -/
inductive Escaped : List Char → Prop where
  | nil : Escaped []
  | plain {character : Char} {rest : List Char} (notQuote : character ≠ '"')
      (notBackslash : character ≠ '\\') (more : Escaped rest) : Escaped (character :: rest)
  | pair (character : Char) {rest : List Char} (more : Escaped rest) :
      Escaped ('\\' :: character :: rest)

/-- A printed character is in neither block of control codes. -/
def Printed (character : Char) : Prop :=
  0x20 ≤ character.toNat ∧ ¬(0x7f ≤ character.toNat ∧ character.toNat ≤ 0x9f)

instance (character : Char) : Decidable (Printed character) :=
  inferInstanceAs (Decidable (_ ∧ _))

/-- A character is printed exactly when it is no control character. -/
theorem printed_iff {character : Char} : Printed character ↔ isControl character = false := by
  simp only [Printed, isControl, Bool.or_eq_false_iff, Bool.and_eq_false_iff,
    decide_eq_false_iff_not]
  omega

/-- Two texts without a loose quote or backslash can be joined. -/
theorem Escaped.append {first second : List Char} (before : Escaped first)
    (after : Escaped second) : Escaped (first ++ second) := by
  induction before with
  | nil => exact after
  | plain notQuote notBackslash _ continued => exact .plain notQuote notBackslash continued
  | pair character _ continued => exact .pair character continued

/-- Four digits give their code back. -/
theorem code?_four {code : Nat} (small : code < 0x10000) :
    code? (Hexadecimal.four code) = some code := by
  simp only [code?, Hexadecimal.four, List.foldlM_cons, List.foldlM_nil, Dialect.value?_digit,
    Option.map_some, Option.bind_eq_bind, Option.bind_some, Dialect.digits_compose small]
  rfl

/-- A code that is escaped is read as its character. -/
theorem readFrom?_code {code : Nat} (small : code < 0xD800) (run : List Source.Piece)
    (rest : List Char) :
    readFrom? run ('\\' :: 'u' :: Hexadecimal.four code ++ rest) =
      readFrom? (.character (Char.ofNat code) :: run) rest := by
  have read : readFrom? run ('\\' :: 'u' :: Hexadecimal.four code ++ rest) =
      (code? (Hexadecimal.four code)).bind fun code => readFrom? (.ofCode code :: run) rest := rfl
  rw [read, code?_four (Nat.lt_trans small (by decide)), Option.bind_some,
    Dialect.ofCode_character small]

/-- A printed character that is neither a quote nor a backslash is read as it is. -/
theorem readFrom?_printed (run : List Source.Piece) {character : Char} (notQuote : character ≠ '"')
    (notBackslash : character ≠ '\\') (printed : Printed character) (rest : List Char) :
    readFrom? run (character :: rest) = readFrom? (.character character :: run) rest := by
  have refused : ¬(character = '\\' ∨ character.toNat < 0x20) :=
    not_or.mpr ⟨notBackslash, Nat.not_lt.mpr printed.1⟩
  rw [readFrom?, if_neg refused]
  · exact notQuote
  · exact fun _ _ _ _ _ escape _ => notBackslash escape
  · exact fun _ _ escape _ => notBackslash escape

/-- The escape of any character is read as that character. -/
theorem readFrom?_escape (run : List Source.Piece) (character : Char) (rest : List Char) :
    readFrom? run (escape character ++ rest) = readFrom? (.character character :: run) rest := by
  unfold escape
  split
  next => rfl
  next => rfl
  next => rfl
  next => rfl
  next => rfl
  next notQuote notBackslash _ _ _ =>
    split
    next control =>
      have small : character.toNat < 0xD800 := by
        simp [isControl] at control
        omega
      rw [readFrom?_code small, Char.ofNat_toNat]
    next printable =>
      have printed := printed_iff.mpr (Bool.eq_false_iff.mpr printable)
      exact readFrom?_printed run notQuote notBackslash printed rest

/-- Escaped characters are read one behind the other. -/
theorem readFrom?_escapes (run : List Source.Piece) (characters rest : List Char) :
    readFrom? run (characters.flatMap escape ++ rest) =
      readFrom? ((characters.map .character).reverse ++ run) rest := by
  induction characters generalizing run with
  | nil => rfl
  | cons character others continued =>
      rw [List.flatMap_cons, List.append_assoc, readFrom?_escape, continued, List.map_cons,
        List.reverse_cons, List.append_assoc]
      rfl

/-- The reader stops at the end of the literal. -/
theorem read?_quote (text rest : String) : read? (quote text ++ rest) = some (text, rest) := by
  have closed : readFrom? (text.toList.map .character).reverse ('"' :: rest.toList) =
      some (text.toList, rest.toList) := by
    simp [readFrom?, ← List.map_reverse, Dialect.join_characters]
  have spelled : (quote text ++ rest).toList =
      '"' :: (text.toList.flatMap escape ++ '"' :: rest.toList) := by
    simp [quote, encode]
  simp [read?, spelled, readFrom?_escapes, closed]

/-- Text without quotes and backslashes needs no escape. -/
theorem Escaped.of_plain {characters : List Char}
    (plain : ∀ character ∈ characters, character ≠ '"' ∧ character ≠ '\\') :
    Escaped characters := by
  induction characters with
  | nil => exact .nil
  | cons character rest continued =>
      obtain ⟨⟨notQuote, notBackslash⟩, others⟩ := List.forall_mem_cons.mp plain
      exact .plain notQuote notBackslash (continued others)

/-- The digits of a code are printed characters and need no escape. -/
theorem mem_four {code : Nat} {character : Char} (member : character ∈ Hexadecimal.four code) :
    (character ≠ '"' ∧ character ≠ '\\') ∧ Printed character := by
  have all : ∀ digit < 16, (Nat.digitChar digit ≠ '"' ∧ Nat.digitChar digit ≠ '\\') ∧
      Printed (Nat.digitChar digit) := by decide
  have listed : ∃ value, character = Hexadecimal.digit value := by
    simp only [Hexadecimal.four, List.mem_cons, List.not_mem_nil, or_false] at member
    rcases member with rfl | rfl | rfl | rfl <;> exact ⟨_, rfl⟩
  obtain ⟨value, rfl⟩ := listed
  exact all (value % 16) (Nat.mod_lt value (by decide))

/-- A text that looks like an escape is read as it is, up to the quote that closes its literal. -/
example : read? (quote "\\u0041\"\x7f\\" ++ "\"]") = some ("\\u0041\"\x7f\\", "\"]") := by
  decide +kernel

/-- A backslash takes the printed letter behind it. -/
theorem pair_escaped {letter : Char} (printed : Printed letter) :
    Escaped ['\\', letter] ∧ ∀ part ∈ ['\\', letter], Printed part := by
  refine ⟨.pair letter .nil, List.forall_mem_cons.mpr ⟨?_, List.forall_mem_singleton.mpr printed⟩⟩
  decide

/-- The escape of a character is printed, and its quotes stand behind a backslash. -/
theorem escape_escaped (character : Char) :
    Escaped (escape character) ∧ ∀ part ∈ escape character, Printed part := by
  unfold escape
  split
  next => exact pair_escaped (by decide)
  next => exact pair_escaped (by decide)
  next => exact pair_escaped (by decide)
  next => exact pair_escaped (by decide)
  next => exact pair_escaped (by decide)
  next notQuote notBackslash _ _ _ =>
    split
    next control =>
      have digits : Escaped (Hexadecimal.four character.toNat) :=
        .of_plain fun _ member => (mem_four member).1
      have marked : ∀ part ∈ ['\\', 'u'], Printed part := (pair_escaped (by decide)).2
      exact ⟨.pair 'u' digits,
        List.forall_mem_append.mpr ⟨marked, fun _ member => (mem_four member).2⟩⟩
    next printable =>
      have printed := printed_iff.mpr (Bool.eq_false_iff.mpr printable)
      exact ⟨.plain notQuote notBackslash .nil, List.forall_mem_singleton.mpr printed⟩

/-- Escaped characters are printed, and their quotes stand behind backslashes. -/
theorem escapes_escaped (characters : List Char) :
    Escaped (characters.flatMap escape) ∧ ∀ part ∈ characters.flatMap escape, Printed part := by
  induction characters with
  | nil => exact ⟨.nil, nofun⟩
  | cons character rest continued =>
      obtain ⟨first, printed⟩ := escape_escaped character
      rw [List.flatMap_cons]
      exact ⟨first.append continued.1, List.forall_mem_append.mpr ⟨printed, continued.2⟩⟩

/-- No literal is the beginning of another one. -/
theorem quote_append_inj {text other rest later : String} :
    quote text ++ rest = quote other ++ later ↔ text = other ∧ rest = later := by
  constructor
  · intro same
    have read := read?_quote text rest
    rw [same, read?_quote] at read
    cases read
    exact ⟨rfl, rfl⟩
  · rintro ⟨rfl, rfl⟩
    rfl

/-- From the end of the beginning, the reader finds the text and hands over the rest. -/
def ReadsBehind (beginning whole text rest : String) : Prop :=
  ∃ added, whole = beginning ++ added ∧ read? added = some (text, rest)

/-- A literal that stands in a text is read from its own place. -/
theorem reads_behind {beginning whole text rest : String}
    (spelled : whole = beginning ++ (quote text ++ rest)) : ReadsBehind beginning whole text rest :=
  ⟨quote text ++ rest, spelled, read?_quote text rest⟩

/-- Behind the key of a column, its value and the other columns are only added to the text. -/
theorem writeKeyed_text (first : Bool) (aliasName : String) (column : Projection)
    (others : List (String × Projection)) (draft : Draft) :
    ∃ later, (Select.writeKeyed first ((aliasName, column) :: others) draft).text =
      draft.text ++ (if first then "" else ", ") ++ (quote aliasName ++ (": " ++ later)) := by
  have started : (if first then draft else draft.write ", ").text =
      draft.text ++ if first then "" else ", " := by
    cases first with
    | true => exact (String.append_empty).symm
    | false => rfl
  let opened := (if first then draft else draft.write ", ").writeLiteral aliasName |>.write ": "
  obtain ⟨value, written⟩ :
      ∃ value, (Select.writeItem .keyed column opened).text = opened.text ++ value :=
    ⟨_, (Select.item_shows column .keyed _ opened _ opened.shows_self).appended⟩
  obtain ⟨rest, continued⟩ :
      ∃ rest, (Select.writeKeyed first ((aliasName, column) :: others) draft).text =
        (Select.writeItem .keyed column opened).text ++ rest :=
    ⟨_, (Select.others_show others .keyed _ _ _ (by decide) (Draft.shows_self _)).appended⟩
  refine ⟨value ++ rest, ?_⟩
  rw [continued, written, ← started]
  simp only [opened, Draft.writeLiteral, Draft.write, String.append_assoc]

end DocumentQuery.Literal

namespace DocumentQuery

open Literal

/-- A reader of quoted strings stops at the end of a literal and gives its text back, whatever
follows, and so no variable or alias ends its literal early. -/
theorem Draft.literal_reads_back (text : String) :
    (∀ (draft : Draft) (rest : String),
      ReadsBehind draft.text ((draft.writeLiteral text).write rest).text text rest) ∧
    (∃ body, (∀ draft : Draft, (draft.writeLiteral text).text =
        draft.text ++ String.ofList ('"' :: body ++ ['"'])) ∧
      Escaped body ∧ ∀ character ∈ body, Printed character) ∧
    (∀ (draft : Draft) (other rest later : String),
      ((draft.writeLiteral text).write rest).text = ((draft.writeLiteral other).write later).text ↔
        text = other ∧ rest = later) ∧
    (∀ (key : String) (draft : Draft),
      ReadsBehind (draft.text ++ variablesAlias ++ "[")
        ((Comparand.variable text).write key draft).text text "]") ∧
    ∀ (first : Bool) (column : Projection) (others : List (String × Projection)) (draft : Draft),
      ∃ later, ReadsBehind (draft.text ++ if first then "" else ", ")
        (Select.writeKeyed first ((text, column) :: others) draft).text text (": " ++ later) := by
  have written (draft : Draft) (text rest : String) :
      ((draft.writeLiteral text).write rest).text = draft.text ++ (quote text ++ rest) :=
    String.append_assoc
  obtain ⟨escaped, printed⟩ := escapes_escaped text.toList
  refine ⟨?_, ⟨_, fun _ => rfl, escaped, printed⟩, ?_, ?_, ?_⟩
  · intro draft rest
    exact reads_behind (written draft text rest)
  · intro draft other rest later
    rw [written, written, String.append_right_inj]
    exact quote_append_inj
  · intro key draft
    exact reads_behind (written _ text "]")
  · intro first column others draft
    obtain ⟨later, spelled⟩ := writeKeyed_text first text column others draft
    exact ⟨later, reads_behind spelled⟩

end DocumentQuery
