/-
This file defines the text form of a document before its meaning is taken, and the tokens it is
made of.
-/

import DocumentQuery.Json.Basic
import DocumentQuery.Json.Decimal
import DocumentQuery.Text.Hexadecimal

namespace DocumentQuery

/-- A source keeps repeated members. A leaf is `none` when it is written well and denotes nothing:
a number beyond the doubles or a string with half of a surrogate pair. -/
inductive Source where
  | null
  | bool (value : Bool)
  | number (value : Option Number)
  | string (value : Option String)
  | array (items : List Source)
  | object (members : List (Option String × Source))
  deriving Inhabited

mutual

/-- A value is a source without repeated members. -/
def Json.toSource : Json → Source
  | .null => .null
  | .bool value => .bool value
  | .number value => .number (some value)
  | .string value => .string (some value)
  | .array items => .array (itemsToSource items)
  | .object members => .object (membersToSource members)

def Json.itemsToSource : List Json → List Source
  | [] => []
  | item :: rest => item.toSource :: itemsToSource rest

def Json.membersToSource : List (String × Json) → List (Option String × Source)
  | [] => []
  | (name, value) :: rest => (some name, value.toSource) :: membersToSource rest

end

namespace Source

/-- A leaf carries its meaning. -/
inductive Token where
  | openArray
  | closeArray
  | openObject
  | closeObject
  | comma
  | colon
  | leaf (value : Source)

/-- A string is made of characters and of halves of surrogate pairs. -/
inductive Piece where
  | character (value : Char)
  | half (code : Nat)

namespace Piece

def isLeading (code : Nat) : Bool :=
  0xD800 ≤ code && code ≤ 0xDBFF

def isTrailing (code : Nat) : Bool :=
  0xDC00 ≤ code && code ≤ 0xDFFF

def ofCode (code : Nat) : Piece :=
  if isLeading code || isTrailing code then .half code else .character (Char.ofNat code)

def pair (leading trailing : Nat) : Char :=
  Char.ofNat (0x10000 + (leading - 0xD800) * 0x400 + (trailing - 0xDC00))

/-- The halves of a pair stand side by side. -/
def join : List Piece → Option (List Char)
  | [] => some []
  | .character value :: rest => (join rest).map (value :: ·)
  | .half leading :: .half trailing :: rest =>
      if isLeading leading && isTrailing trailing then
        (join rest).map (pair leading trailing :: ·)
      else none
  | .half _ :: _ => none

end Piece

/-- This function gives the letter of a short escape its character. -/
def unescape? : Char → Option Char
  | '"' => some '"'
  | '\\' => some '\\'
  | '/' => some '/'
  | 'b' => some '\x08'
  | 'f' => some '\x0c'
  | 'n' => some '\n'
  | 'r' => some '\r'
  | 't' => some '\t'
  | _ => none

/-- A full accumulator drops further digits. -/
structure DigitAccumulator where
  decimal : Decimal := ⟨0, 0⟩
  full : Bool := false

namespace DigitAccumulator

def extended (accumulator : DigitAccumulator) (digit : Char) : Nat :=
  accumulator.decimal.significand * 10 + (digit.toNat - '0'.toNat)

/-- A dropped digit before the point counts as a power of ten. -/
def pushWhole (accumulator : DigitAccumulator) (digit : Char) : DigitAccumulator :=
  if !accumulator.full && accumulator.extended digit < Decimal.significandBound then
    ⟨⟨accumulator.extended digit, accumulator.decimal.exponent⟩, false⟩
  else ⟨⟨accumulator.decimal.significand, accumulator.decimal.exponent + 1⟩, true⟩

def pushFraction (accumulator : DigitAccumulator) (digit : Char) : DigitAccumulator :=
  if !accumulator.full && accumulator.extended digit < Decimal.significandBound then
    ⟨⟨accumulator.extended digit, accumulator.decimal.exponent - 1⟩, false⟩
  else ⟨accumulator.decimal, true⟩

end DigitAccumulator

/-- The parts of a number are its sign, whole digits, fraction digits and exponent. -/
structure NumberText where
  negative : Bool
  whole : List Char
  fraction : List Char
  exponent : Option Int

namespace NumberText

def naturalOf (digits : List Char) : Nat :=
  digits.foldl (fun value digit => value * 10 + (digit.toNat - '0'.toNat)) 0

/-- A whole part has no needless leading zero. -/
def wholeDigits? (word : List Char) : Option (List Char × List Char) :=
  match word.span Char.isDigit with
  | ([], _) => none
  | ('0' :: _ :: _, _) => none
  | (digits, rest) => some (digits, rest)

def fractionDigits? : List Char → Option (List Char × List Char)
  | '.' :: word =>
      match word.span Char.isDigit with
      | ([], _) => none
      | (digits, rest) => some (digits, rest)
  | word => some ([], word)

def exponentSign : List Char → Bool × List Char
  | '+' :: word => (false, word)
  | '-' :: word => (true, word)
  | word => (false, word)

def exponent? : List Char → Option (Option Int)
  | [] => some none
  | letter :: word =>
      if letter = 'e' ∨ letter = 'E' then
        let (negative, digits) := exponentSign word
        if digits.isEmpty || !digits.all Char.isDigit then none
        else
          let magnitude : Int := naturalOf digits
          some (some (if negative then -magnitude else magnitude))
      else none

def ofWord? (word : List Char) : Option NumberText := do
  let (negative, word) := match word with
    | '-' :: rest => (true, rest)
    | _ => (false, word)
  let (whole, word) ← wholeDigits? word
  let (fraction, word) ← fractionDigits? word
  let exponent ← exponent? word
  return ⟨negative, whole, fraction, exponent⟩

/-- A whole number that fits 64 bits with its sign is an integer. Every other number is a double,
and so is the negative zero. -/
def value? (text : NumberText) : Option Number :=
  let whole := text.whole.foldl DigitAccumulator.pushWhole {}
  let magnitude := whole.decimal.significand
  let isWhole := text.fraction.isEmpty && text.exponent.isNone && !whole.full
  if isWhole && !text.negative then some (.integer magnitude)
  else if isWhole && 0 < magnitude && magnitude ≤ 1 <<< 63 then some (.integer (-magnitude))
  else
    let all := text.fraction.foldl DigitAccumulator.pushFraction ⟨whole.decimal, false⟩
    let decimal : Decimal :=
      ⟨all.decimal.significand, all.decimal.exponent + text.exponent.getD 0⟩
    (decimal.toDouble? text.negative).map fun double => .float double.toBits

end NumberText

/-- A word is a maximal run of characters outside strings, blanks and punctuation. -/
def ofWord? (word : List Char) : Option Source :=
  if word = "null".toList then some .null
  else if word = "true".toList then some (.bool true)
  else if word = "false".toList then some (.bool false)
  else (NumberText.ofWord? word).map fun text => .number text.value?

/-- The scanner is between tokens, in a word or in a string. Runs are held in reverse. -/
inductive Scanner.Mode where
  | between
  | word (run : List Char)
  | string (run : List Piece)
  | escape (run : List Piece)
  | code (run : List Piece) (value : Nat) (missing : Nat)

structure Scanner where
  tokens : List Token := []
  mode : Scanner.Mode := .between

namespace Scanner

def emit (scanner : Scanner) (token : Token) : Scanner :=
  ⟨token :: scanner.tokens, .between⟩

def isBlank (character : Char) : Bool :=
  character = ' ' || character = '\t' || character = '\n' || character = '\r'

/-- This function ends the current word. -/
def endWord? (scanner : Scanner) : Option Scanner :=
  match scanner.mode with
  | .word run => (ofWord? run.reverse).map fun leaf => scanner.emit (.leaf leaf)
  | .between => some scanner
  | .string _ | .escape _ | .code .. => none

/-- A blank, a mark or a quote ends the current word. -/
def stepOutside? (scanner : Scanner) (character : Char) : Option Scanner :=
  if isBlank character then scanner.endWord?
  else match character with
    | '[' => scanner.endWord?.map (·.emit .openArray)
    | ']' => scanner.endWord?.map (·.emit .closeArray)
    | '\x7b' => scanner.endWord?.map (·.emit .openObject)
    | '\x7d' => scanner.endWord?.map (·.emit .closeObject)
    | ',' => scanner.endWord?.map (·.emit .comma)
    | ':' => scanner.endWord?.map (·.emit .colon)
    | '"' => scanner.endWord?.map fun ended => ⟨ended.tokens, .string []⟩
    | _ =>
      match scanner.mode with
      | .word run => some ⟨scanner.tokens, .word (character :: run)⟩
      | _ => some ⟨scanner.tokens, .word [character]⟩

/-- A string has no raw control character. -/
def step? (scanner : Scanner) (character : Char) : Option Scanner :=
  match scanner.mode with
  | .between | .word _ => scanner.stepOutside? character
  | .string run =>
      if character = '"' then
        some (scanner.emit (.leaf (.string ((Piece.join run.reverse).map String.ofList))))
      else if character = '\\' then some ⟨scanner.tokens, .escape run⟩
      else if character.toNat < 0x20 then none
      else some ⟨scanner.tokens, .string (.character character :: run)⟩
  | .escape run =>
      if character = 'u' then some ⟨scanner.tokens, .code run 0 4⟩
      else (unescape? character).map fun value =>
        ⟨scanner.tokens, .string (.character value :: run)⟩
  | .code run value missing =>
      (Hexadecimal.value? character).map fun digit =>
        if missing = 1 then ⟨scanner.tokens, .string (.ofCode (value * 16 + digit) :: run)⟩
        else ⟨scanner.tokens, .code run (value * 16 + digit) (missing - 1)⟩

end Scanner

def tokens? (text : String) : Option (List Token) := do
  let scanner ← text.toList.foldlM Scanner.step? {}
  let ended ← scanner.endWord?
  return ended.tokens.reverse

/-- A frame is an array or object that is still open. Its parts are held in reverse. -/
inductive Frame where
  | array (items : List Source)
  | object (members : List (Option String × Source)) (name : Option String)

/-- The phase says which tokens may come next. -/
inductive Nesting.Phase where
  | value
  | firstItem
  | firstName
  | name
  | colon
  | next
  | finished (document : Source)

/-- The frames are listed from the innermost one outwards. -/
structure Nesting where
  frames : List Frame := []
  phase : Nesting.Phase := .value

namespace Nesting

/-- This function adds a complete value to the innermost frame. -/
def complete (frames : List Frame) (value : Source) : Nesting :=
  match frames with
  | [] => ⟨[], .finished value⟩
  | .array items :: outer => ⟨.array (value :: items) :: outer, .next⟩
  | .object members name :: outer => ⟨.object ((name, value) :: members) name :: outer, .next⟩

def openValue? (frames : List Frame) : Token → Option Nesting
  | .leaf value => some (complete frames value)
  | .openArray => some ⟨.array [] :: frames, .firstItem⟩
  | .openObject => some ⟨.object [] none :: frames, .firstName⟩
  | .closeArray | .closeObject | .comma | .colon => none

def openName? (frames : List Frame) : Token → Option Nesting
  | .leaf (.string name) =>
      match frames with
      | .object members _ :: outer => some ⟨.object members name :: outer, .colon⟩
      | _ => none
  | _ => none

def close? : List Frame → Token → Option Nesting
  | .array items :: outer, .closeArray => some (complete outer (.array items.reverse))
  | .object members _ :: outer, .closeObject => some (complete outer (.object members.reverse))
  | _, _ => none

def step? (nesting : Nesting) (token : Token) : Option Nesting :=
  match nesting.phase, token with
  | .value, token => openValue? nesting.frames token
  | .firstItem, .closeArray => close? nesting.frames .closeArray
  | .firstItem, token => openValue? nesting.frames token
  | .firstName, .closeObject => close? nesting.frames .closeObject
  | .firstName, token => openName? nesting.frames token
  | .name, token => openName? nesting.frames token
  | .colon, .colon => some ⟨nesting.frames, .value⟩
  | .colon, _ => none
  | .next, .comma =>
      match nesting.frames with
      | .array _ :: _ => some ⟨nesting.frames, .value⟩
      | .object .. :: _ => some ⟨nesting.frames, .name⟩
      | [] => none
  | .next, token => close? nesting.frames token
  | .finished _, _ => none

end Nesting

/-- The text holds exactly one value. -/
def ofText? (text : String) : Option Source := do
  let nesting ← (← tokens? text).foldlM Nesting.step? {}
  match nesting.phase with
  | .finished document => some document
  | _ => none

end Source

end DocumentQuery
