/-
This file says letter by letter which names are safe and which are keywords.
-/

import DocumentQuery.Proofs.Naming
import Mathlib.Data.List.Forall2

namespace DocumentQuery.Identifier

variable {name : String} {character : Char}

def IsLetter (character : Char) : Prop :=
  ('A' ≤ character ∧ character ≤ 'Z') ∨ ('a' ≤ character ∧ character ≤ 'z')

def IsDigit (character : Char) : Prop :=
  '0' ≤ character ∧ character ≤ '9'

/-- The whole name is matched by `[A-Za-z_][A-Za-z0-9_]*`. -/
def Matches (name : String) : Prop :=
  ∃ first rest, name.toList = first :: rest ∧ (IsLetter first ∨ first = '_') ∧
    ∀ character ∈ rest, IsLetter character ∨ IsDigit character ∨ character = '_'

/-- A letter is a capital or a small letter. -/
theorem isAlpha_iff : character.isAlpha ↔ IsLetter character := by
  have capital : character.isUpper ↔ 'A' ≤ character ∧ character ≤ 'Z' :=
    decide_eq_true_iff
  have small : character.isLower ↔ 'a' ≤ character ∧ character ≤ 'z' :=
    Bool.and_eq_true_iff.trans (and_congr decide_eq_true_iff decide_eq_true_iff)
  exact Bool.or_eq_true_iff.trans (or_congr capital small)

theorem isDigit_iff : character.isDigit ↔ IsDigit character :=
  Bool.and_eq_true_iff.trans (and_congr decide_eq_true_iff decide_eq_true_iff)

/-- A name starts with a letter or an underscore. -/
theorem isFirst_iff : isFirst character ↔ IsLetter character ∨ character = '_' := by
  rw [isFirst, Bool.or_eq_true_iff, isAlpha_iff, decide_eq_true_iff]

/-- A name goes on with letters, digits and underscores. -/
theorem isLater_iff :
    isLater character ↔ IsLetter character ∨ IsDigit character ∨ character = '_' := by
  simp [isLater, Char.isAlphanum, isAlpha_iff, isDigit_iff, or_assoc]

/-- Safe names are exactly those that the pattern matches. -/
theorem isSafe_iff_matches : isSafe name ↔ Matches name := by
  simp only [isSafe_iff, isFirst_iff, isLater_iff, Matches]

/-- The name has the letters of the keyword, each of them capital or small. -/
def Spells (name keyword : String) : Prop :=
  List.Forall₂ (fun letter capital => letter = capital ∨ letter = capital.toLower) name.toList
    keyword.toList

/-- The name is a keyword in some case of its letters. -/
def SpellsKeyword (name : String) : Prop :=
  ∃ keyword ∈ keywords, Spells name keyword

/-- A small letter stands 32 codes behind its capital. -/
theorem toNat_toUpper (character : Char) : character.toUpper.toNat =
    if 97 ≤ character.toNat ∧ character.toNat ≤ 122 then character.toNat - 32
    else character.toNat := by
  unfold Char.toUpper
  split
  next small =>
    have codes : 97 ≤ character.toNat ∧ character.toNat ≤ 122 := small
    rw [if_pos codes]
    change (character.val + 4294967264).toNat = character.toNat - 32
    rw [UInt32.toNat_add, Char.toNat_val]
    change (character.toNat + 4294967264) % 2 ^ 32 = character.toNat - 32
    omega
  next unmoved =>
    have codes : ¬ (97 ≤ character.toNat ∧ character.toNat ≤ 122) := unmoved
    rw [if_neg codes]

/-- A capital stands 32 codes before its small letter. -/
theorem toNat_toLower (character : Char) : character.toLower.toNat =
    if 65 ≤ character.toNat ∧ character.toNat ≤ 90 then character.toNat + 32
    else character.toNat := by
  unfold Char.toLower
  split
  next capital =>
    have codes : 65 ≤ character.toNat ∧ character.toNat ≤ 90 := capital
    rw [if_pos codes]
    change (character.val + 32).toNat = character.toNat + 32
    rw [UInt32.toNat_add, Char.toNat_val]
    change (character.toNat + 32) % 2 ^ 32 = character.toNat + 32
    omega
  next unmoved =>
    have codes : ¬ (65 ≤ character.toNat ∧ character.toNat ≤ 90) := unmoved
    rw [if_neg codes]

/-- A character is its own capital, or it is the small letter of its capital. -/
theorem eq_toUpper_or (character : Char) :
    character = character.toUpper ∨ character = character.toUpper.toLower := by
  simp only [← Char.toNat_inj, toNat_toUpper, toNat_toLower]
  grind

/-- A letter that is a keyword's letter in some case has the same capital. -/
theorem toUpper_of_either {letter capital : Char}
    (either : letter = capital ∨ letter = capital.toLower) : letter.toUpper = capital.toUpper := by
  rcases either with rfl | rfl
  · rfl
  · simp only [← Char.toNat_inj, toNat_toUpper, toNat_toLower]
    grind

/-- Every name has the letters of its upper case. -/
theorem spells_toUpper (name : String) : Spells name name.toUpper := by
  rw [Spells, String.toUpper, String.toList_map, List.forall₂_map_right_iff]
  exact List.forall₂_same.mpr fun character _ => eq_toUpper_or character

/-- Names with the same letters have the same upper case. -/
theorem toUpper_of_spells {keyword : String} (spelled : Spells name keyword) :
    name.toUpper = keyword.toUpper := by
  rw [← String.toList_inj, String.toUpper, String.toUpper, String.toList_map, String.toList_map]
  unfold Spells at spelled
  generalize keyword.toList = capitals at spelled ⊢
  generalize name.toList = letters at spelled ⊢
  induction spelled with
  | nil => rfl
  | cons first _ continued =>
      rw [List.map_cons, List.map_cons, continued, toUpper_of_either first]

/-- A name is taken for a keyword exactly when it has the letters of one. -/
theorem isKeyword_iff : isKeyword name ↔ SpellsKeyword name := by
  rw [isKeyword, List.contains_iff_mem]
  constructor
  · intro known
    exact ⟨name.toUpper, known, spells_toUpper name⟩
  · rintro ⟨keyword, known, spelled⟩
    rw [toUpper_of_spells spelled, toUpper_of_keyword known]
    exact known

end DocumentQuery.Identifier
