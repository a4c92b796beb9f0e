/-
This file lists the joins and variables that a query tree mentions in the order of its text.
-/

import DocumentQuery.Proofs.Dialect.Pieces

namespace DocumentQuery

namespace Dialect

/-- A tree mentions the joins that it makes and the variables that it refers to. -/
inductive Mention where
  | join (join : Join)
  | variable (name : String)
  deriving DecidableEq

def Operand.mentions : Operand → List Mention
  | .variable name => [.variable name]
  | .path _ | .parameter _ => []

namespace Condition

mutual

/-- The mentions of a condition are listed in the order of its text. -/
def mentions : Condition → List Mention
  | .all conditions | .any conditions => mentionsOfEach conditions
  | .not condition => condition.mentions
  | .existsIn _ _ _ none => []
  | .existsIn _ _ _ (some condition) => condition.mentions
  | .compare _ left right => left.mentions ++ right.mentions
  | .call _ operands => operands.flatMap Operand.mentions

def mentionsOfEach : List Condition → List Mention
  | [] => []
  | condition :: rest => condition.mentions ++ mentionsOfEach rest

end

end Condition

/-- The joins of a query are written before its condition. -/
def Clauses.mentions (clauses : Clauses) : List Mention :=
  clauses.joins.map .join ++ (clauses.condition.map Condition.mentions).getD []

mutual

def Item.mentions : Item → List Mention
  | .path _ | .orNull _ | .aggregate _ => []
  | .array query | .single query => query.mentions

/-- The items of a query are written before its clauses. -/
def Query.mentions : Query → List Mention
  | ⟨_, items, clauses⟩ => mentionsOfItems items ++ clauses.mentions

def mentionsOfItems : List (Option String × Item) → List Mention
  | [] => []
  | (_, item) :: rest => item.mentions ++ mentionsOfItems rest

end

namespace Condition

/-- A connective of one condition mentions what that condition does. -/
theorem connect_mentions {connective : List Condition → Condition}
    (gathered : ∀ conditions, (connective conditions).mentions = mentionsOfEach conditions)
    (conditions : List Condition) :
    (connect connective conditions).mentions = mentionsOfEach conditions := by
  unfold connect
  split
  next condition => simp [mentionsOfEach]
  next => exact gathered conditions

mutual

/-- The induction is on the condition. Unwrapping it keeps what its parts mention. -/
theorem unwrapped_mentions :
    ∀ condition : Condition, condition.unwrapped.mentions = condition.mentions
  | .all conditions => by
      rw [unwrapped, connect_mentions fun _ => by rw [mentions], mentions,
        unwrappedEach_mentions conditions]
  | .any conditions => by
      rw [unwrapped, connect_mentions fun _ => by rw [mentions], mentions,
        unwrappedEach_mentions conditions]
  | .not condition => unwrapped_mentions condition
  | .existsIn _ _ _ none => rfl
  | .existsIn _ _ _ (some condition) => unwrapped_mentions condition
  | .compare _ _ _ => rfl
  | .call _ _ => rfl

/-- Unwrapped conditions mention what they did before. -/
theorem unwrappedEach_mentions :
    ∀ conditions : List Condition, mentionsOfEach (unwrappedEach conditions) =
      mentionsOfEach conditions
  | [] => rfl
  | condition :: rest => by
      rw [unwrappedEach, mentionsOfEach, mentionsOfEach, unwrapped_mentions condition,
        unwrappedEach_mentions rest]

end

end Condition

/-- The clauses mention what they did before their condition was unwrapped. -/
theorem Clauses.unwrapped_mentions (clauses : Clauses) :
    clauses.unwrapped.mentions = clauses.mentions := by
  obtain ⟨origin, joins, condition, sortKeys, page⟩ := clauses
  cases condition with
  | none => rfl
  | some condition =>
      simp only [unwrapped, mentions, Option.map_some, Option.getD_some,
        condition.unwrapped_mentions]

mutual

/-- An item mentions what it did before the query inside it was unwrapped. -/
theorem Item.unwrapped_mentions : ∀ item : Item, item.unwrapped.mentions = item.mentions
  | .path _ | .orNull _ | .aggregate _ => rfl
  | .array query => Query.unwrapped_mentions query
  | .single query => Query.unwrapped_mentions query

/-- Unwrapping connectives of one condition keeps every mention in its place. -/
theorem Query.unwrapped_mentions : ∀ query : Query, query.unwrapped.mentions = query.mentions
  | ⟨form, items, clauses⟩ => by
      rw [Query.unwrapped, Query.mentions, Query.mentions, unwrappedItems_mentions items,
        clauses.unwrapped_mentions]

/-- Unwrapped items mention what they did before. -/
theorem unwrappedItems_mentions :
    ∀ items : List (Option String × Item), mentionsOfItems (unwrappedItems items) =
      mentionsOfItems items
  | [] => rfl
  | (_, item) :: rest => by
      rw [unwrappedItems, mentionsOfItems, mentionsOfItems, Item.unwrapped_mentions item,
        unwrappedItems_mentions rest]

end

/-- A variable is the property of the joined set that has its name. -/
def Mention.piece : Mention → Piece
  | .join added => .fixed (" " ++ joinText added)
  | .variable name => .fixed (variablesAlias ++ "[" ++ Literal.quote name ++ "]")

section Writing

/-- Separators stand between the parts and remove none of them. -/
theorem flatten_sublist_separated (separator : String) (parts : List (List Piece)) :
    parts.flatten.Sublist (separated separator parts) := by
  have behind : ∀ rest : List (List Piece),
      rest.flatten.Sublist (rest.flatMap (.fixed separator :: ·)) := by
    intro rest
    induction rest with
    | nil => exact .slnil
    | cons part others continued =>
        rw [List.flatten_cons, List.flatMap_cons]
        exact (List.sublist_cons_self _ part).append continued
  cases parts with
  | nil => exact .slnil
  | cons first rest => exact (List.Sublist.refl first).append (behind rest)

/-- Parentheses stand around the pieces and remove none of them. -/
theorem sublist_enclosed (pieces : List Piece) : pieces.Sublist (enclosed pieces) :=
  (List.sublist_append_left pieces _).cons _

/-- A variable is written where its operand is. -/
theorem Operand.mentions_written (operand : Operand) :
    (operand.mentions.map Mention.piece).Sublist operand.pieces := by
  cases operand with
  | path column => exact List.nil_sublist _
  | parameter name => exact List.nil_sublist _
  | «variable» name => exact .refl _

namespace Condition

/-- A connective writes its parts in their order. -/
theorem flatten_sublist_connective (separator constant : String) (parts : List (List Piece)) :
    parts.flatten.Sublist (connectivePieces separator constant parts) := by
  have grouped : ∀ parts : List (List Piece),
      parts.flatten.Sublist (parts.map enclosed).flatten := by
    intro parts
    induction parts with
    | nil => exact .slnil
    | cons part others continued => exact (sublist_enclosed part).append continued
  cases parts with
  | nil => exact List.nil_sublist _
  | cons first rest => exact (grouped _).trans (flatten_sublist_separated separator _)

mutual

/-- The induction is on the condition. Every mention in it is written in its place. -/
theorem mentions_written :
    ∀ condition : Condition, (condition.mentions.map Mention.piece).Sublist condition.pieces
  | .all conditions =>
      (mentionsOfEach_written conditions).trans (flatten_sublist_connective " AND " "true" _)
  | .any conditions =>
      (mentionsOfEach_written conditions).trans (flatten_sublist_connective " OR " "false" _)
  | .not condition =>
      ((mentions_written condition).trans (List.sublist_append_left _ _)).cons _
  | .existsIn _ _ _ none => List.nil_sublist _
  | .existsIn _ _ _ (some condition) =>
      (((mentions_written condition).trans (List.sublist_append_left _ _)).cons _).cons _
  | .compare _ left right => by
      rw [mentions, pieces, List.map_append]
      exact left.mentions_written.append (right.mentions_written.cons _)
  | .call _ operands => by
      have each : ((operands.flatMap Operand.mentions).map Mention.piece).Sublist
          (operands.map Operand.pieces).flatten := by
        induction operands with
        | nil => exact .slnil
        | cons operand rest continued =>
            rw [List.flatMap_cons, List.map_append, List.map_cons, List.flatten_cons]
            exact operand.mentions_written.append continued
      exact ((each.trans (flatten_sublist_separated ", " _)).trans
        (List.sublist_append_left _ _)).cons _

/-- The mentions of a list are written one condition behind the other. -/
theorem mentionsOfEach_written :
    ∀ conditions : List Condition,
      ((mentionsOfEach conditions).map Mention.piece).Sublist (piecesEach conditions).flatten
  | [] => .slnil
  | condition :: rest => by
      rw [mentionsOfEach, List.map_append, piecesEach, List.flatten_cons]
      exact (mentions_written condition).append (mentionsOfEach_written rest)

end

end Condition

/-- Every mention in the clauses is written in its place. -/
theorem Clauses.mentions_written (clauses : Clauses) :
    (clauses.mentions.map Mention.piece).Sublist clauses.pieces := by
  have conditioned :
      (((clauses.condition.map Condition.mentions).getD []).map Mention.piece).Sublist
        (clausePieces " WHERE " Condition.pieces clauses.condition) := by
    cases clauses.condition with
    | none => exact .slnil
    | some condition => exact condition.mentions_written.cons _
  have joined : clauses.joins.map (Mention.piece ∘ .join) =
      clauses.joins.map fun join => .fixed (" " ++ joinText join) := rfl
  rw [mentions, List.map_append, List.map_map, joined, pieces]
  refine List.Sublist.trans ?_ (List.sublist_append_left _ _)
  refine List.Sublist.trans ?_ (List.sublist_append_left _ _)
  rw [List.append_assoc]
  exact ((List.Sublist.refl _).append conditioned).trans (List.sublist_append_right _ _)

end Writing

end Dialect

end DocumentQuery
