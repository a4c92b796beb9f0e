/-
This file proves that conditions are read back from their tokens.
-/

import DocumentQuery.Proofs.Dialect.Parts

namespace DocumentQuery.Dialect

/-- No condition goes on with these tokens. -/
def EndsCondition (rest : List Token) : Prop :=
  EndsPath rest ∧ ∀ next ∈ rest.head?, next.isKeyword "AND" = false ∧ next.isKeyword "OR" = false

/-- A mark that ends a path ends a condition as well. -/
theorem endsCondition_mark {character : Char} {rest : List Token}
    (ends : EndsPath (.mark character :: rest)) : EndsCondition (.mark character :: rest) := by
  refine ⟨ends, ?_⟩
  intro next first
  cases first
  exact ⟨rfl, rfl⟩

theorem optional?_none {Value : Type} {keyword : String} {reader : Reader Value}
    {rest : List Token} (absent : keyword? keyword rest = none) :
    optional? keyword reader rest = some (none, rest) := by
  simp [optional?, absent]

theorem optional?_some {Value : Type} {keyword : String} {reader : Reader Value}
    {rest later : List Token} {value : Value} (known : keyword ∈ Identifier.keywords)
    (read : reader rest = some (value, later)) :
    optional? keyword reader (.word keyword :: rest) = some (some value, later) := by
  simp [optional?, keyword?_self known, read]

/-- A number is written in digits. -/
theorem isNumber_repr (number : Nat) : isNumber number.repr := by
  have digits : number.repr.toList.all Char.isDigit := by
    rw [Nat.toList_repr, List.all_eq_true]
    intro character member
    exact Nat.isDigit_of_mem_toDigits (by decide) (by decide) member
  have some : number.repr.isEmpty = false := by simp
  rw [isNumber, some, digits]
  rfl

/-- A number is read back. -/
theorem number?_reads (number : Nat) : Reads number? Anything [.word number.repr] number := by
  intro rest _
  have value : Nat.ofDigitChars 10 number.repr.toList 0 = number := by
    rw [Nat.toList_repr]
    exact Nat.ofDigitChars_ten_toDigits
  simp only [number?, word?, List.cons_append, List.nil_append, isNumber_repr, if_true,
    Option.bind_eq_bind, Option.bind_some, value]
  rfl

namespace Condition

section Levels

variable {inner : Reader Condition} {room : Nat} {Follows : List Token → Prop}
  {tokens : List Token} {condition : Condition}

/-- A condition that starts with another token than a negation is read as a primary one. -/
theorem negation?_reads {first : Token} (other : first.isKeyword "NOT" = false)
    (reads : Reads (primary? inner) Follows (first :: tokens) condition) :
    Reads (negation? inner (room + 1)) Follows (first :: tokens) condition := by
  intro rest follows
  have read := reads rest follows
  simp only [List.cons_append] at read ⊢
  simp [negation?, keyword?_of_not other, read]

/-- A single condition is a conjunction when no other one is joined to it. -/
theorem conjunction?_one (reads : Reads (negation? inner room) Follows tokens condition) :
    Reads (conjunction? inner room) (EndsList (Token.isKeyword "AND") Follows) tokens
      condition := by
  intro rest ends
  have read := separated?_one reads rest ends
  simp [conjunction?, read, connect]

/-- A single conjunction is a disjunction when no other one is joined to it. -/
theorem disjunction?_one (reads : Reads (conjunction? inner room) Follows tokens condition) :
    Reads (disjunction? inner room) (EndsList (Token.isKeyword "OR") Follows) tokens
      condition := by
  intro rest ends
  have read := separated?_one reads rest ends
  simp [disjunction?, read, connect]

/-- A primary condition stands for itself on every level. -/
theorem disjunction?_primary {first : Token} (other : first.isKeyword "NOT" = false)
    (reads : Reads (primary? inner) EndsPath (first :: tokens) condition) :
    Reads (disjunction? inner (room + 1)) EndsCondition (first :: tokens) condition := by
  have negation : Reads (negation? inner (room + 1)) EndsPath (first :: tokens) condition :=
    negation?_reads other reads
  have read := disjunction?_one (conjunction?_one negation)
  intro rest ends
  exact read rest ⟨⟨ends.1, fun next first => (ends.2 next first).1⟩,
    fun next first => (ends.2 next first).2⟩

/-- A condition is read back from its group. -/
theorem primary?_group (reads : Reads inner EndsCondition tokens condition) :
    Reads (primary? inner) Anything (grouped tokens) condition := by
  intro rest anything
  have read := groupOf?_reads reads (fun _ => endsCondition_mark trivial) rest anything
  rw [grouped, List.cons_append] at read ⊢
  rw [← read]
  rfl

/-- A group is no negation. -/
theorem negation?_group (reads : Reads inner EndsCondition tokens condition) :
    Reads (negation? inner (room + 1)) Anything (grouped tokens) condition :=
  negation?_reads rfl (primary?_group reads)

/-- A group is a conjunction of its own. -/
theorem conjunction?_group (reads : Reads inner EndsCondition tokens condition) :
    Reads (conjunction? inner (room + 1)) (EndsList (Token.isKeyword "AND") Anything)
      (grouped tokens) condition :=
  conjunction?_one (negation?_group reads)

/-- The groups of a connective are read one by one. -/
theorem connectives_read {parts : List (List Token)} {conditions : List Condition}
    (some : parts ≠ []) (reads : List.Forall₂ (Reads inner EndsCondition) parts conditions) :
    Reads (disjunction? inner (room + 1)) EndsCondition
        (joined (.word "AND") (parts.map grouped)) (connect .all conditions) ∧
      Reads (disjunction? inner (room + 1)) EndsCondition
        (joined (.word "OR") (parts.map grouped)) (connect .any conditions) := by
  have groups : parts.map grouped ≠ [] := by simpa using some
  have isAnd : (Token.word "AND").isKeyword "AND" := isKeyword_self (by decide)
  have isOr : (Token.word "OR").isKeyword "OR" := isKeyword_self (by decide)
  have orAnd : (Token.word "OR").isKeyword "AND" = false :=
    isKeyword_other (by decide) (by decide)
  constructor
  · have factors : List.Forall₂ (Reads (negation? inner (room + 1)) Anything)
        (parts.map grouped) conditions := by
      rw [List.forall₂_map_left_iff]
      exact reads.imp fun _ _ read => negation?_group read
    have conjunction : Reads (conjunction? inner (room + 1))
        (EndsList (Token.isKeyword "AND") Anything)
        (joined (.word "AND") (parts.map grouped)) (connect .all conditions) := by
      intro rest ends
      have read := separated?_reads isAnd (fun _ => trivial) groups factors rest ends
      simp [conjunction?, read]
    intro rest ends
    exact disjunction?_one conjunction rest ⟨⟨trivial, fun next first => (ends.2 next first).1⟩,
      fun next first => (ends.2 next first).2⟩
  · have terms : List.Forall₂ (Reads (conjunction? inner (room + 1))
        (EndsList (Token.isKeyword "AND") Anything)) (parts.map grouped) conditions := by
      rw [List.forall₂_map_left_iff]
      exact reads.imp fun _ _ read => conjunction?_group read
    have continues : ∀ rest, EndsList (Token.isKeyword "AND") Anything (.word "OR" :: rest) := by
      intro rest
      refine ⟨trivial, ?_⟩
      intro next first
      cases first
      exact orAnd
    intro rest ends
    have read := separated?_reads isOr continues groups terms rest
      ⟨⟨trivial, fun next first => (ends.2 next first).1⟩,
        fun next first => (ends.2 next first).2⟩
    simp [disjunction?, read]

/-- The empty conjunction is read back from its constant. -/
theorem true_reads : Reads (primary? inner) EndsPath [.word "true"] (.all []) := by
  have upper : "true".toUpper = "TRUE" := by decide +kernel
  intro rest _
  simp [primary?, upper]

/-- The empty disjunction is read back from its constant. -/
theorem false_reads : Reads (primary? inner) EndsPath [.word "false"] (.any []) := by
  have upper : "false".toUpper = "FALSE" := by decide +kernel
  intro rest _
  simp [primary?, upper]

/-- A search ends before the group that holds it is closed. -/
def Closes (rest : List Token) : Prop :=
  ∃ later, rest = .mark ')' :: later

/-- A search is read up to its source, and its condition is read behind it. -/
theorem search?_opens {bare : Bool} {aliasName : String} {source : Path} {rest : List Token}
    (plain : Identifier.isPlain aliasName) (readable : PathReadable source)
    (ends : EndsPath rest) :
    search? inner (searchTokens bare aliasName source ++ rest) = (do
      let (condition, rest) ← optional? "WHERE" inner rest
      return (.existsIn bare aliasName source condition, rest)) := by
  have located := path?_reads readable rest ends
  have number : ∀ rest, number? (.word "1" :: rest) = some (1, rest) := fun rest =>
    number?_reads 1 rest trivial
  have selects : ∀ rest, keyword? "SELECT" (.word "SELECT" :: rest) = some rest := fun rest =>
    keyword?_self (by decide)
  have froms : ∀ rest, keyword? "FROM" (.word "FROM" :: rest) = some rest := fun rest =>
    keyword?_self (by decide)
  have ins : ∀ rest, keyword? "IN" (.word "IN" :: rest) = some rest := fun rest =>
    keyword?_self (by decide)
  cases bare with
  | true =>
      have bare : ∀ rest, optional? "VALUE" number? (.word "1" :: rest) =
          some (none, .word "1" :: rest) := by
        intro rest
        have other : (Token.word "1").isKeyword "VALUE" = false := by decide +kernel
        exact optional?_none (keyword?_of_not other)
      simp [search?, searchTokens, selects, bare, number, froms, ins, name?_plain plain, located]
  | false =>
      have valued : ∀ rest, optional? "VALUE" number? (.word "VALUE" :: .word "1" :: rest) =
          some (some 1, rest) := fun rest => optional?_some (by decide) (number rest)
      simp [search?, searchTokens, selects, valued, froms, ins, name?_plain plain, located]

/-- A search without a condition is read back. -/
theorem search?_reads {bare : Bool} {aliasName : String} {source : Path}
    (plain : Identifier.isPlain aliasName) (readable : PathReadable source) :
    Reads (search? inner) Closes (searchTokens bare aliasName source)
      (.existsIn bare aliasName source none) := by
  intro rest closes
  obtain ⟨later, rfl⟩ := closes
  have ends : EndsPath (.mark ')' :: later) := trivial
  rw [search?_opens plain readable ends, optional?_none rfl]
  rfl

/-- A search is read back with its condition. -/
theorem search?_where_reads {bare : Bool} {aliasName : String} {source : Path}
    (plain : Identifier.isPlain aliasName) (readable : PathReadable source)
    (reads : Reads inner EndsCondition tokens condition) :
    Reads (search? inner) Closes
      (searchTokens bare aliasName source ++ .word "WHERE" :: tokens)
      (.existsIn bare aliasName source (some condition)) := by
  intro rest closes
  obtain ⟨later, rfl⟩ := closes
  have read := reads (.mark ')' :: later) (endsCondition_mark trivial)
  have ends : EndsPath (.word "WHERE" :: (tokens ++ .mark ')' :: later)) := trivial
  rw [List.append_assoc, List.cons_append, search?_opens plain readable ends,
    optional?_some (by decide) read]
  rfl

/-- A search is the condition that something exists. -/
theorem primary?_exists (reads : Reads (search? inner) Closes tokens condition) :
    Reads (primary? inner) EndsPath (.word "EXISTS" :: grouped tokens) condition := by
  have upper : "EXISTS".toUpper = "EXISTS" := by decide +kernel
  intro rest _
  have read := groupOf?_reads reads (fun later => ⟨later, rfl⟩) rest trivial
  simp [primary?, upper, read]

/-- A comparison is read back with both of its operands. -/
theorem comparison?_reads {operator : String} {left right : Operand}
    (known : operator ∈ comparisonOperators) (leftReadable : left.Readable)
    (rightReadable : right.Readable) :
    Reads comparison? EndsPath (left.tokens ++ .operator operator :: right.tokens)
      (.compare operator left right) := by
  intro rest ends
  have first := operand?_reads leftReadable (.operator operator :: (right.tokens ++ rest)) trivial
  have second := operand?_reads rightReadable rest ends
  simp [comparison?, first, second, comparisonOperator?, known]

/-- A call is read back with its operands. -/
theorem call?_reads {function : String} {operands : List Operand}
    (plain : Identifier.isPlain function) (some : operands ≠ [])
    (readable : ∀ operand ∈ operands, operand.Readable) :
    Reads call? Anything
      (.word function :: grouped (joined (.mark ',') (operands.map Operand.tokens)))
      (.call function operands) := by
  have each : List.Forall₂ (Reads operand? EndsPath) (operands.map Operand.tokens) operands := by
    rw [List.forall₂_map_left_iff, List.forall₂_same]
    exact fun operand member => operand?_reads (readable operand member)
  have list := listed?_reads (fun _ => trivial) (by simpa using some) each
  have closes : ∀ rest, EndsList (· = Token.mark ',') EndsPath (.mark ')' :: rest) := by
    intro rest
    refine ⟨trivial, ?_⟩
    intro next first
    cases first
    decide
  intro rest anything
  have read := groupOf?_reads list closes rest anything
  simp [call?, name?_plain plain, read]

end Levels

/-- A group after a negation is read at the lowest level that has room for both. -/
theorem negation_reads {inner : Reader Condition} {room : Nat} {tokens : List Token}
    {condition : Condition} (reads : Reads inner EndsCondition tokens condition) :
    Reads (disjunction? inner (room + 2)) EndsCondition (.word "NOT" :: grouped tokens)
      (.not condition) := by
  have negation : Reads (negation? inner (room + 2)) Anything (.word "NOT" :: grouped tokens)
      (.not condition) := by
    intro rest anything
    have group : Reads (negation? inner (room + 1)) Anything (grouped tokens) condition :=
      negation?_group reads
    have read := group rest anything
    have known : "NOT" ∈ Identifier.keywords := by decide
    rw [List.cons_append, negation?, keyword?_self known]
    simp only [read, Option.map_some]
  intro rest ends
  exact disjunction?_one (conjunction?_one negation) rest
    ⟨⟨trivial, fun next first => (ends.2 next first).1⟩, fun next first => (ends.2 next first).2⟩

/-- A word that is no keyword is a function before a group and starts a comparison otherwise. -/
theorem primary?_word {inner : Reader Condition} {text : String} {rest : List Token}
    (free : ∀ keyword ∈ Identifier.keywords, (Token.word text).isKeyword keyword = false) :
    primary? inner (.word text :: rest) =
      match rest with
      | .mark '(' :: _ => call? (.word text :: rest)
      | _ => comparison? (.word text :: rest) := by
  have different : ∀ keyword ∈ Identifier.keywords, text.toUpper ≠ keyword := by
    intro keyword known
    simpa [Token.isKeyword] using free keyword known
  simp only [primary?]
  split
  next same => exact absurd same (different "TRUE" (by decide))
  next same => exact absurd same (different "FALSE" (by decide))
  next same => exact absurd same (different "EXISTS" (by decide))
  next => rfl

/-- An operand starts with a word that is no keyword and no function. -/
theorem operand_head {operand : Operand} (readable : operand.Readable) (rest : List Token)
    (text : String) :
    ∃ first later, operand.tokens ++ .operator text :: rest = .word first :: later ∧
      (∀ keyword ∈ Identifier.keywords, (Token.word first).isKeyword keyword = false) ∧
        later.head? ≠ some (.mark '(') := by
  cases operand with
  | parameter name =>
      exact ⟨name, _, rfl, fun keyword known => isKeyword_parameter readable known, by simp⟩
  | «variable» name =>
      exact ⟨variablesAlias, _, rfl,
        fun keyword known => isKeyword_plain variablesAlias_plain known, by simp⟩
  | path column =>
      refine ⟨column.aliasName, _, rfl, fun keyword known => isKeyword_plain readable.1.1 known, ?_⟩
      cases column.fields with
      | nil => simp
      | cons name names =>
          obtain ⟨character, later, spelled, other⟩ := propertyTokens_head name
          simp [spelled, other]

/-- A comparison is a primary condition. -/
theorem primary?_comparison {inner : Reader Condition} {operator : String}
    {left right : Operand} (known : operator ∈ comparisonOperators)
    (leftReadable : left.Readable) (rightReadable : right.Readable) :
    Reads (primary? inner) EndsPath (left.tokens ++ .operator operator :: right.tokens)
      (.compare operator left right) := by
  intro rest ends
  have read := comparison?_reads known leftReadable rightReadable rest ends
  obtain ⟨first, later, spelled, free, other⟩ :=
    operand_head leftReadable (right.tokens ++ rest) operator
  rw [List.append_assoc, List.cons_append, spelled] at read ⊢
  rw [primary?_word free]
  split
  next => simp at other
  next => exact read

/-- A call is a primary condition. -/
theorem primary?_call {inner : Reader Condition} {function : String} {operands : List Operand}
    (plain : Identifier.isPlain function) (some : operands ≠ [])
    (readable : ∀ operand ∈ operands, operand.Readable) :
    Reads (primary? inner) EndsPath
      (.word function :: grouped (joined (.mark ',') (operands.map Operand.tokens)))
      (.call function operands) := by
  intro rest _
  have read := call?_reads plain some readable rest trivial
  rw [List.cons_append] at read ⊢
  rw [primary?_word fun keyword known => isKeyword_plain plain known]
  exact read

/-- Every condition has a token. -/
theorem tokens_length_pos (condition : Condition) : 0 < condition.tokens.length := by
  cases condition with
  | all conditions =>
      rw [tokens]
      cases tokensEach conditions <;> simp [connectiveTokens, joined, grouped]
  | any conditions =>
      rw [tokens]
      cases tokensEach conditions <;> simp [connectiveTokens, joined, grouped]
  | not condition => simp [tokens]
  | existsIn bare aliasName source condition => cases condition <;> simp [tokens]
  | compare operator left right =>
      rw [tokens, List.length_append, List.length_cons]
      omega
  | call function operands => simp [tokens]

/-- The parts of a connective leave room for their groups. -/
theorem length_of_connective (separator constant : String) {parts : List (List Token)}
    {part : List Token} (member : part ∈ parts) :
    part.length + 2 ≤ (connectiveTokens separator constant parts).length := by
  have grouping : grouped part ∈ parts.map grouped := List.mem_map_of_mem member
  have bounded := length_le_joined (.word separator) grouping
  have size : (grouped part).length = part.length + 2 := by simp [grouped]
  cases parts with
  | nil => cases member
  | cons first others =>
      rw [connectiveTokens, ← size]
      · exact bounded
      · simp

mutual

/-- A condition is read back when the room is at least the number of its tokens. -/
theorem within?_reads :
    ∀ (condition : Condition) (room : Nat), condition.Readable →
      condition.tokens.length ≤ room →
        Reads (within? room) EndsCondition condition.tokens condition.unwrapped
  | condition, 0, _, enough => by
      have nonempty := tokens_length_pos condition
      omega
  | .all [], room + 1, _, _ => disjunction?_primary (by decide +kernel) true_reads
  | .any [], room + 1, _, _ => disjunction?_primary (by decide +kernel) false_reads
  | .all (first :: rest), room + 1, readable, enough => by
      have parts := within?_reads_each (first :: rest) room readable fun part member => by
        have bounded := length_of_connective "AND" "true" member
        rw [tokens] at enough
        omega
      exact (connectives_read (by simp [tokensEach]) parts).1
  | .any (first :: rest), room + 1, readable, enough => by
      have parts := within?_reads_each (first :: rest) room readable fun part member => by
        have bounded := length_of_connective "OR" "false" member
        rw [tokens] at enough
        omega
      exact (connectives_read (by simp [tokensEach]) parts).2
  | .not condition, room + 1, readable, enough => by
      rw [tokens, grouped, List.cons_append, List.length_cons, List.length_cons,
        List.length_append] at enough
      obtain ⟨room, rfl⟩ : ∃ smaller, room = smaller + 1 :=
        Nat.exists_eq_add_one_of_ne_zero (by omega)
      have inner := within?_reads condition (room + 1) readable (by omega)
      exact negation_reads inner
  | .existsIn bare aliasName source none, room + 1, readable, _ =>
      disjunction?_primary (by decide +kernel)
        (primary?_exists (search?_reads readable.1 readable.2))
  | .existsIn bare aliasName source (some condition), room + 1, readable, enough => by
      have inner := within?_reads condition room readable.2.2 (by
        simp only [tokens, grouped, List.length_cons, List.length_append] at enough
        omega)
      exact disjunction?_primary (by decide +kernel)
        (primary?_exists (search?_where_reads readable.1 readable.2.1 inner))
  | .compare operator left right, room + 1, readable, _ => by
      obtain ⟨known, leftReadable, rightReadable⟩ := readable
      have primary : Reads (primary? (within? room)) EndsPath _ _ :=
        primary?_comparison known leftReadable rightReadable
      obtain ⟨first, later, spelled, free, _⟩ := operand_head leftReadable right.tokens operator
      rw [spelled] at primary
      rw [tokens, spelled]
      exact disjunction?_primary (free "NOT" (by decide)) primary
  | .call function operands, room + 1, readable, _ =>
      disjunction?_primary (isKeyword_plain readable.1 (by decide))
        (primary?_call readable.1 readable.2.1 readable.2.2)

/-- The parts of a connective are read back when the room is enough for the longest one. -/
theorem within?_reads_each :
    ∀ (conditions : List Condition) (room : Nat), ReadableEach conditions →
      (∀ part ∈ tokensEach conditions, part.length ≤ room) →
        List.Forall₂ (Reads (within? room) EndsCondition) (tokensEach conditions)
          (unwrappedEach conditions)
  | [], _, _, _ => .nil
  | condition :: rest, room, readable, enough =>
      .cons (within?_reads condition room readable.1 (enough _ (List.mem_cons_self ..)))
        (within?_reads_each rest room readable.2 fun part member =>
          enough part (List.mem_cons_of_mem _ member))

end

end Condition

/-- Every readable condition is read back from its tokens. -/
theorem condition?_reads {condition : Condition} (readable : condition.Readable) :
    Reads condition? EndsCondition condition.tokens condition.unwrapped := by
  intro rest ends
  have enough : condition.tokens.length ≤ (condition.tokens ++ rest).length := by simp
  exact Condition.within?_reads condition _ readable enough rest ends

/-- Without groups, negation binds tightest and disjunction loosest. -/
example : condition? (["not", "TRUE", "and", "false", "Or", "true"].map .word) =
    some (.any [.all [.not (.all []), .any []], .all []], []) := by
  cbv

end DocumentQuery.Dialect
