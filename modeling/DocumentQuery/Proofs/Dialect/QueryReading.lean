/-
This file proves that queries are read back from their tokens.
-/

import DocumentQuery.Proofs.Dialect.ClauseReading

namespace DocumentQuery.Dialect

/-- No item goes on with these tokens. -/
def EndsItem : List Token → Prop
  | .mark '.' :: _ | .mark '[' :: _ | .mark '(' :: _ | .operator _ :: _ => False
  | _ => True

/-- A path ends where an item does. -/
theorem EndsItem.path {rest : List Token} (ends : EndsItem rest) : EndsPath rest := by
  unfold EndsPath
  split
  next => cases ends
  next => cases ends
  next => trivial

/-- An item ends where a clause does. -/
theorem EndsAt.item {keywords : List String} {rest : List Token} (ends : EndsAt keywords rest) :
    EndsItem rest := by
  unfold EndsItem
  split
  next => exact absurd ends (by simp [EndsAt])
  next => exact absurd ends (by simp [EndsAt])
  next => exact absurd ends (by simp [EndsAt])
  next => cases ends
  next => trivial

/-- The name of the count is no keyword of the clauses. -/
theorem countWord : (Token.word "COUNT").isKeyword "COUNT" ∧ Identifier.isPlain "COUNT" ∧
    "COUNT".toUpper = "COUNT" := by
  decide +kernel

/-- An aggregate is read back with its function and its column. -/
theorem aggregate?_reads {call : AggregateCall} (readable : call.Readable) :
    Reads aggregate? Anything call.tokens call := by
  intro rest anything
  cases call with
  | call function column =>
      have notDistinct : ∀ rest, keyword? "DISTINCT" (.word function :: rest) = none := fun _ =>
        keyword?_of_not (isKeyword_plain readable.1 (by decide))
      have counted : ∀ rest, groupOf? countedAll? (grouped (pathTokens column) ++ rest) = none := by
        intro rest
        have notOne : column.aliasName ≠ "1" := by
          intro one
          have plain := readable.2.1
          rw [one] at plain
          exact absurd plain (by decide +kernel)
        simp [groupOf?, grouped, pathTokens, mark?_self, countedAll?, notOne]
      have read := groupOf?_reads (path?_reads readable.2) (fun _ => trivial) rest anything
      simp [aggregate?, AggregateCall.tokens, notDistinct, name?_plain readable.1, counted, read]
  | distinctCount column =>
      have isDistinct : ∀ rest, keyword? "DISTINCT" (.word "DISTINCT" :: rest) = some rest :=
        fun _ => keyword?_self (by decide)
      have read := groupOf?_reads (path?_reads readable) (fun _ => trivial) rest anything
      have isCount : ∀ rest, keyword? "COUNT" (.word "COUNT" :: rest) = some rest := fun _ => by
        rw [keyword?, if_pos countWord.1]
      simp [aggregate?, AggregateCall.tokens, isDistinct, isCount, read]
  | countAll =>
      have notDistinct : ∀ rest, keyword? "DISTINCT" (.word "COUNT" :: rest) = none := fun _ =>
        keyword?_of_not (isKeyword_plain countWord.2.1 (by decide))
      simp [aggregate?, AggregateCall.tokens, notDistinct, name?_plain countWord.2.1, groupOf?,
        mark?_self, countedAll?, countWord.2.2]

/-- An aggregate is recognised by its first tokens. -/
theorem startsAggregate_call {call : AggregateCall} (readable : call.Readable)
    (rest : List Token) : startsAggregate (call.tokens ++ rest) := by
  cases call with
  | call function column =>
      have notArray : (Token.word function).isKeyword "ARRAY" = false :=
        isKeyword_plain readable.1 (by decide)
      simp [startsAggregate, AggregateCall.tokens, grouped, notArray]
  | distinctCount column =>
      have isDistinct : (Token.word "DISTINCT").isKeyword "DISTINCT" :=
        isKeyword_self (by decide)
      simp [startsAggregate, AggregateCall.tokens, isDistinct]
  | countAll =>
      have notArray : (Token.word "COUNT").isKeyword "ARRAY" = false :=
        isKeyword_plain countWord.2.1 (by decide)
      simp [startsAggregate, AggregateCall.tokens, notArray]

/-- A query starts with its keyword. -/
theorem query_head (query : Query) : ∃ later, query.tokens = .word "SELECT" :: later := by
  obtain ⟨form, items, clauses⟩ := query
  exact ⟨_, rfl⟩

section Expressions

variable {inner : Reader Query} {form : ProjectionForm}

/-- After its alias, a column goes on with a property or ends. -/
theorem column_second (column : Path) {rest : List Token} (ends : rest.head? ≠ some (.mark '(')) :
    (column.fields.flatMap propertyTokens ++ rest).head? ≠ some (.mark '(') := by
  cases column.fields with
  | nil => exact ends
  | cons name names =>
      obtain ⟨character, later, spelled, other⟩ := propertyTokens_head name
      simp [spelled, other]

/-- Where an item ends, no group starts. -/
theorem EndsItem.notGroup {rest : List Token} (ends : EndsItem rest) :
    rest.head? ≠ some (.mark '(') := by
  intro first
  cases rest with
  | nil => cases first
  | cons next later =>
      cases first
      cases ends

/-- A column is not taken for an aggregate. -/
theorem startsAggregate_column {column : Path} {rest : List Token}
    (plain : Identifier.isPlain column.aliasName) (ends : rest.head? ≠ some (.mark '(')) :
    startsAggregate (pathTokens column ++ rest) = false := by
  have notDistinct : (Token.word column.aliasName).isKeyword "DISTINCT" = false :=
    isKeyword_plain plain (by decide)
  have second := column_second column ends
  rw [pathTokens, List.cons_append]
  cases spelled : column.fields.flatMap propertyTokens ++ rest with
  | nil => rfl
  | cons next later =>
      rw [spelled] at second
      have other : next ≠ .mark '(' := by simpa using second
      simp [startsAggregate, notDistinct, other]

/-- An item that is no aggregate is not taken for one. -/
theorem startsAggregate_expression {item : Item} {rest : List Token} (readable : item.Readable)
    (plain : ¬ item.IsAggregate) (ends : EndsItem rest) :
    startsAggregate (item.tokens form ++ rest) = false := by
  cases item with
  | aggregate call => exact absurd trivial plain
  | path column => exact startsAggregate_column readable.1 ends.notGroup
  | orNull column =>
      rw [Item.tokens, List.append_assoc]
      exact startsAggregate_column readable.1 (by simp)
  | array query =>
      have notDistinct : (Token.word "ARRAY").isKeyword "DISTINCT" = false :=
        isKeyword_other (by decide) (by decide)
      have isArray : (Token.word "ARRAY").isKeyword "ARRAY" := isKeyword_self (by decide)
      have notMark : (Token.mark '(').isKeyword "DISTINCT" = false := rfl
      rw [Item.tokens]
      split
      · simp [startsAggregate, grouped, notDistinct, isArray]
      · simp [startsAggregate, grouped, notMark]
  | single query =>
      obtain ⟨later, spelled⟩ := query_head query
      have notMark : (Token.mark '(').isKeyword "DISTINCT" = false := rfl
      simp [Item.tokens, startsAggregate, grouped, spelled, notMark]

/-- A column is read with the null it falls back to. -/
theorem expression?_path {column : Path} (readable : PathReadable column) :
    Reads (expression? inner) EndsItem (pathTokens column) (.path column) := by
  intro rest ends
  have located := path?_reads readable rest ends.path
  have notArray : ∀ rest, keyword? "ARRAY" (.word column.aliasName :: rest) = none := fun _ =>
    keyword?_of_not (isKeyword_plain readable.1 (by decide))
  have notGroup : ∀ rest, mark? '(' (.word column.aliasName :: rest) = none := fun _ => rfl
  have read : column? (pathTokens column ++ rest) = some (.path column, rest) := by
    rw [column?, located]
    simp only [Option.bind_eq_bind, Option.bind_some]
    split
    next => cases ends
    next => rfl
  simp only [pathTokens, List.cons_append] at read ⊢
  simp [expression?, notArray, notGroup, read]

/-- A column that falls back to null is read back. -/
theorem expression?_orNull {column : Path} (readable : PathReadable column) :
    Reads (expression? inner) Anything (pathTokens column ++ [.operator "??", .word "null"])
      (.orNull column) := by
  intro rest _
  have located := path?_reads readable (.operator "??" :: .word "null" :: rest) trivial
  have notArray : ∀ rest, keyword? "ARRAY" (.word column.aliasName :: rest) = none := fun _ =>
    keyword?_of_not (isKeyword_plain readable.1 (by decide))
  have notGroup : ∀ rest, mark? '(' (.word column.aliasName :: rest) = none := fun _ => rfl
  have isNull : keyword? "NULL" (.word "null" :: rest) = some rest := by
    rw [keyword?, if_pos (by decide +kernel)]
  have read : column? (pathTokens column ++ .operator "??" :: .word "null" :: rest) =
      some (.orNull column, rest) := by
    simp [column?, located, isNull]
  rw [List.append_assoc]
  simp only [pathTokens, List.cons_append, List.nil_append] at read ⊢
  simp [expression?, notArray, notGroup, read]

variable {query value : Query}

/-- An array is read back when its query is. -/
theorem array?_reads (reads : Reads inner (EndsAt []) query.tokens value) :
    Reads (array? inner) Anything (.word "ARRAY" :: grouped query.tokens) (.array value) := by
  intro rest anything
  have isArray : ∀ rest, keyword? "ARRAY" (.word "ARRAY" :: rest) = some rest := fun _ =>
    keyword?_self (by decide)
  have read := groupOf?_reads reads (fun _ => rfl) rest anything
  simp [array?, isArray, read]

/-- An array is read back as an item, with parentheses around it or without them. -/
theorem expression?_array (reads : Reads inner (EndsAt []) query.tokens value) :
    Reads (expression? inner) Anything ((Item.array query).tokens form) (.array value) := by
  intro rest anything
  have isArray : ∀ rest, keyword? "ARRAY" (.word "ARRAY" :: rest) = some rest := fun _ =>
    keyword?_self (by decide)
  have read := array?_reads reads
  rw [Item.tokens]
  split
  · have noGroup : ∀ rest, mark? '(' (.word "ARRAY" :: rest) = none := fun _ => rfl
    have direct := read rest anything
    rw [List.cons_append] at direct ⊢
    simp only [expression?, noGroup, isArray, direct]
  · have outer := groupOf?_reads read (fun _ => trivial) rest anything
    have opened : ∀ rest, mark? '(' (.mark '(' :: rest) = some rest := fun _ => mark?_self
    rw [grouped, List.cons_append, List.cons_append] at outer ⊢
    simp only [List.cons_append] at outer ⊢
    simpa only [expression?, opened, isArray, Option.isSome_some, if_true] using outer

/-- A single value is read back when its query is. -/
theorem expression?_single (reads : Reads inner (EndsAt []) query.tokens value) :
    Reads (expression? inner) Anything (grouped query.tokens) (.single value) := by
  intro rest anything
  have alone : Reads (single? inner) (EndsAt []) query.tokens (.single value) := by
    intro rest ends
    simp [single?, reads rest ends]
  have read := groupOf?_reads alone (fun _ => rfl) rest anything
  obtain ⟨later, spelled⟩ := query_head query
  have notArray : ∀ rest, keyword? "ARRAY" (.word "SELECT" :: rest) = none := fun _ =>
    keyword?_of_not (isKeyword_other (by decide) (by decide))
  have opened : ∀ rest, mark? '(' (.mark '(' :: rest) = some rest := fun _ => mark?_self
  rw [spelled, grouped] at read ⊢
  simp only [List.cons_append] at read ⊢
  simpa only [expression?, opened, notArray, Option.isSome_none, Bool.false_eq_true, if_false]
    using read

/-- Before its alias, an aggregate and an expression are told apart by their first two tokens. -/
theorem item?_reads {item read : Item} (readable : item.Readable)
    (calls : item.IsAggregate → read = item)
    (reads : ¬ item.IsAggregate → Reads (expression? inner) EndsItem (item.tokens form) read) :
    Reads (item? inner) (fun rest => ∃ later, rest = .word "AS" :: later) (item.tokens form)
      read := by
  intro rest follows
  obtain ⟨later, rfl⟩ := follows
  have ends : EndsItem (.word "AS" :: later) := trivial
  by_cases aggregate : item.IsAggregate
  · rw [calls aggregate]
    cases item with
    | aggregate call =>
        have starts := startsAggregate_call readable (.word "AS" :: later)
        have taken := aggregate?_reads readable (.word "AS" :: later) trivial
        simp [item?, Item.tokens, starts, taken]
    | path column => cases aggregate
    | orNull column => cases aggregate
    | array query => cases aggregate
    | single query => cases aggregate
  · have starts : startsAggregate (item.tokens form ++ .word "AS" :: later) = false :=
      startsAggregate_expression readable aggregate ends
    simp [item?, starts, reads aggregate _ ends]

/-- Each form has its own reader of entries. -/
def entryReader (inner : Reader Query) : ProjectionForm → Reader (Option String × Item)
  | .aliased => aliased? inner
  | .keyed => member? inner
  | .values | .empty => value? inner

/-- An entry is read back with its alias in the form of the columns. -/
theorem entry_reads {aliasName : Option String} {item read : Item}
    (entry : EntryReadable form aliasName item) (readable : item.Readable)
    (calls : item.IsAggregate → read = item)
    (reads : ¬ item.IsAggregate → Reads (expression? inner) EndsItem (item.tokens form) read) :
    Reads (entryReader inner form) EndsItem (entryTokens form aliasName (item.tokens form))
      (aliasName, read) := by
  intro rest ends
  cases form with
  | empty => cases entry
  | values =>
      obtain ⟨rfl, plain⟩ := entry
      simp [entryReader, value?, entryTokens, reads plain rest ends]
  | aliased =>
      obtain ⟨name, rfl, plain⟩ := entry
      have taken := item?_reads readable calls reads (.word "AS" :: .word name :: rest) ⟨_, rfl⟩
      have isAs : ∀ rest, keyword? "AS" (.word "AS" :: rest) = some rest := fun _ =>
        keyword?_self (by decide)
      simp [entryReader, aliased?, entryTokens, taken, isAs, name?_plain plain]
  | keyed =>
      obtain ⟨⟨name, rfl⟩, plain⟩ := entry
      simp [entryReader, member?, entryTokens, literal?, mark?_self, reads plain rest ends]

/-- An entry starts neither as a keyword of the columns does nor with a brace. -/
def StartsEntry (tokens : List Token) : Prop :=
  ∃ first later, tokens = first :: later ∧ first.isKeyword "VALUE" = false ∧
    first ≠ .mark '\x7b' ∧ first ≠ .mark '\x7d'

/-- A plain name starts an entry. -/
theorem startsEntry_plain {name : String} {later : List Token} (plain : Identifier.isPlain name) :
    StartsEntry (.word name :: later) :=
  ⟨_, later, rfl, isKeyword_plain plain (by decide), by simp, by simp⟩

/-- Every readable item starts an entry. -/
theorem item_starts {item : Item} (readable : item.Readable) : StartsEntry (item.tokens form) := by
  have group : ∀ later, StartsEntry (.mark '(' :: later) := fun later =>
    ⟨_, later, rfl, rfl, by decide, by decide⟩
  have keyword : ∀ {text : String} {later : List Token}, text ∈ Identifier.keywords →
      text ≠ "VALUE" → StartsEntry (.word text :: later) := fun known different =>
    ⟨_, _, rfl, isKeyword_other known different, by simp, by simp⟩
  cases item with
  | path column => exact startsEntry_plain readable.1
  | orNull column => exact startsEntry_plain readable.1
  | aggregate call =>
      cases call with
      | call function column => exact startsEntry_plain readable.1
      | distinctCount column => exact keyword (by decide) (by decide)
      | countAll => exact startsEntry_plain countWord.2.1
  | array query =>
      rw [Item.tokens]
      split
      · exact keyword (by decide) (by decide)
      · exact group _
  | single query => exact group _

/-- Every readable entry starts as one. -/
theorem entry_starts {aliasName : Option String} {item : Item}
    (entry : EntryReadable form aliasName item) (readable : item.Readable) :
    StartsEntry (entryTokens form aliasName (item.tokens form)) := by
  have starts : StartsEntry (item.tokens form) := item_starts readable
  cases form with
  | empty => cases entry
  | values => exact starts
  | aliased =>
      obtain ⟨name, rfl, _⟩ := entry
      obtain ⟨first, later, spelled, others⟩ := starts
      exact ⟨first, later ++ [.word "AS", .word name], by simp [entryTokens, spelled], others⟩
  | keyed =>
      obtain ⟨⟨name, rfl⟩, _⟩ := entry
      exact ⟨.literal name, _, rfl, rfl, by simp, by simp⟩

/-- The list of items ends where the clauses of a query start. -/
theorem endsItem_list {rest : List Token} (ends : EndsAt clauseKeywords rest) :
    EndsList (· = .mark ',') EndsItem rest :=
  ends.list ends.item

/-- A single value is read behind its keyword. -/
theorem columns?_value {token : Token} {later : List Token} (other : token ≠ .mark '\x7b') :
    columns? inner (.word "VALUE" :: token :: later) =
      (value? inner (token :: later)).map fun (item, rest) => ((.values, [item]), rest) := by
  have isValue : keyword? "VALUE" (.word "VALUE" :: token :: later) = some (token :: later) :=
    keyword?_self (by decide)
  simp only [columns?, isValue]
  split
  next absent => cases absent
  next same => exact absurd (List.cons.inj (Option.some.inj same)).1 other
  next same => exact absurd (List.cons.inj (Option.some.inj same)).1 other
  next same =>
    cases same
    rfl

/-- The members of an object are read between braces. -/
theorem columns?_members {token : Token} {later : List Token} (other : token ≠ .mark '\x7d') :
    columns? inner (.word "VALUE" :: .mark '\x7b' :: token :: later) = (do
      let (members, rest) ← listed? (member? inner) (token :: later)
      return ((.keyed, members), ← mark? '\x7d' rest)) := by
  have isValue : keyword? "VALUE" (.word "VALUE" :: .mark '\x7b' :: token :: later) =
      some (.mark '\x7b' :: token :: later) := keyword?_self (by decide)
  simp only [columns?, isValue]
  split
  next absent => cases absent
  next same =>
    have inside := (List.cons.inj (Option.some.inj same)).2
    exact absurd (List.cons.inj inside).1 other
  next same =>
    cases same
    rfl
  next unlike same =>
    cases same
    exact absurd rfl (unlike _)

/-- The columns are read back with their form. -/
theorem columns?_reads {parts : List (List Token)} {entries : List (Option String × Item)}
    (count : CountReadable form parts.length) (starts : ∀ part ∈ parts, StartsEntry part)
    (reads : List.Forall₂ (Reads (entryReader inner form) EndsItem) parts entries) :
    Reads (columns? inner) (EndsAt clauseKeywords) (columnsTokens form parts) (form, entries) := by
  intro rest ends
  have isValue : ∀ rest, keyword? "VALUE" (.word "VALUE" :: rest) = some rest := fun _ =>
    keyword?_self (by decide)
  cases reads with
  | nil =>
      cases form with
      | empty => simp [columns?, columnsTokens, isValue]
      | values => cases count
      | aliased => cases count
      | keyed => cases count
  | @cons part entry parts entries first others =>
      have some : part :: parts ≠ [] := List.cons_ne_nil part parts
      have all := List.Forall₂.cons first others
      obtain ⟨token, later, spelled, notValue, notOpen, notClose⟩ :=
        starts part (List.mem_cons_self ..)
      cases form with
      | empty => cases count
      | values =>
          obtain rfl : parts = [] := by simpa [CountReadable] using count
          cases others
          have read := first rest ends.item
          have alone : joined (.mark ',') [part] = part := by simp [joined]
          simp only [entryReader, spelled, List.cons_append] at read
          rw [columnsTokens, alone, spelled, List.cons_append, List.cons_append,
            columns?_value notOpen, read]
          rfl
      | aliased =>
          have read := listed?_reads (fun _ => trivial) some all rest (endsItem_list ends)
          have absent : keyword? "VALUE" (joined (.mark ',') (part :: parts) ++ rest) = none := by
            rw [joined, spelled]
            exact keyword?_of_not notValue
          simp only [columnsTokens, columns?, absent]
          simp only [entryReader] at read
          rw [read]
          rfl
      | keyed =>
          have closes : EndsList (· = Token.mark ',') EndsItem (.mark '\x7d' :: rest) := by
            refine ⟨trivial, ?_⟩
            intro next first
            cases first
            decide
          have read := listed?_reads (fun _ => trivial) some all (.mark '\x7d' :: rest) closes
          simp only [entryReader] at read
          obtain ⟨others, opened⟩ : ∃ others, joined (.mark ',') (part :: parts) = token :: others :=
            ⟨_, by rw [joined, spelled]; rfl⟩
          rw [opened, List.cons_append] at read
          simp only [columnsTokens, opened, List.cons_append, List.append_assoc,
            List.nil_append, columns?_members notClose, read, Option.bind_eq_bind,
            Option.bind_some, mark?_self]
          rfl

end Expressions

/-- No entry has more tokens than the columns. -/
theorem length_le_columns {form : ProjectionForm} {parts : List (List Token)} {part : List Token}
    (some : CountReadable form parts.length) (member : part ∈ parts) :
    part.length ≤ (columnsTokens form parts).length := by
  have bounded := length_le_joined (.mark ',') member
  cases form with
  | empty =>
      have none : parts.length = 0 := some
      rw [List.length_eq_zero_iff.mp none] at member
      cases member
  | values =>
      rw [columnsTokens, List.length_cons]
      omega
  | aliased => exact bounded
  | keyed =>
      simp only [columnsTokens, List.length_cons, List.length_append]
      omega

/-- No item has more tokens than its entry. -/
theorem length_le_entry {form : ProjectionForm} {aliasName : Option String} {tokens : List Token} :
    tokens.length ≤ (entryTokens form aliasName tokens).length := by
  unfold entryTokens
  split
  · rw [List.length_append]
    omega
  · simp only [List.length_cons]
    omega
  · exact Nat.le_refl _

/-- Every item is written as one entry. -/
theorem tokensOfItems_length (form : ProjectionForm) {items : List (Option String × Item)} :
    (tokensOfItems form items).length = items.length := by
  induction items with
  | nil => rfl
  | cons entry items counted => rw [tokensOfItems, List.length_cons, List.length_cons, counted]

/-- Every readable item is written so that it starts an entry. -/
theorem items_start {form : ProjectionForm} {items : List (Option String × Item)}
    (readable : ReadableItems form items) :
    ∀ part ∈ tokensOfItems form items, StartsEntry part := by
  induction items with
  | nil => simp [tokensOfItems]
  | cons entry items start =>
      intro part member
      rcases List.mem_cons.mp member with rfl | later
      · exact entry_starts readable.1 readable.2.1
      · exact start readable.2.2 part later

/-- An aggregate has nothing to unwrap. -/
theorem unwrapped_aggregate {item : Item} (aggregate : item.IsAggregate) :
    item.unwrapped = item := by
  cases item with
  | aggregate call => rfl
  | path column => cases aggregate
  | orNull column => cases aggregate
  | array query => cases aggregate
  | single query => cases aggregate

mutual

/-- The induction is on the item. The query inside it has fewer tokens than the item. -/
theorem item_reads :
    ∀ (item : Item) (form : ProjectionForm) (room : Nat), item.Readable → ¬ item.IsAggregate →
      (item.tokens form).length ≤ room →
        Reads (expression? (queryWithin? room)) EndsItem (item.tokens form) item.unwrapped
  | .path column, _, _, readable, _, _ => expression?_path readable
  | .orNull column, _, _, readable, _, _ =>
      (expression?_orNull readable).weaken fun _ _ => trivial
  | .aggregate call, _, _, _, plain, _ => absurd trivial plain
  | .array query, form, room, readable, _, enough => by
      have shorter : query.tokens.length ≤ room := by
        rw [Item.tokens] at enough
        split at enough
        · simp only [grouped, List.length_cons, List.length_append] at enough
          omega
        · simp only [grouped, List.length_cons, List.length_append] at enough
          omega
      have inner := queryWithin?_reads query room readable shorter
      exact (expression?_array inner).weaken fun _ _ => trivial
  | .single query, form, room, readable, _, enough => by
      have shorter : query.tokens.length ≤ room := by
        simp only [Item.tokens, grouped, List.length_cons, List.length_append] at enough
        omega
      have inner := queryWithin?_reads query room readable shorter
      exact (expression?_single inner).weaken fun _ _ => trivial

/-- A query is read back when the room is at least the number of its tokens. -/
theorem queryWithin?_reads :
    ∀ (query : Query) (room : Nat), query.Readable → query.tokens.length ≤ room →
      Reads (queryWithin? room) (EndsAt []) query.tokens query.unwrapped
  | ⟨form, items, clauses⟩, 0, _, enough => by
      simp [Query.tokens] at enough
  | ⟨form, items, clauses⟩, room + 1, ⟨count, itemsReadable, clausesReadable⟩, enough => by
      rw [← tokensOfItems_length form] at count
      have shorter : ∀ part ∈ tokensOfItems form items, part.length ≤ room := by
        intro part member
        have bounded := length_le_columns count member
        simp only [Query.tokens, List.length_cons, List.length_append] at enough
        omega
      have entries := items_read items form room itemsReadable shorter
      have columns := columns?_reads count (items_start itemsReadable) entries
      intro rest ends
      have first := columns (clauses.tokens ++ rest) (clauses_start ends)
      have second := clauses?_reads clausesReadable rest ends
      have isSelect : ∀ rest, keyword? "SELECT" (.word "SELECT" :: rest) = some rest := fun _ =>
        keyword?_self (by decide)
      simp only [Query.tokens, List.cons_append, List.append_assoc, queryWithin?, isSelect, first,
        second, Option.bind_eq_bind, Option.bind_some]
      rfl

/-- The items of a query are read back when the room is enough for the longest one. -/
theorem items_read :
    ∀ (items : List (Option String × Item)) (form : ProjectionForm) (room : Nat),
      ReadableItems form items → (∀ part ∈ tokensOfItems form items, part.length ≤ room) →
        List.Forall₂ (Reads (entryReader (queryWithin? room) form) EndsItem)
          (tokensOfItems form items) (unwrappedItems items)
  | [], _, _, _, _ => .nil
  | (aliasName, item) :: rest, form, room, ⟨entry, itemReadable, others⟩, enough => by
      have bounded : (item.tokens form).length ≤ room :=
        Nat.le_trans length_le_entry (enough _ (List.mem_cons_self ..))
      have first := entry_reads entry itemReadable unwrapped_aggregate fun plain =>
        item_reads item form room itemReadable plain bounded
      have more := items_read rest form room others fun part member =>
        enough part (List.mem_cons_of_mem _ member)
      exact .cons first more

end

/-- Every readable query is read back from its tokens, and no token is left. -/
theorem query?_reads {query : Query} (readable : query.Readable) :
    query? query.tokens = some (query.unwrapped, []) := by
  have read := queryWithin?_reads query query.tokens.length readable (Nat.le_refl _) [] trivial
  rw [List.append_nil] at read
  exact read

end DocumentQuery.Dialect
