/-
This file proves that the clauses of a query are read back from their tokens.
-/

import DocumentQuery.Proofs.Dialect.ConditionReading

namespace DocumentQuery.Dialect

/-- These words start the clauses of a query, in the order of the clauses. -/
def clauseKeywords : List String :=
  ["FROM", "JOIN", "WHERE", "ORDER", "OFFSET"]

/-- A clause is over at the end, at a closed group, or where one of these clauses starts. -/
def EndsAt (keywords : List String) : List Token → Prop
  | [] => True
  | .mark character :: _ => character = ')'
  | .word text :: _ => text ∈ keywords
  | .operator _ :: _ | .literal _ :: _ => False

section Ends

variable {keywords : List String} {rest : List Token}

/-- A path ends where a clause does. -/
theorem EndsAt.path (ends : EndsAt keywords rest) : EndsPath rest := by
  unfold EndsPath
  split
  next => exact absurd ends (by simp [EndsAt])
  next => exact absurd ends (by simp [EndsAt])
  next => trivial

/-- Where a clause ends, no keyword starts but those of the clauses after it. -/
theorem EndsAt.notKeyword {keyword : String} (ends : EndsAt keywords rest)
    (known : keywords ⊆ Identifier.keywords) (other : keyword ∉ keywords) :
    ∀ next ∈ rest.head?, next.isKeyword keyword = false := by
  intro next first
  cases rest with
  | nil => cases first
  | cons token later =>
      cases first
      cases next with
      | word text =>
          have member : text ∈ keywords := ends
          apply isKeyword_other (known member)
          intro same
          exact other (same ▸ member)
      | operator text => rfl
      | mark character => rfl
      | literal text => rfl

/-- A keyword is read only where it stands. -/
theorem keyword?_none {keyword : String}
    (other : ∀ next ∈ rest.head?, next.isKeyword keyword = false) : keyword? keyword rest = none := by
  cases rest with
  | nil => rfl
  | cons next later => exact keyword?_of_not (other next rfl)

/-- A condition ends where a clause does. -/
theorem EndsAt.condition (ends : EndsAt keywords rest) (clauses : keywords ⊆ clauseKeywords) :
    EndsCondition rest := by
  have known : keywords ⊆ Identifier.keywords :=
    List.Subset.trans clauses (by decide)
  have noAnd : "AND" ∉ keywords := fun member => absurd (clauses member) (by decide)
  have noOr : "OR" ∉ keywords := fun member => absurd (clauses member) (by decide)
  exact ⟨ends.path, fun next first =>
    ⟨ends.notKeyword known noAnd next first, ends.notKeyword known noOr next first⟩⟩

/-- A list ends where a clause does, because no clause starts with a comma. -/
theorem EndsAt.list {Follows : List Token → Prop} (ends : EndsAt keywords rest)
    (follows : Follows rest) : EndsList (· = .mark ',') Follows rest := by
  refine ⟨follows, ?_⟩
  intro next first
  cases rest with
  | nil => cases first
  | cons token later =>
      cases first
      cases next with
      | mark character =>
          have closed : character = ')' := ends
          simp [closed]
      | word text => rfl
      | operator text => rfl
      | literal text => rfl

/-- An optional clause starts as it should or leaves what follows as it is. -/
theorem EndsAt.clause {Content : Type} (ends : EndsAt keywords rest) (keyword : String)
    (more : List String) (contentTokens : Content → List Token) (content : Option Content) :
    EndsAt (keyword :: keywords) (clauseTokens (keyword :: more) contentTokens content ++ rest) := by
  cases content with
  | some content => exact List.mem_cons_self ..
  | none =>
      cases rest with
      | nil => trivial
      | cons next later =>
          cases next with
          | word text => exact List.mem_cons_of_mem _ ends
          | mark character => exact ends
          | operator text => exact ends
          | literal text => exact ends

end Ends

/-- An optional clause is read behind its keyword, and its absence is read as well. -/
theorem optional?_reads {Content Value : Type} {reader : Reader Value} {keyword : String}
    {more later : List String} {contentTokens : Content → List Token} {content : Option Content}
    {value : Content → Value} (known : keyword :: later ⊆ Identifier.keywords)
    (fresh : keyword ∉ later)
    (reads : ∀ inside, content = some inside →
      Reads reader (EndsAt later) (more.map .word ++ contentTokens inside) (value inside)) :
    Reads (optional? keyword reader) (EndsAt later)
      (clauseTokens (keyword :: more) contentTokens content) (content.map value) := by
  intro rest ends
  cases content with
  | none =>
      have others : later ⊆ Identifier.keywords := fun _ member =>
        known (List.mem_cons_of_mem _ member)
      exact optional?_none (keyword?_none (ends.notKeyword others fresh))
  | some inside =>
      have read := reads inside rfl rest ends
      exact optional?_some (known (List.mem_cons_self ..)) read

/-- The collection or the array that a query reads from is read back. -/
theorem origin?_reads {origin : Origin} (readable : OriginReadable origin) :
    Reads origin? EndsPath (originTokens origin) origin := by
  intro rest ends
  cases origin with
  | container name aliasName =>
      have bare : PathReadable (.ofAlias name) := ⟨readable.1, by simp [Path.ofAlias]⟩
      have located := path?_reads bare (.word aliasName :: rest) trivial
      have notAs : keyword? "AS" (.word aliasName :: rest) = none :=
        keyword?_of_not (isKeyword_plain readable.2 (by decide))
      have notIn : keyword? "IN" (.word aliasName :: rest) = none :=
        keyword?_of_not (isKeyword_plain readable.2 (by decide))
      simp only [pathTokens, Path.ofAlias, List.flatMap_nil, List.cons_append, List.nil_append]
        at located
      simp [origin?, originTokens, located, notAs, notIn, name?_plain readable.2]
  | aliased source aliasName =>
      have located := path?_reads readable.1 (.word "AS" :: .word aliasName :: rest) trivial
      have isAs : keyword? "AS" (.word "AS" :: .word aliasName :: rest) =
          some (.word aliasName :: rest) := keyword?_self (by decide)
      simp [origin?, originTokens, located, isAs, name?_plain readable.2]
  | iterated source aliasName =>
      have bare : PathReadable (.ofAlias aliasName) := ⟨readable.2, by simp [Path.ofAlias]⟩
      have bound := path?_reads bare (.word "IN" :: (pathTokens source ++ rest)) trivial
      have located := path?_reads readable.1 rest ends
      have notAs : keyword? "AS" (.word "IN" :: (pathTokens source ++ rest)) = none :=
        keyword?_of_not (isKeyword_other (by decide) (by decide))
      have isIn : keyword? "IN" (.word "IN" :: (pathTokens source ++ rest)) =
          some (pathTokens source ++ rest) := keyword?_self (by decide)
      simp only [pathTokens, Path.ofAlias, List.flatMap_nil, List.cons_append, List.nil_append]
        at bound located notAs isIn
      simp [origin?, originTokens, pathTokens, bound, located, notAs, isIn]

/-- A join of a parameter is read back. -/
theorem join?_reads {join : Join} (plain : Identifier.isPlain join.aliasName)
    (named : isParameter join.parameter) :
    Reads (fun tokens => do join? (← keyword? "JOIN" tokens)) Anything (joinTokens join) join := by
  intro rest _
  have isJoin : ∀ rest, keyword? "JOIN" (.word "JOIN" :: rest) = some rest := fun _ =>
    keyword?_self (by decide)
  have isIn : ∀ rest, keyword? "IN" (.word "IN" :: rest) = some rest := fun _ =>
    keyword?_self (by decide)
  have isSelect : ∀ rest, keyword? "SELECT" (.word "SELECT" :: rest) = some rest := fun _ =>
    keyword?_self (by decide)
  have isValue : ∀ rest, keyword? "VALUE" (.word "VALUE" :: rest) = some rest := fun _ =>
    keyword?_self (by decide)
  simp [joinTokens, join?, isJoin, isIn, isSelect, isValue, name?_plain plain, groupOf?,
    mark?_self, joinParameter?, word?, named]

/-- The induction is on the joins. Each of them takes one unit of the room. -/
theorem joinsWithin?_reads {later : List String} (known : later ⊆ Identifier.keywords)
    (fresh : "JOIN" ∉ later) {joins : List Join} {room : Nat}
    (readable : ∀ join ∈ joins,
      Identifier.isPlain join.aliasName ∧ isParameter join.parameter)
    (enough : joins.length < room) :
    Reads (joinsWithin? room) (EndsAt later) (joins.flatMap joinTokens) joins := by
  intro rest ends
  induction joins generalizing room with
  | nil =>
      obtain ⟨room, rfl⟩ := Nat.exists_eq_add_one_of_ne_zero (Nat.ne_zero_of_lt enough)
      have absent := keyword?_none (ends.notKeyword known fresh)
      simp [joinsWithin?, absent]
  | cons join joins continued =>
      obtain ⟨room, rfl⟩ := Nat.exists_eq_add_one_of_ne_zero (Nat.ne_zero_of_lt enough)
      obtain ⟨first, others⟩ := List.forall_mem_cons.mp readable
      have onward := continued others (by simpa using enough)
      have read := join?_reads first.1 first.2 (joins.flatMap joinTokens ++ rest) trivial
      have isJoin : ∀ rest, keyword? "JOIN" (.word "JOIN" :: rest) = some rest := fun _ =>
        keyword?_self (by decide)
      rw [List.flatMap_cons, List.append_assoc]
      simp only [joinTokens, List.cons_append, isJoin, Option.bind_eq_bind,
        Option.bind_some] at read
      simp only [joinTokens, List.cons_append, joinsWithin?, isJoin, read, onward,
        Option.bind_eq_bind, Option.bind_some]
      rfl

/-- All joins are read back, however many there are. -/
theorem joins?_reads {later : List String} (known : later ⊆ Identifier.keywords)
    (fresh : "JOIN" ∉ later) {joins : List Join}
    (readable : ∀ join ∈ joins,
      Identifier.isPlain join.aliasName ∧ isParameter join.parameter) :
    Reads joins? (EndsAt later) (joins.flatMap joinTokens) joins := by
  intro rest ends
  have counted : joins.length ≤ (joins.flatMap joinTokens).length := by
    clear readable
    induction joins with
    | nil => simp
    | cons join joins counted =>
        rw [List.flatMap_cons, List.length_append, List.length_cons]
        simp only [joinTokens, List.length_cons]
        omega
  apply joinsWithin?_reads known fresh readable _ rest ends
  rw [List.length_append]
  omega

/-- A sort key is read back with its direction. -/
theorem sortKey?_reads {key : SortKey} (readable : PathReadable key.column) :
    Reads sortKey? Anything (sortKeyTokens key) key := by
  intro rest _
  obtain ⟨column, descending⟩ := key
  have located := fun text => path?_reads readable (.word text :: rest) trivial
  cases descending with
  | true =>
      have isDesc : keyword? "DESC" (.word "DESC" :: rest) = some rest :=
        keyword?_self (by decide)
      simp [sortKey?, sortKeyTokens, located, isDesc]
  | false =>
      have notDesc : keyword? "DESC" (.word "ASC" :: rest) = none :=
        keyword?_of_not (isKeyword_other (by decide) (by decide))
      have isAsc : keyword? "ASC" (.word "ASC" :: rest) = some rest := keyword?_self (by decide)
      simp [sortKey?, sortKeyTokens, located, notDesc, isAsc]

/-- The keys of an ordering are read back in their order. -/
theorem sortKeys?_reads {later : List String} {keys : List SortKey} (some : keys ≠ [])
    (readable : ∀ key ∈ keys, PathReadable key.column) :
    Reads sortKeys? (EndsAt later)
      (["BY"].map .word ++ joined (.mark ',') (keys.map sortKeyTokens)) keys := by
  have each : List.Forall₂ (Reads sortKey? Anything) (keys.map sortKeyTokens) keys := by
    rw [List.forall₂_map_left_iff, List.forall₂_same]
    exact fun key member => sortKey?_reads (readable key member)
  intro rest ends
  have read := listed?_reads (fun _ => trivial) (by simpa using some) each rest
    (ends.list trivial)
  have isBy : ∀ rest, keyword? "BY" (.word "BY" :: rest) = Option.some rest := fun _ =>
    keyword?_self (by decide)
  simp [sortKeys?, isBy, read]

/-- A page is read back. -/
theorem page?_reads (page : Nat × Nat) : Reads page? Anything (pageTokens page) page := by
  intro rest _
  have offset := number?_reads page.1 (.word "LIMIT" :: .word page.2.repr :: rest) trivial
  have limit := number?_reads page.2 rest trivial
  have isLimit : ∀ rest, keyword? "LIMIT" (.word "LIMIT" :: rest) = some rest := fun _ =>
    keyword?_self (by decide)
  simp only [List.cons_append, List.nil_append] at offset limit
  simp [page?, pageTokens, offset, limit, isLimit]

/-- What ends where joins do goes on with joins at most. -/
theorem EndsAt.joins {keywords : List String} {rest : List Token} (ends : EndsAt keywords rest)
    (joins : List Join) :
    EndsAt ("JOIN" :: keywords) (joins.flatMap joinTokens ++ rest) := by
  cases joins with
  | nil => exact ends.clause "JOIN" [] joinTokens none
  | cons join joins => exact List.mem_cons_self ..

/-- The clauses come in a fixed order, and each ends where a later one starts. -/
theorem clauses?_reads {clauses : Clauses} (readable : clauses.Readable) :
    Reads clauses? (EndsAt []) clauses.tokens clauses.unwrapped := by
  intro rest ends
  obtain ⟨origin, joins, condition, sortKeys, page⟩ := clauses
  have paged : Reads (optional? "OFFSET" page?) (EndsAt [])
      (clauseTokens ["OFFSET"] pageTokens page) (page.map id) :=
    optional?_reads (by decide) (by decide) fun inside _ => (page?_reads inside).weaken
      fun _ _ => trivial
  have ordered : Reads (optional? "ORDER" sortKeys?) (EndsAt ["OFFSET"])
      (clauseTokens ["ORDER", "BY"] (fun keys => joined (.mark ',') (keys.map sortKeyTokens))
        sortKeys) (sortKeys.map id) :=
    optional?_reads (by decide) (by decide) fun inside present =>
      sortKeys?_reads (readable.sortKeys inside present).1 (readable.sortKeys inside present).2
  have conditioned : Reads (optional? "WHERE" condition?) (EndsAt ["ORDER", "OFFSET"])
      (clauseTokens ["WHERE"] Condition.tokens condition) (condition.map Condition.unwrapped) :=
    optional?_reads (by decide) (by decide) fun inside present =>
      (condition?_reads (readable.condition inside present)).weaken fun _ ends =>
        ends.condition (by decide)
  have joining : Reads joins? (EndsAt ["WHERE", "ORDER", "OFFSET"]) (joins.flatMap joinTokens)
      joins :=
    joins?_reads (by decide) (by decide) readable.joins
  have located : Reads (optional? "FROM" origin?) (EndsAt ["JOIN", "WHERE", "ORDER", "OFFSET"])
      (clauseTokens ["FROM"] originTokens origin) (origin.map id) :=
    optional?_reads (by decide) (by decide) fun inside present =>
      (origin?_reads (readable.origin inside present)).weaken fun _ ends => ends.path
  have afterOrder := ends.clause "OFFSET" [] pageTokens page
  have afterCondition := afterOrder.clause "ORDER" ["BY"]
    (fun keys => joined (.mark ',') (keys.map sortKeyTokens)) sortKeys
  have afterJoins := afterCondition.clause "WHERE" [] Condition.tokens condition
  have afterOrigin := afterJoins.joins joins
  have first := located _ afterOrigin
  have second := joining _ afterJoins
  have third := conditioned _ afterCondition
  have fourth := ordered _ afterOrder
  have fifth := paged _ ends
  simp only [Clauses.tokens, List.append_assoc, clauses?, first, second, third, fourth, fifth,
    Option.bind_eq_bind, Option.bind_some, Option.map_id, id_eq]
  rfl

/-- The columns of a query end where its clauses start. -/
theorem clauses_start {clauses : Clauses} {rest : List Token} (ends : EndsAt [] rest) :
    EndsAt clauseKeywords (clauses.tokens ++ rest) := by
  simp only [Clauses.tokens, List.append_assoc]
  apply EndsAt.clause
  apply EndsAt.joins
  apply EndsAt.clause
  apply EndsAt.clause
  exact ends.clause ..

end DocumentQuery.Dialect
