/-
This file proves that the text of a select statement is made of the tokens of its tree.
-/

import DocumentQuery.Proofs.Rendering.Tokens

namespace DocumentQuery

open Dialect

variable {draft numbering : Draft} {tokens : List Token}

/-- An aggregate is written with the tokens of its call. -/
theorem AggregateColumn.write_tokens {aggregate : AggregateColumn}
    (awaits : draft.Awaits tokens numbering) (readable : aggregate.call.Readable) :
    (aggregate.write draft).Holds (tokens ++ aggregate.call.tokens) numbering := by
  cases aggregate with
  | starCount =>
      exact (awaits.writeWhole "COUNT(1)" [.word "COUNT", .mark '(', .word "1", .mark ')']
        fun _ => rfl).holds
  | function dialectName column =>
      have named := awaits.word (isWord_plain readable.1)
      have opened := named.writeWhole "(" [.mark '('] rfl fun _ => rfl
      have located := opened.path readable.2
      simpa [write, call, AggregateCall.tokens, grouped, Draft.write_append]
        using located.close.holds
  | count column distinct =>
      cases distinct with
      | true =>
          have opened := awaits.writeWhole "DISTINCT COUNT("
            [.word "DISTINCT", .word "COUNT", .mark '('] fun _ => rfl
          have located := opened.path readable
          simpa [write, call, AggregateCall.tokens, grouped] using located.close.holds
      | false =>
          have opened := awaits.writeWhole "COUNT(" [.word "COUNT", .mark '('] fun _ => rfl
          have located := opened.path readable.2
          simpa [write, call, AggregateCall.tokens, grouped] using located.close.holds

section Clauses

/-- The origin of a query is written with its tokens. -/
theorem Origin.write_tokens {origin : Origin} (awaits : draft.Awaits tokens numbering)
    (readable : OriginReadable origin) :
    (origin.write draft).Holds (tokens ++ originTokens origin) numbering := by
  cases origin with
  | container name aliasName =>
      have named := awaits.word (isWord_plain readable.1)
      have apart := named.writeWhole " " [] rfl fun _ => rfl
      have bound := apart.word (isWord_plain readable.2)
      simpa [write, originTokens, Draft.write_append] using bound
  | aliased source aliasName =>
      have located := awaits.path readable.1
      have apart := located.writeWhole " AS " [.word "AS"] rfl fun _ => rfl
      have bound := apart.word (isWord_plain readable.2)
      simpa [write, originTokens, Draft.write_append] using bound
  | iterated source aliasName =>
      have bound := awaits.word (isWord_plain readable.2)
      have within := bound.writeWhole " IN " [.word "IN"] rfl fun _ => rfl
      have located := within.path readable.1
      simpa [write, originTokens, Draft.write_append] using located

/-- A join is written with its tokens after a blank. -/
theorem Join.write_tokens {join : Join} (holds : draft.Holds tokens numbering)
    (plain : Identifier.isPlain join.aliasName) (named : isParameter join.parameter) :
    (join.write (draft.write " ")).Holds (tokens ++ joinTokens join) numbering := by
  have apart := holds.writeWhole " " [] rfl fun _ => rfl
  have opened := apart.writeWhole "JOIN " [.word "JOIN"] fun _ => rfl
  have bound := opened.word (isWord_plain plain)
  have selected := bound.writeWhole " IN (SELECT VALUE "
    [.word "IN", .mark '(', .word "SELECT", .word "VALUE"] rfl fun _ => rfl
  have supplied := selected.word (isWord_parameter named)
  simpa [write, joinTokens, Draft.write_append] using supplied.close.holds

/-- The joins of a statement are written one behind the other. -/
theorem joins_tokens {joins : List Join} (holds : draft.Holds tokens numbering)
    (readable : ∀ join ∈ joins,
      Identifier.isPlain join.aliasName ∧ isParameter join.parameter) :
    (joins.foldl (fun draft join => join.write (draft.write " ")) draft).Holds
      (tokens ++ joins.flatMap joinTokens) numbering := by
  induction joins generalizing draft tokens with
  | nil => simpa using holds
  | cons join joins continued =>
      obtain ⟨first, others⟩ := List.forall_mem_cons.mp readable
      have onward := continued (Join.write_tokens holds first.1 first.2) others
      rw [List.append_assoc] at onward
      exact onward

/-- A sort key is written with its column and its direction. -/
theorem SortKey.write_tokens {key : SortKey} (awaits : draft.Awaits tokens numbering)
    (readable : PathReadable key.column) :
    (SortKey.write draft key).Holds (tokens ++ sortKeyTokens key) numbering := by
  have located := awaits.path readable
  obtain ⟨column, descending⟩ := key
  cases descending with
  | true =>
      have directed := located.write " DESC" [.word "DESC"] rfl fun _ => ⟨_, rfl, rfl⟩
      simpa [write, sortKeyTokens] using directed
  | false =>
      have directed := located.write " ASC" [.word "ASC"] rfl fun _ => ⟨_, rfl, rfl⟩
      simpa [write, sortKeyTokens] using directed

/-- Sort keys are written with commas between them. -/
theorem sortKeys_tokens {first : SortKey} {others : List SortKey}
    (awaits : draft.Awaits tokens numbering)
    (readable : ∀ key ∈ first :: others, PathReadable key.column) :
    (draft.writeEach ", " SortKey.write (first :: others)).Holds
      (tokens ++ joined (.mark ',') ((first :: others).map sortKeyTokens)) numbering := by
  induction others generalizing draft tokens first with
  | nil =>
      have written := SortKey.write_tokens awaits (readable first (List.mem_cons_self ..))
      simpa [Draft.writeEach, joined] using written
  | cons second others continued =>
      have written := SortKey.write_tokens awaits (readable first (List.mem_cons_self ..))
      have separated := written.writeWhole ", " [.mark ','] rfl fun _ => rfl
      have onward := continued separated fun key member =>
        readable key (List.mem_cons_of_mem _ member)
      simpa [Draft.writeEach, joined] using onward

/-- The numbers of a page are words of their own. -/
theorem page_tokens (page : Nat × Nat) (holds : draft.Holds tokens numbering) :
    (draft.write (" OFFSET " ++ page.1.repr ++ " LIMIT " ++ page.2.repr)).Holds
      (tokens ++ .word "OFFSET" :: pageTokens page) numbering := by
  have started := holds.writeWhole " OFFSET " [.word "OFFSET"] rfl fun _ => rfl
  have offset := started.word (isWord_repr page.1)
  have continued := offset.writeWhole " LIMIT " [.word "LIMIT"] rfl fun _ => rfl
  have limit := continued.word (isWord_repr page.2)
  simpa [pageTokens, Draft.write_append] using limit

namespace Select

/-- A page is written behind its keyword, and a missing one is not written. -/
theorem writePagination_tokens (select : Select) (holds : draft.Holds tokens numbering) :
    (select.writePagination draft).Holds
      (tokens ++ clauseTokens ["OFFSET"] pageTokens select.page) numbering := by
  unfold writePagination page
  cases select.offset with
  | none =>
      cases select.limit with
      | none => simpa [clauseTokens, pagination?] using holds
      | some limit => exact page_tokens (0, limit.toNat) holds
  | some offset =>
      cases select.limit with
      | none => exact page_tokens (offset.toNat, 2147483647) holds
      | some limit => exact page_tokens (offset.toNat, limit.toNat) holds

/-- An origin is written behind its keyword, and a missing one is not written. -/
theorem origin_tokens {origin : Option Origin} (holds : draft.Holds tokens numbering)
    (readable : ∀ inside, origin = some inside → OriginReadable inside) :
    (match origin with
      | none => draft
      | some origin => origin.write (draft.write " FROM ")).Holds
      (tokens ++ clauseTokens ["FROM"] originTokens origin) numbering := by
  cases origin with
  | none => simpa [clauseTokens] using holds
  | some origin =>
      have opened := holds.writeWhole " FROM " [.word "FROM"] rfl fun _ => rfl
      have written := Origin.write_tokens opened (readable origin rfl)
      simpa [clauseTokens] using written

/-- A condition is written behind its keyword, and a missing one is not written. -/
theorem condition_tokens {select : Select} (holds : draft.Holds tokens numbering)
    (readable : ∀ inside, (select.condition? numbering).1 = some inside → inside.Readable) :
    (match select.predicate with
      | none => draft
      | some predicate => predicate.write (draft.write " WHERE ")).Holds
      (tokens ++ clauseTokens ["WHERE"] Condition.tokens (select.condition? numbering).1)
      (select.condition? numbering).2 := by
  cases stated : select.predicate with
  | none =>
      simp only [condition?, stated]
      simpa [clauseTokens] using holds
  | some predicate =>
      simp only [condition?, stated] at readable ⊢
      have written := predicate.write_tokens _ _ _ holds.where (readable _ rfl)
      simpa [clauseTokens] using written

/-- An ordering is written behind its keywords, and a missing one is not written. -/
theorem ordering_tokens {sortKeys : Option (List SortKey)} (holds : draft.Holds tokens numbering)
    (readable : ∀ keys, sortKeys = some keys →
      keys ≠ [] ∧ ∀ key ∈ keys, PathReadable key.column) :
    (match sortKeys with
      | none => draft
      | some keys => SortKey.writeAll keys (draft.write " ")).Holds
      (tokens ++ clauseTokens ["ORDER", "BY"]
        (fun keys : List SortKey => joined (.mark ',') (keys.map sortKeyTokens)) sortKeys)
      numbering := by
  cases sortKeys with
  | none => simpa [clauseTokens] using holds
  | some keys =>
      obtain ⟨some, paths⟩ := readable keys rfl
      cases keys with
      | nil => exact absurd rfl some
      | cons first others =>
          have apart := holds.writeWhole " " [] rfl fun _ => rfl
          have opened := apart.writeWhole "ORDER BY " [.word "ORDER", .word "BY"] fun _ => rfl
          have written := sortKeys_tokens opened paths
          simpa [SortKey.writeAll, clauseTokens] using written

/-- The clauses are written with the tokens of the tree, and they leave its numbering behind. -/
theorem writeClauses_tokens {select : Select} (holds : draft.Holds tokens numbering)
    (readable : (select.clauses numbering).1.Readable) :
    (select.writeClauses draft).Holds (tokens ++ (select.clauses numbering).1.tokens)
      (select.clauses numbering).2 := by
  have located := origin_tokens holds readable.origin
  have joining := joins_tokens located readable.joins
  have conditioned := condition_tokens joining readable.condition
  have ordered := ordering_tokens conditioned readable.sortKeys
  have paged := writePagination_tokens select ordered
  simp only [Clauses.tokens, clauses]
  simp only [List.append_assoc] at paged ⊢
  exact paged

end Select

end Clauses

namespace Select

/-- A bare value is written as it is, and the columns of the other forms are projected. -/
def writeItem (form : ProjectionForm) (column : Projection) (draft : Draft) : Draft :=
  if form = .values then writeValue column draft else writeProjected column draft

/-- The alias of an entry stands where its form puts it. -/
def writeEntry (form : ProjectionForm) (aliasName : String) (column : Projection)
    (draft : Draft) : Draft :=
  match form with
  | .aliased => (writeItem form column draft).write (" AS " ++ aliasName)
  | .keyed => writeItem form column (draft.writeLiteral aliasName |>.write ": ")
  | .values | .empty => writeItem form column draft

/-- Every form writes its first entry and then the others, each after a separator. -/
def writeOthers (form : ProjectionForm) (columns : List (String × Projection)) (draft : Draft) :
    Draft :=
  match form with
  | .values => writeValues false columns draft
  | .aliased => writeAliased false columns draft
  | .keyed => writeKeyed false columns draft
  | .empty => draft

theorem writeOthers_nil (form : ProjectionForm) : writeOthers form [] draft = draft := by
  cases form <;> rfl

/-- Each further entry is written after a comma. -/
theorem writeOthers_cons {form : ProjectionForm} (some : form ≠ .empty) (aliasName : String)
    (column : Projection) (rest : List (String × Projection)) :
    writeOthers form ((aliasName, column) :: rest) draft =
      writeOthers form rest (writeEntry form aliasName column (draft.write ", ")) := by
  cases form with
  | empty => exact absurd rfl some
  | values => rfl
  | aliased => rfl
  | keyed => rfl

/-- An entry has the tokens of its item with the alias where its form puts it. -/
theorem writeEntry_tokens {form : ProjectionForm} {aliasName : String} {column : Projection}
    {item : Item} {next : Draft} (entry : EntryReadable form (itemAlias form aliasName) item)
    (written : ∀ (draft : Draft) (tokens : List Token), draft.Awaits tokens numbering →
      (writeItem form column draft).Holds (tokens ++ item.tokens form) next)
    (awaits : draft.Awaits tokens numbering) :
    (writeEntry form aliasName column draft).Holds
      (tokens ++ entryTokens form (itemAlias form aliasName) (item.tokens form)) next := by
  cases form with
  | empty => cases entry
  | values => exact written draft tokens awaits
  | aliased =>
      obtain ⟨name, same, plain⟩ := entry
      cases same
      have apart := (written draft tokens awaits).writeWhole " AS " [.word "AS"] rfl fun _ => rfl
      have named := apart.word (isWord_plain plain)
      simpa [writeEntry, entryTokens, itemAlias, Draft.write_append] using named
  | keyed =>
      have keyed := awaits.literal aliasName
      have apart := keyed.holds.writeWhole ": " [.mark ':'] rfl fun _ => rfl
      have ended := written _ _ apart
      simpa [writeEntry, entryTokens, itemAlias] using ended

/-- The numbering of a column decides that of the columns behind it. -/
theorem items_cons {form : ProjectionForm} {aliasName : String} {column : Projection}
    {rest : List (String × Projection)} :
    items form ((aliasName, column) :: rest) numbering =
      ((itemAlias form aliasName, (item form column numbering).1) ::
        (items form rest (item form column numbering).2).1,
        (items form rest (item form column numbering).2).2) := rfl

/-- A subquery is written as an array or in parentheses. -/
theorem subquery_tokens {form : ProjectionForm} {select : Select} {query : Dialect.Query} {next : Draft}
    (written : ∀ (draft : Draft) (tokens : List Token), draft.Awaits tokens numbering →
      (select.write draft).Holds (tokens ++ query.tokens) next)
    (awaits : draft.Awaits tokens numbering) :
    (writeItem form (.subquery select) draft).Holds
      (tokens ++ (if select.asArray then Item.array query else .single query).tokens form) next := by
  unfold writeItem writeValue writeProjected
  cases select.asArray with
  | false =>
      have opened := awaits.writeWhole "(" [.mark '('] fun _ => rfl
      have closed := (written _ _ opened).close
      simpa [Item.tokens, grouped] using closed.holds
  | true =>
      by_cases bare : form = .values
      · have opened := awaits.writeWhole "ARRAY(" [.word "ARRAY", .mark '('] fun _ => rfl
        have closed := (written _ _ opened).close
        simpa [Item.tokens, grouped, bare] using closed.holds
      · have opened := awaits.writeWhole "(ARRAY(" [.mark '(', .word "ARRAY", .mark '(']
          fun _ => rfl
        have closed := (written _ _ opened).writeWhole "))" [.mark ')', .mark ')'] rfl
          fun _ => rfl
        simpa [Item.tokens, grouped, bare] using closed.holds

/-- A path is written with the null that it falls back to, unless it is a bare value. -/
theorem path_tokens {form : ProjectionForm} {path : Path} (awaits : draft.Awaits tokens numbering)
    (readable : PathReadable path) :
    (writeItem form (.path path) draft).Holds
      (tokens ++ (if form = .values then Item.path path else .orNull path).tokens form)
      numbering := by
  have located := awaits.path readable
  by_cases bare : form = .values
  · simpa [writeItem, writeValue, bare, Item.tokens] using located
  · have ended := located.write " ?? null" [.operator "??", .word "null"] rfl
      fun _ => ⟨_, rfl, rfl⟩
    simpa [writeItem, writeProjected, bare, Item.tokens] using ended

/-- The first column opens the form, and each other one stands behind a comma. -/
def writeColumns (form : ProjectionForm) (columns : List (String × Projection)) (draft : Draft) :
    Draft :=
  match form with
  | .empty => draft.write "VALUE \x7b\x7d"
  | .values => draft.write "VALUE " |> writeValues true columns
  | .aliased => writeAliased true columns draft
  | .keyed => draft.write "VALUE \x7b" |> writeKeyed true columns |>.write "\x7d"

/-- The columns are written with commas between them in every form. -/
theorem columns_tokens {form : ProjectionForm} (some : form ≠ .empty) {aliasName : String}
    {column : Projection} {rest : List (String × Projection)} {first : List Token}
    {parts : List (List Token)} {middle next : Draft}
    (entry : ∀ (draft : Draft) (tokens : List Token), draft.Awaits tokens numbering →
      (writeEntry form aliasName column draft).Holds (tokens ++ first) middle)
    (others : ∀ (draft : Draft) (tokens : List Token), draft.Holds tokens middle →
      (writeOthers form rest draft).Holds (tokens ++ parts.flatMap (.mark ',' :: ·)) next)
    (awaits : draft.Awaits tokens numbering) :
    (writeColumns form ((aliasName, column) :: rest) draft).Holds
      (tokens ++ columnsTokens form (first :: parts)) next := by
  cases form with
  | empty => exact absurd rfl some
  | values =>
      have opened := awaits.writeWhole "VALUE " [.word "VALUE"] fun _ => rfl
      have written := others _ _ (entry _ _ opened)
      simp only [columnsTokens, joined, List.append_assoc] at written ⊢
      exact written
  | aliased =>
      have written := others _ _ (entry _ _ awaits)
      rw [List.append_assoc] at written
      exact written
  | keyed =>
      have opened := awaits.writeWhole "VALUE \x7b" [.word "VALUE", .mark '\x7b'] fun _ => rfl
      have written := others _ _ (entry _ _ opened)
      have closed := (written.writeWhole "\x7d" [.mark '\x7d'] rfl fun _ => rfl).holds
      simp only [columnsTokens, joined, List.cons_append, List.append_assoc] at closed ⊢
      exact closed

/-- A statement with columns has a form with entries. -/
theorem form_nonempty (select : Select) (some : select.columns ≠ []) : select.form ≠ .empty := by
  unfold form
  cases columns : select.columns with
  | nil => exact absurd columns some
  | cons first rest =>
      simp only [List.isEmpty_cons, Bool.false_eq_true, if_false]
      split
      · decide
      · split <;> decide

mutual

/-- The induction is on the column. What is written for it has the tokens of its item. -/
theorem item_tokens :
    ∀ (column : Projection) (form : ProjectionForm) (numbering draft : Draft)
      (tokens : List Token), (item form column numbering).1.Readable →
        draft.Awaits tokens numbering →
          (writeItem form column draft).Holds
            (tokens ++ (item form column numbering).1.tokens form)
            (item form column numbering).2
  | .path path, form, numbering, draft, tokens, readable, awaits => by
      apply path_tokens awaits
      simp only [item] at readable
      split at readable <;> exact readable
  | .aggregate aggregate, form, numbering, draft, tokens, readable, awaits => by
      have written := AggregateColumn.write_tokens awaits readable
      unfold writeItem
      split <;> exact written
  | .subquery select, form, numbering, draft, tokens, readable, awaits => by
      apply subquery_tokens _ awaits
      intro draft tokens awaits
      apply query_tokens select numbering draft tokens _ awaits
      simp only [item] at readable
      split at readable <;> exact readable

/-- The text of a select statement has the tokens of its tree, and the draft is numbered as the
tree is. -/
theorem query_tokens :
    ∀ (select : Select) (numbering draft : Draft) (tokens : List Token),
      (select.query numbering).1.Readable → draft.Awaits tokens numbering →
        (select.write draft).Holds (tokens ++ (select.query numbering).1.tokens)
          (select.query numbering).2
  | ⟨[], origin, asValue, asArray, isAggregate, joins, predicate, sortKeys, offset, limit⟩,
      numbering, draft, tokens, readable, awaits => by
      have started := awaits.writeWhole "SELECT " [.word "SELECT"] fun _ => rfl
      have selected := started.writeWhole "VALUE \x7b\x7d"
        [.word "VALUE", .mark '\x7b', .mark '\x7d'] fun _ => rfl
      have written := writeClauses_tokens selected.holds readable.2.2
      rw [List.append_assoc, List.append_assoc] at written
      exact written
  | ⟨(aliasName, column) :: rest, origin, asValue, asArray, isAggregate, joins, predicate,
      sortKeys, offset, limit⟩, numbering, draft, tokens, readable, awaits => by
      obtain ⟨_, ⟨entry, first, more⟩, clauses⟩ := readable
      have started := awaits.writeWhole "SELECT " [.word "SELECT"] fun _ => rfl
      have nonempty := form_nonempty ⟨(aliasName, column) :: rest, origin, asValue, asArray,
        isAggregate, joins, predicate, sortKeys, offset, limit⟩ (List.cons_ne_nil _ _)
      have selected := columns_tokens nonempty
        (fun draft tokens => writeEntry_tokens entry
          (fun draft tokens => item_tokens column _ numbering draft tokens first))
        (fun draft tokens => others_tokens rest _ _ draft tokens nonempty more) started
      have written := writeClauses_tokens selected clauses
      rw [List.append_assoc, List.append_assoc] at written
      exact written

/-- The columns behind the first one are written after a comma each. -/
theorem others_tokens :
    ∀ (columns : List (String × Projection)) (form : ProjectionForm) (numbering draft : Draft)
      (tokens : List Token), form ≠ .empty → ReadableItems form (items form columns numbering).1 →
        draft.Holds tokens numbering →
          (writeOthers form columns draft).Holds
            (tokens ++ (tokensOfItems form (items form columns numbering).1).flatMap
              (.mark ',' :: ·))
            (items form columns numbering).2
  | [], form, numbering, draft, tokens, _, _, holds => by
      simpa [writeOthers_nil, items, tokensOfItems] using holds
  | (aliasName, column) :: rest, form, numbering, draft, tokens, nonempty, readable, holds => by
      rw [items_cons] at readable ⊢
      obtain ⟨entry, first, more⟩ := readable
      have separated := holds.writeWhole ", " [.mark ','] rfl fun _ => rfl
      have written := writeEntry_tokens entry
        (fun draft tokens => item_tokens column form numbering draft tokens first) separated
      have onward := others_tokens rest form _ _ _ nonempty more written
      rw [writeOthers_cons nonempty]
      simpa [tokensOfItems] using onward

end

end Select

end DocumentQuery
