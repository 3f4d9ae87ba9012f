import Datapress.ColumnAccess
import Datapress.StatementText

/-! What the tokens of a statement can be: the names and placeholders it was written with, and
words and operators from a fixed list. -/
namespace Datapress
open SqlText
open DuckDB (JsonQuery)

/-! ### Names and placeholders -/

def Test.placeholders : Test → List String
  | isNull | isNotNull => []
  | oneOf placeholders => placeholders
  | compare _ placeholder => [placeholder]

/-- The names of an entry of a select list, as they follow one another. -/
def SelectItem.names : SelectItem → List String
  | column name => [name]
  | aliased expr name => expr.columns ++ [name]

def Condition.supplied (condition : Condition) : List Token :=
  condition.lhs.columns.map named ++ condition.test.placeholders.map .placeholder

def JsonPair.supplied (pair : JsonPair) : List Token :=
  [.quoted .single pair.key, named pair.column]

def SelectList.supplied : SelectList → List Token
  | all => []
  | list items => (items.flatMap SelectItem.names).map named
  | jsonObject pairs => pairs.flatMap JsonPair.supplied

/-- The names and placeholders of a statement, in their order. -/
def SelectStatement.supplied (statement : SelectStatement) : List Token :=
  statement.select.supplied ++ [named statement.table] ++
    statement.conditions.flatMap Condition.supplied ++ statement.groupBy.map named ++
    statement.having.flatMap Condition.supplied ++ statement.orderBy.map fun key => named key.name

def DuckDB.JsonQuery.supplied : JsonQuery → List Token
  | row statement => statement.supplied
  | wrapped pairs inner => pairs.flatMap JsonPair.supplied ++ inner.supplied

theorem filter_clauseTokens {keyword between : List Token}
    (silent : keyword.filter Token.supplied = []) (silent' : between.filter Token.supplied = [])
    (parts : List (List Token)) :
    (SelectStatement.clauseTokens keyword between parts).filter Token.supplied =
      parts.flatMap (·.filter Token.supplied) := by
  unfold SelectStatement.clauseTokens
  split
  case isTrue none =>
    rw [List.isEmpty_iff.mp none]
    rfl
  case isFalse => rw [List.filter_append, silent, filter_joined silent', List.nil_append]

theorem SqlExpr.filter_tokens (expr : SqlExpr) :
    expr.tokens.filter Token.supplied = expr.columns.map named := by
  cases expr <;> rfl

theorem Test.filter_tokens (test : Test) :
    test.tokens.filter Token.supplied = test.placeholders.map .placeholder := by
  cases test with
  | oneOf placeholders =>
      have each : (fun p : String => [Token.placeholder p].filter Token.supplied) =
        fun p => [.placeholder p] := rfl
      rw [tokens, List.filter_append, List.filter_append, filter_joined rfl, List.flatMap_map, each,
        ← List.map_eq_flatMap]
      exact List.append_nil _
  | compare operator placeholder =>
      have spelled : [operatorToken operator].filter Token.supplied = [] := by
        unfold operatorToken
        split <;> rfl
      rw [tokens, ← List.singleton_append, List.filter_append, spelled]
      rfl
  | _ => rfl

theorem Condition.filter_tokens (condition : Condition) :
    condition.tokens.filter Token.supplied = condition.supplied := by
  rw [tokens, List.filter_append, Test.filter_tokens, SqlExpr.filter_tokens]
  rfl

theorem JsonPair.filter_tokens (pair : JsonPair) :
    pair.tokens.filter Token.supplied = pair.supplied := by
  unfold tokens
  cases pair.cast <;> rfl

theorem SelectItem.filter_tokens (item : SelectItem) :
    item.tokens.filter Token.supplied = item.names.map named := by
  cases item with
  | column name => rfl
  | aliased expr name =>
      rw [tokens, List.filter_append, SqlExpr.filter_tokens, names, List.map_append]
      rfl

theorem SelectList.filter_tokens (select : SelectList) :
    select.tokens.filter Token.supplied = select.supplied := by
  cases select with
  | all => rfl
  | list items =>
      rw [tokens, filter_joined rfl, List.flatMap_map, supplied, List.map_flatMap]
      simp only [SelectItem.filter_tokens]
  | jsonObject pairs =>
      rw [tokens, List.filter_append, List.filter_append, filter_joined rfl, List.flatMap_map]
      simp only [JsonPair.filter_tokens]
      exact List.append_nil _

theorem SelectStatement.filter_tokens (statement : SelectStatement) :
    statement.tokens.filter Token.supplied = statement.supplied := by
  have distinct : (if statement.distinct then [Token.word "DISTINCT"] else []).filter
      Token.supplied = [] := by
    cases statement.distinct <;> rfl
  have conditions := @filter_clauseTokens [.word "WHERE"] [.word "AND"] rfl rfl
    (statement.conditions.map Condition.tokens)
  have groupBy := @filter_clauseTokens [.word "GROUP", .word "BY"] [.symbol ','] rfl rfl
    (statement.groupBy.map ([named ·]))
  have having := @filter_clauseTokens [.word "HAVING"] [.word "AND"] rfl rfl
    (statement.having.map Condition.tokens)
  have orderBy := @filter_clauseTokens [.word "ORDER", .word "BY"] [.symbol ','] rfl rfl
    (statement.orderBy.map SortKey.tokens)
  have grouped : (fun name : String => [named name].filter Token.supplied) =
      fun name => [named name] := rfl
  have sorted : (fun key : SortKey => key.tokens.filter Token.supplied) =
      fun key => [named key.name] := rfl
  simp only [List.flatMap_map, Condition.filter_tokens, grouped, sorted, ← List.map_eq_flatMap]
    at conditions groupBy having orderBy
  simp only [tokens, List.filter_append, distinct, SelectList.filter_tokens, conditions, groupBy,
    having, orderBy, supplied, List.append_assoc]
  rfl

theorem DuckDB.JsonQuery.filter_tokens (query : JsonQuery) {last : List Token}
    (silent : last.filter Token.supplied = []) :
    (query.tokens last).filter Token.supplied = query.supplied := by
  cases query with
  | row statement =>
      rw [tokens, List.filter_append, silent, List.append_nil, SelectStatement.filter_tokens]
      rfl
  | wrapped pairs inner =>
      have source : [Token.word "FROM", .symbol '('].filter Token.supplied = [] := rfl
      have close : [Token.symbol ')', .word "sub"].filter Token.supplied = [] := rfl
      simp only [tokens, List.filter_append, silent, SelectList.filter_tokens,
        SelectStatement.filter_tokens, source, close, List.append_nil]
      rfl

/-! ### Words and operators -/

def keywords : List String :=
  ["SELECT", "DISTINCT", "FROM", "WHERE", "AND", "GROUP", "BY", "HAVING", "ORDER", "ASC", "DESC",
    "LIMIT", "OFFSET", "IS", "NOT", "NULL", "IN", "LIKE", "ILIKE", "AS", "CAST", "VARCHAR", "COUNT",
    "SUM", "AVG", "MIN", "MAX", "json_object", "sub"]

/-- The operators of comparisons. -/
def comparisons : List String := ["=", "!=", "<>", ">", ">=", "<", "<=", "LIKE", "ILIKE"]

/-- A token whose text, unless it is a name or a placeholder, is one of the builders' own or a
number. -/
def KnownToken : Token → Prop
  | .word text => text ∈ keywords ∨ ∃ n : Nat, text = toString n
  | .operator text => text = "*" ∨ text ∈ comparisons
  | _ => True

def AllKnown (tokens : List Token) : Prop := ∀ token ∈ tokens, KnownToken token

theorem AllKnown.append {first second : List Token} (known : AllKnown first)
    (known' : AllKnown second) : AllKnown (first ++ second) :=
  List.forall_mem_append.mpr ⟨known, known'⟩

theorem AllKnown.joined {between : List Token} {lists : List (List Token)}
    (known : AllKnown between) (each : ∀ tokens ∈ lists, AllKnown tokens) :
    AllKnown (joined between lists) := by
  intro token member
  rcases mem_joined member with glued | ⟨tokens, listed, here⟩
  · exact known token glued
  · exact each tokens listed token here

theorem AllKnown.clause {keyword between : List Token} {parts : List (List Token)}
    (known : AllKnown keyword) (known' : AllKnown between)
    (each : ∀ tokens ∈ parts, AllKnown tokens) :
    AllKnown (SelectStatement.clauseTokens keyword between parts) := by
  unfold SelectStatement.clauseTokens
  split
  case isTrue => exact List.forall_mem_nil _
  case isFalse => exact known.append (.joined known' each)

theorem AllKnown.words {words : List String} (known : ∀ text ∈ words, text ∈ keywords) :
    AllKnown (words.map .word) := by
  intro token member
  obtain ⟨text, listed, rfl⟩ := List.mem_map.mp member
  exact .inl (known text listed)

theorem AllKnown.comma : AllKnown [.symbol ','] := List.forall_mem_singleton.mpr trivial

theorem AllKnown.name (name : String) : AllKnown [named name] :=
  List.forall_mem_singleton.mpr trivial

theorem AllKnown.and : AllKnown [.word "AND"] := @AllKnown.words ["AND"] (by decide)

/-- A test written by a builder. -/
def Test.Written : Test → Prop
  | isNull | isNotNull => True
  | oneOf placeholders => ∀ p ∈ placeholders, lex p = some [.placeholder p]
  | compare operator placeholder =>
    operator ∈ comparisons ∧ lex placeholder = some [.placeholder placeholder]

theorem comparison_spelled {operator : String} (known : operator ∈ comparisons) :
    lex operator = some [operatorToken operator] ∧ KnownToken (operatorToken operator) := by
  simp only [comparisons, List.mem_cons, List.not_mem_nil, or_false] at known
  rcases known with rfl | rfl | rfl | rfl | rfl | rfl | rfl | rfl | rfl
  case inr.inr.inr.inr.inr.inr.inr.inl => exact ⟨rfl, .inl (by decide)⟩
  case inr.inr.inr.inr.inr.inr.inr.inr => exact ⟨rfl, .inl (by decide)⟩
  all_goals exact ⟨rfl, .inr (by decide)⟩

theorem Test.Written.readable {test : Test} (written : test.Written) : test.Readable := by
  cases test with
  | isNull => trivial
  | isNotNull => trivial
  | oneOf placeholders => exact written
  | compare operator placeholder => exact ⟨(comparison_spelled written.1).1, written.2⟩

theorem SqlExpr.known (expr : SqlExpr) : AllKnown expr.tokens := by
  cases expr with
  | column name => exact List.forall_mem_singleton.mpr trivial
  | countAll => simp [AllKnown, tokens, KnownToken, keywords]
  | aggregate op col =>
      cases op <;> simp [AllKnown, tokens, KnownToken, keywords, AggOp.asSql, named]

theorem Test.Written.known {test : Test} (written : test.Written) : AllKnown test.tokens := by
  cases test with
  | isNull => exact @AllKnown.words ["IS", "NULL"] (by decide)
  | isNotNull => exact @AllKnown.words ["IS", "NOT", "NULL"] (by decide)
  | oneOf placeholders =>
      have listed : AllKnown
          (SqlText.joined [.symbol ','] (placeholders.map fun p => [.placeholder p])) := by
        apply AllKnown.joined AllKnown.comma
        intro tokens member
        obtain ⟨p, _, rfl⟩ := List.mem_map.mp member
        exact List.forall_mem_singleton.mpr trivial
      have keyword : AllKnown [.word "IN", .symbol '('] := by
        simp [AllKnown, KnownToken, keywords]
      have close : AllKnown [.symbol ')'] := List.forall_mem_singleton.mpr trivial
      exact (keyword.append listed).append close
  | compare operator placeholder =>
      have operand : AllKnown [.placeholder placeholder] := List.forall_mem_singleton.mpr trivial
      exact AllKnown.append (List.forall_mem_singleton.mpr (comparison_spelled written.1).2) operand

theorem JsonPair.known (pair : JsonPair) : AllKnown pair.tokens := by
  unfold tokens
  cases pair.cast <;> simp [AllKnown, KnownToken, keywords, named]

theorem SelectItem.known (item : SelectItem) : AllKnown item.tokens := by
  cases item with
  | column name => exact AllKnown.name name
  | aliased expr name =>
      apply expr.known.append
      simp [AllKnown, KnownToken, keywords, named]

theorem SelectList.known (select : SelectList) : AllKnown select.tokens := by
  cases select with
  | all => simp [AllKnown, tokens, KnownToken]
  | list items =>
      apply AllKnown.joined AllKnown.comma
      intro tokens member
      obtain ⟨item, _, rfl⟩ := List.mem_map.mp member
      exact item.known
  | jsonObject pairs =>
      have listed : AllKnown (SqlText.joined [.symbol ','] (pairs.map JsonPair.tokens)) := by
        apply AllKnown.joined AllKnown.comma
        intro tokens member
        obtain ⟨pair, _, rfl⟩ := List.mem_map.mp member
        exact pair.known
      have keyword : AllKnown [.word "json_object", .symbol '('] := by
        simp [AllKnown, KnownToken, keywords]
      exact (keyword.append listed).append (List.forall_mem_singleton.mpr trivial)

theorem Condition.known {condition : Condition} (written : condition.test.Written) :
    AllKnown condition.tokens :=
  condition.lhs.known.append written.known

/-- A statement whose conditions and sort keys a builder has written. -/
structure SelectStatement.Written (statement : SelectStatement) : Prop where
  conditions : ∀ condition ∈ statement.conditions, condition.test.Written
  having : ∀ condition ∈ statement.having, condition.test.Written
  orderBy : ∀ key ∈ statement.orderBy, key.dir = "ASC" ∨ key.dir = "DESC"

theorem SelectStatement.Written.readable {statement : SelectStatement}
    (written : statement.Written) : statement.Readable where
  conditions condition member := (written.conditions condition member).readable
  having condition member := (written.having condition member).readable
  orderBy := written.orderBy

theorem SelectStatement.Written.known {statement : SelectStatement} (written : statement.Written) :
    AllKnown statement.tokens := by
  have select : AllKnown [.word "SELECT"] := @AllKnown.words ["SELECT"] (by decide)
  have distinct : AllKnown (if statement.distinct then [.word "DISTINCT"] else []) := by
    split
    · exact @AllKnown.words ["DISTINCT"] (by decide)
    · exact List.forall_mem_nil _
  have table : AllKnown [.word "FROM", named statement.table] := by
    simp [AllKnown, KnownToken, keywords, named]
  have conditions : AllKnown (clauseTokens [.word "WHERE"] [.word "AND"]
      (statement.conditions.map Condition.tokens)) := by
    apply AllKnown.clause (@AllKnown.words ["WHERE"] (by decide)) AllKnown.and
    intro tokens member
    obtain ⟨condition, listed, rfl⟩ := List.mem_map.mp member
    exact Condition.known (written.conditions condition listed)
  have groupBy : AllKnown (clauseTokens [.word "GROUP", .word "BY"] [.symbol ',']
      (statement.groupBy.map ([named ·]))) := by
    apply AllKnown.clause (@AllKnown.words ["GROUP", "BY"] (by decide)) AllKnown.comma
    intro tokens member
    obtain ⟨name, _, rfl⟩ := List.mem_map.mp member
    exact AllKnown.name name
  have having : AllKnown (clauseTokens [.word "HAVING"] [.word "AND"]
      (statement.having.map Condition.tokens)) := by
    apply AllKnown.clause (@AllKnown.words ["HAVING"] (by decide)) AllKnown.and
    intro tokens member
    obtain ⟨condition, listed, rfl⟩ := List.mem_map.mp member
    exact Condition.known (written.having condition listed)
  have orderBy : AllKnown (clauseTokens [.word "ORDER", .word "BY"] [.symbol ',']
      (statement.orderBy.map SortKey.tokens)) := by
    apply AllKnown.clause (@AllKnown.words ["ORDER", "BY"] (by decide)) AllKnown.comma
    intro tokens member
    obtain ⟨key, listed, rfl⟩ := List.mem_map.mp member
    have dir : AllKnown [.word key.dir] := by
      rcases written.orderBy key listed with same | same <;> rw [same]
      · exact @AllKnown.words ["ASC"] (by decide)
      · exact @AllKnown.words ["DESC"] (by decide)
    exact (AllKnown.name key.name).append dir
  exact ((((((select.append distinct).append statement.select.known).append table).append
    conditions).append groupBy).append having).append orderBy

theorem DuckDB.JsonQuery.known {query : JsonQuery} (written : query.statement.Written)
    {last : List Token} (known : AllKnown last) : AllKnown (query.tokens last) := by
  cases query with
  | row statement => exact SelectStatement.Written.known written |>.append known
  | wrapped pairs inner =>
      have select : AllKnown [.word "SELECT"] := @AllKnown.words ["SELECT"] (by decide)
      have source : AllKnown [.word "FROM", .symbol '('] := by
        simp [AllKnown, KnownToken, keywords]
      have close : AllKnown [.symbol ')', .word "sub"] := by
        simp [AllKnown, KnownToken, keywords]
      have inside := (SelectStatement.Written.known written).append known
      have outer := (select.append (SelectList.jsonObject pairs).known).append source
      exact (outer.append inside).append close

end Datapress
