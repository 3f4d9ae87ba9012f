import Datapress.DuckDB.Repository
import Datapress.Library.SqlText

/-! The tokens of the statements that the builders emit: how their text is read back, whatever
names stand in it. -/
namespace Datapress
open SqlText
open DatasetSchema (quoteIdent)

/-- A quoted identifier. -/
def named (name : String) : Token := .quoted .double name

def SqlExpr.tokens : SqlExpr → List Token
  | column name => [named name]
  | countAll => [.word "COUNT", .symbol '(', .operator "*", .symbol ')']
  | aggregate op col => [.word op.asSql, .symbol '(', named col, .symbol ')']

/-- The operators of `comparisonOperator`, two of which are words. -/
def operatorToken (operator : String) : Token :=
  if operator = "LIKE" ∨ operator = "ILIKE" then .word operator else .operator operator

def Test.tokens : Test → List Token
  | isNull => [.word "IS", .word "NULL"]
  | isNotNull => [.word "IS", .word "NOT", .word "NULL"]
  | oneOf placeholders =>
    [.word "IN", .symbol '('] ++
      joined [.symbol ','] (placeholders.map fun p => [.placeholder p]) ++ [.symbol ')']
  | compare operator placeholder => [operatorToken operator, .placeholder placeholder]

def Condition.tokens (condition : Condition) : List Token :=
  condition.lhs.tokens ++ condition.test.tokens

def JsonPair.tokens (pair : JsonPair) : List Token :=
  [.quoted .single pair.key, .symbol ','] ++
    if pair.cast then
      [.word "CAST", .symbol '(', named pair.column, .word "AS", .word "VARCHAR", .symbol ')']
    else [named pair.column]

def SelectItem.tokens : SelectItem → List Token
  | column name => [named name]
  | aliased expr name => expr.tokens ++ [.word "AS", named name]

def SelectList.tokens : SelectList → List Token
  | all => [.operator "*"]
  | list items => joined [.symbol ','] (items.map SelectItem.tokens)
  | jsonObject pairs =>
    [.word "json_object", .symbol '('] ++ joined [.symbol ','] (pairs.map JsonPair.tokens) ++
      [.symbol ')']

def SortKey.tokens (key : SortKey) : List Token := [named key.name, .word key.dir]

namespace SelectStatement

def clauseTokens (keyword between : List Token) (parts : List (List Token)) : List Token :=
  if parts.isEmpty then [] else keyword ++ joined between parts

/-- The tokens of a statement before its suffix. -/
def tokens (statement : SelectStatement) : List Token :=
  [.word "SELECT"] ++ (if statement.distinct then [.word "DISTINCT"] else []) ++
    statement.select.tokens ++ [.word "FROM", named statement.table] ++
    clauseTokens [.word "WHERE"] [.word "AND"] (statement.conditions.map Condition.tokens) ++
    clauseTokens [.word "GROUP", .word "BY"] [.symbol ','] (statement.groupBy.map ([named ·])) ++
    clauseTokens [.word "HAVING"] [.word "AND"] (statement.having.map Condition.tokens) ++
    clauseTokens [.word "ORDER", .word "BY"] [.symbol ','] (statement.orderBy.map SortKey.tokens)

end SelectStatement

/-! ### Separators -/

theorem opens_of_head {text : String} {c : Char} {rest : List Char}
    (starts : text.toList = c :: rest) (separates : (separator c).isSome) : Opens text :=
  .inr ⟨c, rest, starts, separates⟩

theorem opens_blank (text : String) : Opens (" " ++ text) :=
  opens_of_head (c := ' ') (by rw [String.toList_append]; rfl) rfl

theorem ends_open (text : String) : Ends (text ++ "(") :=
  .inr ⟨text.toList, '(', String.toList_append, rfl⟩

theorem ends_blank (text : String) : Ends (text ++ " ") :=
  .inr ⟨text.toList, ' ', String.toList_append, rfl⟩

theorem opens_close : Opens ")" := .inr ⟨')', [], rfl, rfl⟩

theorem lex_close : lex ")" = some [.symbol ')'] := rfl

/-- Parts with commas between them. -/
theorem lex_commas {parts : List String} {tokens : List (List Token)}
    (each : List.Forall₂ (fun part tokens => lex part = some tokens) parts tokens) :
    lex (", ".intercalate parts) = some (joined [.symbol ','] tokens) :=
  lex_intercalate rfl (opens_of_head rfl rfl) (.inr ⟨[','], ' ', rfl, rfl⟩) (by decide) each

theorem lex_ands {parts : List String} {tokens : List (List Token)}
    (each : List.Forall₂ (fun part tokens => lex part = some tokens) parts tokens) :
    lex (" AND ".intercalate parts) = some (joined [.word "AND"] tokens) :=
  lex_intercalate rfl (opens_of_head rfl rfl) (ends_blank " AND") (by decide) each

theorem forall₂_map {α : Type} {f : α → String} {g : α → List Token} {items : List α}
    (each : ∀ item ∈ items, lex (f item) = some (g item)) :
    List.Forall₂ (fun part tokens => lex part = some tokens) (items.map f) (items.map g) := by
  rw [List.forall₂_map_left_iff, List.forall₂_map_right_iff, List.forall₂_same]
  exact each

/-! ### Names and expressions -/

theorem toList_replaceChar (mark : Mark) {twice : String}
    (doubles : twice.toList = [mark.char, mark.char]) (text : String) :
    (replaceChar mark.char twice text).toList =
      text.toList.flatMap fun c => if c = mark.char then [c, c] else [c] := by
  rw [replaceChar, String.toList_ofList, doubles]
  apply List.flatMap_congr
  intro c _
  by_cases same : c = mark.char
  · rw [if_pos same, if_pos (beq_iff_eq.mpr same), same]
  · rw [if_neg same, if_neg (by simpa using same)]

theorem lex_quoteIdent (name : String) : lex (quoteIdent name) = some [named name] := by
  have doubled : (replaceChar '"' "\"\"" name).toList = _ := toList_replaceChar .double rfl name
  have quotes : quoteIdent name = Mark.double.quote name := by
    rw [← String.toList_inj, quoteIdent, String.toList_append, String.toList_append, doubled]
    simp only [Mark.quote, String.toList_ofList]
    rfl
  rw [quotes]
  exact lex_quote .double name

theorem lex_quoteString (key : String) :
    lex ("'" ++ replaceChar '\'' "''" key ++ "'") = some [.quoted .single key] := by
  have doubled : (replaceChar '\'' "''" key).toList = _ := toList_replaceChar .single rfl key
  have quotes : "'" ++ replaceChar '\'' "''" key ++ "'" = Mark.single.quote key := by
    rw [← String.toList_inj, String.toList_append, String.toList_append, doubled]
    simp only [Mark.quote, String.toList_ofList]
    rfl
  rw [quotes]
  exact lex_quote .single key

theorem lex_sqlExpr (expr : SqlExpr) : lex expr.sql = some expr.tokens := by
  cases expr with
  | column name => exact lex_quoteIdent name
  | countAll => rfl
  | aggregate op col =>
      have keyword : lex (op.asSql ++ "(") = some [.word op.asSql, .symbol '('] := by
        cases op <;> rfl
      have operand := lex_append keyword (lex_quoteIdent col) (.inl (ends_open _))
      exact lex_append operand lex_close (.inr opens_close)

/-- A key with what follows it in a pair. -/
theorem lex_keyed {key after : String} {tokens : List Token} (reads : lex after = some tokens)
    (opens : Opens after) : lex ("'" ++ replaceChar '\'' "''" key ++ ("'" ++ after)) =
      some (.quoted .single key :: tokens) := by
  have keyed := lex_append (lex_quoteString key) reads (.inr opens)
  rwa [String.append_assoc] at keyed

theorem lex_jsonPair (pair : JsonPair) : lex pair.sql = some pair.tokens := by
  unfold JsonPair.sql JsonPair.tokens
  cases pair.cast with
  | false =>
      have comma : lex ", " = some [.symbol ','] := rfl
      have opens : Opens ", " := opens_of_head rfl rfl
      have keyed := @lex_keyed pair.key _ _ comma opens
      have whole := lex_append keyed (lex_quoteIdent pair.column)
        (.inl (((ends_blank ",").append_of_ne (by decide)).append_of_ne (by decide)))
      exact whole
  | true =>
      have cast : lex ", CAST(" = some [.symbol ',', .word "CAST", .symbol '('] := rfl
      have close : lex " AS VARCHAR)" = some [.word "AS", .word "VARCHAR", .symbol ')'] := rfl
      have opens : Opens ", CAST(" := opens_of_head rfl rfl
      have keyed := @lex_keyed pair.key _ _ cast opens
      have column := lex_append keyed (lex_quoteIdent pair.column)
        (.inl (((ends_open ", CAST").append_of_ne (by decide)).append_of_ne (by decide)))
      have whole := lex_append column close (.inr (opens_blank "AS VARCHAR)"))
      exact whole

theorem lex_selectItem (item : SelectItem) : lex item.sql = some item.tokens := by
  cases item with
  | column name => exact lex_quoteIdent name
  | aliased expr name =>
      have output := lex_append (lex_sqlExpr expr) (rfl : lex " AS " = some [.word "AS"])
        (.inr (opens_blank "AS "))
      have item := lex_append output (lex_quoteIdent name)
        (.inl ((ends_blank " AS").append_of_ne (by decide)))
      rwa [List.append_assoc] at item

theorem lex_selectList (select : SelectList) : lex select.sql = some select.tokens := by
  cases select with
  | all => rfl
  | list items => exact lex_commas (forall₂_map fun item _ => lex_selectItem item)
  | jsonObject pairs =>
      have listed := lex_commas (@forall₂_map _ _ _ pairs fun pair _ => lex_jsonPair pair)
      have opened := lex_append
        (rfl : lex "json_object(" = some [.word "json_object", .symbol '(']) listed
        (.inl (ends_open "json_object"))
      exact lex_append opened lex_close (.inr opens_close)

/-! ### Conditions -/

/-- A test whose placeholders and operator are of the builders' kinds. -/
def Test.Readable : Test → Prop
  | isNull | isNotNull => True
  | oneOf placeholders => ∀ p ∈ placeholders, lex p = some [.placeholder p]
  | compare operator placeholder =>
    lex operator = some [operatorToken operator] ∧ lex placeholder = some [.placeholder placeholder]

theorem lex_condition {condition : Condition} (readable : condition.test.Readable) :
    lex condition.sql = some condition.tokens := by
  have lhs := lex_sqlExpr condition.lhs
  unfold Condition.sql Condition.tokens
  cases test : condition.test with
  | isNull => exact lex_append lhs (rfl : lex " IS NULL" = _) (.inr (opens_blank "IS NULL"))
  | isNotNull =>
      exact lex_append lhs (rfl : lex " IS NOT NULL" = _) (.inr (opens_blank "IS NOT NULL"))
  | oneOf placeholders =>
      rw [test] at readable
      have keyword : lex " IN (" = some [.word "IN", .symbol '('] := rfl
      have listed := lex_commas
        (@forall₂_map _ id (fun p => [.placeholder p]) placeholders readable)
      rw [List.map_id] at listed
      have opened := lex_append lhs keyword (.inr (opens_blank "IN ("))
      have values := lex_append opened listed (.inl ((ends_open " IN ").append_of_ne (by decide)))
      have closed := lex_append values lex_close (.inr opens_close)
      simp only [List.append_assoc] at closed
      rw [Test.tokens, List.append_assoc]
      exact closed
  | compare operator placeholder =>
      rw [test] at readable
      have blank : lex " " = some [] := rfl
      have left := lex_append lhs blank (.inr (opens_blank ""))
      have compared := lex_append left readable.1
        (.inl ((ends_blank "").append_of_ne (by decide)))
      have spaced := lex_append compared blank (.inr (opens_blank ""))
      have whole := lex_append spaced readable.2
        (.inl ((ends_blank "").append_of_ne (by decide)))
      simp only [List.append_assoc] at whole
      exact whole

/-! ### Statements -/

theorem lex_sortKey {key : SortKey} (known : key.dir = "ASC" ∨ key.dir = "DESC") :
    lex key.sql = some key.tokens := by
  obtain ⟨name, dir⟩ := key
  have left := lex_append (lex_quoteIdent name) (rfl : lex " " = some []) (.inr (opens_blank ""))
  have spaced : Ends (quoteIdent name ++ " ") := ends_blank _
  rcases known with rfl | rfl
  · exact lex_append left (rfl : lex "ASC" = some [.word "ASC"]) (.inl spaced)
  · exact lex_append left (rfl : lex "DESC" = some [.word "DESC"]) (.inl spaced)

namespace SelectStatement

theorem opens_clause (keyword between : String) (parts : List String) :
    Opens (clause keyword between parts) := by
  unfold clause
  split
  · exact .inl rfl
  · exact (((opens_blank "").append_of_ne (by decide)).append_of_ne (by simp)).append_of_ne
      (by simp)

theorem lex_clause {keyword glue : String} {before between : List Token} {parts : List String}
    {tokens : List (List Token)} (reads : lex (" " ++ keyword ++ " ") = some before)
    (listed : lex (glue.intercalate parts) = some (joined between tokens))
    (same : parts.length = tokens.length) :
    lex (clause keyword glue parts) = some (clauseTokens before between tokens) := by
  cases parts with
  | nil =>
      rw [List.length_eq_zero_iff.mp same.symm]
      rfl
  | cons part others =>
      cases tokens with
      | nil => cases same
      | cons first rest => exact lex_append reads listed (.inl (ends_blank _))

/-- A statement whose conditions and sort keys are of the builders' kinds. -/
structure Readable (statement : SelectStatement) : Prop where
  conditions : ∀ condition ∈ statement.conditions, condition.test.Readable
  having : ∀ condition ∈ statement.having, condition.test.Readable
  orderBy : ∀ key ∈ statement.orderBy, key.dir = "ASC" ∨ key.dir = "DESC"

variable {statement : SelectStatement}

theorem lex_head (statement : SelectStatement) :
    lex (let distinct := if statement.distinct then "DISTINCT " else ""
      s!"SELECT {distinct}{statement.select.sql} FROM {quoteIdent statement.table}") =
      some ([.word "SELECT"] ++ (if statement.distinct then [.word "DISTINCT"] else []) ++
        statement.select.tokens ++ [.word "FROM", named statement.table]) := by
  have select := lex_selectList statement.select
  have table := lex_quoteIdent statement.table
  have source : lex " FROM " = some [.word "FROM"] := rfl
  cases statement.distinct with
  | false =>
      have start := lex_append (rfl : lex ("SELECT " ++ "") = some [.word "SELECT"]) select
        (.inl (ends_blank "SELECT"))
      have listed := lex_append start source (.inr (opens_blank "FROM "))
      have whole := lex_append listed table (.inl ((ends_blank " FROM").append_of_ne (by decide)))
      simp only [List.append_assoc] at whole
      simp only [Bool.false_eq_true, if_false, List.append_assoc]
      exact whole
  | true =>
      have start := lex_append
        (rfl : lex ("SELECT " ++ "DISTINCT ") = some [.word "SELECT", .word "DISTINCT"]) select
        (.inl (ends_blank "SELECT DISTINCT"))
      have listed := lex_append start source (.inr (opens_blank "FROM "))
      have whole := lex_append listed table (.inl ((ends_blank " FROM").append_of_ne (by decide)))
      simp only [List.append_assoc] at whole
      simp only [if_true, List.append_assoc]
      exact whole

/-- A statement is read back clause by clause. -/
theorem lex_sql (readable : statement.Readable) {last : List Token}
    (suffix : lex statement.suffix = some last) (opens : Opens statement.suffix) :
    lex statement.sql = some (statement.tokens ++ last) := by
  have conditions := lex_clause (rfl : lex (" " ++ "WHERE" ++ " ") = some [.word "WHERE"])
    (lex_ands (forall₂_map fun condition member =>
      lex_condition (readable.conditions condition member))) (by simp)
  have groupBy := lex_clause
    (rfl : lex (" " ++ "GROUP BY" ++ " ") = some [.word "GROUP", .word "BY"])
    (lex_commas (@forall₂_map _ quoteIdent ([named ·]) statement.groupBy fun name _ =>
      lex_quoteIdent name)) (by simp)
  have having := lex_clause (rfl : lex (" " ++ "HAVING" ++ " ") = some [.word "HAVING"])
    (lex_ands (forall₂_map fun condition member =>
      lex_condition (readable.having condition member))) (by simp)
  have orderBy := lex_clause
    (rfl : lex (" " ++ "ORDER BY" ++ " ") = some [.word "ORDER", .word "BY"])
    (lex_commas (forall₂_map fun key member => lex_sortKey (readable.orderBy key member)))
    (by simp)
  have whole := lex_append (lex_append (lex_append (lex_append (lex_append (lex_head statement)
    conditions (.inr (opens_clause ..))) groupBy (.inr (opens_clause ..)))
    having (.inr (opens_clause ..))) orderBy (.inr (opens_clause ..))) suffix (.inr opens)
  exact whole

end SelectStatement

namespace DuckDB.JsonQuery

/-- The tokens of a query whose statement ends in the given ones. -/
def tokens (last : List Token) : JsonQuery → List Token
  | row statement => statement.tokens ++ last
  | wrapped pairs inner =>
    [.word "SELECT"] ++ (SelectList.jsonObject pairs).tokens ++ [.word "FROM", .symbol '('] ++
      (inner.tokens ++ last) ++ [.symbol ')', .word "sub"]

theorem lex_sql {query : JsonQuery} (readable : query.statement.Readable) {last : List Token}
    (suffix : lex query.statement.suffix = some last) (opens : Opens query.statement.suffix) :
    lex query.sql = some (query.tokens last) := by
  cases query with
  | row statement => exact SelectStatement.lex_sql readable suffix opens
  | wrapped pairs inner =>
      have listed := lex_commas (@forall₂_map _ _ _ pairs fun pair _ => lex_jsonPair pair)
      have source : lex ") FROM (" = some [.symbol ')', .word "FROM", .symbol '('] := rfl
      have inside := SelectStatement.lex_sql readable suffix opens
      have start := lex_append (rfl : lex "SELECT json_object(" =
        some [.word "SELECT", .word "json_object", .symbol '(']) listed
        (.inl (ends_open "SELECT json_object"))
      have outer := lex_append start source (.inr (opens_of_head rfl rfl))
      have filled := lex_append outer inside (.inl ((ends_open ") FROM ").append_of_ne (by decide)))
      have whole := lex_append filled (rfl : lex ") sub" = some [.symbol ')', .word "sub"])
        (.inr (opens_of_head rfl rfl))
      simp only [tokens, SelectList.tokens, List.append_assoc, List.cons_append, List.nil_append]
      simp only [List.append_assoc, List.cons_append, List.nil_append] at whole
      exact whole

end DuckDB.JsonQuery

end Datapress
