import Datapress.PlainDialect
import Datapress.DataFusion.Materialize
import Datapress.DuckDB.Builds
import Datapress.Library.Words
import Datapress.Sql.Gate

/-! What becomes of the text of a query in the statements that are built around it. -/
namespace Datapress.Wrapping
open SqlText
open DatasetSchema (quoteIdent)
open DuckDB (BuildConfig tempName)
open DataFusion.Materialize (applySortBy)

variable {Row : Type}

/-! ### The texts -/

/-- The statement of `replace_table` for a query that stays in memory. -/
def replaceTable (d : BuildConfig) (sql : String) : String :=
  s!"CREATE OR REPLACE TABLE {quoteIdent d.name} AS {sql}{d.orderByClause};"

/-- The statement of `register_dataset` for a query that stays in memory. -/
def registerTable (d : BuildConfig) (sql : String) : String :=
  s!"CREATE TABLE {quoteIdent d.name} AS {sql}{d.orderByClause};"

/-- The statement of `register_query_with_storage`. -/
def temporaryTable (d : BuildConfig) (genId sql : String) : String :=
  s!"CREATE TABLE {quoteIdent (tempName d.name genId)} AS {sql}{d.orderByClause};"

/-- `max_rows` of a request to the SQL endpoint. -/
def rowCap (configured : UInt64) (requested : Option UInt64) : UInt64 :=
  let most := max configured 1
  match requested with
  | some asked => max 1 (min asked most)
  | none => most

/-- The statement of `query_sql`. -/
def querySql (sql : String) (maxRows : UInt64) : String :=
  let cap := (max maxRows 1).toNat
  s!"SELECT to_json(_dp) FROM ({sql}) AS _dp LIMIT {cap}"

/-- The statement of `query_sql_arrow_write`. -/
def querySqlArrow (sql : String) (maxRows : UInt64) : String :=
  let cap := (max maxRows 1).toNat
  s!"SELECT * FROM ({sql}) AS _dp LIMIT {cap}"

/-! ### A statement and what is put around it -/

/-- A text that the engine runs as one statement, and what it returns. -/
structure Original (dialect : Dialect Row) (text : String) where
  tokens : List Token
  /-- The text ends in a comment that what follows on its line is part of. -/
  comment : Bool
  statement : List Token
  table : Table Row
  reads : dialect.read text.toList = some (tokens, comment)
  single : Single tokens statement
  runs : dialect.runs statement = some table

section
variable {dialect : Dialect Row} {text : String} (original : Original dialect text)

/-- Nothing of the text keeps others from standing behind it. -/
def Original.Closed : Prop := original.comment = false ∧ semicolon ∉ original.tokens

namespace Original
variable {original}

theorem statement_eq (closed : original.Closed) : original.statement = original.tokens := by
  rw [original.single.eq_filter, filter_undivided closed.2]

theorem query_or_describe : dialect.query original.statement = some original.table ∨
    dialect.query original.statement = none ∧
      dialect.describe original.statement = some original.table :=
  Option.or_eq_some_iff.mp original.runs

theorem isSome : (dialect.query original.statement).isSome ∨
    (dialect.describe original.statement).isSome := by
  rcases original.query_or_describe with query | ⟨_, describe⟩
  · exact .inl (by rw [query]; rfl)
  · exact .inr (by rw [describe]; rfl)

/-- Output columns can be named. -/
theorem known {names : List String} (outputs : ∀ c ∈ names, c ∈ original.table.columns) :
    ∀ c ∈ names, dialect.Names c := by
  have found : dialect.query original.statement = some original.table ∨
      dialect.describe original.statement = some original.table :=
    original.query_or_describe.imp_right And.right
  exact fun c member => dialect.columns found c (outputs c member)

/-- What `Nestable` says of the statement is said of its table. -/
theorem nested (nestable : dialect.Nestable original.statement) :
    dialect.query original.statement = some original.table ∨
      dialect.nests = true ∧ dialect.describe original.statement = some original.table := by
  rcases original.query_or_describe with query | ⟨none, describe⟩
  · exact .inl query
  · rcases nestable with query | ⟨nests, _⟩
    · rw [none] at query
      cases query
    · exact .inr ⟨nests, describe⟩

/-- Texts before and behind a closed one. -/
theorem read_between {front back : List Char} {before after : List Token} {comment : Bool}
    (fronted : ∀ rest, dialect.read (front ++ rest) =
      (dialect.read rest).map (Reading.after before))
    (apart : Apart text.toList back) (reads : dialect.read back = some (after, comment))
    (closed : original.comment = false) :
    dialect.read (front ++ (text.toList ++ back)) =
      some (before ++ (original.tokens ++ after), comment) := by
  have whole := original.reads
  rw [closed] at whole
  rw [fronted, dialect.read_append whole apart, reads]
  rfl

/-- Behind a comment all is comment to the end of the line. -/
theorem read_comment {front back : List Char} {before : List Token}
    (fronted : ∀ rest, dialect.read (front ++ rest) =
      (dialect.read rest).map (Reading.after before))
    (line : OneLine back) (comment : original.comment = true) :
    dialect.read (front ++ (text.toList ++ back)) =
      some (before ++ original.tokens, true) := by
  have whole := original.reads
  rw [comment] at whole
  rw [fronted, dialect.read_comment whole line]
  rfl

end Original

/-! ### In parentheses -/

/-- A text in parentheses: `SELECT items FROM (text) AS name more`. -/
structure Nested (dialect : Dialect Row) (text whole : String) (items more : List Token)
    (name : String) where
  front : List Char
  back : List Char
  whole_eq : whole.toList = front ++ (text.toList ++ back)
  fronted : ∀ rest, dialect.read (front ++ rest) = (dialect.read rest).map
    (Reading.after (.word "SELECT" :: items ++ [.word "FROM", .symbol '(']))
  backed : dialect.read back = some ([.symbol ')', .word "AS", .word name] ++ more, false)
  opens : back.head?.any separates = true
  ink : (back.dropWhile isBlank).head? ≠ some '\''
  items_undivided : semicolon ∉ items
  more_undivided : semicolon ∉ more
  parenthesis : nesting 0 (.word "SELECT" :: items ++ [.word "FROM", .symbol '(']) = some 1

namespace Nested
variable {whole name : String} {items more : List Token}
  (nested : Nested dialect text whole items more name)
include nested

theorem front_undivided :
    semicolon ∉ (Token.word "SELECT" :: items ++ [.word "FROM", .symbol '(']) := by
  simpa using nested.items_undivided

theorem back_undivided :
    semicolon ∉ [Token.symbol ')', .word "AS", .word name] ++ more := by
  simpa using nested.more_undivided

omit nested in
theorem split (inner : List Token) :
    (Token.word "SELECT" :: items ++ [.word "FROM", .symbol '(']) ++
      (inner ++ ([.symbol ')', .word "AS", .word name] ++ more)) =
    derived items inner name ++ more := by
  simp [derived]

/-- Behind an opening parenthesis no statement runs that does not close it. -/
theorem open_not_runs {statement : List Token}
    (matched : nesting 0 statement = some 0) :
    dialect.runs ((Token.word "SELECT" :: items ++ [.word "FROM", .symbol '(']) ++ statement) =
      none := by
  rw [← Option.not_isSome_iff_eq_none, Dialect.runs, Option.isSome_or, Bool.or_eq_true]
  intro runs
  have closed := dialect.balanced runs
  have inside : nesting 1 statement = some 1 := nesting_of_matched 1 matched
  rw [nesting_append, nested.parenthesis, Option.bind_some, inside] at closed
  cases closed

theorem returns_of_closed (closed : original.Closed) {table : Table Row}
    (query : dialect.query (derived items original.statement name ++ more) = some table) :
    dialect.Returns whole table := by
  have reads := original.read_between nested.fronted (.of_second nested.opens nested.ink _)
    nested.backed closed.1
  rw [split, ← nested.whole_eq] at reads
  rw [original.statement_eq closed] at query
  refine ⟨_, _, _, reads, .of_undivided (by simp [derived]) ?_, ?_⟩
  · rw [← split]
    simp only [List.mem_append, not_or]
    exact ⟨by simpa using nested.front_undivided, closed.2, by simpa using nested.back_undivided⟩
  · rw [Dialect.runs, query]
    rfl

/-- What runs as a whole is closed inside and stands in its parentheses. -/
theorem of_returns (line : OneLine nested.back) {table : Table Row}
    (returns : dialect.Returns whole table) :
    original.Closed ∧ dialect.Nestable original.statement := by
  obtain ⟨tokens, comment, statement, reads, single, runs⟩ := returns
  rw [nested.whole_eq] at reads
  cases ended : original.comment with
  | true =>
      rw [original.read_comment nested.fronted line ended] at reads
      cases reads
      obtain ⟨_, rfl⟩ := original.single.of_prepend (by simp) nested.front_undivided single
      rw [nested.open_not_runs (dialect.balanced original.isSome)] at runs
      cases runs
  | false =>
      rw [original.read_between nested.fronted (.of_second nested.opens nested.ink _)
        nested.backed ended] at reads
      cases reads
      obtain ⟨undivided, rfl⟩ := Single.between (by simp) (by simp) nested.front_undivided
        nested.back_undivided single
      have closed : original.Closed := ⟨ended, undivided⟩
      refine ⟨closed, ?_⟩
      rw [split, ← original.statement_eq closed] at runs
      rcases original.query_or_describe with query | ⟨_, describe⟩
      · exact .inl (by rw [query]; rfl)
      · cases nests : dialect.nests with
        | true => exact .inr ⟨nests, by rw [describe]; rfl⟩
        | false =>
            have refused := dialect.describe_no_subquery items name more nests
              (by rw [describe]; rfl : (dialect.describe original.statement).isSome)
            rw [Dialect.runs, refused] at runs
            change dialect.describe (.word "SELECT" :: _) = _ at runs
            rw [dialect.describe_select] at runs
            cases runs

end Nested

/-! ### The words around a text -/

theorem lex_orderBy : lex " ORDER BY " = some [.word "ORDER", .word "BY"] := by decide +kernel

theorem lex_selectAll : lex "SELECT * FROM (" =
    some [.word "SELECT", .operator "*", .word "FROM", .symbol '('] := by decide +kernel

theorem lex_selectJson : lex "SELECT to_json(_dp) FROM (" =
    some (.word "SELECT" :: jsonOf "_dp" ++ [.word "FROM", .symbol '(']) := by decide +kernel

theorem lex_sorted : lex ") AS _m ORDER BY " =
    some [.symbol ')', .word "AS", .word "_m", .word "ORDER", .word "BY"] := by decide +kernel

theorem lex_capped : lex ") AS _dp LIMIT " =
    some [.symbol ')', .word "AS", .word "_dp", .word "LIMIT"] := by decide +kernel

theorem semicolon_not_mem_joined (names : List String) :
    semicolon ∉ joined [.symbol ','] (names.map ([named ·])) := by
  intro member
  rcases mem_joined member with comma | ⟨tokens, listed, quoted⟩
  · exact absurd comma (by decide)
  · obtain ⟨name, _, rfl⟩ := List.mem_map.mp listed
    simp [named] at quoted

theorem semicolon_not_mem_orderBy (names : List String) : semicolon ∉ orderBy names := by
  simpa [orderBy] using semicolon_not_mem_joined names

/-- The names of an `ORDER BY`, as they are written behind it. -/
theorem read_orderBy {names : List String} (known : ∀ c ∈ names, dialect.Names c)
    (nonempty : names ≠ []) {rest : List Char} (ends : rest = [] ∨ rest = [';']) :
    dialect.read ((" ORDER BY " : String).toList ++
        ((", ".intercalate (names.map quoteIdent)).toList ++ rest)) =
      (dialect.read rest).map (Reading.after (orderBy names)) := by
  rw [dialect.read_phrase_append (by simp [phrases]) lex_orderBy,
    dialect.read_names known nonempty ends]
  cases dialect.read rest <;> rfl

theorem applySortBy_eq (text : String) {names : List String} (nonempty : names ≠ []) :
    applySortBy text names = "SELECT * FROM (" ++ (text ++ (") AS _m ORDER BY " ++
      ", ".intercalate (names.map quoteIdent))) := by
  rw [applySortBy, if_neg (by simpa using nonempty)]
  simp only [← String.append_assoc]
  rfl

theorem querySql_eq (text : String) (maxRows : UInt64) :
    querySql text maxRows = "SELECT to_json(_dp) FROM (" ++ (text ++ (") AS _dp LIMIT " ++
      toString (max maxRows 1).toNat)) := by
  unfold querySql
  generalize (max maxRows 1).toNat = cap
  simp only [← String.append_assoc]
  rfl

theorem querySqlArrow_eq (text : String) (maxRows : UInt64) :
    querySqlArrow text maxRows = "SELECT * FROM (" ++ (text ++ (") AS _dp LIMIT " ++
      toString (max maxRows 1).toNat)) := by
  unfold querySqlArrow
  generalize (max maxRows 1).toNat = cap
  simp only [← String.append_assoc]
  rfl

/-- What closes the parenthesis stands apart from the text in it. -/
theorem closes {word : String} {more rest : List Char} (closing : word.toList = ')' :: more) :
    (word.toList ++ rest).head?.any separates = true ∧
      ((word.toList ++ rest).dropWhile isBlank).head? ≠ some '\'' := by
  rw [closing, List.cons_append, List.dropWhile_cons_of_neg (by decide)]
  exact ⟨rfl, by simp⟩

/-- `) AS _dp LIMIT n` -/
theorem read_cap (dialect : Dialect Row) (n : Nat) :
    dialect.read ((") AS _dp LIMIT " : String).toList ++ (toString n).toList) =
      some ([.symbol ')', .word "AS", .word "_dp"] ++ limitTo n, false) := by
  rw [dialect.read_phrase_append (by simp [phrases]) lex_capped, dialect.read_number]
  rfl

def nestedSort (dialect : Dialect Row) (text : String) {names : List String}
    (known : ∀ c ∈ names, dialect.Names c) (nonempty : names ≠ []) :
    Nested dialect text (applySortBy text names) [.operator "*"] (orderBy names) "_m" where
  front := ("SELECT * FROM (" : String).toList
  back := (") AS _m ORDER BY " : String).toList ++
    (", ".intercalate (names.map quoteIdent)).toList
  whole_eq := by
    rw [applySortBy_eq text nonempty, String.toList_append, String.toList_append,
      String.toList_append]
  fronted := dialect.read_phrase_append (by simp [phrases]) lex_selectAll
  backed := by
    have named := dialect.read_names known nonempty (.inl rfl)
    rw [List.append_nil, dialect.read_nil] at named
    rw [dialect.read_phrase_append (by simp [phrases]) lex_sorted, named]
    simp [Reading.after, orderBy]
  opens := (closes rfl).1
  ink := (closes rfl).2
  items_undivided := by decide
  more_undivided := semicolon_not_mem_orderBy names
  parenthesis := rfl

def nestedJson (dialect : Dialect Row) (text : String) (maxRows : UInt64) :
    Nested dialect text (querySql text maxRows) (jsonOf "_dp")
      (limitTo (max maxRows 1).toNat) "_dp" where
  front := ("SELECT to_json(_dp) FROM (" : String).toList
  back := (") AS _dp LIMIT " : String).toList ++ (toString (max maxRows 1).toNat).toList
  whole_eq := by
    rw [querySql_eq, String.toList_append, String.toList_append, String.toList_append]
  fronted := dialect.read_phrase_append (by simp [phrases]) lex_selectJson
  backed := read_cap dialect _
  opens := (closes rfl).1
  ink := (closes rfl).2
  items_undivided := by decide
  more_undivided := by simp [limitTo]
  parenthesis := rfl

def nestedArrow (dialect : Dialect Row) (text : String) (maxRows : UInt64) :
    Nested dialect text (querySqlArrow text maxRows) [.operator "*"]
      (limitTo (max maxRows 1).toNat) "_dp" where
  front := ("SELECT * FROM (" : String).toList
  back := (") AS _dp LIMIT " : String).toList ++ (toString (max maxRows 1).toNat).toList
  whole_eq := by
    rw [querySqlArrow_eq, String.toList_append, String.toList_append, String.toList_append]
  fronted := dialect.read_phrase_append (by simp [phrases]) lex_selectAll
  backed := read_cap dialect _
  opens := (closes rfl).1
  ink := (closes rfl).2
  items_undivided := by decide
  more_undivided := by simp [limitTo]
  parenthesis := rfl

/-- The rows of a table in the order of columns. -/
structure SortedCopy (dialect : Dialect Row) (names : List String) (table found : Table Row) :
    Prop where
  same : found.rows.Perm table.rows
  sorted : found.rows.Pairwise (dialect.le names)

/-- At most so many rows of a list. -/
structure Capped (n : Nat) (rows found : List Row) : Prop where
  few : found.length ≤ n
  among : found.Subperm rows

/-- The names of an `ORDER BY` do not end a comment. -/
def OneLineNames (names : List String) : Prop := ∀ c ∈ names, OneLine c.toList

theorem oneLine_of_all {text : List Char}
    (all : text.all (fun c => c ≠ '\n' && c ≠ '\r') = true) : OneLine text := by
  intro c member
  simpa using List.all_eq_true.mp all c member

theorem oneLine_append {first second : List Char} (one : OneLine first) (two : OneLine second) :
    OneLine (first ++ second) := by
  intro c member
  rcases List.mem_append.mp member with before | behind
  · exact one c before
  · exact two c behind

theorem oneLine_quoteIdent {name : String} (line : OneLine name.toList) :
    OneLine (quoteIdent name).toList := by
  intro c member
  have doubled : (replaceChar '"' "\"\"" name).toList = _ := toList_replaceChar .double rfl name
  rw [quoteIdent, String.toList_append, String.toList_append, doubled] at member
  have quote : '"' ≠ '\n' ∧ '"' ≠ '\r' := by decide
  simp only [List.mem_append, List.mem_flatMap] at member
  rcases member with (first | ⟨d, inside, found⟩) | last
  · obtain rfl : c = '"' := by simpa using first
    exact quote
  · split at found
    case isTrue mark =>
        obtain rfl : c = d := by simpa [mark] using found
        rwa [mark]
    case isFalse =>
        obtain rfl : c = d := by simpa using found
        exact line c inside
  · obtain rfl : c = '"' := by simpa using last
    exact quote

theorem oneLine_names {names : List String} (lines : OneLineNames names) :
    OneLine (", ".intercalate (names.map quoteIdent)).toList := by
  induction names with
  | nil => exact List.forall_mem_nil _
  | cons name names ih =>
      obtain ⟨line, lines⟩ := List.forall_mem_cons.mp lines
      cases names with
      | nil =>
          have alone : ", ".intercalate ([name].map quoteIdent) = quoteIdent name :=
            String.intercalate_singleton
          rw [alone]
          exact oneLine_quoteIdent line
      | cons next others =>
          rw [List.map_cons, String.intercalate_cons_of_ne_nil (by simp), String.toList_append,
            String.toList_append]
          exact oneLine_append (oneLine_append (oneLine_quoteIdent line) (oneLine_of_all rfl))
            (ih lines)

theorem oneLine_toString (n : Nat) : OneLine (toString n).toList := by
  intro c member
  have digit := isDigit_of_mem_toString member
  constructor <;> rintro rfl <;> exact absurd digit (by decide)

theorem oneLine_cap (n : Nat) :
    OneLine ((") AS _dp LIMIT " : String).toList ++ (toString n).toList) :=
  oneLine_append (oneLine_of_all rfl) (oneLine_toString n)

theorem oneLine_sort {names : List String} (lines : OneLineNames names) :
    OneLine ((") AS _m ORDER BY " : String).toList ++
      (", ".intercalate (names.map quoteIdent)).toList) :=
  oneLine_append (oneLine_of_all rfl) (oneLine_names lines)

/-! ### What the statements do with the rows -/

/-- Where DataFusion builds a sorted copy: without an order there is nothing around the text. -/
def Original.SortsInDataFusion (names : List String) : Prop :=
  names = [] ∨ original.Closed ∧ dialect.Nestable original.statement

theorem returns_text : dialect.Returns text original.table :=
  ⟨original.tokens, original.comment, original.statement, original.reads, original.single,
    original.runs⟩

theorem sorts_of_sortsInDataFusion {names : List String}
    (outputs : ∀ c ∈ names, c ∈ original.table.columns)
    (sorts : original.SortsInDataFusion names) :
    ∃ found, dialect.Returns (applySortBy text names) found ∧
      SortedCopy dialect names original.table found := by
  by_cases none : names = []
  · subst none
    refine ⟨original.table, returns_text original, .rfl, ?_⟩
    exact List.pairwise_of_forall fun a b => dialect.le_nil a b
  · obtain ⟨closed, nestable⟩ := sorts.resolve_left none
    have matched := dialect.balanced original.isSome
    obtain ⟨inner, query, same, named⟩ := dialect.subquery (.inl rfl) (original.nested nestable)
    obtain ⟨found, query', same', sorted⟩ :=
      dialect.order query (not_tailed_all (.inl rfl) matched) (not_chooses_all (.inl rfl) matched)
        none fun c member => named c (outputs c member)
    have known := original.known outputs
    exact ⟨found, (nestedSort dialect text known none).returns_of_closed original closed query',
      same'.trans same, sorted⟩

theorem sortsInDataFusion_of_returns {names : List String}
    (outputs : ∀ c ∈ names, c ∈ original.table.columns) (lines : OneLineNames names) {found : Table Row}
    (returns : dialect.Returns (applySortBy text names) found) :
    original.SortsInDataFusion names := by
  by_cases none : names = []
  · exact .inl none
  · exact .inr ((nestedSort dialect text (original.known outputs) none).of_returns original
      (oneLine_sort lines) returns)

theorem capped_json_iff (maxRows : UInt64) :
    (∃ found, dialect.Returns (querySql text maxRows) found ∧
      Capped (max maxRows 1).toNat (original.table.rows.map dialect.toJson) found.rows) ↔
      original.Closed ∧ dialect.Nestable original.statement := by
  constructor
  · rintro ⟨found, returns, _⟩
    exact (nestedJson dialect text maxRows).of_returns original (oneLine_cap _) returns
  · rintro ⟨closed, nestable⟩
    obtain ⟨inner, query, same⟩ := dialect.subquery_json (original.nested nestable)
    obtain ⟨found, query', few, among⟩ := dialect.limit (max maxRows 1).toNat query
      (not_tailed_json (dialect.balanced original.isSome))
    exact ⟨found, (nestedJson dialect text maxRows).returns_of_closed original closed query',
      few, among.trans same.subperm⟩

theorem capped_arrow_iff (maxRows : UInt64) :
    (∃ found, dialect.Returns (querySqlArrow text maxRows) found ∧
      Capped (max maxRows 1).toNat original.table.rows found.rows) ↔
      original.Closed ∧ dialect.Nestable original.statement := by
  constructor
  · rintro ⟨found, returns, _⟩
    exact (nestedArrow dialect text maxRows).of_returns original (oneLine_cap _) returns
  · rintro ⟨closed, nestable⟩
    obtain ⟨inner, query, same, _⟩ := dialect.subquery (.inr rfl) (original.nested nestable)
    obtain ⟨found, query', few, among⟩ := dialect.limit (max maxRows 1).toNat query
      (not_tailed_all (.inr rfl) (dialect.balanced original.isSome))
    exact ⟨found, (nestedArrow dialect text maxRows).returns_of_closed original closed query',
      few, among.trans same.subperm⟩

/-! ### Behind `CREATE TABLE` -/

theorem lex_create : lex "CREATE TABLE " = some [.word "CREATE", .word "TABLE"] := by
  decide +kernel

theorem lex_replace : lex "CREATE OR REPLACE TABLE " =
    some [.word "CREATE", .word "OR", .word "REPLACE", .word "TABLE"] := by
  decide +kernel

theorem lex_as : lex " AS " = some [.word "AS"] := by decide +kernel

/-- A statement that fills a table with the rows of a text. -/
structure Filling (text : String) (names : List String) where
  phrase : String
  create : List Token
  name : String
  whole : String
  nonempty : name ≠ ""
  listed : phrase ∈ phrases
  lexed : lex phrase = some create
  undivided : semicolon ∉ create
  whole_eq : whole = phrase ++ (quoteIdent name ++ (" AS " ++ (text ++
    ((if names = [] then "" else " ORDER BY " ++ ", ".intercalate (names.map quoteIdent)) ++ ";"))))

namespace Filling
variable {names : List String} (filling : Filling text names)

def head : List Token := filling.create ++ [named filling.name, .word "AS"]

theorem read_head (rest : List Char) :
    dialect.read (filling.phrase.toList ++ ((quoteIdent filling.name).toList ++
        ((" AS " : String).toList ++ rest))) =
      (dialect.read rest).map (Reading.after filling.head) := by
  have blank : (" AS " : String).toList = [' ', 'A', 'S', ' '] := rfl
  rw [dialect.read_phrase_append filling.listed filling.lexed,
    dialect.read_name_append (dialect.names filling.nonempty) (by rw [blank]; rfl)
      (by rw [blank]; change some 'A' ≠ some '\''; decide),
    dialect.read_phrase_append (by simp [phrases]) lex_as]
  cases dialect.read rest with
  | none => rfl
  | some reading => simp [Reading.after, head]

theorem head_undivided : semicolon ∉ filling.head := by
  simpa [head, named] using filling.undivided

/-- The query of the statement is what stands behind its head. -/
theorem creates_iff {tokens query : List Token} {comment : Bool} {found : Table Row}
    (reads : dialect.read filling.whole.toList = some (filling.head ++ tokens, comment))
    (single : Single tokens query) :
    dialect.Creates filling.create filling.name filling.whole found ↔
      tokens.head? ≠ some semicolon ∧ dialect.query query = some found := by
  have some_head : filling.head ≠ [] := by simp [head]
  have split (more : List Token) :
      filling.create ++ named filling.name :: .word "AS" :: more = filling.head ++ more := by
    simp [head]
  constructor
  · rintro ⟨tokens', comment', query', reads', single', returned⟩
    rw [reads] at reads'
    cases reads'
    obtain ⟨first, same⟩ := single.of_prepend some_head filling.head_undivided single'
    rw [split, List.append_cancel_left_eq] at same
    rw [same] at returned
    exact ⟨first, returned⟩
  · rintro ⟨first, returned⟩
    refine ⟨_, comment, query, reads, ?_, returned⟩
    rw [split]
    exact single.prepend first filling.head_undivided

/-- What stands behind the text. -/
def back (names : List String) : String :=
  (if names = [] then "" else " ORDER BY " ++ ", ".intercalate (names.map quoteIdent)) ++ ";"

theorem read_whole : dialect.read filling.whole.toList =
    (dialect.read (text.toList ++ (back names).toList)).map (Reading.after filling.head) := by
  rw [filling.whole_eq, String.toList_append, String.toList_append, String.toList_append,
    String.toList_append, filling.read_head, back]

theorem back_nil : (back []).toList = [';'] := by rw [back, if_pos rfl]; rfl

theorem back_cons {names : List String} (nonempty : names ≠ []) : (back names).toList =
    (" ORDER BY " : String).toList ++ ((", ".intercalate (names.map quoteIdent)).toList ++ [';']) := by
  rw [back, if_neg nonempty, String.toList_append, String.toList_append, List.append_assoc]
  rfl

theorem read_back {names : List String} (known : ∀ c ∈ names, dialect.Names c)
    (nonempty : names ≠ []) :
    dialect.read (back names).toList = some (orderBy names ++ [semicolon], false) := by
  rw [back_cons nonempty, read_orderBy known nonempty (.inr rfl), dialect.read_semicolon]
  rfl

theorem apart_back (names : List String) (first : List Char) :
    Apart first (back names).toList := by
  by_cases none : names = []
  · rw [none, back_nil]
    exact .of_second rfl (by decide) _
  · have blank : (" ORDER BY " : String).toList = [' ', 'O', 'R', 'D', 'E', 'R', ' ', 'B', 'Y', ' '] :=
      rfl
    rw [back_cons none, blank]
    refine .of_second rfl ?_ _
    change some 'O' ≠ some '\''
    decide

theorem oneLine_back {names : List String} (lines : OneLineNames names) :
    OneLine (back names).toList := by
  by_cases none : names = []
  · rw [none, back_nil]
    exact oneLine_of_all rfl
  · rw [back_cons none]
    exact oneLine_append (oneLine_of_all rfl)
      (oneLine_append (oneLine_names lines) (oneLine_of_all rfl))

theorem read_comment (lines : OneLineNames names) (comment : original.comment = true) :
    dialect.read filling.whole.toList = some (filling.head ++ original.tokens, true) := by
  have whole := original.reads
  rw [comment] at whole
  rw [read_whole, dialect.read_comment whole (oneLine_back lines)]
  rfl

theorem read_ended {after : List Token} (reads : dialect.read (back names).toList =
      some (after, false)) (ended : original.comment = false) :
    dialect.read filling.whole.toList =
      some (filling.head ++ (original.tokens ++ after), false) := by
  have whole := original.reads
  rw [ended] at whole
  rw [read_whole, dialect.read_append whole (apart_back names _), reads]
  rfl

end Filling

/-- Where DuckDB fills the table with the sorted rows, if the statement lets the columns order it.
Behind a comment the order is not read, and neither is the semicolon. -/
def Original.FillsInDuckDB (names : List String) (ordered : Prop) : Prop :=
  (dialect.query original.statement).isSome ∧
    (names = [] ∧ original.tokens.head? ≠ some semicolon ∨
      names ≠ [] ∧
        (original.Closed ∧ ¬ Tailed original.statement ∧ ordered ∨
          original.comment = true ∧ OneLineNames names ∧
            original.tokens.head? ≠ some semicolon ∧
            original.table.rows.Pairwise (dialect.le names)))

/-- The statement names the columns itself, and an order picks none of its rows. -/
def Original.Orders (names : List String) : Prop :=
  (∀ c ∈ names, c ∈ original.table.named) ∧ ¬ Chooses original.statement

variable {original} in
theorem Original.query_eq (query : (dialect.query original.statement).isSome) :
    dialect.query original.statement = some original.table := by
  rcases original.query_or_describe with found | ⟨none, _⟩
  · exact found
  · rw [none] at query
    cases query

/-- No order is written: the rows are those of the text. -/
theorem Filling.fills_unsorted_iff (filling : Filling text []) :
    (∃ found, dialect.Creates filling.create filling.name filling.whole found ∧
      SortedCopy dialect [] original.table found) ↔
      (dialect.query original.statement).isSome ∧ original.tokens.head? ≠ some semicolon := by
  obtain ⟨tokens, comment, reads, single, first⟩ : ∃ tokens comment,
      dialect.read filling.whole.toList = some (filling.head ++ tokens, comment) ∧
        Single tokens original.statement ∧ tokens.head? = original.tokens.head? := by
    cases ended : original.comment with
    | true =>
        exact ⟨_, _, filling.read_comment original (List.forall_mem_nil _) ended, original.single,
          rfl⟩
    | false =>
        have after : dialect.read (Filling.back []).toList = some ([semicolon], false) := by
          rw [Filling.back_nil, dialect.read_semicolon]
        refine ⟨_, _, filling.read_ended original after ended, original.single.snoc, ?_⟩
        exact List.head?_append_of_ne_nil _ original.single.nonempty_tokens
  constructor
  · rintro ⟨found, creates, _⟩
    obtain ⟨opens, query⟩ := (filling.creates_iff reads single).mp creates
    exact ⟨by rw [query]; rfl, first ▸ opens⟩
  · rintro ⟨query, opens⟩
    refine ⟨original.table, (filling.creates_iff reads single).mpr ⟨first ▸ opens, ?_⟩, .rfl, ?_⟩
    · exact original.query_eq query
    · exact List.pairwise_of_forall fun a b => dialect.le_nil a b

/-- The order stands in a comment: the rows are those of the text. -/
theorem Filling.fills_commented_iff {names : List String} (filling : Filling text names)
    (lines : OneLineNames names) (comment : original.comment = true) :
    (∃ found, dialect.Creates filling.create filling.name filling.whole found ∧
      SortedCopy dialect names original.table found) ↔
      (dialect.query original.statement).isSome ∧ original.tokens.head? ≠ some semicolon ∧
        original.table.rows.Pairwise (dialect.le names) := by
  have reads := filling.read_comment original lines comment
  constructor
  · rintro ⟨found, creates, copy⟩
    obtain ⟨opens, query⟩ := (filling.creates_iff reads original.single).mp creates
    have some_query : (dialect.query original.statement).isSome := by rw [query]; rfl
    obtain rfl : found = original.table := by
      rw [original.query_eq some_query] at query
      exact (Option.some.inj query).symm
    exact ⟨some_query, opens, copy.sorted⟩
  · rintro ⟨query, opens, sorted⟩
    exact ⟨original.table, (filling.creates_iff reads original.single).mpr
      ⟨opens, original.query_eq query⟩, .rfl, sorted⟩

theorem Filling.single_ordered {names : List String} (closed : original.Closed) :
    Single (original.tokens ++ (orderBy names ++ [semicolon]))
      (original.statement ++ orderBy names) := by
  rw [original.statement_eq closed, ← List.append_assoc]
  apply Single.snoc
  refine .of_undivided (by simp [orderBy]) ?_
  rw [List.mem_append, not_or]
  exact ⟨closed.2, semicolon_not_mem_orderBy names⟩

/-- The order is read behind the text, and orders the rows. -/
theorem Filling.fills_sorted {names : List String} (filling : Filling text names)
    (nonempty : names ≠ []) (closed : original.Closed)
    (query : (dialect.query original.statement).isSome) (open_end : ¬ Tailed original.statement)
    (orders : original.Orders names) :
    ∃ found, dialect.Creates filling.create filling.name filling.whole found ∧
      SortedCopy dialect names original.table found := by
  have known := original.known fun c member => original.table.among c (orders.1 c member)
  have reads := filling.read_ended original (Filling.read_back known nonempty) closed.1
  obtain ⟨found, query, same, sorted⟩ :=
    dialect.order (original.query_eq query) open_end orders.2 nonempty orders.1
  refine ⟨found, (filling.creates_iff reads (Filling.single_ordered original closed)).mpr
    ⟨?_, query⟩, same, sorted⟩
  exact head_ne_semicolon original.single.nonempty_tokens closed.2 _

/-- Behind an end of its own the query takes no order. -/
theorem Filling.closed_of_creates {names : List String} (filling : Filling text names)
    (known : ∀ c ∈ names, dialect.Names c) (nonempty : names ≠ [])
    (ended : original.comment = false) {found : Table Row}
    (creates : dialect.Creates filling.create filling.name filling.whole found) :
    (dialect.query original.statement).isSome ∧ original.Closed ∧
      ¬ Tailed original.statement := by
  have reads := filling.read_ended original (Filling.read_back known nonempty) ended
  have undivided := semicolon_not_mem_orderBy names
  obtain ⟨tokens, comment, query, reads', single, returned⟩ := creates
  rw [reads] at reads'
  cases reads'
  have shorter : Single (filling.head ++ (original.tokens ++ orderBy names))
      (filling.create ++ named filling.name :: .word "AS" :: query) := by
    apply Single.of_snoc
    simpa using single
  obtain ⟨closed, same⟩ := Single.between (by simp [Filling.head]) (by simp [orderBy])
    filling.head_undivided undivided shorter
  have closed : original.Closed := ⟨ended, closed⟩
  have split : filling.create ++ named filling.name :: .word "AS" :: query =
      filling.head ++ query := by
    simp [Filling.head]
  rw [split, List.append_cancel_left_eq, ← original.statement_eq closed] at same
  rw [same] at returned
  have some_query : (dialect.query original.statement).isSome := by
    rcases original.query_or_describe with found | ⟨_, describe⟩
    · rw [found]
      rfl
    · rw [dialect.describe_no_query _ (by rw [describe]; rfl)] at returned
      cases returned
  refine ⟨some_query, closed, fun tailed => ?_⟩
  rw [dialect.order_tailed some_query tailed nonempty] at returned
  cases returned

theorem fills_of_fillsInDuckDB {names : List String} (filling : Filling text names)
    (sorts : original.FillsInDuckDB names (original.Orders names)) :
    ∃ found, dialect.Creates filling.create filling.name filling.whole found ∧
      SortedCopy dialect names original.table found := by
  obtain ⟨query, ⟨rfl, opens⟩ | ⟨nonempty, ⟨closed, open_end, orders⟩ |
    ⟨comment, lines, opens, sorted⟩⟩⟩ := sorts
  · exact (filling.fills_unsorted_iff original).mpr ⟨query, opens⟩
  · exact filling.fills_sorted original nonempty closed query open_end orders
  · exact (filling.fills_commented_iff original lines comment).mpr ⟨query, opens, sorted⟩

theorem fillsInDuckDB_of_creates {names : List String} (filling : Filling text names)
    (known : ∀ c ∈ names, dialect.Names c) (lines : OneLineNames names)
    (fills : ∃ found, dialect.Creates filling.create filling.name filling.whole found ∧
      SortedCopy dialect names original.table found) : original.FillsInDuckDB names True := by
  by_cases none : names = []
  · subst none
    obtain ⟨query, opens⟩ := (filling.fills_unsorted_iff original).mp fills
    exact ⟨query, .inl ⟨rfl, opens⟩⟩
  · cases ended : original.comment with
    | true =>
        obtain ⟨query, opens, sorted⟩ := (filling.fills_commented_iff original lines ended).mp fills
        exact ⟨query, .inr ⟨none, .inr ⟨ended, lines, opens, sorted⟩⟩⟩
    | false =>
        obtain ⟨found, creates, _⟩ := fills
        obtain ⟨query, closed, open_end⟩ :=
          filling.closed_of_creates original known none ended creates
        exact ⟨query, .inr ⟨none, .inl ⟨closed, open_end, trivial⟩⟩⟩

end

/-! ### The statements of both backends -/

theorem orderByClause_eq (d : BuildConfig) : d.orderByClause =
    if d.sortBy = [] then ""
    else " ORDER BY " ++ ", ".intercalate (d.sortBy.map quoteIdent) := by
  rw [BuildConfig.orderByClause]
  by_cases none : d.sortBy = []
  · rw [if_pos (by simp [none]), if_pos none]
  · rw [if_neg (by simpa using none), if_neg none]
    rfl

theorem replaceTable_eq (d : BuildConfig) (sql : String) : replaceTable d sql =
    "CREATE OR REPLACE TABLE " ++ (quoteIdent d.name ++ (" AS " ++ (sql ++
      (d.orderByClause ++ ";")))) := by
  unfold replaceTable
  generalize quoteIdent d.name = name
  generalize d.orderByClause = order
  simp only [← String.append_assoc]
  rfl

theorem registerTable_eq (d : BuildConfig) (sql : String) : registerTable d sql =
    "CREATE TABLE " ++ (quoteIdent d.name ++ (" AS " ++ (sql ++ (d.orderByClause ++ ";")))) := by
  unfold registerTable
  generalize quoteIdent d.name = name
  generalize d.orderByClause = order
  simp only [← String.append_assoc]
  rfl

theorem temporaryTable_eq (d : BuildConfig) (genId sql : String) : temporaryTable d genId sql =
    "CREATE TABLE " ++ (quoteIdent (tempName d.name genId) ++ (" AS " ++ (sql ++
      (d.orderByClause ++ ";")))) := by
  unfold temporaryTable
  generalize quoteIdent (tempName d.name genId) = name
  generalize d.orderByClause = order
  simp only [← String.append_assoc]
  rfl

def fillingReplace (d : BuildConfig) (named : d.name ≠ "") (sql : String) :
    Filling sql d.sortBy where
  phrase := "CREATE OR REPLACE TABLE "
  create := [.word "CREATE", .word "OR", .word "REPLACE", .word "TABLE"]
  name := d.name
  nonempty := named
  whole := replaceTable d sql
  listed := by simp [phrases]
  lexed := lex_replace
  undivided := by decide
  whole_eq := by rw [replaceTable_eq, orderByClause_eq]

def fillingRegister (d : BuildConfig) (named : d.name ≠ "") (sql : String) :
    Filling sql d.sortBy where
  phrase := "CREATE TABLE "
  create := [.word "CREATE", .word "TABLE"]
  name := d.name
  nonempty := named
  whole := registerTable d sql
  listed := by simp [phrases]
  lexed := lex_create
  undivided := by decide
  whole_eq := by rw [registerTable_eq, orderByClause_eq]

def fillingTemporary (d : BuildConfig) (genId sql : String) : Filling sql d.sortBy where
  phrase := "CREATE TABLE "
  create := [.word "CREATE", .word "TABLE"]
  name := tempName d.name genId
  nonempty := by simp [tempName, ← String.toList_inj]
  whole := temporaryTable d genId sql
  listed := by simp [phrases]
  lexed := lex_create
  undivided := by decide
  whole_eq := by rw [temporaryTable_eq, orderByClause_eq]

/-- The statements that fill a table with the rows of a query. -/
def fillings (d : BuildConfig) (named : d.name ≠ "") (genId sql : String) :
    List (Filling sql d.sortBy) :=
  [fillingReplace d named sql, fillingRegister d named sql, fillingTemporary d genId sql]

theorem max_rowCap (configured : UInt64) (requested : Option UInt64) :
    max (rowCap configured requested) 1 = rowCap configured requested := by
  have one : (1 : UInt64).toNat = 1 := rfl
  rw [← UInt64.toNat_inj, Words.toNat_max, one]
  unfold rowCap
  cases requested with
  | none =>
      dsimp only
      rw [Words.toNat_max, one]
      omega
  | some asked =>
      dsimp only
      rw [Words.toNat_max, one]
      omega

/-! ### Main result -/

/-- A statement around the text fills a table with its sorted rows. -/
def Filled {dialect : Dialect Row} {text : String} (original : Original dialect text)
    {names : List String} (filling : Filling text names) : Prop :=
  ∃ found, dialect.Creates filling.create filling.name filling.whole found ∧
    SortedCopy dialect names original.table found

/-- The statement returns the rows of the text, sorted. -/
def Sorted {dialect : Dialect Row} {text : String} (original : Original dialect text)
    (names : List String) (whole : String) : Prop :=
  ∃ found, dialect.Returns whole found ∧ SortedCopy dialect names original.table found

/-- The statement returns at most so many of the rows. -/
def Limited (dialect : Dialect Row) (rows : List Row) (n : Nat) (whole : String) : Prop :=
  ∃ found, dialect.Returns whole found ∧ Capped n rows found.rows

section
variable [ToLowercase]

end

/-! A dataset with two rows. -/

attribute [local instance] asciiToLowercase

/-- `SELECT a FROM t` -/
def plainTokens : List Token := [.word "SELECT", .word "a", .word "FROM", .word "t"]

theorem reads_plain : PlainDialect.read "SELECT a FROM t".toList = some (plainTokens, false) :=
  PlainDialect.read_lex (by decide +kernel)

theorem plainColumns : ∀ c ∈ ["a"], c ∈ ["a"] := fun _ => id

/-- Its rows, which are those of `t`. -/
def plainTable : Table Nat := ⟨["a"], ["a"], plainColumns, [2, 1]⟩

theorem query_plain : plainDialect.query plainTokens = some plainTable :=
  PlainDialect.query_eq_some.mpr ⟨_, _, .all, rfl⟩

theorem runs_plain : plainDialect.runs plainTokens = some plainTable := by
  rw [Dialect.runs, query_plain]
  rfl

theorem single_plain : Single plainTokens plainTokens :=
  .of_undivided (List.cons_ne_nil _ _) (by decide)

def plainQuery : Original plainDialect "SELECT a FROM t" where
  tokens := plainTokens
  comment := false
  statement := plainTokens
  table := plainTable
  reads := reads_plain
  single := single_plain
  runs := runs_plain

/-- `SELECT a FROM t` -/
def plainStatement : Sql.Statement :=
  .query (.mk false [] (.select .standard [] [.expr (.identifier "a") none]
    [.mk (.table ["t"] none false [] []) []] [] [] [] []) [] [] [])

theorem plainQuery_closed : plainQuery.Closed := ⟨rfl, by decide⟩

theorem plainQuery_isSome : (plainDialect.query plainQuery.statement).isSome := by
  rw [plainQuery, query_plain]
  rfl

/-- A dataset that is sorted by its column. -/
def plainDataset : BuildConfig where
  name := "m"
  sql := some "SELECT a FROM t"
  kind := .query
  scanClause := .ok ""
  materialize := some { sortBy := ["a"] }

theorem plainDataset_named : plainDataset.name ≠ "" := by decide

theorem reads_commented :
    PlainDialect.read "SELECT a FROM t -- all".toList = some (plainTokens, true) := by
  decide +kernel

def commentedQuery : Original plainDialect "SELECT a FROM t -- all" where
  tokens := plainTokens
  comment := true
  statement := plainTokens
  table := plainTable
  reads := reads_commented
  single := single_plain
  runs := runs_plain

end Datapress.Wrapping
