import Mathlib.Data.List.Perm.Subperm
import Datapress.StatementText

/-! The dialect of an SQL engine: how it reads a text, and what its queries return. The grammar
is the engine's own; what is fixed here is what its documentation says of the clauses that are
put around a query. -/
namespace Datapress.Wrapping
open SqlText
open DatasetSchema (quoteIdent)

structure Table (Row : Type) where
  columns : List String
  /-- The columns that the query itself gives a name, and not only the text of an expression. -/
  named : List String
  among : ∀ c ∈ named, c ∈ columns
  rows : List Row

abbrev semicolon : Token := .symbol ';'

/-- The tokens hold one statement and else only semicolons. -/
structure Single (tokens statement : List Token) : Prop where
  nonempty : statement ≠ []
  undivided : semicolon ∉ statement
  around : ∃ i j,
    tokens = List.replicate i semicolon ++ (statement ++ List.replicate j semicolon)

/-! ### Texts in a row -/

def isBlank (c : Char) : Bool := c = ' ' || c = '\t' || c = '\n' || c = '\r'

/-- No token goes on over the character. -/
def separates (c : Char) : Bool := c = ';' || (separator c).isSome

/-- Two texts between which a token ends. Strings with only blanks between them are one. -/
structure Apart (first second : List Char) : Prop where
  separated : first.getLast?.any separates = true ∨ second.head?.any separates = true
  strings : (first.reverse.dropWhile isBlank).head? ≠ some '\'' ∨
    (second.dropWhile isBlank).head? ≠ some '\''

/-- The text has no line break. -/
def OneLine (text : List Char) : Prop := ∀ c ∈ text, c ≠ '\n' ∧ c ≠ '\r'

/-- The tokens of a text, and whether it ends in a comment that goes on to the end of the line. -/
abbrev Reading := List Token × Bool

def Reading.after (tokens : List Token) (reading : Reading) : Reading :=
  (tokens ++ reading.1, reading.2)

/-! ### Clauses -/

/-- `SELECT items FROM (query) AS name` -/
def derived (items query : List Token) (name : String) : List Token :=
  .word "SELECT" :: items ++ .word "FROM" :: .symbol '(' :: query ++
    [.symbol ')', .word "AS", .word name]

/-- `to_json(name)` -/
def jsonOf (name : String) : List Token :=
  [.word "to_json", .symbol '(', .word name, .symbol ')']

def orderBy (names : List String) : List Token :=
  .word "ORDER" :: .word "BY" :: joined [.symbol ','] (names.map ([named ·]))

def limitTo (n : Nat) : List Token := [.word "LIMIT", .word (toString n)]

/-! ### What stands in no parentheses -/

/-- How many parentheses are open behind the tokens. -/
def nesting : Nat → List Token → Option Nat
  | depth, [] => some depth
  | depth, token :: rest =>
    if token = .symbol '(' then nesting (depth + 1) rest
    else if token = .symbol ')' then
      match depth with
      | 0 => none
      | depth + 1 => nesting depth rest
    else nesting depth rest

def topLevel : Nat → List Token → List Token
  | _, [] => []
  | depth, token :: rest =>
    if token = .symbol '(' then topLevel (depth + 1) rest
    else if token = .symbol ')' then topLevel (depth - 1) rest
    else if depth = 0 then token :: topLevel 0 rest
    else topLevel depth rest

def isKeyword (keyword : String) : Token → Bool
  | .word text => eqIgnoreAsciiCase text keyword
  | _ => false

/-- Behind `AS` or a dot a keyword is a name. -/
def labels (token : Token) : Bool := isKeyword "AS" token || token = .symbol '.'

/-- A clause begins behind the token `previous` or later. -/
def clauseFrom (keywords : List String) : Option Token → List Token → Bool
  | _, [] => false
  | previous, token :: rest =>
    (keywords.any (isKeyword · token) && !previous.any labels) || clauseFrom keywords (some token) rest

/-- The query ends in a clause behind which no `ORDER BY` stands. -/
def Tailed (query : List Token) : Prop :=
  clauseFrom ["ORDER", "LIMIT", "OFFSET", "FETCH"] none (topLevel 0 query) = true

def distinctOn : List Token → Bool
  | first :: second :: rest =>
    isKeyword "DISTINCT" first && isKeyword "ON" second || distinctOn (second :: rest)
  | _ => false

/-- `DISTINCT ON`: which rows the query returns depends on their order. -/
def Chooses (query : List Token) : Prop := distinctOn (topLevel 0 query) = true

/-- The keywords and names without quotes that are written around a query. -/
def phrases : List String :=
  ["SELECT * FROM (", "SELECT to_json(_dp) FROM (", ") AS _m ORDER BY ", ") AS _dp LIMIT ",
    " ORDER BY ", ", ", " AS ", "CREATE TABLE ", "CREATE OR REPLACE TABLE "]

structure Dialect (Row : Type) where
  read : List Char → Option Reading
  /-- What a query returns, without semicolons. -/
  query : List Token → Option (Table Row)
  describe : List Token → Option (Table Row)
  /-- Whether a subquery may be a `DESCRIBE`. -/
  nests : Bool
  /-- The texts that are a name between double quotes. -/
  Names : String → Prop
  /-- The order of rows by the values of columns. -/
  le : List String → Row → Row → Prop
  toJson : Row → Row
  -- what its lexer is documented to do
  read_nil : read [] = some ([], false)
  read_append {first second : List Char} {tokens : List Token} :
    read first = some (tokens, false) → Apart first second →
      read (first ++ second) = (read second).map (Reading.after tokens)
  read_comment {first second : List Char} {tokens : List Token} :
    read first = some (tokens, true) → OneLine second → read (first ++ second) = some (tokens, true)
  read_phrase {phrase : String} {tokens : List Token} :
    phrase ∈ phrases → lex phrase = some tokens → read phrase.toList = some (tokens, false)
  names {name : String} : name ≠ "" → Names name
  read_name {name : String} :
    Names name → read (quoteIdent name).toList = some ([named name], false)
  read_number (n : Nat) : read (toString n).toList = some ([.word (toString n)], false)
  read_semicolon : read [';'] = some ([semicolon], false)
  -- what its grammar and its clauses are documented to do
  balanced {tokens : List Token} :
    (query tokens).isSome ∨ (describe tokens).isSome → nesting 0 tokens = some 0
  columns {tokens : List Token} {table : Table Row} :
    query tokens = some table ∨ describe tokens = some table → ∀ c ∈ table.columns, Names c
  describe_select (more : List Token) : describe (.word "SELECT" :: more) = none
  describe_no_query {tokens : List Token} (more : List Token) :
    (describe tokens).isSome → query (tokens ++ more) = none
  describe_no_subquery {tokens : List Token} (items : List Token) (name : String)
    (more : List Token) :
    nests = false → (describe tokens).isSome → query (derived items tokens name ++ more) = none
  subquery {tokens : List Token} {table : Table Row} {name : String} :
    name = "_m" ∨ name = "_dp" →
      query tokens = some table ∨ nests = true ∧ describe tokens = some table →
      ∃ found, query (derived [.operator "*"] tokens name) = some found ∧
        found.rows.Perm table.rows ∧ ∀ c ∈ table.columns, c ∈ found.named
  subquery_json {tokens : List Token} {table : Table Row} :
    query tokens = some table ∨ nests = true ∧ describe tokens = some table →
      ∃ found, query (derived (jsonOf "_dp") tokens "_dp") = some found ∧
        found.rows.Perm (table.rows.map toJson)
  order {tokens : List Token} {table : Table Row} {names : List String} :
    query tokens = some table → ¬ Tailed tokens → ¬ Chooses tokens → names ≠ [] →
      (∀ c ∈ names, c ∈ table.named) →
      ∃ found, query (tokens ++ orderBy names) = some found ∧ found.rows.Perm table.rows ∧
        found.rows.Pairwise (le names)
  order_tailed {tokens : List Token} {names : List String} :
    (query tokens).isSome → Tailed tokens → names ≠ [] → query (tokens ++ orderBy names) = none
  limit {tokens : List Token} {table : Table Row} (n : Nat) :
    query tokens = some table → ¬ Tailed tokens →
      ∃ found, query (tokens ++ limitTo n) = some found ∧ found.rows.length ≤ n ∧
        found.rows.Subperm table.rows
  le_nil (a b : Row) : le [] a b

variable {Row : Type}

/-- What a statement returns, without semicolons. -/
def Dialect.runs (dialect : Dialect Row) (statement : List Token) : Option (Table Row) :=
  (dialect.query statement).or (dialect.describe statement)

/-- The text is one statement that returns the table. -/
def Dialect.Returns (dialect : Dialect Row) (text : String) (table : Table Row) : Prop :=
  ∃ tokens comment statement, dialect.read text.toList = some (tokens, comment) ∧
    Single tokens statement ∧ dialect.runs statement = some table

/-- The text is one statement, `create name AS query`, and the table gets the rows of the query. -/
def Dialect.Creates (dialect : Dialect Row) (create : List Token) (name text : String)
    (table : Table Row) : Prop :=
  ∃ tokens comment query, dialect.read text.toList = some (tokens, comment) ∧
    Single tokens (create ++ named name :: .word "AS" :: query) ∧ dialect.query query = some table

/-- A statement that stands in parentheses behind `FROM`. -/
def Dialect.Nestable (dialect : Dialect Row) (statement : List Token) : Prop :=
  (dialect.query statement).isSome ∨ dialect.nests = true ∧ (dialect.describe statement).isSome

/-! ### Parentheses -/

theorem nesting_append (depth : Nat) (first second : List Token) :
    nesting depth (first ++ second) = (nesting depth first).bind (nesting · second) := by
  induction first generalizing depth with
  | nil => rfl
  | cons token first ih =>
      simp only [List.cons_append, nesting]
      split
      · exact ih _
      · split
        · cases depth with
          | zero => rfl
          | succ depth => exact ih _
        · exact ih _

/-- Tokens whose parentheses match leave as many open as were open before. -/
theorem nesting_of_matched {tokens : List Token} {depth : Nat} (more : Nat)
    (found : nesting depth tokens = some 0) : nesting (depth + more) tokens = some more := by
  induction tokens generalizing depth with
  | nil =>
      obtain rfl := Option.some.inj found
      exact congrArg some (Nat.zero_add more)
  | cons token tokens ih =>
      simp only [nesting] at found ⊢
      split
      case isTrue opens =>
        rw [if_pos opens] at found
        rw [Nat.add_right_comm]
        exact ih found
      case isFalse other =>
        rw [if_neg other] at found
        split
        case isTrue closes =>
          rw [if_pos closes] at found
          cases depth with
          | zero => cases found
          | succ depth =>
              rw [Nat.add_right_comm]
              exact ih found
        case isFalse plain =>
          rw [if_neg plain] at found
          exact ih found

theorem topLevel_append {depth after : Nat} {first : List Token} (second : List Token)
    (found : nesting depth first = some after) :
    topLevel depth (first ++ second) = topLevel depth first ++ topLevel after second := by
  induction first generalizing depth with
  | nil =>
      obtain rfl := Option.some.inj found
      rfl
  | cons token first ih =>
      simp only [List.cons_append, nesting, topLevel] at found ⊢
      split
      case isTrue opens =>
        rw [if_pos opens] at found
        exact ih found
      case isFalse other =>
        rw [if_neg other] at found
        split
        case isTrue closes =>
          rw [if_pos closes] at found
          cases depth with
          | zero => cases found
          | succ depth => exact ih found
        case isFalse plain =>
          rw [if_neg plain] at found
          split
          case isTrue top =>
            subst top
            rw [ih found, List.cons_append]
          case isFalse => exact ih found

/-- Inside parentheses nothing of matched tokens is seen. -/
theorem topLevel_inside {tokens : List Token} {depth : Nat}
    (found : nesting depth tokens = some 0) : topLevel (depth + 1) tokens = [] := by
  induction tokens generalizing depth with
  | nil => rfl
  | cons token tokens ih =>
      simp only [nesting, topLevel] at found ⊢
      split
      case isTrue opens =>
        rw [if_pos opens] at found
        exact ih found
      case isFalse other =>
        rw [if_neg other] at found
        split
        case isTrue closes =>
          rw [if_pos closes] at found
          cases depth with
          | zero => cases found
          | succ depth => exact ih found
        case isFalse plain =>
          rw [if_neg plain] at found
          rw [if_neg (Nat.succ_ne_zero depth)]
          exact ih found

theorem nesting_plain {tokens : List Token}
    (plain : ∀ token ∈ tokens, token ≠ .symbol '(' ∧ token ≠ .symbol ')') (depth : Nat) :
    nesting depth tokens = some depth := by
  induction tokens with
  | nil => rfl
  | cons token tokens ih =>
      obtain ⟨⟨left, right⟩, plain⟩ := List.forall_mem_cons.mp plain
      simp only [nesting, if_neg left, if_neg right]
      exact ih plain

/-- A clause at the end is one of the whole. -/
theorem clauseFrom_append {keywords : List String} {token : Token} {more : List Token}
    (found : clauseFrom keywords (some token) more = true) (front : List Token)
    (previous : Option Token) :
    clauseFrom keywords previous (front ++ token :: more) = true := by
  induction front generalizing previous with
  | nil =>
      rw [List.nil_append, clauseFrom, found, Bool.or_true]
  | cons first front ih =>
      rw [List.cons_append, clauseFrom, ih, Bool.or_true]

/-- Around matched tokens only the words of the derived table are seen. -/
theorem topLevel_derived {items tokens : List Token} {name : String}
    (opens : nesting 0 (.word "SELECT" :: items ++ [.word "FROM", .symbol '(']) = some 1)
    (matched : nesting 0 tokens = some 0) :
    topLevel 0 (derived items tokens name) =
      topLevel 0 (.word "SELECT" :: items ++ [.word "FROM", .symbol '(']) ++
        [.word "AS", .word name] := by
  have split : derived items tokens name = (.word "SELECT" :: items ++ [.word "FROM", .symbol '(']) ++
      (tokens ++ [.symbol ')', .word "AS", .word name]) := by
    simp [derived]
  have inside : nesting 1 tokens = some 1 := nesting_of_matched 1 matched
  rw [split, topLevel_append _ opens, topLevel_append _ inside, topLevel_inside matched]
  rfl

/-- A derived table has no clause behind it. -/
theorem not_tailed_all {tokens : List Token} {name : String} (listed : name = "_m" ∨ name = "_dp")
    (matched : nesting 0 tokens = some 0) : ¬ Tailed (derived [.operator "*"] tokens name) := by
  rw [Tailed, topLevel_derived rfl matched]
  rcases listed with rfl | rfl
  · decide
  · decide

theorem not_tailed_json {tokens : List Token} (matched : nesting 0 tokens = some 0) :
    ¬ Tailed (derived (jsonOf "_dp") tokens "_dp") := by
  rw [Tailed, topLevel_derived rfl matched]
  decide

theorem not_chooses_all {tokens : List Token} {name : String} (listed : name = "_m" ∨ name = "_dp")
    (matched : nesting 0 tokens = some 0) : ¬ Chooses (derived [.operator "*"] tokens name) := by
  rw [Chooses, topLevel_derived rfl matched]
  rcases listed with rfl | rfl
  · decide
  · decide

/-! ### One statement among semicolons -/

theorem head_ne_semicolon {front : List Token} (some_front : front ≠ [])
    (undivided : semicolon ∉ front) (more : List Token) :
    (front ++ more).head? ≠ some semicolon := by
  cases front with
  | nil => exact absurd rfl some_front
  | cons token front =>
      intro same
      obtain rfl : token = semicolon := Option.some.inj same
      exact undivided List.mem_cons_self

theorem filter_undivided {front : List Token} (undivided : semicolon ∉ front) :
    front.filter (· ≠ semicolon) = front := by
  apply List.filter_eq_self.mpr
  intro token member
  simpa using ne_of_mem_of_not_mem member undivided

namespace Single
variable {tokens statement other : List Token}

theorem eq_filter (single : Single tokens statement) :
    statement = tokens.filter (· ≠ semicolon) := by
  obtain ⟨i, j, rfl⟩ := single.around
  simp only [List.filter_append, List.filter_replicate, filter_undivided single.undivided]
  simp

theorem unique (single : Single tokens statement) (single' : Single tokens other) :
    statement = other := single.eq_filter.trans single'.eq_filter.symm

theorem of_undivided (nonempty : tokens ≠ []) (undivided : semicolon ∉ tokens) :
    Single tokens tokens :=
  ⟨nonempty, undivided, 0, 0, by simp⟩

theorem nonempty_tokens (single : Single tokens statement) : tokens ≠ [] := by
  rintro rfl
  exact single.nonempty single.eq_filter

/-- One more semicolon. -/
theorem snoc (single : Single tokens statement) : Single (tokens ++ [semicolon]) statement := by
  obtain ⟨i, j, around⟩ := single.around
  refine ⟨single.nonempty, single.undivided, i, j + 1, ?_⟩
  rw [around, List.replicate_succ']
  simp

theorem of_snoc (single : Single (tokens ++ [semicolon]) statement) :
    Single tokens statement := by
  obtain ⟨i, j, around⟩ := single.around
  refine ⟨single.nonempty, single.undivided, i, j - 1, ?_⟩
  cases j with
  | zero =>
      have last := congrArg List.getLast? around
      rw [List.getLast?_concat, List.replicate_zero, List.append_nil,
        List.getLast?_append_of_ne_nil _ single.nonempty] at last
      exact absurd (List.mem_of_getLast? last.symm) single.undivided
  | succ j =>
      rw [List.replicate_succ', ← List.append_assoc, ← List.append_assoc,
        List.append_cancel_right_eq, List.append_assoc] at around
      exact around

/-- What begins with no semicolon begins with the statement. -/
theorem begins (single : Single tokens statement) (first : tokens.head? ≠ some semicolon) :
    ∃ j, tokens = statement ++ List.replicate j semicolon := by
  obtain ⟨i, j, rfl⟩ := single.around
  cases i with
  | zero => exact ⟨j, rfl⟩
  | succ i => exact absurd rfl first

theorem prepend (single : Single tokens statement) (first : tokens.head? ≠ some semicolon)
    {front : List Token} (undivided : semicolon ∉ front) :
    Single (front ++ tokens) (front ++ statement) := by
  obtain ⟨j, rfl⟩ := single.begins first
  refine ⟨?_, ?_, 0, j, by simp⟩
  · simp [single.nonempty]
  · simp [undivided, single.undivided]

/-- Behind other tokens there is no semicolon before the statement. -/
theorem of_prepend (single : Single tokens statement) {front : List Token} (some_front : front ≠ [])
    (undivided : semicolon ∉ front) (whole : Single (front ++ tokens) other) :
    tokens.head? ≠ some semicolon ∧ other = front ++ statement := by
  have same : other = front ++ statement := by
    rw [whole.eq_filter, List.filter_append, filter_undivided undivided, ← single.eq_filter]
  refine ⟨fun first => ?_, same⟩
  obtain ⟨j, split⟩ := whole.begins (head_ne_semicolon some_front undivided tokens)
  rw [same, List.append_assoc, List.append_cancel_left_eq] at split
  cases begun : statement with
  | nil => exact single.nonempty begun
  | cons token rest =>
      rw [split, begun] at first
      obtain rfl : token = semicolon := Option.some.inj first
      exact single.undivided (begun ▸ List.mem_cons_self)

/-- Between other tokens there is no semicolon. -/
theorem between {front back : List Token} (some_front : front ≠ [])
    (some_back : back ≠ []) (undivided : semicolon ∉ front) (undivided' : semicolon ∉ back)
    (whole : Single (front ++ (tokens ++ back)) statement) :
    semicolon ∉ tokens ∧ statement = front ++ (tokens ++ back) := by
  have closes : (front ++ (tokens ++ back)).getLast? ≠ some semicolon := by
    rw [← List.append_assoc, List.getLast?_append_of_ne_nil _ some_back]
    exact fun last => undivided' (List.mem_of_getLast? last)
  obtain ⟨j, split⟩ := whole.begins (head_ne_semicolon some_front undivided _)
  have none_behind : j = 0 := by
    cases j with
    | zero => rfl
    | succ j =>
        rw [split, List.replicate_succ', ← List.append_assoc] at closes
        exact absurd List.getLast?_concat closes
  subst none_behind
  rw [List.replicate_zero, List.append_nil] at split
  refine ⟨fun member => whole.undivided ?_, split.symm⟩
  rw [← split]
  simp [member]

end Single

/-! ### Readings of texts in a row -/

theorem Apart.of_first {first : List Char} (stops : first.getLast?.any separates = true)
    (ink : (first.reverse.dropWhile isBlank).head? ≠ some '\'') (second : List Char) :
    Apart first second := ⟨.inl stops, .inl ink⟩

theorem Apart.of_second {second : List Char} (opens : second.head?.any separates = true)
    (ink : (second.dropWhile isBlank).head? ≠ some '\'') (first : List Char) :
    Apart first second := ⟨.inr opens, .inr ink⟩

/-- Every phrase ends in a blank or an opening parenthesis behind a keyword, name or comma. -/
theorem phrases_stop : ∀ phrase ∈ phrases, phrase.toList.getLast?.any separates = true ∧
    (phrase.toList.reverse.dropWhile isBlank).head? ≠ some '\'' := by
  decide +kernel

namespace Dialect
variable (dialect : Dialect Row)

theorem read_phrase_append {phrase : String} {tokens : List Token} (listed : phrase ∈ phrases)
    (lexed : lex phrase = some tokens) (rest : List Char) :
    dialect.read (phrase.toList ++ rest) = (dialect.read rest).map (Reading.after tokens) := by
  obtain ⟨stops, ink⟩ := phrases_stop phrase listed
  exact dialect.read_append (dialect.read_phrase listed lexed) (.of_first stops ink rest)

theorem read_name_append {name : String} (names : dialect.Names name) {rest : List Char}
    (opens : rest.head?.any separates = true)
    (ink : (rest.dropWhile isBlank).head? ≠ some '\'') :
    dialect.read ((quoteIdent name).toList ++ rest) =
      (dialect.read rest).map (Reading.after [named name]) :=
  dialect.read_append (dialect.read_name names) (.of_second opens ink _)

/-- Names with commas between them, at the end of a text or in front of a semicolon. -/
theorem read_names {names : List String} (known : ∀ c ∈ names, dialect.Names c)
    (nonempty : names ≠ []) {rest : List Char} (ends : rest = [] ∨ rest = [';']) :
    dialect.read ((", ".intercalate (names.map quoteIdent)).toList ++ rest) =
      (dialect.read rest).map
        (Reading.after (joined [.symbol ','] (names.map ([named ·])))) := by
  induction names with
  | nil => exact absurd rfl nonempty
  | cons name names ih =>
      obtain ⟨here, later⟩ := List.forall_mem_cons.mp known
      cases names with
      | nil =>
          have alone : ", ".intercalate ([name].map quoteIdent) = quoteIdent name :=
            String.intercalate_singleton
          rw [alone]
          rcases ends with rfl | rfl
          · rw [List.append_nil, dialect.read_name here, dialect.read_nil]
            rfl
          · exact dialect.read_name_append here rfl (by decide)
      | cons next others =>
          have split : ", ".intercalate ((name :: next :: others).map quoteIdent) =
              quoteIdent name ++ (", " ++ ", ".intercalate ((next :: others).map quoteIdent)) := by
            rw [List.map_cons, String.intercalate_cons_of_ne_nil (by simp), String.append_assoc]
          have comma : (", " : String).toList = [',', ' '] := rfl
          rw [split, String.toList_append, String.toList_append, List.append_assoc,
            List.append_assoc]
          rw [dialect.read_name_append here (by rw [comma]; rfl)
            (by rw [comma]; change some ',' ≠ some '\''; decide),
            dialect.read_phrase_append (by decide) rfl, ih later (by simp)]
          cases dialect.read rest with
          | none => rfl
          | some reading => rfl

end Dialect

end Datapress.Wrapping
