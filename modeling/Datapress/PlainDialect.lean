import Std.Data.String.ToNat
import Datapress.Dialect

/-! A dialect with one dataset of two rows. Its texts have the tokens of `SqlText`, semicolons and
comments. -/
namespace Datapress.Wrapping
open SqlText
namespace PlainDialect

/-! ### The lexer -/

inductive Mode where
  | code (mode : SqlText.Mode)
  /-- A minus; one alone has no token. -/
  | dash
  | comment

def step : Mode → Char → Option (List Token × Mode)
  | .code mode, c =>
    match SqlText.step mode c with
    | some (tokens, next) => some (tokens, .code next)
    | none =>
      if c = ';' then (pending mode).map fun last => (last ++ [semicolon], .code .between)
      else if c = '-' then (pending mode).map fun last => (last, .dash)
      else none
  | .dash, c => if c = '-' then some ([], .comment) else none
  | .comment, c => if c = '\n' ∨ c = '\r' then some ([], .code .between) else some ([], .comment)

def run : Mode → List Char → Option (List Token × Mode)
  | mode, [] => some ([], mode)
  | mode, c :: rest => do
    let (first, mode) ← step mode c
    let (later, mode) ← run mode rest
    some (first ++ later, mode)

def ended : Mode → Option Reading
  | .code mode => (pending mode).map (·, false)
  | .dash => none
  | .comment => some ([], true)

def read (text : List Char) : Option Reading := do
  let (tokens, mode) ← run (.code .between) text
  let last ← ended mode
  some (last.after tokens)

theorem run_cons (mode : Mode) (c : Char) (rest : List Char) :
    run mode (c :: rest) = (step mode c).bind fun out =>
      (run out.2 rest).map fun next => (out.1 ++ next.1, next.2) := by
  rw [run]
  cases step mode c with
  | none => rfl
  | some out => cases found : run out.2 rest <;> simp [found]

theorem run_append (mode : Mode) (first second : List Char) :
    run mode (first ++ second) = (run mode first).bind fun out =>
      (run out.2 second).map fun next => (out.1 ++ next.1, next.2) := by
  induction first generalizing mode with
  | nil => simp [run]
  | cons c rest ih =>
      rw [List.cons_append, run_cons, run_cons]
      cases step mode c with
      | none => rfl
      | some out =>
          simp only [Option.bind_some, ih]
          cases run out.2 rest with
          | none => rfl
          | some middle => cases found : run middle.2 second <;> simp [found]

theorem read_iff {text : List Char} {tokens : List Token} {comment : Bool} :
    read text = some (tokens, comment) ↔ ∃ before mode last,
      run (.code .between) text = some (before, mode) ∧ ended mode = some (last, comment) ∧
        before ++ last = tokens := by
  unfold read
  simp only [Option.bind_eq_bind, Option.bind_eq_some_iff, Option.some_inj, Reading.after]
  constructor
  · rintro ⟨⟨before, mode⟩, ran, ⟨last, _⟩, ends, same⟩
    cases same
    exact ⟨before, mode, last, ran, ends, rfl⟩
  · rintro ⟨before, mode, last, ran, ends, rfl⟩
    exact ⟨(before, mode), ran, (last, comment), ends, rfl⟩

theorem run_code {mode next : SqlText.Mode} {text : List Char} {tokens : List Token}
    (ran : SqlText.run mode text = some (tokens, next)) :
    run (.code mode) text = some (tokens, .code next) := by
  induction text generalizing mode tokens with
  | nil =>
      cases ran
      rfl
  | cons c rest ih =>
      rw [SqlText.run_cons] at ran
      obtain ⟨out, stepped, ran⟩ := Option.bind_eq_some_iff.mp ran
      obtain ⟨⟨later, last⟩, further, same⟩ := Option.map_eq_some_iff.mp ran
      cases same
      rw [run_cons, step, stepped]
      dsimp only
      rw [Option.bind_some, ih further]
      rfl

/-- A text of tokens alone is read as these. -/
theorem read_lex {text : String} {tokens : List Token} (lexed : lex text = some tokens) :
    read text.toList = some (tokens, false) := by
  obtain ⟨before, mode, last, ran, pends, rfl⟩ := lex_iff.mp lexed
  refine read_iff.mpr ⟨before, .code mode, last, run_code ran, ?_, rfl⟩
  rw [ended, pends]
  rfl

/-- A separator ends what is pending. -/
theorem step_separates {mode : SqlText.Mode} {last : List Token} {c : Char}
    (pends : pending mode = some last) (ends : separates c = true) :
    ∃ mark, step (.code .between) c = some (mark, .code .between) ∧
      step (.code mode) c = some (last ++ mark, .code .between) := by
  rw [separates, Bool.or_eq_true, decide_eq_true_eq] at ends
  rcases ends with rfl | known
  · refine ⟨[semicolon], rfl, ?_⟩
    have unknown : SqlText.step mode ';' = none := by
      have noSeparator : separator ';' = none := rfl
      have noToken : continued mode ';' = none := by
        cases mode with
        | quoted mark text => cases pends
        | closed mark text => cases mark <;> rfl
        | between => rfl
        | word text => rfl
        | operator text => rfl
        | placeholder text => rfl
      rw [SqlText.step, noToken, noSeparator, pends]
      rfl
    rw [step, unknown, pends]
    rfl
  · obtain ⟨mark, found⟩ := Option.isSome_iff_exists.mp known
    have opened : SqlText.step .between c = some ([] ++ mark, .between) :=
      step_separator rfl found
    have stepped := step_separator pends found
    exact ⟨mark, by rw [step, opened]; rfl, by rw [step, stepped]⟩

/-- Behind a separator nothing is pending. -/
theorem between_of_separates {mode next : Mode} {c : Char} {tokens last : List Token}
    (stepped : step mode c = some (tokens, next)) (ends : separates c = true)
    (closed : ended next = some (last, false)) : next = .code .between := by
  cases mode with
  | comment =>
      have line : ¬ (c = '\n' ∨ c = '\r') := by
        rintro (rfl | rfl) <;> exact absurd ends (by decide)
      rw [step, if_neg line] at stepped
      cases stepped
      cases closed
  | dash =>
      have other : c ≠ '-' := by
        rintro rfl
        exact absurd ends (by decide)
      rw [step, if_neg other] at stepped
      cases stepped
  | code mode =>
      cases pends : pending mode with
      | some last =>
          obtain ⟨_, _, found⟩ := step_separates pends ends
          rw [found] at stepped
          cases stepped
          rfl
      | none =>
          -- a quoted text goes on, a placeholder without a number has no token
          rw [step] at stepped
          split at stepped
          case h_1 tokens' next' found =>
              cases stepped
              obtain ⟨last', pends', _⟩ := Option.map_eq_some_iff.mp closed
              rw [separates, Bool.or_eq_true, decide_eq_true_eq] at ends
              rcases ends with rfl | known
              · exfalso
                cases mode with
                | quoted mark text =>
                    cases mark <;> (cases found; cases pends')
                | placeholder text =>
                    rw [SqlText.step, pends] at found
                    cases found
                | _ => cases pends
              · obtain ⟨mark, same⟩ := Option.isSome_iff_exists.mp known
                rw [between_of_step found same pends']
          case h_2 =>
              split at stepped
              · rw [pends] at stepped
                cases stepped
              · split at stepped
                · rw [pends] at stepped
                  cases stepped
                · cases stepped

theorem read_append {first second : List Char} {tokens : List Token}
    (reads : read first = some (tokens, false)) (apart : Apart first second) :
    read (first ++ second) = (read second).map (Reading.after tokens) := by
  obtain ⟨before, mode, last, ran, ends, rfl⟩ := read_iff.mp reads
  have later (same : run mode second =
      (run (.code .between) second).map fun next => (last ++ next.1, next.2)) :
      read (first ++ second) = (read second).map (Reading.after (before ++ last)) := by
    rw [read, read, run_append, ran, Option.bind_some, same]
    cases run (.code .between) second with
    | none => rfl
    | some next =>
        simp only [Option.map_some, Option.bind_eq_bind, Option.bind_some]
        cases ended next.2 <;> simp [Reading.after]
  apply later
  rcases apart.separated with stops | opens
  · obtain ⟨c, final, separated⟩ := (Option.any_eq_true _ _).mp stops
    obtain ⟨front, rfl⟩ := List.getLast?_eq_some_iff.mp final
    rw [run_append] at ran
    obtain ⟨middle, _, ran⟩ := Option.bind_eq_some_iff.mp ran
    obtain ⟨⟨_, _⟩, single, same⟩ := Option.map_eq_some_iff.mp ran
    cases same
    rw [run_cons] at single
    obtain ⟨out, stepped, single⟩ := Option.bind_eq_some_iff.mp single
    cases single
    obtain rest := between_of_separates stepped separated ends
    rw [rest] at ends ⊢
    cases ends
    cases run (.code .between) second <;> rfl
  · obtain ⟨c, final, separated⟩ := (Option.any_eq_true _ _).mp opens
    obtain ⟨rest, rfl⟩ := List.head?_eq_some_iff.mp final
    cases mode with
    | dash => cases ends
    | comment => cases ends
    | code mode =>
        obtain ⟨last', pends, same⟩ := Option.map_eq_some_iff.mp ends
        cases same
        obtain ⟨mark, fresh, stepped⟩ := step_separates pends separated
        rw [run_cons, run_cons, fresh, stepped, Option.bind_some, Option.bind_some]
        cases run (.code .between) rest <;> simp

theorem run_comment {text : List Char} (line : OneLine text) :
    run .comment text = some ([], .comment) := by
  induction text with
  | nil => rfl
  | cons c rest ih =>
      obtain ⟨⟨noFeed, noReturn⟩, line⟩ := List.forall_mem_cons.mp line
      have stays : step .comment c = some ([], .comment) :=
        if_neg fun breaks => breaks.elim noFeed noReturn
      rw [run_cons, stays, Option.bind_some, ih line]
      rfl

theorem read_comment {first second : List Char} {tokens : List Token}
    (reads : read first = some (tokens, true)) (line : OneLine second) :
    read (first ++ second) = some (tokens, true) := by
  obtain ⟨before, mode, last, ran, ends, rfl⟩ := read_iff.mp reads
  cases mode with
  | dash => cases ends
  | code mode =>
      obtain ⟨_, _, same⟩ := Option.map_eq_some_iff.mp ends
      cases same
  | comment =>
      cases ends
      refine read_iff.mpr ⟨before, .comment, [], ?_, rfl, rfl⟩
      rw [run_append, ran, Option.bind_some, run_comment line]
      simp

/-! ### The queries -/

/-- The queries on a dataset `t` with the column `a`, with a clause behind which none stands or
without, and their rows. -/
inductive Derives : Bool → List Token → List Nat → Prop where
  | all : Derives false [.word "SELECT", .word "a", .word "FROM", .word "t"] [2, 1]
  | subquery {tailed query rows} name (listed : name = "_m" ∨ name = "_dp") :
      Derives tailed query rows → Derives false (derived [.operator "*"] query name) rows
  | json {tailed query rows} : Derives tailed query rows →
      Derives false (derived (jsonOf "_dp") query "_dp") rows
  | order {query rows names} : Derives false query rows → names ≠ [] → (∀ c ∈ names, c = "a") →
      Derives true (query ++ orderBy names) (rows.mergeSort (· ≤ ·))
  | limit {query rows} n : Derives false query rows →
      Derives true (query ++ limitTo n) (rows.take n)

theorem mem_orderBy {names : List String} {token : Token} (member : token ∈ orderBy names) :
    token = .word "ORDER" ∨ token = .word "BY" ∨ token = .symbol ',' ∨
      ∃ c ∈ names, token = named c := by
  rcases List.mem_cons.mp member with first | member
  · exact .inl first
  rcases List.mem_cons.mp member with second | member
  · exact .inr (.inl second)
  rcases mem_joined member with comma | ⟨tokens, listed, quoted⟩
  · exact .inr (.inr (.inl (List.mem_singleton.mp comma)))
  · obtain ⟨c, among, rfl⟩ := List.mem_map.mp listed
    exact .inr (.inr (.inr ⟨c, among, List.mem_singleton.mp quoted⟩))

theorem orderBy_ends {names : List String} (nonempty : names ≠ []) :
    ∃ front c, orderBy names = front ++ [named c] := by
  have ends : ∃ front c, joined [.symbol ','] (names.map ([named ·])) = front ++ [named c] := by
    induction names with
    | nil => exact absurd rfl nonempty
    | cons name names ih =>
        cases names with
        | nil => exact ⟨[], name, rfl⟩
        | cons next others =>
            obtain ⟨front, c, same⟩ := ih (List.cons_ne_nil _ _)
            refine ⟨[named name, .symbol ','] ++ front, c, ?_⟩
            rw [List.append_assoc, ← same]
            rfl
  obtain ⟨front, c, same⟩ := ends
  exact ⟨.word "ORDER" :: .word "BY" :: front, c, by rw [orderBy, same]; rfl⟩

theorem orderBy_ne_limitTo {query other : List Token} {names : List String} {n : Nat}
    (nonempty : names ≠ []) : query ++ orderBy names ≠ other ++ limitTo n := by
  intro same
  obtain ⟨front, c, quoted⟩ := orderBy_ends nonempty
  have last := congrArg List.getLast? same
  rw [quoted, ← List.append_assoc, List.getLast?_concat, limitTo, List.append_cons,
    List.getLast?_concat] at last
  cases last

/-- An order behind a query is told from the query. -/
theorem orderBy_split {query other : List Token} {names names' : List String}
    (same : query ++ orderBy names = other ++ orderBy names') :
    query = other ∧ ∀ c, c ∈ names ↔ c ∈ names' := by
  have alone {front : List Token} {names names' : List String}
      (split : orderBy names = front ++ orderBy names') : front = [] := by
    cases front with
    | nil => rfl
    | cons token front =>
        have tails := (List.cons.inj split).2
        have member : Token.word "ORDER" ∈ Token.word "BY" ::
            joined [.symbol ','] (names.map ([named ·])) := by
          rw [tails]
          simp [orderBy]
        rcases List.mem_cons.mp member with by_word | member
        · exact absurd by_word (by decide)
        · rcases mem_joined member with comma | ⟨tokens, listed, quoted⟩
          · exact absurd comma (by decide)
          · obtain ⟨c, _, rfl⟩ := List.mem_map.mp listed
            exact absurd (List.mem_singleton.mp quoted) (by simp [named])
  have named_iff {names : List String} {c : String} : named c ∈ orderBy names ↔ c ∈ names := by
    constructor
    · intro member
      rcases mem_orderBy member with first | second | comma | ⟨d, among, quoted⟩
      · cases first
      · cases second
      · cases comma
      · cases quoted
        exact among
    · intro member
      have quoted : named c ∈ (joined [.symbol ','] (names.map ([named ·]))).filter
          (fun token => token matches .quoted _ _) := by
        rw [filter_joined rfl, List.mem_flatMap]
        exact ⟨[named c], List.mem_map.mpr ⟨c, member, rfl⟩, List.mem_singleton_self _⟩
      exact List.mem_cons_of_mem _ (List.mem_cons_of_mem _ (List.mem_filter.mp quoted).1)
  have equal : query = other := by
    rcases List.append_eq_append_iff.mp same with ⟨front, rfl, split⟩ | ⟨front, rfl, split⟩
    · rw [alone split, List.append_nil]
    · rw [alone split, List.append_nil]
  rw [equal, List.append_cancel_left_eq] at same
  exact ⟨equal, fun c => by rw [← named_iff, ← named_iff, same]⟩

namespace Derives

variable {tailed : Bool} {query : List Token} {rows : List Nat}

theorem balanced (derives : Derives tailed query rows) : nesting 0 query = some 0 := by
  have derived_matched {items query : List Token} {name : String}
      (opens : nesting 0 (.word "SELECT" :: items ++ [.word "FROM", .symbol '(']) = some 1)
      (inner : nesting 0 query = some 0) : nesting 0 (derived items query name) = some 0 := by
    have split : derived items query name =
        (.word "SELECT" :: items ++ [.word "FROM", .symbol '(']) ++
          (query ++ [.symbol ')', .word "AS", .word name]) := by
      simp [derived]
    have inside : nesting 1 query = some 1 := nesting_of_matched 1 inner
    rw [split, nesting_append, opens, Option.bind_some, nesting_append, inside]
    rfl
  induction derives with
  | all => rfl
  | subquery _ _ _ ih => exact derived_matched rfl ih
  | json _ ih => exact derived_matched rfl ih
  | @order _ _ names _ _ _ ih =>
      rw [nesting_append, ih, Option.bind_some]
      refine nesting_plain (fun token member => ?_) 0
      rcases mem_orderBy member with rfl | rfl | rfl | ⟨_, _, rfl⟩ <;> simp [named]
  | limit n _ ih =>
      rw [nesting_append, ih]
      rfl

theorem ends_false (derives : Derives false query rows) :
    ∃ front mark name, query = front ++ [.word mark, .word name] ∧ mark ≠ "LIMIT" := by
  cases derives with
  | all => exact ⟨[.word "SELECT", .word "a"], "FROM", "t", rfl, by decide⟩
  | subquery name _ _ => exact ⟨_, "AS", name, List.append_cons _ (Token.symbol ')') _, by decide⟩
  | json _ => exact ⟨_, "AS", "_dp", List.append_cons _ (Token.symbol ')') _, by decide⟩

theorem not_both {others : List Nat} (derives : Derives true query rows) :
    ¬ Derives false query others := by
  intro other
  obtain ⟨front, mark, name, ends, noLimit⟩ := other.ends_false
  have last := congrArg List.getLast? ends
  rw [List.append_cons, List.getLast?_concat] at last
  cases derives with
  | @order query _ names _ nonempty _ =>
      obtain ⟨front', c, quoted⟩ := orderBy_ends nonempty
      rw [quoted, ← List.append_assoc, List.getLast?_concat] at last
      cases last
  | @limit query _ n _ =>
      obtain ⟨_, same⟩ := List.append_inj' ends rfl
      exact noLimit (Token.word.inj (List.cons.inj same).1).symm

theorem order_iff {names : List String} (nonempty : names ≠ [])
    (derives : Derives tailed (query ++ orderBy names) rows) :
    ∃ rows, Derives false query rows ∧ ∀ c ∈ names, c = "a" := by
  obtain ⟨front, c, quoted⟩ := orderBy_ends nonempty
  cases tailed with
  | false =>
      obtain ⟨front', mark, name, ends, _⟩ := derives.ends_false
      have last := congrArg List.getLast? ends
      rw [quoted, ← List.append_assoc, List.getLast?_concat, List.append_cons,
        List.getLast?_concat] at last
      cases last
  | true =>
      generalize whole : query ++ orderBy names = tokens at derives
      cases derives with
      | @order query' rows names' derives _ known =>
          obtain ⟨rfl, same⟩ := orderBy_split whole
          exact ⟨rows, derives, fun c member => known c ((same c).mp member)⟩
      | limit n _ => exact absurd whole (orderBy_ne_limitTo nonempty)

/-- Text behind a query is read in one way. -/
theorem derived_inj {items items' query query' : List Token} {name name' : String}
    (front : items.length = items'.length)
    (same : derived items query name = derived items' query' name') : query = query' := by
  have heads : (Token.word "SELECT" :: items ++ [Token.word "FROM", .symbol '(']).length =
      (Token.word "SELECT" :: items' ++ [Token.word "FROM", .symbol '(']).length := by
    simp [front]
  have split (items query : List Token) (name : String) : derived items query name =
      (.word "SELECT" :: items ++ [.word "FROM", .symbol '(']) ++
        (query ++ [.symbol ')', .word "AS", .word name]) := by
    simp [derived]
  rw [split, split] at same
  exact (List.append_inj' (List.append_inj same heads).2 rfl).1

theorem false_cases (derives : Derives false query rows) :
    (query[1]? = some (.word "a") ∧ rows = [2, 1]) ∨
      (∃ tailed inner name, query = derived [.operator "*"] inner name ∧
        Derives tailed inner rows) ∨
      ∃ tailed inner, query = derived (jsonOf "_dp") inner "_dp" ∧ Derives tailed inner rows := by
  cases derives with
  | all => exact .inl ⟨rfl, rfl⟩
  | subquery name _ inner => exact .inr (.inl ⟨_, _, name, rfl, inner⟩)
  | json inner => exact .inr (.inr ⟨_, _, rfl, inner⟩)

/-- A query has one list of rows. -/
theorem unique {tailed' : Bool} {rows' : List Nat} (derives : Derives tailed query rows)
    (derives' : Derives tailed' query rows') : rows = rows' := by
  induction derives generalizing tailed' rows' with
  | all =>
      cases tailed' with
      | true => exact absurd .all derives'.not_both
      | false =>
          rcases derives'.false_cases with ⟨_, rfl⟩ | ⟨_, _, _, same, _⟩ | ⟨_, _, same, _⟩
          · rfl
          · cases congrArg (·[1]?) same
          · have second : some (Token.word "a") = some (.word "to_json") :=
              congrArg (·[1]?) same
            exact absurd second (by decide)
  | subquery name listed inner ih =>
      cases tailed' with
      | true => exact absurd (inner.subquery name listed) derives'.not_both
      | false =>
          rcases derives'.false_cases with ⟨second, _⟩ | ⟨_, _, _, same, inner'⟩ | ⟨_, _, same, _⟩
          · cases second
          · obtain rfl := derived_inj rfl same
            exact ih inner'
          · cases congrArg (·[1]?) same
  | json inner ih =>
      cases tailed' with
      | true => exact absurd inner.json derives'.not_both
      | false =>
          rcases derives'.false_cases with ⟨second, _⟩ | ⟨_, _, _, same, _⟩ | ⟨_, _, same, inner'⟩
          · have second : some (Token.word "to_json") = some (.word "a") := second
            exact absurd second (by decide)
          · cases congrArg (·[1]?) same
          · obtain rfl := derived_inj rfl same
            exact ih inner'
  | @order query rows names inner nonempty known ih =>
      cases tailed' with
      | false => exact absurd derives' (inner.order nonempty known).not_both
      | true =>
          generalize whole : query ++ orderBy names = tokens at derives'
          cases derives' with
          | @order query' _ names' inner' _ _ =>
              obtain ⟨rfl, _⟩ := orderBy_split whole
              rw [ih inner']
          | limit n _ => exact absurd whole (orderBy_ne_limitTo nonempty)
  | @limit query rows n inner ih =>
      cases tailed' with
      | false => exact absurd derives' (inner.limit n).not_both
      | true =>
          generalize whole : query ++ limitTo n = tokens at derives'
          cases derives' with
          | order _ nonempty' _ => exact absurd whole.symm (orderBy_ne_limitTo nonempty')
          | @limit query' _ n' inner' =>
              obtain ⟨rfl, same⟩ := List.append_inj' whole rfl
              have number : toString n = toString n' :=
                Token.word.inj (List.cons.inj (List.cons.inj same).2).1
              obtain rfl := Nat.repr_injective number
              rw [ih inner']

/-- The last word of a query without a clause is a name. -/
theorem topLevel_ends (derives : Derives false query rows) :
    ∃ front token, topLevel 0 query = front ++ [token] ∧ labels token = false := by
  cases derives with
  | all => exact ⟨[.word "SELECT", .word "a", .word "FROM"], .word "t", rfl, by decide⟩
  | subquery name listed inner =>
      rw [topLevel_derived rfl inner.balanced]
      refine ⟨_, .word name, List.append_cons _ (Token.word "AS") _, ?_⟩
      rcases listed with rfl | rfl
      · decide
      · decide
  | json inner =>
      rw [topLevel_derived rfl inner.balanced]
      exact ⟨_, .word "_dp", List.append_cons _ (Token.word "AS") _, by decide⟩

theorem tailed_iff (derives : Derives tailed query rows) : Tailed query ↔ tailed = true := by
  have behind {query : List Token} {rows : List Nat} {word : String} {more : List Token}
      (inner : Derives false query rows)
      (clause : ["ORDER", "LIMIT", "OFFSET", "FETCH"].any (isKeyword · (.word word)) = true) :
      Tailed (query ++ .word word :: more) := by
    obtain ⟨front, token, whole, label⟩ := inner.topLevel_ends
    rw [Tailed, topLevel_append _ inner.balanced, whole, List.append_assoc]
    apply clauseFrom_append
    change (_ && !labels token || _) = true
    rw [clause, label]
    rfl
  cases derives with
  | all => exact iff_of_false (by unfold Tailed; decide) Bool.false_ne_true
  | subquery name listed inner =>
      exact iff_of_false (not_tailed_all listed inner.balanced) Bool.false_ne_true
  | json inner => exact iff_of_false (not_tailed_json inner.balanced) Bool.false_ne_true
  | order inner nonempty known => exact iff_of_true (behind inner (by decide)) rfl
  | limit n inner => exact iff_of_true (behind inner (by decide)) rfl

end Derives

open Classical in
/-- A query is one that is derived. -/
noncomputable def query (tokens : List Token) : Option (Table Nat) :=
  if found : ∃ tailed rows, Derives tailed tokens rows then
    some ⟨["a"], ["a"], fun _ => id, found.choose_spec.choose⟩
  else none

theorem query_eq_some {tokens : List Token} {table : Table Nat} :
    query tokens = some table ↔ ∃ tailed rows, Derives tailed tokens rows ∧
      table = ⟨["a"], ["a"], fun _ => id, rows⟩ := by
  unfold query
  split
  case isTrue found =>
    rw [Option.some_inj]
    constructor
    · rintro rfl
      exact ⟨_, _, found.choose_spec.choose_spec, rfl⟩
    · rintro ⟨_, rows, derives, rfl⟩
      rw [derives.unique found.choose_spec.choose_spec]
  case isFalse none =>
    refine iff_of_false (Option.some_ne_none table).symm ?_
    rintro ⟨tailed, rows, derives, _⟩
    exact none ⟨tailed, rows, derives⟩

theorem derives_of_isSome {tokens : List Token} (found : (query tokens).isSome) :
    ∃ tailed rows, Derives tailed tokens rows := by
  obtain ⟨table, returned⟩ := Option.isSome_iff_exists.mp found
  obtain ⟨tailed, rows, derives, _⟩ := query_eq_some.mp returned
  exact ⟨tailed, rows, derives⟩

end PlainDialect

open PlainDialect in
noncomputable def plainDialect : Dialect Nat where
  read := read
  query := query
  describe _ := none
  nests := true
  Names _ := True
  le names a b := names = [] ∨ a ≤ b
  toJson row := row
  read_nil := rfl
  read_append := read_append
  read_comment := read_comment
  read_phrase _ := read_lex
  names _ := trivial
  read_name _ := read_lex (lex_quoteIdent _)
  read_number n := read_lex (lex_number n)
  read_semicolon := rfl
  balanced found := by
    rcases found with found | none
    · obtain ⟨_, _, derives⟩ := derives_of_isSome found
      exact derives.balanced
    · cases none
  columns _ _ _ := trivial
  describe_select _ := rfl
  describe_no_query _ none := by cases none
  describe_no_subquery _ _ _ _ none := by cases none
  subquery {tokens table name} listed found := by
    rcases found with found | ⟨_, none⟩
    · obtain ⟨_, rows, derives, rfl⟩ := query_eq_some.mp found
      refine ⟨⟨["a"], ["a"], fun _ => id, rows⟩, ?_, .rfl, fun _ => id⟩
      exact query_eq_some.mpr ⟨_, _, derives.subquery name listed, rfl⟩
    · cases none
  subquery_json {tokens table} found := by
    rcases found with found | ⟨_, none⟩
    · obtain ⟨_, rows, derives, rfl⟩ := query_eq_some.mp found
      refine ⟨⟨["a"], ["a"], fun _ => id, rows⟩, ?_, by rw [List.map_id']⟩
      exact query_eq_some.mpr ⟨_, _, derives.json, rfl⟩
    · cases none
  order {tokens table names} found open_end _ nonempty known := by
    obtain ⟨tailed, rows, derives, rfl⟩ := query_eq_some.mp found
    cases tailed with
    | true => exact absurd (derives.tailed_iff.mpr rfl) open_end
    | false =>
        have ordered := derives.order nonempty fun c member => List.mem_singleton.mp (known c member)
        refine ⟨_, query_eq_some.mpr ⟨_, _, ordered, rfl⟩, List.mergeSort_perm .., ?_⟩
        have sorted : (rows.mergeSort fun a b => decide (a ≤ b)).Pairwise fun a b =>
            decide (a ≤ b) = true :=
          List.pairwise_mergeSort (fun a b c => by simpa using Nat.le_trans)
            (fun a b => by simpa using Nat.le_total a b) rows
        exact sorted.imp fun le => .inr (of_decide_eq_true le)
  order_tailed {tokens names} found tailed nonempty := by
    obtain ⟨_, rows, derives⟩ := derives_of_isSome found
    rw [← Option.not_isSome_iff_eq_none]
    intro ordered
    obtain ⟨_, _, derives'⟩ := derives_of_isSome ordered
    obtain ⟨_, inner, _⟩ := derives'.order_iff nonempty
    rw [inner.tailed_iff] at tailed
    cases tailed
  limit {tokens table} n found open_end := by
    obtain ⟨tailed, rows, derives, rfl⟩ := query_eq_some.mp found
    cases tailed with
    | true => exact absurd (derives.tailed_iff.mpr rfl) open_end
    | false =>
        refine ⟨_, query_eq_some.mpr ⟨_, _, derives.limit n, rfl⟩, ?_, ?_⟩
        · exact List.length_take_le n rows
        · exact (List.take_sublist n rows).subperm
  le_nil _ _ := .inl rfl

end Datapress.Wrapping
